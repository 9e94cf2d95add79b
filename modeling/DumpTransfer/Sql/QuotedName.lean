import DumpTransfer.Sql.Segment

/-! Names between double quotes in the place of names between back quotes. -/

namespace DumpTransfer.Sql.QuotedName

/-- What a character of a run of code stands in. -/
inductive Place where
  | plain
  /-- A name between back quotes. -/
  | back
  /-- Right after a back quote that ends such a name or is half of one in it. -/
  | afterBack
  /-- A name between double quotes. -/
  | double
  deriving DecidableEq, Repr

/-- What a character outside quoted names becomes, and the place after it. -/
def stepPlain (char : Char) : Text × Place :=
  if char = '`' then (['"'], .back)
  else if char = '"' then (['"'], .double)
  else ([char], .plain)

/-- What a character becomes, and the place after it. -/
def step : Place → Char → Text × Place
  | .plain, char => stepPlain char
  | .double, char => ([char], if char = '"' then .plain else .double)
  | .back, char =>
      if char = '`' then ([], .afterBack)
      else if char = '"' then (['"', '"'], .back)
      else ([char], .back)
  | .afterBack, char =>
      if char = '`' then (['`'], .back)
      else
        let (settled, next) := stepPlain char
        ('"' :: settled, next)

/-- The standard form of what follows a place in a run of code. -/
def requoteFrom : Place → Text → Text
  | .afterBack, [] => ['"']
  | _, [] => []
  | place, char :: rest =>
      let (settled, next) := step place char
      settled ++ requoteFrom next rest

/-- A statement in standard style with double quotes around all quoted names. -/
def requote (statement : Text) : Text :=
  if statement.any (· = '`') then Segment.onCode .standard (requoteFrom .plain) statement
  else statement

end DumpTransfer.Sql.QuotedName
