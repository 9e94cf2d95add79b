import DumpTransfer.Sql.Segment

/-! Standard literals with the values of literals that have backslash escapes.
-/

namespace DumpTransfer.Sql.Literal

/-- The standard form of a backslash and the character after it. The null character has no
form and is left out, and the wildcards of patterns keep their backslash.
-/
def escapeForm (char : Char) : Text :=
  match char with
  | '\'' => ['\'', '\'']
  | 'n' => ['\n']
  | 'r' => ['\r']
  | 't' => ['\t']
  | 'Z' => ['\x1a']
  | '0' => []
  | '%' | '_' => ['\\', char]
  | other => [other]

/-- The standard form of what follows a place. -/
def normalizeFrom : Quoting → Text → Text
  | _, [] => []
  | .name close, char :: rest =>
      char :: normalizeFrom (if char = close then .code else .name close) rest
  | .escaped, char :: rest => escapeForm char ++ normalizeFrom .literal rest
  | .literal, char :: rest =>
      if char = '\\' then
        match rest with
        | [] => ['\\']
        | _ => normalizeFrom .escaped rest
      else char :: normalizeFrom (if char = '\'' then .code else .literal) rest
  | .code, char :: rest => char :: normalizeFrom (Quoting.code.step .backslash char) rest

/-- A statement with all its literals in standard form. -/
def normalize (statement : Text) : Text :=
  if statement.any (· = '\\') then normalizeFrom .code statement else statement

end DumpTransfer.Sql.Literal
