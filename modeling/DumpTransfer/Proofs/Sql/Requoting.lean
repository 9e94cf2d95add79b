import DumpTransfer.Proofs.Sql.Partitions
import Mathlib.Data.List.Chain

/-! Names between back quotes get double quotes, and all else in a statement stays. A run of code
is read as signs and names; quoting anew changes the quotes of the names and leaves every run where
it is. Only names that touch are read as one afterwards.
-/

namespace DumpTransfer.Sql.QuotedName

-----------------------------------------------------------------------------------------
-- Tokens
-----------------------------------------------------------------------------------------

/-- A piece of a run of code. -/
inductive Token where
  /-- A character outside names. -/
  | sign (char : Char)
  /-- A name between two quotes. -/
  | name (quote : Char) (name : Text)
  /-- A name that does not end. -/
  | unclosed (quote : Char) (name : Text)
  deriving DecidableEq, Repr

/-- Characters that begin and end names. -/
def isQuote (char : Char) : Bool :=
  char = '`' || char = '"'

namespace Token

/-- A quote in a name is written twice. -/
def written : Token → Text
  | sign char => [char]
  | name quote spelling => nameText quote spelling
  | unclosed quote spelling => quote :: Text.doubling quote spelling

/-- The same with double quotes in the place of back quotes. -/
def requoted : Token → Token
  | .name '`' spelling => .name '"' spelling
  | .unclosed '`' spelling => .unclosed '"' spelling
  | other => other

def isSign : Token → Bool
  | sign _ => true
  | name _ _ | unclosed _ _ => false

def isClosed : Token → Bool
  | sign _ | name _ _ => true
  | unclosed _ _ => false

end Token

/-- The text of tokens. -/
def spelled (tokens : List Token) : Text :=
  tokens.flatMap Token.written

/-- What a name says of which the first quote has been passed, and the text after its last quote, if
it has one. A quote written twice is one quote of the name.
-/
def readName (quote : Char) : Text → Text × Option Text
  | [] => ([], none)
  | [char] => if char = quote then ([], some []) else ([char], none)
  | char :: next :: rest =>
      if char = quote then
        if next = quote then (readName quote rest).map (quote :: ·) id
        else ([], some (next :: rest))
      else (readName quote (next :: rest)).map (char :: ·) id

variable {quote : Char} {text after name : Text}

/-- A name ends with the first of its quotes that is not written twice. -/
theorem readName_closed (closed : (readName quote text).2 = some after)
    : text = Text.doubling quote (readName quote text).1 ++ quote :: after
      ∧ after.head? ≠ some quote := by
  fun_induction readName quote text with
  | case1 | case3 => cases closed
  | case2 =>
      obtain rfl := Option.some.inj closed
      exact ⟨rfl, by simp⟩
  | case4 rest ih =>
      obtain ⟨split, apart⟩ := ih closed
      refine ⟨?_, apart⟩
      rw [Prod.map_fst, Text.doubling, if_pos rfl, List.cons_append, List.cons_append, ← split]
  | case5 next rest other =>
      obtain rfl := Option.some.inj closed
      exact ⟨rfl, by simpa using other⟩
  | case6 char next rest other ih =>
      obtain ⟨split, apart⟩ := ih closed
      refine ⟨?_, apart⟩
      rw [Prod.map_fst, Text.doubling, if_neg other, List.cons_append, ← split]

/-- A name that does not end goes to the end of the text. -/
theorem readName_unclosed (unclosed : (readName quote text).2 = none)
    : text = Text.doubling quote (readName quote text).1 := by
  fun_induction readName quote text with
  | case1 => rfl
  | case2 | case5 => cases unclosed
  | case3 char other => rw [Text.doubling, if_neg other, Text.doubling]
  | case4 rest ih => rw [Prod.map_fst, Text.doubling, if_pos rfl, ← ih unclosed]
  | case6 char next rest other ih =>
      rw [Prod.map_fst, Text.doubling, if_neg other, ← ih unclosed]

/-- Any other character is one of the name. -/
theorem readName_other {char : Char} (other : char ≠ quote) (rest : Text)
    : readName quote (char :: rest) = (readName quote rest).map (char :: ·) id := by
  cases rest <;> simp [readName, other]

/-- A quote written twice is one of the name. -/
theorem readName_twice (quote : Char) (rest : Text)
    : readName quote (quote :: quote :: rest) = (readName quote rest).map (quote :: ·) id := by
  simp [readName]

theorem readName_doubling (quote : Char) (name : Text) {after : Text}
    (apart : after.head? ≠ some quote)
    : readName quote (Text.doubling quote name ++ quote :: after) = (name, some after) := by
  induction name with
  | nil =>
      cases after with
      | nil => simp [Text.doubling, readName]
      | cons next rest =>
          have other : next ≠ quote := by simpa using apart
          simp [Text.doubling, readName, other]
  | cons char more ih =>
      by_cases same : char = quote
      · rw [same, Text.doubling, if_pos rfl, List.cons_append, List.cons_append, readName_twice, ih]
        rfl
      · rw [Text.doubling, if_neg same, List.cons_append, readName_other same, ih]
        rfl

theorem length_after_lt (closed : (readName quote text).2 = some after)
    : after.length < text.length := by
  have split := congrArg List.length (readName_closed closed).1
  simp only [List.length_append, List.length_cons] at split
  omega

/-- The tokens of a run of code. -/
def tokens : Text → List Token
  | [] => []
  | char :: rest =>
      if isQuote char then
        match _closed : (readName char rest).2 with
        | some after => .name char (readName char rest).1 :: tokens after
        | none => [.unclosed char (readName char rest).1]
      else .sign char :: tokens rest
  termination_by text => text.length
  decreasing_by
    · exact Nat.lt_succ_of_lt (length_after_lt _closed)
    · exact Nat.lt_succ_self _

theorem tokens_sign {char : Char} (sign : isQuote char = false) (rest : Text)
    : tokens (char :: rest) = .sign char :: tokens rest := by
  rw [tokens, if_neg (by simp [sign])]

theorem tokens_closed (isName : isQuote quote = true)
    (closed : (readName quote text).2 = some after)
    : tokens (quote :: text) = .name quote (readName quote text).1 :: tokens after := by
  rw [tokens, if_pos isName]
  split
  · rename_i found same
    obtain rfl : found = after := Option.some.inj (same.symm.trans closed)
    rfl
  · rename_i none
    cases none.symm.trans closed

theorem tokens_unclosed (isName : isQuote quote = true)
    (unclosed : (readName quote text).2 = none)
    : tokens (quote :: text) = [.unclosed quote (readName quote text).1] := by
  rw [tokens, if_pos isName]
  split
  · rename_i found same
    cases same.symm.trans unclosed
  · rfl

-----------------------------------------------------------------------------------------
-- Tokens that are read as they are written
-----------------------------------------------------------------------------------------

@[simp] theorem spelled_nil
    : spelled [] = [] :=
  rfl

@[simp] theorem spelled_cons (token : Token) (rest : List Token)
    : spelled (token :: rest) = token.written ++ spelled rest :=
  List.flatMap_cons

/-- Tokens that can be told apart: a name is not followed by its own quote, and nothing follows a
name that does not end.
-/
inductive Readable : List Token → Prop where
  | nil : Readable []
  | sign {char : Char} {rest : List Token} (plain : isQuote char = false) (later : Readable rest)
      : Readable (.sign char :: rest)
  | name {quote : Char} {name : Text} {rest : List Token} (isName : isQuote quote = true)
      (apart : (spelled rest).head? ≠ some quote) (later : Readable rest)
      : Readable (.name quote name :: rest)
  | unclosed {quote : Char} {name : Text} (isName : isQuote quote = true)
      : Readable [.unclosed quote name]

/-- A run of code is made up of its tokens, which can be told apart. By induction on the way it is
read.
-/
theorem tokens_read (text : Text)
    : spelled (tokens text) = text ∧ Readable (tokens text) := by
  induction text using tokens.induct with
  | case1 => exact ⟨by simp [tokens], by simpa [tokens] using .nil⟩
  | case2 char rest isName after closed ih =>
      obtain ⟨split, apart⟩ := readName_closed closed
      rw [tokens_closed isName closed]
      refine ⟨?_, .name isName (by rwa [ih.1]) ih.2⟩
      rw [spelled_cons, ih.1, Token.written, nameText_append, ← split]
  | case3 char rest isName unclosed =>
      rw [tokens_unclosed isName unclosed]
      refine ⟨?_, .unclosed isName⟩
      rw [spelled_cons, spelled_nil, List.append_nil, Token.written, ← readName_unclosed unclosed]
  | case4 char rest sign ih =>
      have plain : isQuote char = false := by simpa using sign
      rw [tokens_sign plain]
      exact ⟨congrArg (char :: ·) ih.1, .sign plain ih.2⟩

/-- No name stands right next to another one. -/
def Apart (tokens : List Token) : Prop :=
  tokens.IsChain fun first second => first.isSign = true ∨ second.isSign = true

-----------------------------------------------------------------------------------------
-- Quoting anew
-----------------------------------------------------------------------------------------

theorem isQuote_iff {char : Char} : isQuote char = true ↔ char = '`' ∨ char = '"' := by
  simp [isQuote]

theorem Token.requoted_name (isName : isQuote quote = true) (name : Text)
    : (Token.name quote name).requoted = .name '"' name := by
  rcases isQuote_iff.mp isName with rfl | rfl <;> rfl

theorem Token.requoted_unclosed (isName : isQuote quote = true) (name : Text)
    : (unclosed quote name).requoted = unclosed '"' name := by
  rcases isQuote_iff.mp isName with rfl | rfl <;> rfl

/-- Tokens of a run of code: no sign opens a literal, and nothing follows a name that does not end.
-/
def Placed : List Token → Prop
  | [] => True
  | .sign char :: rest => char ≠ '\'' ∧ isQuote char = false ∧ Placed rest
  | .name quote _ :: rest => isQuote quote = true ∧ Placed rest
  | .unclosed quote _ :: rest => isQuote quote = true ∧ rest = []

theorem Placed.requoted {tokens : List Token} (placed : Placed tokens)
    : Placed (tokens.map Token.requoted) := by
  induction tokens with
  | nil => trivial
  | cons token rest ih =>
      cases token with
      | sign char => exact ⟨placed.1, placed.2.1, ih placed.2.2⟩
      | name quote spelling =>
          rw [List.map_cons, Token.requoted_name placed.1]
          exact ⟨rfl, ih placed.2⟩
      | unclosed quote spelling =>
          rw [List.map_cons, Token.requoted_unclosed placed.1]
          exact ⟨rfl, by simp [placed.2]⟩

/-- Every back quote of a text after a place stands in a name between double quotes or in a literal.
-/
def BackQuotesHidden (style : LiteralStyle) : Quoting → Text → Prop
  | _, [] => True
  | quoting, char :: rest =>
      (char = '`' → quoting = .name '"' ∨ quoting.inLiteral = true)
        ∧ BackQuotesHidden style (quoting.step style char) rest

variable {style : LiteralStyle} {quoting : Quoting}

theorem backQuotesHidden_append {first second : Text}
    : BackQuotesHidden style quoting (first ++ second)
      ↔ BackQuotesHidden style quoting first
        ∧ BackQuotesHidden style (quoting.after style first) second := by
  induction first generalizing quoting with
  | nil => simp [BackQuotesHidden, Quoting.after]
  | cons char rest ih => simp only [List.cons_append, BackQuotesHidden, ih, and_assoc]; rfl

theorem opens_name (isName : isQuote quote = true)
    : Quoting.code.step style quote = .name quote := by
  rcases isQuote_iff.mp isName with rfl | rfl <;> rfl

/-- A name leaves the place in it until its last quote, and no literal begins in it. -/
theorem after_doubling (style : LiteralStyle) (isName : isQuote quote = true) (name : Text)
    : Quoting.Keeps style false (.name quote) (Text.doubling quote name)
      ∧ (Quoting.name quote).after style (Text.doubling quote name) = .name quote := by
  have closes : (Quoting.name quote).step style quote = .code := if_pos rfl
  induction name with
  | nil => exact ⟨trivial, rfl⟩
  | cons char more ih =>
      by_cases same : char = quote
      · subst same
        rw [Text.doubling, if_pos rfl]
        simp only [Quoting.Keeps, Quoting.after, List.foldl_cons, closes, opens_name isName]
        exact ⟨⟨rfl, rfl, ih.1⟩, ih.2⟩
      · have stays : (Quoting.name quote).step style char = .name quote := if_neg same
        rw [Text.doubling, if_neg same]
        simp only [Quoting.Keeps, Quoting.after, List.foldl_cons, stays]
        exact ⟨⟨rfl, ih.1⟩, ih.2⟩

/-- The place in a name that does not end. -/
theorem after_unclosed (style : LiteralStyle) (isName : isQuote quote = true) (name : Text)
    : Quoting.Keeps style false .code (quote :: Text.doubling quote name)
      ∧ Quoting.code.after style (quote :: Text.doubling quote name) = .name quote := by
  have ⟨keeps, ends⟩ := after_doubling style isName name
  rw [Quoting.Keeps, Quoting.after, List.foldl_cons, opens_name isName]
  exact ⟨⟨rfl, keeps⟩, ends⟩

/-- The place after a name. -/
theorem after_name (style : LiteralStyle) (isName : isQuote quote = true) (name : Text)
    : Quoting.Keeps style false .code (nameText quote name)
      ∧ Quoting.code.after style (nameText quote name) = .code := by
  have ⟨keeps, ends⟩ := after_unclosed style isName name
  have closes : (Quoting.name quote).step style quote = .code := if_pos rfl
  rw [nameText, Quoting.keeps_append, Quoting.after_append, ends]
  refine ⟨⟨keeps, ?_, trivial⟩, closes⟩
  rw [closes]
  rfl

theorem after_sign (style : LiteralStyle) {char : Char} (noLiteral : char ≠ '\'')
    (plain : isQuote char = false)
    : Quoting.code.step style char = .code := by
  have noName : ¬ (char = '`' ∨ char = '"') := fun same => by simp [isQuote_iff.mpr same] at plain
  simp [Quoting.step, noLiteral, not_or.mp noName]

/-- No literal begins in tokens of code, and after them comes code unless a name does not end. -/
theorem Placed.walk {tokens : List Token} (placed : Placed tokens) (style : LiteralStyle)
    : Quoting.Keeps style false .code (spelled tokens)
      ∧ (Quoting.code.after style (spelled tokens) = .code
        ↔ ∀ token ∈ tokens, token.isClosed = true) := by
  induction tokens with
  | nil => exact ⟨trivial, by simp [Quoting.after]⟩
  | cons token rest ih =>
      rw [spelled_cons, Quoting.keeps_append, Quoting.after_append, List.forall_mem_cons]
      cases token with
      | sign char =>
          have next := after_sign style placed.1 placed.2.1
          obtain ⟨keeps, ends⟩ := ih placed.2.2
          simp only [Token.written, Quoting.Keeps, Quoting.after, List.foldl_cons, List.foldl_nil,
            next, Token.isClosed, true_and, and_true]
          exact ⟨⟨rfl, keeps⟩, ends⟩
      | name quote spelling =>
          obtain ⟨keepsName, endsName⟩ := after_name style placed.1 spelling
          obtain ⟨keeps, ends⟩ := ih placed.2
          rw [Token.written, endsName]
          exact ⟨⟨keepsName, keeps⟩, by simpa [Token.isClosed] using ends⟩
      | unclosed quote spelling =>
          obtain ⟨isName, rfl⟩ := placed
          obtain ⟨keeps, ends⟩ := after_unclosed style isName spelling
          rw [Token.written, ends]
          exact ⟨⟨keeps, trivial⟩, by simp [spelled, Quoting.after, Token.isClosed]⟩

/-- The tokens of a run of code stand in it as they may. -/
theorem Readable.placed {tokens : List Token} (readable : Readable tokens)
    (keeps : Quoting.Keeps style false .code (spelled tokens))
    : Placed tokens := by
  induction readable with
  | nil => trivial
  | @sign char rest plain later ih =>
      have noLiteral : char ≠ '\'' := by
        rintro rfl
        cases keeps.1
      have next := after_sign style noLiteral plain
      have keepsRest := keeps.2
      rw [next] at keepsRest
      exact ⟨noLiteral, plain, ih keepsRest⟩
  | @name quote name rest isName apart later ih =>
      rw [spelled_cons, Quoting.keeps_append, Token.written,
        (after_name style isName name).2] at keeps
      exact ⟨isName, ih keeps.2⟩
  | unclosed isName => exact ⟨isName, rfl⟩

/-- The tokens of a run of code stand in it as they may. -/
theorem placed_tokens {code : Text} (keeps : Quoting.Keeps style false .code code)
    : Placed (tokens code) := by
  have ⟨same, readable⟩ := tokens_read code
  exact readable.placed (same.symm ▸ keeps)

theorem BackQuotesHidden.place {text before after : Text}
    (hidden : BackQuotesHidden style quoting text) (split : text = before ++ '`' :: after)
    : quoting.after style before = .name '"' ∨ (quoting.after style before).inLiteral = true := by
  subst split
  exact (backQuotesHidden_append.mp hidden).2.1 rfl

/-- Two names that touch are one name afterwards. -/
example : requote "x = `a`\"b\"" = "x = \"a\"\"b\"" := by
  decide +kernel

end DumpTransfer.Sql.QuotedName
