import DumpTransfer.Text.Alphabet

/-! Patterns over texts with a preferred way of matching. Alternatives are tried in order and
repetitions take as much or as little as they are asked to; the first way in which the whole
pattern matches is the one reported, at the first place where there is one.
-/

namespace DumpTransfer

/-- A piece of a text: what lies before its end, from the nearest character on, and its length. -/
structure Span where
  before : Text
  length : Nat

/-- The text of a piece. -/
def Span.text (span : Span) : Text :=
  (span.before.take span.length).reverse

/-- A place in a text, with the groups recorded on the way to it. The part before the place is
kept from the nearest character on.
-/
structure Place where
  offset : Nat
  before : Text
  after : Text
  groups : List (String × Span)

namespace Place

/-- The place at the start of a text. -/
def start (text : Text) : Place :=
  ⟨0, [], text, []⟩

/-- The place after one more character. -/
def advance (place : Place) (char : Char) (rest : Text) : Place :=
  { place with offset := place.offset + 1, before := char :: place.before, after := rest }

/-- The piece between an earlier place and this one. -/
def spanSince (place earlier : Place) : Span :=
  ⟨place.before, place.offset - earlier.offset⟩

/-- The text between an earlier place and this one. -/
def textSince (place earlier : Place) : Text :=
  (place.spanSince earlier).text

/-- The place with a group recorded: the piece since an earlier place. -/
def record (place : Place) (label : String) (earlier : Place) : Place :=
  { place with groups := (label, place.spanSince earlier) :: place.groups }

/-- The text last recorded under a label. -/
def group? (place : Place) (label : String) : Option Text :=
  (place.groups.lookup label).map Span.text

/-- The text last recorded under a label, empty if there is none. -/
def group (place : Place) (label : String) : Text :=
  (place.group? label).getD []

end Place

/-- A shape of text. -/
inductive Pattern where
  /-- One accepted character. -/
  | one (accepts : Char → Bool)
  /-- As many accepted characters as the rest of the pattern allows. -/
  | run (accepts : Char → Bool)
  /-- As few accepted characters as the rest of the pattern allows. -/
  | shortRun (accepts : Char → Bool)
  /-- No text, at a place with a property. -/
  | check (holds : Place → Bool)
  | seq (first second : Pattern)
  /-- The first shape, or else the second. -/
  | alt (first second : Pattern)
  /-- The shape as many times as the rest of the pattern allows. -/
  | many (body : Pattern)
  /-- The shape, with its text recorded under a label. -/
  | group (label : String) (body : Pattern)

namespace Pattern

/-- What is left to match after some point, as a function of the place reached. -/
abbrev Continuation :=
  Place → Option Place

/-- Accepted characters, most first: with all that follow before with one less. -/
def runThen (accepts : Char → Bool) (next : Continuation) (place : Place) : Option Place :=
  go place.after place
where
  /-- The same, by recursion on the text after the place. -/
  go : Text → Continuation
    | [], place => next place
    | char :: rest, place =>
        if accepts char then
          match go rest (place.advance char rest) with
          | some reached => some reached
          | none => next place
        else next place

/-- Accepted characters, fewest first. -/
def shortRunThen (accepts : Char → Bool) (next : Continuation) (place : Place)
    : Option Place :=
  go place.after place
where
  /-- The same, by recursion on the text after the place. -/
  go : Text → Continuation
    | [], place => next place
    | char :: rest, place =>
        match next place with
        | some reached => some reached
        | none => if accepts char then go rest (place.advance char rest) else none

/-- At most the given number of repetitions that each consume text, most first. -/
def manyThen (body : Continuation → Continuation) (next : Continuation)
    : Nat → Continuation
  | 0, place => next place
  | bound + 1, place =>
      match body (fun reached =>
          if place.offset < reached.offset then manyThen body next bound reached
          else none) place with
      | some reached => some reached
      | none => next place

/-- The pattern at a place, followed by what is left to match. -/
def andThen : Pattern → Continuation → Continuation
  | one accepts, next, place =>
      match place.after with
      | [] => none
      | char :: rest => if accepts char then next (place.advance char rest) else none
  | run accepts, next, place => runThen accepts next place
  | shortRun accepts, next, place => shortRunThen accepts next place
  | check holds, next, place => if holds place then next place else none
  | seq first second, next, place => first.andThen (second.andThen next) place
  | alt first second, next, place =>
      match first.andThen next place with
      | some reached => some reached
      | none => second.andThen next place
  | many body, next, place => manyThen body.andThen next place.after.length place
  | group label body, next, place =>
      body.andThen (fun reached => next (reached.record label place)) place

instance : Append Pattern := ⟨seq⟩

instance : OrElse Pattern := ⟨fun first second => alt first (second ())⟩

/-- The shape or, failing that, nothing. -/
def optional (body : Pattern) : Pattern :=
  alt body (check fun _ => true)

/-- The shape at least once. -/
def oneOrMore (body : Pattern) : Pattern :=
  body ++ many body

/-- At least one accepted character, as many as the rest of the pattern allows. -/
def someOf (accepts : Char → Bool) : Pattern :=
  one accepts ++ run accepts

/-- A given character. -/
def char (expected : Char) : Pattern :=
  one (· = expected)

/-- Given characters one after the other. -/
def exactly (text : Text) : Pattern :=
  text.foldr (fun expected later => char expected ++ later) (check fun _ => true)

/-- Given letters in either case and other characters as they are. -/
def letters (word : String) : Pattern :=
  (Text.ofString word).foldr
    (fun expected later =>
      one (fun found => Alphabet.foldCase found = expected.toLower) ++ later)
    (check fun _ => true)

/-- Optional white space. -/
def blanks : Pattern :=
  run Alphabet.isBlank

/-- White space, at least one character of it. -/
def gap : Pattern :=
  someOf Alphabet.isBlank

/-- Words in either case with white space between them. -/
def words : List String → Pattern
  | [] => check fun _ => true
  | [last] => letters last
  | first :: second :: rest => letters first ++ gap ++ words (second :: rest)

/-- The first of several words that matches, in either case. -/
def anyWord : List String → Pattern
  | [] => check fun _ => false
  | [last] => letters last
  | first :: second :: rest => alt (letters first) (anyWord (second :: rest))

/-- The start of the text. -/
def textStart : Pattern :=
  check (·.before.isEmpty)

/-- The end of the text. -/
def textEnd : Pattern :=
  check (·.after.isEmpty)

/-- The start of a line. -/
def lineStart : Pattern :=
  check fun place => place.before.head?.all (· = '\n')

/-- A place with a word character on exactly one side. -/
def wordEdge : Pattern :=
  check fun place =>
    place.before.head?.any Alphabet.isWord != place.after.head?.any Alphabet.isWord

/-- A match: where it begins, the text passed over on the way, the text matched, the place
after it and the texts of its groups.
-/
structure Match where
  start : Nat
  skipped : Text
  matched : Text
  finish : Place

/-- The match that begins at a place, if there is one. -/
def matchAt? (pattern : Pattern) (place : Place) : Option Place :=
  pattern.andThen some place

/-- The place after a match at the start of a text, if there is one. -/
def matchStart? (pattern : Pattern) (text : Text) : Option Place :=
  pattern.matchAt? (.start text)

/-- The first match at a place or after it; the text passed over is given in reverse. -/
def findFrom (pattern : Pattern) (skipped : Text) : Text → Place → Option Match
  | after, place =>
      match pattern.matchAt? place with
      | some finish => some ⟨place.offset, skipped.reverse, finish.textSince place, finish⟩
      | none =>
          match after with
          | [] => none
          | char :: rest => pattern.findFrom (char :: skipped) rest (place.advance char rest)

/-- The first match in a text. -/
def find? (pattern : Pattern) (text : Text) : Option Match :=
  pattern.findFrom [] text (.start text)

/-- Whether the pattern matches anywhere in a text. -/
def occursIn (pattern : Pattern) (text : Text) : Bool :=
  (pattern.find? text).isSome

/-- The place to search on from after a match: after a match of no text, one character on. -/
def resume (found : Match) : Option (Text × Place) :=
  let place := { found.finish with groups := [] }
  match found.matched, found.finish.after with
  | _ :: _, _ => some ([], place)
  | [], [] => none
  | [], char :: rest => some ([char], place.advance char rest)

/-- At most the given number of matches, from the left and without overlap. -/
def findAllFrom (pattern : Pattern) : Nat → Place → List Match
  | 0, _ => []
  | bound + 1, place =>
      match pattern.findFrom [] place.after place with
      | none => []
      | some found =>
          match resume found with
          | none => [found]
          | some (_, next) => found :: pattern.findAllFrom bound next

/-- All matches in a text, from the left and without overlap. -/
def findAll (pattern : Pattern) (text : Text) : List Match :=
  pattern.findAllFrom (text.length + 1) (.start text)

/-- The text after a place with at most the given number of matches replaced. -/
def replaceFrom (pattern : Pattern) (replacement : Match → Text) : Nat → Place → Text
  | 0, place => place.after
  | bound + 1, place =>
      match pattern.findFrom [] place.after place with
      | none => place.after
      | some found =>
          found.skipped ++ replacement found ++
            match resume found with
            | none => []
            | some (kept, next) => kept ++ pattern.replaceFrom replacement bound next

/-- The text with every match replaced, from the left and without overlap. -/
def replaceAll (pattern : Pattern) (replacement : Match → Text) (text : Text) : Text :=
  pattern.replaceFrom replacement (text.length + 1) (.start text)

/-- The text without the matches of a pattern. -/
def removeAll (pattern : Pattern) (text : Text) : Text :=
  pattern.replaceAll (fun _ => []) text

end Pattern

end DumpTransfer
