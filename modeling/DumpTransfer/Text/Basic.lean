/-! Texts are lists of characters: the names, lines and statements that the library reads and
writes. String literals stand for texts by a coercion that proofs unfold only on request.
-/

namespace DumpTransfer

/-- Any piece of text that is read or written. -/
abbrev Text := List Char

namespace Text

/-- The characters of a string, in order. -/
@[irreducible] def ofString (string : String) : Text :=
  string.toList

theorem ofString_eq (string : String)
    : ofString string = string.toList := by
  with_unfolding_all rfl

/-- The string with the given characters. -/
def toString (text : Text) : String :=
  String.ofList text

instance : Coe String Text := ⟨ofString⟩

/-- A natural number in decimal notation. -/
def ofNat (number : Nat) : Text :=
  Nat.toDigits 10 number

/-- The number that digits stand for in decimal notation. -/
def toNat? (digits : Text) : Option Nat :=
  if digits.isEmpty || digits.any (! ·.isDigit) then none
  else some (digits.foldl (fun total digit => total * 10 + (digit.toNat - '0'.toNat)) 0)

/-- The value of a digit in notations with up to sixteen digits. -/
def digitValue? (char : Char) : Option Nat :=
  if char.isDigit then some (char.toNat - '0'.toNat)
  else if 'a' ≤ char && char ≤ 'f' then some (char.toNat - 'a'.toNat + 10)
  else if 'A' ≤ char && char ≤ 'F' then some (char.toNat - 'A'.toNat + 10)
  else none

/-- The number that digits stand for in the notation with a given number of digits. -/
def ofRadix? (radix : Nat) (digits : Text) : Option Nat :=
  if digits.isEmpty then none
  else
    digits.foldlM (fun total digit => do
      let value ← digitValue? digit
      if value < radix then some (total * radix + value) else none) 0

/-- The text after a given beginning, if the text has it. -/
def dropPrefix? : Text → Text → Option Text
  | text, [] => some text
  | [], _ :: _ => none
  | char :: rest, expected :: more => if char = expected then dropPrefix? rest more else none

/-- The number below a bound that a text gives in digits, with a plus sign or without. -/
def natural? (bound : Nat) (text : Text) : Option Nat :=
  (toNat? ((dropPrefix? text "+").getD text)).filter (· < bound)

/-- The number of bytes of the text in UTF-8. -/
def byteLength (text : Text) : Nat :=
  (text.map Char.utf8Size).foldr (· + ·) 0

/-- The longest initial part that takes at most the given number of bytes in UTF-8. -/
def takeBytes : Nat → Text → Text
  | _, [] => []
  | limit, char :: rest =>
      if char.utf8Size ≤ limit then char :: takeBytes (limit - char.utf8Size) rest else []

/-- The texts one after the other with a separator between each two. -/
def joinWith (separator : Text) : List Text → Text
  | [] => []
  | [last] => last
  | first :: second :: rest => first ++ separator ++ joinWith separator (second :: rest)

/-- Every occurrence of one character is written twice. -/
def doubling (quote : Char) : Text → Text
  | [] => []
  | char :: rest =>
      if char = quote then char :: char :: doubling quote rest
      else char :: doubling quote rest

/-- Every character that is written twice is written once. -/
def halving (quote : Char) : Text → Text
  | [] => []
  | [char] => [char]
  | first :: second :: rest =>
      if first = quote && second = quote then quote :: halving quote rest
      else first :: halving quote (second :: rest)

/-- The text without its longest ending of accepted characters. -/
def dropEndWhile (accepts : Char → Bool) (text : Text) : Text :=
  (text.reverse.dropWhile accepts).reverse

/-- The text without accepted characters at either end. -/
def trimWhile (accepts : Char → Bool) (text : Text) : Text :=
  dropEndWhile accepts (text.dropWhile accepts)

/-- The text before a given ending, if the text has it. -/
def dropSuffix? (text ending : Text) : Option Text :=
  (dropPrefix? text.reverse ending.reverse).map List.reverse

/-- Whether the text begins as given. -/
def startsWith (text beginning : Text) : Bool :=
  (dropPrefix? text beginning).isSome

/-- Whether the text ends as given. -/
def endsWith (text ending : Text) : Bool :=
  (dropSuffix? text ending).isSome

/-- Whether a part occurs anywhere in the text. -/
def includes : Text → Text → Bool
  | [], part => part.isEmpty
  | char :: rest, part => startsWith (char :: rest) part || includes rest part

/-- The number of occurrences of a nonempty part, counted from the left without overlap and
after passing over the given number of characters.
-/
def occurrencesAfter (part : Text) : Nat → Text → Nat
  | _, [] => 0
  | skipped + 1, _ :: rest => occurrencesAfter part skipped rest
  | 0, char :: rest =>
      if startsWith (char :: rest) part then 1 + occurrencesAfter part (part.length - 1) rest
      else occurrencesAfter part 0 rest

/-- The number of occurrences of a nonempty part, counted from the left without overlap. -/
def occurrences (text part : Text) : Nat :=
  occurrencesAfter part 0 text

/-- The parts between the separating characters, at least one. -/
def partsBetween (separates : Char → Bool) : Text → List Text
  | [] => [[]]
  | char :: rest =>
      if separates char then [] :: partsBetween separates rest
      else
        match partsBetween separates rest with
        | [] => [[char]]
        | first :: others => (char :: first) :: others

/-- ASCII letters in upper case, all else unchanged. -/
def asciiUpper (text : Text) : Text :=
  text.map Char.toUpper

/-- ASCII letters in lower case, all else unchanged. -/
def asciiLower (text : Text) : Text :=
  text.map Char.toLower

/-- Equality up to the case of ASCII letters. -/
def equalsIgnoringCase (left right : Text) : Bool :=
  asciiUpper left = asciiUpper right

/-- The text after a given beginning. -/
def prepend (beginning text : Text) : Text :=
  beginning ++ text

/-- The lines joined by line feeds. -/
def lines (parts : List Text) : Text :=
  joinWith ['\n'] parts

/-- The text followed by spaces up to a given number of characters. -/
def padRight (width : Nat) (text : Text) : Text :=
  text ++ List.replicate (width - text.length) ' '

end Text

end DumpTransfer
