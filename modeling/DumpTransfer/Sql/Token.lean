import DumpTransfer.Text.Alphabet

/-! The words, numbers, strings and signs that a statement consists of, as the dialect of the
dump separates them. White space and comments stand between tokens and are none.
-/

namespace DumpTransfer.Sql

/-- The smallest part of a statement. -/
inductive Token where
  /-- A bare word. -/
  | word (spelling : Text)
  /-- A name between back quotes. -/
  | quotedName (name : Text)
  | number (digits : Text)
  /-- A string between single quotes. -/
  | string (value : Text)
  /-- A string between double quotes. -/
  | doubleQuoted (value : Text)
  /-- A string marked as national. -/
  | national (value : Text)
  /-- A string marked as one with escapes. -/
  | escaped (value : Text)
  /-- Bytes in hexadecimal digits. -/
  | bytes (digits : Text)
  /-- A place for a value that is given later. -/
  | placeholder (digits : Text)
  | sign (spelling : String)
  deriving DecidableEq, Repr

namespace Token

/-- The capitals of a bare word, which decide whether it is a keyword; nothing for all else. -/
def keyword : Token → String
  | word spelling => Text.toString (spelling.flatMap Alphabet.capitals)
  | _ => ""

/-- Characters that begin a bare word. -/
def isWordStart (char : Char) : Bool :=
  Alphabet.isAlphabetic char || char = '_' || char = '$' || char = '@'
    || (0x80 ≤ char.toNat && char.toNat ≤ 0xFFFF)

/-- Characters of bare words. -/
def isWordPart (char : Char) : Bool :=
  isWordStart char || char.isDigit

/-- White space between tokens. -/
def isGap (char : Char) : Bool :=
  Alphabet.isBlank char

/-- Digits of bytes. -/
def isHexDigit (char : Char) : Bool :=
  char.isDigit || ('a' ≤ char.toLower && char.toLower ≤ 'f')

/-- The character that a backslash and a character stand for. -/
def unescaped : Char → Char
  | '0' => '\x00'
  | 'a' => '\x07'
  | 'b' => '\x08'
  | 'f' => '\x0c'
  | 'n' => '\n'
  | 'r' => '\r'
  | 't' => '\t'
  | 'Z' => '\x1a'
  | char => char

/-- The value of a string whose opening quote has been passed, and the text after its closing
quote. A quote that is written twice stands for itself.
-/
def stringBody? (quote : Char) : Text → Option (Text × Text)
  | [] => none
  | ['\\'] => none
  | '\\' :: char :: rest =>
      (stringBody? quote rest).map fun (value, after) => (unescaped char :: value, after)
  | [char] => if char = quote then some ([], []) else none
  | char :: next :: rest =>
      if char = quote then
        if next = quote then
          (stringBody? quote rest).map fun (value, after) => (quote :: value, after)
        else some ([], next :: rest)
      else (stringBody? quote (next :: rest)).map fun (value, after) => (char :: value, after)

/-- The character that a letter after a backslash stands for in a string with escapes. -/
def escapedLetter : Char → Char
  | 'b' => '\x08'
  | 'f' => '\x0c'
  | 'n' => '\n'
  | 'r' => '\r'
  | 't' => '\t'
  | char => char

/-- The character that a number of digits stands for, unless it is none or the null character. -/
def characterOf? (radix : Nat) (digits : Text) : Option Char := do
  let code ← Text.ofRadix? radix digits
  if code.isValidChar && code ≠ 0 then some (Char.ofNat code) else none

/-- The character after a backslash in a string with escapes, and how many characters it takes. -/
def escape? : Text → Option (Char × Nat)
  | [] => none
  | 'u' :: rest =>
      if rest.length < 4 then none
      else (characterOf? 16 (rest.take 4)).map fun char => (char, 5)
  | 'U' :: rest =>
      if rest.length < 8 then none
      else (characterOf? 16 (rest.take 8)).map fun char => (char, 9)
  | 'x' :: rest =>
      let digits := (rest.take 2).takeWhile isHexDigit
      if digits.isEmpty then some ('x', 1)
      else do
        let code ← Text.ofRadix? 16 digits
        if code = 0 || 128 ≤ code then none else some (Char.ofNat code, digits.length + 1)
  | char :: rest =>
      if '0' ≤ char && char ≤ '7' then do
        let digits := char :: (rest.take 2).takeWhile fun digit => '0' ≤ digit && digit ≤ '7'
        let code := (← Text.ofRadix? 8 digits) % 256
        if code = 0 || 128 ≤ code then none else some (Char.ofNat code, digits.length)
      else some (escapedLetter char, 1)

/-- Reads on in a string with escapes. -/
def escapedBodyWithin? : Nat → Text → Option (Text × Text)
  | 0, _ | _, [] => none
  | bound + 1, char :: rest =>
      if char = '\'' then
        match rest with
        | '\'' :: rest =>
            (escapedBodyWithin? bound rest).map fun (value, after) => ('\'' :: value, after)
        | _ => some ([], rest)
      else if char = '\\' then do
        let (meant, length) ← escape? rest
        let (value, after) ← escapedBodyWithin? bound (rest.drop length)
        return (meant :: value, after)
      else (escapedBodyWithin? bound rest).map fun (value, after) => (char :: value, after)

/-- The value of a string with escapes whose opening quote has been passed, and the text after
its closing quote.
-/
def escapedBody? (text : Text) : Option (Text × Text) :=
  escapedBodyWithin? text.length text

/-- The name between back quotes the first of which has been passed, and the text after it. -/
def nameBody? : Text → Option (Text × Text)
  | [] => none
  | [char] => if char = '`' then some ([], []) else none
  | char :: next :: rest =>
      if char = '`' then
        if next = '`' then (nameBody? rest).map fun (name, after) => ('`' :: name, after)
        else some ([], next :: rest)
      else (nameBody? (next :: rest)).map fun (name, after) => (char :: name, after)

/-- The text after a comment in which some comments are open, given the character before. -/
def afterComment? : Nat → Char → Text → Option Text
  | _, _, [] => none
  | depth, previous, char :: rest =>
      if previous = '/' && char = '*' then afterComment? (depth + 1) char rest
      else if previous = '*' && char = '/' then
        if depth ≤ 1 then some rest else afterComment? (depth - 1) char rest
      else afterComment? depth char rest

/-- The text after the rest of a line. -/
def afterLine (text : Text) : Text :=
  text.dropWhile (· ≠ '\n')

/-- The exponent of a number, if there is one. -/
def exponent? : Text → Option (Text × Text)
  | mark :: after =>
      let (plusOrMinus, digits) :=
        match after with
        | '+' :: rest => (['+'], rest)
        | '-' :: rest => (['-'], rest)
        | _ => ([], after)
      if digits.headD ' ' |>.isDigit then
        some (mark :: plusOrMinus ++ digits.takeWhile Char.isDigit,
          digits.dropWhile Char.isDigit)
      else none
  | [] => none

/-- What begins with a number: the number itself, or a word that begins with digits. -/
def afterNumber (number : Text) (rest : Text) : Token × Text :=
  if rest.headD ' ' = 'e' || rest.headD ' ' = 'E' then
    match exponent? rest with
    | some (exponent, 'L' :: after) => (.number (number ++ exponent ++ ['L']), after)
    | some (exponent, after) => (.number (number ++ exponent), after)
    | none => (.number number, rest)
  else
    let part := rest.takeWhile isWordPart
    if part.isEmpty then (.number number, rest)
    else (.word (number ++ part), rest.dropWhile isWordPart)

/-- The token that begins with a digit or a point. -/
def numeric (text : Text) : Token × Text :=
  let whole := text.takeWhile Char.isDigit
  match whole, text.dropWhile Char.isDigit with
  | ['0'], 'x' :: rest => (.bytes (rest.takeWhile isHexDigit), rest.dropWhile isHexDigit)
  | _, '.' :: rest =>
      let fraction := rest.takeWhile Char.isDigit
      if whole.isEmpty && fraction.isEmpty then (.sign ".", rest)
      else afterNumber (whole ++ '.' :: fraction) (rest.dropWhile Char.isDigit)
  | _, rest => afterNumber whole rest

/-- Signs of several characters, longer ones before their beginnings. -/
def longSigns : List String := [
  "!~~*", "->>", "<=>", "||/", "!~~", "!~*", "~~*", "->", "=>", "==", "!=", "!!", "!~", "<=", "<>",
  "<<", "<@", ">=", ">>", "::", ":=", "||", "|/", "&&", "^@", "~~", "~*"]

/-- The sign at the start of a text. -/
def signOf (first : Char) (rest : Text) : Token × Text :=
  match longSigns.find? fun spelling =>
      Text.startsWith (first :: rest) (Text.ofString spelling) with
  | some spelling => (.sign spelling, (first :: rest).drop spelling.length)
  | none => (.sign first.toString, rest)

/-- The word that begins with signs and with the characters after them, whatever the first of
these is.
-/
def signedWord (signs : Text) (char : Char) (rest : Text) : Token × Text :=
  (.word (signs ++ char :: rest.takeWhile isWordPart), rest.dropWhile isWordPart)

/-- The token that begins with an at sign, given the text after that. -/
def afterAt : Text → Token × Text
  | [] => (.sign "@", [])
  | '>' :: rest => (.sign "@>", rest)
  | '?' :: rest => (.sign "@?", rest)
  | ['@'] => (.sign "@@", [])
  | '@' :: ' ' :: rest => (.sign "@@", ' ' :: rest)
  | '@' :: char :: rest => signedWord ['@', '@'] char rest
  | char :: rest =>
      if [' ', '\'', '"', '`'].contains char then (.sign "@", char :: rest)
      else signedWord ['@'] char rest

/-- A string that is made into a token. -/
def stringAs? (quote : Char) (token : Text → Token) (text : Text)
    : Option (Option Token × Text) :=
  (stringBody? quote text).map fun (value, after) => (some (token value), after)

/-- What stands at the start of a text, a token or a gap, and the text after it. -/
def first? (char : Char) (rest : Text) : Option (Option Token × Text) :=
  match char, rest with
  | '\'', _ => stringAs? '\'' string rest
  | '"', _ => stringAs? '"' doubleQuoted rest
  | 'N', '\'' :: after | 'n', '\'' :: after => stringAs? '\'' national after
  | 'E', '\'' :: after | 'e', '\'' :: after =>
      (escapedBody? after).map fun (value, after) => (some (escaped value), after)
  | 'X', '\'' :: after | 'x', '\'' :: after => stringAs? '\'' bytes after
  | '`', _ => (nameBody? rest).map fun (name, after) => (some (quotedName name), after)
  | '-', '-' :: _ | '#', _ => some (none, afterLine rest)
  | '/', '*' :: after => (afterComment? 1 ' ' after).map (none, ·)
  | '?', _ =>
      some (some (placeholder (rest.takeWhile Alphabet.isNumeric)),
        rest.dropWhile Alphabet.isNumeric)
  | '@', _ =>
      let (token, after) := afterAt rest
      some (some token, after)
  | _, _ =>
      if char.isDigit || char = '.' then
        let (token, after) := numeric (char :: rest)
        some (some token, after)
      else if char = ' ' || char = '\t' || char = '\n' || char = '\r' then some (none, rest)
      else if isWordStart char then
        some (some (word (char :: rest.takeWhile isWordPart)), rest.dropWhile isWordPart)
      else if isGap char then some (none, rest)
      else
        let (token, after) := signOf char rest
        some (some token, after)

/-- The tokens of a text, if it has at most the given number of tokens and gaps. -/
def scanWithin? : Nat → Text → Option (List Token)
  | _, [] => some []
  | 0, _ :: _ => none
  | bound + 1, char :: rest =>
      match first? char rest with
      | none => none
      | some (none, after) => scanWithin? bound after
      | some (some token, after) => (scanWithin? bound after).map (token :: ·)

/-- The tokens of a text, unless a string, a name or a comment is left open. -/
def scan? (text : Text) : Option (List Token) :=
  scanWithin? text.length text

end Token

end DumpTransfer.Sql
