import DumpTransfer.Text.Basic

/-! The words of a command line: options with or without values, and other words in order. -/

namespace DumpTransfer.Command

/-- Why the words of a command line are not carried out. -/
inductive Refusal where
  /-- How they are to be given is asked. -/
  | help
  /-- They are not given as they are to be. -/
  | usage
  deriving DecidableEq, Repr

/-- What belongs to an option. -/
inductive OptionKind where
  | flag
  /-- One value, and the option may stand once. -/
  | single
  /-- One value or more, and the option may be repeated. -/
  | several
  /-- Nothing else counts. -/
  | help
  deriving DecidableEq, Repr

/-- An option: its name, the letter for it if there is one, and what belongs to it. -/
structure OptionRule where
  name : String
  letter : Option Char := none
  kind : OptionKind
  deriving DecidableEq, Repr

/-- The words that have been read. -/
structure Words where
  flags : List String := []
  values : List (String × Text) := []
  /-- The words that belong to no option. -/
  others : List Text := []
  deriving DecidableEq, Repr

namespace Words

/-- The value of an option, if it has been given one. -/
def value? (words : Words) (name : String) : Option Text :=
  words.values.lookup name

/-- All values of an option, in order. -/
def allValues (words : Words) (name : String) : List Text :=
  (words.values.filter (·.1 = name)).map (·.2)

/-- Whether a flag has been given. -/
def hasFlag (words : Words) (name : String) : Bool :=
  words.flags.contains name

/-- The words with one more flag. -/
def addFlag (words : Words) (rule : OptionRule) : Except Refusal Words :=
  match rule.kind with
  | .help => .error .help
  | .flag =>
      if words.hasFlag rule.name then .error .usage
      else .ok { words with flags := rule.name :: words.flags }
  | _ => .error .usage

/-- The words with one more value for an option. -/
def addValue (words : Words) (rule : OptionRule) (value : Text) : Except Refusal Words :=
  match rule.kind with
  | .single =>
      if (words.value? rule.name).isSome then .error .usage
      else .ok { words with values := words.values ++ [(rule.name, value)] }
  | .several => .ok { words with values := words.values ++ [(rule.name, value)] }
  | _ => .error .usage

end Words

/-- Whether values of an option are awaited. -/
inductive Awaiting where
  | nothing
  /-- A value must come next. -/
  | value (rule : OptionRule)
  /-- Further values may come. -/
  | more (rule : OptionRule)
  deriving DecidableEq, Repr

/-- How far words have been read. -/
structure WordReader where
  rules : List OptionRule
  /-- Whether reading ends before the first word that belongs to no option. -/
  stopsAtWord : Bool := false
  words : Words := {}
  awaiting : Awaiting := .nothing

namespace WordReader

/-- The reader after an option, with the value that is attached to it if there is one. -/
def readOption (reader : WordReader) (rule : OptionRule) (attached : Option Text)
    : Except Refusal WordReader := do
  match rule.kind, attached with
  | .flag, none | .help, none =>
      return { reader with words := ← reader.words.addFlag rule, awaiting := .nothing }
  | .flag, some _ | .help, some _ => .error .usage
  | _, some value =>
      return { reader with words := ← reader.words.addValue rule value, awaiting := .nothing }
  | _, none => return { reader with awaiting := .value rule }

/-- The reader after an option that is named, and perhaps given a value after an equals sign. -/
def readLong (reader : WordReader) (text : Text) : Except Refusal WordReader :=
  let name := text.takeWhile (· ≠ '=')
  match reader.rules.find? fun rule => Text.ofString rule.name = name with
  | none => .error .usage
  | some rule =>
      let attached := if text.contains '=' then some (text.drop (name.length + 1)) else none
      reader.readOption rule attached

/-- The reader after letters for options. What follows the letter for an option with a value is
the value, perhaps after an equals sign.
-/
def readLetters (reader : WordReader) : Text → Except Refusal WordReader
  | [] => .ok reader
  | letter :: rest =>
      match reader.rules.find? fun rule => rule.letter = some letter with
      | none => .error .usage
      | some rule =>
          match rule.kind with
          | .flag | .help => do readLetters (← reader.readOption rule none) rest
          | _ =>
              let value := (Text.dropPrefix? rest "=").getD rest
              reader.readOption rule (if rest.isEmpty then none else some value)

/-- Whether a word stands for options. A hyphen alone does not. -/
def isOption (word : Text) : Bool :=
  word.head? = some '-' && 2 ≤ word.length

/-- The reader after a word that stands for options. -/
def readOptions (reader : WordReader) (word : Text) : Except Refusal WordReader :=
  match Text.dropPrefix? word "--" with
  | some text => reader.readLong text
  | none => reader.readLetters (word.drop 1)

/-- Reads words to the end, or to the first that belongs to no option. After two hyphens no word
stands for options.
-/
def read (reader : WordReader) : List Text → Except Refusal (Words × List Text)
  | [] =>
      match reader.awaiting with
      | .value _ => .error .usage
      | _ => .ok (reader.words, [])
  | word :: rest =>
      match reader.awaiting, isOption word with
      | .value _, true => .error .usage
      | .value rule, false => do
          let words ← reader.words.addValue rule word
          let awaiting := if rule.kind = .several then .more rule else .nothing
          read { reader with words, awaiting } rest
      | _, true =>
          if word = "--" then
            if reader.stopsAtWord then .error .usage
            else .ok ({ reader.words with others := reader.words.others ++ rest }, [])
          else do read (← reader.readOptions word) rest
      | .more rule, false => do
          read { reader with words := ← reader.words.addValue rule word } rest
      | .nothing, false =>
          if reader.stopsAtWord then .ok (reader.words, word :: rest)
          else
            let words := { reader.words with others := reader.words.others ++ [word] }
            read { reader with words } rest

end WordReader

end DumpTransfer.Command
