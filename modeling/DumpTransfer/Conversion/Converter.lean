import DumpTransfer.Conversion.Completion
import DumpTransfer.Conversion.Preparation
import DumpTransfer.Conversion.Strategy

/-! Conversion of single statements: prepared, adapted one way or, if that fails, another,
and completed. A second choice is always warned of.
-/

namespace DumpTransfer.Conversion

/-- What became of a statement. -/
structure Converted where
  /-- The statement for the warehouse, empty if there is nothing to execute. -/
  sql : Text := []
  errors : List Text := []
  warnings : List Text := []
  byAlternative : Bool := false
  deriving DecidableEq, Repr

namespace Converted

/-- Whether the statement could be converted. -/
def success (conversion : Converted) : Bool :=
  conversion.errors.isEmpty

/-- Whether there is nothing to execute. -/
def isEmpty (conversion : Converted) : Bool :=
  conversion.sql.isEmpty

end Converted

/-- A preferred way of adapting and another one for what it refuses. -/
structure Converter where
  preferred : Strategy
  alternative : Strategy

namespace Converter

/-- Whether a prepared statement is nothing but separators. -/
def isVoid (prepared : Text) : Bool :=
  prepared.all fun char => Alphabet.isBlank char || char = ';'

/-- The warning that the second choice was used. -/
def alternativeWarning (reason : Text) : Text :=
  "used fallback conversion (" ++ reason ++ ")"

/-- The error that a way of adapting failed. -/
def strategyError (strategy : Strategy) (reason : Text) : Text :=
  strategy.name ++ " strategy failed: " ++ reason

/-- An adapted statement in its final form, after what has been warned of. -/
def completed (target : Destination) (sql : Text) (warnings : List Text)
    (byAlternative : Bool)
    : Converted :=
  let (sql, more) := Completion.complete target sql
  { sql, warnings := warnings ++ more, byAlternative }

/-- Converts a prepared statement by the second choice, which the first refused. -/
def convertByAlternative (converter : Converter) (target : Destination) (prepared reason : Text)
    : Converted :=
  let adaptation := converter.alternative.adapt target prepared
  let warnings := alternativeWarning reason :: adaptation.warnings
  match adaptation.result with
  | .ok sql => completed target sql warnings true
  | .error alternativeReason =>
      { errors := [
          strategyError converter.preferred reason,
          strategyError converter.alternative alternativeReason],
        warnings,
        byAlternative := true }

/-- Converts a statement. -/
def convert (converter : Converter) (target : Destination) (statement : Text) : Converted :=
  let prepared := Preparation.prepare statement
  if isVoid prepared then {}
  else
    let adaptation := converter.preferred.adapt target prepared
    match adaptation.result with
    | .ok sql => completed target sql adaptation.warnings false
    | .error reason => converter.convertByAlternative target prepared reason

end Converter

end DumpTransfer.Conversion
