import DumpTransfer.Conversion.Converter

/-! The two choices of a converter. A statement is converted by the first choice or falls back on
the second, and one that falls back says so before anything else that it warns of.
-/

namespace DumpTransfer.Conversion.Converter

variable (converter : Converter) (target : Destination)

/-- There is something to convert, and the first choice refuses it for a reason. -/
structure FallsBack (statement reason : Text) : Prop where
  held : isVoid (Preparation.prepare statement) = false
  refused
    : (converter.preferred.adapt target (Preparation.prepare statement)).result = .error reason

/-- There is nothing to convert, or one of the two choices adapts it. -/
def Adapts (statement : Text) : Prop :=
  isVoid (Preparation.prepare statement) = true
  ∨ ∃ sql,
      (converter.preferred.adapt target (Preparation.prepare statement)).result = .ok sql
      ∨ (converter.alternative.adapt target (Preparation.prepare statement)).result = .ok sql

/-- What the second choice warns of, with what is warned of when its result is completed. -/
def alternativeWarnings (statement : Text) : List Text :=
  let adaptation := converter.alternative.adapt target (Preparation.prepare statement)
  adaptation.warnings
    ++ match adaptation.result with
      | .ok sql => (Completion.complete target sql).2
      | .error _ => []

variable {converter target} {statement reason : Text}

theorem FallsBack.convert_eq (fallsBack : converter.FallsBack target statement reason)
    : converter.convert target statement
      = converter.convertByAlternative target (Preparation.prepare statement) reason := by
  simp only [convert, fallsBack.held, fallsBack.refused, Bool.false_eq_true, if_false]

theorem FallsBack.byAlternative (fallsBack : converter.FallsBack target statement reason)
    : (converter.convert target statement).byAlternative = true := by
  rw [fallsBack.convert_eq, convertByAlternative]
  cases (converter.alternative.adapt target (Preparation.prepare statement)).result <;> rfl

/-- Nothing that the first choice has warned of is left. -/
theorem FallsBack.warnings (fallsBack : converter.FallsBack target statement reason)
    : (converter.convert target statement).warnings
      = alternativeWarning reason :: converter.alternativeWarnings target statement := by
  rw [fallsBack.convert_eq, convertByAlternative, alternativeWarnings]
  cases (converter.alternative.adapt target (Preparation.prepare statement)).result with
  | error other => simp
  | ok sql => rfl

variable (converter target statement)

end DumpTransfer.Conversion.Converter
