import DumpTransfer.Destination

/-! Ways of adapting a statement to the warehouse. -/

namespace DumpTransfer.Conversion

/-- What a way of adapting makes of a statement, or why it gives up, with what it warns of in
either case.
-/
structure Adaptation where
  result : Except Text Text
  warnings : List Text := []

/-- A way of adapting statements. -/
structure Strategy where
  name : Text
  adapt : Destination → Text → Adaptation

end DumpTransfer.Conversion
