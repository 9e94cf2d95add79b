import DumpTransfer.Text.Basic

/-! Decimal notations of binary floating-point numbers, computed exactly from the mantissa and
the exponent: a fixed number of places, and the fewest digits that read back.
-/

namespace DumpTransfer.Decimal

/-- A finite number: a mantissa times a power of two, with a sign. -/
structure Binary where
  isNegative : Bool
  mantissa : Nat
  exponent : Int
  deriving DecidableEq, Repr

/-- The parts of a finite number in double precision. -/
def Binary.ofFloat (number : Float) : Binary :=
  let bits := number.toBits.toNat
  let field := bits / Nat.pow 2 52 % Nat.pow 2 11
  let fraction := bits % Nat.pow 2 52
  { isNegative := Nat.pow 2 63 ≤ bits
    mantissa := if field = 0 then fraction else fraction + Nat.pow 2 52
    exponent := (max field 1 : Nat) - 1075 }

/-- The quotient of two numbers, rounded to the nearest whole one, and a half to the even one. -/
def roundedQuotient (numerator denominator : Nat) : Nat :=
  let quotient := numerator / denominator
  let rest := 2 * (numerator % denominator)
  if denominator < rest || (rest = denominator && quotient % 2 = 1) then quotient + 1
  else quotient

/-- A power with a whole exponent, as numerator and denominator. -/
def power (base : Nat) (exponent : Int) : Nat × Nat :=
  (Nat.pow base exponent.toNat, Nat.pow base (-exponent).toNat)

/-- A number with two places, a half going to the even neighbour. -/
def withTwoPlaces (number : Float) : Text :=
  let binary := Binary.ofFloat number
  let (up, down) := power 2 binary.exponent
  let hundredths := roundedQuotient (binary.mantissa * up * 100) down
  let places := hundredths % 100
  (if binary.isNegative then ['-'] else []) ++ Text.ofNat (hundredths / 100) ++ "."
    ++ (if places < 10 then ['0'] else []) ++ Text.ofNat places

/-- Four times the bounds between which numbers are read as a mantissa with its exponent. Below
a power of two the next number is only half as far away.
-/
def bounds (binary : Binary) : Nat × Nat :=
  let below := if binary.mantissa = Nat.pow 2 52 && -1074 < binary.exponent then 1 else 2
  (4 * binary.mantissa - below, 4 * binary.mantissa + 2)

/-- The multiple of a power of ten that is read back as a positive number, the nearer one of two,
if there is any.
-/
def multiple? (binary : Binary) (tens : Int) : Option Nat :=
  let (up, down) := power 2 (binary.exponent - 2)
  let (times, per) := power 10 tens
  let unit := times * down
  let scale := up * per
  let value := 4 * binary.mantissa * scale
  let (low, high) := bounds binary
  let reads (digits : Nat) : Bool :=
    let place := digits * unit
    if binary.mantissa % 2 = 0 then low * scale ≤ place && place ≤ high * scale
    else low * scale < place && place < high * scale
  let nearest := roundedQuotient value unit
  let other := if nearest * unit ≤ value then nearest + 1 else nearest - 1
  if reads nearest then some nearest else if reads other then some other else none

/-- The fewest digits that read back as a positive number, and the power of ten they count. -/
def shortest (binary : Binary) : Nat × Int :=
  let found := (List.range 634).findSome? fun (step : Nat) =>
    let tens := (309 : Int) - step
    (multiple? binary tens).map fun digits => (digits, tens)
  found.getD (0, 0)

/-- Digits and the power of ten they count: positional from 0.00001 to below 10^16, and with a
signed exponent otherwise.
-/
def written (digits : Text) (tens : Int) : Text :=
  let point := digits.length + tens
  if 0 ≤ tens && point ≤ 16 then digits ++ List.replicate tens.toNat '0' ++ ".0"
  else if 0 < point && point ≤ 16 then
    digits.take point.toNat ++ "." ++ digits.drop point.toNat
  else if -5 < point && point ≤ 0 then "0." ++ List.replicate (-point).toNat '0' ++ digits
  else
    let rest := digits.drop 1
    let exponent := point - 1
    digits.take 1 ++ (if rest.isEmpty then [] else '.' :: rest) ++ "e"
      ++ (if exponent < 0 then ['-'] else ['+']) ++ Text.ofNat exponent.natAbs

/-- A finite number with the fewest digits that read back. -/
def shortestText (number : Float) : Text :=
  let binary := Binary.ofFloat number
  let (digits, tens) := shortest binary
  (if binary.isNegative then ['-'] else [])
    ++ (if binary.mantissa = 0 then "0.0" else written (Text.ofNat digits) tens : Text)

end DumpTransfer.Decimal
