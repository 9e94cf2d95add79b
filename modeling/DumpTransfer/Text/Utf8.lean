import DumpTransfer.Text.Basic

/-! UTF-8 as bytes. Decoding accepts any bytes: each longest beginning of a character that is
not completed stands for one replacement character.
-/

namespace DumpTransfer.Utf8

/-- The character that stands for bytes that are no character. -/
def replacement : Char :=
  Char.ofNat 0xFFFD

/-- A character of which the first bytes have been read: its value so far, how many bytes are
still to come after the next one, and the bounds of the next one.
-/
structure Pending where
  value : Nat
  later : Nat
  low : UInt8
  high : UInt8
  deriving DecidableEq, Repr

/-- What a byte outside any character announces: itself, the beginning of a longer character,
or nothing valid. The bounds rule out overlong forms, surrogates and values above U+10FFFF.
-/
inductive Opening where
  | complete (char : Char)
  | begins (pending : Pending)
  | invalid

/-- The reading of a byte at the start of a character. -/
def opening (byte : UInt8) : Opening :=
  let code := byte.toNat
  if code < 0x80 then .complete (Char.ofNat code)
  else if code < 0xC2 then .invalid
  else if code < 0xE0 then .begins ⟨code - 0xC0, 0, 0x80, 0xBF⟩
  else if code = 0xE0 then .begins ⟨0, 1, 0xA0, 0xBF⟩
  else if code = 0xED then .begins ⟨0xD, 1, 0x80, 0x9F⟩
  else if code < 0xF0 then .begins ⟨code - 0xE0, 1, 0x80, 0xBF⟩
  else if code = 0xF0 then .begins ⟨0, 2, 0x90, 0xBF⟩
  else if code < 0xF4 then .begins ⟨code - 0xF0, 2, 0x80, 0xBF⟩
  else if code = 0xF4 then .begins ⟨4, 2, 0x80, 0x8F⟩
  else .invalid

/-- The characters that a byte settles and what is pending after it, when nothing was
pending before.
-/
def start (byte : UInt8) : Text × Option Pending :=
  match opening byte with
  | .complete char => ([char], none)
  | .begins pending => ([], some pending)
  | .invalid => ([replacement], none)

/-- The characters that a byte settles and what is pending after it. A byte that does not
continue the pending character settles that one as replaced and starts anew.
-/
def step : Option Pending → UInt8 → Text × Option Pending
  | none, byte => start byte
  | some pending, byte =>
      if pending.low ≤ byte && byte ≤ pending.high then
        let value := pending.value * 64 + (byte.toNat - 0x80)
        match pending.later with
        | 0 => ([Char.ofNat value], none)
        | later + 1 => ([], some ⟨value, later, 0x80, 0xBF⟩)
      else
        let (settled, next) := start byte
        (replacement :: settled, next)

/-- Reads on with a character pending or not; one still pending at the end is replaced. -/
def decodeFrom : Option Pending → List UInt8 → Text
  | none, [] => []
  | some _, [] => [replacement]
  | pending, byte :: rest =>
      let (settled, next) := step pending byte
      settled ++ decodeFrom next rest

/-- The text of any bytes. -/
def decode (bytes : List UInt8) : Text :=
  decodeFrom none bytes

/-- The bytes of a text. -/
def encode (text : Text) : List UInt8 :=
  (String.ofList text).toUTF8.toList

end DumpTransfer.Utf8
