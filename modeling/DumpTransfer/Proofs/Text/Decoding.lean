import DumpTransfer.Proofs.Text.Encoding

/-! Characters are read back from their bytes. The first byte of a character says how many come after
it, and each of these carries six bits, so that reading them one by one collects the code of the
character.
-/

namespace DumpTransfer.Utf8

variable {byte : UInt8} {pending : Pending} {code later : Nat}

-----------------------------------------------------------------------------------------
-- Steps
-----------------------------------------------------------------------------------------

namespace Pending

/-- Whether a byte may come next. -/
def Admits (pending : Pending) (byte : UInt8) : Prop :=
  pending.low ≤ byte ∧ byte ≤ pending.high

theorem admits_iff
    : pending.Admits byte
      ↔ pending.low.toNat ≤ byte.toNat ∧ byte.toNat ≤ pending.high.toNat := by
  rw [Admits, UInt8.le_iff_toNat_le, UInt8.le_iff_toNat_le]

/-- The value so far with one more byte. -/
def valueWith (pending : Pending) (byte : UInt8) : Nat :=
  pending.value * 64 + (byte.toNat - 0x80)

/-- What is pending after one more byte that is not the last one. -/
def next (pending : Pending) (later : Nat) (byte : UInt8) : Pending :=
  ⟨pending.valueWith byte, later, 0x80, 0xBF⟩

@[simp] theorem next_later (pending : Pending) (later : Nat) (byte : UInt8)
    : (pending.next later byte).later = later :=
  rfl

end Pending

theorem step_admitted (admits : pending.Admits byte)
    : step (some pending) byte
      = match pending.later with
        | 0 => ([Char.ofNat (pending.valueWith byte)], none)
        | later + 1 => ([], some (pending.next later byte)) := by
  have inside : (decide (pending.low ≤ byte) && decide (byte ≤ pending.high)) = true := by
    simpa [Pending.Admits] using admits
  rw [step, if_pos inside]
  rfl

theorem decodeFrom_complete {char : Char} (complete : opening byte = .complete char)
    (rest : List UInt8)
    : decodeFrom none (byte :: rest) = char :: decodeFrom none rest := by
  rw [decodeFrom, step, start, complete]
  rfl

theorem decodeFrom_begins (begins : opening byte = .begins pending) (rest : List UInt8)
    : decodeFrom none (byte :: rest) = decodeFrom (some pending) rest := by
  rw [decodeFrom, step, start, begins]
  rfl

theorem decodeFrom_invalid (invalid : opening byte = .invalid) (rest : List UInt8)
    : decodeFrom none (byte :: rest) = replacement :: decodeFrom none rest := by
  rw [decodeFrom, step, start, invalid]
  rfl

theorem decodeFrom_next (more : pending.later = later + 1) (admits : pending.Admits byte)
    (rest : List UInt8)
    : decodeFrom (some pending) (byte :: rest)
      = decodeFrom (some (pending.next later byte)) rest := by
  rw [decodeFrom, step_admitted admits, more]
  rfl

theorem decodeFrom_last (last : pending.later = 0) (admits : pending.Admits byte)
    (rest : List UInt8)
    : decodeFrom (some pending) (byte :: rest)
      = Char.ofNat (pending.valueWith byte) :: decodeFrom none rest := by
  rw [decodeFrom, step_admitted admits, last]
  rfl

/-- A byte that may not come next replaces what is pending and is read anew. -/
theorem decodeFrom_broken (outside : ¬ pending.Admits byte) (rest : List UInt8)
    : decodeFrom (some pending) (byte :: rest) = replacement :: decodeFrom none (byte :: rest) := by
  rw [decodeFrom, step, if_neg (by simpa [Pending.Admits] using outside)]
  rfl

-----------------------------------------------------------------------------------------
-- Six bits a byte
-----------------------------------------------------------------------------------------

/-- The byte of a code after which a number of bytes come. -/
def sixBits (code later : Nat) : UInt8 :=
  UInt8.ofNat (code / 64 ^ later % 64 + 0x80)

/-- The bytes of a code from the one on after which a number of bytes come. -/
def tail (code : Nat) : Nat → List UInt8
  | 0 => [sixBits code 0]
  | later + 1 => sixBits code (later + 1) :: tail code later

theorem toNat_sixBits (code later : Nat)
    : (sixBits code later).toNat = code / 64 ^ later % 64 + 0x80 := by
  rw [sixBits, UInt8.toNat_ofNat']
  omega

/-- A code of which the bits above those that are still to come have been read. -/
structure Pending.Fits (pending : Pending) (code : Nat) : Prop where
  value : pending.value = code / 64 ^ (pending.later + 1)
  admits : pending.Admits (sixBits code pending.later)

theorem Pending.Fits.valueWith (fits : pending.Fits code)
    : pending.valueWith (sixBits code pending.later) = code / 64 ^ pending.later := by
  have bits := toNat_sixBits code pending.later
  have value := fits.value
  rw [Nat.pow_succ, ← Nat.div_div_eq_div_mul] at value
  unfold Pending.valueWith
  generalize code / 64 ^ pending.later = above at bits value ⊢
  omega

theorem Pending.Fits.next (fits : pending.Fits code) (more : pending.later = later + 1)
    : (pending.next later (sixBits code (later + 1))).Fits code := by
  have value := fits.valueWith
  rw [more] at value
  constructor
  · exact value
  · have most := Nat.mod_lt (code / 64 ^ later) (show 0 < 64 by decide)
    rw [Pending.admits_iff, next_later, toNat_sixBits]
    change 0x80 ≤ _ ∧ _ ≤ 0xBF
    omega

/-- The code is read with its last bytes. By induction on their number. -/
theorem decodeFrom_tail (fits : pending.Fits code) (rest : List UInt8)
    : decodeFrom (some pending) (tail code pending.later ++ rest)
      = Char.ofNat code :: decodeFrom none rest := by
  generalize count : pending.later = later
  induction later generalizing pending with
  | zero =>
      have admits := fits.admits
      have value := fits.valueWith
      rw [count] at admits value
      rw [tail, List.singleton_append, decodeFrom_last count admits, value, Nat.pow_zero,
        Nat.div_one]
  | succ later ih =>
      have admits := fits.admits
      rw [count] at admits
      rw [tail, List.cons_append, decodeFrom_next count admits]
      exact ih (fits.next count) rfl

-----------------------------------------------------------------------------------------
-- First bytes
-----------------------------------------------------------------------------------------

/-- What is pending after the first byte of a character, by the length of the character. The bounds
of the second byte rule out what has a shorter form, surrogates and what is too large.
-/
inductive Leads (byte : UInt8) (pending : Pending) : Prop where
  | two (low : 0xC2 ≤ byte.toNat) (high : byte.toNat < 0xE0)
      (value : pending.value = byte.toNat - 0xC0) (later : pending.later = 0)
      (admits : ∀ next, pending.Admits next ↔ 0x80 ≤ next.toNat ∧ next.toNat ≤ 0xBF)
  | three (low : 0xE0 ≤ byte.toNat) (high : byte.toNat < 0xF0)
      (value : pending.value = byte.toNat - 0xE0) (later : pending.later = 1)
      (admits
        : ∀ next, pending.Admits next
            ↔ (0x80 ≤ next.toNat ∧ next.toNat ≤ 0xBF)
              ∧ (byte.toNat = 0xE0 → 0xA0 ≤ next.toNat)
              ∧ (byte.toNat = 0xED → next.toNat ≤ 0x9F))
  | four (low : 0xF0 ≤ byte.toNat) (high : byte.toNat < 0xF5)
      (value : pending.value = byte.toNat - 0xF0) (later : pending.later = 2)
      (admits
        : ∀ next, pending.Admits next
            ↔ (0x80 ≤ next.toNat ∧ next.toNat ≤ 0xBF)
              ∧ (byte.toNat = 0xF0 → 0x90 ≤ next.toNat)
              ∧ (byte.toNat = 0xF4 → next.toNat ≤ 0x8F))

theorem admits_mk (value later : Nat) (low high next : UInt8)
    : Pending.Admits ⟨value, later, low, high⟩ next
      ↔ low.toNat ≤ next.toNat ∧ next.toNat ≤ high.toNat :=
  Pending.admits_iff

/-- A byte outside any character is one in ASCII, leads a longer one or is invalid. -/
theorem opening_cases (byte : UInt8)
    : (byte.toNat < 0x80 ∧ opening byte = .complete (Char.ofNat byte.toNat))
      ∨ (∃ pending, opening byte = .begins pending ∧ Leads byte pending)
      ∨ ((byte.toNat < 0xC2 ∨ 0xF5 ≤ byte.toNat) ∧ opening byte = .invalid) := by
  unfold opening
  simp only
  split
  · exact .inl ⟨‹_›, rfl⟩
  refine .inr ?_
  split
  · exact .inr ⟨.inl ‹_›, rfl⟩
  split
  · refine .inl ⟨_, rfl, .two (by omega) (by omega) rfl rfl fun next => ?_⟩
    exact admits_mk _ _ _ _ _
  split
  · refine .inl ⟨_, rfl, .three (by omega) (by omega) (by simp only; omega) rfl fun next => ?_⟩
    rw [admits_mk]
    change 0xA0 ≤ _ ∧ _ ≤ 0xBF ↔ _
    omega
  split
  · refine .inl ⟨_, rfl, .three (by omega) (by omega) (by simp only; omega) rfl fun next => ?_⟩
    rw [admits_mk]
    change 0x80 ≤ _ ∧ _ ≤ 0x9F ↔ _
    omega
  split
  · refine .inl ⟨_, rfl, .three (by omega) (by omega) rfl rfl fun next => ?_⟩
    rw [admits_mk]
    change 0x80 ≤ _ ∧ _ ≤ 0xBF ↔ _
    omega
  split
  · refine .inl ⟨_, rfl, .four (by omega) (by omega) (by simp only; omega) rfl fun next => ?_⟩
    rw [admits_mk]
    change 0x90 ≤ _ ∧ _ ≤ 0xBF ↔ _
    omega
  split
  · refine .inl ⟨_, rfl, .four (by omega) (by omega) rfl rfl fun next => ?_⟩
    rw [admits_mk]
    change 0x80 ≤ _ ∧ _ ≤ 0xBF ↔ _
    omega
  split
  · refine .inl ⟨_, rfl, .four (by omega) (by omega) (by simp only; omega) rfl fun next => ?_⟩
    rw [admits_mk]
    change 0x80 ≤ _ ∧ _ ≤ 0x8F ↔ _
    omega
  exact .inr ⟨.inr (by omega), rfl⟩

theorem leads_of_begins (begins : opening byte = .begins pending)
    : Leads byte pending := by
  rcases opening_cases byte with ⟨-, complete⟩ | ⟨found, same, leads⟩ | ⟨-, invalid⟩
  · cases begins.symm.trans complete
  · cases begins.symm.trans same
    exact leads
  · cases begins.symm.trans invalid

theorem exists_leading (number : Nat) (low : 0xC2 ≤ number) (high : number < 0xF5)
    : ∃ byte pending, byte.toNat = number ∧ opening byte = .begins pending
        ∧ Leads byte pending := by
  have same : (UInt8.ofNat number).toNat = number := by
    rw [UInt8.toNat_ofNat']
    omega
  rcases opening_cases (UInt8.ofNat number) with ⟨small, -⟩ | ⟨pending, leads⟩ | ⟨outside, -⟩
  · omega
  · exact ⟨_, pending, same, leads⟩
  · omega

/-- Some byte may always come next. -/
theorem Leads.exists_admitted (leads : Leads byte pending)
    : ∃ next, pending.Admits next := by
  cases leads with
  | two low high value later admits => exact ⟨0x80, (admits _).mpr (by decide)⟩
  | three low high value later admits =>
      by_cases surrogates : byte.toNat = 0xED
      · exact ⟨0x80, (admits _).mpr (by simp [surrogates])⟩
      · exact ⟨0xA0, (admits _).mpr (by simp [surrogates])⟩
  | four low high value later admits =>
      by_cases last : byte.toNat = 0xF4
      · exact ⟨0x80, (admits _).mpr (by simp [last])⟩
      · exact ⟨0x90, (admits _).mpr (by simp [last])⟩

-----------------------------------------------------------------------------------------
-- Characters
-----------------------------------------------------------------------------------------

theorem toNat_ofNat (valid : code.isValidChar)
    : (Char.ofNat code).toNat = code := by
  rw [Char.ofNat, dif_pos valid]
  rfl

theorem ofNat_eq (byte : UInt8) {number : Nat} (same : byte.toNat = number)
    : UInt8.ofNat number = byte :=
  same ▸ UInt8.ofNat_toNat

theorem encode_two (low : 0x80 ≤ code) (high : code < 0x800)
    (first : byte.toNat = code / 64 + 0xC0)
    : String.utf8EncodeChar (Char.ofNat code) = byte :: tail code 0 := by
  have same : (Char.ofNat code).val.toNat = code := toNat_ofNat (.inl (by omega))
  unfold String.utf8EncodeChar
  simp only [same]
  rw [if_neg (by omega), if_pos (by omega), ofNat_eq byte (by omega)]
  simp only [tail, sixBits, Nat.pow_zero, Nat.div_one]

theorem encode_three (low : 0x800 ≤ code) (high : code < 0x10000) (valid : code.isValidChar)
    (first : byte.toNat = code / 4096 + 0xE0)
    : String.utf8EncodeChar (Char.ofNat code) = byte :: tail code 1 := by
  have same : (Char.ofNat code).val.toNat = code := toNat_ofNat valid
  unfold String.utf8EncodeChar
  simp only [same]
  rw [if_neg (by omega), if_neg (by omega), if_pos (by omega),
    ofNat_eq byte (by omega)]
  simp only [tail, sixBits, Nat.pow_zero, Nat.div_one, Nat.zero_add, Nat.pow_one]

theorem encode_four (low : 0x10000 ≤ code) (valid : code.isValidChar)
    (first : byte.toNat = code / 262144 + 0xF0)
    : String.utf8EncodeChar (Char.ofNat code) = byte :: tail code 2 := by
  have same : (Char.ofNat code).val.toNat = code := toNat_ofNat valid
  have high : code < 0x110000 := by
    unfold Nat.isValidChar at valid
    omega
  unfold String.utf8EncodeChar
  simp only [same]
  rw [if_neg (by omega), if_neg (by omega), if_neg (by omega),
    ofNat_eq byte (by omega)]
  simp only [tail, sixBits, Nat.pow_zero, Nat.div_one, Nat.zero_add, Nat.pow_one, Nat.reducePow,
    Nat.reduceAdd]

/-- A code that fits what is pending after a first byte is that of a character with this byte. -/
theorem Leads.encode (leads : Leads byte pending) (fits : pending.Fits code)
    : String.utf8EncodeChar (Char.ofNat code) = byte :: tail code pending.later := by
  obtain ⟨value, admits⟩ := fits
  cases leads with
  | two low high start later bounds =>
      rw [later, Nat.zero_add, Nat.pow_one] at value
      rw [later]
      exact encode_two (by omega) (by omega) (by omega)
  | three low high start later bounds =>
      have above : code / 64 ^ (1 + 1) = code / 4096 := rfl
      rw [later, above] at value
      rw [bounds, later, toNat_sixBits, Nat.pow_one] at admits
      have valid : code.isValidChar := by
        unfold Nat.isValidChar
        omega
      rw [later]
      exact encode_three (by omega) (by omega) valid (by omega)
  | four low high start later bounds =>
      have above : code / 64 ^ (2 + 1) = code / 262144 := rfl
      have middle : code / 64 ^ 2 = code / 4096 := rfl
      rw [later, above] at value
      rw [bounds, later, toNat_sixBits, middle] at admits
      have valid : code.isValidChar := by
        unfold Nat.isValidChar
        omega
      rw [later]
      exact encode_four (by omega) valid (by omega)

/-- Every code beyond ASCII fits what is pending after some first byte. -/
theorem exists_lead (code : Nat) (valid : code.isValidChar) (beyond : 0x80 ≤ code)
    : ∃ byte pending, opening byte = .begins pending ∧ Leads byte pending
        ∧ pending.Fits code := by
  have most := valid
  unfold Nat.isValidChar at most
  by_cases isTwo : code < 0x800
  · obtain ⟨byte, pending, number, begins, leads⟩ :=
      exists_leading (code / 64 + 0xC0) (by omega) (by omega)
    refine ⟨byte, pending, begins, leads, ?_⟩
    cases leads with
    | two low high start later bounds =>
        constructor
        · rw [start, later, number, Nat.add_sub_cancel]
          rfl
        · rw [bounds, toNat_sixBits]
          omega
    | three low high start later bounds => omega
    | four low high start later bounds => omega
  by_cases isThree : code < 0x10000
  · obtain ⟨byte, pending, number, begins, leads⟩ :=
      exists_leading (code / 4096 + 0xE0) (by omega) (by omega)
    refine ⟨byte, pending, begins, leads, ?_⟩
    cases leads with
    | two low high start later bounds => omega
    | three low high start later bounds =>
        constructor
        · rw [start, later, number, Nat.add_sub_cancel]
          rfl
        · rw [bounds, toNat_sixBits, later, Nat.pow_one]
          omega
    | four low high start later bounds => omega
  · obtain ⟨byte, pending, number, begins, leads⟩ :=
      exists_leading (code / 262144 + 0xF0) (by omega) (by omega)
    refine ⟨byte, pending, begins, leads, ?_⟩
    cases leads with
    | two low high start later bounds => omega
    | three low high start later bounds => omega
    | four low high start later bounds =>
        have middle : code / 64 ^ 2 = code / 4096 := rfl
        constructor
        · rw [start, later, number, Nat.add_sub_cancel]
          rfl
        · rw [bounds, toNat_sixBits, later, middle]
          omega

/-- A byte in ASCII is the form of a character. -/
theorem encode_ascii (ascii : byte.toNat < 0x80)
    : String.utf8EncodeChar (Char.ofNat byte.toNat) = [byte] := by
  have code : (Char.ofNat byte.toNat).toNat = byte.toNat := toNat_ofNat (.inl (by omega))
  have same : (Char.ofNat byte.toNat).toUInt8 = byte := by
    rw [← UInt8.toNat_inj]
    change (Char.ofNat byte.toNat).toNat % 256 = byte.toNat
    omega
  rw [encodeChar_ascii (by omega), same]

theorem decode_cons_ascii (ascii : byte.toNat < 0x80) (rest : List UInt8)
    : decode (byte :: rest) = Char.ofNat byte.toNat :: decode rest := by
  have complete : opening byte = .complete (Char.ofNat byte.toNat) := by
    rw [opening]
    exact if_pos ascii
  exact decodeFrom_complete complete rest

/-- A character is read back from its bytes, whatever comes after them. -/
theorem decode_char (char : Char) (rest : List UInt8)
    : decode (String.utf8EncodeChar char ++ rest) = char :: decode rest := by
  by_cases ascii : char.toNat < 0x80
  · have number : char.toUInt8.toNat = char.toNat :=
      Nat.mod_eq_of_lt (Nat.lt_trans ascii (by decide))
    rw [encodeChar_ascii ascii, List.singleton_append, decode_cons_ascii (by omega), number,
      Char.ofNat_toNat]
  · obtain ⟨byte, pending, begins, leads, fits⟩ :=
      exists_lead char.toNat char.valid (by omega)
    have form := leads.encode fits
    rw [Char.ofNat_toNat] at form
    rw [form, decode, List.cons_append, decodeFrom_begins begins, decodeFrom_tail fits,
      Char.ofNat_toNat]
    rfl

end DumpTransfer.Utf8
