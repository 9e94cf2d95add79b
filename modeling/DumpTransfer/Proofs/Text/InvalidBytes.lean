import DumpTransfer.Proofs.Text.Decoding
import Mathlib.Data.List.Induction
import Mathlib.Data.Nat.Find

/-! The text of any bytes. Where no character stands, the longest part that could still have become
one is replaced as a whole, and there is one way to read bytes so.
-/

namespace DumpTransfer.Utf8

/-- Bytes with which some character begins. -/
def IsBeginning (bytes : List UInt8) : Prop :=
  ∃ char, bytes <+: String.utf8EncodeChar char

/-- A part at the start of bytes with which no character begins: the longest beginning of a
character among them, or a single byte if there is none.
-/
structure IsMaximalInvalid (part rest : List UInt8) : Prop where
  filled : part ≠ []
  unreadable : ∀ char, ¬ String.utf8EncodeChar char <+: part ++ rest
  isBeginning : IsBeginning part ∨ part.length = 1
  longest : ∀ longer, longer <+: part ++ rest → IsBeginning longer → longer.length ≤ part.length

/-- A text of bytes: characters as they are, and a replacement for each maximal invalid part. -/
inductive Decodes : List UInt8 → Text → Prop where
  | nil : Decodes [] []
  | char (char : Char) {rest : List UInt8} {text : Text} (later : Decodes rest text)
      : Decodes (String.utf8EncodeChar char ++ rest) (char :: text)
  | invalid {part rest : List UInt8} {text : Text} (invalid : IsMaximalInvalid part rest)
      (later : Decodes rest text)
      : Decodes (part ++ rest) (replacement :: text)

variable {byte : UInt8} {pending : Pending} {bytes part rest : List UInt8} {code : Nat}
  {text : Text}

-----------------------------------------------------------------------------------------
-- Characters that are pending
-----------------------------------------------------------------------------------------

/-- Bytes after which a character is pending. -/
inductive Awaits : List UInt8 → Pending → Prop where
  | first {byte : UInt8} {pending : Pending} (begins : opening byte = .begins pending)
      : Awaits [byte] pending
  | next {bytes : List UInt8} {pending : Pending} {byte : UInt8} {later : Nat}
      (before : Awaits bytes pending) (more : pending.later = later + 1)
      (admits : pending.Admits byte)
      : Awaits (bytes ++ [byte]) (pending.next later byte)

theorem Awaits.decode_append (awaits : Awaits bytes pending) (rest : List UInt8)
    : decode (bytes ++ rest) = decodeFrom (some pending) rest := by
  induction awaits generalizing rest with
  | first begins => exact decodeFrom_begins begins rest
  | next before more admits ih =>
      rw [List.append_assoc, ih, List.singleton_append, decodeFrom_next more admits]

/-- Only bytes that carry six bits may come next. -/
theorem Awaits.bounds (awaits : Awaits bytes pending) (admits : pending.Admits byte)
    : 0x80 ≤ byte.toNat ∧ byte.toNat ≤ 0xBF := by
  cases awaits with
  | first begins =>
      cases leads_of_begins begins with
      | two low high value later bounds => exact (bounds _).mp admits
      | three low high value later bounds => exact ((bounds _).mp admits).1
      | four low high value later bounds => exact ((bounds _).mp admits).1
  | next before more earlier => exact Pending.admits_iff.mp admits

/-- A code fits what is pending if it has the value so far with one more byte that may come. -/
theorem Awaits.fits (awaits : Awaits bytes pending) (code : Nat) (admits : pending.Admits byte)
    (value : pending.valueWith byte = code / 64 ^ pending.later)
    : sixBits code pending.later = byte ∧ pending.Fits code := by
  have bounds := awaits.bounds admits
  have bits := toNat_sixBits code pending.later
  have above : code / 64 ^ (pending.later + 1) = code / 64 ^ pending.later / 64 := by
    rw [Nat.pow_succ, Nat.div_div_eq_div_mul]
  rw [← value] at bits above
  unfold Pending.valueWith at bits above
  have same : sixBits code pending.later = byte := by
    rw [← UInt8.toNat_inj]
    omega
  exact ⟨same, by omega, same ▸ admits⟩

/-- A code that fits what is pending is that of a character that begins with the bytes read. By
induction on how they have been read.
-/
theorem Awaits.encode (awaits : Awaits bytes pending) (fits : pending.Fits code)
    : String.utf8EncodeChar (Char.ofNat code) = bytes ++ tail code pending.later := by
  induction awaits with
  | first begins => exact (leads_of_begins begins).encode fits
  | @next bytes pending byte later before more admits ih =>
      have value := fits.value
      obtain ⟨same, fitsBefore⟩ := before.fits code admits (by rw [more]; exact value)
      rw [more] at same
      rw [ih fitsBefore, more, tail, same, List.append_assoc]
      rfl

/-- Whatever byte may come next, some character begins with it after the bytes read, and it is the
last byte of the character if no more are to come.
-/
theorem Awaits.exists_char (awaits : Awaits bytes pending) (admits : pending.Admits byte)
    : ∃ char more, String.utf8EncodeChar char = bytes ++ byte :: more
        ∧ (pending.later = 0 → more = []) := by
  have positive : 0 < 64 ^ pending.later := Nat.pow_pos (by decide)
  obtain ⟨same, fits⟩ := awaits.fits (pending.valueWith byte * 64 ^ pending.later) admits
    (Nat.mul_div_cancel _ positive).symm
  have form := awaits.encode fits
  cases count : pending.later with
  | zero =>
      rw [count] at form same
      exact ⟨_, [], by rw [form, tail, same], fun _ => rfl⟩
  | succ later =>
      rw [count] at form same
      exact ⟨_, _, by rw [form, tail, same], fun last => absurd last (Nat.succ_ne_zero later)⟩

-----------------------------------------------------------------------------------------
-- Beginnings
-----------------------------------------------------------------------------------------

theorem IsBeginning.of_prefix {shorter : List UInt8} (beginning : IsBeginning bytes)
    (isPrefix : shorter <+: bytes)
    : IsBeginning shorter := by
  obtain ⟨char, begins⟩ := beginning
  exact ⟨char, isPrefix.trans begins⟩

theorem Awaits.isBeginning (awaits : Awaits bytes pending) (admits : pending.Admits byte)
    : IsBeginning (bytes ++ [byte]) := by
  obtain ⟨char, more, form, -⟩ := awaits.exists_char admits
  exact ⟨char, more, by simp [form]⟩

theorem decodeFrom_some_ne_nil (pending : Pending) (bytes : List UInt8)
    : decodeFrom (some pending) bytes ≠ [] := by
  induction bytes generalizing pending with
  | nil => exact List.cons_ne_nil _ _
  | cons byte rest ih =>
      by_cases admits : pending.Admits byte
      · cases count : pending.later with
        | zero =>
            rw [decodeFrom_last count admits]
            exact List.cons_ne_nil _ _
        | succ later =>
            rw [decodeFrom_next count admits]
            exact ih _
      · rw [decodeFrom_broken admits]
        exact List.cons_ne_nil _ _

/-- No byte is read as nothing. -/
theorem decode_ne_nil (byte : UInt8) (rest : List UInt8)
    : decode (byte :: rest) ≠ [] := by
  rw [decode]
  rcases opening_cases byte with ⟨-, complete⟩ | ⟨pending, begins, -⟩ | ⟨-, invalid⟩
  · rw [decodeFrom_complete complete]
    exact List.cons_ne_nil _ _
  · rw [decodeFrom_begins begins]
    exact decodeFrom_some_ne_nil _ _
  · rw [decodeFrom_invalid invalid]
    exact List.cons_ne_nil _ _

/-- A beginning of a character without a whole one leaves a character pending. By induction on its
length: a byte that could not come next would be read as the start of another character, and there
is only one.
-/
theorem IsBeginning.awaits (beginning : IsBeginning bytes) (filled : bytes ≠ [])
    (unreadable : ∀ char, ¬ String.utf8EncodeChar char <+: bytes)
    : ∃ pending, Awaits bytes pending := by
  induction bytes using List.reverseRecOn with
  | nil => exact absurd rfl filled
  | append_singleton before byte ih =>
      have isBeginning := beginning.of_prefix (List.prefix_append before [byte])
      obtain ⟨char, rest, whole⟩ := beginning
      have read := decode_char char []
      rw [List.append_nil, ← whole, List.append_assoc, List.singleton_append] at read
      by_cases first : before = []
      · subst first
        rw [List.nil_append] at read unreadable
        rcases opening_cases byte with ⟨small, -⟩ | ⟨pending, begins, -⟩ | ⟨-, invalid⟩
        · exact absurd (by simp [encode_ascii small]) (unreadable (Char.ofNat byte.toNat))
        · exact ⟨pending, .first begins⟩
        · rw [decode, decodeFrom_invalid invalid] at read
          obtain ⟨rfl, nothing⟩ := List.cons.inj read
          cases rest with
          | nil =>
              have size : 1 ≠ (String.utf8EncodeChar replacement).length := by decide +kernel
              exact absurd (congrArg List.length whole) size
          | cons second more => exact absurd nothing (decode_ne_nil second more)
      · obtain ⟨pending, awaits⟩ :=
          ih isBeginning first fun other found =>
            unreadable other (found.trans (List.prefix_append _ _))
        by_cases admits : pending.Admits byte
        · cases count : pending.later with
          | zero =>
              obtain ⟨found, more, form, last⟩ := awaits.exists_char admits
              obtain rfl := last count
              exact absurd ⟨[], by simp [form]⟩ (unreadable found)
          | succ later => exact ⟨_, .next awaits count admits⟩
        · rw [awaits.decode_append, decodeFrom_broken admits] at read
          exact absurd (List.cons.inj read).2 (decode_ne_nil byte rest)

-----------------------------------------------------------------------------------------
-- Any bytes
-----------------------------------------------------------------------------------------

/-- A maximal invalid part is read as one replacement. -/
theorem IsMaximalInvalid.decode_append (invalid : IsMaximalInvalid part rest)
    : decode (part ++ rest) = replacement :: decode rest := by
  by_cases beginning : IsBeginning part
  · obtain ⟨pending, awaits⟩ := beginning.awaits invalid.filled fun char found =>
      invalid.unreadable char (found.trans (List.prefix_append _ _))
    rw [awaits.decode_append]
    cases rest with
    | nil => rfl
    | cons byte later =>
        refine decodeFrom_broken (fun admits => ?_) later
        have longer := invalid.longest _ ⟨later, by simp⟩ (awaits.isBeginning admits)
        rw [List.length_append, List.length_singleton] at longer
        omega
  · obtain ⟨byte, rfl⟩ := List.length_eq_one_iff.mp (invalid.isBeginning.resolve_left beginning)
    rcases opening_cases byte with ⟨small, -⟩ | ⟨pending, begins, leads⟩ | ⟨-, isInvalid⟩
    · exact absurd ⟨Char.ofNat byte.toNat, by simp [encode_ascii small]⟩ beginning
    · obtain ⟨next, admits⟩ := leads.exists_admitted
      have longer := (Awaits.first begins).isBeginning admits
      exact absurd (longer.of_prefix (List.prefix_append _ _)) beginning
    · exact decodeFrom_invalid isInvalid rest

theorem Decodes.eq_decode (decodes : Decodes bytes text)
    : text = decode bytes := by
  induction decodes with
  | nil => rfl
  | char char later ih => rw [decode_char, ih]
  | invalid invalid later ih => rw [invalid.decode_append, ih]

theorem exists_isMaximalInvalid (filled : bytes ≠ [])
    (unreadable : ∀ char, ¬ String.utf8EncodeChar char <+: bytes)
    : ∃ part rest, bytes = part ++ rest ∧ IsMaximalInvalid part rest := by
  classical
  let begins (count : Nat) : Prop := IsBeginning (bytes.take count)
  let size := Nat.findGreatest begins bytes.length
  have length := List.length_pos_iff.mpr filled
  have most : size ≤ bytes.length := Nat.findGreatest_le _
  have whole := List.take_append_drop (max size 1) bytes
  refine ⟨bytes.take (max size 1), bytes.drop (max size 1), whole.symm, ?_, ?_, ?_, ?_⟩
  · rw [← List.length_pos_iff, List.length_take]
    omega
  · rwa [whole]
  · by_cases none : size = 0
    · right
      rw [none, List.length_take]
      omega
    · left
      rw [max_eq_left (by omega)]
      have empty : begins 0 := ⟨replacement, List.nil_prefix⟩
      exact Nat.findGreatest_spec (P := begins) (Nat.zero_le _) empty
  · intro longer isPrefix beginning
    rw [whole] at isPrefix
    have fits := isPrefix.length_le
    rw [List.prefix_iff_eq_take.mp isPrefix] at beginning
    have greatest : longer.length ≤ size := Nat.le_findGreatest (P := begins) fits beginning
    rw [List.length_take]
    omega

/-- Any bytes have a text. By induction on their number. -/
theorem exists_decodes (bytes : List UInt8)
    : ∃ text, Decodes bytes text := by
  induction count : bytes.length using Nat.strong_induction_on generalizing bytes with
  | h count ih =>
      subst count
      by_cases readable : ∃ char, String.utf8EncodeChar char <+: bytes
      · obtain ⟨char, rest, rfl⟩ := readable
        have size := String.length_utf8EncodeChar char
        have positive := char.utf8Size_pos
        obtain ⟨text, decodes⟩ := ih _ (by rw [List.length_append]; omega) rest rfl
        exact ⟨_, .char char decodes⟩
      · by_cases empty : bytes = []
        · exact ⟨[], empty ▸ .nil⟩
        · obtain ⟨part, rest, rfl, invalid⟩ :=
            exists_isMaximalInvalid empty (not_exists.mp readable)
          have filled := List.length_pos_iff.mpr invalid.filled
          obtain ⟨text, decodes⟩ := ih _ (by rw [List.length_append]; omega) rest rfl
          exact ⟨_, .invalid invalid decodes⟩

/-- Bytes have one text, which is the one that is read. -/
theorem decodes_iff
    : Decodes bytes text ↔ text = decode bytes := by
  refine ⟨Decodes.eq_decode, ?_⟩
  rintro rfl
  obtain ⟨text, decodes⟩ := exists_decodes bytes
  exact decodes.eq_decode ▸ decodes

end DumpTransfer.Utf8
