import DumpTransfer.Proofs.Conversion.InsertionLiterals

/-! Names of several parts in insertions that are completed. The parts stay as they are until the
name is read, and the last of them is placed in the target.
-/

namespace DumpTransfer.Conversion.Insertion

open Sql
open Completion (Written)

-----------------------------------------------------------------------------------------
-- Parts
-----------------------------------------------------------------------------------------

/-- A part of a name in standard form. -/
def partText (part : NamePart) : Text :=
  match part.quote with
  | some _ => nameText '"' part.value
  | none => part.value

/-- A part without quotes is one that needs none. -/
def IsStandard (part : NamePart) : Prop :=
  part.quote = none → Identifier.isPlain part.value = true

/-- A name in standard form. -/
def dotted (parts : List NamePart) : Text :=
  Text.joinWith "." (parts.map partText)

/-- A part with its null characters gone. -/
def keptPart (part : NamePart) : NamePart :=
  { part with value := kept part.value }

variable {part : NamePart} {parts : List NamePart} {rest : Text}

theorem dotted_cons (first second : NamePart) (others : List NamePart)
    : dotted (first :: second :: others)
      = partText first ++ '.' :: dotted (second :: others) := by
  simp [dotted, Text.joinWith, Text.ofString_eq]

theorem not_mem_of_isPlain {name : Text} (plain : Identifier.isPlain name = true) {char : Char}
    (other : Identifier.isPlainPart char = false)
    : char ∉ name := fun member =>
  Bool.noConfusion ((ObjectName.isPlainPart_of_mem plain char member).symm.trans other)

theorem unquoted_of_isPlain {name : Text} (plain : Identifier.isPlain name = true)
    : Unquoted name :=
  unquoted_of Identifier.isPlainPart (ObjectName.isPlainPart_of_mem plain) (by decide)

theorem keptPart_isStandard (standard : IsStandard part)
    : IsStandard (keptPart part) := by
  intro bare
  have plain := standard bare
  have same : kept part.value = part.value := kept_of_not_mem (not_mem_of_isPlain plain rfl)
  rw [keptPart, same]
  exact plain

-----------------------------------------------------------------------------------------
-- Passes
-----------------------------------------------------------------------------------------

theorem requoted_partText (standard : IsStandard part) (rest : Text)
    : requoted (partText part ++ rest) = partText part ++ requoted rest := by
  unfold partText
  cases quote : part.quote with
  | some _ => exact requoted_doubleName part.value rest
  | none => exact requoted_unquoted (unquoted_of_isPlain (standard quote)) rest

theorem kept_partText (standard : IsStandard part) (rest : Text)
    : kept (partText part ++ rest) = partText (keptPart part) ++ kept rest := by
  unfold partText
  cases quote : part.quote with
  | some _ => simp [keptPart, quote, kept_append, kept_nameText]
  | none =>
      have absent : '\x00' ∉ part.value := not_mem_of_isPlain (standard quote) rfl
      simp [keptPart, quote, kept_append, kept_of_not_mem absent]

theorem isCode_partText (standard : IsStandard part)
    : Segment.IsCode (partText part) := by
  unfold partText
  cases quote : part.quote with
  | some _ => exact Segment.isCode_name (Or.inr rfl) part.value
  | none => exact Segment.isCode_unquoted (unquoted_of_isPlain (standard quote))

theorem unquoted_dot
    : Unquoted ['.'] := by
  simp [Unquoted]

/-- A pass that keeps dots and changes every part of a name by itself. -/
theorem dotted_pass {pass : Text → Text} {change : NamePart → NamePart}
    (keepsDot : ∀ rest, pass (['.'] ++ rest) = ['.'] ++ pass rest)
    (changesPart : ∀ part, IsStandard part → ∀ rest,
      pass (partText part ++ rest) = partText (change part) ++ pass rest)
    (standard : ∀ part ∈ parts, IsStandard part) (rest : Text)
    : pass (dotted parts ++ rest) = dotted (parts.map change) ++ pass rest := by
  induction parts with
  | nil => rfl
  | cons first others ih =>
      have firstPart := changesPart first (standard first (by simp))
      cases others with
      | nil => exact firstPart rest
      | cons second more =>
          have later := ih fun part member => standard part (by simp [member])
          rw [dotted_cons, List.append_assoc, firstPart, List.cons_append,
            ← List.singleton_append, keepsDot, later, List.map_cons, List.map_cons]
          simp [dotted_cons]

theorem requoted_dotted (standard : ∀ part ∈ parts, IsStandard part) (rest : Text)
    : requoted (dotted parts ++ rest) = dotted parts ++ requoted rest := by
  have passed : requoted (dotted parts ++ rest) = dotted (parts.map id) ++ requoted rest :=
    dotted_pass (requoted_unquoted unquoted_dot)
      (fun _ isStandard => requoted_partText isStandard) standard rest
  rwa [List.map_id] at passed

theorem kept_dotted (standard : ∀ part ∈ parts, IsStandard part) (rest : Text)
    : kept (dotted parts ++ rest) = dotted (parts.map keptPart) ++ kept rest :=
  dotted_pass (kept_append_of_not_mem (by decide)) (fun _ isStandard => kept_partText isStandard)
    standard rest

theorem isCode_dotted (standard : ∀ part ∈ parts, IsStandard part)
    : Segment.IsCode (dotted parts) := by
  induction parts with
  | nil => exact Segment.isCode_unquoted (by simp [dotted, Text.joinWith, Unquoted])
  | cons first others ih =>
      cases others with
      | nil => exact isCode_partText (standard first (by simp))
      | cons second more =>
          have later := ih fun part member => standard part (by simp [member])
          rw [dotted_cons, ← List.singleton_append]
          exact (isCode_partText (standard first (by simp))).append
            ((Segment.isCode_unquoted unquoted_dot).append later)

-----------------------------------------------------------------------------------------
-- Reading
-----------------------------------------------------------------------------------------

/-- A part begins with no white space of any kind. -/
theorem exists_partText (standard : IsStandard part)
    : ∃ first others, partText part = first :: others ∧ Alphabet.isBlank first = false
        ∧ Alphabet.isAsciiBlank first = false := by
  unfold partText
  cases quote : part.quote with
  | some _ => exact ⟨'"', _, rfl, rfl, rfl⟩
  | none =>
      have plain := standard quote
      cases value : part.value with
      | nil =>
          rw [value] at plain
          cases plain
      | cons first others =>
          have inPart := ObjectName.isPlainPart_of_mem plain first (by simp [value])
          refine ⟨first, others, rfl, ?_, ?_⟩
          · refine Bool.eq_false_iff.mpr fun blank => ?_
            have noPart := Alphabet.holds_of_isBlank (! Identifier.isPlainPart ·)
              (by decide +kernel) blank
            simp [inPart] at noPart
          · refine Bool.eq_false_iff.mpr fun blank => ?_
            simp only [Alphabet.isAsciiBlank, Bool.or_eq_true, decide_eq_true_eq] at blank
            rcases blank with (((rfl | rfl) | rfl) | rfl) | rfl <;> cases inPart

theorem exists_dotted (isThere : parts ≠ []) (standard : ∀ part ∈ parts, IsStandard part)
    : ∃ first others, dotted parts = first :: others ∧ Alphabet.isBlank first = false
        ∧ Alphabet.isAsciiBlank first = false := by
  obtain ⟨part, more, rfl⟩ := List.exists_cons_of_ne_nil isThere
  obtain ⟨first, others, same, notBlank⟩ := exists_partText (standard part (by simp))
  cases more with
  | nil => exact ⟨first, others, same, notBlank⟩
  | cons second last =>
      exact ⟨first, others ++ '.' :: dotted (second :: last), by simp [dotted_cons, same],
        notBlank⟩

/-- No character of a word comes next, and no double quote. -/
def EndsPart (rest : Text) : Prop :=
  ∀ char ∈ rest.head?, ObjectName.isWordPart char = false ∧ char ≠ '"'

theorem readPart_partText (standard : IsStandard part) (ends : EndsPart rest)
    : ObjectName.readPart (partText part ++ rest) = some (part.value, rest) := by
  unfold partText
  cases quote : part.quote with
  | some _ =>
      have stop : rest.head? ≠ some '"' := fun same => (ends '"' same).2 rfl
      simpa [nameText, ObjectName.readPart] using ObjectName.readQuoted_doubling part.value stop
  | none =>
      have plain := standard quote
      have words : ∀ char ∈ part.value, ObjectName.isWordPart char = true := fun char member =>
        (ObjectName.isWordPart_of_isPlainPart (ObjectName.isPlainPart_of_mem plain char member)).1
      have starts : part.value.head?.any ObjectName.isWordStart = true := by
        cases value : part.value with
        | nil =>
            rw [value] at plain
            cases plain
        | cons first others =>
            have inPart := ObjectName.isPlainPart_of_mem plain first (by simp [value])
            rw [value, Identifier.isPlain, Bool.and_eq_true] at plain
            exact (ObjectName.isWordPart_of_isPlainPart inPart).2 plain.1
      have read := ObjectName.readPart_word starts fun char head => (ends char head).1
      rw [List.takeWhile_eq_self_iff.mpr words, List.dropWhile_eq_nil_iff.mpr words] at read
      exact read

theorem afterDot?_dot (isThere : parts ≠ []) (standard : ∀ part ∈ parts, IsStandard part)
    (rest : Text)
    : ObjectName.afterDot? ('.' :: (dotted parts ++ rest)) = some (dotted parts ++ rest) := by
  obtain ⟨first, others, same, _, notBlank⟩ := exists_dotted isThere standard
  rw [same]
  change some (List.dropWhile Alphabet.isAsciiBlank (first :: (others ++ rest))) = _
  rw [List.dropWhile_cons_of_neg (by simp [notBlank])]
  rfl

/-- The parts of a name are read one by one. -/
theorem readParts_dotted (isThere : parts ≠ []) (standard : ∀ part ∈ parts, IsStandard part)
    (ends : EndsPart rest) (noDot : ObjectName.afterDot? rest = none) {bound : Nat}
    (enough : parts.length ≤ bound)
    : ObjectName.readParts bound (dotted parts ++ rest)
      = some (parts.map (·.value), rest) := by
  induction parts generalizing bound with
  | nil => exact absurd rfl isThere
  | cons first others ih =>
      obtain ⟨less, rfl⟩ : ∃ less, bound = less + 1 := ⟨bound - 1, by simp at enough; omega⟩
      have isStandard := standard first (by simp)
      cases others with
      | nil =>
          have read := readPart_partText isStandard ends
          rw [ObjectName.readParts]
          simp [dotted, Text.joinWith, read, noDot]
      | cons second more =>
          have standardLater : ∀ part ∈ second :: more, IsStandard part :=
            fun part member => standard part (by simp [member])
          have later := ih (by simp) standardLater (by simp at enough ⊢; omega)
          have atDot : EndsPart ('.' :: (dotted (second :: more) ++ rest)) := by
            intro char head
            obtain rfl := Option.some.inj head
            decide
          have read := readPart_partText isStandard atDot
          have dot := afterDot?_dot (by simp) standardLater rest
          rw [ObjectName.readParts, dotted_cons, List.append_assoc, List.cons_append, read]
          simp [dot, later]

theorem length_le_dotted (parts : List NamePart)
    : parts.length ≤ (dotted parts).length + 1 := by
  induction parts with
  | nil => simp
  | cons first others ih =>
      cases others with
      | nil => simp
      | cons second more =>
          rw [dotted_cons]
          simp at ih ⊢
          omega

/-- The last part of a name is placed in the target. -/
theorem placeNames_dotted (target : Destination) (isThere : parts ≠ [])
    (standard : ∀ part ∈ parts, IsStandard part) (ends : EndsPart rest)
    (noDot : ObjectName.afterDot? rest = none) (bound : Nat)
    : Completion.placeNames target false (bound + 1) (dotted parts ++ rest)
      = target.qualify ((parts.map (·.value)).getLastD []) ++ rest := by
  have enough : parts.length ≤ (dotted parts ++ rest).length + 1 := by
    have shorter := length_le_dotted parts
    rw [List.length_append]
    omega
  have read : ObjectName.read? (dotted parts ++ rest) = some (parts.map (·.value), rest) :=
    readParts_dotted isThere standard ends noDot enough
  rw [Completion.placeNames, read]

/-- The forms of a name of several parts, of which the last names the table. -/
theorem forms_dotted (target : Destination) (isThere : parts ≠ [])
    (standard : ∀ part ∈ parts, IsStandard part)
    : NameForms target (dotted parts) (dotted (parts.map keptPart))
        (target.qualify (((parts.map keptPart).map (·.value)).getLastD [])) := by
  have isThereKept : parts.map keptPart ≠ [] := by simpa using isThere
  have standardKept : ∀ part ∈ parts.map keptPart, IsStandard part := by
    intro part member
    obtain ⟨original, inParts, rfl⟩ := List.mem_map.mp member
    exact keptPart_isStandard (standard original inParts)
  have ends {rest : Text} (ends : Ends rest) : EndsPart rest := fun char head =>
    ⟨(isNamePart_of_isSign (ends.isOver char head)).1,
      fun same => ends.not_mem rfl (same ▸ head)⟩
  have stops (rest : Text) : ∀ char ∈ (dotted (parts.map keptPart) ++ rest).head?,
      Alphabet.isBlank char = false := by
    intro char head
    obtain ⟨first, others, same, notBlank, _⟩ := exists_dotted isThereKept standardKept
    rw [same] at head
    obtain rfl := Option.some.inj head
    exact notBlank
  exact {
    requoted := fun _ => requoted_dotted standard _
    kept := kept_dotted standard
    literals := fun _ _ _ => literalsFrom_code (isCode_dotted standardKept) _ _
    stops
    places := fun bound _ isOver noDot =>
      placeNames_dotted target isThereKept standardKept (ends isOver) noDot bound }

end DumpTransfer.Conversion.Insertion
