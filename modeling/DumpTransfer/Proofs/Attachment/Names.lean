import DumpTransfer.ForeignKey
import DumpTransfer.Proofs.Text.Bytes
import DumpTransfer.Proofs.Text.Recording
import Mathlib.Data.List.Nodup

/-! The names under which the foreign keys of a definition are attached. Some are declared and the
others are made from the name of the table and a number, and all of them are cut to what the
warehouse keeps of a name. When they differ from each other can be told from the lengths.
-/

namespace DumpTransfer.ForeignKey

variable (definition table : Text)

/-- The names that a definition declares for foreign keys. -/
def declaredNames : List Text :=
  (named.findAll definition).filterMap fun found => SourceName.at? found.finish "name"

/-- The declarations of a definition that give no name. -/
def nameless : List Pattern.Match :=
  (unnamed.findAll definition).filter fun found =>
    !(named.findAll definition).any (isWithin found.start)

/-- The names made for a number of declarations. -/
def generatedNames (count : Nat) : List Text :=
  (List.range' 1 count).map (generatedName table)

-----------------------------------------------------------------------------------------
-- All names of a definition
-----------------------------------------------------------------------------------------

theorem namedKeys_names (declarations : List Pattern.Match)
    : (namedKeys table declarations).map (·.2.name)
      = (declarations.filterMap fun found => SourceName.at? found.finish "name").map
          Identifier.stored := by
  rw [namedKeys, List.map_filterMap, List.map_filterMap]
  congr 1
  funext found
  cases SourceName.at? found.finish "name" <;> rfl

theorem unnamedKeys_names (declarations : List Pattern.Match)
    : (unnamedKeys table declarations).map (·.2.name)
      = (generatedNames table declarations.length).map Identifier.stored := by
  rw [unnamedKeys, generatedNames, ← List.zipIdx_map_snd, List.map_map, List.map_map, List.map_map]
  rfl

/-- The foreign keys come in the order of their declarations, whichever way they are named. -/
theorem ofDefinition_names_perm
    : ((ofDefinition definition table).map (·.name)).Perm
        ((declaredNames definition
          ++ generatedNames table (nameless definition).length).map Identifier.stored) := by
  have sorted := (List.mergeSort_perm
    (namedKeys table (named.findAll definition) ++ unnamedKeys table (nameless definition))
    fun left right => left.1 ≤ right.1).map fun entry => entry.2.name
  rw [List.map_append, namedKeys_names, unnamedKeys_names, ← List.map_append] at sorted
  rw [ofDefinition, List.map_map]
  exact sorted

theorem records_name
    : named.Records "name" := by
  simp [named, SourceName.pattern, Pattern.Records]

/-- No declaration with a name is lost. -/
theorem length_declaredNames
    : (declaredNames definition).length = (named.findAll definition).length := by
  rw [declaredNames, List.length_filterMap_eq_countP, List.countP_eq_length]
  intro found member
  rw [SourceName.at?, Option.isSome_map]
  exact records_name.group?_of_mem_findAll member

/-- There is a foreign key for every declaration. -/
theorem length_ofDefinition
    : (ofDefinition definition table).length
      = (named.findAll definition).length + (nameless definition).length := by
  have lengths := (ofDefinition_names_perm definition table).length_eq
  simpa [generatedNames, length_declaredNames] using lengths

/-- A foreign key stands for a declaration that is found. -/
theorem exists_ofMatch_of_mem {key : ForeignKey} (member : key ∈ ofDefinition definition table)
    : ∃ name found, key = ofMatch table name found := by
  obtain ⟨entry, listed, rfl⟩ := List.mem_map.mp member
  rcases List.mem_append.mp (List.mem_mergeSort.mp listed) with isNamed | isUnnamed
  · obtain ⟨found, -, made⟩ := List.mem_filterMap.mp isNamed
    obtain ⟨name, -, rfl⟩ := Option.map_eq_some_iff.mp made
    exact ⟨name, found, rfl⟩
  · obtain ⟨⟨found, number⟩, -, rfl⟩ := List.mem_map.mp isUnnamed
    exact ⟨generatedName table number, found, rfl⟩

theorem table_of_mem_ofDefinition {key : ForeignKey} (member : key ∈ ofDefinition definition table)
    : key.table = table := by
  obtain ⟨name, found, rfl⟩ := exists_ofMatch_of_mem definition table member
  rfl

-----------------------------------------------------------------------------------------
-- Names that are made
-----------------------------------------------------------------------------------------

/-- What all names made for a table begin with. -/
def generatedPrefix : Text :=
  "fk_" ++ table ++ "_"

theorem generatedName_eq (number : Nat)
    : generatedName table number = generatedPrefix table ++ Text.ofNat number :=
  rfl

theorem byteLength_generatedName (number : Nat)
    : Text.byteLength (generatedName table number)
      = Text.byteLength (generatedPrefix table) + (Text.ofNat number).length := by
  rw [generatedName_eq, Text.byteLength_append, Text.byteLength_ofNat]

theorem generatedName_injective
    : Function.Injective (generatedName table) :=
  fun _ _ same => Text.ofNat_injective (List.append_cancel_left same)

/-- As many digits are kept as there is room for. -/
theorem stored_generatedName
    (fits : Text.byteLength (generatedPrefix table) ≤ Identifier.storedBytes) (number : Nat)
    : Identifier.stored (generatedName table number)
      = generatedPrefix table
        ++ (Text.ofNat number).take
            (Identifier.storedBytes - Text.byteLength (generatedPrefix table)) := by
  rw [Identifier.stored, generatedName_eq, Text.takeBytes_append fits,
    Text.takeBytes_of_single (Text.single_ofNat number)]

/-- Names whose number does not fit are cut to the same text as others. -/
theorem exists_stored_eq {count : Nat} (several : 2 ≤ count)
    (long : Identifier.storedBytes < Text.byteLength (generatedName table count))
    : ∃ left right, 1 ≤ left ∧ left < right ∧ right ≤ count
        ∧ Identifier.stored (generatedName table left)
          = Identifier.stored (generatedName table right) := by
  by_cases fits : Text.byteLength (generatedPrefix table) ≤ Identifier.storedBytes
  · cases room : Identifier.storedBytes - Text.byteLength (generatedPrefix table) with
    | zero =>
        refine ⟨1, 2, le_refl 1, Nat.one_lt_two, several, ?_⟩
        simp only [stored_generatedName table fits, room, List.take_zero]
    -- With room for some digits, the first number that has one more of them loses a zero.
    | succ places =>
        rw [byteLength_generatedName] at long
        refine ⟨10 ^ places, 10 ^ (places + 1), Nat.pow_pos (by omega),
          Nat.pow_lt_pow_right (by omega) (Nat.lt_succ_self places), ?_, ?_⟩
        · by_contra fewer
          have short := (Text.length_ofNat_le_iff (Nat.succ_pos places)).mpr (not_le.mp fewer)
          omega
        · have exact_ := Text.length_ofNat_power places
          rw [stored_generatedName table fits, stored_generatedName table fits, room,
            Text.ofNat_power, List.take_of_length_le (le_of_eq exact_),
            List.take_left' exact_]
  · refine ⟨1, 2, le_refl 1, Nat.one_lt_two, several, ?_⟩
    have cut (number : Nat) := Text.takeBytes_append_of_lt (not_le.mp fits) (Text.ofNat number)
    rw [Identifier.stored, Identifier.stored, generatedName_eq, generatedName_eq, cut, cut]

/-- Made names stay apart when there is at most one of them or when the last one fits. -/
theorem generatedNames_nodup_iff (count : Nat)
    : ((generatedNames table count).map Identifier.stored).Nodup
      ↔ count ≤ 1
        ∨ Text.byteLength (generatedName table count) ≤ Identifier.storedBytes := by
  rw [generatedNames, List.map_map]
  refine ⟨fun apart => ?_, ?_⟩
  · by_contra neither
    rw [not_or, not_le, not_le] at neither
    obtain ⟨left, right, isThere, less, last, same⟩ := exists_stored_eq table neither.1 neither.2
    have equal := List.inj_on_of_nodup_map apart (List.mem_range'_1.mpr ⟨isThere, by omega⟩)
      (List.mem_range'_1.mpr ⟨by omega, by omega⟩) same
    omega
  · rintro (few | fits)
    · obtain rfl | rfl := Nat.le_one_iff_eq_zero_or_eq_one.mp few
      · exact List.nodup_nil
      · exact List.nodup_singleton _
    · have whole : ∀ number ∈ List.range' 1 count,
          (Identifier.stored ∘ generatedName table) number = generatedName table number := by
        intro number member
        have less := List.mem_range'_1.mp member
        have shorter := Text.length_ofNat_mono (show number ≤ count by omega)
        rw [byteLength_generatedName] at fits
        exact Text.takeBytes_of_fits (by rw [byteLength_generatedName]; omega)
      rw [List.map_congr_left whole]
      exact List.Nodup.map (generatedName_injective table) List.nodup_range'

-----------------------------------------------------------------------------------------
-- Names that stay apart
-----------------------------------------------------------------------------------------

/-- The names of a definition stay apart when they are cut. -/
structure NamedApart : Prop where
  declared : ((declaredNames definition).map Identifier.stored).Nodup
  generated
    : (nameless definition).length ≤ 1
      ∨ Text.byteLength (generatedName table (nameless definition).length)
          ≤ Identifier.storedBytes
  between
    : ∀ name ∈ declaredNames definition,
        ∀ generated ∈ generatedNames table (nameless definition).length,
          Identifier.stored name ≠ Identifier.stored generated

theorem namedApart_iff
    : NamedApart definition table
      ↔ ((declaredNames definition).map Identifier.stored).Nodup
        ∧ ((nameless definition).length ≤ 1
          ∨ Text.byteLength (generatedName table (nameless definition).length)
              ≤ Identifier.storedBytes)
        ∧ ∀ name ∈ declaredNames definition,
            ∀ generated ∈ generatedNames table (nameless definition).length,
              Identifier.stored name ≠ Identifier.stored generated :=
  ⟨fun ⟨declared, generated, between⟩ => ⟨declared, generated, between⟩,
    fun ⟨declared, generated, between⟩ => ⟨declared, generated, between⟩⟩

instance : Decidable (NamedApart definition table) :=
  decidable_of_iff _ (namedApart_iff definition table).symm

/-- Foreign keys of a definition have different names when their names stay apart. -/
theorem names_nodup_iff
    : ((ofDefinition definition table).map (·.name)).Nodup ↔ NamedApart definition table := by
  rw [(ofDefinition_names_perm definition table).nodup_iff, List.map_append, List.nodup_append,
    generatedNames_nodup_iff, namedApart_iff]
  simp only [List.forall_mem_map]

end DumpTransfer.ForeignKey
