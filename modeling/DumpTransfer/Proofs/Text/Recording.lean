import DumpTransfer.Proofs.Text.Meaning
import Mathlib.Data.List.Basic

/-! Labels that a pattern records whenever it matches. Groups are only ever added on the way
through a pattern, so a label that stands on every way is there in the end.
-/

namespace DumpTransfer

namespace Place

/-- A piece has been recorded under a label. -/
def HasLabel (place : Place) (label : String) : Prop :=
  ∃ span, (label, span) ∈ place.groups

theorem HasLabel.of_suffix {place later : Place} {label : String} (has : place.HasLabel label)
    (kept : place.groups <:+ later.groups)
    : later.HasLabel label :=
  has.imp fun _ member => kept.subset member

theorem HasLabel.group? {place : Place} {label : String} (has : place.HasLabel label)
    : (place.group? label).isSome = true := by
  obtain ⟨span, member⟩ := has
  rw [Place.group?, Option.isSome_map, Option.isSome_iff_ne_none, Ne, List.lookup_eq_none_iff]
  intro missing
  simpa using missing _ member

end Place

namespace Pattern

/-- Every way through the pattern records a label. -/
def Records (label : String) : Pattern → Prop
  | seq first second => first.Records label ∨ second.Records label
  | alt first second => first.Records label ∧ second.Records label
  | group own body => own = label ∨ body.Records label
  | one _ | run _ | shortRun _ | check _ | many _ => False

@[simp] theorem records_append {label : String} {first second : Pattern}
    : (first ++ second).Records label ↔ first.Records label ∨ second.Records label :=
  Iff.rfl

variable {pattern : Pattern} {place reached : Place}

/-- A match only adds groups, and leaves a label that is recorded on every way. By induction on the
pattern.
-/
theorem Matches.records (matched : pattern.Matches place reached) (label : String)
    : place.groups <:+ reached.groups
      ∧ (pattern.Records label → reached.HasLabel label) := by
  induction pattern generalizing place reached with
  | one accepts =>
      obtain ⟨_, _, _, _, rfl⟩ := matched
      exact ⟨List.suffix_refl _, nofun⟩
  | run accepts | shortRun accepts =>
      obtain ⟨_, _, _, _, rfl⟩ := matched
      exact ⟨List.suffix_refl _, nofun⟩
  | check holds =>
      obtain ⟨_, rfl⟩ := matched
      exact ⟨List.suffix_refl _, nofun⟩
  | seq first second ihFirst ihSecond =>
      obtain ⟨between, matchedFirst, matchedSecond⟩ := matched
      have ⟨kept, inFirst⟩ := ihFirst matchedFirst
      have ⟨keptLater, inSecond⟩ := ihSecond matchedSecond
      refine ⟨kept.trans keptLater, ?_⟩
      rintro (records | records)
      · exact (inFirst records).of_suffix keptLater
      · exact inSecond records
  | alt first second ihFirst ihSecond =>
      rcases matched with matched | matched
      · have ⟨kept, inFirst⟩ := ihFirst matched
        exact ⟨kept, fun records => inFirst records.1⟩
      · have ⟨kept, inSecond⟩ := ihSecond matched
        exact ⟨kept, fun records => inSecond records.2⟩
  | many body ih =>
      refine ⟨?_, nofun⟩
      induction matched with
      | done place => exact List.suffix_refl _
      | more first _ _ ihLater => exact (ih first).1.trans ihLater
  | group own body ih =>
      obtain ⟨inner, inside, rfl⟩ := matched
      have ⟨kept, inBody⟩ := ih inside
      have added : inner.groups <:+ (inner.record own place).groups := List.suffix_cons _ _
      refine ⟨kept.trans added, ?_⟩
      rintro (rfl | records)
      · exact ⟨_, List.mem_cons_self⟩
      · exact (inBody records).of_suffix added

/-- What is found has been matched at some place. -/
theorem exists_matchAt?_of_findFrom {skipped after : Text} {found : Match}
    (search : pattern.findFrom skipped after place = some found)
    : ∃ start, pattern.matchAt? start = some found.finish := by
  induction after generalizing skipped place with
  | nil =>
      rw [findFrom] at search
      split at search
      · cases search
        exact ⟨place, ‹_›⟩
      · cases search
  | cons char rest ih =>
      rw [findFrom] at search
      split at search
      · cases search
        exact ⟨place, ‹_›⟩
      · exact ih search

theorem exists_matchAt?_of_mem_findAllFrom {bound : Nat} {found : Match}
    (member : found ∈ pattern.findAllFrom bound place)
    : ∃ start, pattern.matchAt? start = some found.finish := by
  induction bound generalizing place with
  | zero => cases member
  | succ bound ih =>
      rw [findAllFrom] at member
      split at member
      · cases member
      · rename_i first search
        split at member
        · obtain rfl := List.mem_singleton.mp member
          exact exists_matchAt?_of_findFrom search
        · rcases List.mem_cons.mp member with rfl | later
          · exact exists_matchAt?_of_findFrom search
          · exact ih later

/-- A label that stands on every way through a pattern is recorded with every match. -/
theorem Records.group?_of_mem_findAll {pattern : Pattern} {label : String}
    (records : pattern.Records label) {text : Text} {found : Match}
    (member : found ∈ pattern.findAll text)
    : (found.finish.group? label).isSome = true := by
  obtain ⟨start, found⟩ := exists_matchAt?_of_mem_findAllFrom member
  obtain ⟨_, matched, same⟩ := exists_of_andThen found
  obtain rfl := Option.some.inj same
  exact ((matched.records label).2 records).group?

end Pattern

end DumpTransfer
