import DumpTransfer.Proofs.Text.Meaning
import DumpTransfer.Proofs.Text.Taking

/-! What a search tells of a text: where matches begin and end, and the texts that they record. A
pattern that takes a known text records known texts on the way, and a search passes over all places
where the pattern cannot match.
-/

namespace DumpTransfer

-----------------------------------------------------------------------------------------
-- Notes
-----------------------------------------------------------------------------------------

/-- Texts with the labels under which they are recorded, the last one first. -/
abbrev Notes :=
  List (String × Text)

namespace Place

/-- The texts that are recorded at a place. -/
def notes (place : Place) : Notes :=
  place.groups.map fun (label, span) => (label, span.text)

theorem group?_eq (place : Place) (label : String)
    : place.group? label = place.notes.lookup label := by
  unfold group? notes
  induction place.groups with
  | nil => rfl
  | cons group others ih =>
      obtain ⟨other, span⟩ := group
      rw [List.map_cons, List.lookup_cons, List.lookup_cons]
      cases label == other with
      | true => rfl
      | false => exact ih

theorem Reads.textSince_eq {place reached : Place} {text : Text} (reads : place.Reads text reached)
    : reached.textSince place = text := by
  simp [textSince, spanSince, Span.text, reads.before, reads.offset]

theorem Reads.rest_eq {place reached : Place} {text rest : Text} (reads : place.Reads text reached)
    (after : place.after = text ++ rest)
    : reached.after = rest :=
  List.append_cancel_left (reads.after.symm.trans after)

end Place

namespace Pattern

variable {first second body pattern : Pattern} {text more rest : Text} {notes others : Notes}
variable {place reached : Place}

/-- The pattern takes a text before another one and records texts on the way, if the match goes on
after it.
-/
def TakesNoting (pattern : Pattern) (text rest : Text) (notes : Notes) : Prop :=
  ∀ place : Place, place.after = text ++ rest →
    ∃ reached, place.Reads text reached ∧ reached.notes = notes ++ place.notes
      ∧ ∀ (next : Continuation) (result : Place), next reached = some result →
          pattern.andThen next place = some result

theorem Takes.noting (takes : pattern.Takes text rest)
    : pattern.TakesNoting text rest [] :=
  fun place after => ⟨place.past text rest, Place.reads_past after, rfl,
    fun next result => takes next place result after⟩

theorem TakesNoting.append (takesFirst : first.TakesNoting text (more ++ rest) notes)
    (takesSecond : second.TakesNoting more rest others)
    : (first ++ second).TakesNoting (text ++ more) rest (others ++ notes) := by
  intro place after
  obtain ⟨between, reads, noted, goesOn⟩ := takesFirst place (by rw [after, List.append_assoc])
  have left : between.after = more ++ rest := reads.rest_eq (by rw [after, List.append_assoc])
  obtain ⟨reached, readsMore, notedMore, ends⟩ := takesSecond between left
  refine ⟨reached, reads.trans readsMore, by rw [notedMore, noted, List.append_assoc], ?_⟩
  exact fun next result found => goesOn _ result (ends next result found)

theorem TakesNoting.group (takes : body.TakesNoting text rest notes) (label : String)
    : (group label body).TakesNoting text rest ((label, text) :: notes) := by
  intro place after
  obtain ⟨reached, reads, noted, goesOn⟩ := takes place after
  refine ⟨reached.record label place, ⟨reads.offset, reads.before, reads.after⟩, ?_, ?_⟩
  · have since : (reached.spanSince place).text = text := reads.textSince_eq
    change (label, (reached.spanSince place).text) :: reached.notes = _
    rw [since, noted]
    rfl
  · exact fun next result found => goesOn _ result found

theorem TakesNoting.optional (takes : body.TakesNoting text rest notes)
    : (optional body).TakesNoting text rest notes := by
  intro place after
  obtain ⟨reached, reads, noted, goesOn⟩ := takes place after
  exact ⟨reached, reads, noted, fun next result found =>
    orElse_andThen_of_some (goesOn next result found)⟩

/-- Nothing is taken for a shape that is missed together with what comes after it. -/
theorem Misses.optional_append_noting (misses : (body ++ second).Misses (text ++ rest))
    (takes : second.TakesNoting text rest notes)
    : (Pattern.optional body ++ second).TakesNoting text rest notes := by
  intro place after
  obtain ⟨reached, reads, noted, goesOn⟩ := takes place after
  refine ⟨reached, reads, noted, fun next result found => ?_⟩
  have nothing : body.andThen (second.andThen next) place = none := misses next place after
  rw [append_andThen, optional_andThen_of_none nothing]
  exact goesOn next result found

/-- What matches nowhere is missed. -/
theorem misses_of_not_matches
    (not : ∀ place reached : Place, place.after = text → ¬ pattern.Matches place reached)
    : pattern.Misses text := by
  intro next place after
  refine Option.eq_none_iff_forall_ne_some.mpr fun result found => ?_
  obtain ⟨between, matched, -⟩ := exists_of_andThen found
  exact not place between after matched

-----------------------------------------------------------------------------------------
-- Searches
-----------------------------------------------------------------------------------------

/-- Where a match begins and ends, and what it records. -/
structure Finding where
  start : Nat
  stop : Nat
  notes : Notes

def Match.finding (found : Match) : Finding :=
  ⟨found.start, found.finish.offset, found.finish.notes⟩

/-- The same found at other places. -/
def Finding.moved (move : Nat → Nat) (finding : Finding) : Finding :=
  ⟨move finding.start, move finding.stop, finding.notes⟩

/-- The pattern matches nowhere before the end of a text that another one follows. -/
def Avoids (pattern : Pattern) (place : Place) (text rest : Text) : Prop :=
  ∀ before after reached, text = before ++ after → after ≠ [] →
    ¬ pattern.Matches (place.past before (after ++ rest)) reached

theorem matchAt?_eq_none (not : ∀ reached, ¬ pattern.Matches place reached)
    : pattern.matchAt? place = none :=
  Option.not_isSome_iff_eq_none.mp fun found =>
    have ⟨reached, matched⟩ := matchAt?_isSome_iff.mp found
    not reached matched

/-- A pattern that begins with none of the characters of a text does not match in it. -/
theorem avoids_of_cannotBegin (cannot : ∀ char ∈ text, pattern.CannotBegin char)
    : pattern.Avoids place text rest := by
  intro before after reached split isThere matched
  obtain ⟨char, more, rfl⟩ := List.exists_cons_of_ne_nil isThere
  obtain ⟨found, some⟩ := Option.isSome_iff_exists.mp (matchAt?_isSome_iff.mpr ⟨reached, matched⟩)
  have none := cannot char (by simp [split]) Option.some
    (place.past before (char :: more ++ rest)) (more ++ rest) rfl
  cases some.symm.trans none

/-- A search goes on past a text in which the pattern does not match. -/
theorem findFrom_of_avoids (avoids : pattern.Avoids place text rest)
    (after : place.after = text ++ rest) (skipped : Text)
    : pattern.findFrom skipped (text ++ rest) place
      = pattern.findFrom (text.reverse ++ skipped) rest (place.past text rest) := by
  induction text generalizing place skipped with
  | nil =>
      have stays : place.past [] rest = place := Place.past_nil after
      rw [stays]
      rfl
  | cons char more ih =>
      have here : pattern.matchAt? place = none := by
        refine matchAt?_eq_none fun reached => ?_
        have not := avoids [] (char :: more) reached rfl (List.cons_ne_nil _ _)
        rwa [Place.past_nil after] at not
      have later : pattern.Avoids (place.past [char] (more ++ rest)) more rest := by
        intro before left reached split isThere
        rw [Place.past_past]
        exact avoids (char :: before) left reached (by rw [split]; rfl) isThere
      rw [List.cons_append, findFrom, here]
      dsimp only
      rw [Place.advance_eq, ih later rfl, Place.past_past]
      simp

theorem findFrom_here {finish : Place} (found : pattern.matchAt? place = some finish)
    (skipped after : Text)
    : pattern.findFrom skipped after place
      = some ⟨place.offset, skipped.reverse, finish.textSince place, finish⟩ := by
  cases after <;> rw [findFrom, found]

/-- Nothing is found in a text in which the pattern does not match, not even at its end. -/
theorem findAllFrom_of_avoids (avoids : pattern.Avoids place text [])
    (atEnd : ∀ reached, ¬ pattern.Matches (place.past text []) reached)
    (after : place.after = text) (bound : Nat)
    : pattern.findAllFrom bound place = [] := by
  have split : place.after = text ++ [] := by rw [after, List.append_nil]
  cases bound with
  | zero => rfl
  | succ bound =>
      rw [findAllFrom, split, findFrom_of_avoids avoids split, findFrom, matchAt?_eq_none atEnd]

/-- The pattern matches at a place, takes a text and records others. -/
def MatchesNoting (pattern : Pattern) (place : Place) (text : Text) (notes : Notes) : Prop :=
  ∃ reached, pattern.matchAt? place = some reached ∧ place.Reads text reached
    ∧ reached.notes = notes ++ place.notes

/-- The first match comes after a text in which the pattern does not match, and the search goes on
after it.
-/
theorem findings_of_matches {gap : Text} (avoids : pattern.Avoids place gap (text ++ rest))
    (matched : pattern.MatchesNoting (place.past gap (text ++ rest)) text notes)
    (isThere : text ≠ []) (after : place.after = gap ++ (text ++ rest)) (clean : place.groups = [])
    (bound : Nat)
    : (pattern.findAllFrom (bound + 1) place).map Match.finding
      = ⟨place.offset + gap.length, place.offset + gap.length + text.length, notes⟩
        :: (pattern.findAllFrom bound (place.past (gap ++ text) rest)).map Match.finding := by
  obtain ⟨finish, found, reads, noted⟩ := matched
  have here : (place.past gap (text ++ rest)).after = text ++ rest := rfl
  have cleared : { finish with groups := [] } = place.past (gap ++ text) rest := by
    have offset := reads.offset
    have before := reads.before
    have left := reads.rest_eq here
    cases finish
    cases place
    simp_all [Place.past, Nat.add_assoc]
  obtain ⟨char, more, spelled⟩ := List.exists_cons_of_ne_nil isThere
  rw [findAllFrom, after, findFrom_of_avoids avoids after, findFrom_here found]
  dsimp only
  rw [resume, reads.textSince_eq, spelled]
  dsimp only
  rw [cleared, ← spelled, List.map_cons, Match.finding]
  have noNotes : (place.past gap (text ++ rest)).notes = [] := by
    rw [Place.notes, Place.past, clean]
    rfl
  simp only [reads.offset, noted, noNotes, List.append_nil]
  rfl

-----------------------------------------------------------------------------------------
-- Searches step by step
-----------------------------------------------------------------------------------------

/-- What a search finds from a place on. -/
def findingsFrom (pattern : Pattern) (bound : Nat) (place : Place) : List Finding :=
  (pattern.findAllFrom bound place).map Match.finding

/-- The text passed over on the way plays no role in a search. -/
theorem findFrom_skipped (skipped text : Text) (place : Place)
    : pattern.findFrom skipped text place
      = (pattern.findFrom [] text place).map fun found =>
          { found with skipped := skipped.reverse ++ found.skipped } := by
  induction text generalizing skipped place with
  | nil =>
      rw [findFrom, findFrom]
      cases pattern.matchAt? place <;> simp
  | cons char rest ih =>
      rw [findFrom, findFrom]
      cases pattern.matchAt? place with
      | some finish => simp
      | none =>
          dsimp only
          rw [ih (char :: skipped), ih [char], Option.map_map]
          congr 1
          funext found
          simp

/-- Where there is no match, the search goes on with the next character. -/
theorem findingsFrom_of_none {char : Char} (none : pattern.matchAt? place = none)
    (after : place.after = char :: rest) (bound : Nat)
    : pattern.findingsFrom bound place = pattern.findingsFrom bound (place.past [char] rest) := by
  cases bound with
  | zero => rfl
  | succ bound =>
      rw [findingsFrom, findingsFrom, findAllFrom, findAllFrom, after, findFrom, none]
      dsimp only
      rw [findFrom_skipped, Place.advance_eq, Place.past_after]
      cases pattern.findFrom [] rest (place.past [char] rest) with
      | none => rfl
      | some found =>
          obtain ⟨start, skipped, matched, finish⟩ := found
          simp only [Option.map_some, resume]
          cases matched <;> cases finish.after <;> rfl

theorem findingsFrom_of_end (none : pattern.matchAt? place = none) (after : place.after = [])
    (bound : Nat)
    : pattern.findingsFrom bound place = [] := by
  cases bound with
  | zero => rfl
  | succ bound =>
      rw [findingsFrom, findAllFrom, after, findFrom, none]
      rfl

/-- A match is found where it begins, and the search goes on after it. -/
theorem findingsFrom_of_some {finish : Place} (found : pattern.matchAt? place = some finish)
    (reads : place.Reads text finish) (isThere : text ≠ []) (clean : place.groups = [])
    (bound : Nat)
    : pattern.findingsFrom (bound + 1) place
      = ⟨place.offset, finish.offset, finish.notes⟩
        :: pattern.findingsFrom bound (place.past text finish.after) := by
  have noNotes : place.notes = [] := by rw [Place.notes, clean, List.map_nil]
  have here : place.past [] (text ++ finish.after) = place := Place.past_nil reads.after
  have matched
      : pattern.MatchesNoting (place.past [] (text ++ finish.after)) text finish.notes := by
    rw [here]
    exact ⟨finish, found, reads, by rw [noNotes, List.append_nil]⟩
  have step := findings_of_matches (avoids_of_cannotBegin (List.forall_mem_nil _)) matched isThere
    reads.after clean bound
  rw [findingsFrom, step, reads.offset]
  rfl

/-- The pattern does not match the empty text. -/
def Filled (pattern : Pattern) : Prop :=
  ∀ place reached, pattern.Matches place reached → place.offset < reached.offset

theorem Filled.reads {finish : Place} (filled : pattern.Filled)
    (found : pattern.matchAt? place = some finish)
    : ∃ text, text ≠ [] ∧ place.Reads text finish := by
  have ⟨matched, reads⟩ := matches_of_matchAt? found
  refine ⟨_, fun none => ?_, reads⟩
  have further := filled _ _ matched
  rw [reads.offset, none] at further
  exact Nat.lt_irrefl _ further

theorem Filled.matchAt?_of_end (filled : pattern.Filled) (after : place.after = [])
    : pattern.matchAt? place = none := by
  refine Option.eq_none_iff_forall_ne_some.mpr fun finish found => ?_
  obtain ⟨text, isThere, reads⟩ := filled.reads found
  exact isThere (List.append_eq_nil_iff.mp (reads.after.symm.trans after)).1

/-- What a search finds begins at its place or after it, and has characters. By induction on how
much follows.
-/
theorem Filled.of_mem_findingsFrom (filled : pattern.Filled) (clean : place.groups = [])
    {bound : Nat} {finding : Finding} (member : finding ∈ pattern.findingsFrom bound place)
    : place.offset ≤ finding.start ∧ finding.start < finding.stop := by
  generalize same : place.after.length = length
  induction length using Nat.strongRecOn generalizing place bound with
  | ind length ih =>
      cases found : pattern.matchAt? place with
      | none =>
          cases after : place.after with
          | nil =>
              rw [findingsFrom_of_end found after] at member
              cases member
          | cons char rest =>
              rw [findingsFrom_of_none found after] at member
              have shorter : rest.length < length := by
                rw [← same, after]
                exact Nat.lt_succ_self _
              have cleanPast : (place.past [char] rest).groups = [] := clean
              exact (ih _ shorter cleanPast member rfl).imp_left Nat.le_of_succ_le
      | some finish =>
          obtain ⟨text, isThere, reads⟩ := filled.reads found
          have some := List.length_pos_iff.mpr isThere
          cases bound with
          | zero => cases member
          | succ bound =>
              rw [findingsFrom_of_some found reads isThere clean] at member
              rcases List.mem_cons.mp member with rfl | later
              · have stop := reads.offset
                exact ⟨Nat.le_refl _, by dsimp only; omega⟩
              · have shorter : finish.after.length < length := by
                  rw [← same, reads.after, List.length_append]
                  omega
                have cleanPast : (place.past text finish.after).groups = [] := clean
                refine (ih _ shorter cleanPast later rfl).imp_left fun le => ?_
                exact Nat.le_trans (Nat.le_add_right _ _) le

/-- A pattern that takes a text matches there. -/
theorem TakesNoting.matches (takes : pattern.TakesNoting text rest notes)
    (after : place.after = text ++ rest)
    : pattern.MatchesNoting place text notes := by
  obtain ⟨reached, reads, noted, goesOn⟩ := takes place after
  exact ⟨reached, goesOn some reached rfl, reads, noted⟩

/-- At the edge of a word the pattern for it matches as it does without the edge. -/
theorem edge_matchAt? (differ : place.before.head?.any Alphabet.isWord
      ≠ place.after.head?.any Alphabet.isWord)
    : (wordEdge ++ body).matchAt? place = body.matchAt? place := by
  rw [matchAt?, append_andThen, wordEdge_andThen, if_neg differ]
  rfl

end Pattern

end DumpTransfer
