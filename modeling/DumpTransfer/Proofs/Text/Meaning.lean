import DumpTransfer.Proofs.Text.Matching

/-! What patterns mean, apart from the order in which their ways are tried. A pattern matches from
a place to others, and the search finds a match wherever there is one, however far it has to go
back for it.
-/

namespace DumpTransfer

/-- A place is reached from another one by reading a text. -/
structure Place.Reads (place : Place) (text : Text) (reached : Place) : Prop where
  offset : reached.offset = place.offset + text.length
  before : reached.before = text.reverse ++ place.before
  after : place.after = text ++ reached.after

theorem Place.Reads.refl (place : Place)
    : place.Reads [] place :=
  ⟨rfl, rfl, rfl⟩

theorem Place.Reads.trans {place between reached : Place} {first second : Text}
    (readsFirst : place.Reads first between) (readsSecond : between.Reads second reached)
    : place.Reads (first ++ second) reached := by
  refine ⟨?_, ?_, ?_⟩
  · rw [readsSecond.offset, readsFirst.offset, List.length_append, Nat.add_assoc]
  · rw [readsSecond.before, readsFirst.before, List.reverse_append, List.append_assoc]
  · rw [readsFirst.after, readsSecond.after, List.append_assoc]

theorem Place.Reads.unique {place reached : Place} {first second : Text}
    (reads : place.Reads first reached) (readsSecond : place.Reads second reached)
    : first = second :=
  List.append_cancel_right (reads.after.symm.trans readsSecond.after)

theorem Place.reads_past {place : Place} {text rest : Text} (after : place.after = text ++ rest)
    : place.Reads text (place.past text rest) :=
  ⟨rfl, rfl, after⟩

namespace Pattern

-----------------------------------------------------------------------------------------
-- Meaning
-----------------------------------------------------------------------------------------

/-- A step made any number of times, each time further on. -/
inductive Repeats (step : Place → Place → Prop) : Place → Place → Prop where
  | done (place : Place) : Repeats step place place
  | more {place between reached : Place} (first : step place between)
      (further : place.offset < between.offset) (later : Repeats step between reached)
      : Repeats step place reached

/-- The pattern matches from one place to another. -/
def Matches : Pattern → Place → Place → Prop
  | one accepts, place, reached =>
      ∃ char rest, place.after = char :: rest ∧ accepts char = true
        ∧ reached = place.past [char] rest
  | run accepts, place, reached | shortRun accepts, place, reached =>
      ∃ text rest, place.after = text ++ rest ∧ (∀ char ∈ text, accepts char = true)
        ∧ reached = place.past text rest
  | check holds, place, reached => holds place = true ∧ reached = place
  | seq first second, place, reached =>
      ∃ between, first.Matches place between ∧ second.Matches between reached
  | alt first second, place, reached => first.Matches place reached ∨ second.Matches place reached
  | many body, place, reached => Repeats body.Matches place reached
  | group label body, place, reached =>
      ∃ inner, body.Matches place inner ∧ reached = inner.record label place

variable {first second pattern : Pattern} {accepts : Char → Bool} {next : Continuation}
variable {place between reached : Place}

@[simp] theorem matches_append
    : (first ++ second).Matches place reached
      ↔ ∃ between, first.Matches place between ∧ second.Matches between reached :=
  Iff.rfl

@[simp] theorem matches_orElse
    : (first <|> second).Matches place reached
      ↔ first.Matches place reached ∨ second.Matches place reached :=
  Iff.rfl

/-- Pieces may be taken together from either side. -/
theorem matches_assoc {third : Pattern}
    : (first ++ second ++ third).Matches place reached
      ↔ (first ++ (second ++ third)).Matches place reached := by
  constructor
  · rintro ⟨between, ⟨middle, matched, matchedSecond⟩, matchedThird⟩
    exact ⟨middle, matched, between, matchedSecond, matchedThird⟩
  · rintro ⟨middle, matched, between, matchedSecond, matchedThird⟩
    exact ⟨between, ⟨middle, matched, matchedSecond⟩, matchedThird⟩

/-- A match reads a text. -/
theorem Matches.reads (found : pattern.Matches place reached)
    : ∃ text, place.Reads text reached := by
  induction pattern generalizing place reached with
  | one accepts =>
      obtain ⟨char, rest, after, _, rfl⟩ := found
      exact ⟨[char], Place.reads_past after⟩
  | run accepts | shortRun accepts =>
      obtain ⟨text, rest, after, _, rfl⟩ := found
      exact ⟨text, Place.reads_past after⟩
  | check holds =>
      obtain ⟨_, rfl⟩ := found
      exact ⟨[], .refl _⟩
  | seq first second ihFirst ihSecond =>
      obtain ⟨between, foundFirst, foundSecond⟩ := found
      obtain ⟨text, reads⟩ := ihFirst foundFirst
      obtain ⟨more, readsMore⟩ := ihSecond foundSecond
      exact ⟨text ++ more, reads.trans readsMore⟩
  | alt first second ihFirst ihSecond => exact found.elim ihFirst ihSecond
  | many body ih =>
      induction found with
      | done place => exact ⟨[], .refl place⟩
      | more first _ _ ihLater =>
          obtain ⟨text, reads⟩ := ih first
          obtain ⟨more, readsMore⟩ := ihLater
          exact ⟨text ++ more, reads.trans readsMore⟩
  | group label body ih =>
      obtain ⟨inner, inside, rfl⟩ := found
      obtain ⟨text, reads⟩ := ih inside
      exact ⟨text, reads.offset, reads.before, reads.after⟩

-----------------------------------------------------------------------------------------
-- What is found is a match
-----------------------------------------------------------------------------------------

theorem exists_of_runThen (found : runThen accepts next place = some reached)
    : ∃ between, (run accepts).Matches place between ∧ next between = some reached := by
  unfold runThen at found
  generalize after : place.after = text at found
  induction text generalizing place with
  | nil => exact ⟨place, ⟨[], [], after, by simp, (Place.past_nil after).symm⟩, found⟩
  | cons char rest ih =>
      have here (found : next place = some reached)
          : ∃ between, (run accepts).Matches place between ∧ next between = some reached :=
        ⟨place, ⟨[], _, after, by simp, (Place.past_nil after).symm⟩, found⟩
      rw [runThen.go] at found
      split at found
      · rename_i accepted
        split at found
        · rename_i further longer
          cases found
          obtain ⟨between, ⟨text, left, split, all, rfl⟩, goesOn⟩ := ih rfl longer
          have split : rest = text ++ left := split
          refine ⟨_, ⟨char :: text, left, by rw [after, split]; rfl, ?_, rfl⟩, ?_⟩
          · simpa [accepted] using all
          · rwa [Place.advance_eq, Place.past_past] at goesOn
        · exact here found
      · exact here found

theorem exists_of_shortRunThen (found : shortRunThen accepts next place = some reached)
    : ∃ between, (shortRun accepts).Matches place between ∧ next between = some reached := by
  unfold shortRunThen at found
  generalize after : place.after = text at found
  induction text generalizing place with
  | nil => exact ⟨place, ⟨[], [], after, by simp, (Place.past_nil after).symm⟩, found⟩
  | cons char rest ih =>
      rw [shortRunThen.go] at found
      split at found
      · rename_i shorter
        cases found
        exact ⟨place, ⟨[], _, after, by simp, (Place.past_nil after).symm⟩, shorter⟩
      · split at found
        · rename_i accepted
          obtain ⟨between, ⟨text, left, split, all, rfl⟩, goesOn⟩ := ih rfl found
          have split : rest = text ++ left := split
          refine ⟨_, ⟨char :: text, left, by rw [after, split]; rfl, ?_, rfl⟩, ?_⟩
          · simpa [accepted] using all
          · rwa [Place.advance_eq, Place.past_past] at goesOn
        · cases found

/-- By induction on the bound of the repetitions, if each of them is a match. -/
theorem exists_of_manyThen {body : Pattern}
    (once : ∀ {next place}, body.andThen next place = some reached →
      ∃ between, body.Matches place between ∧ next between = some reached)
    {bound : Nat} (found : manyThen body.andThen next bound place = some reached)
    : ∃ between, (many body).Matches place between ∧ next between = some reached := by
  induction bound generalizing place with
  | zero => exact ⟨place, .done place, found⟩
  | succ bound ih =>
      rw [manyThen] at found
      split at found
      · rename_i further
        cases found
        obtain ⟨middle, first, goesOn⟩ := once further
        split at goesOn
        · rename_i further
          obtain ⟨between, later, goesOn⟩ := ih goesOn
          exact ⟨between, .more first further later, goesOn⟩
        · cases goesOn
      · exact ⟨place, .done place, found⟩

/-- Where a pattern and what follows it are found, the pattern matches up to a place from which the
rest does. By induction on the pattern.
-/
theorem exists_of_andThen (found : pattern.andThen next place = some reached)
    : ∃ between, pattern.Matches place between ∧ next between = some reached := by
  induction pattern generalizing next place reached with
  | one accepts =>
      rw [one_andThen_eq] at found
      split at found
      · cases found
      · split at found
        · exact ⟨_, ⟨_, _, ‹_›, ‹_›, rfl⟩, found⟩
        · cases found
  | run accepts => exact exists_of_runThen found
  | shortRun accepts => exact exists_of_shortRunThen found
  | check holds =>
      rw [andThen] at found
      split at found
      · exact ⟨place, ⟨‹_›, rfl⟩, found⟩
      · cases found
  | seq first second ihFirst ihSecond =>
      obtain ⟨middle, foundFirst, found⟩ := ihFirst found
      obtain ⟨between, foundSecond, goesOn⟩ := ihSecond found
      exact ⟨between, ⟨middle, foundFirst, foundSecond⟩, goesOn⟩
  | alt first second ihFirst ihSecond =>
      rw [andThen] at found
      split at found
      · rename_i foundFirst
        cases found
        obtain ⟨between, found, goesOn⟩ := ihFirst foundFirst
        exact ⟨between, .inl found, goesOn⟩
      · obtain ⟨between, found, goesOn⟩ := ihSecond found
        exact ⟨between, .inr found, goesOn⟩
  | many body ih => exact exists_of_manyThen (fun found => ih found) found
  | group label body ih =>
      obtain ⟨inner, inside, goesOn⟩ := ih found
      exact ⟨inner.record label place, ⟨inner, inside, rfl⟩, goesOn⟩

-----------------------------------------------------------------------------------------
-- A match is found
-----------------------------------------------------------------------------------------

theorem runThen_isSome (matched : (run accepts).Matches place between)
    (goesOn : (next between).isSome = true)
    : (runThen accepts next place).isSome = true := by
  obtain ⟨text, rest, after, all, rfl⟩ := matched
  rw [runThen, after]
  induction text generalizing place with
  | nil =>
      have stands : place.after = rest := after
      rw [Place.past_nil stands] at goesOn
      cases rest with
      | nil => exact goesOn
      | cons char more =>
          rw [List.nil_append, runThen.go]
          split
          · split
            · rfl
            · exact goesOn
          · exact goesOn
  | cons char more ih =>
      have resumed : (place.past [char] (more ++ rest)).after = more ++ rest := rfl
      have later := ih resumed (fun other member => all other (by simp [member]))
        (by rwa [Place.past_past])
      rw [List.cons_append, runThen.go, if_pos (all char (by simp)), Place.advance_eq]
      split
      · rfl
      · rename_i none
        rw [none] at later
        cases later

theorem shortRunThen_isSome (matched : (shortRun accepts).Matches place between)
    (goesOn : (next between).isSome = true)
    : (shortRunThen accepts next place).isSome = true := by
  obtain ⟨text, rest, after, all, rfl⟩ := matched
  rw [shortRunThen, after]
  induction text generalizing place with
  | nil =>
      have stands : place.after = rest := after
      rw [Place.past_nil stands] at goesOn
      cases rest with
      | nil => exact goesOn
      | cons char more =>
          rw [List.nil_append, shortRunThen.go]
          split
          · rfl
          · rename_i none
            rw [none] at goesOn
            cases goesOn
  | cons char more ih =>
      rw [List.cons_append, shortRunThen.go, if_pos (all char (by simp)), Place.advance_eq]
      split
      · rfl
      · have resumed : (place.past [char] (more ++ rest)).after = more ++ rest := rfl
        exact ih resumed (fun other member => all other (by simp [member]))
          (by rwa [Place.past_past])

/-- There cannot be more repetitions than characters, so the bound does not end them. -/
theorem manyThen_isSome {body : Pattern}
    (once : ∀ {next place between}, body.Matches place between → (next between).isSome = true →
      (body.andThen next place).isSome = true)
    (matched : (many body).Matches place between) (goesOn : (next between).isSome = true)
    {bound : Nat} (enough : place.after.length ≤ bound)
    : (manyThen body.andThen next bound place).isSome = true := by
  induction matched generalizing bound with
  | done place =>
      cases bound with
      | zero => exact goesOn
      | succ bound =>
          rw [manyThen]
          split
          · rfl
          · exact goesOn
  | @more place middle _ first further _ ih =>
      obtain ⟨text, reads⟩ := first.reads
      have shorter : middle.after.length < place.after.length := by
        have moved := reads.offset
        rw [reads.after, List.length_append]
        omega
      cases bound with
      | zero => omega
      | succ bound =>
          have left : middle.after.length ≤ bound := by omega
          have later := ih goesOn left
          have found : (body.andThen (fun reached =>
              if place.offset < reached.offset then manyThen body.andThen next bound reached
              else none) place).isSome = true :=
            once first (by rwa [if_pos further])
          rw [manyThen]
          split
          · rfl
          · rename_i none
            rw [none] at found
            cases found

/-- Where a pattern matches up to a place from which the rest is found, something is found. By
induction on the pattern.
-/
theorem andThen_isSome (matched : pattern.Matches place between)
    (goesOn : (next between).isSome = true)
    : (pattern.andThen next place).isSome = true := by
  induction pattern generalizing next place between with
  | one accepts =>
      obtain ⟨char, rest, after, accepted, rfl⟩ := matched
      rwa [one_andThen after accepted]
  | run accepts => exact runThen_isSome matched goesOn
  | shortRun accepts => exact shortRunThen_isSome matched goesOn
  | check holds =>
      obtain ⟨held, rfl⟩ := matched
      rwa [check_andThen held]
  | seq first second ihFirst ihSecond =>
      obtain ⟨middle, foundFirst, foundSecond⟩ := matched
      exact ihFirst foundFirst (ihSecond foundSecond goesOn)
  | alt first second ihFirst ihSecond =>
      have either := orElse_andThen first second next place
      change ((first <|> second).andThen next place).isSome = true
      rw [either, Option.isSome_or, Bool.or_eq_true]
      exact matched.imp (ihFirst · goesOn) (ihSecond · goesOn)
  | many body ih => exact manyThen_isSome (fun first => ih first) matched goesOn (Nat.le_refl _)
  | group label body ih =>
      obtain ⟨inner, inside, rfl⟩ := matched
      exact ih inside goesOn

theorem matchAt?_isSome_iff
    : (pattern.matchAt? place).isSome = true ↔ ∃ reached, pattern.Matches place reached := by
  constructor
  · intro found
    obtain ⟨reached, found⟩ := Option.isSome_iff_exists.mp found
    obtain ⟨between, matched, _⟩ := exists_of_andThen found
    exact ⟨between, matched⟩
  · rintro ⟨reached, matched⟩
    exact andThen_isSome matched rfl

-----------------------------------------------------------------------------------------
-- Searching
-----------------------------------------------------------------------------------------

variable {text : Text}

theorem findFrom_isSome_iff {skipped : Text} (after : place.after = text)
    : (pattern.findFrom skipped text place).isSome = true
      ↔ ∃ first rest reached, text = first ++ rest
          ∧ pattern.Matches (place.past first rest) reached := by
  have stays : place.past [] text = place := Place.past_nil after
  induction text generalizing skipped place with
  | nil =>
      have here : (pattern.matchAt? place).isSome = true
          ↔ ∃ reached, pattern.Matches place reached := matchAt?_isSome_iff
      rw [findFrom]
      constructor
      · intro found
        split at found
        · rename_i finish matched
          obtain ⟨reached, matched⟩ := here.mp (Option.isSome_of_eq_some matched)
          exact ⟨[], [], reached, rfl, stays ▸ matched⟩
        · cases found
      · rintro ⟨first, rest, reached, split, matched⟩
        obtain ⟨rfl, rfl⟩ := List.append_eq_nil_iff.mp split.symm
        rw [stays] at matched
        obtain ⟨finish, matched⟩ := Option.isSome_iff_exists.mp (here.mpr ⟨reached, matched⟩)
        rw [matched]
        rfl
  | cons char more ih =>
      have here : (pattern.matchAt? place).isSome = true
          ↔ ∃ reached, pattern.Matches place reached := matchAt?_isSome_iff
      have later : (pattern.findFrom (char :: skipped) more (place.past [char] more)).isSome = true
          ↔ ∃ first rest reached, more = first ++ rest
              ∧ pattern.Matches ((place.past [char] more).past first rest) reached :=
        ih rfl (Place.past_past ..)
      rw [findFrom]
      constructor
      · intro found
        split at found
        · rename_i finish matched
          obtain ⟨reached, matched⟩ := here.mp (Option.isSome_of_eq_some matched)
          exact ⟨[], char :: more, reached, rfl, stays.symm ▸ matched⟩
        · obtain ⟨first, rest, reached, split, matched⟩ := later.mp found
          rw [Place.past_past] at matched
          exact ⟨char :: first, rest, reached, by rw [split, List.cons_append], matched⟩
      · rintro ⟨first, rest, reached, split, matched⟩
        cases first with
        | nil =>
            obtain rfl : char :: more = rest := split
            rw [stays] at matched
            obtain ⟨finish, matched⟩ := Option.isSome_iff_exists.mp (here.mpr ⟨reached, matched⟩)
            rw [matched]
            rfl
        | cons other others =>
            obtain ⟨rfl, rfl⟩ := List.cons.inj split
            split
            · rfl
            · exact later.mpr ⟨others, rest, reached, rfl, by rwa [Place.past_past]⟩

/-- A pattern occurs in a text if it matches somewhere in it. -/
theorem occursIn_iff
    : pattern.occursIn text = true
      ↔ ∃ first rest reached, text = first ++ rest
          ∧ pattern.Matches ((Place.start text).past first rest) reached :=
  findFrom_isSome_iff rfl

theorem occursIn_congr (pattern other : Pattern)
    (same : ∀ start reached : Place, pattern.Matches start reached ↔ other.Matches start reached)
    (text : Text)
    : pattern.occursIn text = other.occursIn text := by
  rw [Bool.eq_iff_iff, occursIn_iff, occursIn_iff]
  simp only [same]

theorem occursIn_orElse (first second : Pattern) (text : Text)
    : (first <|> second).occursIn text = (first.occursIn text || second.occursIn text) := by
  rw [Bool.eq_iff_iff, Bool.or_eq_true, occursIn_iff, occursIn_iff, occursIn_iff]
  constructor
  · rintro ⟨before, rest, reached, split, matched | matched⟩
    · exact .inl ⟨before, rest, reached, split, matched⟩
    · exact .inr ⟨before, rest, reached, split, matched⟩
  · rintro (⟨before, rest, reached, split, matched⟩ | ⟨before, rest, reached, split, matched⟩)
    · exact ⟨before, rest, reached, split, .inl matched⟩
    · exact ⟨before, rest, reached, split, .inr matched⟩

/-- A pattern that stands at the start of a text is not found later. -/
theorem occursIn_textStart_iff
    : (textStart ++ pattern).occursIn text = true
      ↔ ∃ reached, pattern.Matches (.start text) reached := by
  have stays : (Place.start text).past [] text = .start text := Place.past_nil rfl
  rw [occursIn_iff]
  constructor
  · rintro ⟨before, rest, reached, rfl, _, ⟨atStart, rfl⟩, matched⟩
    obtain rfl : before = [] := by
      simpa [Place.start] using List.isEmpty_iff.mp atStart
    exact ⟨reached, stays ▸ matched⟩
  · rintro ⟨reached, matched⟩
    exact ⟨[], text, reached, rfl, _, ⟨rfl, rfl⟩, stays.symm ▸ matched⟩

/-- What can be matched anywhere at the end of a pattern may be left out. -/
theorem occursIn_append (anywhere : ∀ place : Place, ∃ reached, second.Matches place reached)
    (text : Text)
    : (first ++ second).occursIn text = first.occursIn text := by
  rw [Bool.eq_iff_iff, occursIn_iff, occursIn_iff]
  constructor
  · rintro ⟨before, rest, _, split, between, matched, _⟩
    exact ⟨before, rest, between, split, matched⟩
  · rintro ⟨before, rest, between, split, matched⟩
    obtain ⟨reached, later⟩ := anywhere between
    exact ⟨before, rest, reached, split, between, matched, later⟩

/-- A run at the start of a pattern may be left out. -/
theorem occursIn_run_append (accepts : Char → Bool) (second : Pattern) (text : Text)
    : (run accepts ++ second).occursIn text = second.occursIn text := by
  rw [Bool.eq_iff_iff, occursIn_iff, occursIn_iff]
  constructor
  · rintro ⟨before, rest, reached, rfl, _, ⟨taken, left, split, _, rfl⟩, matched⟩
    obtain rfl : rest = taken ++ left := split
    rw [Place.past_past] at matched
    exact ⟨before ++ taken, left, reached, (List.append_assoc ..).symm, matched⟩
  · rintro ⟨before, rest, reached, split, matched⟩
    exact ⟨before, rest, reached, split, _, ⟨[], rest, rfl, by simp, (Place.past_nil rfl).symm⟩,
      matched⟩

/-- What is matched at a place has been read since that place. -/
theorem matches_of_matchAt? (found : pattern.matchAt? place = some reached)
    : pattern.Matches place reached ∧ place.Reads (reached.textSince place) reached := by
  obtain ⟨between, matched, same⟩ := exists_of_andThen found
  obtain rfl : between = reached := Option.some.inj same
  obtain ⟨text, reads⟩ := matched.reads
  have since : between.textSince place = text := by
    simp [Place.textSince, Place.spanSince, Span.text, reads.before, reads.offset]
  exact ⟨matched, since.symm ▸ reads⟩

/-- What is found divides the text into what was passed over, the match and the rest. -/
theorem exists_of_findFrom {skipped : Text} {found : Match} (after : place.after = text)
    (search : pattern.findFrom skipped text place = some found)
    : ∃ passed start, found.skipped = skipped.reverse ++ passed
        ∧ text = passed ++ (found.matched ++ found.finish.after)
        ∧ pattern.Matches start found.finish
        ∧ start.Reads found.matched found.finish := by
  induction text generalizing skipped place with
  | nil =>
      rw [findFrom] at search
      split at search
      · rename_i finish matched
        cases search
        have ⟨isMatch, reads⟩ := matches_of_matchAt? matched
        exact ⟨[], place, (List.append_nil _).symm, after.symm.trans reads.after, isMatch, reads⟩
      · cases search
  | cons char more ih =>
      rw [findFrom] at search
      split at search
      · rename_i finish matched
        cases search
        have ⟨isMatch, reads⟩ := matches_of_matchAt? matched
        exact ⟨[], place, (List.append_nil _).symm, after.symm.trans reads.after, isMatch, reads⟩
      · obtain ⟨passed, start, skips, split, found⟩ := ih rfl search
        refine ⟨char :: passed, start, ?_, by rw [split, List.cons_append], found⟩
        rw [skips, List.reverse_cons, List.append_assoc, List.singleton_append]

end Pattern

end DumpTransfer
