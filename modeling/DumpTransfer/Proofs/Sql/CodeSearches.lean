import DumpTransfer.Proofs.Sql.EmptyLiterals
import DumpTransfer.Proofs.Text.Forks

/-! Searches in statements that differ only in the contents of their literals. As long as all that
is found in either of them stands in code, the same is found in both, at places that correspond.
-/

namespace DumpTransfer.Sql

open Pattern

-----------------------------------------------------------------------------------------
-- One search
-----------------------------------------------------------------------------------------

/-- All characters of what is found stand in code. -/
def InCode (isCode : Nat → Bool) (finding : Finding) : Prop :=
  ∀ place, finding.start ≤ place → place < finding.stop → isCode place = true

instance (isCode : Nat → Bool) (finding : Finding) : Decidable (InCode isCode finding) :=
  decidable_of_iff (∀ place < finding.stop, finding.start ≤ place → isCode place = true)
    ⟨fun all place after before => all place before after, fun all place before after =>
      all place after before⟩

variable {pattern : Pattern} {isCode otherIsCode : Nat → Bool} {code rest otherRest : Text}
variable {place other : Place} {bound otherBound : Nat}

/-- A search from a place on, with a text after it that another one follows. What it finds stands in
code.
-/
structure Search (pattern : Pattern) (isCode : Nat → Bool) (code rest : Text) (place : Place)
    (bound : Nat) : Prop where
  after : place.after = code ++ rest
  clean : place.groups = []
  enough : place.after.length < bound
  inCode : ∀ finding ∈ pattern.findingsFrom bound place, InCode isCode finding

namespace Search

/-- Where there is no match the search goes on. -/
theorem passed {char : Char} (search : Search pattern isCode (char :: code) rest place bound)
    (none : pattern.matchAt? place = none)
    : pattern.findingsFrom bound place
        = pattern.findingsFrom bound (place.past [char] (code ++ rest))
      ∧ Search pattern isCode code rest (place.past [char] (code ++ rest)) bound := by
  have same := findingsFrom_of_none none search.after bound
  refine ⟨same, rfl, search.clean, ?_, same ▸ search.inCode⟩
  have enough := search.enough
  rw [search.after] at enough
  exact Nat.lt_of_succ_lt enough

/-- After a match the search goes on with what follows. -/
theorem matched {text common : Text} {finish : Place}
    (search : Search pattern isCode (text ++ common) rest place bound)
    (found : pattern.matchAt? place = some finish) (isThere : text ≠ [])
    (reads : place.Reads text finish)
    : ∃ later, bound = later + 1
        ∧ pattern.findingsFrom bound place
          = ⟨place.offset, finish.offset, finish.notes⟩
            :: pattern.findingsFrom later (place.past text (common ++ rest))
        ∧ Search pattern isCode common rest (place.past text (common ++ rest)) later := by
  have enough := search.enough
  obtain ⟨later, rfl⟩ := Nat.exists_eq_add_one.mpr (Nat.zero_lt_of_lt enough)
  have left : finish.after = common ++ rest :=
    reads.rest_eq (by rw [search.after, List.append_assoc])
  have same := findingsFrom_of_some found reads isThere search.clean later
  rw [left] at same
  refine ⟨later, rfl, same, rfl, search.clean, ?_, fun finding member => ?_⟩
  · have some := List.length_pos_iff.mpr isThere
    rw [search.after] at enough
    simp only [List.length_append, Place.past_after] at *
    omega
  · exact search.inCode finding (same ▸ List.mem_cons_of_mem _ member)

/-- No match goes beyond the text if code ends there. -/
theorem not_beyond {finish : Place} (search : Search pattern isCode code rest place bound)
    (filled : pattern.Filled) (found : pattern.matchAt? place = some finish)
    (ends : rest ≠ [] → isCode (place.offset + code.length) = false)
    : ¬ finish.after.length < rest.length := by
  intro beyond
  obtain ⟨text, isThere, reads⟩ := filled.reads found
  obtain ⟨later, same⟩ := Nat.exists_eq_add_one.mpr (Nat.zero_lt_of_lt search.enough)
  have first : ⟨place.offset, finish.offset, finish.notes⟩ ∈ pattern.findingsFrom bound place := by
    rw [same, findingsFrom_of_some found reads isThere search.clean later]
    exact List.mem_cons_self
  have split := congrArg List.length (search.after.symm.trans reads.after)
  simp only [List.length_append] at split
  have stop := reads.offset
  have inCode := search.inCode _ first (place.offset + code.length) (Nat.le_add_right _ _)
    (by dsimp only; omega)
  have isThere : rest ≠ [] := by
    rintro rfl
    exact Nat.not_lt_zero _ beyond
  rw [ends isThere] at inCode
  cases inCode

/-- In a literal there is no match. -/
theorem no_match {finish : Place} (search : Search pattern isCode code rest place bound)
    (filled : pattern.Filled) (outside : isCode place.offset = false)
    : pattern.matchAt? place ≠ some finish := by
  intro found
  have whole : Search pattern isCode [] (code ++ rest) place bound :=
    ⟨search.after, search.clean, search.enough, search.inCode⟩
  refine whole.not_beyond filled found (fun _ => outside) ?_
  obtain ⟨text, isThere, reads⟩ := filled.reads found
  have some := List.length_pos_iff.mpr isThere
  rw [← search.after, reads.after, List.length_append]
  omega

/-- The search passes over a literal. By induction on its text. -/
theorem literal_passed (search : Search pattern isCode code rest place bound)
    (filled : pattern.Filled)
    (outside : ∀ index < code.length, isCode (place.offset + index) = false)
    : pattern.findingsFrom bound place = pattern.findingsFrom bound (place.past code rest)
      ∧ Search pattern isCode [] rest (place.past code rest) bound := by
  induction code generalizing place with
  | nil =>
      have stays : place.past [] rest = place := Place.past_nil search.after
      rw [stays]
      exact ⟨rfl, search⟩
  | cons char code ih =>
      have here : pattern.matchAt? place = none := by
        refine Option.eq_none_iff_forall_ne_some.mpr fun finish => search.no_match filled ?_
        exact outside 0 (Nat.zero_lt_succ _)
      obtain ⟨same, goesOn⟩ := search.passed here
      have later := ih goesOn fun index less => by
        have out := outside (index + 1) (Nat.succ_lt_succ less)
        rwa [Nat.add_comm index, ← Nat.add_assoc] at out
      rw [Place.past_past] at later
      exact ⟨same.trans later.1, later.2⟩

theorem nothing_left (search : Search pattern isCode [] [] place bound) (filled : pattern.Filled)
    : pattern.findingsFrom bound place = [] :=
  findingsFrom_of_end (filled.matchAt?_of_end search.after) search.after bound

end Search

-----------------------------------------------------------------------------------------
-- Two searches
-----------------------------------------------------------------------------------------

/-- Searches in two statements with the same code after the places and different texts after it. -/
structure Searches (pattern : Pattern) (isCode otherIsCode : Nat → Bool)
    (code rest otherRest : Text) (place other : Place) (bound otherBound : Nat) : Prop where
  left : Search pattern isCode code rest place bound
  right : Search pattern otherIsCode code otherRest other otherBound
  before : place.before.head?.any Alphabet.isWord = other.before.head?.any Alphabet.isWord
  after : rest.head?.any Alphabet.isWord = otherRest.head?.any Alphabet.isWord
  ends : rest ≠ [] → isCode (place.offset + code.length) = false
  otherEnds : otherRest ≠ [] → otherIsCode (other.offset + code.length) = false

/-- Two searches find the same in two texts, at corresponding places, and go on after these. -/
def GoThrough (pattern : Pattern) (isCode otherIsCode : Nat → Bool) (move : Nat → Nat)
    (text otherText rest otherRest : Text) (place other : Place) (bound otherBound : Nat) : Prop :=
  ∃ found later otherLater,
    pattern.findingsFrom bound place
      = found ++ pattern.findingsFrom later (place.past text rest)
    ∧ pattern.findingsFrom otherBound other
      = found.map (Finding.moved move)
        ++ pattern.findingsFrom otherLater (other.past otherText otherRest)
    ∧ Search pattern isCode [] rest (place.past text rest) later
    ∧ Search pattern otherIsCode [] otherRest (other.past otherText otherRest) otherLater

namespace Searches

def fork (searches : Searches pattern isCode otherIsCode code rest otherRest place other bound
    otherBound) : Fork :=
  ⟨place, other, rest, otherRest, searches.before, searches.after⟩

theorem reaches (searches : Searches pattern isCode otherIsCode code rest otherRest place other
      bound otherBound)
    : searches.fork.Reaches code place other := by
  refine ⟨⟨[], .refl _, .refl _⟩, searches.left.after, searches.right.after, ?_⟩
  rw [Place.notes, Place.notes, searches.left.clean, searches.right.clean]

/-- Two searches that have gone on after the same text. -/
theorem gone_on {text common : Text} {later otherLater : Nat}
    (searches : Searches pattern isCode otherIsCode (text ++ common) rest otherRest place other
      bound otherBound) (isThere : text ≠ [])
    (left : Search pattern isCode common rest (place.past text (common ++ rest)) later)
    (right : Search pattern otherIsCode common otherRest (other.past text (common ++ otherRest))
      otherLater)
    : Searches pattern isCode otherIsCode common rest otherRest
        (place.past text (common ++ rest)) (other.past text (common ++ otherRest)) later
        otherLater := by
  have length (offset : Nat) : offset + (text ++ common).length
      = offset + text.length + common.length := by
    rw [List.length_append, Nat.add_assoc]
  refine ⟨left, right, ?_, searches.after, ?_, ?_⟩
  · obtain ⟨init, last, rfl⟩ := (List.eq_nil_or_concat text).resolve_left isThere
    simp
  · exact fun more => length _ ▸ searches.ends more
  · exact fun more => length _ ▸ searches.otherEnds more

/-- Both searches find the same in the code, and both go on after it. By induction on how much code
follows.
-/
theorem through (searches : Searches pattern isCode otherIsCode code rest otherRest place other
      bound otherBound) (filled : pattern.Filled) (sees : pattern.SeesEdges) {move : Nat → Nat}
    (moves : ∀ index ≤ code.length, move (place.offset + index) = other.offset + index)
    : GoThrough pattern isCode otherIsCode move code code rest otherRest place other bound
        otherBound := by
  generalize same : code.length = length
  induction length using Nat.strongRecOn generalizing code place other bound otherBound with
  | ind length ih =>
      have goesOn {text common : Text} {later otherLater : Nat} (split : code = text ++ common)
          (isThere : text ≠ [])
          (left : Search pattern isCode common rest (place.past text (common ++ rest)) later)
          (right : Search pattern otherIsCode common otherRest
            (other.past text (common ++ otherRest)) otherLater)
          : GoThrough pattern isCode otherIsCode move common common rest otherRest
              (place.past text (common ++ rest)) (other.past text (common ++ otherRest)) later
              otherLater := by
        subst split
        have some := List.length_pos_iff.mpr isThere
        rw [List.length_append] at same moves
        have movesLater (index : Nat) (le : index ≤ common.length)
            : move (place.offset + text.length + index) = other.offset + text.length + index := by
          rw [Nat.add_assoc, Nat.add_assoc]
          exact moves _ (Nat.add_le_add_left le _)
        have shorter : common.length < length := by omega
        have next := searches.gone_on isThere left right
        exact ih _ shorter next movesLater rfl
      have agree := sees.agree searches.reaches
      generalize leftFound : pattern.matchAt? place = first at agree
      generalize rightFound : pattern.matchAt? other = second at agree
      cases agree with
      | none =>
          cases code with
          | nil =>
              have stays : place.past [] rest = place := Place.past_nil searches.left.after
              have otherStays : other.past [] otherRest = other :=
                Place.past_nil searches.right.after
              refine ⟨[], bound, otherBound, ?_⟩
              rw [stays, otherStays]
              exact ⟨rfl, rfl, searches.left, searches.right⟩
          | cons char common =>
              obtain ⟨leftSame, left⟩ := searches.left.passed leftFound
              obtain ⟨rightSame, right⟩ := searches.right.passed rightFound
              obtain ⟨found, last, otherLast, leftMore, rightMore, ends⟩ :=
                goesOn List.singleton_append.symm (List.cons_ne_nil _ _) left right
              rw [Place.past_past] at leftMore rightMore
              rw [Place.past_past, Place.past_past] at ends
              exact ⟨found, last, otherLast, leftSame.trans leftMore, rightSame.trans rightMore,
                ends⟩
      | @both common finish otherFinish reaches =>
          obtain ⟨⟨text, readsLeft, readsRight⟩, afterLeft, -, notes⟩ := reaches
          have readsLeft : place.Reads text finish := readsLeft
          have readsRight : other.Reads text otherFinish := readsRight
          have split : code = text ++ common := by
            have whole := searches.left.after.symm.trans readsLeft.after
            rw [afterLeft, ← List.append_assoc] at whole
            exact List.append_cancel_right whole
          subst split
          obtain ⟨isThere, further⟩ : text ≠ [] ∧ text.length ≤ (text ++ common).length := by
            obtain ⟨whole, isThere, reads⟩ := filled.reads leftFound
            exact ⟨readsLeft.unique reads ▸ isThere, by simp⟩
          obtain ⟨later, rfl, leftSame, left⟩ :=
            searches.left.matched leftFound isThere readsLeft
          obtain ⟨otherLater, rfl, rightSame, right⟩ :=
            searches.right.matched rightFound isThere readsRight
          obtain ⟨found, last, otherLast, leftMore, rightMore, ends⟩ :=
            goesOn rfl isThere left right
          have start : move place.offset = other.offset := moves 0 (Nat.zero_le _)
          have stop : move finish.offset = otherFinish.offset := by
            rw [readsLeft.offset, readsRight.offset]
            exact moves _ further
          refine ⟨⟨place.offset, finish.offset, finish.notes⟩ :: found, last, otherLast, ?_, ?_, ?_⟩
          · rw [leftSame, leftMore, Place.past_past]
            rfl
          · rw [rightSame, rightMore, Place.past_past, List.map_cons, Finding.moved, start, stop,
              notes]
            rfl
          · rwa [Place.past_past, Place.past_past] at ends
      | left beyond =>
          exact absurd beyond (searches.left.not_beyond filled leftFound searches.ends)
      | right beyond =>
          exact absurd beyond (searches.right.not_beyond filled rightFound searches.otherEnds)

end Searches

-----------------------------------------------------------------------------------------
-- Searches in runs
-----------------------------------------------------------------------------------------

namespace Segment

variable {style : LiteralStyle} {run : Segment} {done later runs : List Segment}

/-- Searches in runs that follow others, and in the same runs with empty literals. -/
structure RunSearches (pattern : Pattern) (style : LiteralStyle) (done runs : List Segment)
    (place other : Place) (bound otherBound : Nat) : Prop where
  left : Search pattern (isCodeAt (done ++ runs)) [] (runs.flatMap text) place bound
  right
    : Search pattern (isCodeAt ((done ++ runs).map (emptied style))) []
        ((runs.map (emptied style)).flatMap text) other otherBound
  offset : place.offset = (done.flatMap text).length
  otherOffset : other.offset = ((done.map (emptied style)).flatMap text).length
  before : place.before.head?.any Alphabet.isWord = other.before.head?.any Alphabet.isWord

/-- Both searches go through a run. -/
theorem RunSearches.first (searches : RunSearches pattern style done (run :: later) place other
      bound otherBound) (partition : Partition style .code (run :: later))
    (partitionLater : Partition style .code later)
    (differ : ∀ next ∈ later.head?, next.isLiteral ≠ run.isLiteral) (filled : pattern.Filled)
    (sees : pattern.SeesEdges)
    : GoThrough pattern (isCodeAt (done ++ run :: later))
        (isCodeAt ((done ++ run :: later).map (emptied style)))
        (placeEmptied style (done ++ run :: later)) run.text (run.emptied style).text
        (later.flatMap text) ((later.map (emptied style)).flatMap text) place other bound
        otherBound := by
  have left : Search pattern (isCodeAt (done ++ run :: later)) run.text (later.flatMap text) place
      bound :=
    ⟨searches.left.after, searches.left.clean, searches.left.enough, searches.left.inCode⟩
  have right : Search pattern (isCodeAt ((done ++ run :: later).map (emptied style)))
      (run.emptied style).text ((later.map (emptied style)).flatMap text) other otherBound :=
    ⟨searches.right.after, searches.right.clean, searches.right.enough, searches.right.inCode⟩
  have codeAt (index : Nat) : isCodeAt (done ++ run :: later) (place.offset + index)
      = isCodeAt (run :: later) index := by
    rw [searches.offset, isCodeAt_append]
  have otherCodeAt (index : Nat)
      : isCodeAt ((done ++ run :: later).map (emptied style)) (other.offset + index)
        = isCodeAt ((run :: later).map (emptied style)) index := by
    rw [searches.otherOffset, List.map_append, isCodeAt_append]
  cases run with
  | literal literal =>
      obtain ⟨leftSame, leftMore⟩ := left.literal_passed filled fun index less => by
        rw [codeAt, isCodeAt, if_pos less]
        rfl
      obtain ⟨rightSame, rightMore⟩ := right.literal_passed filled fun index less => by
        rw [otherCodeAt, List.map_cons, isCodeAt, if_pos less]
        rfl
      exact ⟨[], bound, otherBound, leftSame, rightSame, leftMore, rightMore⟩
  | code code =>
      have literals : ∀ next ∈ later.head?, next.isLiteral = true := fun next isNext => by
        simpa [isLiteral] using differ next isNext
      have both : Searches pattern (isCodeAt (done ++ .code code :: later))
          (isCodeAt ((done ++ .code code :: later).map (emptied style))) code (later.flatMap text)
          ((later.map (emptied style)).flatMap text) place other bound otherBound := by
        refine ⟨left, right, searches.before, ?_, fun _ => ?_, fun _ => ?_⟩
        · rw [partitionLater.head?_emptied]
        · rw [codeAt]
          exact (isCodeAt_length _ later).trans (isCodeAt_zero partitionLater literals)
        · rw [otherCodeAt]
          refine (isCodeAt_length _ (later.map (emptied style))).trans ?_
          exact isCodeAt_zero partitionLater.emptied (by simpa using literals)
      refine both.through filled sees fun index le => ?_
      rw [searches.offset, placeEmptied_append, searches.otherOffset,
        placeEmptied_code partitionLater le]

/-- Searches that go on after a run. -/
theorem RunSearches.next {bound₂ otherBound₂ : Nat} (searches : RunSearches pattern style done
      (run :: later) place other bound otherBound) (isThere : run.text ≠ [])
    (keeps : Quoting.Keeps style run.isLiteral .code run.text)
    (ends : Quoting.code.after style run.text = .code)
    (left : Search pattern (isCodeAt (done ++ run :: later)) [] (later.flatMap text)
      (place.past run.text (later.flatMap text)) bound₂)
    (right : Search pattern (isCodeAt ((done ++ run :: later).map (emptied style))) []
      ((later.map (emptied style)).flatMap text)
      (other.past (run.emptied style).text ((later.map (emptied style)).flatMap text)) otherBound₂)
    : RunSearches pattern style (done ++ [run]) later (place.past run.text (later.flatMap text))
        (other.past (run.emptied style).text ((later.map (emptied style)).flatMap text)) bound₂
        otherBound₂ := by
  have assoc : done ++ run :: later = done ++ [run] ++ later := by simp
  refine ⟨assoc ▸ left, assoc ▸ right, ?_, ?_, ?_⟩
  · simp [Place.past, searches.offset]
  · simp [Place.past, searches.otherOffset]
  · have last := getLast?_emptied isThere keeps ends
    obtain ⟨init, char, same⟩ := (List.eq_nil_or_concat run.text).resolve_left isThere
    obtain ⟨others, other, emptied⟩ :=
      (List.eq_nil_or_concat (run.emptied style).text).resolve_left (emptied_filled isThere)
    rw [same, emptied, List.concat_eq_append, List.concat_eq_append, List.getLast?_concat,
      List.getLast?_concat] at last
    rw [same, emptied]
    simp [Option.some.inj last]

/-- What is found with empty literals is what is found in the statement itself. By induction over
the runs.
-/
theorem RunSearches.findingsFrom_eq (partition : Partition style .code runs)
    (searches : RunSearches pattern style done runs place other bound otherBound)
    (filled : pattern.Filled) (sees : pattern.SeesEdges)
    : pattern.findingsFrom otherBound other
      = (pattern.findingsFrom bound place).map
          (Finding.moved (placeEmptied style (done ++ runs))) := by
  generalize start : Quoting.code = quoting at partition
  induction partition generalizing done place other bound otherBound with
  | nil => rw [searches.left.nothing_left filled, searches.right.nothing_left filled, List.map_nil]
  | @last quoting run isThere keeps =>
      subst start
      obtain ⟨found, more, otherMore, leftSame, rightSame, left, right⟩ :=
        searches.first (.last isThere keeps) (.nil _) (by simp) filled sees
      have leftEnds : pattern.findingsFrom more (place.past run.text ([].flatMap text)) = [] :=
        left.nothing_left filled
      rw [leftSame, rightSame, List.map_append, leftEnds]
      exact congrArg _ (right.nothing_left filled)
  | @more quoting run next runs isThere keeps ends differ later ih =>
      subst start
      obtain ⟨found, more, otherMore, leftSame, rightSame, left, right⟩ :=
        searches.first (.more isThere keeps ends differ later) later (by simpa using differ) filled
          sees
      have others := ih (searches.next isThere keeps ends left right) rfl
      have assoc : done ++ run :: next :: runs = done ++ [run] ++ next :: runs := by simp
      rw [leftSame, rightSame, List.map_append, others, assoc]

/-- All that a pattern finds in a statement stands in code. -/
def FindsInCode (style : LiteralStyle) (pattern : Pattern) (statement : Text) : Prop :=
  ∀ finding ∈ (pattern.findAll statement).map Match.finding,
    InCode (isCodeAt (ofText style statement)) finding

instance (style : LiteralStyle) (pattern : Pattern) (statement : Text)
    : Decidable (FindsInCode style pattern statement) :=
  inferInstanceAs (Decidable (∀ finding ∈ (pattern.findAll statement).map Match.finding,
    InCode (isCodeAt (ofText style statement)) finding))

/-- If all that is found stands in code, the contents of literals play no role. -/
theorem findings_withEmptyLiterals {statement : Text} (inCode : FindsInCode style pattern statement)
    (otherInCode : FindsInCode style pattern (withEmptyLiterals style statement))
    (filled : pattern.Filled) (sees : pattern.SeesEdges)
    : (pattern.findAll (withEmptyLiterals style statement)).map Match.finding
      = ((pattern.findAll statement).map Match.finding).map
          (Finding.moved (placeEmptied style (ofText style statement))) := by
  unfold FindsInCode at otherInCode
  rw [ofText_withEmptyLiterals] at otherInCode
  have runs := QuotedName.flatMap_ofText style statement
  have searches : RunSearches pattern style [] (ofText style statement) (Place.start statement)
      (Place.start (withEmptyLiterals style statement)) (statement.length + 1)
      ((withEmptyLiterals style statement).length + 1) :=
    ⟨⟨runs.symm, rfl, Nat.lt_succ_self _, inCode⟩, ⟨rfl, rfl, Nat.lt_succ_self _, otherInCode⟩, rfl,
      rfl, rfl⟩
  exact searches.findingsFrom_eq (partition_ofText style statement) filled sees

end Segment

end DumpTransfer.Sql
