import DumpTransfer.Proofs.Extraction.Steps

/-! One pass over a dump collects of every requested database what a pass for it alone collects.
The machine for one database sees the machine for all of them through a narrow window: what
belongs to another database is merely outside, and once its database has been left it is done.
-/

namespace DumpTransfer.Dump

-----------------------------------------------------------------------------------------
-- Contents arranged in the order of the requests
-----------------------------------------------------------------------------------------

/-- The content of a name among several, if there is one. -/
def contentOf? (name : Text) (contents : List Database) : Option Database :=
  contents.find? (·.name = name)

theorem takeContent_eq (name : Text) (contents : List Database)
    : takeContent name contents
      = (contentOf? name contents, contents.eraseP (·.name = name)) := by
  induction contents with
  | nil => rfl
  | cons content rest ih =>
      by_cases same : content.name = name
      · simp [takeContent, contentOf?, same]
      · simp [takeContent, contentOf?, same, ih]

theorem contentOf?_name {name : Text} {contents : List Database} {content : Database}
    (found : contentOf? name contents = some content)
    : content.name = name := by
  simpa using List.find?_some found

/-- What a name is given, even an empty content, has that name. -/
theorem contentOf?_getD_name (name : Text) (contents : List Database)
    : ((contentOf? name contents).getD { name }).name = name := by
  cases found : contentOf? name contents with
  | none => rfl
  | some content => exact contentOf?_name found

theorem contentOf?_singleton {name : Text} {content : Database} (named : content.name = name)
    : contentOf? name [content] = some content := by
  simp [contentOf?, named]

/-- Contents of distinct names are found by them. -/
theorem contentOf?_of_mem {contents : List Database} (distinct : (contents.map (·.name)).Nodup)
    {content : Database} (member : content ∈ contents)
    : contentOf? content.name contents = some content := by
  induction contents with
  | nil => cases member
  | cons first rest ih =>
      obtain ⟨absent, distinct⟩ := List.nodup_cons.mp distinct
      rcases List.mem_cons.mp member with rfl | later
      · simp [contentOf?]
      · have other : first.name ≠ content.name := by
          intro same
          exact absent (List.mem_map.mpr ⟨content, later, same.symm⟩)
        simpa [contentOf?, other] using ih distinct later

/-- What one name is given leaves alone what another one is given. -/
theorem contentOf?_eraseP {name other : Text} (apart : other ≠ name) (contents : List Database)
    : contentOf? other (contents.eraseP (·.name = name)) = contentOf? other contents := by
  induction contents with
  | nil => rfl
  | cons content rest ih =>
      by_cases same : content.name = name
      · have differs : content.name ≠ other := fun equal => apart (equal.symm.trans same)
        simp [contentOf?, same, apart.symm]
      · by_cases this : content.name = other
        · simp [contentOf?, this, apart]
        · simpa [contentOf?, same, this] using ih

/-- The contents left and the contents arranged after one more name. -/
def giveContent (state : List Database × List Database) (name : Text)
    : List Database × List Database :=
  let taken := takeContent name state.1
  (taken.2, putContent (taken.1.getD { name }) state.2)

theorem arrange_eq_foldl (found : List Database) (names : List Text)
    : arrange found names = (names.foldl giveContent (found, [])).2 :=
  rfl

/-- A name that has no place yet is given the last one. -/
theorem giveContent_eq {left arranged : List Database} {name : Text}
    (unplaced : ∀ content ∈ arranged, content.name ≠ name)
    : giveContent (left, arranged) name
      = (left.eraseP (·.name = name),
          arranged ++ [(contentOf? name left).getD { name }]) := by
  have fresh
      : arranged.any (·.name = ((contentOf? name left).getD { name }).name) = false := by
    rw [contentOf?_getD_name]
    simpa using unplaced
  rw [giveContent, takeContent_eq, putContent, fresh]
  rfl

/-- Distinct names are given their contents one after the other, by induction over the names.
Witness: no name takes what another one is looking for, and none has a place before its turn.
-/
theorem foldl_giveContent (found : List Database) {names : List Text} (distinct : names.Nodup)
    (left arranged : List Database)
    (untouched : ∀ name ∈ names, contentOf? name left = contentOf? name found)
    (unplaced : ∀ content ∈ arranged, content.name ∉ names)
    : (names.foldl giveContent (left, arranged)).2
      = arranged ++ names.map fun name => (contentOf? name found).getD { name } := by
  induction names generalizing left arranged with
  | nil => simp
  | cons name rest ih =>
      obtain ⟨absent, distinct⟩ := List.nodup_cons.mp distinct
      have fresh : ∀ content ∈ arranged, content.name ≠ name := by
        intro content member same
        exact unplaced content member (by simp [same])
      rw [List.foldl_cons, giveContent_eq fresh, ih distinct]
      · rw [untouched name (by simp), List.append_assoc]
        rfl
      · intro other member
        have apart : other ≠ name := fun same => absent (same ▸ member)
        rw [contentOf?_eraseP apart]
        exact untouched other (List.mem_cons_of_mem name member)
      · intro content member
        rcases List.mem_append.mp member with earlier | last
        · exact fun later => unplaced content earlier (List.mem_cons_of_mem name later)
        · rw [List.mem_singleton.mp last, contentOf?_getD_name]
          exact absent

/-- Distinct names are each given their content, or an empty one, in the order of the names. -/
theorem arrange_eq_map (found : List Database) {names : List Text} (distinct : names.Nodup)
    : arrange found names
      = names.map fun name => (contentOf? name found).getD { name } := by
  rw [arrange_eq_foldl, foldl_giveContent found distinct found [] (fun _ _ => rfl) (by simp)]
  rfl

-----------------------------------------------------------------------------------------
-- The machine for one database sees the machine for all through a window
-----------------------------------------------------------------------------------------

/-- The position as it is seen when only one database is wanted. -/
def Position.narrow (name : Text) : Position → Position
  | .inside content pending =>
      if content.name = name then .inside content pending else .outside content.name
  | other => other

namespace Extraction

/-- The machine as it is seen when only one database is wanted and has not been left. -/
def narrow (name : Text) (state : Extraction) : Extraction :=
  ⟨[name], [], state.position.narrow name⟩

theorem narrow_start {name : Text} (names : List Text)
    : (start names).narrow name = start [name] := by
  simp [narrow, start, Position.narrow, List.eraseDups_cons]

theorem narrow_database (name : Text) (position : Position)
    : (position.narrow name).database = position.database := by
  cases position with
  | inside content pending =>
      by_cases this : content.name = name <;> simp [Position.narrow, this, Position.database]
  | _ => rfl

/-- Outside literals both machines see the same boundaries. -/
theorem boundaryIn?_narrow {name line : Text} {position : Position}
    (outside : position.inLiteral = true → boundary? line = none)
    : boundaryIn? (position.narrow name) line = boundaryIn? position line := by
  cases position with
  | inside content pending =>
      by_cases this : content.name = name
      · simp [Position.narrow, this]
      · by_cases literal : (Position.inside content pending).inLiteral = true
        · simp [boundaryIn?, outside literal]
        · have narrowed : (Position.inside content pending).narrow name
              = .outside content.name := if_neg this
          rw [narrowed, boundaryIn?, boundaryIn?, if_neg literal]
          rfl
  | _ => rfl

theorem read_narrow (name line : Text) (position : Position)
    : read (position.narrow name) line = (read position line).narrow name := by
  cases position with
  | inside content pending =>
      by_cases this : content.name = name <;> simp [Position.narrow, this, read]
  | _ => rfl

/-- What is seen of a visit, unless the database has been left before. -/
theorem narrow_visit {name database : Text} {state : Extraction}
    (target : name ∈ state.targets) (fresh : state.isFinished name = false)
    : (state.visit database).narrow name = (state.narrow name).visit database := by
  by_cases this : database = name
  · subst database
    rw [visit_of_wanted target fresh,
      visit_of_wanted (by simp [narrow]) (by simp [narrow, isFinished])]
    simp [narrow, Position.narrow]
  · have unwanted : database ∉ (state.narrow name).targets := by simpa [narrow] using this
    rw [visit_of_unwanted (Or.inl unwanted)]
    by_cases wanted : database ∈ state.targets ∧ state.isFinished database = false
    · rw [visit_of_wanted wanted.1 wanted.2]
      simp [narrow, Position.narrow, this]
    · have unwanted : database ∉ state.targets ∨ state.isFinished database = true := by
        by_cases requested : database ∈ state.targets
        · exact Or.inr (by simpa [requested] using wanted)
        · exact Or.inl requested
      rw [visit_of_unwanted unwanted]
      simp [narrow, Position.narrow]

/-- What one line does to both machines while the one database has not been left.
Either both go on and still see the same, or both have just left the database with the same
content and the machine for it is done.
-/
inductive Narrowed (name : Text) (state : Extraction) (line : Text) : Prop
  | same (next : Extraction) (fed : state.feed line = (.more, next))
    (fresh : next.isFinished name = false)
    (seen : (state.narrow name).feed line = (.more, next.narrow name))
  | left (content : Database) (named : content.name = name)
    (collected : content ∈ (state.feed line).2.finished)
    (seen : (state.narrow name).feed line = (.done, ⟨[name], [content], .nowhere⟩))

theorem visit_isFinished (state : Extraction) (name database : Text)
    : (state.visit database).isFinished name = state.isFinished name := by
  simp [isFinished]

/-- Entering a database from one that is not collected is seen alike. -/
theorem narrowed_of_uncollected {state : Extraction} {name line database : Text}
    (target : name ∈ state.targets) (fresh : state.isFinished name = false)
    (fed : state.feed line = state.enter database)
    (seen : (state.narrow name).feed line = (state.narrow name).enter database)
    (other : state.position.database ≠ some database)
    (uncollected : ∀ content pending, state.position ≠ .inside content pending)
    : Narrowed name state line := by
  have narrowOther : (state.narrow name).position.database ≠ some database := by
    simpa [narrow, narrow_database] using other
  have narrowUncollected
      : ∀ content pending, (state.narrow name).position ≠ .inside content pending := by
    intro content pending inside
    cases position : state.position with
    | nowhere => simp [narrow, position, Position.narrow] at inside
    | outside other => simp [narrow, position, Position.narrow] at inside
    | inside content pending => exact uncollected content pending position
  rw [enter_uncollected other uncollected] at fed
  rw [enter_uncollected narrowOther narrowUncollected, ← narrow_visit target fresh] at seen
  exact .same _ fed ((visit_isFinished state name database).trans fresh) seen

/-- Leaving the one database makes the machine for it done, with the content of both. -/
theorem narrowed_of_left {state : Extraction} {content : Database} {pending : Pending}
    {name line database : Text} (fed : state.feed line = state.enter database)
    (seen : (state.narrow name).feed line = (state.narrow name).enter database)
    (inside : state.position = .inside content pending) (other : content.name ≠ database)
    (this : content.name = name)
    : Narrowed name state line := by
  have narrowInside : (state.narrow name).position = .inside content pending := by
    simp [narrow, inside, Position.narrow, this]
  have narrowLeft
      : (state.narrow name).leave = ⟨[name], [content.close pending], .nowhere⟩ := by
    rw [leave, closed_of_inside narrowInside]
    rfl
  have done : (state.narrow name).leave.allFinished = true := by
    simp [narrowLeft, allFinished]
  rw [enter_collected narrowInside other, if_pos done, narrowLeft] at seen
  refine .left (content.close pending) (by simpa using this) ?_ seen
  rw [fed, enter_collected_finished inside other]
  simp

/-- Leaving another database is seen as going from one place outside to the next. The machine
for all cannot be done by it, since the one database is among those it waits for.
-/
theorem Orderly.narrowed_of_other {state : Extraction} (orderly : state.Orderly)
    {content : Database} {pending : Pending} {name line database : Text}
    (target : name ∈ state.targets) (fresh : state.isFinished name = false)
    (fed : state.feed line = state.enter database)
    (seen : (state.narrow name).feed line = (state.narrow name).enter database)
    (inside : state.position = .inside content pending) (other : content.name ≠ database)
    (apart : content.name ≠ name)
    : Narrowed name state line := by
  have leaveFresh : state.leave.isFinished name = false := by
    simpa [isFinished, closed_of_inside inside, apart] using fresh
  have waiting : ¬ state.leave.allFinished = true := by
    intro all
    have gone := orderly.leave.isFinished_of_allFinished rfl all target
    exact Bool.false_ne_true (leaveFresh.symm.trans gone)
  have narrowPosition : (state.narrow name).position = .outside content.name := by
    simp [narrow, inside, Position.narrow, apart]
  have narrowOther : (state.narrow name).position.database ≠ some database := by
    simpa [narrowPosition, Position.database] using other
  rw [enter_collected inside other, if_neg waiting] at fed
  rw [enter_uncollected narrowOther (by simp [narrowPosition])] at seen
  refine .same _ fed ((visit_isFinished _ name database).trans leaveFresh) ?_
  have leaveTarget : name ∈ state.leave.targets := target
  rw [seen, narrow_visit leaveTarget leaveFresh]
  rfl

/-- Every line is seen alike by both machines until the database has been left.
Witness: cases on the boundary followed and on the database at hand.
-/
theorem Orderly.narrowed {state : Extraction} (orderly : state.Orderly) {name line : Text}
    (target : name ∈ state.targets) (fresh : state.isFinished name = false)
    (outside : state.position.inLiteral = true → boundary? line = none)
    : Narrowed name state line := by
  have alike : boundaryIn? (state.position.narrow name) line = boundaryIn? state.position line :=
    boundaryIn?_narrow outside
  cases boundary : boundaryIn? state.position line with
  | none =>
      refine .same _ (feed_of_none boundary) fresh ?_
      rw [feed_of_none (alike.trans boundary)]
      simp [narrow, read_narrow]
  | some database =>
      have fed := feed_of_some boundary
      have seen : (state.narrow name).feed line = _ := feed_of_some (alike.trans boundary)
      by_cases current : state.position.database = some database
      · rw [enter_current current] at fed
        rw [enter_current ((narrow_database name _).trans current)] at seen
        exact .same state fed fresh seen
      · cases position : state.position with
        | nowhere | outside other =>
            exact narrowed_of_uncollected target fresh fed seen current (by simp [position])
        | inside content pending =>
            have other := name_ne_of_other position current
            by_cases this : content.name = name
            · exact narrowed_of_left fed seen position other this
            · exact orderly.narrowed_of_other target fresh fed seen position other this

-----------------------------------------------------------------------------------------
-- Whole passes
-----------------------------------------------------------------------------------------

/-- No boundary stands where the machine takes the text for the inside of a literal. -/
def BoundariesOutsideLiterals (state : Extraction) (lines : List Line) : Prop :=
  ∀ met ∈ encounters state lines,
    met.state.position.inLiteral = true → boundary? met.line = none

instance (state : Extraction) (lines : List Line)
    : Decidable (state.BoundariesOutsideLiterals lines) :=
  inferInstanceAs (Decidable (∀ met ∈ _, _ → _))

/-- At the end of the lines both machines give the same content of the one database. -/
theorem contentOf?_closed_narrow {state : Extraction} {name : Text}
    (fresh : state.isFinished name = false)
    : contentOf? name (state.narrow name).closed = contentOf? name state.closed := by
  have absent : contentOf? name state.finished = none := by
    simpa [isFinished, contentOf?] using fresh
  obtain ⟨targets, finished, position⟩ := state
  unfold contentOf? at absent ⊢
  cases position with
  | nowhere | outside other => simpa [closed, narrow, Position.narrow] using absent.symm
  | inside content pending =>
      by_cases this : content.name = name
      · simp [closed, narrow, Position.narrow, this, List.find?_append, absent]
      · simp [closed, narrow, Position.narrow, this, List.find?_append, absent]

/-- Both machines end up with the same content of the one database, by induction over the
lines that the machine for all is given.
-/
theorem Orderly.contentOf?_run {state : Extraction} (orderly : state.Orderly) {name : Text}
    (target : name ∈ state.targets) (fresh : state.isFinished name = false)
    (lines : List Line) (outside : BoundariesOutsideLiterals state lines)
    : contentOf? name (runExtraction (state.narrow name) lines).1.finish
      = contentOf? name (runExtraction state lines).1.finish := by
  induction lines generalizing state with
  | nil => exact contentOf?_closed_narrow fresh
  | cons line rest ih =>
      have first : state.position.inLiteral = true → boundary? line.text = none :=
        outside ⟨state, line.text, rest.map (·.text)⟩ (by simp [encounters])
      cases orderly.narrowed target fresh first with
      | same next fed still seen =>
          have later : BoundariesOutsideLiterals next rest := by
            intro met member
            exact outside met (by rw [encounters_of_more rest fed]; simp [member])
          have kept : next.targets = state.targets := by
            simpa [fed] using feed_targets state line.text
          have orderlyNext : next.Orderly := by simpa [fed] using orderly.feed line.text
          rw [runExtraction_of_more rest fed, runExtraction_of_more rest seen]
          exact ih orderlyNext (kept ▸ target) still later
      | left content named collected seen =>
          have kept := (finished_feed_prefix_run state line rest).subset collected
          have found := contentOf?_of_mem (orderly.run (line :: rest)).visitedOnce kept
          rw [named] at found
          rw [runExtraction_of_done rest seen]
          exact (contentOf?_singleton named).trans found.symm

end Extraction

/-- What a pass for one database collects of it. -/
theorem extractOne_eq (interval : Nat) (name : Text) (lines : List Line)
    : (extractOne interval name lines).value
      = (contentOf? name (runExtraction (.start [name]) lines).1.finish).getD { name } := by
  have arranged := arrange_eq_map (runExtraction (.start [name]) lines).1.finish
    (List.nodup_singleton name)
  rw [extractOne, extractAll]
  dsimp only
  rw [arranged, takeContent_eq, List.map_singleton,
    contentOf?_singleton (contentOf?_getD_name name _)]
  rfl

/-- A pass for one database, even an absent one, gives a content of its name. -/
theorem extractOne_name (interval : Nat) (name : Text) (lines : List Line)
    : (extractOne interval name lines).value.name = name := by
  rw [extractOne_eq]
  exact contentOf?_getD_name name _

/-- One pass for several databases gives for each of them, in the order of the requests, what a
pass for it alone gives. Witness: for every requested name the machine for all is seen through
the window of that name up to the line that leaves its database.
-/
theorem extractAll_eq_map_extractOne (interval : Nat) {names : List Text}
    (distinct : names.Nodup) (lines : List Line)
    (outside : (Extraction.start names).BoundariesOutsideLiterals lines)
    : (extractAll interval names lines).value.map (·.name) = names
      ∧ (extractAll interval names lines).value
        = names.map fun name => (extractOne interval name lines).value := by
  have same
      : (extractAll interval names lines).value
        = names.map fun name => (extractOne interval name lines).value := by
    rw [extractAll]
    dsimp only
    rw [arrange_eq_map _ distinct]
    apply List.map_congr_left
    intro name member
    have target : name ∈ (Extraction.start names).targets := by
      simpa [Extraction.start, List.mem_eraseDups] using member
    rw [extractOne_eq, ← Extraction.narrow_start names,
      (Extraction.Orderly.start names).contentOf?_run target rfl lines outside]
  refine ⟨?_, same⟩
  rw [same, List.map_map]
  exact List.map_id'' (fun name => extractOne_name interval name lines) names

/-- A dump that goes back to a database and stops in the middle of statements. -/
def interleavedLines : List Line :=
  [ "USE `sales`;", "CREATE TABLE `a` (x int);", "INSERT INTO `a` VALUES ('one", "two');",
    "USE `logs`;", "CREATE TABLE `b` (x int);", "INSERT INTO `b` VALUES (1),",
    "USE `sales`;", "INSERT INTO `a` VALUES (9);",
    "USE `crm`;", "INSERT INTO `c` VALUES (1);", "CREATE TABLE `c` (x int);",
    "INSERT INTO `c` VALUES (2)," ].map fun line => ⟨line, {}⟩

/-- Requests in another order than the dump's, one of them for a database that it lacks. -/
def interleavedNames : List Text :=
  ["crm", "absent", "sales", "logs"]

theorem extractAll_interleaved
    : interleavedNames.Nodup
      ∧ (Extraction.start interleavedNames).BoundariesOutsideLiterals interleavedLines
      ∧ (extractAll 1 interleavedNames interleavedLines).value.map (·.name) = interleavedNames
      ∧ (extractAll 1 interleavedNames interleavedLines).value
        = interleavedNames.map fun name => (extractOne 1 name interleavedLines).value := by
  have distinct : interleavedNames.Nodup := by decide +kernel
  have outside
      : (Extraction.start interleavedNames).BoundariesOutsideLiterals interleavedLines := by
    decide +kernel
  exact ⟨distinct, outside,
    extractAll_eq_map_extractOne 1 distinct interleavedLines outside⟩

end DumpTransfer.Dump
