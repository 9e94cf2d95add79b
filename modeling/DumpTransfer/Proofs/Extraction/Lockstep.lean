import DumpTransfer.Proofs.Extraction.Collecting

/-! The machine with registers and the machine that extracts databases go in step, whatever the
fallbacks are: after the same lines the registers are those of the other machine's state. So they
are in line with each other in every state, and no fallback ever takes effect.
-/

namespace DumpTransfer.Dump

-----------------------------------------------------------------------------------------
-- What holds of every state
-----------------------------------------------------------------------------------------

namespace Database

/-- No table is there twice. -/
def TablesOnce (content : Database) : Prop :=
  (content.tables.map (·.name)).Nodup

theorem TablesOnce.withTable {content : Database} (once : content.TablesOnce) (table : Text)
    : (content.withTable table).TablesOnce := by
  unfold Database.withTable
  split
  · exact once
  · rename_i new
    rw [TablesOnce, List.map_append, List.map_singleton, ← List.concat_eq_append]
    exact once.concat fun member => new ((content.hasTable_iff table).mpr member)

theorem TablesOnce.updateTable {content : Database} (once : content.TablesOnce) (table : Text)
    {change : Table → Table} (keeps : ∀ entry, (change entry).name = entry.name)
    : (content.updateTable table change).TablesOnce := by
  rw [TablesOnce, content.updateTable_names table keeps]
  exact once

theorem TablesOnce.addOrphan {content : Database} (once : content.TablesOnce) (table : Text)
    : (content.addOrphan table).TablesOnce := by
  unfold Database.addOrphan
  split <;> exact once

theorem TablesOnce.close {content : Database} (once : content.TablesOnce) (pending : Pending)
    : (content.close pending).TablesOnce := by
  cases pending with
  | nothing | definition table text => exact once
  | data table text inLiteral => exact once.updateTable table fun _ => rfl

end Database

namespace Extraction

theorem readData_sound {content : Database} (once : content.TablesOnce) {table text line : Text}
    {inLiteral : Bool} (has : content.hasTable table = true)
    (literal : endsInLiteral inLiteral line = endsInLiteral false text)
    : (readData content table text line inLiteral).1.TablesOnce
      ∧ (readData content table text line inLiteral).2.Grounded
          (readData content table text line inLiteral).1 := by
  dsimp only [readData]
  split
  · exact ⟨once.updateTable table fun _ => rfl, trivial⟩
  · exact ⟨once, has, literal⟩

theorem readMarker_sound {content : Database} (once : content.TablesOnce) (line : Text)
    : (readMarker content line).1.TablesOnce
      ∧ (readMarker content line).2.Grounded (readMarker content line).1 := by
  unfold readMarker
  cases Marker.ofLine line with
  | boundary database | other => exact ⟨once, trivial⟩
  | removal table => exact ⟨once.withTable table, trivial⟩
  | definition table =>
      dsimp only
      split
      · exact ⟨(once.withTable table).updateTable table fun _ => rfl, trivial⟩
      · exact ⟨once.withTable table, content.hasTable_withTable table⟩
  | rows table =>
      dsimp only
      split
      · rename_i has
        exact readData_sound once has rfl
      · exact ⟨once.addOrphan table, trivial⟩

/-- A line leaves every table once, and a statement open only of a table that is known. -/
theorem readLine_sound {content : Database} (once : content.TablesOnce) {pending : Pending}
    (grounded : pending.Grounded content) (line : Text)
    : (readLine content pending line).1.TablesOnce
      ∧ (readLine content pending line).2.Grounded (readLine content pending line).1 := by
  cases pending with
  | nothing => exact readMarker_sound once line
  | definition table text =>
      dsimp only [readLine]
      split
      · exact ⟨once.updateTable table fun _ => rfl, trivial⟩
      · exact ⟨once, grounded⟩
  | data table text inLiteral =>
      obtain ⟨has, rfl⟩ := grounded
      exact readData_sound once has (endsInLiteral_append_line false text line).symm

/-- Databases are visited in order, each table of them is there once, and an open statement
belongs to a known table.
-/
structure Sound (state : Extraction) : Prop where
  orderly : state.Orderly
  tablesOnce : ∀ content ∈ state.finished ++ state.position.contents, content.TablesOnce
  grounded
    : ∀ content pending, state.position = .inside content pending → pending.Grounded content

namespace Sound

variable {state : Extraction}

theorem start (names : List Text) : (Extraction.start names).Sound :=
  ⟨.start names, by simp [Extraction.start, Position.contents], by simp [Extraction.start]⟩

/-- A database that is collected is not among those that have been left. -/
theorem fresh (sound : state.Sound) {content : Database} {pending : Pending}
    (inside : state.position = .inside content pending)
    : content.name ∉ state.finished.map (·.name) := by
  have once := sound.orderly.visitedOnce
  rw [visited_of_inside inside] at once
  intro member
  exact (List.nodup_append.mp once).2.2 _ member _ (List.mem_singleton.mpr rfl) rfl

theorem leave (sound : state.Sound) {content : Database} {pending : Pending}
    (inside : state.position = .inside content pending)
    : state.leave.Sound := by
  refine ⟨sound.orderly.leave, ?_, nofun⟩
  intro other member
  have left : other ∈ state.finished ++ [content.close pending] := by
    simpa [closed_of_inside inside, Extraction.leave, Position.contents] using member
  rcases List.mem_append.mp left with earlier | last
  · exact sound.tablesOnce other (List.mem_append_left _ earlier)
  · rw [List.mem_singleton.mp last]
    have once := sound.tablesOnce content (by simp [inside, Position.contents])
    exact once.close pending

theorem visit (sound : state.Sound) (allOver : state.visited = state.finished.map (·.name))
    (database : Text)
    : (state.visit database).Sound := by
  have kept : ∀ content ∈ state.finished, content.TablesOnce :=
    fun content member => sound.tablesOnce content (List.mem_append_left _ member)
  refine ⟨sound.orderly.visit allOver database, ?_, ?_⟩
  · intro content member
    rw [visit_finished] at member
    rcases List.mem_append.mp member with earlier | last
    · exact kept content earlier
    · unfold Extraction.visit at last
      split at last
      · rw [List.mem_singleton.mp last]
        exact List.nodup_nil
      · cases last
  · intro content pending inside
    unfold Extraction.visit at inside
    split at inside
    · obtain ⟨_, rfl⟩ := Position.inside.inj inside
      trivial
    · cases inside

/-- A line that is no boundary grows what is open, and leaves it to a known table. -/
theorem read (sound : state.Sound) (line : Text)
    (orderly : ({ state with position := Extraction.read state.position line }
      : Extraction).Orderly)
    : ({ state with position := Extraction.read state.position line } : Extraction).Sound := by
  cases position : state.position with
  | nowhere | outside name =>
      have once := sound.tablesOnce
      rw [position] at orderly once
      exact ⟨orderly, once, nofun⟩
  | inside content pending =>
      have once := sound.tablesOnce content (by simp [position, Position.contents])
      have grown := readLine_sound once (sound.grounded _ _ position) line
      refine ⟨position ▸ orderly, ?_, ?_⟩
      · intro other member
        rcases List.mem_append.mp member with earlier | last
        · exact sound.tablesOnce other (List.mem_append_left _ earlier)
        · rw [List.mem_singleton.mp last]
          exact grown.1
      · intro other open_ inside
        obtain ⟨rfl, rfl⟩ := Position.inside.inj inside
        exact grown.2

/-- One line keeps all of it. -/
theorem feed (sound : state.Sound) (line : Text) : (state.feed line).2.Sound := by
  have fed := fed_feed state line
  have orderly := sound.orderly.feed line
  generalize state.feed line = outcome at fed orderly ⊢
  cases fed with
  | read _ => exact sound.read line orderly
  | stayed _ _ => exact sound
  | visited _ _ uncollected => exact sound.visit (visited_of_uncollected uncollected) _
  | left _ inside _ _ => exact (sound.leave inside).visit rfl _
  | done _ inside _ _ => exact sound.leave inside

end Sound

-----------------------------------------------------------------------------------------
-- Step for step
-----------------------------------------------------------------------------------------

/-- The registers with no statement open go to another database as the state does, whichever
database was current before.
-/
theorem visit_registers (targets : List Text) (finished : List Database) (position : Position)
    (scope : Scope) (current : Option Text) (database : Text)
    : ({ scope, targets, current
         finished := finished.map (·.name)
         databases := keyedContents finished } : Registers).visit database
      = ((⟨targets, finished, position⟩ : Extraction).visit database).registers := by
  -- The registers ask for a name, the state for a content of that name.
  have known
      : (finished.map (·.name)).contains database
        = (⟨targets, finished, position⟩ : Extraction).isFinished database := by
    rw [Bool.eq_iff_iff, isFinished_iff]
    simp
  unfold Registers.visit Extraction.visit
  dsimp only
  rw [known]
  split
  · rename_i wanted
    have new : ¬ (keyedContents finished).has database = true := by
      rw [Entries.has_iff, keyedContents_names, ← List.contains_iff_mem, known]
      simpa using (Bool.and_eq_true_iff.mp wanted).2
    rw [Entries.provide, if_neg new]
    have held := keyedContents_append finished [{ name := database }]
    exact congrArg (fun databases => (Registers.mk _ _ _ _ _ _ _ _ databases)) held.symm
  · simp [registers, Position.scope, Position.database, Position.pending, Position.inLiteral,
      Position.contents, Pending.phase, Pending.table?, Pending.text, Pending.inLiteral]

/-- While no database is collected, nothing is open and all that is held has been left. -/
theorem registers_of_uncollected {state : Extraction}
    (uncollected : ∀ content pending, state.position ≠ .inside content pending)
    : state.registers
      = { targets := state.targets
          current := state.position.database
          finished := state.finished.map (·.name)
          databases := keyedContents state.finished } := by
  obtain ⟨targets, finished, position⟩ := state
  cases position with
  | inside content pending => exact absurd rfl (uncollected content pending)
  | nowhere | outside name =>
      simp [registers, Position.scope, Position.database, Position.pending, Position.inLiteral,
        Position.contents, Pending.phase, Pending.table?, Pending.text, Pending.inLiteral]

/-- A database that is left is the last of those that have been left. -/
theorem collecting_leave (targets : List Text) {finished : List Database} {content : Database}
    (fresh : content.name ∉ finished.map (·.name))
    : (collecting targets finished content .nothing).leave
      = { targets
          scope := .inside
          finished := (finished ++ [content]).map (·.name)
          databases := keyedContents (finished ++ [content]) } := by
  have new : (if content.name ∈ finished.map (·.name) then finished.map (·.name)
      else finished.map (·.name) ++ [content.name]) = (finished ++ [content]).map (·.name) := by
    rw [if_neg fresh, List.map_append, List.map_singleton]
  exact congrArg (fun names =>
    ({ targets, scope := .inside, finished := names
       databases := keyedContents (finished ++ [content]) } : Registers)) new

/-- Another database is entered alike, whatever has to be closed and left for it. -/
theorem Sound.enter_registers {state : Extraction} (sound : state.Sound) (fallback : Fallback)
    (database : Text)
    : state.registers.enter fallback database
      = ((state.enter database).1, (state.enter database).2.registers) := by
  by_cases current : state.position.database = some database
  · rw [enter_current current, Registers.enter, if_pos (by exact current)]
  · have elsewhere : ¬ state.registers.current = some database := current
    rw [Registers.enter, if_neg elsewhere]
    cases position : state.position with
    | nowhere | outside name =>
        have uncollected : ∀ content pending, state.position ≠ .inside content pending := by
          simp [position]
        rw [enter_uncollected current uncollected, registers_of_uncollected uncollected]
        exact congrArg (Prod.mk _)
          (visit_registers state.targets state.finished state.position _ _ database)
    | inside content pending =>
        have other := name_ne_of_other position current
        have fresh := sound.fresh position
        -- An open statement is closed, the database is left, and the other one is visited unless
        -- that was the last one wanted. The state does all of it at once.
        have left := collecting_leave state.targets
          (content.close_name pending ▸ fresh : (content.close pending).name ∉ _)
        have nowhere : state.leave.position = .nowhere := rfl
        have vacated
            : state.leave.registers
              = { targets := state.targets
                  finished := state.closed.map (·.name)
                  databases := keyedContents state.closed } :=
          registers_of_uncollected (by simp [nowhere])
        have collected
            : state.registers = collecting state.targets state.finished content pending := by
          rw [collecting, ← position]
        have inside
            : (collecting state.targets state.finished (content.close pending) .nothing).scope
              = .inside :=
          rfl
        rw [enter_collected position other, collected,
          collecting_flush fallback fresh (sound.grounded _ _ position)]
        rw [← closed_of_inside position] at left
        dsimp only
        rw [inside, left]
        by_cases all : state.leave.allFinished = true
        · have counted : (state.closed.map (·.name)).length = state.targets.length :=
            (List.length_map _).trans (of_decide_eq_true all)
          rw [if_pos all, if_pos counted, vacated]
        · have counted : ¬ (state.closed.map (·.name)).length = state.targets.length :=
            fun same => all (decide_eq_true ((List.length_map _).symm.trans same))
          rw [if_neg all, if_neg counted]
          exact congrArg (Prod.mk _) (visit_registers _ _ .nowhere _ _ database)

/-- A line does the same to both. -/
theorem Sound.feed_registers {state : Extraction} (sound : state.Sound) (fallback : Fallback)
    (line : Text)
    : state.registers.feed fallback line
      = ((state.feed line).1, (state.feed line).2.registers) := by
  have followed : (if state.registers.inLiteral then none else boundary? line)
      = boundaryIn? state.position line :=
    rfl
  rw [Registers.feed, followed]
  cases boundary : boundaryIn? state.position line with
  | some database =>
      rw [feed_of_some boundary]
      exact sound.enter_registers fallback database
  | none =>
      rw [feed_of_none boundary]
      obtain ⟨targets, finished, position⟩ := state
      cases position with
      | nowhere | outside name => rfl
      | inside content pending =>
          exact congrArg (Prod.mk _) (collecting_readLine fallback (sound.fresh rfl)
            (sound.grounded _ _ rfl) line)

theorem Sound.finish_registers {state : Extraction} (sound : state.Sound) (fallback : Fallback)
    : state.registers.finish fallback = keyedContents state.finish := by
  cases position : state.position with
  | nowhere | outside name =>
      have uncollected : ∀ content pending, state.position ≠ .inside content pending := by
        simp [position]
      rw [registers_of_uncollected uncollected, finish, closed_of_uncollected uncollected]
      rfl
  | inside content pending =>
      have collected
          : state.registers = collecting state.targets state.finished content pending := by
        rw [collecting, ← position]
      rw [finish, closed_of_inside position, Registers.finish, collected,
        collecting_flush fallback (sound.fresh position) (sound.grounded _ _ position)]
      rfl

-----------------------------------------------------------------------------------------
-- Registers in line with each other
-----------------------------------------------------------------------------------------

/-- Only while a database is collected is a statement open. -/
theorem inside_of_open {position : Position} (open_ : position.pending.phase ≠ .idle)
    : ∃ content pending, position = .inside content pending := by
  cases position with
  | nowhere | outside name => exact absurd rfl open_
  | inside content pending => exact ⟨content, pending, rfl⟩

/-- The databases held are those left and the one that is collected. -/
theorem registers_held (state : Extraction)
    : state.registers.databases.map (·.1)
      = state.registers.finished
        ++ if state.registers.scope = .inside then state.registers.current.toList else [] := by
  rw [registers, keyedContents_names, List.map_append]
  cases position : state.position <;>
    simp [Position.contents, Position.scope, Position.database]

theorem registers_visited (state : Extraction)
    : state.registers.databases.map (·.1) = state.visited := by
  rw [registers_held]
  cases position : state.position with
  | nowhere | outside name =>
      have uncollected : ∀ content pending, state.position ≠ .inside content pending := by
        simp [position]
      simp [registers, position, Position.scope, visited_of_uncollected uncollected]
  | inside content pending =>
      simp [registers, position, Position.scope, Position.database, visited_of_inside position]

/-- With no statement open its registers are empty. -/
theorem registers_idle {state : Extraction} (idle : state.position.pending.phase = .idle)
    : state.registers.table = none ∧ state.registers.buffer = []
      ∧ state.registers.inLiteral = false := by
  have settled : state.position.pending = .nothing := by
    cases pending : state.position.pending <;> simp_all [Pending.phase]
  simp [registers, settled, Position.inLiteral, Pending.table?, Pending.text, Pending.inLiteral]

/-- An open statement belongs to a known table of the database that is collected. -/
theorem Sound.exists_open {state : Extraction} (sound : state.Sound)
    (busy : state.position.pending.phase ≠ .idle)
    : ∃ content pending table,
        state.position = .inside content pending
        ∧ pending.table? = some table
        ∧ content.hasTable table = true := by
  obtain ⟨content, pending, position⟩ := inside_of_open busy
  have grounded := sound.grounded content pending position
  rw [position] at busy
  cases pending with
  | nothing => exact absurd rfl busy
  | definition table text => exact ⟨content, _, table, position, rfl, grounded⟩
  | data table text inLiteral => exact ⟨content, _, table, position, rfl, grounded.1⟩

/-- The mark of a literal tells of rows whether they end in one. -/
theorem Sound.inLiteral_of_data {state : Extraction} (sound : state.Sound)
    (data : state.position.pending.phase = .data)
    : state.registers.inLiteral = endsInLiteral false state.registers.buffer := by
  have busy : state.position.pending.phase ≠ .idle := by simp [data]
  obtain ⟨content, pending, position⟩ := inside_of_open busy
  have grounded := sound.grounded content pending position
  rw [position] at data
  cases pending with
  | nothing | definition table text => cases data
  | data table text inLiteral =>
      simpa [registers, position, Position.inLiteral, Position.pending, Pending.inLiteral,
        Pending.text] using grounded.2

/-- The database that is collected was requested and has not been left. -/
theorem Sound.exists_current {state : Extraction} (sound : state.Sound)
    (inside : state.position.scope = .inside)
    : ∃ database,
        state.position.database = some database
        ∧ database ∈ state.targets
        ∧ database ∉ state.finished.map (·.name) := by
  cases position : state.position with
  | nowhere | outside name => simp [position, Position.scope] at inside
  | inside content pending =>
      have visited : content.name ∈ state.visited := by
        rw [visited_of_inside position]
        simp
      exact ⟨content.name, rfl, sound.orderly.requested visited, sound.fresh position⟩

/-- The registers of a sound state are in line with each other. -/
theorem Sound.coherent {state : Extraction} (sound : state.Sound)
    : state.registers.Coherent := by
  have entries : ∀ entry ∈ state.registers.databases,
      ∃ content ∈ state.finished ++ state.position.contents,
        (content.name, content.keyed) = entry :=
    fun entry member => List.mem_map.mp member
  refine {
    idle := registers_idle
    busy := fun busy => ?_
    literal := fun literal => ?_
    data := sound.inLiteral_of_data
    inside := sound.exists_current
    finished := fun name member => ?_
    held := registers_held state
    heldOnce := registers_visited state ▸ sound.orderly.visitedOnce
    databasesNamed := fun entry member => ?_
    tablesNamed := fun entry member => ?_
    tablesOnce := fun entry member => ?_
  }
  · obtain ⟨content, pending, table, position, tabled, has⟩ := sound.exists_open busy
    refine ⟨by simp [registers, position, Position.scope], content.name, content.keyed, table,
      by simp [registers, position, Position.database], ?_,
      by simp [registers, position, Position.pending, tabled], ?_⟩
    · exact List.mem_map.mpr ⟨content, by simp [position, Position.contents], rfl⟩
    · rw [← Entries.has_iff, Database.keyed_has]
      exact has
  · change state.position.pending.inLiteral = true at literal
    change state.position.pending.phase = .data
    cases pending : state.position.pending <;> simp_all [Pending.phase, Pending.inLiteral]
  · have kept := (finished_prefix_closed state).map (·.name)
    exact sound.orderly.requested (kept.subset member)
  · obtain ⟨content, _, rfl⟩ := entries entry member
    rfl
  · obtain ⟨content, _, rfl⟩ := entries entry member
    intro table held
    obtain ⟨table, _, rfl⟩ := List.mem_map.mp held
    rfl
  · obtain ⟨content, collected, rfl⟩ := entries entry member
    have once : (content.tables.map (·.name)).Nodup := sound.tablesOnce content collected
    simpa [Database.keyed, Function.comp_def] using once

end Extraction

-----------------------------------------------------------------------------------------
-- Any lines
-----------------------------------------------------------------------------------------

/-- The state after lines, also after those with which the machine is done. -/
def Extraction.after (names lines : List Text) : Extraction :=
  lines.foldl (fun state line => (state.feed line).2) (.start names)

/-- The registers after lines. -/
def Registers.after (fallback : Fallback) (names lines : List Text) : Registers :=
  lines.foldl (fun registers line => (registers.feed fallback line).2) (.start names)

theorem Extraction.after_concat (names lines : List Text) (line : Text)
    : Extraction.after names (lines ++ [line]) = ((Extraction.after names lines).feed line).2 :=
  List.foldl_append

theorem Registers.after_concat (fallback : Fallback) (names lines : List Text) (line : Text)
    : Registers.after fallback names (lines ++ [line])
      = ((Registers.after fallback names lines).feed fallback line).2 :=
  List.foldl_append

@[simp] theorem Extraction.after_targets (names lines : List Text)
    : (Extraction.after names lines).targets = names.eraseDups := by
  induction lines using List.reverseRecOn with
  | nil => rfl
  | append_singleton lines line ih => rw [after_concat, feed_targets, ih]

/-- By induction from the last line. -/
theorem Extraction.after_sound (names lines : List Text)
    : (Extraction.after names lines).Sound := by
  induction lines using List.reverseRecOn with
  | nil => exact .start names
  | append_singleton lines line ih =>
      rw [after_concat]
      exact ih.feed line

/-- By the same induction. -/
theorem registers_after (fallback : Fallback) (names lines : List Text)
    : Registers.after fallback names lines = (Extraction.after names lines).registers := by
  induction lines using List.reverseRecOn with
  | nil => rfl
  | append_singleton lines line ih =>
      have fed := (Extraction.after_sound names lines).feed_registers fallback line
      rw [Registers.after_concat, ih, fed, Extraction.after_concat]

/-- After any lines for any requests the registers are in line with each other. They are those of
the state that the same lines lead to, each further line takes the same step, and what is held in
the end is what is collected. All that holds of every fallback, so that none takes effect.
-/
theorem registers_in_line (fallback : Fallback) (names lines : List Text)
    : (Registers.after fallback names lines).Coherent
      ∧ Registers.after fallback names lines = (Extraction.after names lines).registers
      ∧ (∀ line,
          ((Registers.after fallback names lines).feed fallback line).1
            = ((Extraction.after names lines).feed line).1)
      ∧ (Registers.after fallback names lines).finish fallback
        = keyedContents (Extraction.after names lines).finish := by
  have sound := Extraction.after_sound names lines
  rw [registers_after]
  refine ⟨sound.coherent, rfl, fun line => ?_, sound.finish_registers fallback⟩
  rw [sound.feed_registers fallback line]

end DumpTransfer.Dump
