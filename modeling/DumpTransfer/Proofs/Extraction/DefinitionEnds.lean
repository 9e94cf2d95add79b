import Mathlib.Data.List.Infix
import DumpTransfer.Proofs.Extraction.LiteralPlaces
import DumpTransfer.Proofs.Extraction.Lockstep

/-! Where a definition ends. Its first line is also its last if nothing is open after it. Of the
later ones the first with the layout of a last line is, whatever is open then, so a definition is
recorded with its own terminator exactly if the layout gives that away.
-/

namespace DumpTransfer.Dump

-----------------------------------------------------------------------------------------
-- Terminators and layout
-----------------------------------------------------------------------------------------

/-- Lines end at their terminator: all of them, and no fewer, end in a semicolon with no literal,
name or parenthesis open.
-/
def EndsAtTerminator (lines : List Text) : Prop :=
  isWholeDefinition (Text.lines lines) = true
  ∧ ∀ read ∈ lines.inits, isWholeDefinition (Text.lines read) = true → read = lines

instance (lines : List Text) : Decidable (EndsAtTerminator lines) :=
  inferInstanceAs (Decidable (_ ∧ _))

/-- Whether a line begins with white space. -/
def isIndented (line : Text) : Bool :=
  line.head?.any Alphabet.isBlank

/-- Whether a line ends in a comment and a semicolon, as the last line of a partitioned table
does.
-/
def endsInComment (line : Text) : Bool :=
  line.trimEnd.endsWith "*/;"

/-- Whether a line has the layout of the last one of a definition: it ends in a semicolon, and
begins with the closing parenthesis where it is not indented, or ends in a comment.
-/
def looksFinal (line : Text) : Bool :=
  line.trimEnd.endsWith ";"
    && (!isIndented line && line.trimEnd.startsWith ")" || endsInComment line)

/-- That is what is looked for, but for comments in indented lines. -/
theorem closesDefinition_eq {line : Text}
    (regular : isIndented line = true → endsInComment line = false)
    : closesDefinition line = looksFinal line := by
  change (!isIndented line && (_ && (_ || endsInComment line))) = looksFinal line
  unfold looksFinal
  cases indented : isIndented line with
  | false => simp
  | true => simp [regular indented]

/-- The last of some later lines looks final, and none before it does. -/
def EndsByLayout (later : List Text) : Prop :=
  ∃ middle last,
    later = middle ++ [last] ∧ looksFinal last = true ∧ ∀ line ∈ middle, looksFinal line = false

theorem not_endsByLayout_nil : ¬ EndsByLayout [] := by
  rintro ⟨middle, last, joined, -⟩
  simp at joined

theorem endsByLayout_concat_iff {middle : List Text} {last : Text}
    : EndsByLayout (middle ++ [last])
      ↔ (∀ line ∈ middle, looksFinal line = false) ∧ looksFinal last = true := by
  constructor
  · rintro ⟨others, final, joined, looks, none⟩
    obtain ⟨rfl, rfl⟩ := List.append_singleton_inj.mp joined
    exact ⟨none, looks⟩
  · rintro ⟨none, looks⟩
    exact ⟨middle, last, rfl, looks, none⟩

/-- The first of several lines that end at their terminator is not whole. -/
theorem EndsAtTerminator.whole_iff {first : Text} {later : List Text}
    (ends : EndsAtTerminator (first :: later))
    : isWholeDefinition first = true ↔ later = [] := by
  obtain ⟨whole, shortest⟩ := ends
  constructor
  · intro firstWhole
    have same := shortest [first] ((List.mem_inits _ _).mpr ⟨later, rfl⟩) firstWhole
    exact (List.cons.inj same).2.symm
  · rintro rfl
    exact whole

/-- One more line is joined by a line feed. By induction over the lines before it. -/
theorem lines_cons_concat (first : Text) (read : List Text) (line : Text)
    : Text.lines (first :: (read ++ [line])) = Text.lines (first :: read) ++ '\n' :: line := by
  have joined (first second : Text) (others : List Text)
      : Text.lines (first :: second :: others)
        = first ++ '\n' :: Text.lines (second :: others) := by
    change first ++ ['\n'] ++ Text.lines (second :: others) = _
    rw [List.append_assoc]
    rfl
  induction read generalizing first with
  | nil => exact joined first line []
  | cons second rest ih => rw [List.cons_append, joined, ih, joined, List.append_assoc]; rfl

namespace Database

/-- A table is known, and a text is its definition. -/
def Defines (content : Database) (table text : Text) : Prop :=
  (∃ entry ∈ content.tables, entry.name = table)
  ∧ ∀ entry ∈ content.tables, entry.name = table → entry.definition = some text

theorem exists_mem_withTable (content : Database) (table : Text)
    : ∃ entry ∈ (content.withTable table).tables, entry.name = table := by
  unfold withTable
  split
  next known => simpa [hasTable] using known
  next _ => exact ⟨{ name := table }, by simp, rfl⟩

theorem recordDefinition_defines (content : Database) (table text : Text)
    : ((content.withTable table).recordDefinition table text).Defines table text := by
  have members (entry : Table)
      : entry ∈ ((content.withTable table).recordDefinition table text).tables
        ↔ ∃ before ∈ (content.withTable table).tables,
            (if before.name = table then { before with definition := some text } else before)
            = entry :=
    List.mem_map
  constructor
  · obtain ⟨entry, member, named⟩ := content.exists_mem_withTable table
    exact ⟨_, (members _).mpr ⟨entry, member, rfl⟩, by simp [named]⟩
  · intro entry member named
    obtain ⟨before, _, rfl⟩ := (members entry).mp member
    split at named
    next own => simp [own]
    next other => exact absurd named other

end Database

-----------------------------------------------------------------------------------------
-- One line
-----------------------------------------------------------------------------------------

namespace Extraction

/-- The machine in the middle of the definition of a table. -/
def amid (state : Extraction) (content : Database) (table text : Text) : Extraction :=
  { state with position := .inside content (.definition table text) }

theorem atRest_ne_amid (state : Extraction) (content other : Database) (table text : Text)
    : state.atRest content ≠ state.amid other table text := by
  intro same
  cases congrArg (·.position) same

variable {state : Extraction} {content : Database} {table first line text : Text}

theorem feed_begun (position : state.position = .inside content .nothing)
    (begins : Marker.ofLine first = .definition table)
    : (state.feed first).2
      = if isWholeDefinition first then
          state.atRest ((content.withTable table).recordDefinition table first)
        else state.amid (content.withTable table) table first := by
  have noBoundary : boundary? first = none := boundary?_of_ofLine_ne fun name boundary => by
    rw [begins] at boundary
    cases boundary
  have plain : boundaryIn? state.position first = none := by
    rw [boundaryIn?, noBoundary, ite_self]
  rw [feed_of_none plain, position, read, readLine, readMarker, begins]
  dsimp only
  split <;> rfl

theorem feed_amid (plain : boundary? line = none)
    : ((state.amid content table text).feed line).2
      = if closesDefinition line then
          state.atRest (content.recordDefinition table (text ++ '\n' :: line))
        else state.amid content table (text ++ '\n' :: line) := by
  have notThere : boundaryIn? (state.amid content table text).position line = none := by
    rw [boundaryIn?, plain, ite_self]
  rw [feed_of_none notThere, amid, read, readLine]
  dsimp only
  split <;> rfl

-----------------------------------------------------------------------------------------
-- All lines of a definition
-----------------------------------------------------------------------------------------

/-- The definition of a table is recorded with the last of some lines. The machine is in the
middle of it after each line before, and after the last no statement is open and the lines, joined
by line feeds, are the definition of the table.
-/
structure Records (state : Extraction) (content : Database) (table : Text) (lines : List Text)
    : Prop where
  during
    : ∀ read, read <+: lines → read ≠ [] → read ≠ lines →
        state.further read = state.amid (content.withTable table) table (Text.lines read)
  recorded
    : state.further lines
      = state.atRest ((content.withTable table).recordDefinition table (Text.lines lines))
  defined
    : ((content.withTable table).recordDefinition table (Text.lines lines)).Defines table
        (Text.lines lines)

/-- One more line closes the definition or is part of it. -/
theorem further_concat_amid {known : Database} {read : List Text} (plain : boundary? line = none)
    (amid : state.further (first :: read) = state.amid known table (Text.lines (first :: read)))
    : state.further (first :: (read ++ [line]))
      = if closesDefinition line then
          state.atRest (known.recordDefinition table (Text.lines (first :: (read ++ [line]))))
        else state.amid known table (Text.lines (first :: (read ++ [line]))) := by
  rw [← List.cons_append, further_append, amid, further_cons, further_nil, feed_amid plain,
    List.cons_append, lines_cons_concat]

section Runs

variable (position : state.position = .inside content .nothing)
  (begins : Marker.ofLine first = .definition table)

include position begins

/-- A first line is a definition by itself exactly if it is whole. -/
theorem records_singleton_iff
    : Records state content table [first] ↔ isWholeDefinition first = true := by
  have begun := feed_begun position begins
  constructor
  · intro records
    have recorded := records.recorded
    rw [further_cons, further_nil, begun] at recorded
    by_contra open_
    rw [if_neg open_] at recorded
    exact atRest_ne_amid _ _ _ _ _ recorded.symm
  · intro whole
    rw [if_pos whole] at begun
    refine ⟨fun read within nonempty proper => ?_, begun, Database.recordDefinition_defines _ _ _⟩
    rcases List.prefix_cons_iff.mp within with rfl | ⟨rest, rfl, rest_nil⟩
    · exact absurd rfl nonempty
    · exact absurd (by rw [List.prefix_nil.mp rest_nil]) proper

/-- The machine is in the middle of the definition as long as no line closes it. By induction from
the last line.
-/
theorem further_amid_iff {read : List Text} (plain : ∀ line ∈ read, boundary? line = none)
    : (∀ within, within <+: read →
          state.further (first :: within)
          = state.amid (content.withTable table) table (Text.lines (first :: within)))
      ↔ isWholeDefinition first = false ∧ ∀ line ∈ read, closesDefinition line = false := by
  induction read using List.reverseRecOn with
  | nil =>
      have begun : state.further [first] = _ := feed_begun position begins
      simp only [List.prefix_nil, forall_eq, begun, List.not_mem_nil, false_imp_iff, implies_true,
        and_true]
      cases isWholeDefinition first with
      | false => exact ⟨fun _ => rfl, fun _ => rfl⟩
      | true => exact ⟨fun same => absurd same (atRest_ne_amid _ _ _ _ _), nofun⟩
  | append_singleton read line ih =>
      have before := ih fun earlier member => plain earlier (List.mem_append_left _ member)
      have lastPlain := plain line (List.mem_append_right _ (List.mem_singleton_self line))
      constructor
      · intro amid
        obtain ⟨open_, none⟩ :=
          before.mp fun within shorter => amid within (shorter.trans (List.prefix_append _ _))
        have last := further_concat_amid lastPlain (amid read (List.prefix_append _ _))
        rw [amid _ List.prefix_rfl] at last
        split at last
        next _ => exact absurd last.symm (atRest_ne_amid _ _ _ _ _)
        next unclosed =>
          refine ⟨open_, fun earlier member => ?_⟩
          rcases List.mem_append.mp member with member | member
          · exact none earlier member
          · rw [List.mem_singleton.mp member]
            simpa using unclosed
      · rintro ⟨open_, none⟩ within shorter
        have amid := before.mpr
          ⟨open_, fun earlier member => none earlier (List.mem_append_left _ member)⟩
        rcases List.prefix_concat_iff.mp shorter with rfl | shorter
        · rw [further_concat_amid lastPlain (amid read List.prefix_rfl),
            if_neg (by simp [none line])]
        · exact amid within shorter

/-- Several lines are a definition exactly if the first is not whole, and the last of the others
is the only one that closes it.
-/
theorem records_concat_iff {middle : List Text} {last : Text}
    (plain : ∀ line ∈ middle ++ [last], boundary? line = none)
    : Records state content table (first :: (middle ++ [last]))
      ↔ isWholeDefinition first = false
        ∧ (∀ line ∈ middle, closesDefinition line = false)
        ∧ closesDefinition last = true := by
  have middlePlain : ∀ line ∈ middle, boundary? line = none := fun line member =>
    plain line (List.mem_append_left _ member)
  have lastPlain := plain last (List.mem_append_right _ (List.mem_singleton_self last))
  have amid_iff := further_amid_iff position begins middlePlain
  constructor
  · intro records
    have amid : ∀ within, within <+: middle →
        state.further (first :: within)
        = state.amid (content.withTable table) table (Text.lines (first :: within)) := by
      intro within shorter
      have shorterThanAll := shorter.length_le
      refine records.during _ ?_ (List.cons_ne_nil _ _) fun same => ?_
      · exact List.cons_prefix_cons.mpr ⟨rfl, shorter.trans (List.prefix_append _ _)⟩
      · have longer := congrArg List.length same
        simp only [List.length_cons, List.length_append, List.length_nil] at longer
        omega
    obtain ⟨open_, none⟩ := amid_iff.mp amid
    refine ⟨open_, none, ?_⟩
    have recorded := records.recorded
    rw [further_concat_amid lastPlain (amid middle List.prefix_rfl)] at recorded
    by_contra unclosed
    rw [if_neg unclosed] at recorded
    exact atRest_ne_amid _ _ _ _ _ recorded.symm
  · rintro ⟨open_, none, closes⟩
    have amid := amid_iff.mpr ⟨open_, none⟩
    refine ⟨fun read within nonempty proper => ?_, ?_, Database.recordDefinition_defines _ _ _⟩
    · rcases List.prefix_cons_iff.mp within with rfl | ⟨rest, rfl, shorter⟩
      · exact absurd rfl nonempty
      · rcases List.prefix_concat_iff.mp shorter with rfl | shorter
        · exact absurd rfl proper
        · exact amid rest shorter
    · rw [further_concat_amid lastPlain (amid middle List.prefix_rfl), if_pos closes]

end Runs

/-- A definition is recorded with the last of its lines, in which no boundary is met and no comment
ends an indented line, exactly if the first line is whole and there are no others, or it is not
and the others end by their layout. So lines that end at their terminator are recorded as a
definition exactly if they are a single line or end by their layout. Witness: partitioned_recorded.
-/
theorem definition_recorded_iff {later : List Text}
    (position : state.position = .inside content .nothing)
    (begins : Marker.ofLine first = .definition table)
    (plain : ∀ line ∈ later, boundary? line = none)
    (regular : ∀ line ∈ later, isIndented line = true → endsInComment line = false)
    : (Records state content table (first :: later)
        ↔ if isWholeDefinition first then later = [] else EndsByLayout later)
      ∧ (EndsAtTerminator (first :: later) →
          (Records state content table (first :: later) ↔ later = [] ∨ EndsByLayout later)) := by
  have recorded_iff : Records state content table (first :: later)
      ↔ if isWholeDefinition first then later = [] else EndsByLayout later := by
    rcases List.eq_nil_or_concat' later with rfl | ⟨middle, last, rfl⟩
    · rw [records_singleton_iff position begins]
      cases isWholeDefinition first with
      | true => simp
      | false => simp [not_endsByLayout_nil]
    · have looks (line : Text) (member : line ∈ middle ++ [last])
          : closesDefinition line = looksFinal line :=
        closesDefinition_eq (regular line member)
      have none_iff : (∀ line ∈ middle, closesDefinition line = false)
          ↔ ∀ line ∈ middle, looksFinal line = false :=
        forall₂_congr fun line member => by rw [looks line (List.mem_append_left _ member)]
      rw [records_concat_iff position begins plain, none_iff, looks last (by simp),
        endsByLayout_concat_iff]
      cases isWholeDefinition first <;> simp
  refine ⟨recorded_iff, fun ends => ?_⟩
  rw [recorded_iff]
  split
  next whole => simp [ends.whole_iff.mp whole]
  next open_ =>
    have several : later ≠ [] := fun single => open_ (ends.whole_iff.mpr single)
    simp [several]

/-- The machine in a database of which nothing is known. -/
def inShop : Extraction :=
  after ["shop"] ["USE `shop`;"]

/-- The definition of a table with one partition. -/
def partitionedLines : List Text :=
  [ "CREATE TABLE `t` (", "  `x` int", ") ENGINE=InnoDB", "/*!50100 PARTITION BY RANGE (`x`)",
    "(PARTITION p0 VALUES LESS THAN (9) ENGINE = InnoDB) */;" ]

theorem partitioned_recorded
    : EndsAtTerminator partitionedLines
      ∧ (∀ line ∈ partitionedLines, boundary? line = none)
      ∧ Records inShop { name := "shop" } "t" partitionedLines := by
  have ends : EndsAtTerminator partitionedLines := by decide +kernel
  have plain : ∀ line ∈ partitionedLines, boundary? line = none := by decide +kernel
  have position : inShop.position = .inside { name := "shop" } .nothing := by decide +kernel
  have begins : Marker.ofLine "CREATE TABLE `t` (" = .definition "t" := by decide +kernel
  have regular : ∀ line ∈ partitionedLines.tail,
      isIndented line = true → endsInComment line = false := by
    decide +kernel
  have layout : EndsByLayout partitionedLines.tail :=
    ⟨(partitionedLines.drop 1).take 3, _, rfl, by decide +kernel, by decide +kernel⟩
  obtain ⟨-, recorded_iff⟩ := definition_recorded_iff position begins
    (fun line member => plain line (List.mem_of_mem_tail member)) regular
  exact ⟨ends, plain, (recorded_iff ends).mpr (.inr layout)⟩

/-- A definition of which the last line is indented. -/
def indentedLines : List Text :=
  ["CREATE TABLE `t` (", "  `x` int", "  );"]

/-- A line with a row of the table. -/
def rowLine : Text :=
  "INSERT INTO `t` VALUES (1);"

/-- With the line of its terminator a definition is not recorded if that line is indented. The
rows after it become part of it and are lost with it.
-/
theorem indented_not_recorded
    : EndsAtTerminator indentedLines
      ∧ (∀ line ∈ indentedLines, boundary? line = none)
      ∧ ¬ Records inShop { name := "shop" } "t" indentedLines
      ∧ (inShop.further (indentedLines ++ [rowLine])).finish
        = [{ name := "shop", tables := [{ name := "t" }] }] := by
  refine ⟨by decide +kernel, by decide +kernel, fun records => ?_, by decide +kernel⟩
  exact absurd records.recorded (by decide +kernel)

end Extraction

end DumpTransfer.Dump
