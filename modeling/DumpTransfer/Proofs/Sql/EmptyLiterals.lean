import DumpTransfer.Proofs.Sql.Partitions
import DumpTransfer.Proofs.Sql.StandardForm

/-! Statements without the contents of their literals. The runs are the same but for these contents,
and a place in code has its counterpart in the statement that is left.
-/

namespace DumpTransfer.Sql

-----------------------------------------------------------------------------------------
-- Literals
-----------------------------------------------------------------------------------------

namespace Quoting

variable {style : LiteralStyle} {text : Text}

/-- A literal begins with a quote. -/
theorem Keeps.literal_begins (keeps : Keeps style true .code text) (filled : text ≠ [])
    : ∃ more, text = '\'' :: more := by
  obtain ⟨first, more, rfl⟩ := List.exists_cons_of_ne_nil filled
  have outside : Quoting.code.inLiteral = false := rfl
  obtain ⟨-, rfl⟩ := opens_literal outside keeps.1
  exact ⟨more, rfl⟩

/-- Only a quote ends a literal. -/
theorem Keeps.literal_ends {quoting : Quoting} (keeps : Keeps style true quoting text)
    (filled : text ≠ []) (ends : quoting.after style text = .code)
    : text.getLast? = some '\'' := by
  obtain ⟨init, last, rfl⟩ := (List.eq_nil_or_concat text).resolve_left filled
  rw [List.concat_eq_append] at *
  rw [after_append] at ends
  have mark := (keeps_append.mp keeps).2.1
  generalize quoting.after style init = before at ends mark
  have ends : before.step style last = .code := ends
  rw [ends] at mark
  rw [List.getLast?_concat]
  cases before with
  | code | name close => cases mark
  | escaped => cases ends
  | literal =>
      rw [step] at ends
      split at ends
      · cases ends
      · split at ends
        · rename_i quote
          rw [quote]
        · cases ends

end Quoting

namespace Segment

variable {style : LiteralStyle} {run : Segment} {runs : List Segment}

/-- The run without the contents of a literal. A literal that is not closed stays so. -/
def emptied (style : LiteralStyle) : Segment → Segment
  | code text => code text
  | literal text =>
      literal (if (Quoting.code.after style text).inLiteral then ['\''] else ['\'', '\''])

@[simp] theorem isLiteral_emptied (run : Segment)
    : (run.emptied style).isLiteral = run.isLiteral := by
  cases run <;> rfl

theorem emptied_filled (filled : run.text ≠ [])
    : (run.emptied style).text ≠ [] := by
  cases run with
  | code text => exact filled
  | literal text =>
      rw [emptied]
      split <;> exact List.cons_ne_nil _ _

/-- A closed literal is emptied to its two quotes. -/
theorem emptied_of_closed {text : Text} (ends : Quoting.code.after style text = .code)
    : (literal text).emptied style = literal ['\'', '\''] := by
  rw [emptied, ends]
  rfl

theorem emptied_begins (style : LiteralStyle) (text : Text)
    : ∃ more, ((literal text).emptied style).text = '\'' :: more := by
  rw [emptied]
  split <;> exact ⟨_, rfl⟩

theorem keeps_emptied (keeps : Quoting.Keeps style run.isLiteral .code run.text)
    : Quoting.Keeps style (run.emptied style).isLiteral .code (run.emptied style).text := by
  cases run with
  | code text => exact keeps
  | literal text =>
      have opened : Quoting.Keeps style true .code ['\''] := ⟨rfl, trivial⟩
      have closed : Quoting.Keeps style true .code ['\'', '\''] := ⟨rfl, rfl, trivial⟩
      rw [emptied]
      split
      · exact opened
      · exact closed

theorem after_emptied (ends : Quoting.code.after style run.text = .code)
    : Quoting.code.after style (run.emptied style).text = .code := by
  cases run with
  | code text => exact ends
  | literal text =>
      have ends : Quoting.code.after style text = .code := ends
      rw [emptied_of_closed ends]
      cases style <;> rfl

/-- A run keeps its first character. -/
theorem head?_emptied (filled : run.text ≠ [])
    (keeps : Quoting.Keeps style run.isLiteral .code run.text)
    : (run.emptied style).text.head? = run.text.head? := by
  cases run with
  | code text => rfl
  | literal text =>
      obtain ⟨more, begins⟩ := keeps.literal_begins filled
      obtain ⟨others, beginsEmptied⟩ := emptied_begins style text
      rw [begins, beginsEmptied]
      rfl

/-- A run that is closed keeps its last character. -/
theorem getLast?_emptied (filled : run.text ≠ [])
    (keeps : Quoting.Keeps style run.isLiteral .code run.text)
    (ends : Quoting.code.after style run.text = .code)
    : (run.emptied style).text.getLast? = run.text.getLast? := by
  cases run with
  | code text => rfl
  | literal text =>
      have ends : Quoting.code.after style text = .code := ends
      rw [keeps.literal_ends filled ends, emptied_of_closed ends]
      rfl

/-- The runs are emptied one by one. -/
theorem Partition.emptied (partition : Partition style .code runs)
    : Partition style .code (runs.map (emptied style)) := by
  generalize start : Quoting.code = quoting at partition
  induction partition with
  | nil => exact .nil _
  | last filled keeps =>
      subst start
      exact .last (emptied_filled filled) (keeps_emptied keeps)
  | more filled keeps ends other later ih =>
      subst start
      exact .more (emptied_filled filled) (keeps_emptied keeps) (after_emptied ends)
        (by simpa using other) (ih rfl)

/-- The statement with nothing between the quotes of its literals. -/
def withEmptyLiterals (style : LiteralStyle) (statement : Text) : Text :=
  ((ofText style statement).map (emptied style)).flatMap text

theorem Partition.head?_emptied (partition : Partition style .code runs)
    : ((runs.map (Segment.emptied style)).flatMap text).head? = (runs.flatMap text).head? := by
  cases runs with
  | nil => rfl
  | cons run later =>
      have first := Segment.head?_emptied partition.filled partition.keeps
      obtain ⟨char, more, same⟩ := List.exists_cons_of_ne_nil partition.filled
      obtain ⟨other, others, emptied⟩ := List.exists_cons_of_ne_nil
        (emptied_filled partition.filled)
      rw [same, emptied] at first
      rw [List.map_cons, List.flatMap_cons, List.flatMap_cons, same, emptied]
      simpa using first

theorem ofText_withEmptyLiterals (statement : Text)
    : ofText style (withEmptyLiterals style statement)
      = (ofText style statement).map (emptied style) :=
  (partition_ofText style statement).emptied.ofTextFrom_eq

-----------------------------------------------------------------------------------------
-- Places
-----------------------------------------------------------------------------------------

/-- Where a place of a statement is in the one with empty literals: the places in a literal come
together at its start.
-/
def placeEmptied (style : LiteralStyle) : List Segment → Nat → Nat
  | [], _ => 0
  | run :: later, place =>
      if place < run.text.length then if run.isLiteral then 0 else place
      else (run.emptied style).text.length + placeEmptied style later (place - run.text.length)

/-- Whether a character of the runs stands in code. -/
def isCodeAt : List Segment → Nat → Bool
  | [], _ => false
  | run :: later, place =>
      if place < run.text.length then !run.isLiteral else isCodeAt later (place - run.text.length)

variable {done : List Segment} {place other index : Nat}

theorem emptied_text_of_code (isCode : run.isLiteral = false)
    : (run.emptied style).text = run.text := by
  cases run with
  | code text => rfl
  | literal text => cases isCode

theorem placeEmptied_mono (runs : List Segment) (le : place ≤ other)
    : placeEmptied style runs place ≤ placeEmptied style runs other := by
  induction runs generalizing place other with
  | nil => exact Nat.le_refl _
  | cons run later ih =>
      have both := ih (Nat.sub_le_sub_right le run.text.length)
      rw [placeEmptied, placeEmptied]
      cases kind : run.isLiteral with
      | true =>
          simp only [if_true]
          split <;> split <;> omega
      | false =>
          rw [emptied_text_of_code kind]
          simp only [Bool.false_eq_true, if_false]
          split <;> split <;> omega

/-- A place in code stays before all places after it. -/
theorem placeEmptied_lt (inCode : isCodeAt runs place = true) (less : place < other)
    : placeEmptied style runs place < placeEmptied style runs other := by
  induction runs generalizing place other with
  | nil => cases inCode
  | cons run later ih =>
      rw [isCodeAt] at inCode
      rw [placeEmptied, placeEmptied]
      split at inCode
      · rename_i within
        have kind : run.isLiteral = false := by simpa using inCode
        rw [if_pos within, kind, emptied_text_of_code kind]
        simp only [Bool.false_eq_true, if_false]
        split <;> omega
      · rw [if_neg ‹_›, if_neg (by omega)]
        exact Nat.add_lt_add_left (ih inCode (by omega)) _

theorem isCodeAt_append (done runs : List Segment) (index : Nat)
    : isCodeAt (done ++ runs) ((done.flatMap text).length + index) = isCodeAt runs index := by
  induction done with
  | nil => simp
  | cons run later ih =>
      rw [List.cons_append, isCodeAt, List.flatMap_cons, List.length_append, if_neg (by omega),
        Nat.add_assoc, Nat.add_sub_cancel_left, ih]

theorem placeEmptied_append (done runs : List Segment) (index : Nat)
    : placeEmptied style (done ++ runs) ((done.flatMap text).length + index)
      = ((done.map (emptied style)).flatMap text).length + placeEmptied style runs index := by
  induction done with
  | nil => simp
  | cons run later ih =>
      rw [List.cons_append, placeEmptied, List.flatMap_cons, List.length_append,
        if_neg (by omega), Nat.add_assoc, Nat.add_sub_cancel_left, ih, List.map_cons,
        List.flatMap_cons, List.length_append, Nat.add_assoc]

theorem isCodeAt_zero {quoting : Quoting} (partition : Partition style quoting runs)
    (literals : ∀ run ∈ runs.head?, run.isLiteral = true)
    : isCodeAt runs 0 = false := by
  cases runs with
  | nil => rfl
  | cons run later =>
      rw [isCodeAt, if_pos (List.length_pos_iff.mpr partition.filled), literals run rfl]
      rfl

theorem Partition.placeEmptied_zero {quoting : Quoting} (partition : Partition style quoting runs)
    : placeEmptied style runs 0 = 0 := by
  cases runs with
  | nil => rfl
  | cons run later =>
      rw [placeEmptied, if_pos (List.length_pos_iff.mpr partition.filled)]
      split <;> rfl

/-- After a run comes the next one. -/
theorem isCodeAt_length (run : Segment) (later : List Segment)
    : isCodeAt (run :: later) run.text.length = isCodeAt later 0 := by
  rw [isCodeAt, if_neg (Nat.lt_irrefl _), Nat.sub_self]

/-- Code stays where it is in its run. -/
theorem placeEmptied_code {quoting : Quoting} (partition : Partition style quoting runs)
    {code : Text} (le : index ≤ code.length)
    : placeEmptied style (.code code :: runs) index = index := by
  have text : (Segment.code code).text = code := rfl
  rw [placeEmptied, text]
  rcases Nat.lt_or_eq_of_le le with less | rfl
  · rw [if_pos less]
    rfl
  · rw [if_neg (Nat.lt_irrefl _), Nat.sub_self, partition.placeEmptied_zero]
    rfl

end Segment

end DumpTransfer.Sql
