import DumpTransfer.Proofs.Sql.EmptyLiterals
import DumpTransfer.Sql.Parenthesis

/-! What parentheses enclose and what commas separate. The reading of a statement says what stands
outside its quotes, and the number of open parentheses there says what belongs together: a body
never closes more than it has opened, and an item of a list has no comma of its own at its top.
-/

namespace DumpTransfer.Sql.Parenthesis

-----------------------------------------------------------------------------------------
-- Nesting
-----------------------------------------------------------------------------------------

/-- The place from which a text is read while a quote is pending or not. -/
def placeOf : Option Char → Quoting
  | none => .code
  | some quote => if quote = '\'' then .literal else .name quote

/-- How many more parentheses are open after a character than before it. Those between quotes do
not count.
-/
def weight (quoting : Quoting) (char : Char) : Int :=
  if quoting ≠ .code then 0
  else if char = '(' then 1
  else if char = ')' then -1
  else 0

/-- How many more parentheses are open after a text than before it. -/
def depthFrom : Quoting → Text → Int
  | _, [] => 0
  | quoting, char :: rest => weight quoting char + depthFrom (quoting.step .standard char) rest

/-- A sign outside quotes in what follows a place, between what comes before it and after it. -/
structure Stands (quoting : Quoting) (sign : Char) (text before after : Text) : Prop where
  split : text = before ++ sign :: after
  outside : quoting.after .standard before = .code

/-- What follows a place in which a number of parentheses is open closes all quotes and all
parentheses, and none that is not open.
-/
structure BalancedFrom (quoting : Quoting) (opened : Int) (text : Text) : Prop where
  quotes : quoting.after .standard text = .code
  nested : ∀ head, head <+: text → 0 ≤ opened + depthFrom quoting head
  closed : opened + depthFrom quoting text = 0

/-- A text with all quotes closed and balanced parentheses outside them. -/
def Balanced (text : Text) : Prop :=
  BalancedFrom .code 0 text

/-- What follows a place is balanced, and each comma in it is between quotes or parentheses. -/
structure ItemFrom (quoting : Quoting) (opened : Int) (text : Text) : Prop
    extends BalancedFrom quoting opened text where
  covered
    : ∀ before after, Stands quoting ',' text before after → 0 < opened + depthFrom quoting before

/-- A balanced text without a comma outside quotes and parentheses. -/
def Item (text : Text) : Prop :=
  ItemFrom .code 0 text

/-- A list has the given body before the parenthesis that closes it. -/
def Encloses (list body : Text) : Prop :=
  Balanced body ∧ ∃ rest, list = body ++ ')' :: rest

variable {quote : Option Char} {quoting : Quoting} {char : Char} {text body rest after : Text}

/-- What comes before a sign is nothing or goes on with the first character. -/
theorem cons_eq_append_cons {sign : Char}
    : char :: text = body ++ sign :: rest
      ↔ body = [] ∧ char = sign ∧ text = rest
        ∨ ∃ more, body = char :: more ∧ text = more ++ sign :: rest := by
  cases body with
  | nil => simp
  | cons first more => simp [and_comm, eq_comm]

theorem stands_cons {sign : Char}
    : Stands quoting sign (char :: text) body rest
      ↔ body = [] ∧ char = sign ∧ text = rest ∧ quoting = .code
        ∨ ∃ more,
            body = char :: more ∧ Stands (quoting.step .standard char) sign text more rest := by
  constructor
  · rintro ⟨split, outside⟩
    rcases cons_eq_append_cons.mp split with ⟨rfl, same, rest⟩ | ⟨more, rfl, later⟩
    · exact .inl ⟨rfl, same, rest, outside⟩
    · exact .inr ⟨more, rfl, later, outside⟩
  · rintro (⟨rfl, rfl, rfl, rfl⟩ | ⟨more, rfl, split, outside⟩)
    · exact ⟨rfl, rfl⟩
    · exact ⟨congrArg (char :: ·) split, outside⟩

/-- A pending quote hides what the reading of a statement takes to be between quotes. -/
theorem step_placeOf (quote : Option Char) (char : Char)
    : (placeOf quote).step .standard char = placeOf (quoteStep quote char) := by
  cases quote with
  | none =>
      by_cases single : char = '\''
      · subst single
        rfl
      · by_cases other : char = '"' ∨ char = '`'
        · rcases other with rfl | rfl <;> rfl
        · simp_all [placeOf, Quoting.step, quoteStep]
  | some quote =>
      by_cases single : quote = '\''
      · subst single
        by_cases same : char = '\'' <;> simp [placeOf, Quoting.step, quoteStep, same]
      · by_cases same : char = quote
        · simp [placeOf, Quoting.step, quoteStep, single, same]
        · simp [placeOf, Quoting.step, quoteStep, single, same]

@[simp] theorem placeOf_eq_code
    : placeOf quote = .code ↔ quote = none := by
  cases quote with
  | none => simp [placeOf]
  | some quote => by_cases single : quote = '\'' <;> simp [placeOf, single]

theorem weight_pending (quote char : Char)
    : weight (placeOf (some quote)) char = 0 := by
  rw [weight, if_pos (by simp)]

@[simp] theorem depthFrom_nil (quoting : Quoting)
    : depthFrom quoting [] = 0 :=
  rfl

theorem depthFrom_cons (quoting : Quoting) (char : Char) (rest : Text)
    : depthFrom quoting (char :: rest)
      = weight quoting char + depthFrom (quoting.step .standard char) rest :=
  rfl

theorem after_cons (quoting : Quoting) (char : Char) (rest : Text)
    : quoting.after .standard (char :: rest) = (quoting.step .standard char).after .standard rest :=
  rfl

/-- Nothing is left to be closed at the end. -/
theorem balancedFrom_nil {opened : Int}
    : BalancedFrom quoting opened [] ↔ quoting = .code ∧ opened = 0 := by
  constructor
  · intro balanced
    exact ⟨balanced.quotes, by simpa using balanced.closed⟩
  · rintro ⟨rfl, rfl⟩
    exact ⟨rfl, by simp, rfl⟩

/-- A character leads from one place to the next. -/
theorem balancedFrom_cons {opened : Int}
    : BalancedFrom quoting opened (char :: rest)
      ↔ 0 ≤ opened
        ∧ BalancedFrom (quoting.step .standard char) (opened + weight quoting char) rest := by
  constructor
  · rintro ⟨quotes, nested, closed⟩
    refine ⟨by simpa using nested [] List.nil_prefix, quotes, fun head within => ?_, ?_⟩
    · rw [Int.add_assoc]
      exact nested (char :: head) (List.cons_prefix_cons.mpr ⟨rfl, within⟩)
    · rw [Int.add_assoc]
      exact closed
  · rintro ⟨start, quotes, nested, closed⟩
    refine ⟨quotes, fun head within => ?_, ?_⟩
    · rcases List.prefix_cons_iff.mp within with rfl | ⟨more, rfl, later⟩
      · simpa using start
      · rw [depthFrom_cons, ← Int.add_assoc]
        exact nested more later
    · rw [depthFrom_cons, ← Int.add_assoc]
      exact closed

theorem BalancedFrom.nonneg {opened : Int} (balanced : BalancedFrom quoting opened text)
    : 0 ≤ opened := by
  simpa using balanced.nested [] List.nil_prefix

-----------------------------------------------------------------------------------------
-- Bodies
-----------------------------------------------------------------------------------------

/-- A parenthesis that is not open ends the body, and any other character belongs to it. -/
theorem splitAtClose_cons (quote : Option Char) (depth : Nat) (char : Char) (rest : Text)
    : (quote = none ∧ depth = 0 ∧ char = ')')
          ∧ splitAtClose quote depth (char :: rest) = some ([], rest)
      ∨ ¬ (quote = none ∧ depth = 0 ∧ char = ')')
          ∧ ∃ opened : Nat,
              depth + weight (placeOf quote) char = opened
              ∧ splitAtClose quote depth (char :: rest)
                = (splitAtClose (quoteStep quote char) opened rest).map fun (body, after) =>
                    (char :: body, after) := by
  rw [splitAtClose.eq_def]
  cases quote with
  | some quote => exact .inr ⟨by simp, depth, by simp [weight_pending], rfl⟩
  | none =>
      by_cases isOpen : char = '('
      · subst isOpen
        exact .inr ⟨by simp, depth + 1, rfl, rfl⟩
      · by_cases isClose : char = ')'
        · subst isClose
          cases depth with
          | zero => exact .inl ⟨⟨rfl, rfl, rfl⟩, rfl⟩
          | succ depth =>
              have closes : weight (placeOf none) ')' = -1 := rfl
              exact .inr ⟨by simp, depth, by rw [closes]; omega, rfl⟩
        · refine .inr ⟨fun all => isClose all.2.2, depth, ?_, ?_⟩
          · simp [weight, placeOf, isOpen, isClose]
          · simp only [if_neg isOpen, if_neg isClose]

/-- The split is at the one closing parenthesis that has a balanced body before it. By induction on
the text, in which a parenthesis that is not open cannot be part of the body.
-/
theorem splitAtClose_eq_some_iff {depth : Nat}
    : splitAtClose quote depth text = some (body, rest)
      ↔ text = body ++ ')' :: rest ∧ BalancedFrom (placeOf quote) depth body := by
  induction text generalizing quote depth body with
  | nil => simp [splitAtClose]
  | cons char text ih =>
      rw [cons_eq_append_cons]
      rcases splitAtClose_cons quote depth char text with
        ⟨⟨rfl, rfl, rfl⟩, ends⟩ | ⟨stays, opened, moves, goesOn⟩
      · rw [ends]
        constructor
        · intro found
          obtain ⟨rfl, rfl⟩ := Prod.mk.inj (Option.some.inj found)
          exact ⟨.inl ⟨rfl, rfl, rfl⟩, balancedFrom_nil.mpr ⟨rfl, rfl⟩⟩
        · rintro ⟨⟨rfl, -, rfl⟩ | ⟨more, rfl, -⟩, balanced⟩
          · rfl
          · have below := (balancedFrom_cons.mp balanced).2.nonneg
            simp [weight, placeOf] at below
      · rw [goesOn]
        constructor
        · intro found
          obtain ⟨⟨more, later⟩, same, joined⟩ := Option.map_eq_some_iff.mp found
          obtain ⟨rfl, rfl⟩ := Prod.mk.inj joined
          obtain ⟨split, balanced⟩ := ih.mp same
          have start : (0 : Int) ≤ depth := Int.natCast_nonneg depth
          refine ⟨.inr ⟨more, rfl, split⟩, balancedFrom_cons.mpr ⟨start, ?_⟩⟩
          rwa [step_placeOf, moves]
        · rintro ⟨⟨rfl, isClose, -⟩ | ⟨more, rfl, split⟩, balanced⟩
          · obtain ⟨place, none⟩ := balancedFrom_nil.mp balanced
            exact absurd ⟨placeOf_eq_code.mp place, Int.ofNat_eq_zero.mp none, isClose⟩ stays
          · obtain ⟨-, later⟩ := balancedFrom_cons.mp balanced
            rw [step_placeOf, moves] at later
            rw [ih.mpr ⟨split, later⟩]
            rfl

theorem body?_eq_some_iff {list : Text}
    : body? ('(' :: list) = some (body, rest) ↔ list = body ++ ')' :: rest ∧ Balanced body :=
  splitAtClose_eq_some_iff

/-- A list has at most one body. -/
theorem Encloses.unique {list other : Text} (encloses : Encloses list body)
    (same : Encloses list other)
    : other = body := by
  obtain ⟨balanced, rest, split⟩ := encloses
  obtain ⟨otherBalanced, otherRest, otherSplit⟩ := same
  have found := body?_eq_some_iff.mpr ⟨split, balanced⟩
  have again := body?_eq_some_iff.mpr ⟨otherSplit, otherBalanced⟩
  exact (Prod.mk.inj (Option.some.inj (again.symm.trans found))).1

-----------------------------------------------------------------------------------------
-- Items
-----------------------------------------------------------------------------------------

/-- There is always one item, if only an empty one. -/
theorem partsFrom_ne_nil (quote : Option Char) (depth : Int) (text : Text)
    : partsFrom quote depth text ≠ [] := by
  unfold partsFrom
  split
  · exact List.cons_ne_nil _ _
  · -- Every branch makes a list with a first item, whatever the rest of the text comes to.
    dsimp only
    repeat' split
    all_goals exact List.cons_ne_nil _ _

/-- A comma at the top of a list ends an item, and any other character belongs to one. -/
theorem partsFrom_cons (quote : Option Char) (depth : Int) (char : Char) (rest : Text)
    : (quote = none ∧ depth = 0 ∧ char = ',')
          ∧ partsFrom quote depth (char :: rest) = [] :: partsFrom none 0 rest
      ∨ ¬ (quote = none ∧ depth = 0 ∧ char = ',')
          ∧ ∃ first others,
              partsFrom (quoteStep quote char) (depth + weight (placeOf quote) char) rest
                = first :: others
              ∧ partsFrom quote depth (char :: rest) = (char :: first) :: others := by
  obtain ⟨first, others, same⟩ := List.exists_cons_of_ne_nil
    (partsFrom_ne_nil (quoteStep quote char) (depth + weight (placeOf quote) char) rest)
  cases quote with
  | some quote =>
      refine .inr ⟨by simp, first, others, same, ?_⟩
      rw [weight_pending, Int.add_zero] at same
      simp only [partsFrom, same]
  | none =>
      by_cases isOpen : char = '('
      · subst isOpen
        refine .inr ⟨by simp, first, others, same, ?_⟩
        have same : partsFrom none (depth + 1) rest = first :: others := same
        simp only [partsFrom, if_true, same]
      · by_cases isClose : char = ')'
        · subst isClose
          refine .inr ⟨by simp, first, others, same, ?_⟩
          have same : partsFrom none (depth - 1) rest = first :: others := same
          simp only [partsFrom, if_neg isOpen, if_true, same]
        · by_cases comma : char = ',' ∧ depth = 0
          · obtain ⟨rfl, rfl⟩ := comma
            exact .inl ⟨⟨rfl, rfl, rfl⟩, rfl⟩
          · refine .inr ⟨fun all => comma ⟨all.2.2, all.2.1⟩, first, others, same, ?_⟩
            have same : partsFrom (quoteStep none char) depth rest = first :: others := by
              simpa [weight, placeOf, isOpen, isClose] using same
            have noComma : ¬ (char = ',' && depth = 0) = true := by simpa using comma
            simp only [partsFrom, if_neg isOpen, if_neg isClose, if_neg noComma, same]

/-- The items with commas between them are the list. -/
theorem joinWith_partsFrom (quote : Option Char) (depth : Int) (text : Text)
    : Text.joinWith [','] (partsFrom quote depth text) = text := by
  induction text generalizing quote depth with
  | nil => rfl
  | cons char rest ih =>
      rcases partsFrom_cons quote depth char rest with
        ⟨⟨-, -, rfl⟩, items⟩ | ⟨-, first, others, later, items⟩
      · obtain ⟨next, more, same⟩ := List.exists_cons_of_ne_nil (partsFrom_ne_nil none 0 rest)
        have joined := ih none 0
        rw [same] at joined
        rw [items, same, Text.joinWith, joined]
        rfl
      · have joined := ih (quoteStep quote char) (depth + weight (placeOf quote) char)
        rw [later] at joined
        rw [items, ← joined]
        cases others <;> rfl

theorem itemFrom_nil
    : Item [] :=
  ⟨balancedFrom_nil.mpr ⟨rfl, rfl⟩, fun before after stands => by
    simpa using congrArg List.length stands.split⟩

/-- An item stays one with a character before it, if that is no comma at the top. -/
theorem ItemFrom.cons {opened : Int} (start : 0 ≤ opened)
    (covered : ¬ (quoting = .code ∧ opened = 0 ∧ char = ','))
    (item : ItemFrom (quoting.step .standard char) (opened + weight quoting char) rest)
    : ItemFrom quoting opened (char :: rest) := by
  refine ⟨balancedFrom_cons.mpr ⟨start, item.toBalancedFrom⟩, fun before after stands => ?_⟩
  rcases stands_cons.mp stands with ⟨rfl, comma, -, place⟩ | ⟨more, rfl, later⟩
  · have some : opened ≠ 0 := fun none => covered ⟨place, none, comma⟩
    rw [depthFrom_nil]
    omega
  · rw [depthFrom_cons, ← Int.add_assoc]
    exact item.covered more after later

/-- What is read of a balanced list are items, of which the first goes on with what has been read
before. By induction on the list.
-/
theorem partsFrom_items {depth : Int} (balanced : BalancedFrom (placeOf quote) depth text)
    : ∃ first others,
        partsFrom quote depth text = first :: others
        ∧ ItemFrom (placeOf quote) depth first
        ∧ ∀ item ∈ others, Item item := by
  induction text generalizing quote depth with
  | nil =>
      obtain ⟨place, rfl⟩ := balancedFrom_nil.mp balanced
      rw [place]
      exact ⟨[], [], rfl, itemFrom_nil, by simp⟩
  | cons char rest ih =>
      obtain ⟨start, later⟩ := balancedFrom_cons.mp balanced
      rw [step_placeOf] at later
      obtain ⟨first, others, same, item, items⟩ := ih later
      rcases partsFrom_cons quote depth char rest with
        ⟨⟨rfl, rfl, rfl⟩, found⟩ | ⟨noComma, next, more, rests, found⟩
      · rw [found]
        have same : partsFrom none 0 rest = first :: others := same
        refine ⟨[], _, rfl, itemFrom_nil, ?_⟩
        rw [same]
        exact List.forall_mem_cons.mpr ⟨item, items⟩
      · obtain ⟨rfl, rfl⟩ := List.cons.inj (same.symm.trans rests)
        refine ⟨char :: first, others, found, .cons start ?_ ?_, items⟩
        · rwa [placeOf_eq_code]
        · rwa [step_placeOf]

/-- The items of a balanced list are balanced, and none has a comma at its top. -/
theorem parts_items (balanced : Balanced body) {part : Text} (member : part ∈ parts body)
    : Item part := by
  have start : BalancedFrom (placeOf none) 0 body := balanced
  obtain ⟨first, others, same, item, items⟩ := partsFrom_items start
  rw [parts, same] at member
  rcases List.mem_cons.mp member with rfl | other
  · exact item
  · exact items part other

-----------------------------------------------------------------------------------------
-- First parentheses
-----------------------------------------------------------------------------------------

/-- A sign outside quotes with none like it before it. -/
structure IsFirst (quoting : Quoting) (sign : Char) (text before after : Text) : Prop
    extends Stands quoting sign text before after where
  first : ∀ earlier later, ¬ Stands quoting sign before earlier later

/-- The split is at the first parenthesis outside quotes. By induction on the text. -/
theorem splitAtOpen_eq_some_iff
    : splitAtOpen quote text = some (body, rest)
      ↔ ∃ after, rest = '(' :: after ∧ IsFirst (placeOf quote) '(' text body after := by
  induction text generalizing quote body with
  | nil =>
      refine ⟨nofun, fun ⟨after, _, stands⟩ => ?_⟩
      simpa using congrArg List.length stands.split
  | cons char text ih =>
      rw [splitAtOpen]
      by_cases isFirst : quote = none ∧ char = '('
      · obtain ⟨rfl, rfl⟩ := isFirst
        rw [if_pos (by simp)]
        constructor
        · intro found
          obtain ⟨rfl, rfl⟩ := Prod.mk.inj (Option.some.inj found)
          exact ⟨text, rfl, ⟨rfl, rfl⟩, fun earlier later stands => by
            simpa using congrArg List.length stands.split⟩
        · rintro ⟨after, rfl, stands, first⟩
          rcases stands_cons.mp stands with ⟨rfl, -, rfl, -⟩ | ⟨more, rfl, -⟩
          · rfl
          · exact absurd ⟨rfl, rfl⟩ (first [] more)
      · rw [if_neg (by simpa using isFirst)]
        constructor
        · intro found
          obtain ⟨⟨more, later⟩, same, joined⟩ := Option.map_eq_some_iff.mp found
          obtain ⟨rfl, rfl⟩ := Prod.mk.inj joined
          obtain ⟨after, rfl, stands, first⟩ := ih.mp same
          rw [← step_placeOf] at stands first
          have here := stands_cons.mpr (.inr ⟨more, rfl, stands⟩)
          refine ⟨after, rfl, here, fun earlier later early => ?_⟩
          rcases stands_cons.mp early with ⟨-, isOpen, -, place⟩ | ⟨between, -, inner⟩
          · exact isFirst ⟨placeOf_eq_code.mp place, isOpen⟩
          · exact first between later inner
        · rintro ⟨after, rfl, stands, first⟩
          rcases stands_cons.mp stands with ⟨-, isOpen, -, place⟩ | ⟨more, rfl, inner⟩
          · exact absurd ⟨placeOf_eq_code.mp place, isOpen⟩ isFirst
          · rw [step_placeOf] at inner
            have found := ih.mpr ⟨after, rfl, inner, fun earlier later early =>
              first (char :: earlier) later
                (stands_cons.mpr (.inr ⟨earlier, rfl, step_placeOf quote char ▸ early⟩))⟩
            rw [found]
            rfl

theorem after_placeOf (quote : Option Char) (text : Text)
    : (placeOf quote).after .standard text = placeOf (text.foldl quoteStep quote) := by
  induction text generalizing quote with
  | nil => rfl
  | cons char rest ih => rw [after_cons, step_placeOf, ih, List.foldl_cons]

theorem splitAtOpen_append (quote : Option Char) (first second : Text)
    : splitAtOpen quote (first ++ second)
      = match splitAtOpen quote first with
        | some (head, after) => some (head, after ++ second)
        | none =>
            (splitAtOpen (first.foldl quoteStep quote) second).map fun (head, after) =>
              (first ++ head, after) := by
  induction first generalizing quote with
  | nil => simp [splitAtOpen]
  | cons char rest ih =>
      rw [List.cons_append, splitAtOpen, splitAtOpen]
      split
      · rfl
      · rw [ih]
        cases splitAtOpen (quoteStep quote char) rest <;> simp [Function.comp_def]

/-- There is no parenthesis to be found in a literal. -/
theorem splitAtOpen_literal (keeps : Quoting.Keeps .standard true (placeOf quote) text)
    : splitAtOpen quote text = none := by
  induction text generalizing quote with
  | nil => rfl
  | cons char rest ih =>
      obtain ⟨mark, later⟩ := keeps
      have noOpen : ¬ (quote = none ∧ char = '(') := by
        rintro ⟨rfl, rfl⟩
        cases mark
      rw [step_placeOf] at later
      rw [splitAtOpen, if_neg (by simpa using noOpen), ih later]
      rfl

/-- The search through the runs of a statement is the search through its text. -/
theorem splitRunsAtOpen_eq {runs : List Segment}
    (partition : Segment.Partition .standard .code runs)
    : splitRunsAtOpen runs = splitAtOpen none (runs.flatMap Segment.text) := by
  generalize start : Quoting.code = quoting at partition
  induction partition with
  | nil => rfl
  | @last quoting run filled keeps =>
      subst start
      cases run with
      | literal literal =>
          have keeps : Quoting.Keeps .standard true (placeOf none) literal := keeps
          rw [List.flatMap_singleton]
          exact (splitAtOpen_literal keeps).symm
      | code code =>
          rw [List.flatMap_singleton, splitRunsAtOpen, Segment.text]
          cases splitAtOpen none code <;> simp [splitRunsAtOpen]
  | @more quoting run next runs filled keeps ends other later ih =>
      subst start
      have settled : run.text.foldl quoteStep none = none := by
        have place := after_placeOf none run.text
        rw [placeOf, ends] at place
        exact placeOf_eq_code.mp place.symm
      rw [List.flatMap_cons, splitAtOpen_append, settled, ← ih rfl]
      cases run with
      | literal literal =>
          have keeps : Quoting.Keeps .standard true (placeOf none) literal := keeps
          rw [Segment.text, splitAtOpen_literal keeps]
          rfl
      | code code => rfl

/-- The first opening parenthesis of a statement is the first that stands outside quotes. -/
theorem firstOpen?_eq_some_iff {statement : Text}
    : firstOpen? statement = some (body, rest)
      ↔ ∃ after, rest = '(' :: after ∧ IsFirst .code '(' statement body after := by
  rw [firstOpen?, splitRunsAtOpen_eq (Segment.partition_ofText .standard statement),
    QuotedName.flatMap_ofText]
  exact splitAtOpen_eq_some_iff

end DumpTransfer.Sql.Parenthesis
