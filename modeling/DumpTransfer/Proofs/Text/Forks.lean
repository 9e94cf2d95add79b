import DumpTransfer.Proofs.Text.Noting

/-! Matching in two texts that are the same up to some point. From places before that point a
pattern matches in both texts in the same way, or in one of them beyond the point: the order in
which ways are tried depends only on what both texts have.
-/

namespace DumpTransfer

/-- Two places after which the same text may follow for a while, and what follows after that. As to
words, the same comes before the places, and the same comes first after the common text.
-/
structure Fork where
  left : Place
  right : Place
  leftRest : Text
  rightRest : Text
  before
    : left.before.head?.any Alphabet.isWord = right.before.head?.any Alphabet.isWord
  after
    : leftRest.head?.any Alphabet.isWord = rightRest.head?.any Alphabet.isWord

namespace Fork

variable {fork : Fork} {place other : Place} {common : Text} {first second : Option Place}
variable {firstMore secondMore : Option Place}

/-- The same text has been read and recorded on both sides, and more of it follows. -/
structure Reaches (fork : Fork) (common : Text) (place other : Place) : Prop where
  reads : ∃ text, fork.left.Reads text place ∧ fork.right.Reads text other
  left : place.after = common ++ fork.leftRest
  right : other.after = common ++ fork.rightRest
  notes : place.notes = other.notes

/-- What matching comes to on both sides, unless a side has gone beyond the common text. -/
inductive Agree (fork : Fork) : Option Place → Option Place → Prop where
  | none : Agree fork none none
  | both {common : Text} {place other : Place} (reaches : fork.Reaches common place other)
      : Agree fork (some place) (some other)
  | left {place : Place} {second : Option Place}
      (beyond : place.after.length < fork.leftRest.length) : Agree fork (some place) second
  | right {first : Option Place} {other : Place}
      (beyond : other.after.length < fork.rightRest.length) : Agree fork first (some other)

/-- A result is that of another way, or it lies beyond a text. -/
def IsOrBeyond (rest : Text) (way result : Option Place) : Prop :=
  result = way ∨ ∃ place, result = some place ∧ place.after.length < rest.length

theorem Agree.of_beyond (agree : fork.Agree first second)
    (firstEnds : IsOrBeyond fork.leftRest first firstMore)
    (secondEnds : IsOrBeyond fork.rightRest second secondMore)
    : fork.Agree firstMore secondMore := by
  rcases firstEnds with rfl | ⟨place, rfl, beyond⟩
  · rcases secondEnds with rfl | ⟨other, rfl, beyond⟩
    · exact agree
    · exact .right beyond
  · exact .left beyond

theorem Agree.or (agree : fork.Agree first second) (agreeMore : fork.Agree firstMore secondMore)
    : fork.Agree (first.or firstMore) (second.or secondMore) := by
  cases agree with
  | none => exact agreeMore
  | both reaches => exact .both reaches
  | left beyond => exact .left beyond
  | right beyond => exact .right beyond

-----------------------------------------------------------------------------------------
-- Places
-----------------------------------------------------------------------------------------

theorem Reaches.past {char : Char} (reaches : fork.Reaches (char :: common) place other)
    : fork.Reaches common (place.past [char] (common ++ fork.leftRest))
        (other.past [char] (common ++ fork.rightRest)) := by
  obtain ⟨⟨text, readsLeft, readsRight⟩, left, right, notes⟩ := reaches
  refine ⟨⟨text ++ [char], readsLeft.trans (Place.reads_past left),
    readsRight.trans (Place.reads_past right)⟩, rfl, rfl, notes⟩

/-- Both sides see the same edges of words. -/
theorem Reaches.edges (reaches : fork.Reaches common place other)
    : place.before.head?.any Alphabet.isWord = other.before.head?.any Alphabet.isWord
      ∧ place.after.head?.any Alphabet.isWord = other.after.head?.any Alphabet.isWord := by
  obtain ⟨⟨text, readsLeft, readsRight⟩, left, right, -⟩ := reaches
  constructor
  · rw [readsLeft.before, readsRight.before]
    rcases List.eq_nil_or_concat text with rfl | ⟨init, last, rfl⟩
    · exact fork.before
    · simp
  · rw [left, right]
    cases common with
    | nil => exact fork.after
    | cons char more => rfl

/-- Texts since earlier places are the same on both sides. -/
theorem Reaches.textSince_eq {earlier otherEarlier : Place} {more : Text}
    (reaches : fork.Reaches common place other)
    (reachesEarlier : fork.Reaches more earlier otherEarlier)
    : place.textSince earlier = other.textSince otherEarlier := by
  obtain ⟨⟨text, readsLeft, readsRight⟩, -, -, -⟩ := reaches
  obtain ⟨⟨textEarlier, earlierLeft, earlierRight⟩, -, -, -⟩ := reachesEarlier
  have shorter : text.length - textEarlier.length ≤ text.reverse.length := by
    rw [List.length_reverse]
    exact Nat.sub_le _ _
  have since {start reached previous : Place} (reads : start.Reads text reached)
      (reads' : start.Reads textEarlier previous)
      : reached.textSince previous
        = (text.reverse.take (text.length - textEarlier.length)).reverse := by
    rw [Place.textSince, Place.spanSince, Span.text, reads.before, reads.offset, reads'.offset,
      Nat.add_sub_add_left, List.take_append_of_le_length shorter]
  rw [since readsLeft earlierLeft, since readsRight earlierRight]

theorem Reaches.record {earlier otherEarlier : Place} {more : Text}
    (reaches : fork.Reaches common place other)
    (reachesEarlier : fork.Reaches more earlier otherEarlier) (label : String)
    : fork.Reaches common (place.record label earlier) (other.record label otherEarlier) := by
  have since := reaches.textSince_eq reachesEarlier
  obtain ⟨⟨text, readsLeft, readsRight⟩, left, right, notes⟩ := reaches
  refine ⟨⟨text, ⟨readsLeft.offset, readsLeft.before, readsLeft.after⟩,
    ⟨readsRight.offset, readsRight.before, readsRight.after⟩⟩, left, right, ?_⟩
  change (label, place.textSince earlier) :: place.notes
    = (label, other.textSince otherEarlier) :: other.notes
  rw [since, notes]

/-- Where more has been read, less of the common text follows. -/
theorem Reaches.shorter {later otherLater : Place} {more : Text}
    (reaches : fork.Reaches common place other) (reachesLater : fork.Reaches more later otherLater)
    : (place.offset < later.offset ↔ more.length < common.length)
      ∧ (other.offset < otherLater.offset ↔ more.length < common.length) := by
  obtain ⟨⟨text, readsLeft, readsRight⟩, left, right, -⟩ := reaches
  obtain ⟨⟨textLater, laterLeft, laterRight⟩, leftLater, rightLater, -⟩ := reachesLater
  have sum := congrArg List.length (readsLeft.after.symm.trans laterLeft.after)
  rw [left, leftLater] at sum
  simp only [List.length_append] at sum
  rw [readsLeft.offset, laterLeft.offset, readsRight.offset, laterRight.offset]
  omega

end Fork

-----------------------------------------------------------------------------------------
-- Patterns
-----------------------------------------------------------------------------------------

namespace Pattern

/-- What is left to match only goes on. -/
def Onward (next : Continuation) : Prop :=
  ∀ place reached, next place = some reached → reached.after.length ≤ place.after.length

/-- Of the places in a text, the pattern sees the edges of words alone. -/
def SeesEdges : Pattern → Prop
  | check holds =>
      ∀ place other : Place,
        place.before.head?.any Alphabet.isWord = other.before.head?.any Alphabet.isWord →
          place.after.head?.any Alphabet.isWord = other.after.head?.any Alphabet.isWord →
            holds place = holds other
  | seq first second | alt first second => first.SeesEdges ∧ second.SeesEdges
  | many body | group _ body => body.SeesEdges
  | one _ | run _ | shortRun _ => True

variable {pattern body : Pattern} {next otherNext : Continuation} {fork : Fork} {common : Text}
variable {place other : Place} {accepts : Char → Bool}

theorem Matches.after_length_le {reached : Place} (matched : pattern.Matches place reached)
    : reached.after.length ≤ place.after.length := by
  obtain ⟨text, reads⟩ := matched.reads
  rw [reads.after, List.length_append]
  exact Nat.le_add_left _ _

theorem Onward.andThen (onward : Onward next) (pattern : Pattern)
    : Onward (pattern.andThen next) := by
  intro place reached found
  obtain ⟨between, matched, goesOn⟩ := exists_of_andThen found
  exact Nat.le_trans (onward between reached goesOn) matched.after_length_le

theorem Onward.manyThen (onward : Onward next) (body : Pattern) (bound : Nat)
    : Onward (manyThen body.andThen next bound) := by
  intro place reached found
  obtain ⟨between, matched, goesOn⟩ :=
    exists_of_manyThen (fun further => exists_of_andThen further) found
  exact Nat.le_trans (onward between reached goesOn) matched.after_length_le

/-- What is left to match comes to the same on both sides. -/
def Continues (fork : Fork) (next otherNext : Continuation) : Prop :=
  ∀ {common place other}, fork.Reaches common place other →
    fork.Agree (next place) (otherNext other)

theorem one_beyond (onward : Onward next) (accepts : Char → Bool) (place : Place)
    : Fork.IsOrBeyond place.after none ((one accepts).andThen next place) := by
  cases isThere : (one accepts).andThen next place with
  | none => exact .inl rfl
  | some reached =>
      obtain ⟨_, ⟨char, rest, after, -, rfl⟩, goesOn⟩ := exists_of_andThen isThere
      refine .inr ⟨reached, rfl, ?_⟩
      rw [after]
      exact Nat.lt_succ_of_le (onward _ _ goesOn)

theorem one_agree {char : Char} (accepts : Char → Bool)
    (reaches : fork.Reaches (char :: common) place other)
    (agree : fork.Agree (next (place.past [char] (common ++ fork.leftRest)))
      (otherNext (other.past [char] (common ++ fork.rightRest))))
    : fork.Agree ((one accepts).andThen next place) ((one accepts).andThen otherNext other) := by
  by_cases accepted : accepts char = true
  · rwa [one_andThen reaches.left accepted, one_andThen reaches.right accepted]
  · rw [Bool.not_eq_true] at accepted
    rw [one_andThen_eq_none reaches.left accepted, one_andThen_eq_none reaches.right accepted]
    exact .none

/-- A run is one more character and the run again, or else nothing. -/
theorem run_andThen_or (accepts : Char → Bool) (next : Continuation) (place : Place)
    : (run accepts).andThen next place
      = ((one accepts).andThen ((run accepts).andThen next) place).or (next place) := by
  rw [run_andThen_eq, one_andThen_eq]
  cases place.after with
  | nil => rfl
  | cons char rest =>
      by_cases accepted : accepts char = true
      · simp only [runThen.go, accepted, if_true, run_andThen_eq, Place.past_after]
        rw [Place.advance_eq]
        cases runThen.go accepts next rest (place.past [char] rest) <;> rfl
      · simp only [runThen.go, accepted]
        rfl

theorem shortRun_andThen_or (accepts : Char → Bool) (next : Continuation) (place : Place)
    : (shortRun accepts).andThen next place
      = (next place).or ((one accepts).andThen ((shortRun accepts).andThen next) place) := by
  change shortRunThen.go accepts next place.after place = _
  rw [one_andThen_eq]
  cases place.after with
  | nil => exact (Option.or_none).symm
  | cons char rest =>
      rw [shortRunThen.go]
      cases next place <;> rfl

theorem run_agree (onward : Onward next) (onwardOther : Onward otherNext)
    (continues : Continues fork next otherNext) (reaches : fork.Reaches common place other)
    : fork.Agree ((run accepts).andThen next place) ((run accepts).andThen otherNext other) := by
  rw [run_andThen_or, run_andThen_or]
  induction common generalizing place other with
  | nil =>
      have left : place.after = fork.leftRest := reaches.left
      have right : other.after = fork.rightRest := reaches.right
      have ends := Fork.Agree.none.of_beyond
        (left ▸ one_beyond (onward.andThen (run accepts)) accepts place)
        (right ▸ one_beyond (onwardOther.andThen (run accepts)) accepts other)
      exact ends.or (continues reaches)
  | cons char more ih =>
      refine (one_agree accepts reaches ?_).or (continues reaches)
      rw [run_andThen_or, run_andThen_or]
      exact ih reaches.past

theorem shortRun_agree (onward : Onward next) (onwardOther : Onward otherNext)
    (continues : Continues fork next otherNext) (reaches : fork.Reaches common place other)
    : fork.Agree ((shortRun accepts).andThen next place)
        ((shortRun accepts).andThen otherNext other) := by
  rw [shortRun_andThen_or, shortRun_andThen_or]
  induction common generalizing place other with
  | nil =>
      have left : place.after = fork.leftRest := reaches.left
      have right : other.after = fork.rightRest := reaches.right
      have ends := Fork.Agree.none.of_beyond
        (left ▸ one_beyond (onward.andThen (shortRun accepts)) accepts place)
        (right ▸ one_beyond (onwardOther.andThen (shortRun accepts)) accepts other)
      exact (continues reaches).or ends
  | cons char more ih =>
      refine (continues reaches).or (one_agree accepts reaches ?_)
      rw [shortRun_andThen_or, shortRun_andThen_or]
      exact ih reaches.past

/-- A repetition from a place comes to what is left to match there, or it goes further. -/
theorem manyThen_beyond (onward : Onward next) (body : Pattern) (bound : Nat) (place : Place)
    : Fork.IsOrBeyond place.after (next place) (manyThen body.andThen next bound place) := by
  cases bound with
  | zero => exact .inl rfl
  | succ bound =>
      rw [manyThen]
      split
      · rename_i reached found
        obtain ⟨between, matched, goesOn⟩ := exists_of_andThen found
        obtain ⟨text, reads⟩ := matched.reads
        split at goesOn
        · rename_i further
          have le := (onward.manyThen body bound) _ _ goesOn
          rw [reads.offset] at further
          refine .inr ⟨reached, rfl, ?_⟩
          rw [reads.after, List.length_append]
          omega
        · cases goesOn
      · exact .inl rfl

theorem Onward.guard (onward : Onward next) (holds : Place → Prop) [DecidablePred holds]
    : Onward fun reached => if holds reached then next reached else none := by
  intro place reached found
  by_cases held : holds place
  · exact onward place reached ((if_pos held).symm.trans found)
  · cases (if_neg held).symm.trans found

theorem manyThen_succ (body : Continuation → Continuation) (next : Continuation) (bound : Nat)
    (place : Place)
    : manyThen body next (bound + 1) place
      = (body (fun reached =>
            if place.offset < reached.offset then manyThen body next bound reached else none)
          place).or (next place) := by
  rw [manyThen]
  split
  · rename_i found
    rw [found]
    rfl
  · rename_i found
    rw [found]
    rfl

/-- By induction on how much of the common text follows: with each repetition it is less. -/
theorem many_agree
    (once : ∀ {next otherNext}, Onward next → Onward otherNext → Continues fork next otherNext →
      Continues fork (body.andThen next) (body.andThen otherNext))
    (onward : Onward next) (onwardOther : Onward otherNext)
    (continues : Continues fork next otherNext) {bound otherBound : Nat}
    (reaches : fork.Reaches common place other) (enough : place.after.length ≤ bound)
    (enoughOther : other.after.length ≤ otherBound)
    : fork.Agree (manyThen body.andThen next bound place)
        (manyThen body.andThen otherNext otherBound other) := by
  induction length : common.length using Nat.strongRecOn generalizing common place other
    bound otherBound with
  | ind length ih =>
      cases common with
      | nil =>
          have left : place.after = fork.leftRest := reaches.left
          have right : other.after = fork.rightRest := reaches.right
          exact (continues reaches).of_beyond (left ▸ manyThen_beyond onward body bound place)
            (right ▸ manyThen_beyond onwardOther body otherBound other)
      | cons char common =>
          rw [reaches.left] at enough
          rw [reaches.right] at enoughOther
          obtain ⟨bound, rfl⟩ := Nat.exists_eq_add_one.mpr (Nat.zero_lt_of_lt enough)
          obtain ⟨otherBound, rfl⟩ := Nat.exists_eq_add_one.mpr (Nat.zero_lt_of_lt enoughOther)
          rw [manyThen_succ, manyThen_succ]
          refine Fork.Agree.or (once (.guard (onward.manyThen body bound) _)
            (.guard (onwardOther.manyThen body otherBound) _) ?_ reaches) (continues reaches)
          intro more later otherLater reachesLater
          obtain ⟨further, furtherOther⟩ := reaches.shorter reachesLater
          dsimp only
          by_cases less : more.length < (char :: common).length
          · rw [if_pos (further.mpr less), if_pos (furtherOther.mpr less)]
            have leftLater := congrArg List.length reachesLater.left
            have rightLater := congrArg List.length reachesLater.right
            simp only [List.length_append, List.length_cons] at *
            exact ih more.length (length ▸ less) reachesLater (by omega) (by omega) rfl
          · rw [if_neg (mt further.mp less), if_neg (mt furtherOther.mp less)]
            exact .none

/-- A pattern that sees only edges of words comes to the same on both sides, if what is left to
match does. By induction on the pattern.
-/
theorem SeesEdges.continues (sees : pattern.SeesEdges) (onward : Onward next)
    (onwardOther : Onward otherNext) (continues : Continues fork next otherNext)
    : Continues fork (pattern.andThen next) (pattern.andThen otherNext) := by
  induction pattern generalizing next otherNext with
  | one accepts =>
      intro common place other reaches
      cases common with
      | nil =>
          have left : place.after = fork.leftRest := reaches.left
          have right : other.after = fork.rightRest := reaches.right
          exact Fork.Agree.none.of_beyond (left ▸ one_beyond onward accepts place)
            (right ▸ one_beyond onwardOther accepts other)
      | cons char more => exact one_agree accepts reaches (continues reaches.past)
  | run accepts => exact fun reaches => run_agree onward onwardOther continues reaches
  | shortRun accepts => exact fun reaches => shortRun_agree onward onwardOther continues reaches
  | check holds =>
      intro common place other reaches
      have same : holds place = holds other := sees _ _ reaches.edges.1 reaches.edges.2
      rw [andThen, andThen, same]
      split
      · exact continues reaches
      · exact .none
  | seq first second ihFirst ihSecond =>
      exact ihFirst sees.1 (onward.andThen second) (onwardOther.andThen second)
        (ihSecond sees.2 onward onwardOther continues)
  | alt first second ihFirst ihSecond =>
      intro common place other reaches
      have both := (ihFirst sees.1 onward onwardOther continues reaches).or
        (ihSecond sees.2 onward onwardOther continues reaches)
      rwa [← orElse_andThen, ← orElse_andThen] at both
  | many body ih =>
      intro common place other reaches
      exact many_agree (fun onward onwardOther => ih sees onward onwardOther) onward onwardOther
        continues reaches (Nat.le_refl _) (Nat.le_refl _)
  | group label body ih =>
      intro common place other reaches
      have goesOn : Continues fork (fun reached => next (reached.record label place))
          (fun reached => otherNext (reached.record label other)) :=
        fun reachesLater => continues (reachesLater.record reaches label)
      have onwardInside : Onward fun reached => next (reached.record label place) :=
        fun reached => onward (reached.record label place)
      have onwardOtherInside : Onward fun reached => otherNext (reached.record label other) :=
        fun reached => onwardOther (reached.record label other)
      exact ih sees onwardInside onwardOtherInside goesOn reaches

/-- Matches in two texts agree from where the same text follows. -/
theorem SeesEdges.agree (sees : pattern.SeesEdges) (reaches : fork.Reaches common place other)
    : fork.Agree (pattern.matchAt? place) (pattern.matchAt? other) := by
  have onward : Onward some := by
    rintro place _ ⟨⟩
    exact Nat.le_refl _
  exact sees.continues onward onward (fun reaches => .both reaches) reaches

-----------------------------------------------------------------------------------------
-- Patterns that see edges of words alone
-----------------------------------------------------------------------------------------

@[simp] theorem seesEdges_append {first second : Pattern}
    : (first ++ second).SeesEdges ↔ first.SeesEdges ∧ second.SeesEdges :=
  Iff.rfl

@[simp] theorem seesEdges_orElse {first second : Pattern}
    : (first <|> second).SeesEdges ↔ first.SeesEdges ∧ second.SeesEdges :=
  Iff.rfl

@[simp] theorem seesEdges_group (label : String)
    : (group label body).SeesEdges ↔ body.SeesEdges :=
  Iff.rfl

@[simp] theorem seesEdges_many
    : (many body).SeesEdges ↔ body.SeesEdges :=
  Iff.rfl

@[simp] theorem seesEdges_one (accepts : Char → Bool)
    : (one accepts).SeesEdges :=
  trivial

@[simp] theorem seesEdges_char (expected : Char)
    : (char expected).SeesEdges :=
  trivial

@[simp] theorem seesEdges_run (accepts : Char → Bool)
    : (run accepts).SeesEdges :=
  trivial

@[simp] theorem seesEdges_someOf (accepts : Char → Bool)
    : (someOf accepts).SeesEdges :=
  ⟨trivial, trivial⟩

@[simp] theorem seesEdges_const (holds : Bool)
    : (check fun _ => holds).SeesEdges :=
  fun _ _ _ _ => rfl

@[simp] theorem seesEdges_optional
    : (optional body).SeesEdges ↔ body.SeesEdges :=
  and_iff_left (seesEdges_const true)

@[simp] theorem seesEdges_wordEdge
    : wordEdge.SeesEdges :=
  fun _ _ before after => congr (congrArg _ before) after

@[simp] theorem seesEdges_exactly (text : Text)
    : (exactly text).SeesEdges := by
  induction text with
  | nil => exact seesEdges_const true
  | cons char rest ih => exact ⟨trivial, ih⟩

@[simp] theorem seesEdges_letters (word : String)
    : (letters word).SeesEdges := by
  rw [letters]
  induction Text.ofString word with
  | nil => exact seesEdges_const true
  | cons char rest ih => exact ⟨trivial, ih⟩

@[simp] theorem seesEdges_words (list : List String)
    : (words list).SeesEdges := by
  induction list with
  | nil => exact seesEdges_const true
  | cons first rest ih =>
      cases rest with
      | nil => exact seesEdges_letters first
      | cons second others => exact ⟨⟨seesEdges_letters first, seesEdges_someOf _⟩, ih⟩

@[simp] theorem seesEdges_anyWord (list : List String)
    : (anyWord list).SeesEdges := by
  induction list with
  | nil => exact seesEdges_const false
  | cons first rest ih =>
      cases rest with
      | nil => exact seesEdges_letters first
      | cons second others => exact ⟨seesEdges_letters first, ih⟩

end Pattern

end DumpTransfer
