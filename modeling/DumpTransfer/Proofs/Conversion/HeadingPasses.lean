import DumpTransfer.Proofs.Conversion.HeadingReaders

/-! Passes over statements about tables. Each pass keeps the beginning of a statement up to the end
of the name, and is followed only as far as to what comes right after it.
-/

namespace DumpTransfer.Conversion.Heading

open Sql

variable {tail : Text}

-----------------------------------------------------------------------------------------
-- What follows a name
-----------------------------------------------------------------------------------------

/-- Characters that may stand right after a name or begin the next word. -/
def isLead (char : Char) : Bool :=
  Alphabet.isBlank char || Insertion.isMark char || char.isAlpha

theorem unquoted_of_isLead {text : Text} (leads : ∀ char ∈ text, isLead char = true)
    : Unquoted text :=
  Insertion.unquoted_of isLead leads (by decide)

/-- What follows a name past white space is a sign or a letter. -/
theorem isLead_of_next {char : Char} {spaces : Text}
    (next : Insertion.isMark char = true
      ∨ (spaces ≠ [] ∧ char.isAlpha = true ∧ char.toUpper ≠ 'X'))
    : isLead char = true := by
  rcases next with mark | ⟨_, letter, _⟩
  · simp [isLead, mark]
  · simp [isLead, letter]

theorem Blank.leads {spaces : Text} (blank : Text.Blank spaces)
    : ∀ char ∈ spaces, isLead char = true := by
  intro char member
  simp [isLead, blank char member]

theorem Follows.of_shorter {shorter : Text} (follows : Follows tail) (starts : shorter <+: tail)
    : Follows shorter := by
  obtain ⟨spaces, rest, rfl, blank, next⟩ := follows
  rcases List.prefix_or_prefix_of_prefix starts (List.prefix_append spaces rest) with inside | past
  · exact ⟨shorter, [], by simp, fun char member => blank char (inside.subset member), by simp⟩
  · obtain ⟨more, rfl⟩ := past
    have inRest := (List.prefix_append_right_inj spaces).mp starts
    refine ⟨spaces, more, rfl, blank, fun char head => next char ?_⟩
    obtain ⟨others, rfl⟩ := inRest
    obtain ⟨later, rfl⟩ := List.head?_eq_some_iff.mp head
    rfl

theorem Follows.append {more : Text} (follows : Follows tail) (followsMore : Follows more)
    : Follows (tail ++ more) := by
  obtain ⟨spaces, rest, rfl, blank, next⟩ := follows
  cases rest with
  | nil =>
      obtain ⟨others, later, rfl, blankOthers, nextLater⟩ := followsMore
      refine ⟨spaces ++ others, later, by simp, ?_, fun char head => ?_⟩
      · intro char member
        rcases List.mem_append.mp member with member | member
        · exact blank char member
        · exact blankOthers char member
      · refine (nextLater char head).imp_right fun ⟨isThere, letter⟩ => ⟨?_, letter⟩
        exact List.append_ne_nil_of_right_ne_nil spaces isThere
  | cons char others => exact ⟨spaces, char :: others ++ more, by simp, blank, next⟩

theorem blank_space
    : Text.Blank [' '] := by
  simpa [Text.Blank] using (by decide)

/-- A word may follow a name after white space. -/
theorem follows_word {spaces : Text} (isThere : spaces ≠ []) (blank : Text.Blank spaces)
    {char : Char} (letter : char.isAlpha = true ∧ char.toUpper ≠ 'X') (rest : Text)
    : Follows (spaces ++ char :: rest) := by
  refine ⟨spaces, char :: rest, rfl, blank, fun first head => Or.inr ⟨isThere, ?_⟩⟩
  rwa [← Option.some.inj head]

/-- A pass that keeps white space, signs and letters keeps what follows a name. -/
theorem Follows.pass {pass : Text → Text} (empty : pass [] = [])
    (keeps : ∀ text rest, (∀ char ∈ text, isLead char = true) →
      pass (text ++ rest) = text ++ pass rest)
    (follows : Follows tail)
    : Follows (pass tail) := by
  obtain ⟨spaces, rest, rfl, blank, next⟩ := follows
  refine ⟨spaces, pass rest, keeps spaces rest (Blank.leads blank), blank, ?_⟩
  cases rest with
  | nil => simp [empty]
  | cons char others =>
      have kept := keeps [char] others (by simpa using isLead_of_next (next char rfl))
      rw [List.singleton_append] at kept
      rw [kept]
      exact next

/-- No further part of a name follows it. -/
theorem Follows.afterDot? (follows : Follows tail)
    : ObjectName.afterDot? tail = none := by
  obtain ⟨spaces, rest, rfl, blank, next⟩ := follows
  refine ObjectName.afterDot?_of_blank blank fun char head => ?_
  rcases next char head with mark | ⟨_, letter, _⟩
  · simpa using Insertion.holds_of_isMark
      (fun mark => ! Alphabet.isAsciiBlank mark && mark ≠ '.') rfl mark
  · exact Insertion.outside_of_isAlpha letter

-----------------------------------------------------------------------------------------
-- Characters of headings
-----------------------------------------------------------------------------------------

/-- A character of white space or of one of the given words. -/
def Within (words : List String) (char : Char) : Prop :=
  Alphabet.isBlank char = true
    ∨ ∃ word ∈ words, ∃ spelling : Insertion.Spelling word, char ∈ spelling.text

theorem Within.mono {words others : List String} {char : Char} (within : Within words char)
    (subset : words ⊆ others)
    : Within others char :=
  within.imp_right fun ⟨word, member, spelled⟩ => ⟨word, subset member, spelled⟩

theorem within_spelling {word : String} (spelling : Insertion.Spelling word) {char : Char}
    (member : char ∈ spelling.text)
    : Within [word] char :=
  Or.inr ⟨word, by simp, spelling, member⟩

theorem Phrase.within {words : List String} (phrase : Phrase words) {char : Char}
    (member : char ∈ phrase.text)
    : Within words char := by
  induction phrase with
  | last gap spelling =>
      rcases List.mem_append.mp member with blank | spelled
      · exact Or.inl (gap.blank char blank)
      · exact within_spelling spelling spelled
  | more gap spelling rest ih =>
      rcases List.mem_append.mp member with blank | member
      · exact Or.inl (gap.blank char blank)
      · rcases List.mem_append.mp member with spelled | member
        · exact (within_spelling spelling spelled).mono (by simp)
        · exact (ih member).mono (by simp)

theorem within_optional {words : List String} (phrase : Option (Phrase words)) {char : Char}
    (member : char ∈ optionalText phrase)
    : Within words char := by
  cases phrase with
  | none => cases member
  | some phrase => exact phrase.within member

theorem within_priority (priority : Option Priority) {char : Char}
    (member : char ∈ priorityText priority)
    : Within ["LOW_PRIORITY", "DELAYED"] char := by
  rcases priority with _ | ⟨phrase | phrase⟩
  · cases member
  · exact (phrase.within member).mono (by simp)
  · exact (phrase.within member).mono (by simp)

/-- The words of statements that do the same. -/
def Act.words : Act → List String
  | create _ _ _ _ => ["CREATE", "TEMPORARY", "TABLE", "IF", "NOT", "EXISTS"]
  | drop _ _ _ => ["DROP", "TABLE", "IF", "EXISTS"]
  | insert _ _ _ => ["INSERT", "IGNORE", "INTO"]
  | replace _ _ _ => ["REPLACE", "LOW_PRIORITY", "DELAYED", "INTO"]

theorem within_text (heading : Heading) {char : Char} (member : char ∈ heading.text)
    : Within heading.act.words char := by
  obtain ⟨act, between⟩ := heading
  rcases List.mem_append.mp member with member | blank
  · cases act with
    | create verb temporary table guard =>
        simp only [Act.text, List.mem_append] at member
        rcases member with spelled | temporary' | table' | guard'
        · exact (within_spelling verb spelled).mono (by simp [Act.words])
        · exact (within_optional temporary temporary').mono (by simp [Act.words])
        · exact (table.within table').mono (by simp [Act.words])
        · exact (within_optional guard guard').mono (by simp [Act.words])
    | drop verb table guard =>
        simp only [Act.text, List.mem_append] at member
        rcases member with spelled | table' | guard'
        · exact (within_spelling verb spelled).mono (by simp [Act.words])
        · exact (table.within table').mono (by simp [Act.words])
        · exact (within_optional guard guard').mono (by simp [Act.words])
    | insert verb ignore into =>
        simp only [Act.text, List.mem_append] at member
        rcases member with spelled | ignore' | into'
        · exact (within_spelling verb spelled).mono (by simp [Act.words])
        · exact (within_optional ignore ignore').mono (by simp [Act.words])
        · exact (into.within into').mono (by simp [Act.words])
    | replace verb priority into =>
        simp only [Act.text, List.mem_append] at member
        rcases member with spelled | priority' | into'
        · exact (within_spelling verb spelled).mono (by simp [Act.words])
        · exact (within_priority priority priority').mono (by simp [Act.words])
        · exact (into.within into').mono (by simp [Act.words])
  · exact Or.inl (between.blank char blank)

/-- Characters of white space and words. -/
def isWordOrBlank (char : Char) : Bool :=
  Alphabet.isBlank char || char.isAlpha || char = '_'

theorem isWordOrBlank_of_mem (heading : Heading) {char : Char} (member : char ∈ heading.text)
    : isWordOrBlank char = true := by
  rcases heading.within_text member with blank | ⟨word, inWords, spelling, spelled⟩
  · simp [isWordOrBlank, blank]
  · have known : heading.act.words.all isKeyword = true := by
      cases heading.act <;> rfl
    rcases isUpper_or_of_mem (List.all_eq_true.mp known word inWords) spelled with upper | rfl
    · simp [isWordOrBlank, Alphabet.isAlpha_of_toUpper upper]
    · decide

theorem not_mem_text (heading : Heading) {char : Char} (other : isWordOrBlank char = false)
    : char ∉ heading.text :=
  fun member => Bool.noConfusion ((heading.isWordOrBlank_of_mem member).symm.trans other)

theorem unquoted_text (heading : Heading)
    : Unquoted heading.text :=
  Insertion.unquoted_of isWordOrBlank (fun _ member => heading.isWordOrBlank_of_mem member)
    (by decide)

/-- No word of an insertion has the letter of hexadecimal numbers. -/
theorem no_x_of_insert (heading : Heading) (kind : heading.act.kind = .insert)
    : 'x' ∉ heading.text := by
  intro member
  have without : heading.act.words.all (fun word => !word.toList.contains 'X') = true := by
    cases act : heading.act with
    | create _ _ _ _ | drop _ _ _ =>
        rw [act] at kind
        cases kind
    | insert _ _ _ | replace _ _ _ => rfl
  rcases heading.within_text member with blank | ⟨word, inWords, spelling, spelled⟩
  · cases blank
  · have none := List.all_eq_true.mp without word inWords
    have there : word.toList.contains 'X' = true :=
      List.contains_iff_mem.mpr (spelling.toUpper_mem spelled)
    rw [there] at none
    cases none

-----------------------------------------------------------------------------------------
-- Beginnings of statements
-----------------------------------------------------------------------------------------

/-- What a statement in standard style begins with, up to the end of the name. -/
def opening (heading : Heading) (name : Name) : Text :=
  heading.text ++ name.written '"'

/-- The statement begins with a text that ends with a name. -/
def BeginsWith (opening statement : Text) : Prop :=
  ∃ tail, statement = opening ++ tail ∧ Follows tail

theorem unquoted_bare {first : Char} {more : Text}
    (isStart : isBarePart first = true ∧ first ≠ '$')
    (areParts : ∀ char ∈ more, isBarePart char = true)
    : Unquoted (first :: more) :=
  Insertion.unquoted_of isBarePart (bare_parts isStart areParts) (by decide)

theorem isCode_opening (heading : Heading) (name : Name)
    : Segment.IsCode (heading.opening name) := by
  refine (Segment.isCode_unquoted heading.unquoted_text).append ?_
  cases name with
  | quoted value isThere => exact Segment.isCode_name (Or.inr rfl) value
  | bare first more isStart areParts noGuard =>
      exact Segment.isCode_unquoted (unquoted_bare isStart areParts)

/-- A statement ends its name with neither white space nor a semicolon. -/
theorem tight_opening (heading : Heading) (name : Name)
    : Text.Tight (heading.opening name) := by
  refine Text.Tight.append ?_ heading.text
  cases name with
  | quoted value isThere => exact ⟨'"' :: Text.doubling '"' value, '"', rfl, by decide, by decide⟩
  | bare first more isStart areParts noGuard =>
      obtain ⟨init, last, spelled⟩ :=
        (List.eq_nil_or_concat (first :: more)).resolve_left (List.cons_ne_nil _ _)
      have part := bare_parts isStart areParts last (by simp [spelled])
      refine ⟨init, last, by rw [Name.written, spelled, List.concat_eq_append],
        isBlank_of_isBarePart part, ?_⟩
      rintro rfl
      cases part

theorem not_mem_opening (heading : Heading) {name : Name} (noNull : '\x00' ∉ name.value)
    : '\x00' ∉ heading.opening name := by
  intro member
  rcases List.mem_append.mp member with member | member
  · exact heading.not_mem_text (by decide) member
  · cases name with
    | quoted value isThere =>
        have absent : '\x00' ∉ value := noNull
        have kept := Insertion.kept_nameText value
        rw [Insertion.kept_of_not_mem absent] at kept
        have all := List.filter_eq_self.mp kept '\x00' member
        simp at all
    | bare first more isStart areParts noGuard => exact noNull member

-----------------------------------------------------------------------------------------
-- Standard form
-----------------------------------------------------------------------------------------

theorem normalize_heading (heading : Heading) (name : Name) (tail : Text)
    : Literal.normalize (heading.text ++ (name.written '`' ++ tail))
      = heading.text ++ (name.written '`' ++ Literal.normalizeFrom .code tail) := by
  rw [Literal.normalize_eq, Literal.normalizeFrom_unquoted heading.unquoted_text]
  refine congrArg _ ?_
  cases name with
  | quoted value isThere => exact Literal.normalizeFrom_name (Or.inl rfl) value tail
  | bare first more isStart areParts noGuard =>
      exact Literal.normalizeFrom_unquoted (unquoted_bare isStart areParts) tail

theorem requoted_heading (heading : Heading) (name : Name) (follows : Follows tail)
    : Insertion.requoted (heading.text ++ (name.written '`' ++ tail))
      = heading.opening name ++ Insertion.requoted tail := by
  rw [Insertion.requoted_unquoted heading.unquoted_text, opening, List.append_assoc]
  refine congrArg _ ?_
  cases name with
  | quoted value isThere =>
      exact Insertion.requoted_backName value (follows.no_quote (Or.inl rfl))
  | bare first more isStart areParts noGuard =>
      exact Insertion.requoted_unquoted (unquoted_bare isStart areParts) tail

/-- A statement in standard style has its quotes already. -/
theorem requoted_opening (heading : Heading) (name : Name) (tail : Text)
    : Insertion.requoted (heading.opening name ++ tail)
      = heading.opening name ++ Insertion.requoted tail := by
  rw [opening, List.append_assoc, Insertion.requoted_unquoted heading.unquoted_text,
    List.append_assoc]
  refine congrArg _ ?_
  cases name with
  | quoted value isThere => exact Insertion.requoted_doubleName value tail
  | bare first more isStart areParts noGuard =>
      exact Insertion.requoted_unquoted (unquoted_bare isStart areParts) tail

theorem Follows.requoted (follows : Follows tail)
    : Follows (Insertion.requoted tail) :=
  follows.pass rfl fun _ rest leads =>
    Insertion.requoted_unquoted (unquoted_of_isLead leads) rest

theorem beginsWith_standardize (heading : Heading) (name : Name) (follows : Follows tail)
    : BeginsWith (heading.opening name)
        (ByPattern.standardize (heading.text ++ (name.written '`' ++ tail))) := by
  have normal : Follows (Literal.normalizeFrom .code tail) :=
    follows.pass rfl fun _ rest leads =>
      Literal.normalizeFrom_unquoted (unquoted_of_isLead leads) rest
  rw [ByPattern.standardize, normalize_heading, QuotedName.requote_eq]
  exact ⟨_, heading.requoted_heading name normal, normal.requoted⟩

/-- Quoting anew and leaving out null characters change nothing up to the end of the name. -/
theorem BeginsWith.stored {heading : Heading} {name : Name} {statement : Text}
    (begins : BeginsWith (heading.opening name) statement) (noNull : '\x00' ∉ name.value)
    : BeginsWith (heading.opening name)
        ((QuotedName.requote statement).filter (· ≠ '\x00')) := by
  obtain ⟨tail, rfl, follows⟩ := begins
  have kept : Follows (Insertion.kept (Insertion.requoted tail)) := by
    refine follows.requoted.pass rfl fun text rest leads => ?_
    exact Insertion.kept_append_of_not_mem (fun null => Bool.noConfusion (leads _ null)) rest
  have quoted := (QuotedName.requote_eq _).trans (heading.requoted_opening name tail)
  rw [quoted]
  exact ⟨_, Insertion.kept_append_of_not_mem (heading.not_mem_opening noNull) _, kept⟩

-----------------------------------------------------------------------------------------
-- Hexadecimal numbers
-----------------------------------------------------------------------------------------

/-- A word that does not begin like a number keeps its first character. -/
theorem adaptWords_head {char : Char} (notZero : char ≠ '0') (rest : Text)
    : (ByPattern.adaptWords (char :: rest)).head? = some char := by
  obtain ⟨word, later, split, all, breaks⟩ := Text.exists_run Alphabet.isWord (char :: rest)
  have noNumber : ByPattern.isHexNumber word = false := by
    cases word with
    | nil => rfl
    | cons first others =>
        obtain ⟨rfl, _⟩ := List.cons.inj split
        rw [ByPattern.isHexNumber]
        rintro _ _ same
        exact absurd (List.cons.inj same).1 notZero
  have kept := ByPattern.adaptRest_fresh_cons split all breaks noNumber
  change ByPattern.adaptWords (char :: rest) = _ at kept
  rw [kept]
  rfl

theorem head_of_worded {char : Char} (lead : isLead char = true) (notZero : char ≠ '0')
    (rest : Text)
    : (Insertion.worded (char :: rest)).head? = some char := by
  have isCode : Segment.IsCode [char] :=
    Segment.isCode_unquoted (unquoted_of_isLead (by simpa using lead))
  change (Segment.changed ByPattern.adaptWords (Segment.ofText .standard ([char] ++ rest))).head?
    = some char
  rw [isCode, Segment.changed_eq rfl, Segment.leadingCode_afterCode]
  have first := adaptWords_head notZero
    (Segment.leadingCode (Segment.ofText .standard rest))
  obtain ⟨others, same⟩ := List.head?_eq_some_iff.mp first
  rw [List.singleton_append, same]
  rfl

theorem worded_blank {spaces : Text} (blank : Text.Blank spaces) (rest : Text)
    : Insertion.worded (spaces ++ rest) = spaces ++ Insertion.worded rest := by
  refine Segment.onCode_code rfl
    (Segment.isCode_unquoted (unquoted_of_isLead (Blank.leads blank))) fun later _ => ?_
  induction spaces with
  | nil => rfl
  | cons space more ih =>
      have outside : Alphabet.isWord space = false := (apart_of_isBlank (blank space (by simp))).1
      rw [List.cons_append, ByPattern.adaptWords_sign outside,
        ih fun char member => blank char (by simp [member]), List.cons_append]

/-- What follows a name begins with no number. -/
theorem Follows.worded (follows : Follows tail)
    : Follows (Insertion.worded tail) := by
  obtain ⟨spaces, rest, rfl, blank, next⟩ := follows
  refine ⟨spaces, _, worded_blank blank rest, blank, ?_⟩
  cases rest with
  | nil => exact next
  | cons char others =>
      have notZero : char ≠ '0' := by
        rintro rfl
        rcases next '0' rfl with mark | ⟨_, letter, _⟩
        · cases mark
        · cases letter
      rw [head_of_worded (isLead_of_next (next char rfl)) notZero]
      exact next

theorem Follows.breaks {later : Text} (follows : Follows tail) (begins : Segment.Begins tail later)
    : ByPattern.Breaks later := by
  intro char head
  rcases follows.head char (begins char head).1 with blank | mark
  · exact (apart_of_isBlank blank).1
  · exact Insertion.isWord_of_isSign (by simp [Insertion.isSign, mark])

theorem worded_heading (heading : Heading) (kind : heading.act.kind = .insert) (rest : Text)
    : Insertion.worded (heading.text ++ rest) = heading.text ++ Insertion.worded rest := by
  have stays := ByPattern.adaptWords_of_no_x (heading.no_x_of_insert kind)
  obtain ⟨init, last, same, blank⟩ := heading.beforeName.exists_last
  have outside : Alphabet.isWord last = false := (apart_of_isBlank blank).1
  refine Segment.onCode_code rfl (Segment.isCode_unquoted heading.unquoted_text) fun later _ => ?_
  rw [text, same, ← List.append_assoc] at stays ⊢
  rw [ByPattern.adaptWords_append_of_sign _ outside, stays]

/-- A name without hexadecimal numbers stays as it is. -/
theorem Name.worded (name : Name) (noNumber : ByPattern.adaptWords name.value = name.value)
    (follows : Follows tail)
    : Insertion.worded (name.written '"' ++ tail) = name.written '"' ++ Insertion.worded tail := by
  cases name with
  | quoted value isThere =>
      refine Segment.onCode_code rfl (Segment.isCode_name (Or.inr rfl) value) fun later _ => ?_
      have same : ByPattern.adaptWords (nameText '"' value) = nameText '"' value :=
        (Insertion.adaptWords_nameText value).trans (congrArg _ noNumber)
      have splits := ByPattern.adaptWords_append_of_sign ('"' :: Text.doubling '"' value)
        (by decide : Alphabet.isWord '"' = false) later
      exact splits.trans (congrArg (· ++ _) same)
  | bare first more isStart areParts noGuard =>
      have unquoted := unquoted_bare isStart areParts
      refine Segment.onCode_code rfl (Segment.isCode_unquoted unquoted) fun later begins => ?_
      have splits := ByPattern.adaptWords_append (first :: more) (follows.breaks begins)
      exact splits.trans (congrArg (· ++ _) noNumber)

/-- Hexadecimal numbers are looked for after the name only. -/
theorem BeginsWith.worded {heading : Heading} {name : Name} {statement : Text}
    (begins : BeginsWith (heading.opening name) statement)
    (kind : heading.act.kind = .insert)
    (noNumber : ByPattern.adaptWords name.value = name.value)
    : BeginsWith (heading.opening name) (Insertion.worded statement) := by
  obtain ⟨tail, rfl, follows⟩ := begins
  refine ⟨Insertion.worded tail, ?_, follows.worded⟩
  rw [opening, List.append_assoc, heading.worded_heading kind, name.worded noNumber follows,
    List.append_assoc]

-----------------------------------------------------------------------------------------
-- Definitions
-----------------------------------------------------------------------------------------

/-- No opening parenthesis is found in a text. -/
def Skipped (text : Text) : Prop :=
  ∀ later, Parenthesis.splitAtOpen none (text ++ later)
    = (Parenthesis.splitAtOpen none later).map fun (head, after) => (text ++ head, after)

theorem Skipped.append {first second : Text} (skippedFirst : Skipped first)
    (skippedSecond : Skipped second)
    : Skipped (first ++ second) := by
  intro later
  rw [List.append_assoc, skippedFirst, skippedSecond, Option.map_map]
  refine congrArg (Option.map · _) (funext fun pair => ?_)
  simp

theorem skipped_unquoted {text : Text} (unquoted : Unquoted text) (noOpen : '(' ∉ text)
    : Skipped text := by
  intro later
  induction text with
  | nil => exact Option.map_id'.symm
  | cons char more ih =>
      obtain ⟨single, back, double⟩ := unquoted char (by simp)
      simp only [List.mem_cons, not_or] at noOpen
      have stays : Parenthesis.quoteStep none char = none := by
        simp [Parenthesis.quoteStep, single, back, double]
      have later := ih (fun other member => unquoted other (by simp [member])) noOpen.2
      rw [List.cons_append, Parenthesis.splitAtOpen, stays, later, Option.map_map]
      simp [Ne.symm noOpen.1, Function.comp_def]

/-- Parentheses in a name between double quotes are none of the code. -/
theorem skipped_name (name : Text)
    : Skipped (nameText '"' name) := by
  intro later
  have inside
      : Parenthesis.splitAtOpen (some '"') (Text.doubling '"' name ++ '"' :: later)
        = (Parenthesis.splitAtOpen none later).map fun (head, after) =>
            (Text.doubling '"' name ++ '"' :: head, after) := by
    induction name with
    | nil => rfl
    | cons char more ih =>
        by_cases quote : char = '"'
        · subst quote
          rw [Text.doubling, if_pos rfl, List.cons_append, List.cons_append,
            Parenthesis.splitAtOpen, Parenthesis.splitAtOpen]
          simp [Parenthesis.quoteStep, ih, Function.comp_def]
        · rw [Text.doubling, if_neg quote, List.cons_append, Parenthesis.splitAtOpen]
          simp [Parenthesis.quoteStep, quote, ih, Function.comp_def]
  rw [nameText_append, Parenthesis.splitAtOpen]
  simp [Parenthesis.quoteStep, inside, Function.comp_def, nameText]

theorem splitRunsAtOpen_eq (runs : List Segment)
    : Parenthesis.splitRunsAtOpen runs
      = match Parenthesis.splitAtOpen none (Segment.leadingCode runs) with
        | some (head, after) =>
            some (head, after ++ (Segment.dropCode runs).flatMap Segment.text)
        | none =>
            (Parenthesis.splitRunsAtOpen (Segment.dropCode runs)).map fun (head, after) =>
              (Segment.leadingCode runs ++ head, after) := by
  rcases runs with _ | ⟨code | literal, rest⟩
  · rfl
  · rfl
  · exact Option.map_id'.symm

theorem firstOpen?_append {text : Text} (isCode : Segment.IsCode text) (skipped : Skipped text)
    (rest : Text)
    : Parenthesis.firstOpen? (text ++ rest)
      = (Parenthesis.firstOpen? rest).map fun (head, after) => (text ++ head, after) := by
  rw [Parenthesis.firstOpen?, Parenthesis.firstOpen?, isCode, splitRunsAtOpen_eq,
    splitRunsAtOpen_eq (Segment.ofText .standard rest), Segment.leadingCode_afterCode,
    Segment.dropCode_afterCode, skipped]
  cases Parenthesis.splitAtOpen none (Segment.leadingCode (Segment.ofText .standard rest)) with
  | some pair => rfl
  | none =>
      dsimp only [Option.map_none]
      rw [Option.map_map]
      refine congrArg (Option.map · _) (funext fun pair => ?_)
      simp

theorem skipped_opening (heading : Heading) (name : Name)
    : Skipped (heading.opening name) := by
  refine (skipped_unquoted heading.unquoted_text (heading.not_mem_text (by decide))).append ?_
  cases name with
  | quoted value isThere => exact skipped_name value
  | bare first more isStart areParts noGuard =>
      exact skipped_unquoted (unquoted_bare isStart areParts)
        fun member => Bool.noConfusion (bare_parts isStart areParts _ member)

/-- Before the first parenthesis stands nothing, or what the text begins with. -/
theorem firstOpen?_cons {char : Char} (lead : isLead char = true) {rest before list : Text}
    (found : Parenthesis.firstOpen? (char :: rest) = some (before, list))
    : ∀ first ∈ before.head?, first = char := by
  have unquoted : Unquoted [char] := unquoted_of_isLead (by simpa using lead)
  have isCode := Segment.isCode_unquoted unquoted
  by_cases opens : char = '('
  · subst opens
    have first : Parenthesis.firstOpen? (['('] ++ rest) = some (before, list) := found
    rw [Parenthesis.firstOpen?, isCode, splitRunsAtOpen_eq, Segment.leadingCode_afterCode,
      List.singleton_append, Parenthesis.splitAtOpen] at first
    obtain ⟨rfl, _⟩ := Prod.mk.inj (Option.some.inj first)
    simp
  · have skipped := skipped_unquoted unquoted (by simpa using Ne.symm opens)
    have later := firstOpen?_append isCode skipped rest
    rw [List.singleton_append, found] at later
    obtain ⟨pair, _, same⟩ := Option.map_eq_some_iff.mp later.symm
    obtain ⟨rfl, _⟩ := Prod.mk.inj same
    simp

/-- What stands before a list of columns follows a name as well. -/
theorem Follows.firstOpen? (follows : Follows tail) {before list : Text}
    (found : Parenthesis.firstOpen? tail = some (before, list))
    : Follows before := by
  obtain ⟨spaces, rest, rfl, blank, next⟩ := follows
  have unquoted : Unquoted spaces := unquoted_of_isLead (Blank.leads blank)
  have noOpen : '(' ∉ spaces := fun member => Bool.noConfusion (blank _ member)
  rw [firstOpen?_append (Segment.isCode_unquoted unquoted) (skipped_unquoted unquoted noOpen)]
    at found
  obtain ⟨⟨head, after⟩, inRest, same⟩ := Option.map_eq_some_iff.mp found
  obtain ⟨rfl, rfl⟩ := Prod.mk.inj same
  refine ⟨spaces, head, rfl, blank, fun char first => ?_⟩
  cases rest with
  | nil => cases inRest
  | cons other more =>
      rw [firstOpen?_cons (isLead_of_next (next other rfl)) inRest char first]
      exact next other rfl

/-- A list of columns may follow a name after white space. -/
theorem follows_open {spaces : Text} (blank : Text.Blank spaces) (rest : Text)
    : Follows (spaces ++ '(' :: rest) := by
  refine ⟨spaces, '(' :: rest, rfl, blank, fun char head => Or.inl ?_⟩
  rw [← Option.some.inj head]
  rfl

/-- Adapting a definition keeps what stands before its columns. -/
theorem BeginsWith.adaptDefinition {heading : Heading} {name : Name} {statement sql : Text}
    (begins : BeginsWith (heading.opening name) statement)
    (adapted : (ByPattern.adaptDefinition statement).result = .ok sql)
    : BeginsWith (heading.opening name) sql := by
  obtain ⟨tail, rfl, follows⟩ := begins
  rw [ByPattern.adaptDefinition,
    firstOpen?_append (heading.isCode_opening name) (heading.skipped_opening name)] at adapted
  cases found : Parenthesis.firstOpen? tail with
  | none => simp [found] at adapted
  | some pair =>
      obtain ⟨before, list⟩ := pair
      rw [found, Option.map_some] at adapted
      dsimp only at adapted
      split at adapted
      · cases adapted
      · have same := Except.ok.inj adapted
        have between := (follows.firstOpen? found).of_shorter (Text.trimEnd_prefix before)
        have columns : Text.ofString " (\n  " = [' '] ++ ['(', '\n', ' ', ' '] := by
          rw [Text.ofString_eq]
          rfl
        rw [(heading.tight_opening name).trimEnd_eq, columns] at same
        simp only [List.append_assoc, List.cons_append] at same
        exact ⟨_, same.symm, between.append (follows_open blank_space _)⟩

/-- Completing a definition keeps what stands before its columns. -/
theorem BeginsWith.completeDefinition {heading : Heading} {name : Name} {statement : Text}
    (begins : BeginsWith (heading.opening name) statement)
    : BeginsWith (heading.opening name) (Completion.adaptDefinition statement) := by
  obtain ⟨tail, rfl, follows⟩ := begins
  rw [Completion.adaptDefinition,
    firstOpen?_append (heading.isCode_opening name) (heading.skipped_opening name)]
  cases found : Parenthesis.firstOpen? tail with
  | none => exact ⟨tail, rfl, follows⟩
  | some pair =>
      obtain ⟨before, list⟩ := pair
      rw [Option.map_some]
      dsimp only
      split
      · exact ⟨tail, rfl, follows⟩
      · have columns : Text.ofString "(" = ['('] := by
          rw [Text.ofString_eq]
          rfl
        rw [columns]
        simp only [List.append_assoc, List.cons_append, List.nil_append]
        exact ⟨_, rfl, (follows.firstOpen? found).append (follows_open Text.blank_nil _)⟩

end DumpTransfer.Conversion.Heading
