import DumpTransfer.Identifier
import DumpTransfer.Proofs.Sql.Runs
import DumpTransfer.Proofs.Text.LetterCase
import DumpTransfer.Sql.ObjectName

/-! Names of objects as they are written, and that they are read so. A name consists of parts with
dots and white space between them, and is read up to what cannot be a part of it.
-/

namespace DumpTransfer.Sql.ObjectName

-----------------------------------------------------------------------------------------
-- Single parts
-----------------------------------------------------------------------------------------

/-- A name between double quotes is read up to the quote that stands alone. -/
theorem readQuoted_doubling (name : Text) {rest : Text} (stop : rest.head? ≠ some '"')
    : readQuoted (Text.doubling '"' name ++ '"' :: rest) = some (name, rest) := by
  induction name with
  | nil =>
      cases rest with
      | nil => rfl
      | cons char more =>
          have other : char ≠ '"' := fun same => stop (congrArg some same)
          simp [Text.doubling, readQuoted, other]
  | cons char more ih =>
      by_cases same : char = '"'
      · subst same
        simp [Text.doubling, readQuoted, ih]
      · simp [Text.doubling, readQuoted, same, ih]

/-- A word is read up to what is no part of it. -/
theorem readPart_word {word rest : Text}
    (starts : word.head?.any isWordStart = true)
    (stop : ∀ char ∈ rest.head?, isWordPart char = false)
    : readPart (word ++ rest)
      = some (word.takeWhile isWordPart,
        word.dropWhile isWordPart ++ rest) := by
  obtain ⟨taken, dropped⟩ := Text.span_append word stop
  cases word with
  | nil => cases starts
  | cons first more =>
      have notQuote : first ≠ '"' := by
        rintro rfl
        cases starts
      have start : isWordStart first = true := starts
      rw [List.cons_append] at taken dropped ⊢
      rw [readPart, if_pos start, taken, dropped]
      simpa using notQuote

/-- No part of a name is read where neither a quote nor a word begins. -/
theorem readPart_other {text : Text} (noQuote : text.head? ≠ some '"')
    (noWord : text.head?.any isWordStart = false)
    : readPart text = none := by
  cases text with
  | nil => rfl
  | cons first rest =>
      have notQuote : first ≠ '"' := fun same => noQuote (congrArg some same)
      have noStart : isWordStart first = false := noWord
      rw [readPart, noStart]
      · rfl
      · simpa using notQuote

theorem afterDot?_eq_none_iff {text : Text}
    : afterDot? text = none ↔ (text.dropWhile Alphabet.isAsciiBlank).head? ≠ some '.' := by
  rw [afterDot?]
  split
  next rest isDot => simp [isDot]
  next noDot =>
    refine iff_of_true rfl fun isDot => ?_
    obtain ⟨rest, same⟩ := List.head?_eq_some_iff.mp isDot
    exact noDot rest same

/-- No further part of a name comes where a character stands that is neither white space nor a dot.
-/
theorem afterDot?_of_head {text : Text}
    (head : ∀ char ∈ text.head?, Alphabet.isAsciiBlank char = false ∧ char ≠ '.')
    : afterDot? text = none := by
  cases text with
  | nil => rfl
  | cons char rest =>
      obtain ⟨notBlank, notDot⟩ := head char rfl
      rw [afterDot?, List.dropWhile_cons_of_neg (by simp [notBlank])]
      split
      · rename_i after same
        exact absurd (List.cons.inj same).1 notDot
      · rfl

/-- The same past white space. -/
theorem afterDot?_of_blank {spaces rest : Text}
    (blank : ∀ char ∈ spaces, Alphabet.isBlank char = true)
    (head : ∀ char ∈ rest.head?, Alphabet.isAsciiBlank char = false ∧ char ≠ '.')
    : afterDot? (spaces ++ rest) = none := by
  induction spaces with
  | nil => exact afterDot?_of_head head
  | cons space more ih =>
      have later := ih fun char member => blank char (by simp [member])
      by_cases ascii : Alphabet.isAsciiBlank space = true
      · rwa [List.cons_append, afterDot?, List.dropWhile_cons_of_pos ascii]
      · refine afterDot?_of_head fun char same => ?_
        obtain rfl := Option.some.inj same
        refine ⟨by simpa using ascii, ?_⟩
        simpa using Alphabet.holds_of_isBlank (· ≠ '.') (by decide) (blank space (by simp))

theorem read?_of_part {text part rest : Text}
    (read : readPart text = some (part, rest))
    (noDot : afterDot? rest = none)
    : read? text = some ([part], rest) := by
  simp only [read?, readParts, read, noDot, Option.bind_eq_bind,
    Option.bind_some]
  rfl

/-- A name that needs no quotes has the characters of such names alone. -/
theorem isPlainPart_of_mem {name : Text} (plain : Identifier.isPlain name = true)
    : ∀ char ∈ name, Identifier.isPlainPart char = true := by
  cases name with
  | nil => nofun
  | cons first others =>
      rw [Identifier.isPlain, Bool.and_eq_true, List.all_eq_true] at plain
      intro char member
      rcases List.mem_cons.mp member with rfl | member
      · have start := plain.1
        simp only [Identifier.isPlainStart, Bool.or_eq_true, decide_eq_true_eq] at start
        rcases start with lower | low
        · simp [Identifier.isPlainPart, lower]
        · simp [Identifier.isPlainPart, low]
      · exact plain.2 char member

/-- Characters of names that need no quotes are read as those of words. -/
theorem isWordPart_of_isPlainPart {char : Char} (plain : Identifier.isPlainPart char = true)
    : isWordPart char = true
      ∧ (Identifier.isPlainStart char = true → isWordStart char = true) := by
  have codes : ∀ code ∈ List.range 128, Identifier.isPlainPart (Char.ofNat code) = true →
      isWordPart (Char.ofNat code) = true
        ∧ (Identifier.isPlainStart (Char.ofNat code) = true →
          isWordStart (Char.ofNat code) = true) := by
    decide +kernel
  have ascii : char.toNat < 128 := by
    simp only [Identifier.isPlainPart, Bool.or_eq_true, decide_eq_true_eq] at plain
    rcases plain with ((lower | digit) | rfl) | rfl
    · rw [Alphabet.isLower_iff] at lower
      omega
    · simp only [Char.isDigit, Bool.and_eq_true, decide_eq_true_eq, UInt32.le_iff_toNat_le]
        at digit
      have last : char.toNat ≤ 57 := digit.2
      omega
    · decide
    · decide
  have found := codes char.toNat (List.mem_range.mpr ascii)
  rw [Char.ofNat_toNat] at found
  exact found plain

-----------------------------------------------------------------------------------------
-- Written names
-----------------------------------------------------------------------------------------

/-- A part of a name, between double quotes or without them. -/
inductive Part where
  | quoted (value : Text)
  | bare (first : Char) (more : Text) (starts : isWordStart first = true)
      (parts : ∀ char ∈ more, isWordPart char = true)

namespace Part

/-- What the part says. -/
def value : Part → Text
  | quoted value => value
  | bare first more _ _ => first :: more

def written : Part → Text
  | quoted value => Identifier.quote value
  | bare first more _ _ => first :: more

@[simp] theorem written_quoted (value : Text) : (quoted value).written = Identifier.quote value :=
  rfl

end Part

/-- A name that needs no quotes is a part without them. -/
theorem exists_part_of_isPlain {name : Text} (plain : Identifier.isPlain name = true)
    : ∃ part : Part, part.written = name ∧ part.value = name := by
  cases name with
  | nil => cases plain
  | cons first more =>
      have parts := isPlainPart_of_mem plain
      rw [Identifier.isPlain, Bool.and_eq_true] at plain
      exact ⟨.bare first more ((isWordPart_of_isPlainPart (parts first (by simp))).2 plain.1)
        fun char member => (isWordPart_of_isPlainPart (parts char (by simp [member]))).1, rfl,
        rfl⟩

/-- A dot with the white space around it. -/
structure Dot where
  before : Text
  after : Text
  blankBefore : ∀ char ∈ before, Alphabet.isAsciiBlank char = true
  blankAfter : ∀ char ∈ after, Alphabet.isAsciiBlank char = true

def Dot.text (dot : Dot) : Text :=
  dot.before ++ '.' :: dot.after

/-- A dot without white space. -/
def Dot.tight : Dot :=
  ⟨[], [], by simp, by simp⟩

/-- Parts with dots between them. -/
inductive Dotted where
  | last (part : Part)
  | more (part : Part) (dot : Dot) (rest : Dotted)

namespace Dotted

def written : Dotted → Text
  | last part => part.written
  | more part dot rest => part.written ++ (dot.text ++ rest.written)

def values : Dotted → List Text
  | last part => [part.value]
  | more part _ rest => part.value :: rest.values

/-- What the last part says. -/
def object : Dotted → Text
  | last part => part.value
  | more _ _ rest => rest.object

@[simp] theorem getLastD_values (name : Dotted) : name.values.getLastD [] = name.object := by
  induction name with
  | last part => rfl
  | more part dot rest ih =>
      rw [object, ← ih, values]
      cases rest <;> rfl

end Dotted

/-- A name ends where neither a quote nor a part of a word comes next, nor a dot past white space.
-/
structure EndsName (rest : Text) : Prop where
  noQuote : rest.head? ≠ some '"'
  noPart : ∀ char ∈ rest.head?, isWordPart char = false
  noDot : (rest.dropWhile Alphabet.isAsciiBlank).head? ≠ some '.'

theorem EndsName.nil : EndsName [] :=
  ⟨by simp, by simp, by simp⟩

-----------------------------------------------------------------------------------------
-- Reading
-----------------------------------------------------------------------------------------

theorem isWordPart_of_isWordStart {char : Char} (starts : isWordStart char = true)
    : isWordPart char = true := by
  simp only [isWordStart, isWordPart, Bool.or_eq_true] at starts ⊢
  exact .inl starts

theorem isBlank_of_isAsciiBlank {char : Char} (blank : Alphabet.isAsciiBlank char = true)
    : Alphabet.isBlank char = true := by
  simp only [Alphabet.isAsciiBlank, Bool.or_eq_true, decide_eq_true_eq] at blank
  rcases blank with (((rfl | rfl) | rfl) | rfl) | rfl <;> rfl

/-- White space is no part of a word and no quote. -/
theorem apart_of_isBlank {char : Char} (blank : Alphabet.isBlank char = true)
    : isWordPart char = false ∧ char ≠ '"' := by
  simpa using Alphabet.holds_of_isBlank (fun char => !isWordPart char && char ≠ '"')
    (by decide +kernel) blank

/-- No word goes on and no quote stands where white space or another sign comes next. -/
theorem head_apart {spaces : Text} (blank : ∀ char ∈ spaces, Alphabet.isBlank char = true)
    {sign : Char} (apart : isWordPart sign = false ∧ sign ≠ '"') (rest : Text)
    : ∀ char ∈ (spaces ++ sign :: rest).head?, isWordPart char = false ∧ char ≠ '"' := by
  intro char head
  cases spaces with
  | nil =>
      obtain rfl : sign = char := Option.some.inj head
      exact apart
  | cons space more =>
      obtain rfl : space = char := Option.some.inj head
      exact apart_of_isBlank (blank space (by simp))

theorem Part.readPart_written (part : Part) {rest : Text} (noQuote : rest.head? ≠ some '"')
    (noPart : ∀ char ∈ rest.head?, isWordPart char = false)
    : readPart (part.written ++ rest) = some (part.value, rest) := by
  cases part with
  | quoted value =>
      simpa [written, Part.value, Identifier.quote, readPart] using
        readQuoted_doubling value noQuote
  | bare first more starts parts =>
      have all : ∀ char ∈ first :: more, isWordPart char = true := by
        simpa using ⟨isWordPart_of_isWordStart starts, parts⟩
      rw [written, readPart_word (by simpa using starts) noPart,
        List.takeWhile_eq_self_iff.mpr all, List.dropWhile_eq_nil_iff.mpr all]
      rfl

/-- No two names are quoted alike. -/
theorem quote_injective
    : Function.Injective Identifier.quote := by
  intro left right same
  have read (name : Text) : readPart ((Part.quoted name).written ++ []) = some (name, []) :=
    Part.readPart_written _ (by simp) (by simp)
  have both := read left
  rw [Part.written_quoted, same, ← Part.written_quoted, read right] at both
  exact (Prod.mk.inj (Option.some.inj both)).1.symm

/-- A part begins with no white space. -/
theorem Part.stops (part : Part) (rest : Text)
    : ∀ char ∈ (part.written ++ rest).head?, Alphabet.isBlank char = false := by
  intro char head
  cases part with
  | quoted value =>
      obtain rfl := Option.some.inj head
      decide
  | bare first more starts parts =>
      obtain rfl := Option.some.inj head
      refine Bool.eq_false_iff.mpr fun blank => ?_
      exact absurd (isWordPart_of_isWordStart starts) (by simp [(apart_of_isBlank blank).1])

theorem Dotted.stops (name : Dotted) (rest : Text)
    : ∀ char ∈ (name.written ++ rest).head?, Alphabet.isBlank char = false := by
  cases name with
  | last part => exact part.stops rest
  | more part dot others =>
      rw [written, List.append_assoc]
      exact part.stops _

/-- A dot and the white space around it are passed. -/
theorem Dot.afterDot?_text (dot : Dot) {rest : Text}
    (stops : ∀ char ∈ rest.head?, Alphabet.isBlank char = false)
    : afterDot? (dot.text ++ rest) = some rest := by
  have parts : dot.text ++ rest = dot.before ++ '.' :: (dot.after ++ rest) := by simp [text]
  have stopsToo : ∀ char ∈ rest.head?, Alphabet.isAsciiBlank char = false :=
    fun char head => Bool.eq_false_iff.mpr fun blank =>
      absurd (isBlank_of_isAsciiBlank blank) (by simp [stops char head])
  have toDot : (dot.text ++ rest).dropWhile Alphabet.isAsciiBlank = '.' :: (dot.after ++ rest) := by
    rw [parts]
    exact (Text.span_run dot.blankBefore (by simp [Alphabet.isAsciiBlank])).2
  rw [afterDot?, toDot]
  exact congrArg some (Text.span_run dot.blankAfter stopsToo).2

/-- A part ends where a dot comes next. -/
theorem Dot.head_apart (dot : Dot) (rest : Text)
    : ∀ char ∈ (dot.text ++ rest).head?, isWordPart char = false ∧ char ≠ '"' := by
  have parts : dot.text ++ rest = dot.before ++ '.' :: (dot.after ++ rest) := by simp [text]
  rw [parts]
  exact ObjectName.head_apart
    (fun char member => isBlank_of_isAsciiBlank (dot.blankBefore char member)) (by decide) _

theorem Dot.readPart_text (dot : Dot) (part : Part) (rest : Text)
    : readPart (part.written ++ (dot.text ++ rest)) = some (part.value, dot.text ++ rest) :=
  part.readPart_written (fun quote => (dot.head_apart rest '"' quote).2 rfl)
    fun char head => (dot.head_apart rest char head).1

/-- By induction over the parts. -/
theorem Dotted.readParts_written (name : Dotted) {rest : Text} (ends : EndsName rest)
    {bound : Nat} (enough : name.values.length ≤ bound)
    : readParts bound (name.written ++ rest) = some (name.values, rest) := by
  induction name generalizing bound with
  | last part =>
      cases bound with
      | zero => cases enough
      | succ bound =>
          rw [readParts, written, part.readPart_written ends.noQuote ends.noPart,
            Option.bind_eq_bind, Option.bind_some]
          dsimp only
          rw [afterDot?_eq_none_iff.mpr ends.noDot]
          rfl
  | more part dot others ih =>
      cases bound with
      | zero => cases enough
      | succ bound =>
          rw [readParts, written, List.append_assoc, List.append_assoc, dot.readPart_text part,
            Option.bind_eq_bind, Option.bind_some]
          dsimp only
          rw [dot.afterDot?_text (others.stops rest)]
          dsimp only
          rw [ih (Nat.le_of_succ_le_succ enough)]
          rfl

theorem Dotted.length_values_le (name : Dotted) : name.values.length ≤ name.written.length := by
  have isThere (part : Part) : 0 < part.written.length := by
    cases part <;> simp [Part.written, Identifier.quote]
  induction name with
  | last part => exact isThere part
  | more part dot rest ih =>
      have first := isThere part
      simp only [values, written, List.length_cons, List.length_append]
      omega

/-- A name is read as it is written. -/
theorem Dotted.read?_written (name : Dotted) {rest : Text} (ends : EndsName rest)
    : read? (name.written ++ rest) = some (name.values, rest) := by
  refine name.readParts_written ends ?_
  have shorter := name.length_values_le
  rw [List.length_append]
  omega

end DumpTransfer.Sql.ObjectName
