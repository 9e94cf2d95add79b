import DumpTransfer.Proofs.Sql.Offsets

/-! The runs of a statement by their offsets are its runs of characters one after the other. The
search for them goes through the bytes, where it jumps over quotes written twice and over what
follows a backslash, and still begins and ends every run between characters.
-/

namespace DumpTransfer.Sql.Offset

open Utf8

variable {style : LiteralStyle} {place : Place} {bytes rest : List UInt8} {text : Text}
  {char : Char}

-----------------------------------------------------------------------------------------
-- Runs one after the other
-----------------------------------------------------------------------------------------

/-- The spans of runs of which the first has the given start. -/
def spansOf : Nat → List Segment → List Span
  | _, [] => []
  | start, run :: later =>
      ⟨run.isLiteral, start, start + Text.byteLength run.text⟩
        :: spansOf (start + Text.byteLength run.text) later

theorem byteLength_pos {text : Text} (filled : text ≠ [])
    : 0 < Text.byteLength text := by
  cases text with
  | nil => exact absurd rfl filled
  | cons char rest => exact Nat.lt_of_lt_of_le char.utf8Size_pos (Nat.le_add_right _ _)

/-- Code before a literal, or before nothing, is a run of its own unless it is empty. -/
theorem spansOf_code {runs : List Segment} (apart : ∀ run ∈ runs.head?, run.isLiteral ≠ false)
    (start : Nat) (code : Text)
    : spansOf start (code.foldr (Segment.extend false) runs)
      = codeSpan start (start + Text.byteLength code)
        ++ spansOf (start + Text.byteLength code) runs := by
  by_cases empty : code = []
  · subst empty
    simp [codeSpan]
  · have filled := byteLength_pos empty
    rw [Segment.foldr_extend empty apart, codeSpan, if_pos (by omega)]
    simp [spansOf]

/-- A literal before code, or before nothing, is a run of its own. -/
theorem spansOf_literal {runs : List Segment} (apart : ∀ run ∈ runs.head?, run.isLiteral ≠ true)
    (start : Nat) {literal : Text} (filled : literal ≠ [])
    : spansOf start (literal.foldr (Segment.extend true) runs)
      = ⟨true, start, start + Text.byteLength literal⟩
        :: spansOf (start + Text.byteLength literal) runs := by
  rw [Segment.foldr_extend filled apart]
  simp [spansOf]

theorem isBetween_of_mem_spansOf (before : Text) {runs : List Segment} {span : Span}
    (member : span ∈ spansOf (Text.byteLength before) runs)
    : IsBetween (before ++ runs.flatMap Segment.text) span.start
      ∧ IsBetween (before ++ runs.flatMap Segment.text) span.finish := by
  induction runs generalizing before with
  | nil => cases member
  | cons run later ih =>
      rw [spansOf, ← Text.byteLength_append] at member
      rw [List.flatMap_cons]
      rcases List.mem_cons.mp member with rfl | member
      · exact ⟨⟨before, _, rfl, rfl⟩, before ++ run.text, _, (List.append_assoc _ _ _).symm, rfl⟩
      · rw [← List.append_assoc]
        exact ih _ member

-----------------------------------------------------------------------------------------
-- Bytes that are passed over
-----------------------------------------------------------------------------------------

/-- Whether the search for runs passes over a byte. -/
def Passes (style : LiteralStyle) (place : Place) (byte : UInt8) : Prop :=
  match place with
  | .code => byte ≠ '\''.toUInt8 ∧ byte ≠ '`'.toUInt8 ∧ byte ≠ '"'.toUInt8
  | .literal => byte ≠ '\''.toUInt8 ∧ (style = .backslash → byte ≠ '\\'.toUInt8)
  | .name close => byte ≠ close

theorem spansFrom_passed (passed : ∀ byte ∈ bytes, Passes style place byte) (start offset : Nat)
    : spansFrom style place start offset (bytes ++ rest)
      = spansFrom style place start (offset + bytes.length) rest := by
  induction bytes generalizing offset with
  | nil => rfl
  | cons byte more ih =>
      obtain ⟨first, later⟩ := List.forall_mem_cons.mp passed
      have length : offset + (byte :: more).length = offset + 1 + more.length := by
        rw [List.length_cons]
        omega
      rw [length, ← ih later, List.cons_append, spansFrom.eq_def]
      cases place with
      | code =>
          obtain ⟨single, back, double⟩ := first
          simp [single, back, double]
      | literal =>
          obtain ⟨single, escape⟩ := first
          have noEscape : ¬ (byte = '\\'.toUInt8 && style = .backslash) = true := by
            simpa [imp_not_comm] using escape
          simp only [if_neg noEscape, if_neg single]
      | name close => exact if_pos first

/-- No byte of a character is that of another one in ASCII. -/
theorem differs_of_mem {sign : Char} (ascii : sign.toNat < 128) (differs : char ≠ sign)
    {byte : UInt8} (member : byte ∈ String.utf8EncodeChar char)
    : byte ≠ sign.toUInt8 := by
  rintro rfl
  exact differs ((mem_utf8EncodeChar_iff ascii).mp member)

theorem exists_first (char : Char)
    : ∃ first others, String.utf8EncodeChar char = first :: others := by
  apply List.exists_cons_of_ne_nil
  rw [← List.length_pos_iff, String.length_utf8EncodeChar]
  exact char.utf8Size_pos

/-- The quote of a name is closed by the next one, which may open another name right away. -/
theorem spansFrom_name {close : Char} (quotes : close = '`' ∨ close = '"') (start offset : Nat)
    (rest : List UInt8)
    : spansFrom style (.name close.toUInt8) start offset (close.toUInt8 :: rest)
      = spansFrom style .code start (offset + 1) rest := by
  have opens : close.toUInt8 ≠ '\''.toUInt8
      ∧ (close.toUInt8 = '`'.toUInt8 || close.toUInt8 = '"'.toUInt8) = true := by
    rcases quotes with rfl | rfl <;> decide
  cases rest with
  | nil => simp [spansFrom]
  | cons next later =>
      by_cases twice : next = close.toUInt8
      · subst twice
        rw [spansFrom.eq_def, spansFrom.eq_def style .code]
        simp only [if_neg opens.1, if_pos opens.2]
        simp
      · rw [spansFrom.eq_def]
        simp [twice]

-----------------------------------------------------------------------------------------
-- Runs of a text
-----------------------------------------------------------------------------------------

theorem offset_concat (start : Nat) (done : Text) (char : Char)
    : start + Text.byteLength (done ++ [char]) = start + Text.byteLength done + char.utf8Size := by
  simp
  omega

/-- A character that changes nothing joins the run that has been begun. -/
theorem spansFrom_joined {quoting : Quoting} {kind : Bool} {start : Nat} {done : Text}
    (stays : quoting.step style char = quoting) (mark : quoting.inLiteral = kind)
    (passes : ∀ byte ∈ String.utf8EncodeChar char, Passes style place byte)
    (later
      : spansFrom style place start (start + Text.byteLength (done ++ [char])) (encode text)
        = spansOf start
            ((done ++ [char]).foldr (Segment.extend kind) (Segment.ofTextFrom style quoting text)))
    : spansFrom style place start (start + Text.byteLength done) (encode (char :: text))
      = spansOf start
          (done.foldr (Segment.extend kind) (Segment.ofTextFrom style quoting (char :: text))) := by
  rw [encode_cons, spansFrom_passed passes, String.length_utf8EncodeChar, ← offset_concat, later,
    List.foldr_append, Segment.ofTextFrom, stays, mark, Bool.or_self]
  rfl

/-- What the search finds in the bytes of a text is what the text has of runs, from each kind of
place on and with any beginning of a run before it. After a backslash or a quote in a literal it is
up to the text how the literal goes on.
-/
structure Finds (style : LiteralStyle) (text : Text) : Prop where
  code
    : ∀ start done,
        spansFrom style .code start (start + Text.byteLength done) (encode text)
          = spansOf start
              (done.foldr (Segment.extend false) (Segment.ofTextFrom style .code text))
  name
    : ∀ close, (close = '`' ∨ close = '"') → ∀ start done,
        spansFrom style (.name close.toUInt8) start (start + Text.byteLength done) (encode text)
          = spansOf start
              (done.foldr (Segment.extend false) (Segment.ofTextFrom style (.name close) text))
  literal
    : ∀ start done, done ≠ [] →
        spansFrom style .literal start (start + Text.byteLength done) (encode text)
          = spansOf start
              (done.foldr (Segment.extend true) (Segment.ofTextFrom style .literal text))
  escaped
    : style = .backslash → ∀ start done,
        spansFrom style .literal start (start + Text.byteLength done)
            ('\\'.toUInt8 :: encode text)
          = spansOf start
              ((done ++ ['\\']).foldr (Segment.extend true)
                (Segment.ofTextFrom style .escaped text))
  quoted
    : ∀ start done,
        spansFrom style .literal start (start + Text.byteLength done)
            ('\''.toUInt8 :: encode text)
          = spansOf start
              ((done ++ ['\'']).foldr (Segment.extend true)
                (Segment.ofTextFrom style .code text))

theorem finds_nil (style : LiteralStyle) : Finds style [] where
  code start done := by
    rw [Segment.ofTextFrom, spansOf_code (by simp), encode_nil, spansFrom]
    simp [spansOf]
  name close quotes start done := by
    rw [Segment.ofTextFrom, spansOf_code (by simp), encode_nil, spansFrom]
    simp [spansOf]
  literal start done filled := by
    rw [Segment.ofTextFrom, spansOf_literal (by simp) _ filled, encode_nil, spansFrom]
    simp [spansOf]
  escaped isBackslash start done := by
    rw [Segment.ofTextFrom, spansOf_literal (by simp) _ (by simp), encode_nil, offset_concat,
      spansFrom.eq_def]
    simp [isBackslash, spansOf]
    rfl
  quoted start done := by
    rw [Segment.ofTextFrom, spansOf_literal (by simp) _ (by simp), encode_nil, offset_concat,
      spansFrom.eq_def]
    simp [spansOf]
    rfl

theorem isLiteral_of_extend {kind : Bool} {runs : List Segment} {run : Segment}
    (first : run ∈ (Segment.extend kind char runs).head?)
    : run.isLiteral = kind := by
  rcases runs with _ | ⟨text | text, more⟩ <;> cases kind <;> cases first <;> rfl

/-- A text in code begins with a literal or with code, as its first character says. -/
theorem isLiteral_of_code {run : Segment}
    (first : run ∈ (Segment.ofTextFrom style .code (char :: text)).head?)
    : run.isLiteral = (Quoting.code.step style char).inLiteral := by
  rw [Segment.ofTextFrom] at first
  exact isLiteral_of_extend first

section

variable (ih : Finds style text)

include ih

theorem Finds.code_cons (char : Char) (start : Nat) (done : Text)
    : spansFrom style .code start (start + Text.byteLength done) (encode (char :: text))
      = spansOf start
          (done.foldr (Segment.extend false)
            (Segment.ofTextFrom style .code (char :: text))) := by
  by_cases single : char = '\''
  · subst single
    have found := ih.literal (start + Text.byteLength done) ['\''] (by simp)
    rw [spansOf_code fun run first => by simp [isLiteral_of_code first, Quoting.step]; rfl,
      encode_cons_ascii (by decide), spansFrom.eq_def]
    exact congrArg _ found
  by_cases quotes : char = '`' ∨ char = '"'
  · have opens : Quoting.code.step style char = .name char := by
      simp [Quoting.step, single, quotes]
    have ascii : char.toNat < 128 := by
      rcases quotes with rfl | rfl <;> decide
    have found := ih.name char quotes start (done ++ [char])
    rw [offset_concat, utf8Size_ascii ascii, List.foldr_append] at found
    rw [encode_cons_ascii ascii, spansFrom.eq_def, Segment.ofTextFrom, opens]
    refine Eq.trans ?_ found
    rcases quotes with rfl | rfl <;> rfl
  · obtain ⟨back, double⟩ := not_or.mp quotes
    refine spansFrom_joined (by simp [Quoting.step, single, back, double]) rfl
      (fun byte member => ⟨?_, ?_, ?_⟩) (ih.code start _)
    · exact differs_of_mem (by decide) single member
    · exact differs_of_mem (by decide) back member
    · exact differs_of_mem (by decide) double member

theorem Finds.name_cons (char : Char) {close : Char} (quotes : close = '`' ∨ close = '"')
    (start : Nat) (done : Text)
    : spansFrom style (.name close.toUInt8) start (start + Text.byteLength done)
          (encode (char :: text))
      = spansOf start
          (done.foldr (Segment.extend false)
            (Segment.ofTextFrom style (.name close) (char :: text))) := by
  have ascii : close.toNat < 128 := by
    rcases quotes with rfl | rfl <;> decide
  by_cases same : char = close
  · subst same
    have found := ih.code start (done ++ [char])
    have closes : (Quoting.name char).step style char = .code := if_pos rfl
    rw [offset_concat, utf8Size_ascii ascii, List.foldr_append] at found
    rw [encode_cons_ascii ascii, spansFrom_name quotes, found, Segment.ofTextFrom, closes]
    rfl
  · exact spansFrom_joined (if_neg same) rfl
      (fun byte member => differs_of_mem ascii same member) (ih.name close quotes start _)

theorem Finds.literal_cons (char : Char) (start : Nat) {done : Text}
    : spansFrom style .literal start (start + Text.byteLength done) (encode (char :: text))
      = spansOf start
          (done.foldr (Segment.extend true)
            (Segment.ofTextFrom style .literal (char :: text))) := by
  by_cases escapes : char = '\\' ∧ style = .backslash
  · obtain ⟨rfl, isBackslash⟩ := escapes
    have found := ih.escaped isBackslash start done
    have next : Quoting.literal.step style '\\' = .escaped := by
      simp [Quoting.step, isBackslash]
    rw [List.foldr_append] at found
    rw [encode_cons_ascii (by decide), found, Segment.ofTextFrom, next]
    rfl
  by_cases single : char = '\''
  · subst single
    have found := ih.quoted start done
    rw [List.foldr_append] at found
    rw [encode_cons_ascii (by decide), found]
    rfl
  · have noEscape : ¬ (char = '\\' && style = .backslash) = true := by simpa using escapes
    refine spansFrom_joined ?_ rfl (fun byte member => ⟨?_, fun isBackslash => ?_⟩)
      (ih.literal start _ (by simp))
    · rw [Quoting.step, if_neg noEscape, if_neg single]
    · exact differs_of_mem (by decide) single member
    · exact differs_of_mem (by decide) (fun same => escapes ⟨same, isBackslash⟩) member

/-- The character after a backslash is passed over, however many bytes it has: the search jumps over
the first, and the others are none that mean something.
-/
theorem Finds.escaped_cons (char : Char) (isBackslash : style = .backslash) (start : Nat)
    (done : Text)
    : spansFrom style .literal start (start + Text.byteLength done)
          ('\\'.toUInt8 :: encode (char :: text))
      = spansOf start
          ((done ++ ['\\']).foldr (Segment.extend true)
            (Segment.ofTextFrom style .escaped (char :: text))) := by
  have found := ih.literal start (done ++ ['\\'] ++ [char]) (by simp)
  obtain ⟨first, others, form⟩ := exists_first char
  have size := String.length_utf8EncodeChar char
  rw [form, List.length_cons] at size
  have passed : ∀ byte ∈ others, Passes style .literal byte := by
    intro byte member
    by_cases ascii : char.toNat < 128
    · rw [utf8Size_ascii ascii] at size
      obtain rfl : others = [] := List.length_eq_zero_iff.mp (by omega)
      cases member
    · have inForm : byte ∈ String.utf8EncodeChar char := form ▸ List.mem_cons_of_mem _ member
      have large := le_of_mem_utf8EncodeChar (by omega) inForm
      refine ⟨?_, fun _ => ?_⟩ <;> rintro rfl <;> revert large <;> decide
  have jumps : spansFrom style .literal start (start + Text.byteLength done)
        ('\\'.toUInt8 :: encode (char :: text))
      = spansFrom style .literal start (start + Text.byteLength done + 2)
          (others ++ encode text) := by
    rw [encode_cons, form, List.cons_append, spansFrom.eq_def]
    simp [isBackslash]
  have backslash : '\\'.utf8Size = 1 := by decide
  have offset : start + Text.byteLength done + 2 + others.length
      = start + Text.byteLength (done ++ ['\\'] ++ [char]) := by
    rw [offset_concat, offset_concat]
    omega
  rw [jumps, spansFrom_passed passed, offset, found, List.foldr_append, Segment.ofTextFrom]
  rfl

/-- Two quotes in a literal are passed over together, and one quote ends the literal. -/
theorem Finds.quoted_cons (char : Char) (start : Nat) (done : Text)
    : spansFrom style .literal start (start + Text.byteLength done)
          ('\''.toUInt8 :: encode (char :: text))
      = spansOf start
          ((done ++ ['\'']).foldr (Segment.extend true)
            (Segment.ofTextFrom style .code (char :: text))) := by
  have quote : '\''.utf8Size = 1 := by decide
  by_cases single : char = '\''
  · subst single
    have found := ih.literal start (done ++ ['\''] ++ ['\'']) (by simp)
    rw [offset_concat, offset_concat, quote, List.foldr_append] at found
    rw [encode_cons_ascii (by decide), spansFrom.eq_def]
    exact found
  · have apart : ∀ run ∈ (Segment.ofTextFrom style .code (char :: text)).head?,
        run.isLiteral ≠ true := by
      intro run first
      rw [isLiteral_of_code first, Quoting.step, if_neg single]
      split <;> simp [Quoting.inLiteral]
    have found := Finds.code_cons ih char (start + Text.byteLength done + 1) []
    rw [spansOf_literal apart _ (by simp), offset_concat, quote]
    obtain ⟨first, others, form⟩ := exists_first char
    have differs : first ≠ '\''.toUInt8 := differs_of_mem (by decide) single (by simp [form])
    have noEscape : ¬ ('\''.toUInt8 = '\\'.toUInt8 && style = .backslash) = true := by
      rw [Bool.and_eq_true, decide_eq_true_eq]
      exact fun same => absurd same.1 (by decide)
    rw [encode_cons, form, List.cons_append] at found ⊢
    rw [spansFrom.eq_def]
    simp only [if_neg noEscape, if_neg differs, if_true]
    exact congrArg _ found

end

/-- By induction over the text. -/
theorem finds (style : LiteralStyle) (text : Text)
    : Finds style text := by
  induction text with
  | nil => exact finds_nil style
  | cons char text ih =>
      exact {
        code := ih.code_cons char
        name := fun close quotes => ih.name_cons char quotes
        literal := fun start done filled => ih.literal_cons char start
        escaped := ih.escaped_cons char
        quoted := ih.quoted_cons char
      }

/-- The runs of a statement by their offsets are its runs one after the other. -/
theorem spans_eq (style : LiteralStyle) (statement : Text)
    : spans style statement = spansOf 0 (Segment.ofText style statement) :=
  (finds style statement).code 0 []

end DumpTransfer.Sql.Offset
