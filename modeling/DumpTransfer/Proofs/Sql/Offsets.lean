import DumpTransfer.Proofs.Sql.Nesting
import DumpTransfer.Proofs.Text.Encoding
import DumpTransfer.Sql.Offset

/-! Lists are cut where they end and where their items end. The searches go through the bytes of a
statement, where quotes, parentheses and commas are single bytes, so they find what reading the
characters of the statement finds, at offsets between its characters.
-/

namespace DumpTransfer.Sql.Offset

open Parenthesis Utf8

variable {quote : Option Char} {char : Char} {text : Text}

-----------------------------------------------------------------------------------------
-- Bytes that are passed over
-----------------------------------------------------------------------------------------

/-- Whether a pending quote is one of those of literals and names. -/
def IsPending (quote : Option Char) : Prop :=
  ∀ pending ∈ quote, pending = '\'' ∨ pending = '"' ∨ pending = '`'

theorem isPending_none
    : IsPending none :=
  nofun

theorem IsPending.ascii {pending : Char} (isPending : IsPending (some pending))
    : pending.toNat < 128 := by
  rcases isPending pending rfl with rfl | rfl | rfl <;> decide

theorem IsPending.step (isPending : IsPending quote) (char : Char)
    : IsPending (quoteStep quote char) := by
  intro pending member
  cases quote with
  | some quote =>
      rw [quoteStep] at member
      split at member
      · cases member
      · exact isPending pending member
  | none =>
      rw [quoteStep] at member
      split at member
      · obtain rfl : char = pending := by simpa using member
        simp_all [or_assoc]
      · cases member

/-- A quote is a byte that the searches know. -/
theorem IsPending.isQuote {pending : Char} (isPending : IsPending (some pending))
    : isQuote pending.toUInt8 = true := by
  rcases isPending pending rfl with rfl | rfl | rfl <;> decide

/-- Whether the searches for parentheses pass over a byte. -/
def IsPassed (pending : Option UInt8) (byte : UInt8) : Prop :=
  match pending with
  | some quote => byte ≠ quote
  | none => isQuote byte = false ∧ byte ≠ '('.toUInt8 ∧ byte ≠ ')'.toUInt8

/-- A character without a meaning for the searches has no byte that has one. -/
theorem isPassed_of_mem (isPending : IsPending quote) (stays : quoteStep quote char = quote)
    (noOpen : quote = none → char ≠ '(') (noClose : quote = none → char ≠ ')') {byte : UInt8}
    (member : byte ∈ String.utf8EncodeChar char)
    : IsPassed (quote.map Char.toUInt8) byte := by
  have other {sign : Char} (ascii : sign.toNat < 128) (differs : char ≠ sign)
      : byte ≠ sign.toUInt8 := by
    rintro rfl
    exact differs ((mem_utf8EncodeChar_iff ascii).mp member)
  cases quote with
  | some quote =>
      have differs : char ≠ quote := by
        rintro rfl
        simp [quoteStep] at stays
      exact other isPending.ascii differs
  | none =>
      refine ⟨?_, other (by decide) (noOpen rfl), other (by decide) (noClose rfl)⟩
      obtain ⟨single, double, back⟩ : char ≠ '\'' ∧ char ≠ '"' ∧ char ≠ '`' := by
        refine ⟨?_, ?_, ?_⟩ <;> rintro rfl <;> cases stays
      simp [isQuote, other (by decide) single, other (by decide) double, other (by decide) back]

variable {pending : Option UInt8} {bytes rest : List UInt8}

theorem searchClose_passed (passed : ∀ byte ∈ bytes, IsPassed pending byte) (depth offset : Nat)
    : searchClose pending depth offset (bytes ++ rest)
      = searchClose pending depth (offset + bytes.length) rest := by
  induction bytes generalizing offset with
  | nil => rfl
  | cons byte more ih =>
      obtain ⟨first, later⟩ := List.forall_mem_cons.mp passed
      have length : offset + (byte :: more).length = offset + 1 + more.length := by
        rw [List.length_cons]
        omega
      rw [length, ← ih later, List.cons_append]
      cases pending with
      | some quote =>
          rw [searchClose.eq_def]
          exact if_pos first
      | none =>
          obtain ⟨noQuote, noOpen, noClose⟩ := first
          rw [searchClose.eq_def]
          simp only [noQuote, Bool.false_eq_true, if_false, if_neg noOpen, if_neg noClose]

/-- A pending quote is closed by the next one, which may open another right away. -/
theorem searchClose_quote {quote : UInt8} (quotes : isQuote quote = true) (depth offset : Nat)
    (rest : List UInt8)
    : searchClose (some quote) depth offset (quote :: rest)
      = searchClose none depth (offset + 1) rest := by
  cases rest with
  | nil => simp [searchClose]
  | cons next later =>
      by_cases twice : next = quote
      · subst twice
        rw [searchClose.eq_def, searchClose.eq_def none]
        simp [quotes]
      · rw [searchClose.eq_def]
        simp [twice]

-----------------------------------------------------------------------------------------
-- Closing parentheses
-----------------------------------------------------------------------------------------

/-- What a character of a text means to the searches. -/
inductive Role : Option Char → Char → Prop where
  | closesQuote {pending : Char} (isPending : IsPending (some pending))
      : Role (some pending) pending
  | opensQuote {char : Char} (isPending : IsPending (some char)) : Role none char
  | opens : Role none '('
  | closes : Role none ')'
  | nothing {quote : Option Char} {char : Char} (stays : quoteStep quote char = quote)
      (flat : weight (placeOf quote) char = 0)
      (passed : ∀ byte ∈ String.utf8EncodeChar char, IsPassed (quote.map Char.toUInt8) byte)
      : Role quote char

theorem role (isPending : IsPending quote) (char : Char)
    : Role quote char := by
  cases quote with
  | some pending =>
      by_cases same : char = pending
      · subst same
        exact .closesQuote isPending
      · have stays : quoteStep (some pending) char = some pending := if_neg same
        refine .nothing stays (weight_pending pending char) fun byte member => ?_
        exact isPassed_of_mem isPending stays nofun nofun member
  | none =>
      by_cases quotes : (char = '\'' || char = '"' || char = '`') = true
      · refine .opensQuote fun pending member => ?_
        obtain rfl : char = pending := by simpa using member
        simpa [or_assoc] using quotes
      · by_cases isOpen : char = '('
        · subst isOpen
          exact .opens
        · by_cases isClose : char = ')'
          · subst isClose
            exact .closes
          · have stays : quoteStep none char = none := if_neg quotes
            refine .nothing stays (by simp [weight, placeOf, isOpen, isClose]) fun byte member => ?_
            exact isPassed_of_mem isPending stays (fun _ => isOpen) (fun _ => isClose) member

theorem IsPending.opens {char : Char} (isPending : IsPending (some char))
    : quoteStep none char = some char := by
  rcases isPending char rfl with rfl | rfl | rfl <;> rfl

/-- A character that does not end the body moves the search on. -/
theorem searchClose_char (isPending : IsPending quote) {depth opened : Nat}
    (stays : ¬ (quote = none ∧ depth = 0 ∧ char = ')'))
    (moves : depth + weight (placeOf quote) char = opened) (offset : Nat)
    : searchClose (quote.map Char.toUInt8) (depth + 1) offset (encode (char :: text))
      = searchClose ((quoteStep quote char).map Char.toUInt8) (opened + 1) (offset + char.utf8Size)
          (encode text) := by
  cases role isPending char with
  | closesQuote =>
      have flat := weight_pending char char
      obtain rfl : depth = opened := by omega
      rw [quoteStep, if_pos rfl, utf8Size_ascii isPending.ascii, encode_cons_ascii isPending.ascii]
      exact searchClose_quote isPending.isQuote _ _ _
  | opensQuote quotes =>
      have ascii := quotes.ascii
      have flat : weight (placeOf none) char = 0 := by
        rcases quotes char rfl with rfl | rfl | rfl <;> rfl
      obtain rfl : depth = opened := by omega
      rw [quotes.opens, utf8Size_ascii ascii, encode_cons_ascii ascii, searchClose.eq_def]
      exact if_pos quotes.isQuote
  | opens =>
      obtain rfl : depth + 1 = opened := Int.ofNat.inj moves
      rw [encode_cons_ascii (by decide), searchClose.eq_def]
      rfl
  | closes =>
      cases depth with
      | zero => exact absurd ⟨rfl, rfl, rfl⟩ stays
      | succ depth =>
          obtain rfl : depth = opened := by
            simp [weight, placeOf] at moves
            omega
          rw [encode_cons_ascii (by decide), searchClose.eq_def]
          rfl
  | nothing same flat passed =>
      obtain rfl : depth = opened := by omega
      rw [same, encode_cons, searchClose_passed passed, String.length_utf8EncodeChar]

/-- What a search that begins at an offset says of a body that has been read from there. -/
def outcome (offset : Nat) : Option (Text × Text) → Search
  | some (body, _) => .found (offset + Text.byteLength body)
  | none => .missing

theorem outcome_cons (offset : Nat) (char : Char) (found : Option (Text × Text))
    : outcome offset (found.map fun (body, after) => (char :: body, after))
      = outcome (offset + char.utf8Size) found := by
  cases found with
  | none => rfl
  | some found => exact congrArg Search.found (by simp; omega)

/-- The search through the bytes of a text finds the parenthesis that ends its body. By induction on
the text; the search counts the parenthesis before the body as well.
-/
theorem searchClose_encode (isPending : IsPending quote) (depth offset : Nat)
    : searchClose (quote.map Char.toUInt8) (depth + 1) offset (encode text)
      = outcome offset (splitAtClose quote depth text) := by
  induction text generalizing quote depth offset with
  | nil =>
      rw [encode_nil, searchClose.eq_def]
      rfl
  | cons char text ih =>
      rcases splitAtClose_cons quote depth char text with
        ⟨⟨rfl, rfl, rfl⟩, ends⟩ | ⟨stays, opened, moves, goesOn⟩
      · rw [ends, encode_cons_ascii (by decide), searchClose.eq_def]
        rfl
      · rw [goesOn, outcome_cons, searchClose_char isPending stays moves, ih (isPending.step char)]

-----------------------------------------------------------------------------------------
-- Items
-----------------------------------------------------------------------------------------

theorem slicesFrom_ne_nil (pending : Option UInt8) (depth : Int) (bytes : List UInt8)
    : slicesFrom pending depth bytes ≠ [] := by
  have extended (first : List UInt8) (items : List (List UInt8))
      : extendFirst first items ≠ [] := by
    cases items <;> simp [extendFirst]
  fun_cases slicesFrom pending depth bytes <;> first
    | exact extended _ _
    | simp

theorem extendFirst_nil {items : List (List UInt8)} (isThere : items ≠ [])
    : extendFirst [] items = items := by
  cases items with
  | nil => exact absurd rfl isThere
  | cons first others => rfl

theorem extendFirst_append (first second : List UInt8) (items : List (List UInt8))
    : extendFirst (first ++ second) items = extendFirst first (extendFirst second items) := by
  cases items with
  | nil => rfl
  | cons item others => simp [extendFirst]

theorem slicesFrom_passed {depth : Int} (passed : ∀ byte ∈ bytes, IsPassed pending byte)
    (noComma : ∀ byte ∈ bytes, pending = none → depth = 0 → byte ≠ ','.toUInt8)
    : slicesFrom pending depth (bytes ++ rest)
      = extendFirst bytes (slicesFrom pending depth rest) := by
  induction bytes with
  | nil => exact (extendFirst_nil (slicesFrom_ne_nil _ _ _)).symm
  | cons byte more ih =>
      obtain ⟨first, later⟩ := List.forall_mem_cons.mp passed
      obtain ⟨differs, others⟩ := List.forall_mem_cons.mp noComma
      have split : byte :: more = [byte] ++ more := rfl
      rw [split, extendFirst_append, ← ih later others, List.append_assoc, List.singleton_append,
        slicesFrom.eq_def]
      cases pending with
      | some quote => exact if_pos first
      | none =>
          obtain ⟨noQuote, noOpen, noClose⟩ := first
          have noComma : ¬ (byte = ','.toUInt8 && depth = 0) = true := by
            simpa [imp.swap] using differs rfl
          simp only [noQuote, Bool.false_eq_true, if_false, if_neg noOpen, if_neg noClose,
            if_neg noComma]

theorem slicesFrom_quote {quote : UInt8} (quotes : isQuote quote = true) (depth : Int)
    (rest : List UInt8)
    : slicesFrom (some quote) depth (quote :: rest)
      = extendFirst [quote] (slicesFrom none depth rest) := by
  cases rest with
  | nil => simp [slicesFrom, extendFirst]
  | cons next later =>
      by_cases twice : next = quote
      · subst twice
        rw [slicesFrom.eq_def, slicesFrom.eq_def none]
        simp [quotes, ← extendFirst_append]
      · rw [slicesFrom.eq_def]
        simp [twice]

/-- A character that does not end an item joins the first one of what follows. -/
theorem slicesFrom_char (isPending : IsPending quote) {depth : Int}
    (stays : ¬ (quote = none ∧ depth = 0 ∧ char = ','))
    : slicesFrom (quote.map Char.toUInt8) depth (encode (char :: text))
      = extendFirst (String.utf8EncodeChar char)
          (slicesFrom ((quoteStep quote char).map Char.toUInt8)
            (depth + weight (placeOf quote) char) (encode text)) := by
  have single (ascii : char.toNat < 128) : String.utf8EncodeChar char = [char.toUInt8] :=
    String.utf8EncodeChar_eq_singleton (utf8Size_ascii ascii)
  cases role isPending char with
  | closesQuote =>
      rw [single isPending.ascii, encode_cons_ascii isPending.ascii, weight_pending, quoteStep,
        if_pos rfl, Int.add_zero]
      exact slicesFrom_quote isPending.isQuote _ _
  | opensQuote quotes =>
      have flat : weight (placeOf none) char = 0 := by
        rcases quotes char rfl with rfl | rfl | rfl <;> rfl
      rw [quotes.opens, flat, single quotes.ascii, encode_cons_ascii quotes.ascii,
        slicesFrom.eq_def, Int.add_zero]
      exact if_pos quotes.isQuote
  | opens =>
      rw [single (by decide), encode_cons_ascii (by decide), slicesFrom.eq_def]
      rfl
  | closes =>
      rw [single (by decide), encode_cons_ascii (by decide), slicesFrom.eq_def]
      rfl
  | nothing same flat passed =>
      rw [same, flat, Int.add_zero, encode_cons]
      refine slicesFrom_passed passed fun byte member none top => ?_
      rintro rfl
      have comma : char = ',' := (mem_utf8EncodeChar_iff (by decide)).mp member
      exact stays ⟨Option.map_eq_none_iff.mp none, top, comma⟩

/-- The slices of the bytes of a text are its items. By induction on the text. -/
theorem slicesFrom_encode (isPending : IsPending quote) (depth : Int)
    : slicesFrom (quote.map Char.toUInt8) depth (encode text)
      = (partsFrom quote depth text).map encode := by
  induction text generalizing quote depth with
  | nil => rw [encode_nil, slicesFrom, partsFrom, List.map_singleton, encode_nil]
  | cons char text ih =>
      rcases partsFrom_cons quote depth char text with
        ⟨⟨rfl, rfl, rfl⟩, ends⟩ | ⟨stays, first, others, later, goesOn⟩
      · rw [ends, encode_cons_ascii (by decide), List.map_cons, encode_nil, ← ih isPending_none,
          slicesFrom.eq_def]
        rfl
      · rw [goesOn, slicesFrom_char isPending stays, ih (isPending.step char), later]
        simp [extendFirst, encode_cons]

-----------------------------------------------------------------------------------------
-- Offsets
-----------------------------------------------------------------------------------------

/-- The search for the parenthesis that closes another finds the end of the list between them. -/
theorem closing_eq {statement before list : Text} (split : statement = before ++ '(' :: list)
    : closing statement (Text.byteLength before)
      = outcome (Text.byteLength before + 1) (body? ('(' :: list)) := by
  have dropped : (encode statement).drop (Text.byteLength before) = '('.toUInt8 :: encode list := by
    rw [split, encode_append, ← length_encode, List.drop_left, encode_cons_ascii (by decide)]
  rw [closing, dropped]
  simp only [if_true]
  rw [body?, ← searchClose_encode isPending_none, searchClose.eq_def]
  rfl

/-- The byte of an opening parenthesis stands between characters. -/
theorem exists_of_getElem? {statement : Text} {opening : Nat}
    (found : (encode statement)[opening]? = some '('.toUInt8)
    : ∃ before list, statement = before ++ '(' :: list ∧ opening = Text.byteLength before := by
  induction statement generalizing opening with
  | nil => simp at found
  | cons char later ih =>
      have length := String.length_utf8EncodeChar char
      rw [encode_cons] at found
      by_cases inside : opening < char.utf8Size
      · rw [List.getElem?_append_left (by omega)] at found
        obtain rfl := (mem_utf8EncodeChar_iff (by decide)).mp (List.mem_of_getElem? found)
        have single : '('.utf8Size = 1 := by decide
        obtain rfl : opening = 0 := by omega
        exact ⟨[], later, rfl, rfl⟩
      · rw [List.getElem?_append_right (by omega), length] at found
        obtain ⟨before, list, rfl, offset⟩ := ih found
        refine ⟨char :: before, list, rfl, ?_⟩
        rw [Text.byteLength_cons]
        omega

/-- A parenthesis is only found from an opening one. -/
theorem closing_eq_missing {statement : Text} {opening : Nat}
    (differs : (encode statement)[opening]? ≠ some '('.toUInt8)
    : closing statement opening = .missing := by
  have first := List.head?_drop (l := encode statement) (i := opening)
  unfold closing
  split
  · rfl
  · rename_i byte rest dropped
    rw [if_neg]
    rintro rfl
    rw [dropped] at first
    exact differs first.symm

/-- An offset between characters of a statement, or at one of its ends. -/
def IsBetween (statement : Text) (offset : Nat) : Prop :=
  ∃ before after, statement = before ++ after ∧ offset = Text.byteLength before

/-- A search comes to the end of the statement, or to the end of a body that it began before. It
never counts below zero, and it goes from one place between characters to another.
-/
theorem closing_cases (statement : Text) (opening : Nat)
    : closing statement opening = .missing
      ∨ IsBetween statement opening
        ∧ ∃ close, closing statement opening = .found close ∧ IsBetween statement close := by
  by_cases opens : (encode statement)[opening]? = some '('.toUInt8
  · obtain ⟨before, list, rfl, rfl⟩ := exists_of_getElem? opens
    rw [closing_eq rfl]
    cases found : body? ('(' :: list) with
    | none => exact .inl rfl
    | some parts =>
        obtain ⟨body, rest⟩ := parts
        obtain ⟨rfl, -⟩ := body?_eq_some_iff.mp found
        refine .inr ⟨⟨before, _, rfl, rfl⟩, _, rfl, before ++ '(' :: body, ')' :: rest, by simp, ?_⟩
        have single : '('.utf8Size = 1 := by decide
        simp [single]
        omega
  · exact .inl (closing_eq_missing opens)

/-- The first opening parenthesis is found where the characters before it end. -/
theorem firstOpen?_eq_some_iff {statement : Text} {opening : Nat}
    : firstOpen? statement = some opening
      ↔ ∃ before list,
          IsFirst .code '(' statement before list ∧ opening = Text.byteLength before := by
  constructor
  · intro found
    obtain ⟨⟨before, later⟩, same, rfl⟩ := Option.map_eq_some_iff.mp found
    obtain ⟨list, rfl, first⟩ := Parenthesis.firstOpen?_eq_some_iff.mp same
    exact ⟨before, list, first, rfl⟩
  · rintro ⟨before, list, first, rfl⟩
    rw [firstOpen?, Parenthesis.firstOpen?_eq_some_iff.mpr ⟨list, rfl, first⟩]
    rfl

section

variable {statement before list : Text}

/-- A closing parenthesis is found where a body of the list ends. -/
theorem closing_eq_found_iff (split : statement = before ++ '(' :: list) {close : Nat}
    : closing statement (Text.byteLength before) = .found close
      ↔ ∃ body, Encloses list body ∧ close = Text.byteLength (before ++ '(' :: body) := by
  have offset (body : Text)
      : Text.byteLength (before ++ '(' :: body)
        = Text.byteLength before + 1 + Text.byteLength body := by
    have single : '('.utf8Size = 1 := by decide
    simp [single]
    omega
  rw [closing_eq split]
  constructor
  · intro found
    cases parts : body? ('(' :: list) with
    | none =>
        rw [parts] at found
        cases found
    | some pair =>
        obtain ⟨body, rest⟩ := pair
        rw [parts] at found
        obtain rfl := Search.found.inj found
        obtain ⟨ends, balanced⟩ := body?_eq_some_iff.mp parts
        exact ⟨body, ⟨balanced, rest, ends⟩, (offset body).symm⟩
  · rintro ⟨body, ⟨balanced, rest, ends⟩, rfl⟩
    rw [body?_eq_some_iff.mpr ⟨ends, balanced⟩, offset]
    rfl

/-- No closing parenthesis is found exactly if the list has no body. -/
theorem closing_eq_missing_iff (split : statement = before ++ '(' :: list)
    : closing statement (Text.byteLength before) = .missing ↔ ∀ body, ¬ Encloses list body := by
  constructor
  · intro missing body encloses
    have found := (closing_eq_found_iff split).mpr ⟨body, encloses, rfl⟩
    cases missing.symm.trans found
  · intro none
    rcases closing_cases statement (Text.byteLength before) with missing | ⟨-, close, found, -⟩
    · exact missing
    · obtain ⟨body, encloses, -⟩ := (closing_eq_found_iff split).mp found
      exact absurd encloses (none body)

end

/-- Lists are cut exactly. The first opening parenthesis of a statement is the first that stands
outside its quotes. From any opening parenthesis that stands there, the search finds the end of the
one text after it that is balanced and followed by a closing parenthesis, which stands outside
quotes as well, or nothing if there is no such text. No search counts below zero, and all offsets
are between characters. The slices of the text that is cut out are its items: with commas between
them they are the text again, and each is balanced and has no comma outside its quotes and
parentheses.
-/
theorem lists_cut_exactly (statement : Text)
    : (∀ opening,
          firstOpen? statement = some opening
          ↔ ∃ before list,
              IsFirst .code '(' statement before list ∧ opening = Text.byteLength before)
      ∧ (∀ opening,
          closing statement opening = .missing
          ∨ IsBetween statement opening
            ∧ ∃ close, closing statement opening = .found close ∧ IsBetween statement close)
      ∧ ∀ before list, Stands .code '(' statement before list →
          (∀ close,
              closing statement (Text.byteLength before) = .found close
              ↔ ∃ body, Encloses list body ∧ close = Text.byteLength (before ++ '(' :: body))
          ∧ (closing statement (Text.byteLength before) = .missing ↔ ∀ body, ¬ Encloses list body)
          ∧ ∀ body, Encloses list body →
              (∀ other, Encloses list other → other = body)
              ∧ (∃ rest, Stands .code ')' statement (before ++ '(' :: body) rest)
              ∧ slices body = (parts body).map encode
              ∧ Text.joinWith [','] (parts body) = body
              ∧ ∀ part ∈ parts body, Item part := by
  refine ⟨fun opening => firstOpen?_eq_some_iff, closing_cases statement, ?_⟩
  rintro before list ⟨split, outside⟩
  refine ⟨fun close => closing_eq_found_iff split, closing_eq_missing_iff split, ?_⟩
  intro body encloses
  obtain ⟨balanced, rest, ends⟩ := encloses
  refine ⟨fun other same => Encloses.unique ⟨balanced, rest, ends⟩ same, ⟨rest, ?_, ?_⟩,
    slicesFrom_encode isPending_none 0, joinWith_partsFrom none 0 body,
    fun part => parts_items balanced⟩
  · rw [split, ends, List.append_assoc, List.cons_append]
  · rw [Quoting.after_append, outside]
    exact balanced.quotes

/-- A parenthesis in a literal does not end a list. -/
theorem list_with_literal_cut
    : Stands .code '(' "t (a ')', b(2))" "t " "a ')', b(2))"
      ∧ Encloses "a ')', b(2))" "a ')', b(2)"
      ∧ closing "t (a ')', b(2))" (Text.byteLength "t ") = .found 14
      ∧ Text.joinWith [','] (parts "a ')', b(2)") = "a ')', b(2)" := by
  have stands : Stands .code '(' "t (a ')', b(2))" "t " "a ')', b(2))" :=
    ⟨by decide +kernel, by decide +kernel⟩
  have found : body? ('(' :: ("a ')', b(2))" : Text)) = some (("a ')', b(2)" : Text), []) := by
    decide +kernel
  have encloses : Encloses "a ')', b(2))" "a ')', b(2)" :=
    ⟨(body?_eq_some_iff.mp found).2, [], (body?_eq_some_iff.mp found).1⟩
  obtain ⟨-, -, lists⟩ := lists_cut_exactly "t (a ')', b(2))"
  obtain ⟨finds, -, cuts⟩ := lists _ _ stands
  obtain ⟨-, -, -, joined, -⟩ := cuts _ encloses
  exact ⟨stands, encloses, (finds 14).mpr ⟨_, encloses, by decide +kernel⟩, joined⟩

end DumpTransfer.Sql.Offset
