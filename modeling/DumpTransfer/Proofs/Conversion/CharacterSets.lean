import DumpTransfer.Proofs.Conversion.InsertionPieces

/-! Names of character sets before literals. They are looked for at the end of what has been
written, which is kept in reverse, and only a whole name after a bracket or a comma is dropped.
-/

namespace DumpTransfer.Conversion.Insertion

open Completion (dropWord? dropCharacterSetName characterSetNames isNamePart)

-----------------------------------------------------------------------------------------
-- Words before a literal
-----------------------------------------------------------------------------------------

/-- No name goes on at a sign. -/
theorem isNamePart_of_isSign {char : Char} (sign : isSign char = true)
    : isNamePart char = false ∧ isNamePart char.toUpper = false := by
  simpa using
    holds_of_isSign (fun char => !isNamePart char && !isNamePart char.toUpper) rfl sign

theorem isBlank_of_isSpace {char : Char} (space : isSpace char = true)
    : Alphabet.isBlank char = true :=
  holds_of_isSpace Alphabet.isBlank rfl space

theorem isNamePart_of_toUpper {char : Char} (part : isNamePart char.toUpper = true)
    : isNamePart char = true := by
  rcases Alphabet.toUpper_eq_or_isAlpha char with same | letter
  · rwa [same] at part
  · have ascii := Alphabet.toNat_of_isAlpha letter
    simp [isNamePart, Alphabet.isAlphanumeric, Alphabet.isAlphabetic, ascii, letter]

theorem dropWord?_of_differs {reversed word : Text}
    (differs : Text.equalsIgnoringCase (reversed.take word.length) word.reverse = false)
    : dropWord? reversed word = none := by
  unfold dropWord?
  dsimp only
  rw [differs]
  rfl

theorem dropWord?_of_part {reversed word : Text}
    (part : (reversed.drop word.length).head?.any isNamePart = true)
    : dropWord? reversed word = none := by
  unfold dropWord?
  dsimp only
  rw [part, Bool.not_true, Bool.and_false]
  rfl

/-- A word is not dropped when another character stands last. -/
theorem dropWord?_of_last {reversed word : Text} {last : Char} (spelled : word.getLast? = some last)
    (other : ∀ char ∈ reversed.head?, char.toUpper ≠ last.toUpper)
    : dropWord? reversed word = none := by
  obtain ⟨init, rfl⟩ := List.getLast?_eq_some_iff.mp spelled
  refine dropWord?_of_differs ?_
  cases reversed with
  | nil => simp [Text.equalsIgnoringCase, Text.asciiUpper]
  | cons char rest =>
      have notLast := other char rfl
      simp [Text.equalsIgnoringCase, Text.asciiUpper, notLast]

/-- A word is dropped from a name in front of a sign exactly if it is the name: shorter words leave
a part of the name before them, and longer ones reach to the sign.
-/
theorem dropWord?_name (name : Text) {reversed word : Text}
    (nameParts : ∀ char ∈ name, isNamePart char = true)
    (outside : ∀ char ∈ reversed.head?,
      isNamePart char = false ∧ isNamePart char.toUpper = false)
    (wordParts : ∀ char ∈ Text.asciiUpper word, isNamePart char = true)
    : dropWord? (name.reverse ++ reversed) word
      = if Text.equalsIgnoringCase name word then some reversed else none := by
  have lengths (same : Text.equalsIgnoringCase name word = true) : name.length = word.length := by
    simpa [Text.asciiUpper] using congrArg List.length (of_decide_eq_true same)
  rcases Nat.lt_trichotomy word.length name.length with shorter | same | longer
  · have differs : Text.equalsIgnoringCase name word = false :=
      Bool.eq_false_iff.mpr fun same => Nat.ne_of_gt shorter (lengths same)
    have left : word.length < name.reverse.length := by simpa using shorter
    have part : isNamePart name.reverse[word.length] = true :=
      nameParts _ (List.mem_reverse.mp (List.getElem_mem left))
    have before : ((name.reverse ++ reversed).drop word.length).head?
        = some name.reverse[word.length] := by
      rw [List.head?_drop, List.getElem?_append_left left, List.getElem?_eq_getElem left]
    rw [differs, dropWord?_of_part (by rw [before]; exact part)]
    rfl
  · have taken : (name.reverse ++ reversed).take word.length = name.reverse := by
      rw [same, ← List.length_reverse, List.take_left]
    have dropped : (name.reverse ++ reversed).drop word.length = reversed := by
      rw [same, ← List.length_reverse, List.drop_left]
    have noName : reversed.head?.any isNamePart = false := by
      cases reversed with
      | nil => rfl
      | cons char rest => exact (outside char rfl).1
    have backwards
        : Text.equalsIgnoringCase name.reverse word.reverse
          = Text.equalsIgnoringCase name word := by
      unfold Text.equalsIgnoringCase Text.asciiUpper
      rw [decide_eq_decide, List.map_reverse, List.map_reverse, List.reverse_inj]
    unfold dropWord?
    dsimp only
    rw [taken, dropped, noName, backwards, Bool.not_false, Bool.and_true]
  · have differs : Text.equalsIgnoringCase name word = false :=
      Bool.eq_false_iff.mpr fun same => Nat.ne_of_lt longer (lengths same)
    have apart
        : Text.equalsIgnoringCase ((name.reverse ++ reversed).take word.length) word.reverse
          = false := by
      refine Bool.eq_false_iff.mpr fun same => ?_
      have upper := of_decide_eq_true same
      cases reversed with
      | nil =>
          have length := congrArg List.length upper
          simp [Text.asciiUpper] at length
          omega
      | cons char rest =>
          have reached : char ∈ (name.reverse ++ char :: rest).take word.length := by
            rw [List.take_append, List.length_reverse]
            obtain ⟨more, extra⟩ := Nat.exists_eq_add_of_lt longer
            simp [extra, Nat.add_assoc]
          have inWord : char.toUpper ∈ Text.asciiUpper word.reverse := by
            rw [← upper]
            exact List.mem_map_of_mem reached
          have part := wordParts char.toUpper (by simpa [Text.asciiUpper] using inWord)
          exact Bool.noConfusion ((outside char rfl).2.symm.trans part)
    rw [differs, dropWord?_of_differs apart]
    rfl

-----------------------------------------------------------------------------------------
-- Names of character sets
-----------------------------------------------------------------------------------------

/-- A text in reverse that ends with a bracket or a comma, white space apart. -/
def Settled (reversed : Text) : Prop :=
  ∃ spaces mark before, reversed = spaces ++ mark :: before
    ∧ (∀ char ∈ spaces, isSpace char = true) ∧ isMark mark = true

theorem Settled.head {reversed : Text} (settled : Settled reversed)
    : ∀ char ∈ reversed.head?, isSign char = true := by
  obtain ⟨spaces, mark, before, rfl, allSpace, isMark⟩ := settled
  cases spaces with
  | nil => simp [isSign, isMark]
  | cons space more => simp [isSign, allSpace space (by simp)]

theorem dropWhile_isBlank_append {spaces rest : Text}
    (allSpace : ∀ char ∈ spaces, isSpace char = true)
    : (spaces ++ rest).dropWhile Alphabet.isBlank = rest.dropWhile Alphabet.isBlank :=
  List.dropWhile_append_of_pos fun char member => isBlank_of_isSpace (allSpace char member)

/-- The capitals and digits with which names of character sets end. -/
def lastsOfSets : List Char :=
  ['1', '2', '3', '4', '6', '8', 'Y', 'I']

/-- Capitals and other characters of names of character sets in capitals. -/
def isSetPart (char : Char) : Bool :=
  ((char.isUpper && char ≠ 'X') || char.isDigit || char = '_')
    && isNamePart char && !Alphabet.isBlank char

theorem characterSetNames_all
    : characterSetNames.all (fun name =>
        (Text.asciiUpper name).all isSetPart
          && name.getLast?.any (lastsOfSets.contains ·.toUpper)) = true := by
  simp only [characterSetNames, Text.ofString_eq]
  decide

/-- Nothing is dropped where no name of a character set ends. -/
theorem dropCharacterSetName_of_other {reversed : Text}
    (other : ∀ char ∈ (reversed.dropWhile Alphabet.isBlank).head?, char.toUpper ∉ lastsOfSets)
    : dropCharacterSetName reversed = reversed := by
  have nothing : characterSetNames.findSome? (dropWord? (reversed.dropWhile Alphabet.isBlank))
      = none := by
    refine List.findSome?_eq_none_iff.mpr fun name member => ?_
    have known := List.all_eq_true.mp characterSetNames_all name member
    rw [Bool.and_eq_true, Option.any_eq_true] at known
    obtain ⟨last, spelled, inLasts⟩ := known.2
    refine dropWord?_of_last spelled fun char head same => other char head ?_
    rw [same]
    exact List.contains_iff_mem.mp inLasts
  rw [dropCharacterSetName, nothing]
  rfl

/-- A text in reverse that ends like no word which is dropped before a literal, white space apart.
-/
def Unmarked (reversed : Text) : Prop :=
  ∀ char ∈ (reversed.dropWhile Alphabet.isBlank).head?, char.toUpper ∉ 'X' :: lastsOfSets

theorem Unmarked.noSet {reversed : Text} (unmarked : Unmarked reversed)
    : dropCharacterSetName reversed = reversed :=
  dropCharacterSetName_of_other fun char head last =>
    unmarked char head (List.mem_cons_of_mem _ last)

theorem Unmarked.noMark {reversed : Text} (unmarked : Unmarked reversed)
    : dropWord? reversed ['x'] = none := by
  refine dropWord?_of_last rfl fun char head same => ?_
  have notBlank : Alphabet.isBlank char = false :=
    Alphabet.isBlank_of_toUpper (by rw [same]; rfl)
  obtain ⟨more, rfl⟩ := List.head?_eq_some_iff.mp head
  refine unmarked char ?_ (by rw [same]; decide)
  rw [List.dropWhile_cons_of_neg (by simp [notBlank])]
  rfl

/-- No word ends with a bracket or a comma. -/
theorem Settled.unmarked {reversed : Text} (settled : Settled reversed)
    : Unmarked reversed := by
  obtain ⟨spaces, mark, before, rfl, allSpace, isMark⟩ := settled
  have both := holds_of_isMark
    (fun mark => !Alphabet.isBlank mark && !('X' :: lastsOfSets).contains mark.toUpper) rfl isMark
  rw [Bool.and_eq_true, Bool.not_eq_true'] at both
  rw [Unmarked, dropWhile_isBlank_append allSpace,
    List.dropWhile_cons_of_neg (by simp [both.1])]
  intro char head last
  obtain rfl := Option.some.inj head
  rw [List.contains_iff_mem.mpr last] at both
  exact Bool.noConfusion both.2

theorem Introducer.exists_name (introducer : Introducer)
    : ∃ name ∈ characterSetNames,
        Text.equalsIgnoringCase introducer.text name = true :=
  List.any_eq_true.mp introducer.isKnown

theorem isSetPart_of_mem {name : Text} (known : name ∈ characterSetNames)
    : ∀ char ∈ Text.asciiUpper name, isSetPart char = true := by
  have all := List.all_eq_true.mp characterSetNames_all name known
  exact List.all_eq_true.mp (Bool.and_eq_true_iff.mp all).1

theorem Introducer.parts (introducer : Introducer)
    : ∀ char ∈ introducer.text, isSetPart char.toUpper = true := by
  obtain ⟨name, known, same⟩ := introducer.exists_name
  have upper : Text.asciiUpper introducer.text = Text.asciiUpper name := of_decide_eq_true same
  exact fun char member => isSetPart_of_mem known _ (upper ▸ List.mem_map_of_mem member)

theorem Introducer.ne_nil (introducer : Introducer)
    : introducer.text ≠ [] := by
  obtain ⟨name, known, same⟩ := introducer.exists_name
  have all := List.all_eq_true.mp characterSetNames_all name known
  rintro none
  rw [none, Text.equalsIgnoringCase, decide_eq_true_eq] at same
  obtain rfl := List.map_eq_nil_iff.mp same.symm
  cases all

/-- An introducer is dropped together with the white space after it. -/
theorem dropCharacterSetName_introducer (introducer : Introducer) {reversed : Text}
    (settled : Settled reversed)
    : dropCharacterSetName
          ((introducer.text ++ introducer.after.text).reverse ++ reversed) = reversed := by
  have ofPart {char : Char} (part : isSetPart char = true)
      : isNamePart char = true ∧ Alphabet.isBlank char = false := by
    simp only [isSetPart, Bool.and_eq_true, Bool.not_eq_true'] at part
    exact ⟨part.1.2, part.2⟩
  have parts : ∀ char ∈ introducer.text,
      isNamePart char = true ∧ Alphabet.isBlank char = false := by
    intro char member
    obtain ⟨part, notBlank⟩ := ofPart (introducer.parts char member)
    exact ⟨isNamePart_of_toUpper part, Alphabet.isBlank_of_toUpper notBlank⟩
  have trimmed
      : (((introducer.text ++ introducer.after.text).reverse ++ reversed).dropWhile
          Alphabet.isBlank) = introducer.text.reverse ++ reversed := by
    obtain ⟨init, last, spelled⟩ := (List.eq_nil_or_concat introducer.text).resolve_left
      introducer.ne_nil
    rw [List.reverse_append, List.append_assoc, dropWhile_isBlank_append fun char member =>
      introducer.after.isSpace char (List.mem_reverse.mp member), spelled]
    rw [List.concat_eq_append, List.reverse_append, List.reverse_singleton, List.singleton_append,
      List.cons_append, List.dropWhile_cons_of_neg]
    simp [(parts last (by simp [spelled])).2]
  have dropped : ∀ name ∈ characterSetNames,
      dropWord? (introducer.text.reverse ++ reversed) name
        = if Text.equalsIgnoringCase introducer.text name then some reversed else none :=
    fun name member =>
      dropWord?_name introducer.text (fun char inText => (parts char inText).1)
        (fun char head => isNamePart_of_isSign (settled.head char head))
        (fun char inName => (ofPart (isSetPart_of_mem member char inName)).1)
  obtain ⟨known, isName, same⟩ := introducer.exists_name
  have found
      : characterSetNames.findSome? (dropWord? (introducer.text.reverse ++ reversed))
        = some reversed := by
    cases result : characterSetNames.findSome?
        (dropWord? (introducer.text.reverse ++ reversed)) with
    | none =>
        have nothing := List.findSome?_eq_none_iff.mp result known isName
        rw [dropped known isName, if_pos same] at nothing
        cases nothing
    | some before =>
        obtain ⟨name, member, whole⟩ := List.exists_of_findSome?_eq_some result
        rw [dropped name member] at whole
        split at whole
        · exact whole.symm
        · cases whole
  rw [dropCharacterSetName, trimmed, found]
  rfl

end DumpTransfer.Conversion.Insertion
