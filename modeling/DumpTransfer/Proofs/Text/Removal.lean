import DumpTransfer.Proofs.Text.Meaning

/-! What is left of a text without the matches of a pattern. Nothing is added to a text in this way,
and a text in which the pattern occurs becomes shorter in the characters that every match needs.
-/

namespace DumpTransfer.Pattern

variable {pattern : Pattern} {place : Place} {text : Text} {isPart : Char → Bool}

/-- Every match has a character of a class in it. -/
def Needs (pattern : Pattern) (isPart : Char → Bool) : Prop :=
  ∀ start reached : Place, pattern.Matches start reached →
    ∃ text, start.Reads text reached ∧ ∃ char ∈ text, isPart char = true

theorem Needs.append_left {first : Pattern} (needs : first.Needs isPart) (second : Pattern)
    : (first ++ second).Needs isPart := by
  rintro start reached ⟨between, matched, matchedSecond⟩
  obtain ⟨text, reads, char, member, isIn⟩ := needs start between matched
  obtain ⟨more, readsMore⟩ := matchedSecond.reads
  exact ⟨text ++ more, reads.trans readsMore, char, List.mem_append_left _ member, isIn⟩

theorem Needs.append_right {second : Pattern} (needs : second.Needs isPart) (first : Pattern)
    : (first ++ second).Needs isPart := by
  rintro start reached ⟨between, matched, matchedSecond⟩
  obtain ⟨text, reads⟩ := matched.reads
  obtain ⟨more, readsMore, char, member, isIn⟩ := needs between reached matchedSecond
  exact ⟨text ++ more, reads.trans readsMore, char, List.mem_append_right _ member, isIn⟩

theorem Needs.orElse {first second : Pattern} (needs : first.Needs isPart)
    (needsSecond : second.Needs isPart)
    : (first <|> second).Needs isPart :=
  fun start reached matched => matched.elim (needs start reached) (needsSecond start reached)

/-- The search goes on with all that comes after a match. -/
theorem after_eq_of_resume {found : Match} {kept : Text} {next : Place}
    (resumed : resume found = some (kept, next))
    : found.finish.after = kept ++ next.after := by
  obtain ⟨start, skipped, matched, finish⟩ := found
  cases matched with
  | cons char more =>
      obtain ⟨rfl, rfl⟩ := Prod.mk.inj (Option.some.inj resumed)
      rfl
  | nil =>
      cases after : finish.after with
      | nil => simp [resume, after] at resumed
      | cons char rest =>
          simp only [resume, after, Option.some.injEq, Prod.mk.injEq] at resumed
          obtain ⟨rfl, rfl⟩ := resumed
          rfl

theorem countP_replaceFrom_le (pattern : Pattern) (isPart : Char → Bool) (bound : Nat)
    (place : Place)
    : (pattern.replaceFrom (fun _ => []) bound place).countP isPart
      ≤ place.after.countP isPart := by
  induction bound generalizing place with
  | zero => exact Nat.le_refl _
  | succ bound ih =>
      rw [replaceFrom]
      split
      · exact Nat.le_refl _
      · rename_i found search
        obtain ⟨passed, start, skips, split, _⟩ := exists_of_findFrom rfl search
        rw [split, skips]
        split
        · simp
        · rename_i kept next resumed
          have rested := ih next
          rw [after_eq_of_resume resumed]
          simp only [List.reverse_nil, List.nil_append, List.append_nil, List.countP_append]
          omega

/-- The first match that is removed takes a character with it. -/
theorem countP_replaceFrom_lt (needs : pattern.Needs isPart)
    (occurs : (pattern.findFrom [] place.after place).isSome = true) (bound : Nat)
    : (pattern.replaceFrom (fun _ => []) (bound + 1) place).countP isPart
      < place.after.countP isPart := by
  obtain ⟨found, search⟩ := Option.isSome_iff_exists.mp occurs
  obtain ⟨passed, start, skips, split, matched, reads⟩ := exists_of_findFrom rfl search
  have taken : 0 < found.matched.countP isPart := by
    obtain ⟨text, readsText, isThere⟩ := needs start _ matched
    rw [reads.unique readsText]
    exact List.countP_pos_iff.mpr isThere
  rw [replaceFrom, search, split]
  dsimp only
  rw [skips]
  split
  · simp only [List.reverse_nil, List.nil_append, List.append_nil, List.countP_append]
    omega
  · rename_i kept next resumed
    have rested := countP_replaceFrom_le pattern isPart bound next
    rw [after_eq_of_resume resumed]
    simp only [List.reverse_nil, List.nil_append, List.append_nil, List.countP_append]
    omega

theorem countP_removeAll_le (pattern : Pattern) (isPart : Char → Bool) (text : Text)
    : (pattern.removeAll text).countP isPart ≤ text.countP isPart :=
  countP_replaceFrom_le pattern isPart _ (.start text)

theorem countP_removeAll_lt (needs : pattern.Needs isPart) (occurs : pattern.occursIn text = true)
    : (pattern.removeAll text).countP isPart < text.countP isPart := by
  have found : (pattern.findFrom [] (Place.start text).after (.start text)).isSome = true := occurs
  exact countP_replaceFrom_lt needs found _

theorem removeAll_of_not_occursIn (absent : pattern.occursIn text = false)
    : pattern.removeAll text = text := by
  have nothing : pattern.findFrom [] text (.start text) = none := by
    rwa [occursIn, find?, Option.isSome_eq_false_iff, Option.isNone_iff_eq_none] at absent
  have stands : (Place.start text).after = text := rfl
  rw [removeAll, replaceAll, replaceFrom, stands, nothing]

theorem foldl_removeAll_of_not_occursIn {patterns : List Pattern}
    (absent : ∀ pattern ∈ patterns, pattern.occursIn text = false)
    : patterns.foldl (fun kept pattern => pattern.removeAll kept) text = text := by
  induction patterns with
  | nil => rfl
  | cons pattern others ih =>
      rw [List.forall_mem_cons] at absent
      rw [List.foldl_cons, removeAll_of_not_occursIn absent.1, ih absent.2]

theorem countP_foldl_removeAll_le (patterns : List Pattern) (isPart : Char → Bool) (text : Text)
    : (patterns.foldl (fun kept pattern => pattern.removeAll kept) text).countP isPart
      ≤ text.countP isPart := by
  induction patterns generalizing text with
  | nil => exact Nat.le_refl _
  | cons pattern others ih => exact Nat.le_trans (ih _) (countP_removeAll_le pattern isPart text)

/-- The first of several patterns that occurs takes a character with it. -/
theorem countP_foldl_removeAll_lt {patterns : List Pattern}
    (needs : ∀ pattern ∈ patterns, pattern.Needs isPart)
    (occurs : ∃ pattern ∈ patterns, pattern.occursIn text = true)
    : (patterns.foldl (fun kept pattern => pattern.removeAll kept) text).countP isPart
      < text.countP isPart := by
  induction patterns with
  | nil =>
      obtain ⟨_, member, _⟩ := occurs
      cases member
  | cons pattern others ih =>
      have rest := countP_foldl_removeAll_le others isPart (pattern.removeAll text)
      cases here : pattern.occursIn text with
      | true => exact Nat.lt_of_le_of_lt rest (countP_removeAll_lt (needs _ (by simp)) here)
      | false =>
          rw [List.foldl_cons, removeAll_of_not_occursIn here]
          refine ih (fun other member => needs other (by simp [member])) ?_
          obtain ⟨other, member, occursLater⟩ := occurs
          rcases List.mem_cons.mp member with rfl | member
          · cases here.symm.trans occursLater
          · exact ⟨other, member, occursLater⟩

end DumpTransfer.Pattern
