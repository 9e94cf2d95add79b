import Mathlib.Data.List.Induction
import Mathlib.Data.List.Nodup

/-! Lists without repetitions. Requests, databases and tables all keep the order in which a name
first appears, so what one more element does to such a list is used throughout.
-/

namespace DumpTransfer.Repeats

variable {α : Type} [BEq α] [LawfulBEq α]

/-- One more element joins the list at its end, unless it is there already. -/
theorem eraseDups_concat (items : List α) (item : α)
    : (items ++ [item]).eraseDups
      = if item ∈ items then items.eraseDups else items.eraseDups ++ [item] := by
  rw [List.eraseDups_append, List.removeAll]
  by_cases known : item ∈ items
  · simp [known]
  · simp [known, List.eraseDups_cons]

/-- Nothing is left twice. Witness: each element in turn is either known or new. -/
theorem nodup_eraseDups (items : List α)
    : items.eraseDups.Nodup := by
  induction items using List.reverseRecOn with
  | nil => simp
  | append_singleton items item ih =>
      rw [eraseDups_concat]
      split
      · exact ih
      · rename_i fresh
        rw [← List.concat_eq_append]
        exact ih.concat (fun member => fresh (List.mem_eraseDups.mp member))

end DumpTransfer.Repeats
