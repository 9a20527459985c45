import Mathlib.Data.List.DropRight
import FeatureGate.Text.Blank

/-!
# Trimmed texts

What is left of a text once the blanks at its end are cut off, or those at both ends. A text
that is put together from two is trimmed by its second part, unless nothing is left of that
(`Text.trimEnd_append_of_ne`). Nothing is left of a whole text just if it is blank
(`Text.trim_eq_empty_iff`), so a blank name is told without trimming it.
-/

namespace FeatureGate.Text

/-! ## Trimming the end -/

theorem toList_trimEnd (s : String) : (trimEnd s).toList = s.toList.rdropWhile isBlank := by
  simp [trimEnd, List.rdropWhile]

theorem prefix_trimEnd (s : String) : (trimEnd s).toList <+: s.toList := by
  rw [toList_trimEnd]
  exact List.rdropWhile_prefix isBlank s.toList

theorem trimEnd_trimEnd (s : String) : trimEnd (trimEnd s) = trimEnd s := by
  rw [← String.toList_inj, toList_trimEnd, toList_trimEnd, List.rdropWhile_idempotent]

/-- **Only the second of two texts is trimmed**, unless nothing is left of it. -/
theorem rdropWhile_append (a b : List Char) :
    (a ++ b).rdropWhile isBlank
      = if b.rdropWhile isBlank = [] then a.rdropWhile isBlank
        else a ++ b.rdropWhile isBlank := by
  simp only [List.rdropWhile, List.reverse_append, List.dropWhile_append, List.isEmpty_iff,
    List.reverse_eq_nil_iff]
  split
  · rfl
  · rw [List.reverse_append, List.reverse_reverse]

/-- A text may be trimmed before it is put behind another one that is trimmed with it. -/
theorem trimEnd_append_trimEnd (s t : String) : trimEnd (s ++ trimEnd t) = trimEnd (s ++ t) := by
  rw [← String.toList_inj]
  simp only [toList_trimEnd, String.toList_append, rdropWhile_append, List.rdropWhile_idempotent]

/-- A text that ends in something is trimmed just if its end is. -/
theorem trimEnd_append_of_ne {t : String} (s : String) (ht : trimEnd t ≠ "") :
    trimEnd (s ++ t) = s ++ trimEnd t := by
  have hne : t.toList.rdropWhile isBlank ≠ [] := fun hnil =>
    ht (String.toList_inj.mp ((toList_trimEnd t).trans hnil))
  rw [← String.toList_inj]
  simp only [toList_trimEnd, String.toList_append, rdropWhile_append, if_neg hne]

/-! ## Trimming both ends -/

/-- **Trimming leaves nothing** of a text exactly if every character is blank. -/
theorem trim_eq_empty_iff (s : String) : trim s = "" ↔ isBlankText s = true := by
  have hlist : (trim s).toList = (s.toList.dropWhile isBlank).rdropWhile isBlank := by
    rw [trim, toList_trimEnd, String.toList_ofList]
  calc trim s = ""
      ↔ (s.toList.dropWhile isBlank).rdropWhile isBlank = [] := by
        rw [← String.toList_inj, hlist, String.toList_empty]
    _ ↔ s.toList.dropWhile isBlank = [] := by
        rw [List.rdropWhile_eq_nil_iff, ← List.dropWhile_eq_nil_iff, List.dropWhile_idempotent]
    _ ↔ isBlankText s = true := by
        rw [List.dropWhile_eq_nil_iff, isBlankText, List.all_eq_true]

end FeatureGate.Text
