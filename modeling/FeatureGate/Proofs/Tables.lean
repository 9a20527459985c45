import Mathlib.Data.Set.Card

/-!
# What finite maps list

A finite map lists the values of its entries in the order of their keys, and lists every key
once. So how many things there are of some kind – rows of a feature, entries of a cache –
is the length of a list of them in which nothing is repeated.
-/

namespace FeatureGate.Tables

/-- **The values are those of the entries**, in the same order. -/
theorem values_eq_map_toList {α β : Type} {cmp : α → α → Ordering} [Std.TransCmp cmp]
    (map : Std.ExtTreeMap α β cmp) : map.values = map.toList.map (·.2) := by
  obtain ⟨⟨q⟩⟩ := map
  obtain ⟨tree, rfl⟩ := Quotient.exists_rep q
  show tree.inner.values = (Std.DTreeMap.Internal.Impl.Const.toList tree.inner).map (·.2)
  rw [Std.DTreeMap.Internal.Impl.values_eq_map_snd,
    Std.DTreeMap.Internal.Impl.Const.toList_eq_toListModel_map, List.map_map]
  rfl

/-- **Things are counted by listing them**, if nothing is listed twice. -/
theorem encard_eq_length {α : Type} {l : List α} {p : α → Prop} (hnodup : l.Nodup)
    (hmem : ∀ a, a ∈ l ↔ p a) : {a | p a}.encard = l.length := by
  classical
  have hset : (l.toFinset : Set α) = {a | p a} := by
    rw [List.coe_toFinset]
    simp only [hmem]
  rw [← hset, Set.encard_coe_eq_coe_finsetCard, List.toFinset_card_of_nodup hnodup]

end FeatureGate.Tables
