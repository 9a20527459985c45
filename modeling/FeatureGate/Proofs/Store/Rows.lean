import FeatureGate.Store.Memory

/-!
# What calls do to rows

Each call of the store in memory, seen through the look-up of a row. A call
about one address leaves all other rows alone, one about a feature all rows of
other features. The one call that can fail is a first write, which never touches
a row that exists.
-/

namespace FeatureGate.Store

/-! ## Maps by address -/

namespace Address

variable {β : Type} (map : Std.ExtTreeMap Address β)

theorem getElem?_insert (f k : String) (value : β) (feature key : String) :
    (map.insert ⟨f, k⟩ value)[mk feature key]?
      = if f = feature ∧ k = key then some value else map[mk feature key]? := by
  rw [Std.ExtTreeMap.getElem?_insert]
  simp only [Std.LawfulEqCmp.compare_eq_iff_eq, mk.injEq]

theorem getElem?_erase (f k feature key : String) :
    (map.erase ⟨f, k⟩)[mk feature key]?
      = if f = feature ∧ k = key then none else map[mk feature key]? := by
  rw [Std.ExtTreeMap.getElem?_erase]
  simp only [Std.LawfulEqCmp.compare_eq_iff_eq, mk.injEq]

end Address

/-! ## Rows -/

namespace Rows

variable (rows : Rows)

theorem address_inj {f k feature key : String} :
    Address.mk f k = ⟨feature, key⟩ ↔ f = feature ∧ k = key := by
  simp

@[simp] theorem get?_empty (feature key : String) : get? ∅ feature key = none := by
  simp [get?]

theorem get?_insert (f k : String) (value : Payload) (feature key : String) :
    get? (rows.insert ⟨f, k⟩ value) feature key
      = if f = feature ∧ k = key then some value else get? rows feature key :=
  Address.getElem?_insert rows f k value feature key

theorem get?_erase (f k feature key : String) :
    get? (rows.erase ⟨f, k⟩) feature key
      = if f = feature ∧ k = key then none else get? rows feature key :=
  Address.getElem?_erase rows f k feature key

theorem get?_setForAll (f : String) (value : Payload) (feature key : String) :
    (rows.setForAll f value).get? feature key
      = (rows.get? feature key).map fun old => if feature = f then value else old := by
  simp [get?, setForAll, Std.ExtTreeMap.getElem?_map]

theorem get?_purge_some (names : List String) (feature key : String) :
    (rows.purge (some names)).get? feature key
      = if feature ∈ names then none else rows.get? feature key := by
  unfold get? purge
  rw [Std.ExtTreeMap.getElem?_filter']
  by_cases h : feature ∈ names <;> cases rows[Address.mk feature key]? <;> simp [h]

@[simp] theorem get?_purge_none (feature key : String) :
    (rows.purge none).get? feature key = none :=
  get?_empty feature key

/-- A first write writes if there is no row yet. -/
theorem answer_insert_of_none {rows : Rows} {feature key : String}
    (h : rows.get? feature key = none) (value : Payload) :
    rows.answer (.insert feature key value)
      = (.ok (), rows.insert ⟨feature, key⟩ value) := by
  simp [answer, h]

/-- A first write that meets a row fails, and leaves the rows as they were. -/
theorem answer_insert_of_some {rows : Rows} {feature key : String} {payload : Payload}
    (h : rows.get? feature key = some payload) (value : Payload) :
    rows.answer (.insert feature key value) = (.error (.conflict feature key), rows) := by
  simp [answer, h]

end Rows

end FeatureGate.Store
