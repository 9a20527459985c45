import Mathlib.Logic.Basic
import FeatureGate.Proofs.Store.Rows

/-!
# Which rows a call is about

A call of the store in memory reads some rows and writes some. What it answers
depends on the rows it reads only, what it leaves in a row depends on that row
only, and the rows it does not write are left as they were. So rows that agree
wherever a call reads give the same answer, and rows that agree somewhere agree
there after the call too.
-/

namespace FeatureGate.Store

/-- **The rows that a call reads.** -/
def Call.Reads : Call → Address → Prop
  | .get feature key, address | .insert feature key _, address => address = ⟨feature, key⟩
  | .getMany pairs, address => (address.feature, address.key) ∈ pairs
  | .listStored, _ => True
  | _, _ => False

/-- **The rows that a call may write** or remove. -/
def Call.Writes : Call → Address → Prop
  | .insert feature key _, address | .set feature key _, address
  | .delete feature key, address => address = ⟨feature, key⟩
  | .setForAll feature _, address => address.feature = feature
  | .purge none, _ => True
  | .purge (some features), address => address.feature ∈ features
  | _, _ => False

/-- **What a call leaves in a row**, told from what was there. -/
def Call.leaves (feature key : String) : Call → Option Payload → Option Payload
  | .insert f k value, row => if f = feature ∧ k = key then row.or (some value) else row
  | .set f k value, row => if f = feature ∧ k = key then some value else row
  | .setForAll f value, row => row.map fun old => if feature = f then value else old
  | .delete f k, row => if f = feature ∧ k = key then none else row
  | .purge none, _ => none
  | .purge (some features), row => if feature ∈ features then none else row
  | _, row => row

namespace Call

variable {call : Call} {feature key : String}

theorem leaves_of_not_writes (h : ¬ call.Writes ⟨feature, key⟩) (row : Option Payload) :
    call.leaves feature key row = row := by
  have hother : ∀ {f k : String}, ¬ (⟨feature, key⟩ : Address) = ⟨f, k⟩ →
      ¬ (f = feature ∧ k = key) := by
    rintro f k hne ⟨rfl, rfl⟩
    exact hne rfl
  cases call with
  | get | getMany | listStored => rfl
  | insert | set | delete => exact if_neg (hother h)
  | setForAll f value =>
    have hf : feature ≠ f := h
    simp [leaves, hf]
  | purge features =>
    cases features with
    | none => exact absurd trivial h
    | some names => exact if_neg h

theorem leaves_none (hinsert : ∀ value, call ≠ .insert feature key value)
    (hset : ∀ value, call ≠ .set feature key value) : call.leaves feature key none = none := by
  cases call with
  | get | getMany | listStored | setForAll => rfl
  | insert f k value =>
    refine if_neg ?_
    rintro ⟨rfl, rfl⟩
    exact hinsert value rfl
  | set f k value =>
    refine if_neg ?_
    rintro ⟨rfl, rfl⟩
    exact hset value rfl
  | delete => exact ite_self none
  | purge features =>
    cases features with
    | none => rfl
    | some names => exact ite_self none

end Call

namespace Rows

/-- **Rows that agree** at some addresses. -/
def Agree (region : Address → Prop) (rows rows' : Rows) : Prop :=
  ∀ feature key, region ⟨feature, key⟩ → rows.get? feature key = rows'.get? feature key

variable {rows rows' : Rows}

theorem eq_of_agree (h : Agree (fun _ => True) rows rows') : rows = rows' :=
  Std.ExtTreeMap.ext_getElem? fun address => h address.feature address.key trivial

/-- **What a call answers** depends on the rows that it reads. -/
theorem Agree.answer_eq {call : Call} (h : Agree call.Reads rows rows') :
    (rows.answer call).1 = (rows'.answer call).1 := by
  cases call with
  | get feature key => exact congrArg Except.ok (h feature key rfl)
  | getMany pairs =>
    exact congrArg Except.ok (List.map_congr_left fun pair hpair => h pair.1 pair.2 hpair)
  | insert feature key value =>
    have hrow := h feature key rfl
    unfold answer
    dsimp only
    rw [hrow]
    split <;> rfl
  | listStored => rw [eq_of_agree h]
  | set feature key value => rfl
  | setForAll feature value => rfl
  | delete feature key => rfl
  | purge features => rfl

/-- **What a call leaves in a row** depends on that row only. -/
theorem get?_answer (rows : Rows) (call : Call) (feature key : String) :
    (rows.answer call).2.get? feature key = call.leaves feature key (rows.get? feature key) := by
  cases call with
  | get | getMany | listStored => rfl
  | insert f k value =>
    unfold answer Call.leaves
    dsimp only
    by_cases hat : f = feature ∧ k = key
    · obtain ⟨rfl, rfl⟩ := hat
      cases hrow : rows.get? f k <;> simp [get?_insert, hrow]
    · rw [if_neg hat]
      split
      · rfl
      · rw [get?_insert, if_neg hat]
  | set f k value => exact get?_insert ..
  | delete f k => exact get?_erase ..
  | setForAll f value => exact get?_setForAll ..
  | purge features =>
    cases features with
    | none => exact rows.get?_purge_none feature key
    | some names => exact get?_purge_some ..

/-- A row that a call does not write is left as it was. -/
theorem get?_answer_of_not_writes {call : Call} {feature key : String}
    (h : ¬ call.Writes ⟨feature, key⟩) :
    (rows.answer call).2.get? feature key = rows.get? feature key := by
  rw [get?_answer, Call.leaves_of_not_writes h]

/-- **No row appears** but by a call that writes one: overwriting the values of all contexts, too,
is about rows that there are. -/
theorem get?_answer_eq_none {call : Call} {feature key : String}
    (hnone : rows.get? feature key = none) (hinsert : ∀ value, call ≠ .insert feature key value)
    (hset : ∀ value, call ≠ .set feature key value) :
    (rows.answer call).2.get? feature key = none := by
  rw [get?_answer, hnone, Call.leaves_none hinsert hset]

/-- A row that is the same is the same after a call. -/
theorem get?_answer_congr {feature key : String}
    (h : rows.get? feature key = rows'.get? feature key) (call : Call) :
    (rows.answer call).2.get? feature key = (rows'.answer call).2.get? feature key := by
  rw [get?_answer, get?_answer, h]

/-- **Rows that agree** agree after a call. -/
theorem Agree.answer {region : Address → Prop} (h : Agree region rows rows') (call : Call) :
    Agree region (rows.answer call).2 (rows'.answer call).2 :=
  fun feature key hat => get?_answer_congr (h feature key hat) call

end Rows

end FeatureGate.Store
