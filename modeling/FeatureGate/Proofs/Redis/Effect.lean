import FeatureGate.Proofs.Redis.View
import FeatureGate.Redis.Store

/-!
# What a call comes to

The answer to a call of the store, and what it changes, as it can be told from what the keys
hold (`Connection.effect`). The answer depends on the keys of the store's own features
(`Agree.effect`); what is changed may be more, since a purge of everything goes by a pattern
(`effect_of_not_touches`).
-/

namespace FeatureGate.Redis

theorem decodeField_some {raw : String} {payload : Payload} (h : decode raw = .ok payload) :
    decodeField (.ok (some raw)) = .ok (some payload) :=
  congrArg (Except.map some) h

namespace Connection

variable (connection : Connection)

/-- **What a call of the store comes to**, told from what the keys hold: its answer, and
what they hold then. -/
def effect (view : View) : (call : Store.Call) → call.Reply × View
  | .get feature key => (decodeField (view.field (connection.key feature) key), view)
  | .getMany pairs =>
    ((pairs.map fun pair => view.field (connection.key pair.1) pair.2).mapM decodeField, view)
  | .insert feature key value =>
    match view (connection.key feature) with
    | some fields =>
      if fields.contains key then (.error (.conflict feature key), view)
      else (.ok (), view.put (connection.key feature) (fields.insert key (encode value)))
    | none => (.error (.server wrongType), view)
  | .set feature key value =>
    view.change (connection.key feature) (·.insert key (encode value))
  | .setForAll feature value =>
    view.change (connection.key feature) (·.map fun _ _ => encode value)
  | .delete feature key => view.change (connection.key feature) (·.erase key)
  | .purge (some features) => (.ok (), view.remove (features.map connection.key))
  | .purge none => (.ok (), view.sweep connection.pattern)
  | .listStored => (.error (.unsupported "list_stored" "redis"), view)

/-- **The keys that a store may change**: those of its features, and those that match its
pattern. -/
def Touches (key : String) : Prop :=
  (∃ feature, key = connection.key feature) ∨ globMatches connection.pattern key = true

/-- **Views that agree** for a store: the keys of its features hold the same. -/
def Agree (view view' : View) : Prop :=
  ∀ feature, view (connection.key feature) = view' (connection.key feature)

variable {connection} {view view' : View}

/-- **A key that a store may not change** holds what it held. -/
theorem effect_of_not_touches {key : String} (h : ¬ connection.Touches key)
    (call : Store.Call) : (connection.effect view call).2 key = view key := by
  obtain ⟨hown, hmatch⟩ := not_or.mp h
  have hne : ∀ feature, key ≠ connection.key feature := not_exists.mp hown
  cases call with
  | get | getMany | listStored => rfl
  | insert feature k value =>
    unfold effect
    dsimp only
    cases view (connection.key feature) with
    | none => rfl
    | some fields =>
      dsimp only
      split
      · rfl
      · exact View.put_of_ne (hne feature) view _
  | set feature | setForAll feature | delete feature =>
    exact View.change_of_ne (hne feature) view _
  | purge features =>
    cases features with
    | none => exact if_neg hmatch
    | some names =>
      refine if_neg fun hmem => ?_
      obtain ⟨feature, -, hkey⟩ := List.mem_map.mp hmem
      exact hne feature hkey.symm

/-- A row that is written can be read. -/
theorem decodeField_effect_set (connection : Connection) (feature key : String)
    (value : Payload) {fields : Fields} (hview : view (connection.key feature) = some fields)
    (hreadable : decode (encode value) = .ok value) :
    decodeField ((connection.effect view (.set feature key value)).2.field
      (connection.key feature) key) = .ok (some value) := by
  unfold effect View.change
  dsimp only
  rw [hview]
  dsimp only
  unfold View.field
  rw [View.put_self]
  dsimp only
  rw [Std.ExtTreeMap.getElem?_insert_self, decodeField_some hreadable]

namespace Agree

theorem put (h : connection.Agree view view') (key : String) (fields : Fields) :
    connection.Agree (view.put key fields) (view'.put key fields) :=
  fun feature => View.put_congr (h feature) key fields

theorem change (h : connection.Agree view view') (feature : String) (f : Fields → Fields) :
    (view.change (connection.key feature) f).1 = (view'.change (connection.key feature) f).1
      ∧ connection.Agree (view.change (connection.key feature) f).2
        (view'.change (connection.key feature) f).2 := by
  unfold View.change
  rw [h feature]
  cases view' (connection.key feature) with
  | none => exact ⟨rfl, h⟩
  | some fields => exact ⟨rfl, h.put _ _⟩

/-- **A call** is answered the same in views that agree, and these agree afterwards. -/
theorem effect (h : connection.Agree view view') (call : Store.Call) :
    (connection.effect view call).1 = (connection.effect view' call).1
      ∧ connection.Agree (connection.effect view call).2 (connection.effect view' call).2 := by
  cases call with
  | get feature key => exact ⟨congrArg decodeField (View.field_congr (h feature) key), h⟩
  | getMany pairs =>
    have hfields : (pairs.map fun pair => view.field (connection.key pair.1) pair.2)
        = pairs.map fun pair => view'.field (connection.key pair.1) pair.2 :=
      List.map_congr_left fun pair _ => View.field_congr (h pair.1) pair.2
    exact ⟨congrArg (·.mapM decodeField) hfields, h⟩
  | insert feature key value =>
    unfold Connection.effect
    dsimp only
    rw [h feature]
    cases view' (connection.key feature) with
    | none => exact ⟨rfl, h⟩
    | some fields =>
      dsimp only
      split
      · exact ⟨rfl, h⟩
      · exact ⟨rfl, h.put _ _⟩
  | set feature | setForAll feature | delete feature => exact h.change feature _
  | purge features =>
    cases features with
    | none =>
      refine ⟨rfl, fun feature => ?_⟩
      show View.sweep view _ _ = View.sweep view' _ _
      unfold View.sweep
      rw [h feature]
    | some names =>
      refine ⟨rfl, fun feature => ?_⟩
      show View.remove view _ _ = View.remove view' _ _
      unfold View.remove
      rw [h feature]
  | listStored => exact ⟨rfl, h⟩

end Agree

end Connection

end FeatureGate.Redis
