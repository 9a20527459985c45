import FeatureGate.Error
import FeatureGate.Redis.Glob
import FeatureGate.Redis.Server

/-!
# What keys hold

A store asks a server for the fields of hashes only, so what a key holds is a hash, which is
empty if there is no such key, or a plain text, whatever it is (`View`). This is coarser
than the contents of a server, where an empty hash is no entry at all, and it is what every
change of the contents can be told by: they are changes of views.
-/

namespace FeatureGate.Redis

/-- The fields of a hash. -/
abbrev Fields := Std.ExtTreeMap String String

/-- **What keys hold**: the fields of a hash, which is empty if there is no such key; none
for a plain text. -/
abbrev View := String → Option Fields

namespace View

/-- There are no keys. -/
def empty : View := fun _ => some ∅

/-- A key holds a hash. -/
def put (view : View) (key : String) (fields : Fields) : View :=
  fun other => if other = key then some fields else view other

/-- Keys are gone. -/
def remove (view : View) (keys : List String) : View :=
  fun other => if other ∈ keys then some ∅ else view other

/-- Keys are gone that match a pattern. -/
def sweep (view : View) (pattern : String) : View :=
  fun other => if globMatches pattern other then some ∅ else view other

/-- What a read of a field is answered. -/
def field (view : View) (key field : String) : Except String (Option String) :=
  match view key with
  | some fields => .ok fields[field]?
  | none => .error wrongType

/-- Change the hash of a key, if it holds one. -/
def change (view : View) (key : String) (f : Fields → Fields) : Except StoreError Unit × View :=
  match view key with
  | some fields => (.ok (), view.put key (f fields))
  | none => (.error (.server wrongType), view)

variable {view view' : View} {key other : String}

theorem empty_apply (key : String) : empty key = some ∅ := rfl

theorem put_self (view : View) (key : String) (fields : Fields) :
    view.put key fields key = some fields :=
  if_pos rfl

/-- Nothing is read from a key that was swept. -/
theorem field_sweep {pattern : String} (hmatch : globMatches pattern key = true)
    (view : View) (field : String) : (view.sweep pattern).field key field = .ok none := by
  unfold View.field sweep
  rw [if_pos hmatch]
  rfl

theorem field_congr (h : view key = view' key) (field : String) :
    view.field key field = view'.field key field := by
  unfold View.field
  rw [h]

theorem put_congr (h : view other = view' other) (key : String) (fields : Fields) :
    view.put key fields other = view'.put key fields other := by
  unfold put
  rw [h]

theorem put_of_ne (h : other ≠ key) (view : View) (fields : Fields) :
    view.put key fields other = view other :=
  if_neg h

theorem change_of_ne (h : other ≠ key) (view : View) (f : Fields → Fields) :
    (view.change key f).2 other = view other := by
  unfold change
  cases view key with
  | none => rfl
  | some fields => exact put_of_ne h view (f fields)

end View

/-! ## Contents -/

namespace Contents

variable (contents : Contents)

/-- Change the hash of a key, if it holds one. -/
def change (key : String) (f : Fields → Fields) : Except String Unit × Contents :=
  match contents.fields? key with
  | some fields => (.ok (), contents.put key (f fields))
  | none => (.error wrongType, contents)

theorem fields?_erase (key : String) :
    fields? (contents.erase key) = View.remove contents.fields? [key] := by
  funext other
  by_cases hkey : key = other
  · simp [fields?, View.remove, hkey]
  · simp [fields?, View.remove, Std.ExtTreeMap.getElem?_erase, hkey, Ne.symm hkey]

theorem fields?_put (key : String) (fields : Fields) :
    (contents.put key fields).fields? = View.put contents.fields? key fields := by
  funext other
  unfold put
  split
  · rename_i hempty
    obtain rfl := Std.ExtTreeMap.isEmpty_iff.mp hempty
    rw [fields?_erase]
    simp [View.remove, View.put]
  · by_cases hkey : key = other
    · simp [fields?, View.put, hkey, Entry.fields?]
    · simp [fields?, View.put, Std.ExtTreeMap.getElem?_insert, hkey, Ne.symm hkey]

theorem fields?_foldl_erase (keys : List String) :
    fields? (keys.foldl (fun contents key => contents.erase key) contents)
      = View.remove contents.fields? keys := by
  induction keys generalizing contents with
  | nil => rfl
  | cons key keys ih =>
    funext other
    rw [List.foldl_cons, ih, fields?_erase]
    by_cases hkeys : other ∈ keys <;> simp [View.remove, hkeys]

/-- The keys of a complete cycle that are removed are swept. -/
theorem remove_eq_sweep {pattern : String} {keys : List String}
    (hkeys : ∀ key, key ∈ keys ↔ key ∈ contents.keys ∧ globMatches pattern key = true) :
    View.remove contents.fields? keys = View.sweep contents.fields? pattern := by
  funext key
  unfold View.sweep View.remove
  by_cases hmatch : globMatches pattern key = true
  · rw [if_pos hmatch]
    split
    · rfl
    · -- a key that matches and was not listed is not there
      rename_i hlisted
      have hnone : key ∉ contents := fun hmem =>
        hlisted ((hkeys key).mpr ⟨Std.ExtTreeMap.mem_keys.mpr hmem, hmatch⟩)
      unfold fields?
      rw [Std.ExtTreeMap.getElem?_eq_none hnone]
  · rw [if_neg hmatch, if_neg fun h => hmatch ((hkeys key).mp h).2]

end Contents

/-- **A server shows a view**: it refuses nothing out of turn, and its keys hold what is
seen. -/
structure Server.Shows (server : Server) (view : View) : Prop where
  /-- No errors are lined up. -/
  ready : server.errors = []
  /-- The keys hold what is seen. -/
  holds : server.contents.fields? = view

end FeatureGate.Redis
