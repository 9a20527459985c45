import FeatureGate.Proofs.Interference
import FeatureGate.Proofs.Redis.Conversation
import FeatureGate.Proofs.Redis.Glob
import FeatureGate.Proofs.Store.Footprint

/-!
# A server answers as memory does

The store on a server keeps a row as a field of the hash of its feature, and a hash goes
with its last field; the store in memory keeps rows under addresses. Both answer the same
to any sequence of calls (`Connection.exchanges_eq_memory`), where only the listing of
features is left out, which the one does not support.

Others may use the server too, as long as they leave the keys alone that belong to the
prefix. The prefix has to be plain, since a purge of everything uses it in a pattern.

The two are compared by what they keep (`Connection.Keeps`): for every feature a hash whose
fields read back are the rows of the feature. That each call preserves this, and is
answered the same, is all there is to it (`Keeps.effect`).
-/

namespace FeatureGate

/-- **What came of calls** of a store, one after another. -/
def Store.exchanges {σ : Type} (store : Store (StateM σ)) :
    List Store.Call → σ → List (Exchange Store.interface)
  | [], _ => []
  | call :: rest, s =>
    let replied := (store.call call).run s
    ⟨call, replied.1⟩ :: exchanges store rest replied.2

/-- The payload that a call writes. -/
def Store.Call.payload? : Store.Call → Option Payload
  | .insert _ _ value | .set _ _ value | .setForAll _ value => some value
  | _ => none

namespace Redis

open Store (Rows)

/-! ## Hashes of rows -/

/-- **A hash holds the rows of a feature**: its fields, read back, are the rows. -/
def HoldsRows (fields : Fields) (rows : Rows) (feature : String) : Prop :=
  ∀ key, fields[key]?.map decode = (rows.get? feature key).map .ok

namespace HoldsRows

variable {fields : Fields} {rows rows' : Rows} {feature : String} {value : Payload}

theorem empty (feature : String) : HoldsRows ∅ ∅ feature := by
  intro key
  rw [Rows.get?_empty]
  rfl

/-- There is a field where there is a row. -/
theorem contains_eq (h : HoldsRows fields rows feature) (key : String) :
    fields.contains key = (rows.get? feature key).isSome := by
  rw [Std.ExtTreeMap.contains_eq_isSome_getElem?, ← Option.isSome_map, h key, Option.isSome_map]

/-- The rows of a feature are all that matters. -/
theorem congr (h : HoldsRows fields rows feature)
    (hrows : ∀ key, rows'.get? feature key = rows.get? feature key) :
    HoldsRows fields rows' feature := by
  intro key
  rw [hrows key]
  exact h key

theorem insert (h : HoldsRows fields rows feature)
    (hreadable : decode (encode value) = .ok value) (key : String) :
    HoldsRows (fields.insert key (encode value)) (rows.insert ⟨feature, key⟩ value) feature := by
  intro other
  rw [Std.ExtTreeMap.getElem?_insert, Rows.get?_insert]
  simp only [Std.LawfulEqCmp.compare_eq_iff_eq, true_and]
  split
  · exact congrArg some hreadable
  · exact h other

theorem erase (h : HoldsRows fields rows feature) (key : String) :
    HoldsRows (fields.erase key) (rows.erase ⟨feature, key⟩) feature := by
  intro other
  rw [Std.ExtTreeMap.getElem?_erase, Rows.get?_erase]
  simp only [Std.LawfulEqCmp.compare_eq_iff_eq, true_and]
  split
  · rfl
  · exact h other

/-- Overwriting every field is overwriting every row. -/
theorem setForAll (h : HoldsRows fields rows feature)
    (hreadable : decode (encode value) = .ok value) :
    HoldsRows (fields.map fun _ _ => encode value) (rows.setForAll feature value) feature := by
  intro key
  calc (fields.map fun _ _ => encode value)[key]?.map decode
      = (fields[key]?.map decode).map fun _ => decode (encode value) := by
        rw [Std.ExtTreeMap.getElem?_map, Option.map_map, Option.map_map]
        rfl
    _ = ((rows.get? feature key).map fun _ => value).map .ok := by
        rw [h key, hreadable, Option.map_map, Option.map_map]
        rfl
    _ = ((rows.setForAll feature value).get? feature key).map .ok := by
        rw [Rows.get?_setForAll]
        simp only [if_pos]

/-- **A read of a field** is a read of the row. -/
theorem decodeField_getElem? (h : HoldsRows fields rows feature) (key : String) :
    decodeField (.ok fields[key]?) = .ok (rows.get? feature key) := by
  have hfield := h key
  cases hrow : rows.get? feature key with
  | none =>
    rw [hrow, Option.map_none, Option.map_eq_none_iff] at hfield
    rw [hfield]
    rfl
  | some payload =>
    rw [hrow, Option.map_some, Option.map_eq_some_iff] at hfield
    obtain ⟨raw, hraw, hdecode⟩ := hfield
    rw [hraw, decodeField_some hdecode]

end HoldsRows

/-! ## Turns -/

namespace Connection

variable (connection : Connection)

/-- **A turn of a store**: what others make of the server before it, how the server lists
its keys then, and what is called. -/
structure Turn where
  /-- What others make of the server. -/
  meanwhile : Server → Server
  /-- How the server lists its keys. -/
  listing : Listing
  /-- What is called. -/
  call : Store.Call

/-- **What came of turns**, one after another. -/
def exchanges : List Turn → Server → List (Exchange Store.interface)
  | [], _ => []
  | turn :: rest, server =>
    let replied := ((connection.store (Server.answer turn.listing)).call turn.call).run
      (turn.meanwhile server)
    ⟨turn.call, replied.1⟩ :: exchanges rest replied.2

/-- **A turn on a server that works**, and where others keep away from the keys under the
prefix. -/
structure Turn.Orderly (turn : Turn) : Prop where
  /-- No errors are lined up. -/
  ready (server : Server) : server.errors = [] → (turn.meanwhile server).errors = []
  /-- The keys under the prefix are left alone. -/
  discreet (server : Server) (feature : String) :
    (turn.meanwhile server).contents[connection.key feature]?
      = server.contents[connection.key feature]?
  /-- A listing of keys ends, with all that match. -/
  complete : turn.listing.IsComplete
  /-- The call is supported. -/
  supported : turn.call ≠ .listStored
  /-- A payload that is written can be read back. -/
  readable (payload : Payload) :
    turn.call.payload? = some payload → decode (encode payload) = .ok payload

/-- **Rows kept as hashes**: for each feature there is a hash, which holds its rows. -/
def Keeps (rows : Rows) (view : View) : Prop :=
  ∀ feature, ∃ fields, view (connection.key feature) = some fields
    ∧ HoldsRows fields rows feature

variable {connection}

theorem key_inj {feature other : String} :
    connection.key feature = connection.key other ↔ feature = other := by
  unfold key
  rw [← String.toList_inj, ← String.toList_inj]
  simp

/-- A plain prefix has a pattern that every key of a feature matches. -/
theorem globMatches_key (hplain : IsPlain connection.keyPrefix) (feature : String) :
    globMatches connection.pattern (connection.key feature) = true :=
  (globMatches_iff_of_plain hplain _).mpr ⟨feature, rfl⟩

namespace Keeps

variable {rows rows' : Rows} {view view' : View} {feature : String} {server : Server}

/-- No rows are kept where there are no keys. -/
theorem of_fresh {contents : Contents}
    (hfresh : ∀ feature, contents[connection.key feature]? = none) :
    connection.Keeps ∅ contents.fields? := by
  intro feature
  refine ⟨∅, ?_, HoldsRows.empty feature⟩
  unfold Contents.fields?
  rw [hfresh feature]

/-- The keys under the prefix are all that matters. -/
theorem congr (h : connection.Keeps rows view) (hview : connection.Agree view' view) :
    connection.Keeps rows view' := by
  intro feature
  rw [hview feature]
  exact h feature

/-! ### Reads -/

/-- **A read of a field** is a read of the row. -/
theorem decodeField_field (h : connection.Keeps rows view) (feature key : String) :
    decodeField (view.field (connection.key feature) key) = .ok (rows.get? feature key) := by
  obtain ⟨fields, hview, hfields⟩ := h feature
  unfold View.field
  rw [hview]
  exact hfields.decodeField_getElem? key

/-- **Reads of many fields** are reads of the rows, in their order. -/
theorem mapM_decodeField (h : connection.Keeps rows view) (pairs : List (String × String)) :
    (pairs.map fun pair => view.field (connection.key pair.1) pair.2).mapM decodeField
      = .ok (pairs.map fun pair => rows.get? pair.1 pair.2) := by
  have hread : (decodeField ∘ fun pair : String × String =>
      view.field (connection.key pair.1) pair.2)
        = fun pair => pure (rows.get? pair.1 pair.2) := by
    funext pair
    exact h.decodeField_field pair.1 pair.2
  rw [List.mapM_map, hread, List.mapM_pure]
  rfl

/-! ### Writes -/

/-- **A write of one hash** keeps up with one of the rows of its feature. -/
theorem put (h : connection.Keeps rows view) {fields : Fields}
    (hfields : HoldsRows fields rows' feature)
    (hothers : ∀ other ≠ feature, ∀ key, rows'.get? other key = rows.get? other key) :
    connection.Keeps rows' (view.put (connection.key feature) fields) := by
  intro other
  by_cases hother : other = feature
  · subst hother
    exact ⟨fields, View.put_self .., hfields⟩
  · obtain ⟨fields', hview, hfields'⟩ := h other
    refine ⟨fields', ?_, hfields'.congr (hothers other hother)⟩
    rw [View.put_of_ne (mt key_inj.mp hother), hview]

/-- **A change of a hash** succeeds, and keeps up with one of the rows of its feature. -/
theorem change (h : connection.Keeps rows view) {f : Fields → Fields}
    (hfields : ∀ {fields}, HoldsRows fields rows feature → HoldsRows (f fields) rows' feature)
    (hothers : ∀ other ≠ feature, ∀ key, rows'.get? other key = rows.get? other key) :
    (view.change (connection.key feature) f).1 = .ok ()
      ∧ connection.Keeps rows' (view.change (connection.key feature) f).2 := by
  obtain ⟨fields, hview, hrows⟩ := h feature
  unfold View.change
  rw [hview]
  exact ⟨rfl, h.put (hfields hrows) hothers⟩

/-- **A purge of features** keeps up with that of their rows. -/
theorem remove (h : connection.Keeps rows view) (features : List String) :
    connection.Keeps (rows.purge (some features))
      (view.remove (features.map connection.key)) := by
  intro feature
  have hmem : connection.key feature ∈ features.map connection.key ↔ feature ∈ features :=
    List.mem_map_of_injective fun _ _ => key_inj.mp
  unfold View.remove
  by_cases hfeature : feature ∈ features
  · refine ⟨∅, if_pos (hmem.mpr hfeature), fun key => ?_⟩
    rw [Rows.get?_purge_some, if_pos hfeature]
    rfl
  · obtain ⟨fields, hview, hfields⟩ := h feature
    refine ⟨fields, by rw [if_neg (mt hmem.mp hfeature), hview], hfields.congr fun key => ?_⟩
    rw [Rows.get?_purge_some, if_neg hfeature]

/-- **A purge of everything** keeps up with that of all rows, if the prefix is plain. -/
theorem sweep (rows : Rows) (view : View) (hplain : IsPlain connection.keyPrefix) :
    connection.Keeps (rows.purge none) (view.sweep connection.pattern) := by
  intro feature
  exact ⟨∅, if_pos (globMatches_key hplain feature), HoldsRows.empty feature⟩

/-! ### Calls and turns -/

/-- **A call** is answered as in memory, and what is kept keeps up. -/
theorem effect (h : connection.Keeps rows view) (hplain : IsPlain connection.keyPrefix)
    {call : Store.Call} (hsupported : call ≠ .listStored)
    (hreadable : ∀ payload, call.payload? = some payload →
      decode (encode payload) = .ok payload) :
    (connection.effect view call).1 = (rows.answer call).1
      ∧ connection.Keeps (rows.answer call).2 (connection.effect view call).2 := by
  -- a call about one feature leaves the rows of others alone
  have hothers : ∀ (call : Store.Call) (feature : String),
      (∀ address, call.Writes address → address.feature = feature) →
      ∀ other ≠ feature, ∀ key, (rows.answer call).2.get? other key = rows.get? other key :=
    fun _ _ hwrites _ hother _ => Rows.get?_answer_of_not_writes fun h => hother (hwrites _ h)
  cases call with
  | get feature key => exact ⟨h.decodeField_field feature key, h⟩
  | getMany pairs => exact ⟨h.mapM_decodeField pairs, h⟩
  | insert feature key value =>
    obtain ⟨fields, hview, hfields⟩ := h feature
    unfold Connection.effect Rows.answer
    dsimp only
    rw [hview]
    dsimp only
    rw [hfields.contains_eq key]
    by_cases hrow : (rows.get? feature key).isSome = true
    · rw [if_pos hrow, if_pos hrow]
      exact ⟨rfl, h⟩
    · rw [if_neg hrow, if_neg hrow]
      have hset : ∀ other ≠ feature, ∀ k,
          Rows.get? (rows.insert ⟨feature, key⟩ value) other k = rows.get? other k :=
        hothers (.set feature key value) feature fun _ h => congrArg Store.Address.feature h
      exact ⟨rfl, h.put (hfields.insert (hreadable value rfl) key) hset⟩
  | set feature key value =>
    exact h.change (fun hfields => hfields.insert (hreadable value rfl) key)
      (hothers _ _ fun _ h => congrArg Store.Address.feature h)
  | setForAll feature value =>
    exact h.change (fun hfields => hfields.setForAll (hreadable value rfl))
      (hothers _ _ fun _ h => h)
  | delete feature key =>
    exact h.change (fun hfields => hfields.erase key)
      (hothers _ _ fun _ h => congrArg Store.Address.feature h)
  | purge features =>
    cases features with
    | none => exact ⟨rfl, sweep rows view hplain⟩
    | some names => exact ⟨rfl, h.remove names⟩
  | listStored => exact absurd rfl hsupported

/-- **Turns** come to what the calls come to in memory, if the store waits long enough for
the listings. -/
theorem exists_exchanges (h : connection.Keeps rows server.contents.fields?)
    (hready : server.errors = []) (hplain : IsPlain connection.keyPrefix) {turns : List Turn}
    (hturns : ∀ turn ∈ turns, turn.Orderly connection) :
    ∃ enough, ∀ rounds ≥ enough,
      Connection.exchanges { connection with rounds } turns server
        = Store.memory.exchanges (turns.map Turn.call) rows := by
  induction turns generalizing server rows with
  | nil => exact ⟨0, fun _ _ => rfl⟩
  | cons turn rest ih =>
    obtain ⟨hturn, hrest⟩ := List.forall_mem_cons.mp hturns
    have hkept : connection.Keeps rows (turn.meanwhile server).contents.fields? :=
      h.congr fun feature => by
        unfold Contents.fields?
        rw [hturn.discreet server feature]
    obtain ⟨hreply, hkeeps⟩ := hkept.effect hplain hturn.supported hturn.readable
    have hshows : (turn.meanwhile server).Shows (turn.meanwhile server).contents.fields? :=
      ⟨hturn.ready server hready, rfl⟩
    obtain ⟨later, hlater, enough, hhold⟩ :=
      exists_hold_converse turn.listing connection hshows hturn.complete turn.call
    rw [← hlater.holds] at hkeeps
    obtain ⟨enough', hexchanges⟩ := ih hkeeps hlater.ready hrest
    refine ⟨max enough enough', fun rounds hrounds => ?_⟩
    have hrun : ((Connection.store { connection with rounds }
        (Server.answer turn.listing)).call turn.call).run (turn.meanwhile server)
          = ((connection.effect (turn.meanwhile server).contents.fields? turn.call).1, later) :=
      hhold rounds (Nat.le_trans (Nat.le_max_left ..) hrounds)
    unfold Connection.exchanges Store.exchanges
    dsimp only
    rw [hrun, hreply, hexchanges rounds (Nat.le_trans (Nat.le_max_right ..) hrounds)]
    rfl

end Keeps

/-- **A server answers as memory does**: turns of a store whose prefix is plain, on a server
where no key is under the prefix at first, come to what their calls come to in memory. -/
theorem exchanges_eq_memory (connection : Connection) (hplain : IsPlain connection.keyPrefix)
    {server : Server} (hready : server.errors = [])
    (hfresh : ∀ feature, server.contents[connection.key feature]? = none)
    {turns : List Turn} (hturns : ∀ turn ∈ turns, turn.Orderly connection) :
    ∃ enough, ∀ rounds ≥ enough,
      Connection.exchanges { connection with rounds } turns server
        = Store.memory.exchanges (turns.map Turn.call) ∅ :=
  (Keeps.of_fresh hfresh).exists_exchanges hready hplain hturns

/-- A first write that is refused, a hash that goes with its last field, and a purge whose
listing comes in pages of one key, while others write beside the prefix. -/
theorem exchanges_eq_memory_in_pages :
    let others (server : Server) : Server :=
      { server with contents := server.contents.insert "other" .plain }
    let turn (call : Store.Call) : Turn := ⟨others, .paged 1 true globMatches, call⟩
    let calls : List Store.Call :=
      [.insert "a:b" "k" (.bool true), .insert "a:b" "k" (.bool false), .set "a" "k" (.bool true),
        .setForAll "a" (.string "on"), .delete "a:b" "k", .getMany [("a:b", "k"), ("a", "k")],
        .purge none, .get "a" "k"]
    ∃ enough, ∀ rounds ≥ enough,
      Connection.exchanges ⟨"features", rounds⟩ (calls.map turn) (.holding ∅)
        = [⟨.insert "a:b" "k" (.bool true), .ok ()⟩,
            ⟨.insert "a:b" "k" (.bool false), .error (.conflict "a:b" "k")⟩,
            ⟨.set "a" "k" (.bool true), .ok ()⟩,
            ⟨.setForAll "a" (.string "on"), .ok ()⟩,
            ⟨.delete "a:b" "k", .ok ()⟩,
            ⟨.getMany [("a:b", "k"), ("a", "k")], .ok [none, some (.string "on")]⟩,
            ⟨.purge none, .ok ()⟩,
            ⟨.get "a" "k", .ok none⟩] := by
  intro others turn calls
  have hplain : IsPlain "features" := by decide
  have hapart : ∀ feature, "other" ≠ key ⟨"features", 0⟩ feature := by
    intro feature h
    have hlist := congrArg String.toList h
    simp [key] at hlist
  have horderly : ∀ call : Store.Call, call ≠ .listStored →
      (∀ payload, call.payload? = some payload → decode (encode payload) = .ok payload) →
      (turn call).Orderly ⟨"features", 0⟩ := by
    intro call hsupported hreadable
    refine ⟨fun _ h => h, fun server feature => ?_, Listing.isComplete_paged Nat.one_pos true,
      hsupported, hreadable⟩
    show (server.contents.insert "other" Entry.plain)[key ⟨"features", 0⟩ feature]? = _
    rw [Std.ExtTreeMap.getElem?_insert,
      if_neg (mt Std.LawfulEqCmp.compare_eq_iff_eq.mp (hapart feature))]
  have hcalls : ∀ call ∈ calls, call ≠ .listStored
      ∧ ∀ payload, call.payload? = some payload → decode (encode payload) = .ok payload := by
    intro call hcall
    simp only [calls, List.mem_cons, List.not_mem_nil, or_false] at hcall
    rcases hcall with rfl | rfl | rfl | rfl | rfl | rfl | rfl | rfl
    all_goals exact ⟨nofun, fun payload h => by cases h <;> rfl⟩
  have hturns : ∀ t ∈ calls.map turn, t.Orderly ⟨"features", 0⟩ :=
    List.forall_mem_map.mpr fun call hcall =>
      horderly call (hcalls call hcall).1 (hcalls call hcall).2
  exact exchanges_eq_memory ⟨"features", 0⟩ hplain rfl (fun _ => rfl) hturns

end Connection

end Redis

end FeatureGate
