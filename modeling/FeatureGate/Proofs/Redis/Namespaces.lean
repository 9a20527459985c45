import FeatureGate.Proofs.Interference
import FeatureGate.Proofs.Redis.Conversation
import FeatureGate.Proofs.Redis.Glob

/-!
# Stores that share a server

Stores on one server are told apart by their prefixes. A key is the prefix, a colon and the
name of a feature, and nothing is escaped in it; the pattern of a purge of everything is made
of the prefix too. So it is not enough that the prefixes differ: a store may change the keys
of its own features and the keys that match its pattern (`Connection.Touches`), and the
others find out about it just if some of these are theirs (`Neighbours.isolated_iff`).

For plain prefixes this comes down to beginnings: no prefix with its colon may be what
another one with its colon begins with (`Neighbours.isolated_iff_of_plain`).
-/

namespace FeatureGate.Redis

namespace Connection

/-- **What the keys of a store begin with**: the prefix and the colon. -/
def stem (connection : Connection) : String := connection.keyPrefix ++ ":"

variable {connection : Connection}

theorem toList_key (connection : Connection) (feature : String) :
    (connection.key feature).toList = connection.stem.toList ++ feature.toList :=
  String.toList_append

/-- A store with a plain prefix may change the keys of its features only. -/
theorem touches_iff_of_plain (hplain : IsPlain connection.keyPrefix) (key : String) :
    connection.Touches key ↔ ∃ feature, key = connection.key feature :=
  or_iff_left_of_imp (globMatches_iff_of_plain hplain key).mp

end Connection

/-! ## Stores on one server -/

/-- **Stores on one server**, by their connections. -/
abbrev Neighbours (ι : Type) := ι → Connection

namespace Neighbours

/-- **A turn of one of the stores**: whose it is, how the server lists its keys then, and
what is called. -/
structure Turn (ι : Type) where
  /-- Whose turn it is. -/
  store : ι
  /-- How the server lists its keys. -/
  listing : Listing
  /-- What is called. -/
  call : Store.Call

variable {ι : Type} (stores : Neighbours ι)

/-- **What came of turns**, one after another. -/
def outcomes : List (Turn ι) → Server → List (ι × Exchange Store.interface)
  | [], _ => []
  | turn :: rest, server =>
    let replied := (((stores turn.store).store (Server.answer turn.listing)).call turn.call).run
      server
    (turn.store, ⟨turn.call, replied.1⟩) :: outcomes rest replied.2

/-- The same stores, which wait for so many rounds of a listing. -/
def waiting (rounds : Nat) : Neighbours ι := fun i => { stores i with rounds }

/-- **What turns come to**, told from what the keys hold. -/
def effects : List (Turn ι) → View → List (ι × Exchange Store.interface)
  | [], _ => []
  | turn :: rest, view =>
    let effect := (stores turn.store).effect view turn.call
    (turn.store, ⟨turn.call, effect.1⟩) :: effects rest effect.2

theorem effects_cons (turn : Turn ι) (rest : List (Turn ι)) (view : View) :
    stores.effects (turn :: rest) view
      = (turn.store, ⟨turn.call, ((stores turn.store).effect view turn.call).1⟩)
        :: stores.effects rest ((stores turn.store).effect view turn.call).2 := rfl

/-- **Stores are isolated** if what each of them is answered, on a server that works, is the
same as if the others did nothing. -/
def Isolated [DecidableEq ι] : Prop :=
  ∀ (server : Server) (turns : List (Turn ι)), server.errors = [] →
    (∀ turn ∈ turns, turn.listing.IsComplete) → ∀ i, ∃ enough, ∀ rounds ≥ enough,
      ((stores.waiting rounds).outcomes turns server).filter (·.1 = i)
        = (stores.waiting rounds).outcomes (turns.filter (·.store = i)) server

variable {stores}

/-- **Turns** come to what can be told from the keys, if the stores wait long enough. -/
theorem exists_outcomes (stores : Neighbours ι) {server : Server} {view : View}
    (h : server.Shows view) {turns : List (Turn ι)}
    (hturns : ∀ turn ∈ turns, turn.listing.IsComplete) :
    ∃ enough, ∀ rounds ≥ enough,
      (stores.waiting rounds).outcomes turns server = stores.effects turns view := by
  induction turns generalizing server view with
  | nil => exact ⟨0, fun _ _ => rfl⟩
  | cons turn rest ih =>
    obtain ⟨hturn, hrest⟩ := List.forall_mem_cons.mp hturns
    obtain ⟨later, hlater, enough, hhold⟩ :=
      Connection.exists_hold_converse turn.listing (stores turn.store) h hturn turn.call
    obtain ⟨enough', houtcomes⟩ := ih hlater hrest
    refine ⟨max enough enough', fun rounds hrounds => ?_⟩
    have hrun : (((stores.waiting rounds turn.store).store
        (Server.answer turn.listing)).call turn.call).run server
          = (((stores turn.store).effect view turn.call).1, later) :=
      hhold rounds (Nat.le_trans (Nat.le_max_left ..) hrounds)
    unfold outcomes effects
    dsimp only
    rw [hrun, houtcomes rounds (Nat.le_trans (Nat.le_max_right ..) hrounds)]

variable [DecidableEq ι] {i j : ι}

/-- **The turns of the others** can be left out, if these change no key of the store. -/
theorem filter_effects
    (hfree : ∀ j ≠ i, ∀ feature, ¬ (stores j).Touches ((stores i).key feature))
    {view view' : View} (h : (stores i).Agree view view') (turns : List (Turn ι)) :
    (stores.effects turns view).filter (·.1 = i)
      = stores.effects (turns.filter (·.store = i)) view' := by
  induction turns generalizing view view' with
  | nil => rfl
  | cons turn rest ih =>
    rw [effects_cons]
    by_cases hturn : turn.store = i
    · subst hturn
      obtain ⟨hreply, hagree⟩ := h.effect turn.call
      rw [List.filter_cons_of_pos (by simp), List.filter_cons_of_pos (by simp), effects_cons,
        hreply, ih hagree]
    · rw [List.filter_cons_of_neg (by simpa using hturn),
        List.filter_cons_of_neg (by simpa using hturn)]
      refine ih fun feature => ?_
      rw [Connection.effect_of_not_touches (hfree _ hturn feature), h feature]

/-- **Stores are isolated** if none may change the keys of another. -/
theorem isolated_of_not_touches
    (hfree : ∀ i j, i ≠ j → ∀ feature, ¬ (stores j).Touches ((stores i).key feature)) :
    stores.Isolated := by
  intro server turns hready hturns i
  have hshows : server.Shows server.contents.fields? := ⟨hready, rfl⟩
  have hturns' : ∀ turn ∈ turns.filter (·.store = i), turn.listing.IsComplete :=
    fun turn hturn => hturns turn (List.mem_of_mem_filter hturn)
  obtain ⟨enough, houtcomes⟩ := stores.exists_outcomes hshows hturns
  obtain ⟨enough', houtcomes'⟩ := stores.exists_outcomes hshows hturns'
  refine ⟨max enough enough', fun rounds hrounds => ?_⟩
  rw [houtcomes rounds (Nat.le_trans (Nat.le_max_left ..) hrounds),
    houtcomes' rounds (Nat.le_trans (Nat.le_max_right ..) hrounds)]
  exact filter_effects (fun j hji => hfree i j hji.symm) (fun _ => rfl) turns

namespace Isolated

/-- What isolated stores are answered on a server without keys, told from what these hold. -/
theorem filter_effects (h : stores.Isolated) {turns : List (Turn ι)}
    (hturns : ∀ turn ∈ turns, turn.listing.IsComplete) (i : ι) :
    (stores.effects turns .empty).filter (·.1 = i)
      = stores.effects (turns.filter (·.store = i)) .empty := by
  have hshows : (Server.holding ∅).Shows .empty := ⟨rfl, rfl⟩
  have hturns' : ∀ turn ∈ turns.filter (·.store = i), turn.listing.IsComplete :=
    fun turn hturn => hturns turn (List.mem_of_mem_filter hturn)
  obtain ⟨enough, hisolated⟩ := h (.holding ∅) turns rfl hturns i
  obtain ⟨enough', houtcomes⟩ := stores.exists_outcomes hshows hturns
  obtain ⟨enough'', houtcomes'⟩ := stores.exists_outcomes hshows hturns'
  let rounds := max enough (max enough' enough'')
  have hfilter := hisolated rounds (by omega)
  rwa [houtcomes rounds (by omega), houtcomes' rounds (by omega)] at hfilter

/-- **A call between two calls** of another store makes no difference to the second. -/
theorem reply_eq (h : stores.Isolated) (hij : i ≠ j) (first between second : Store.Call) :
    ((stores i).effect
        ((stores j).effect ((stores i).effect .empty first).2 between).2 second).1
      = ((stores i).effect ((stores i).effect .empty first).2 second).1 := by
  have hcomplete : (Listing.paged 1 false globMatches).IsComplete :=
    Listing.isComplete_paged Nat.one_pos false
  have hturns : ∀ turn ∈ [(⟨i, _, first⟩ : Turn ι), ⟨j, _, between⟩, ⟨i, _, second⟩],
      turn.listing.IsComplete :=
    List.forall_mem_cons.mpr ⟨hcomplete, List.forall_mem_cons.mpr ⟨hcomplete,
      List.forall_mem_singleton.mpr hcomplete⟩⟩
  have hreplies := h.filter_effects hturns i
  simp only [effects, hij.symm, decide_false, Bool.false_eq_true, not_false_eq_true,
    List.filter_cons_of_neg, decide_true, List.filter_cons_of_pos, List.filter_nil,
    List.cons.injEq, Prod.mk.injEq, true_and, and_true] at hreplies
  exact eq_of_heq (Exchange.mk.inj hreplies).2

/-- **A key of one store that another may change** tells of it. -/
theorem not_touches (h : stores.Isolated) (hij : i ≠ j) (feature : String) :
    ¬ (stores j).Touches ((stores i).key feature) := by
  rintro (⟨other, hkey⟩ | hmatch)
  · -- the other one writes a row of its own, and it is read as one of the feature
    have hreply := h.reply_eq hij (.get feature "k") (.set other "k" (.bool true))
      (.get feature "k")
    have hwritten := (stores j).decodeField_effect_set other "k" (.bool true)
      (View.empty_apply _) rfl
    rw [← hkey] at hwritten
    exact nomatch hwritten.symm.trans hreply
  · -- the other one purges everything, and a row of the feature is gone
    have hreply := h.reply_eq hij (.set feature "k" (.bool true)) (.purge none)
      (.get feature "k")
    have hwritten := (stores i).decodeField_effect_set feature "k" (.bool true)
      (View.empty_apply _) rfl
    have hswept : ((stores i).effect ((stores j).effect ((stores i).effect .empty
        (.set feature "k" (.bool true))).2 (.purge none)).2 (.get feature "k")).1 = .ok none :=
      congrArg decodeField (View.field_sweep hmatch _ "k")
    exact nomatch hswept.symm.trans (hreply.trans hwritten)

end Isolated

/-- **Stores are isolated if, and only if,** none may change the keys of another. -/
theorem isolated_iff (stores : Neighbours ι) :
    stores.Isolated
      ↔ ∀ i j, i ≠ j → ∀ feature, ¬ (stores j).Touches ((stores i).key feature) :=
  ⟨fun h _ _ hij => h.not_touches hij, isolated_of_not_touches⟩

/-- **Prefixes that differ** are not enough: under the prefixes `a` and `a:b`, the feature
`b:c` of the one store and the feature `c` of the other have the same key. -/
theorem not_isolated_of_nested_prefixes :
    ¬ ∀ prefixes : Bool → String, prefixes true ≠ prefixes false →
      Isolated fun first => ⟨prefixes first, 0⟩ := by
  intro h
  have hisolated := h (fun first => if first then "a" else "a:b") (by decide)
  exact hisolated.not_touches (i := false) (j := true) (by decide) "c" (.inl ⟨"b:c", by decide⟩)

example :
    let stores : Neighbours Bool := fun first => ⟨if first then "a" else "a:b", 0⟩
    let listing : Listing := .paged 1 false globMatches
    stores.outcomes [⟨true, listing, .set "b:c" "k" (.bool true)⟩,
        ⟨false, listing, .get "c" "k"⟩] (.holding ∅)
      = [(true, ⟨.set "b:c" "k" (.bool true), .ok ()⟩),
          (false, ⟨.get "c" "k", .ok (some (.bool true))⟩)] := by
  rfl

/-- **Stores with plain prefixes** are isolated if, and only if, no prefix with its colon is
what another one with its colon begins with. -/
theorem isolated_iff_of_plain (hplain : ∀ i, IsPlain (stores i).keyPrefix) :
    stores.Isolated
      ↔ ∀ i j, i ≠ j → ¬ (stores i).stem.toList <+: (stores j).stem.toList := by
  constructor
  · rintro h i j hij ⟨rest, hrest⟩
    refine h.not_touches hij.symm "" (.inl ⟨String.ofList rest, String.toList_inj.mp ?_⟩)
    rw [Connection.toList_key, Connection.toList_key, String.toList_empty, List.append_nil,
      String.toList_ofList, hrest]
  · intro h
    refine isolated_of_not_touches fun i j hij feature htouches => ?_
    obtain ⟨other, hkey⟩ := (Connection.touches_iff_of_plain (hplain j) _).mp htouches
    have hsame := congrArg String.toList hkey
    rw [Connection.toList_key, Connection.toList_key] at hsame
    -- both prefixes begin the same key, so the shorter one begins the longer one
    have hstem : (stores i).stem.toList <+: (stores j).stem.toList ++ other.toList :=
      hsame ▸ List.prefix_append ..
    rcases List.prefix_or_prefix_of_prefix hstem (List.prefix_append ..) with hprefix | hprefix
    · exact h i j hij hprefix
    · exact h j i hij.symm hprefix

end Neighbours

end FeatureGate.Redis
