import FeatureGate.Proofs.Redis.Conversation
import FeatureGate.Proofs.Redis.Glob

/-!
# What a purge of everything leaves

A purge of everything removes the keys that match the pattern of the store, which is the
prefix, a colon and a star. The keys of the features are made of the same prefix, but
nothing is escaped in the pattern: what is a character of the key there has its meaning as
a pattern here. So a purge leaves nothing behind just if every key of a feature matches
(`Connection.purgesClean_iff`).

It does for a prefix without brackets and backslashes, for a star and a question mark match
themselves too. Under the prefix `[a]` it does not: the pattern is about keys that begin
with an `a`, and a row survives the purge.
-/

namespace FeatureGate.Redis

namespace Connection

open Conversation (hold)

variable {connection : Connection} {server later : Server} {listing : Listing}

/-- **A server that the store has worked on.** Nobody else uses the keys of its features, so
they hold no plain text at the start. The store may have waited for a listing as long as it
likes, in vain or not; commands may have been refused, and the script forgotten. -/
inductive Reached (connection : Connection) : Server → Prop
  /-- Before the first call. -/
  | start {contents : Contents} :
    (∀ feature, contents.fields? (connection.key feature) ≠ none) →
    Reached connection (.holding contents)
  /-- After a call. -/
  | called {server : Server} (listing : Listing) (rounds : Nat) (call : Store.Call) :
    Reached connection server →
    Reached connection
      (hold listing (Connection.converse { connection with rounds } call) server).2
  /-- After errors have been lined up, and the script has been forgotten or given. -/
  | disturbed {server : Server} (errors : List String) (hasScript : Bool) :
    Reached connection server → Reached connection { server with errors, hasScript }

/-! ## Purges that come to an end -/

/-- **A listing that has come to an end** is the same, however much longer the store would
have waited. -/
theorem hold_listFrom_of_le {rounds more cursor : Nat} {found : List String}
    (h : hold listing (connection.listFrom rounds cursor) server = (.ok found, later))
    (hle : rounds ≤ more) :
    hold listing (connection.listFrom more cursor) server = (.ok found, later) := by
  induction rounds generalizing more cursor server later found with
  | zero => injection congrArg Prod.fst h
  | succ rounds ih =>
    obtain ⟨more, rfl⟩ := Nat.exists_eq_add_of_le' (Nat.le_of_add_left_le hle)
    unfold listFrom at h ⊢
    rw [Conversation.hold_bind] at h ⊢
    split at h
    · rename_i round middle _
      obtain ⟨next, batch⟩ := round
      dsimp only at h ⊢
      by_cases hlast : next = 0
      · rw [if_pos hlast] at h ⊢
        exact h
      · rw [if_neg hlast, Conversation.hold_bind] at h ⊢
        split at h
        · rename_i rest last hrest
          rw [ih hrest (by omega)]
          exact h
        · injection congrArg Prod.fst h
    · injection congrArg Prod.fst h

/-- A purge of everything lists, and removes what is listed. -/
theorem hold_purge (listing : Listing) (server : Server) (rounds : Nat) :
    hold listing (Connection.converse { connection with rounds } (.purge none)) server
      = match hold listing (connection.listFrom rounds 0) server with
        | (.ok found, later) => hold listing (removeKeys (Std.ExtTreeSet.ofList found).toList) later
        | (.error error, later) => (.error error, later) := by
  unfold converse listKeys
  dsimp only
  rw [Conversation.hold_bind, Conversation.hold_bind, listFrom_waiting]
  generalize hold listing (connection.listFrom rounds 0) server = listed
  obtain ⟨outcome, later⟩ := listed
  cases outcome <;> rfl

/-- A listing does not come to an end while errors are lined up. -/
theorem errors_eq_nil_of_hold_listFrom {rounds cursor : Nat} {found : List String}
    (h : hold listing (connection.listFrom rounds cursor) server = (.ok found, later)) :
    server.errors = [] := by
  cases rounds with
  | zero => injection congrArg Prod.fst h
  | succ rounds =>
    cases herrors : server.errors with
    | nil => rfl
    | cons error errors =>
      -- the first round is refused
      have hrefused : (Server.answer listing (.scan cursor connection.pattern roundSize)).run server
          = (.error error, { server with
              received := server.received ++ [.scan cursor connection.pattern roundSize],
              errors }) := by
        show Server.carryOut listing _ server = _
        unfold Server.carryOut
        rw [herrors]
      unfold listFrom send at h
      rw [Conversation.hold_bind, Conversation.hold_bind, Conversation.hold_request,
        hrefused] at h
      injection congrArg Prod.fst h

/-- **A purge that returned** has swept the keys that match the pattern. -/
theorem shows_of_hold_purge (hlisting : listing.IsComplete) {rounds : Nat}
    (h : hold listing (Connection.converse { connection with rounds } (.purge none)) server
      = (.ok (), later)) :
    later.Shows (View.sweep server.contents.fields? connection.pattern) := by
  rw [hold_purge] at h
  split at h
  · rename_i found middle hlisted
    have hshows : server.Shows server.contents.fields? :=
      ⟨errors_eq_nil_of_hold_listFrom hlisted, rfl⟩
    obtain ⟨swept, hswept, enough, hpurge⟩ := exists_hold_purge listing hshows hlisting
    -- with more rounds the purge is the same, and with enough of them it sweeps
    have hlater := hpurge (max rounds enough) (Nat.le_max_right ..)
    rw [hold_purge, hold_listFrom_of_le hlisted (Nat.le_max_left ..)] at hlater
    obtain rfl : later = swept := congrArg Prod.snd (h.symm.trans hlater)
    exact hswept
  · injection congrArg Prod.fst h

/-! ## Purges that leave nothing behind -/

/-- **The store purges clean**: on a server that works, a purge of everything returns if the
store waits long enough; and whenever it has returned, on whatever server the store has
worked on, no row of any feature is left to be read. -/
structure PurgesClean (connection : Connection) : Prop where
  /-- A purge returns. -/
  returns {server : Server} {listing : Listing} : connection.Reached server →
    server.errors = [] → listing.IsComplete → ∃ later enough, ∀ rounds ≥ enough,
      hold listing (Connection.converse { connection with rounds } (.purge none)) server
        = (.ok (), later)
  /-- Nothing is left behind. -/
  clean {server later : Server} {listing : Listing} {rounds : Nat} : connection.Reached server →
    listing.IsComplete →
    hold listing (Connection.converse { connection with rounds } (.purge none)) server
      = (.ok (), later) → ∀ feature key,
      (hold listing (connection.converse (.get feature key)) later).1 = .ok none

/-- The store purges clean if the keys of all features match its pattern. -/
theorem purgesClean_of_globMatches
    (hmatch : ∀ feature, globMatches connection.pattern (connection.key feature) = true) :
    connection.PurgesClean where
  returns {server listing} _ hready hlisting := by
    have hshows : server.Shows server.contents.fields? := ⟨hready, rfl⟩
    obtain ⟨later, -, enough, hpurge⟩ := exists_hold_purge listing hshows hlisting
    exact ⟨later, enough, hpurge⟩
  clean {server later listing rounds} _ hlisting hpurge feature key := by
    have hshows := shows_of_hold_purge hlisting hpurge
    obtain ⟨_, -, hget⟩ := exists_hold_get listing connection hshows feature key
    rw [hget]
    exact congrArg decodeField (View.field_sweep (hmatch feature) _ key)

/-- **A key that does not match** tells of it: a row is written, and found again after a
purge of everything. -/
theorem PurgesClean.globMatches_key (h : connection.PurgesClean) (feature : String) :
    globMatches connection.pattern (connection.key feature) = true := by
  by_contra hmatch
  have hcomplete : (Listing.paged 1 false globMatches).IsComplete :=
    Listing.isComplete_paged Nat.one_pos false
  have hempty : (Server.holding ∅).Shows .empty := ⟨rfl, rfl⟩
  have hdirect : Store.Call.set feature "k" (.bool true) ≠ .purge none := nofun
  obtain ⟨written, hwritten, hset⟩ := exists_hold_converse_of_direct (.paged 1 false globMatches)
    connection hempty hdirect
  have hstart : connection.Reached (.holding ∅) := .start fun _ => Option.some_ne_none _
  have hreached : connection.Reached written := by
    have hcalled := hstart.called (.paged 1 false globMatches) connection.rounds
      (.set feature "k" (.bool true))
    rwa [hset] at hcalled
  obtain ⟨later, enough, hpurge⟩ := h.returns hreached hwritten.ready hcomplete
  have hclean := h.clean hreached hcomplete (hpurge enough (Nat.le_refl _)) feature "k"
  -- the key is left alone by the purge, so the row is there
  have hshows := shows_of_hold_purge hcomplete (hpurge enough (Nat.le_refl _))
  rw [hwritten.holds] at hshows
  obtain ⟨_, -, hget⟩ := exists_hold_get (.paged 1 false globMatches) connection hshows feature "k"
  have hkept : View.sweep (connection.effect .empty (.set feature "k" (.bool true))).2
      connection.pattern (connection.key feature)
        = (connection.effect .empty (.set feature "k" (.bool true))).2 (connection.key feature) :=
    if_neg hmatch
  rw [hget] at hclean
  have hread := decodeField_effect_set connection feature "k" (.bool true) (View.empty_apply _) rfl
  rw [← View.field_congr hkept] at hread
  exact nomatch hread.symm.trans hclean

/-- **The store purges clean if, and only if,** the keys of all features match its pattern. -/
theorem purgesClean_iff (connection : Connection) :
    connection.PurgesClean
      ↔ ∀ feature, globMatches connection.pattern (connection.key feature) = true :=
  ⟨PurgesClean.globMatches_key, purgesClean_of_globMatches⟩

/-- **A prefix without brackets and backslashes** is purged clean. -/
theorem purgesClean_of_no_brackets
    (hfree : ∀ c ∈ connection.keyPrefix.toList, c ≠ '[' ∧ c ≠ '\\') : connection.PurgesClean := by
  refine purgesClean_of_globMatches fun feature => ?_
  have hstem : ∀ c ∈ bytes (connection.keyPrefix ++ ":"), c ≠ '[' ∧ c ≠ '\\' := by
    have hchars : ∀ c ∈ (connection.keyPrefix ++ ":").toList, c ≠ '[' ∧ c ≠ '\\' := by
      intro c hc
      rw [String.toList_append, List.mem_append] at hc
      rcases hc with hc | hc
      · exact hfree c hc
      · obtain rfl : c = ':' := by simpa using hc
        decide
    intro c hc
    constructor <;> rintro rfl
    · exact (hchars _ (mem_toList_of_mem_bytes hc (by decide))).1 rfl
    · exact (hchars _ (mem_toList_of_mem_bytes hc (by decide))).2 rfl
  have hpattern : bytes connection.pattern = bytes (connection.keyPrefix ++ ":") ++ ['*'] := by
    rw [pattern, show connection.keyPrefix ++ ":*" = connection.keyPrefix ++ ":" ++ "*" by
      rw [String.append_assoc]; rfl, bytes_append _ "*", bytes_star]
  rw [globMatches, hpattern, key, bytes_append _ feature]
  exact Glob.accepts_append_star hstem (bytes feature)

/-- **Not every prefix is purged clean**: under the prefix `[a]`, the pattern is about the
keys `a:..`, and the key of a feature is none of them. -/
theorem not_purgesClean_of_brackets : ¬ ∀ keyPrefix, PurgesClean ⟨keyPrefix, 0⟩ := by
  intro h
  have hmatch := (h "[a]").globMatches_key "f"
  exact absurd hmatch (by decide +kernel)

example :
    let store := (Connection.mk "[a]" 1).store (Server.answer (.paged 1 false globMatches))
    ((do
      let _ ← store.call (.set "f" "k" (.bool true))
      let _ ← store.call (.purge none)
      store.call (.get "f" "k")).run (.holding ∅)).1.toOption = some (some (.bool true)) := by
  decide +kernel

end Connection

end FeatureGate.Redis
