import Mathlib.Data.List.Basic
import FeatureGate.Redis.Glob
import FeatureGate.Redis.Server

/-!
# Complete listings

A server lists its keys in rounds. What a client may rely on is that the rounds come to an
end, and that every key which matches is among those that were answered by then, any number
of times and in any order (`Listing.IsComplete`). A server that answers pages is complete.
-/

namespace FeatureGate.Redis

namespace Listing

/-- **A cycle of rounds**, from a cursor to the end, with the keys that it answers. -/
inductive Cycle (listing : Listing) (keys : List String) (pattern : String) :
    Nat → List String → Prop
  /-- The last round. -/
  | last {cursor : Nat} {batch : List String} :
    listing.round keys cursor pattern = (0, batch) → Cycle listing keys pattern cursor batch
  /-- A round after which there is another one. -/
  | more {cursor next : Nat} {batch rest : List String} :
    listing.round keys cursor pattern = (next, batch) → next ≠ 0 →
    Cycle listing keys pattern next rest → Cycle listing keys pattern cursor (batch ++ rest)

/-- **A listing that is complete**: it comes to an end, with the keys that match. -/
def IsComplete (listing : Listing) : Prop :=
  ∀ keys pattern, ∃ found, listing.Cycle keys pattern 0 found
    ∧ ∀ key, key ∈ found ↔ key ∈ keys ∧ globMatches pattern key = true

/-- From a cursor on, pages have the keys that come after it, if there is one. -/
theorem exists_cycle_paged {page : Nat} (hpage : 0 < page) (repeats : Bool)
    (isMatch : (pattern key : String) → Bool) (keys : List String) (pattern : String)
    (cursor : Nat) :
    ∃ found, (paged page repeats isMatch).Cycle keys pattern cursor found
      ∧ (∀ key ∈ found, key ∈ keys.filter (isMatch pattern))
      ∧ ∀ key ∈ (keys.filter (isMatch pattern)).drop cursor, key ∈ found := by
  generalize hmatching : keys.filter (isMatch pattern) = matching
  induction hleft : matching.length - cursor using Nat.strongRecOn generalizing cursor with
  | ind left ih =>
    subst hleft
    have hround : (paged page repeats isMatch).round keys cursor pattern
        = (if cursor + page < matching.length then cursor + page else 0,
            ((matching.take (cursor + page)).drop
              (if repeats then cursor - 1 else cursor)).reverse) := by
      rw [← hmatching]
      rfl
    have hbatch : ∀ key ∈ ((matching.take (cursor + page)).drop
        (if repeats then cursor - 1 else cursor)).reverse, key ∈ matching := fun key hkey =>
      List.mem_of_mem_take (List.mem_of_mem_drop (List.mem_reverse.mp hkey))
    -- a page reaches back to the cursor at least
    have hreaches : ∀ key ∈ (matching.take (cursor + page)).drop cursor,
        key ∈ ((matching.take (cursor + page)).drop
          (if repeats then cursor - 1 else cursor)).reverse := by
      have hstart : (if repeats then cursor - 1 else cursor) ≤ cursor := by
        split <;> omega
      exact fun key hkey =>
        List.mem_reverse.mpr ((List.drop_suffix_drop_left _ hstart).subset hkey)
    by_cases hmore : cursor + page < matching.length
    · rw [if_pos hmore] at hround
      obtain ⟨rest, hcycle, hsound, hall⟩ :=
        ih (matching.length - (cursor + page)) (by omega) (cursor + page) rfl
      refine ⟨_, .more hround (by omega) hcycle, fun key hkey => ?_, fun key hkey => ?_⟩
      · exact (List.mem_append.mp hkey).elim (hbatch key) (hsound key)
      · have hsplit : matching.drop cursor
            = (matching.take (cursor + page)).drop cursor ++ matching.drop (cursor + page) := by
          rw [← List.drop_append_of_le_length (by simp; omega), List.take_append_drop]
        rw [hsplit] at hkey
        exact List.mem_append.mpr ((List.mem_append.mp hkey).imp (hreaches key) (hall key))
    · rw [if_neg hmore] at hround
      refine ⟨_, .last hround, hbatch, fun key hkey => hreaches key ?_⟩
      rwa [List.take_of_length_le (Nat.le_of_not_lt hmore)]

/-- **Pages are complete**, whether a page repeats a key or not. -/
theorem isComplete_paged {page : Nat} (hpage : 0 < page) (repeats : Bool) :
    (paged page repeats globMatches).IsComplete := by
  intro keys pattern
  obtain ⟨found, hcycle, hsound, hall⟩ :=
    exists_cycle_paged hpage repeats globMatches keys pattern 0
  refine ⟨found, hcycle, fun key => ?_⟩
  rw [← List.mem_filter]
  exact ⟨hsound key, hall key⟩

end Listing

end FeatureGate.Redis
