import FeatureGate.Proofs.Nesting.Discipline

/-!
# Resolution terminates

The recursion through requirements follows any graph whatever, and nobody stops it but
itself. That it comes to an end is two things. Written down without a bound it has a
solution, and only one: a program, which ends on each of its branches, whatever is
replied; this is what a resolution is. And the calls that are in progress at a time are
never more than there are features that require others, and one.
-/

namespace FeatureGate.Resolver

/-- How many calls are in progress after a request or a mark. -/
def inProgress (active : Nat) : Request ⊕ Mark → Nat
  | .inr (.begins ..) => active + 1
  | .inr (.ends ..) => active - 1
  | _ => active

/-- **So many calls at a time**, and no more: a call that begins is one of them. -/
def nesting (limit : Nat) : Protocol (interface.watched Mark) Nat where
  Allows active seen := match seen with
    | .inr (.begins ..) => active + 1 ≤ limit
    | _ => True
  Gives active seen _ after := after = inProgress active seen

/-- The calls that are seen to be in progress are counted. -/
theorem length_calls_after (sight : Sight) (seen : Request ⊕ Mark) :
    (sight.after seen).calls.length = inProgress sight.calls.length seen := by
  cases seen with
  | inl request => rfl
  | inr mark =>
    cases mark with
    | begins feature frames => rfl
    | ends feature frames => exact List.length_tail
    | moves frames => rfl

/-- Whoever keeps the discipline has as many calls at a time as there are features that
require others, and one. -/
theorem follows_nesting {registry : Registry} {asked key : String} {α : Type}
    {program : Watched α} {expected : α → Sight → Prop} {sight : Sight}
    (h : program.Follows (discipline registry asked key) expected sight) :
    program.Follows (nesting (registry.gatedCount + 1))
      (fun result active => ∃ sight, sight.calls.length = active ∧ expected result sight)
      sight.calls.length := by
  refine Program.Follows.coarsen (fun sight : Sight => sight.calls.length) ?_ ?_ h
  · rintro sight (request | mark) hallowed
    · trivial
    · cases mark with
      | begins feature frames => exact Nat.succ_le_succ hallowed.2.2
      | _ => trivial
  · rintro sight seen reply _ rfl
    exact ⟨sight.after seen, rfl, length_calls_after sight seen⟩

/-- **Resolution terminates**, whatever is defined, and whatever the store, the groups and
the closures reply.

* The recursion through requirements, with no bound to it, has one solution, and a
  resolution is that solution with nothing in flight.
* However deep the nesting might go, and whatever lies below, a resolution never has more
  calls in progress than there are features that require others, and one. -/
theorem resolution_terminates (resolver : Resolver) :
    ∃ again : String → Context → Action FeatureValue,
      (∀ other, resolver.resolveStep other = other ↔ other = again)
      ∧ ∀ feature context work,
          (resolver.resolve feature context).program work
              = (again feature context).program { work with guard := .empty }
            ∧ ∀ floor spare,
                let nested := Watched.resolveNested resolver floor context
                  (work.registry.gatedCount + 1 + spare) feature { work with guard := .empty }
                nested.unwatched = (resolver.resolve feature context).program work
                  ∧ nested.Follows (nesting (work.registry.gatedCount + 1))
                      (fun _ active => active = 0) 0 := by
  refine ⟨resolver.resolveDeep fun _ _ => pure .inactive, fun _ => resolveStep_eq_iff, ?_⟩
  intro feature context work
  refine ⟨resolver.program_resolve_eq_resolveDeep feature context work,
    fun floor spare => ⟨?_, ?_⟩⟩
  · exact resolver.unwatched_resolveNested_empty floor spare feature context work
  · refine (follows_nesting
      (resolver.follows_resolveNested_empty floor spare feature context work)).mono ?_
    rintro outcome _ ⟨sight, rfl, -, rfl⟩
    rfl

end FeatureGate.Resolver
