import Mathlib.Logic.Basic
import FeatureGate.World

/-!
# Surroundings that answer the same again

What a resolver is told from outside may differ each time it asks. Two sorts of
surroundings leave nothing to chance: closures that are functions of the
context, and a source of group membership that does not fail and gives the same
answer each time.
-/

namespace FeatureGate

/-! ## Sources that do not fail -/

/-- **A source of group membership that does not fail.** -/
structure Source where
  /-- The groups of a context key, in the order of precedence. -/
  groupsFor : String → List String
  /-- The features granted to a group. -/
  featuresIn : String → List String

/-- The source as resolvers see it. -/
def Source.membership (source : Source) : Membership where
  groupsFor key := .ok (source.groupsFor key)
  featuresIn group := .ok (source.featuresIn group)

/-- Groups kept in memory are such a source. -/
def Groups.source (groups : Groups) : Source := ⟨groups.groupsFor, groups.featuresIn⟩

/-! ## Pure closures -/

namespace Closures

/-- **Whether the closures are functions of the context.** -/
def ArePure (closures : Closures) : Prop :=
  ∀ entry ∈ closures.entries, entry.1.IsPure

variable {closures : Closures}

theorem arePure_singleton {computation : Computation} (h : computation.IsPure) (calls : Nat) :
    (⟨[(computation, calls)]⟩ : Closures).ArePure := by
  intro entry hentry
  rwa [List.mem_singleton.mp hentry]

theorem ArePure.call (h : closures.ArePure) (closure : Closure) (context : Context) :
    (closures.call closure context).2.ArePure := by
  unfold Closures.call
  cases hentry : closures.entries[closure.id]? with
  | none => exact h
  | some entry =>
    intro other hother
    rcases List.mem_or_eq_of_mem_set hother with hmem | rfl
    · exact h other hmem
    · exact h entry (List.mem_of_getElem? hentry)

theorem ArePure.firstPayload (h : closures.ArePure) (definition : Definition)
    (context : Context) (key : String) :
    (closures.firstPayload definition context key).2.ArePure := by
  unfold Closures.firstPayload
  cases definition.firstPayload key with
  | inl closure => exact h.call closure context
  | inr payload => exact h

/-- A call leaves all closures what they were, and counts itself. -/
theorem getElem?_call (closures : Closures) (called : Closure) (context : Context) (i : Nat) :
    ((closures.call called context).2.entries[i]?).map Prod.fst
      = (closures.entries[i]?).map Prod.fst := by
  unfold Closures.call
  cases hentry : closures.entries[called.id]? with
  | none => rfl
  | some entry =>
    by_cases hi : called.id = i
    · subst hi
      obtain ⟨hlt, hget⟩ := List.getElem?_eq_some_iff.mp hentry
      simp [hlt, hget]
    · simp [hi]

/-- What a closure makes of a context does not depend on the calls before. -/
theorem ArePure.call_call (h : closures.ArePure) (called closure : Closure)
    (context other : Context) :
    ((closures.call called context).2.call closure other).1
      = (closures.call closure other).1 := by
  have hentry := getElem?_call closures called context closure.id
  have hafter := h.call called context
  generalize (closures.call called context).2 = after at hentry hafter
  unfold Closures.call
  cases hold : closures.entries[closure.id]? with
  | none =>
    rw [hold] at hentry
    rw [Option.map_eq_none_iff.mp hentry]
  | some entry =>
    rw [hold] at hentry
    obtain ⟨entry', hnew, hsame⟩ := Option.map_eq_some_iff.mp hentry
    rw [hnew]
    obtain ⟨computation, calls⟩ := entry
    obtain ⟨computation', calls'⟩ := entry'
    cases hsame
    exact h _ (List.mem_of_getElem? hold) other calls' calls

/-- First payloads do not depend on the calls before. -/
theorem ArePure.firstPayload_firstPayload (h : closures.ArePure)
    (first definition : Definition) (context other : Context) (key key' : String) :
    ((closures.firstPayload first context key).2.firstPayload definition other key').1
      = (closures.firstPayload definition other key').1 := by
  unfold Closures.firstPayload
  cases first.firstPayload key with
  | inr payload => rfl
  | inl called =>
    cases definition.firstPayload key' with
    | inr payload => rfl
    | inl closure => exact h.call_call called closure context other

/-! ## Closures that see the key only -/

/-- **Whether the closures are functions of a key of the context.** -/
def AreKeyed (closures : Closures) (key : Context → String) : Prop :=
  ∀ entry ∈ closures.entries, ∀ context other earlier earlier', key context = key other →
    entry.1.result context earlier = entry.1.result other earlier'

theorem areKeyed_singleton {computation : Computation} {key : Context → String}
    (h : ∀ context other earlier earlier', key context = key other →
      computation.result context earlier = computation.result other earlier') (calls : Nat) :
    (⟨[(computation, calls)]⟩ : Closures).AreKeyed key := by
  intro entry hentry
  rwa [List.mem_singleton.mp hentry]

theorem AreKeyed.arePure {key : Context → String} (h : closures.AreKeyed key) :
    closures.ArePure :=
  fun entry hentry context m n => h entry hentry context context m n rfl

/-- First payloads are the same for contexts with the same key. -/
theorem AreKeyed.firstPayload_congr {key : Context → String} (h : closures.AreKeyed key)
    {context other : Context} (hkey : key context = key other) (definition : Definition)
    (k : String) :
    (closures.firstPayload definition context k).1
      = (closures.firstPayload definition other k).1 := by
  unfold Closures.firstPayload
  cases definition.firstPayload k with
  | inr payload => rfl
  | inl closure =>
    show (closures.call closure context).1 = (closures.call closure other).1
    unfold Closures.call
    cases hentry : closures.entries[closure.id]? with
    | none => rfl
    | some entry => exact h entry (List.mem_of_getElem? hentry) _ _ _ _ hkey

end Closures

end FeatureGate
