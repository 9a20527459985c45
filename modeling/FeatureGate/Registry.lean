import FeatureGate.Definition

/-!
# The registry

The definitions that are registered, by name. A registry is shared by the
resolvers of a process; what one of them defines, all of them see.
-/

namespace FeatureGate

/-- **A registry of definitions**, by the name of the feature. -/
structure Registry where
  /-- The definitions. -/
  definitions : Std.ExtTreeMap String Definition

namespace Registry

/-- No feature is defined. -/
def empty : Registry := ⟨∅⟩

instance : Inhabited Registry := ⟨empty⟩

/-- The definition of a feature. -/
def get? (registry : Registry) (name : String) : Option Definition :=
  registry.definitions[name]?

/-- Whether a feature is defined. -/
def contains (registry : Registry) (name : String) : Bool :=
  registry.definitions.contains name

/-- **Register a definition**, in place of one of the same name. -/
def define (registry : Registry) (definition : Definition) :
    Except FeatureError Registry := do
  definition.validate
  return ⟨registry.definitions.insert definition.name definition⟩

/-- Forget the definition of a feature. -/
def remove (registry : Registry) (name : String) : Registry :=
  ⟨registry.definitions.erase name⟩

/-- The names of the features, in increasing order. -/
def defined (registry : Registry) : List String := registry.definitions.keys

/-- The number of features. -/
def size (registry : Registry) : Nat := registry.definitions.size

/-- Whether no feature is defined. -/
def isEmpty (registry : Registry) : Bool := registry.size == 0

/-- **The definitions that expire within some days**, in increasing order of
name. -/
def expiringWithin (registry : Registry) (now : Instant) (days : Int) : List Definition :=
  registry.definitions.values.filter (·.isExpiringSoonAt now days)

/-- The names of the features that have expired, in increasing order. -/
def expired (registry : Registry) (now : Instant) : List String :=
  (registry.definitions.toList.filter (·.2.isExpiredAt now)).map (·.1)

/-- The number of features that require others. -/
def gatedCount (registry : Registry) : Nat :=
  (registry.definitions.values.filter (!·.required.isEmpty)).length

@[simp]
theorem get?_empty (name : String) : empty.get? name = none := by
  simp [get?, empty]

theorem get?_remove (registry : Registry) (removed name : String) :
    (registry.remove removed).get? name
      = if removed = name then none else registry.get? name := by
  simp [get?, remove, Std.ExtTreeMap.getElem?_erase]

/-- A definition that is registered is found, and no other one changes. -/
theorem get?_define {registry after : Registry} {definition : Definition}
    (h : registry.define definition = .ok after) (name : String) :
    after.get? name
      = if definition.name = name then some definition else registry.get? name := by
  unfold define at h
  cases hv : definition.validate with
  | error e => simp [hv, bind, Except.bind] at h
  | ok _ =>
    simp only [hv, bind, Except.bind, pure, Except.pure, Except.ok.injEq] at h
    subst h
    simp [get?, Std.ExtTreeMap.getElem?_insert]

end Registry

end FeatureGate
