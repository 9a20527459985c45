import FeatureGate.Proofs.Conduct
import FeatureGate.Proofs.Crew
import FeatureGate.Proofs.Writes

/-!
# What tasks maintain

Most tasks only read: they resolve features or load their values, and what they
change otherwise is the definitions, the ambient scope and what is cached. An
invariant of all of these is one of every such task (`Action.Maintains.Reading`).
A task that writes or removes values does so by one call of the store, and
changes what is cached after it (`Action.Maintains.overwrite`).
-/

namespace FeatureGate.Resolver

/-- **A task that writes or removes values**, other than a first value. -/
def Task.IsWrite : Task → Prop
  | .operation (.set ..) | .operation (.activate ..) | .operation (.deactivate ..)
  | .operation (.activateForGroup ..) | .operation (.setForAllContexts ..)
  | .operation (.delete ..) | .operation (.purge _) | .operation .purgeExpired => True
  | _ => False

/-- **The calls of the store** by which a task of a resolver writes or removes values, under an
ambient scope. -/
def Task.WritesBy (resolver : Resolver) (ambient : Option Scope) : Task → Store.Call → Prop
  | .operation (.set feature context value), call =>
    call = .set feature (resolver.keyUnder ambient context) value
  | .operation (.activate feature context), call =>
    call = .set feature (resolver.keyUnder ambient context) (.bool true)
  | .operation (.deactivate feature context), call =>
    call = .set feature (resolver.keyUnder ambient context) (.bool false)
  | .operation (.activateForGroup feature group), call =>
    call = .set feature (resolver.keyUnder ambient (.group group)) (.bool true)
  | .operation (.setForAllContexts feature value), call => call = .setForAll feature value
  | .operation (.delete feature context), call =>
    call = .delete feature (resolver.keyUnder ambient context)
  | .operation (.purge features), call => call = .purge features
  | .operation .purgeExpired, call => ∃ names, call = .purge (some names)
  | _, _ => False

/-- **A task that defines a feature.** -/
def Task.IsDefinition : Task → Prop
  | .operation (.define _) | .operation (.defineVariant ..) => True
  | _ => False

/-- **A query**: a task that resolves features, and does nothing else. -/
def Task.IsQuery : Task → Prop
  | .operation (.resolve ..) | .operation (.resolveVariant ..) | .operation (.values ..)
  | .operation (.all _) | .operation (.allAreActive ..) | .operation (.someAreActive ..)
  | .isActive .. | .isInactive .. | .resolveDefault _ => True
  | _ => False

/-- **The definition that a task is to register**, if there is one. -/
def Task.definition? : Task → Option Definition
  | .operation (.define definition) => some definition
  | .operation (.defineVariant feature weights) =>
    (VariantTable.ofList feature weights).toOption.map fun table =>
      .ofRule feature (.variants table)
  | _ => none

namespace Action.Maintains

variable {γ : Type} {protocol : Protocol interface γ} {inv : Work → γ → Prop}
  {resolver : Resolver}

/-! ## Definitions and scopes -/

section Tolerant

variable (htolerant : Tolerant protocol inv)
include htolerant

theorem warnOfExpiry (definition : Definition) :
    (resolver.warnOfExpiry definition).Maintains protocol inv := by
  unfold Resolver.warnOfExpiry
  split
  · split
    · exact .bind (aside htolerant .clock trivial) fun _ =>
        .ite (aside htolerant (.warn _) trivial) (.pure _)
    · exact .pure _
  · exact .pure _

/-- **A definition** maintains an invariant if to put it in the registry does, with
everything forgotten that was cached for the feature. -/
theorem define {definition : Definition}
    (h : ∀ work known registry, work.registry.define definition = .ok registry →
      inv work known →
      inv { work with registry, cache := work.cache.forgetFeature definition.name } known) :
    (resolver.define definition).Maintains protocol inv := by
  unfold Resolver.define
  refine .bind (warnOfExpiry htolerant definition) fun _ => fun work known hinv => .get_bind ?_
  cases hdefine : work.registry.define definition with
  | error e => exact hinv
  | ok registry => exact h work known registry hdefine hinv

/-- **A task that defines a feature** maintains an invariant if to put its definition in the
registry does. -/
theorem definition {task : Task} (h : ∀ work known definition registry,
      task.definition? = some definition → work.registry.define definition = .ok registry →
      inv work known →
      inv { work with registry, cache := work.cache.forgetFeature definition.name } known)
    (htask : task.IsDefinition) : (task.action resolver).Maintains protocol inv := by
  cases task with
  | operation op =>
    cases op with
    | define definition => exact define htolerant fun work known registry => h work known _ _ rfl
    | defineVariant feature weights =>
      show (resolver.defineVariant feature weights).Maintains protocol inv
      unfold Resolver.defineVariant
      cases htable : VariantTable.ofList feature weights with
      | error error => exact .throw error
      | ok table =>
        have hdefinition : (Task.operation (.defineVariant feature weights)).definition?
            = some (.ofRule feature (.variants table)) := by
          simp [Task.definition?, htable, Except.toOption]
        exact define htolerant fun work known registry => h work known _ _ hdefinition
    | _ => exact htask.elim
  | _ => exact htask.elim

/-- **A write** maintains an invariant if the call of the store does, and what it
changes in the cache does. -/
theorem overwrite {call : Store.Call} (hcall : (askStore call).Maintains protocol inv)
    {change : Cache → Cache} (hchange : (modifyCache change).Maintains protocol inv)
    (event : Event) : (resolver.overwrite call change event).Maintains protocol inv :=
  .bind hcall fun _ => .bind hchange fun _ => emit htolerant event

/-- **A task that writes or removes values** maintains an invariant if the call by which it does
so does, and if nothing needs to be said of the cache. -/
theorem write {task : Task} (hwrite : task.IsWrite)
    (hcache : ∀ change, (modifyCache change).Maintains protocol inv) {work : Work} {known : γ}
    (hcall : ∀ call, task.WritesBy resolver work.ambient call →
      (askStore call).Maintains protocol inv) (hinv : inv work known) :
    (task.action resolver).Yields protocol work known fun _ after known => inv after known := by
  have hset : ∀ feature context value,
      (askStore (.set feature (resolver.keyUnder work.ambient context) value)).Maintains protocol
        inv → (resolver.set feature context value).Yields protocol work known
          fun _ after known => inv after known := by
    intro feature context value hcall
    rw [set_eq_overwrite]
    exact .contextKey_bind (overwrite htolerant hcall (hcache _) _ work known hinv)
  have hpurge : ∀ features, (askStore (.purge features)).Maintains protocol inv →
      (resolver.purge features).Maintains protocol inv := by
    intro features hcall
    rw [purge_eq_overwrite]
    exact overwrite htolerant hcall (hcache _) _
  cases task with
  | operation op =>
    cases op with
    | set | activate | deactivate | activateForGroup => exact hset _ _ _ (hcall _ rfl)
    | setForAllContexts =>
      exact overwrite htolerant (hcall _ rfl) (hcache _) _ work known hinv
    | delete => exact .contextKey_bind (overwrite htolerant (hcall _ rfl) (hcache _) _ _ _ hinv)
    | purge => exact hpurge _ (hcall _ rfl) work known hinv
    | purgeExpired =>
      have hexpired : resolver.purgeExpired.Maintains protocol inv := by
        unfold Resolver.purgeExpired
        refine .bind (aside htolerant .clock trivial) fun _ => .get_bind fun _ _ _ => ?_
        dsimp only
        split
        · exact .bind (hpurge _ (hcall _ ⟨_, rfl⟩)) fun _ => .pure _
        · exact .pure _
      exact hexpired work known hinv
    | _ => exact hwrite.elim
  | _ => exact hwrite.elim

end Tolerant

theorem setAmbientScope {scope : Option Scope}
    (h : ∀ work known, inv work known →
      inv { work with ambient := scope, cache := .empty } known) :
    (setAmbientScope scope).Maintains protocol inv := by
  unfold Resolver.setAmbientScope
  exact .get_bind fun _ _ _ => .ite (.modify h) (.pure _)

/-! ## Tasks that only read -/

/-- **A query** maintains an invariant if resolving features does. -/
theorem query (hresolve : ∀ feature context,
      (resolver.resolve feature context).Maintains protocol inv) {task : Task}
    (htask : task.IsQuery) : (task.action resolver).Maintains protocol inv := by
  cases task with
  | operation op =>
    cases op with
    | resolve => exact hresolve _ _
    | resolveVariant => exact .resolveVariant (hresolve _ _)
    | values _ context => exact .values (hresolve · context) _
    | all context => exact .all (hresolve · context)
    | allAreActive _ context => exact .allAreActive (hresolve · context) _
    | someAreActive _ context => exact .someAreActive (hresolve · context) _
    | _ => exact htask.elim
  | isActive => exact .isActive (hresolve _ _)
  | isInactive => exact .isInactive (hresolve _ _)
  | resolveDefault feature =>
    show (resolver.resolveDefault feature).Maintains protocol inv
    unfold Resolver.resolveDefault
    split
    · exact hresolve _ _
    · exact .throw _
  | _ => exact htask.elim

/-- **An invariant of everything that tasks do which only read.** -/
structure Reading (protocol : Protocol interface γ) (inv : Work → γ → Prop)
    (resolver : Resolver) : Prop where
  /-- The invariant has nothing to do with frames and reports. -/
  tolerant : Tolerant protocol inv
  /-- Features may be resolved. -/
  resolve (feature : String) (context : Context) :
    (resolver.resolve feature context).Maintains protocol inv
  /-- Values may be loaded. -/
  loadWith (skipCached : Bool) (features : List String) (contexts : List Context) :
    (resolver.loadWith skipCached features contexts).Maintains protocol inv
  /-- The store may be asked for a list of features. -/
  stored : (askStore .listStored).Maintains protocol inv
  /-- Features may be defined, if nothing is cached for them afterwards. -/
  define {work : Work} {known : γ} {definition : Definition} {registry : Registry} :
    work.registry.define definition = .ok registry → inv work known →
    inv { work with registry, cache := work.cache.forgetFeature definition.name } known
  /-- The ambient scope may change, if nothing is cached afterwards. -/
  rescope {work : Work} {known : γ} (scope : Option Scope) :
    inv work known → inv { work with ambient := scope, cache := .empty } known
  /-- Everything that is cached may be forgotten. -/
  flush {work : Work} {known : γ} :
    inv work known → inv { work with cache := .empty } known

/-- **An invariant of everything that tasks do which neither write nor define.** -/
structure Asking (protocol : Protocol interface γ) (inv : Work → γ → Prop)
    (resolver : Resolver) : Prop where
  /-- The clock may be read. -/
  clock : (ask .clock).Maintains protocol inv
  /-- Features may be resolved. -/
  resolve (feature : String) (context : Context) :
    (resolver.resolve feature context).Maintains protocol inv
  /-- Values may be loaded. -/
  loadWith (skipCached : Bool) (features : List String) (contexts : List Context) :
    (resolver.loadWith skipCached features contexts).Maintains protocol inv
  /-- The store may be asked for a list of features. -/
  stored : (askStore .listStored).Maintains protocol inv
  /-- The ambient scope may change, if nothing is cached afterwards. -/
  rescope {work : Work} {known : γ} (scope : Option Scope) :
    inv work known → inv { work with ambient := scope, cache := .empty } known
  /-- Everything that is cached may be forgotten. -/
  flush {work : Work} {known : γ} :
    inv work known → inv { work with cache := .empty } known

/-- **A task that neither writes nor defines** maintains an invariant of what such tasks do. -/
theorem Asking.task (h : Asking protocol inv resolver) {task : Task}
    (hwrite : ¬ task.IsWrite) (hdefinition : ¬ task.IsDefinition) :
    (task.action resolver).Maintains protocol inv := by
  by_cases hquery : task.IsQuery
  · exact .query h.resolve hquery
  · cases task with
    | operation op =>
      cases op with
      | set | activate | deactivate | activateForGroup | setForAllContexts | delete | purge
      | purgeExpired => exact absurd trivial hwrite
      | define | defineVariant => exact absurd trivial hdefinition
      | load => exact h.loadWith _ _ _
      | stored => exact h.stored
      | setAmbientScope => exact .setAmbientScope fun _ _ => h.rescope _
      | flushCache => exact .modify fun _ _ => h.flush
      | _ => exact absurd trivial hquery
    | loadMissing => exact h.loadWith _ _ _
    | defined => exact .get_bind fun _ _ _ => .pure _
    | expiringSoon => exact .bind h.clock fun _ => .get_bind fun _ _ _ => .pure _
    | _ => exact absurd trivial hquery

/-- Tasks that only read neither write nor define, or define. -/
theorem Reading.asking (h : Reading protocol inv resolver) : Asking protocol inv resolver where
  clock := .aside h.tolerant .clock trivial
  resolve := h.resolve
  loadWith := h.loadWith
  stored := h.stored
  rescope := h.rescope
  flush := h.flush

/-- **A task that only reads** maintains an invariant of what such tasks do. -/
theorem Reading.task (h : Reading protocol inv resolver) {task : Task}
    (htask : ¬ task.IsWrite) : (task.action resolver).Maintains protocol inv := by
  by_cases hdefinition : task.IsDefinition
  · exact .definition h.tolerant (fun _ _ _ _ _ => h.define) hdefinition
  · exact h.asking.task htask hdefinition

end Action.Maintains

end FeatureGate.Resolver
