import FeatureGate.Proofs.Nesting.Passing
import FeatureGate.Proofs.Resolution.Footprint

/-!
# What a read may touch

Resolving a feature is a read that may write: values are stored the first time that they are
asked for, and kept in the cache. What is touched is nevertheless little, and it is told here
to the last row, whatever the store is like as long as a call of it that fails has no effect,
and however the resolution ends (`Resolver.touched_resolve`).

Nothing that was there is changed. A row that is added is one of the context, for the feature
asked for or one that it requires, and then the gate of this feature was found open in the same
resolution: the clock was read, and all features required came out active in calls that are
part of it (`FoundActive`). So a feature without a definition never gets a row, and neither does
one that has expired.
-/

namespace FeatureGate

open Store (Rows)

namespace Resolver

/-! ## What was found out -/

/-- **A nested call came to a value** between two moments: it began after the first, ended
before the second, and this is what it came to on the replies in between. -/
def CameTo (resolver : Resolver) (context : Context) (start : Moment) (feature : String)
    (value : FeatureValue) (final : Moment) : Prop :=
  ∃ (depth : Nat) (begun ended : Moment), start.Precedes begun ∧ ended.Precedes final
    ∧ ((resolver.resolveNested (fun _ _ => return .inactive) depth feature context).program
      begun.work).Comes (Record.frail True) begun.record (.ok value, ended.work) ended.record

/-- **A feature was found active** between two moments. -/
def FoundActive (resolver : Resolver) (context : Context) (start final : Moment)
    (feature : String) : Prop :=
  ∃ value : FeatureValue, value.isActive ∧ resolver.CameTo context start feature value final

/-- **The gate of a definition was found open** between two moments. -/
structure FoundOpen (resolver : Resolver) (context : Context) (start final : Moment)
    (definition : Definition) : Prop where
  /-- The clock was read, and the definition had not expired. -/
  unexpired : ∃ now, start.record.Asked final.record ⟨.clock, now⟩
    ∧ definition.isExpiredAt now = false
  /-- All features that it requires were found active. -/
  required : ∀ r ∈ definition.required, resolver.FoundActive context start final r

/-- **What may be touched** when a feature is resolved: what is of the context, for a feature that
is needed, and whose gate was found open if it has a definition. -/
structure MayTouch (resolver : Resolver) (feature : String) (context : Context)
    (start final : Moment) (g k : String) : Prop where
  /-- It is of the context. -/
  key : k = resolver.keyUnder start.work.ambient context
  /-- It is for the feature, or for one that this requires, directly or through others. -/
  needed : start.work.registry.Needs feature g
  /-- The gate was found open. -/
  isOpen {definition : Definition} : start.work.registry.get? g = some definition →
    resolver.FoundOpen context start final definition

/-- **What the resolution of a feature has touched** from one moment to another. -/
structure Touched (resolver : Resolver) (feature : String) (context : Context)
    (start final : Moment) : Prop where
  /-- No row and no cached value that there was has changed, and neither have the definitions. -/
  precedes : start.Precedes final
  /-- A row that was added may be touched, and has what a definition was evaluated to. -/
  row_added {g k : String} {payload : Payload} : start.record.rows.get? g k = none →
    final.record.rows.get? g k = some payload →
    resolver.MayTouch feature context start final g k
      ∧ ∃ definition, start.work.registry.get? g = some definition
        ∧ start.record.Evaluated final.record definition context k payload
  /-- A value that was cached may be touched. -/
  cached_added {g k : String} {value : FeatureValue} : start.work.cache.get? g k = none →
    final.work.cache.get? g k = some value → resolver.MayTouch feature context start final g k

variable {resolver : Resolver} {context : Context} {feature g : String} {value : FeatureValue}
  {start moment later : Moment} {definition : Definition}

theorem CameTo.precedes (h : resolver.CameTo context start feature value moment)
    (hlater : moment.Precedes later) : resolver.CameTo context start feature value later := by
  obtain ⟨depth, begun, ended, hbegun, hended, hcomes⟩ := h
  exact ⟨depth, begun, ended, hbegun, hended.trans hlater, hcomes⟩

theorem FoundOpen.precedes (h : resolver.FoundOpen context start moment definition)
    (hlater : moment.Precedes later) : resolver.FoundOpen context start later definition := by
  obtain ⟨now, hasked, hunexpired⟩ := h.unexpired
  refine ⟨⟨now, hasked.onward hlater.history, hunexpired⟩, fun r hr => ?_⟩
  obtain ⟨value, hactive, hcame⟩ := h.required r hr
  exact ⟨value, hactive, hcame.precedes hlater⟩

theorem MayTouch.precedes {k : String} (h : resolver.MayTouch feature context start moment g k)
    (hlater : moment.Precedes later) : resolver.MayTouch feature context start later g k :=
  ⟨h.key, h.needed, fun hdefinition => (h.isOpen hdefinition).precedes hlater⟩

/-- A gate that was passed was found open. -/
theorem FoundOpen.of_passed
    (h : Passed (resolver.Touched feature context start) (resolver.CameTo context start) definition
      moment) : resolver.FoundOpen context start moment definition := by
  obtain ⟨begun, now, hbegun, hasked, hunexpired⟩ := h.unexpired
  exact ⟨⟨now, hasked.earlier hbegun.precedes.history, hunexpired⟩, h.required⟩

namespace Touched

theorem refl (resolver : Resolver) (feature : String) (context : Context) (start : Moment) :
    resolver.Touched feature context start start :=
  ⟨.refl _, fun hnone hsome => (nomatch hnone.symm.trans hsome),
    fun hnone hsome => (nomatch hnone.symm.trans hsome)⟩

/-- **What is touched later** may be touched: it is enough to look at what is added. -/
theorem extend (h : resolver.Touched feature context start moment) (hlater : moment.Precedes later)
    (hrow : ∀ {f k payload}, moment.record.rows.get? f k = none →
      later.record.rows.get? f k = some payload → resolver.MayTouch feature context start later f k
        ∧ ∃ definition, start.work.registry.get? f = some definition
          ∧ start.record.Evaluated later.record definition context k payload)
    (hcached : ∀ {f k value}, moment.work.cache.get? f k = none →
      later.work.cache.get? f k = some value →
      resolver.MayTouch feature context start later f k) :
    resolver.Touched feature context start later := by
  refine ⟨h.precedes.trans hlater, fun {f k payload} hnone hsome => ?_,
    fun {f k value} hnone hsome => ?_⟩
  · cases hmiddle : moment.record.rows.get? f k with
    | none => exact hrow hmiddle hsome
    | some old =>
      obtain rfl : old = payload := Option.some.inj ((hlater.row hmiddle).symm.trans hsome)
      obtain ⟨htouch, d, hd, hevaluated⟩ := h.row_added hnone hmiddle
      exact ⟨htouch.precedes hlater, d, hd, hevaluated.onward hlater.history⟩
  · cases hmiddle : moment.work.cache.get? f k with
    | none => exact hcached hmiddle hsome
    | some old => exact (h.cached_added hnone hmiddle).precedes hlater

/-- Nothing is touched as long as the rows and the cache are the same. -/
theorem same (h : resolver.Touched feature context start moment) (hlater : moment.Precedes later)
    (hrows : later.record.rows = moment.record.rows)
    (hcache : later.work.cache = moment.work.cache) :
    resolver.Touched feature context start later :=
  h.extend hlater (fun hnone hsome => nomatch (hrows ▸ hnone).symm.trans hsome)
    fun hnone hsome => nomatch (hcache ▸ hnone).symm.trans hsome

/-- **What becomes of an open feature** may be touched. -/
theorem opened (h : resolver.Touched feature context start moment)
    (hneeds : start.work.registry.Needs feature g)
    (hopen : ∀ definition, start.work.registry.get? g = some definition →
      resolver.FoundOpen context start moment definition)
    {result : Except FeatureError FeatureValue} {after : Work} {known : Record}
    (hopened : Opened True g (resolver.keyUnder start.work.ambient context) context
      (start.work.registry.get? g) moment.work moment.record result after known) :
    resolver.Touched feature context start ⟨after, known⟩ := by
  have hlater : moment.Precedes ⟨after, known⟩ := .of_opened hopened
  have htouch : resolver.MayTouch feature context start ⟨after, known⟩ g
      (resolver.keyUnder start.work.ambient context) :=
    ⟨rfl, hneeds, fun {d} hd => (hopen d hd).precedes hlater⟩
  refine h.extend hlater (fun {f k payload} hnone hsome => ?_) fun {f k value} hnone hsome => ?_
  · rcases hopened.rows with hrows | ⟨d, hd, added, -, hevaluated, hrows⟩
    · exact nomatch (hrows ▸ hnone).symm.trans hsome
    · rw [hrows, Rows.get?_insert] at hsome
      split at hsome
      · rename_i hat
        obtain ⟨rfl, rfl⟩ := hat
        obtain rfl := Option.some.inj hsome
        exact ⟨htouch, d, hd, hevaluated.earlier h.precedes.history⟩
      · exact nomatch hnone.symm.trans hsome
  · rcases hopened.cache with hcache | ⟨-, kept, hcache⟩
    · exact nomatch (hcache ▸ hnone).symm.trans hsome
    · rw [hcache, Cache.get?_put] at hsome
      split at hsome
      · rename_i hat
        obtain ⟨rfl, rfl⟩ := hat
        exact htouch
      · exact nomatch hnone.symm.trans hsome

theorem tolerant (resolver : Resolver) (feature : String) (context : Context) (start : Moment) :
    Tolerant (Record.frail True) fun work known =>
      resolver.Touched feature context start ⟨work, known⟩ :=
  .of_same fun h => h.same

/-- **What is found out on the way** is what calls came to, and nothing else is touched. -/
theorem passing (resolver : Resolver) (feature : String) (context : Context) (start : Moment) :
    Passing True (resolver.Touched feature context start) (resolver.CameTo context start) resolver
      context (start.work.registry.Needs feature) where
  tolerant := tolerant resolver feature context start
  required hneeds h hdefinition r hr :=
    hneeds.tail ⟨_, h.precedes.registry ▸ hdefinition, hr⟩
  stable hprecedes hcame := hcame.precedes hprecedes
  opened {g before result after later} hneeds h hpassed hopened := by
    rw [h.precedes.registry] at hpassed hopened
    rw [h.precedes.ambient] at hopened
    exact h.opened hneeds (fun d hd => .of_passed (hpassed d hd)) hopened
  found {g value before passing after depth} _ hbefore _ hprecedes hpassing _ hcomes :=
    ⟨depth, before, after, hbefore.precedes, .refl _, hcomes⟩

end Touched

variable {σ : Type}

/-- **What a resolution may touch.** Whatever surrounds the resolver, as long as calls of the
store that fail have no effect, and however the resolution ends: it changes no row and no cached
value that there was, and what it adds is for the context, and for features whose gates it found
open. -/
theorem touched_resolve (around : FrailSurroundings σ) (resolver : Resolver) (feature : String)
    (context : Context) (work : Work) (s : σ × List (Exchange interface)) :
    let ran := (((resolver.resolve feature context).program work).interpret (I := interface)
      around.recording).run s
    resolver.Touched feature context ⟨work, around.record s⟩ ⟨ran.1.2, around.record ran.2⟩ := by
  have hresolve := (Touched.passing resolver feature context ⟨work, around.record s⟩).resolve .refl
    (.refl ..)
  exact (hresolve.run around.admits_recording).inv

/-- The first write of a feature is refused without cause; it is made again, and then asking for
the groups of the context fails. The row that was added stays, and so does that of the feature
which is required: this one was found active. Of the feature itself nothing is cached. -/
theorem touched_resolve_failing :
    let resolver : Resolver := ⟨.none, .standard, true, false, none⟩
    let dark : Definition :=
      { Definition.ofRule "dark" (.constant (.bool false)) with required := ["base"] }
    let registry : Registry := ⟨((∅ : Std.ExtTreeMap String Definition).insert "dark" dark).insert
      "base" (.ofRule "base" (.constant (.bool true)))⟩
    let around := FrailSurroundings.failing Membership.none.withoutGroups
    let work : Work := .start registry none
    let s : (World Rows × List (Option StoreError)) × List (Exchange interface) :=
      ((.start .epoch ∅ ⟨[]⟩, [none, none, none, some (.conflict "dark" "ada")]), [])
    let ran := (((resolver.resolve "dark" (.scalar "ada")).program work).interpret (I := interface)
      around.recording).run s
    let start : Moment := ⟨work, around.record s⟩
    let final : Moment := ⟨ran.1.2, around.record ran.2⟩
    ran.1.1.isOk = false
      ∧ final.work.cache.get? "dark" "ada" = none
      ∧ final.record.rows.get? "dark" "ada" = some (.bool false)
      ∧ final.record.rows.get? "base" "ada" = some (.bool true)
      ∧ resolver.Touched "dark" (.scalar "ada") start final
      ∧ resolver.FoundActive (.scalar "ada") start final "base" := by
  intro resolver dark registry around work s ran start final
  have hfailed : ran.1.1.isOk = false := by decide +kernel
  have hcached : final.work.cache.get? "dark" "ada" = none := by decide +kernel
  have hrow : final.record.rows.get? "dark" "ada" = some (.bool false) := by decide +kernel
  have hbase : final.record.rows.get? "base" "ada" = some (.bool true) := by decide +kernel
  have hnone : start.record.rows.get? "dark" "ada" = none := by decide +kernel
  have hdark : start.work.registry.get? "dark" = some dark := by decide +kernel
  -- this is all there is to compute
  clear_value around work
  have htouched : resolver.Touched "dark" (.scalar "ada") start final :=
    touched_resolve around resolver "dark" (.scalar "ada") work s
  refine ⟨hfailed, hcached, hrow, hbase, htouched, ?_⟩
  exact ((htouched.row_added hnone hrow).1.isOpen hdark).required "base"
    (List.mem_singleton_self _)

end Resolver

end FeatureGate
