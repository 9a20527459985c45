import FeatureGate.Proofs.Persistence.Frail

/-!
# What is found out on the way to a feature

A feature is read or written only after its gate was found open, and that it was is known by
what came out of the calls for the features it requires. So what a resolution does to an open
feature can rely on what these calls came to, as long as it stays true (`Passing`).

Calls are nested, and what is found out by one of them is used by the one around it. The rule
for nested calls (`Passing.resolveNested`) says once and for all how: given what an open
feature is found to be, it gives what any feature is.
-/

namespace FeatureGate.Resolver

open Resolver.Action (Maintains Yields)

/-! ## Moments -/

/-- **A moment of an operation**: the unit of work and the record as they are then. -/
structure Moment where
  /-- The unit of work. -/
  work : Work
  /-- The record. -/
  record : Record

/-- **One moment precedes another** of the same operation, as long as this only reads: the
record goes on, and whatever row or cached value there was is as it was. -/
structure Moment.Precedes (before after : Moment) : Prop where
  /-- The definitions are the same. -/
  registry : after.work.registry = before.work.registry
  /-- The ambient scope is the same. -/
  ambient : after.work.ambient = before.work.ambient
  /-- The record goes on. -/
  history : before.record.history <+: after.record.history
  /-- Rows stay as they are. -/
  row {feature key : String} {payload : Payload} :
    before.record.rows.get? feature key = some payload →
    after.record.rows.get? feature key = some payload
  /-- Cached values stay as they are. -/
  cached {feature key : String} {value : FeatureValue} :
    before.work.cache.get? feature key = some value →
    after.work.cache.get? feature key = some value

variable {mayFail : Prop} {resolver : Resolver} {context : Context} {feature key : String}

namespace Moment.Precedes

variable {first second third origin before : Moment} {after : Work} {later : Record}

theorem refl (moment : Moment) : moment.Precedes moment :=
  ⟨rfl, rfl, List.prefix_refl _, fun h => h, fun h => h⟩

theorem trans (h : first.Precedes second) (h' : second.Precedes third) : first.Precedes third :=
  ⟨h'.registry.trans h.registry, h'.ambient.trans h.ambient, h.history.trans h'.history,
    fun hrow => h'.row (h.row hrow), fun hcached => h'.cached (h.cached hcached)⟩

/-- Which frames are in flight makes no difference. -/
theorem guard (h : origin.Precedes before) (guard : Guard) :
    origin.Precedes ⟨{ before.work with guard }, before.record⟩ :=
  ⟨h.registry, h.ambient, h.history, h.row, h.cached⟩

/-- **What becomes of an open feature** leaves rows and cached values that there were. -/
theorem of_opened {definition : Option Definition} {result : Except FeatureError FeatureValue}
    (h : Opened mayFail feature key context definition before.work before.record result after
      later) :
    before.Precedes ⟨after, later⟩ := by
  refine ⟨h.kept.registry, h.kept.ambient, h.history, fun {f k payload} hrow => ?_,
    fun {f k value} hcached => ?_⟩
  · rcases h.rows with hrows | ⟨_, _, added, hnone, -, hrows⟩
    · exact hrows ▸ hrow
    · rw [hrows, Store.Rows.get?_insert, if_neg]
      · exact hrow
      · rintro ⟨rfl, rfl⟩
        exact nomatch hnone.symm.trans hrow
  · rcases h.cache with hcache | ⟨hnone, kept, hcache⟩
    · exact hcache ▸ hcached
    · rw [hcache, Cache.get?_put, if_neg]
      · exact hcached
      · rintro ⟨rfl, rfl⟩
        exact nomatch hnone.symm.trans hcached

/-- What leaves the rows leaves everything there was. -/
theorem of_rows_eq {work : Work} {known : Record} (hrows : later.rows = known.rows)
    (hhistory : known.history <+: later.history) :
    Moment.Precedes ⟨work, known⟩ ⟨work, later⟩ :=
  ⟨rfl, rfl, hhistory, fun hrow => hrows ▸ hrow, fun hcached => hcached⟩

end Moment.Precedes

/-- **What holds as long as rows and cache are the same** has nothing to do with frames and
reports. -/
theorem Tolerant.of_same {inv : Moment → Prop}
    (hsame : ∀ {before after : Moment}, inv before → before.Precedes after →
      after.record.rows = before.record.rows → after.work.cache = before.work.cache → inv after) :
    Tolerant (Record.frail mayFail) fun work known => inv ⟨work, known⟩ where
  guard guard h := hsame h ((Moment.Precedes.refl _).guard guard) rfl rfl
  allows _ _ := trivial
  gives _ _ h haside hgives :=
    have hrows := Record.rows_of_aside haside hgives
    hsame h (.of_rows_eq hrows (Record.history_of_gives hgives)) hrows rfl

theorem Moment.Precedes.tolerant (mayFail : Prop) (origin : Moment) :
    Tolerant (Record.frail mayFail) fun work known => origin.Precedes ⟨work, known⟩ :=
  .of_same fun h hprecedes _ _ => h.trans hprecedes

/-- Two invariants are one. -/
theorem Tolerant.and {γ : Type} {protocol : Protocol interface γ} {inv inv' : Work → γ → Prop}
    (h : Tolerant protocol inv) (h' : Tolerant protocol inv') :
    Tolerant protocol fun work known => inv work known ∧ inv' work known where
  guard guard hinv := ⟨h.guard guard hinv.1, h'.guard guard hinv.2⟩
  allows hinv := h.allows hinv.1
  gives request _ hinv haside hgives :=
    ⟨h.gives request hinv.1 haside hgives, h'.gives request hinv.2 haside hgives⟩

/-! ## Gates -/

variable {inv : Moment → Prop} {found : String → FeatureValue → Moment → Prop}

/-- **What holds wherever an action ends**: the invariant, and that nothing was lost. -/
structure Ends {α : Type} (mayFail : Prop) (inv : Moment → Prop) (before : Moment)
    (result : Except FeatureError α) (after : Moment) : Prop where
  /-- The invariant holds. -/
  inv : inv after
  /-- Nothing was lost. -/
  precedes : before.Precedes after
  /-- There may be failures, if this is one. -/
  failure {error : FeatureError} : result = .error error → mayFail

namespace Ends

variable {α β : Type} {before middle after : Moment}

theorem ok (hinv : inv after) (hprecedes : before.Precedes after) (a : α) :
    Ends mayFail inv before (.ok a) after := by
  refine ⟨hinv, hprecedes, ?_⟩
  rintro _ ⟨⟩

/-- Whatever was to come of it, a failure is one. -/
theorem error {error : FeatureError}
    (h : Ends mayFail inv before (.error error : Except FeatureError β) after) :
    Ends mayFail inv before (.error error : Except FeatureError α) after :=
  ⟨h.inv, h.precedes, fun _ => h.failure rfl⟩

theorem trans {result : Except FeatureError α} (hbefore : before.Precedes middle)
    (h : Ends mayFail inv middle result after) : Ends mayFail inv before result after :=
  ⟨h.inv, hbefore.trans h.precedes, h.failure⟩

end Ends

/-- **How a call for a feature turns out**: if it came to anything but an inactive feature, that
was found. -/
structure Turnout (mayFail : Prop) (inv : Moment → Prop)
    (found : String → FeatureValue → Moment → Prop) (feature : String) (before : Moment)
    (result : Except FeatureError FeatureValue) (after : Moment) : Prop
    extends Ends mayFail inv before result after where
  /-- The value was found. -/
  found {value : FeatureValue} : result = .ok value → value ≠ .inactive →
    found feature value after

/-- **A gate that was found open**: a reading of the clock was not past the expiry of the
definition, and all features that it requires were found active. -/
structure Passed (inv : Moment → Prop) (found : String → FeatureValue → Moment → Prop)
    (definition : Definition) (moment : Moment) : Prop where
  /-- The clock was read. -/
  unexpired : ∃ begun now, inv begun ∧ begun.record.Asked moment.record ⟨.clock, now⟩
    ∧ definition.isExpiredAt now = false
  /-- The features required were found active. -/
  required : ∀ r ∈ definition.required, ∃ value : FeatureValue, value.isActive ∧
    found r value moment

/-- **What there is to know of open features** to tell what resolving any feature comes to,
for one context: some features, and with each of them those it requires. -/
structure Passing (mayFail : Prop) (inv : Moment → Prop)
    (found : String → FeatureValue → Moment → Prop) (resolver : Resolver) (context : Context)
    (among : String → Prop) : Prop where
  /-- The invariant has nothing to do with frames and reports. -/
  tolerant : Tolerant (Record.frail mayFail) fun work known => inv ⟨work, known⟩
  /-- What is required of one of the features is one of them. -/
  required {feature : String} {moment : Moment} {definition : Definition} :
    among feature → inv moment → moment.work.registry.get? feature = some definition →
    ∀ r ∈ definition.required, among r
  /-- What was found stays true. -/
  stable {feature : String} {value : FeatureValue} {before after : Moment} :
    before.Precedes after → found feature value before → found feature value after
  /-- What becomes of an open feature maintains the invariant. -/
  opened {feature : String} {before : Moment} {result : Except FeatureError FeatureValue}
    {after : Work} {later : Record} : among feature → inv before →
    (∀ definition, before.work.registry.get? feature = some definition →
      Passed inv found definition before) →
    Opened mayFail feature (resolver.keyUnder before.work.ambient context) context
      (before.work.registry.get? feature) before.work before.record result after later →
    inv ⟨after, later⟩
  /-- A value that an open feature comes to is found. -/
  found {feature : String} {value : FeatureValue} {before passing after : Moment} {depth : Nat} :
    among feature → inv before → inv after → before.Precedes passing → passing.Precedes after →
    (∀ definition, before.work.registry.get? feature = some definition →
      Passed inv found definition passing) →
    ((resolver.resolveNested (fun _ _ => return .inactive) depth feature context).program
      before.work).Comes (Record.frail mayFail) before.record (.ok value, after.work)
      after.record → found feature value after

namespace Passing

variable {again : String → Context → Action FeatureValue} {among : String → Prop}
  {before : Moment}

/-- **Features are found active** one after another, or one of them is not. -/
theorem allOpen (h : Passing mayFail inv found resolver context among) {required : List String}
    (hagain : ∀ r ∈ required, ∀ before, inv before → (again r context).Yields
      (Record.frail mayFail) before.work before.record fun result after later =>
        Turnout mayFail inv found r before result ⟨after, later⟩)
    (hinv : inv before) :
    (allOpen again context required).Yields (Record.frail mayFail) before.work before.record
      fun result after later => Ends mayFail inv before result ⟨after, later⟩
        ∧ (result = .ok true → ∀ r ∈ required, ∃ value : FeatureValue, value.isActive ∧
          found r value ⟨after, later⟩) := by
  induction required generalizing before with
  | nil => exact .pure ⟨.ok hinv (.refl _) _, fun _ _ hr => absurd hr List.not_mem_nil⟩
  | cons r rest ih =>
    obtain ⟨hr, hrest⟩ := List.forall_mem_cons.mp hagain
    unfold Resolver.allOpen
    refine .bind (hr before hinv) ?_ ?_
    · rintro value after later hturnout
      split
      · rename_i hactive
        have hne : value ≠ .inactive := by
          rintro rfl
          exact absurd hactive (by decide)
        refine (ih hrest hturnout.inv).mono ?_
        rintro result last latest ⟨hends, hall⟩
        refine ⟨.trans hturnout.precedes hends, fun hresult => ?_⟩
        exact List.forall_mem_cons.mpr
          ⟨⟨value, hactive, h.stable hends.precedes (hturnout.found rfl hne)⟩, hall hresult⟩
      · refine .pure ⟨.ok hturnout.inv hturnout.precedes _, ?_⟩
        rintro ⟨⟩
    · rintro error after later hturnout
      refine ⟨.error hturnout.toEnds, ?_⟩
      rintro ⟨⟩

/-- **A gate** is found open if it has not expired, and what it requires is active. -/
theorem gateOpen (h : Passing mayFail inv found resolver context among) {definition : Definition}
    (hagain : ∀ r ∈ definition.required, ∀ before, inv before → (again r context).Yields
      (Record.frail mayFail) before.work before.record fun result after later =>
        Turnout mayFail inv found r before result ⟨after, later⟩)
    (feature key : String) (hinv : inv before) :
    (resolver.gateOpen again definition feature context key).Yields (Record.frail mayFail)
      before.work before.record fun result after later =>
        Ends mayFail inv before result ⟨after, later⟩
          ∧ (result = .ok true → Passed inv found definition ⟨after, later⟩) := by
  have htolerant := h.tolerant.and (Moment.Precedes.tolerant mayFail before)
  have hbegun : inv ⟨before.work, before.record⟩ ∧ before.Precedes ⟨before.work, before.record⟩ :=
    ⟨hinv, .refl _⟩
  have hclosed : ∀ {work known}, inv ⟨work, known⟩ ∧ before.Precedes ⟨work, known⟩ →
      Ends mayFail inv before (.ok false) ⟨work, known⟩
        ∧ ((.ok false : Except FeatureError Bool) = .ok true →
          Passed inv found definition ⟨work, known⟩) := by
    refine fun hsofar => ⟨.ok hsofar.1 hsofar.2 _, ?_⟩
    rintro ⟨⟩
  unfold Resolver.gateOpen
  refine .ask_bind trivial fun (now : Instant) read hgives => ?_
  have hread := htolerant.gives .clock hbegun trivial hgives
  have hasked : before.record.Asked read ⟨.clock, now⟩ := .of_gives hgives
  split
  · exact .pure (hclosed hread)
  · rename_i hunexpired
    have hreading : ∀ {later : Record}, read.history <+: later.history →
        ∃ begun now, inv begun ∧ begun.record.Asked later ⟨.clock, now⟩
          ∧ definition.isExpiredAt now = false :=
      fun hhistory => ⟨before, now, hinv, hasked.onward hhistory, by simpa using hunexpired⟩
    split
    · rename_i hempty
      refine .pure ⟨.ok hread.1 hread.2 _, fun _ => ⟨hreading (List.prefix_refl _), ?_⟩⟩
      rw [List.isEmpty_iff.mp hempty]
      exact fun _ hr => absurd hr List.not_mem_nil
    · refine .enter_bind (fun inside _ => ?_) fun _ => ?_
      · -- the frame is in flight while the features required are resolved
        have hinside := htolerant.guard inside hread
        have hattempt : (attempt (Resolver.allOpen again context definition.required)).Yields
            (Record.frail mayFail) { before.work with guard := inside } read
            fun outcome after later => ∃ result, outcome = .ok result
              ∧ Ends mayFail inv ⟨{ before.work with guard := inside }, read⟩ result ⟨after, later⟩
              ∧ (result = .ok true → ∀ r ∈ definition.required, ∃ value : FeatureValue,
                value.isActive ∧ found r value ⟨after, later⟩) :=
          .attempt ((h.allOpen hagain hinside.1).mono fun result _ _ hall => ⟨result, rfl, hall⟩)
        refine .bind hattempt ?_ ?_
        · rintro _ after later ⟨result, ⟨⟩, hends, hfound⟩
          have hleft := htolerant.guard after.guard.leave
            ⟨hends.inv, hinside.2.trans hends.precedes⟩
          refine .modify_bind (.ofExcept ⟨⟨hleft.1, hleft.2, hends.failure⟩, fun hresult => ?_⟩)
          refine ⟨hreading hends.precedes.history, fun r hr => ?_⟩
          obtain ⟨value, hactive, hvalue⟩ := hfound hresult r hr
          exact ⟨value, hactive, h.stable (Moment.Precedes.guard (.refl _) _) hvalue⟩
        · rintro _ _ _ ⟨_, ⟨⟩, -⟩
      · -- the frame is met again, which is reported
        refine .ask_bind trivial fun _ warned hgives => ?_
        have hwarned := htolerant.gives (.warn _) hread trivial hgives
        exact .get_bind (htolerant.emit_bind hwarned fun _ hreported => .pure (hclosed hreported))

/-- **One step of a resolution**: if it comes to anything but an inactive feature, the gate was
passed. -/
theorem resolveStep (h : Passing mayFail inv found resolver context among)
    (hagain : ∀ r, among r → ∀ before, inv before → (again r context).Yields
      (Record.frail mayFail) before.work before.record fun result after later =>
        Turnout mayFail inv found r before result ⟨after, later⟩)
    (hamong : among feature) (hinv : inv before) :
    (resolver.resolveStep again feature context).Yields (Record.frail mayFail) before.work
      before.record fun result after later => Ends mayFail inv before result ⟨after, later⟩
        ∧ ∀ value, result = .ok value → value ≠ .inactive →
          ∃ passing, before.Precedes passing ∧ passing.Precedes ⟨after, later⟩
            ∧ ∀ definition, before.work.registry.get? feature = some definition →
              Passed inv found definition passing := by
  -- once the gate was passed, all that is left is to resolve an open feature
  have hopen : ∀ passing : Moment, inv passing → before.Precedes passing →
      (∀ definition, before.work.registry.get? feature = some definition →
        Passed inv found definition passing) →
      (resolver.resolveOpen feature context (resolver.keyUnder before.work.ambient context)
        (before.work.registry.get? feature)).Yields (Record.frail mayFail) passing.work
        passing.record fun result after later => Ends mayFail inv before result ⟨after, later⟩
          ∧ ∀ value, result = .ok value → value ≠ .inactive →
            ∃ passing, before.Precedes passing ∧ passing.Precedes ⟨after, later⟩
              ∧ ∀ definition, before.work.registry.get? feature = some definition →
                Passed inv found definition passing := by
    intro passing hinv hprecedes hpassed
    rw [← hprecedes.registry] at hpassed ⊢
    rw [← hprecedes.ambient]
    refine (yields_resolveOpen_opened ..).mono fun result after later hopened => ?_
    have hafter : passing.Precedes ⟨after, later⟩ := .of_opened hopened
    exact ⟨⟨h.opened hamong hinv hpassed hopened, hprecedes.trans hafter, hopened.failure⟩,
      fun _ _ _ => ⟨passing, hprecedes, hafter, hpassed⟩⟩
  have hrequired : ∀ definition, before.work.registry.get? feature = some definition →
      ∀ r ∈ definition.required, among r := fun _ => h.required hamong hinv
  unfold Resolver.resolveStep
  refine .contextKey_bind (.get_bind ?_)
  dsimp only
  -- the definition is looked up once, so what is known of it is split with it
  revert hopen hrequired
  cases before.work.registry.get? feature with
  | none =>
    intro hopen _
    refine hopen before hinv (.refl _) ?_
    rintro _ ⟨⟩
  | some definition =>
    intro hopen hrequired
    refine .bind (h.gateOpen (fun r hr => hagain r (hrequired definition rfl r hr)) _ _ hinv) ?_ ?_
    · rintro isOpen after later ⟨hends, hpassed⟩
      cases isOpen with
      | true =>
        exact hopen ⟨after, later⟩ hends.inv hends.precedes
          fun _ hdefinition => Option.some.inj hdefinition ▸ hpassed rfl
      | false =>
        refine .pure ⟨.ok hends.inv hends.precedes _, fun value hvalue hne => ?_⟩
        exact absurd (Except.ok.inj hvalue).symm hne
    · rintro error after later ⟨hends, -⟩
      refine ⟨.error hends, ?_⟩
      rintro _ ⟨⟩

/-- **Nested calls** turn out as what is known of open features says. -/
theorem resolveNested (h : Passing mayFail inv found resolver context among) (depth : Nat)
    (hamong : among feature) (hinv : inv before) :
    (resolver.resolveNested (fun _ _ => return .inactive) depth feature context).Yields
      (Record.frail mayFail) before.work before.record fun result after later =>
        Turnout mayFail inv found feature before result ⟨after, later⟩ := by
  induction depth generalizing feature before with
  | zero =>
    exact .pure ⟨.ok hinv (.refl _) _, fun hvalue hne => absurd (Except.ok.inj hvalue).symm hne⟩
  | succ depth ih =>
    have hstep := h.resolveStep (fun r hr before hbefore => ih hr hbefore) hamong hinv
    refine Program.Follows.mono (Program.Follows.comes hstep) ?_
    rintro ⟨result, after⟩ later ⟨⟨hends, hpassed⟩, hcomes⟩
    refine ⟨hends, fun {value} hvalue hne => ?_⟩
    obtain ⟨passing, hbefore, hpassing, hgate⟩ := hpassed value hvalue hne
    obtain rfl : result = .ok value := hvalue
    have hnested : ((resolver.resolveNested (fun _ _ => return .inactive) (depth + 1) feature
        context).program before.work).Comes (Record.frail mayFail) before.record
          (.ok value, after) later := hcomes
    exact h.found hamong hinv hends.inv hbefore hpassing hgate hnested

/-- **Resolving a feature** turns out as what is known of open features says. -/
theorem resolve (h : Passing mayFail inv found resolver context among) (hamong : among feature)
    (hinv : inv before) :
    (resolver.resolve feature context).Yields (Record.frail mayFail) before.work before.record
      fun result after later => Turnout mayFail inv found feature before result ⟨after, later⟩ := by
  have hempty := h.tolerant.guard .empty hinv
  have hbefore : before.Precedes ⟨{ before.work with guard := .empty }, before.record⟩ :=
    (Moment.Precedes.refl before).guard .empty
  unfold Resolver.resolve
  refine .modify_bind (.get_bind ?_)
  exact (h.resolveNested _ hamong hempty).mono fun _ _ _ hturnout =>
    ⟨.trans hbefore hturnout.toEnds, hturnout.found⟩

end Passing

end FeatureGate.Resolver
