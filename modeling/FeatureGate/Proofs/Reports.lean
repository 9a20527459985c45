import FeatureGate.Proofs.Persistence.Frail
import FeatureGate.Proofs.Requests
import FeatureGate.Proofs.Tasks

/-!
# Writes are reported truthfully

A task that writes calls the store, and does nothing else before the call was
answered. If the store refuses, that is the end, and the unit of work is as it was.
If it does not, the cached values of the features written go, and the write is
reported. So what a listener is told of writes is what the store took, in the same
order (`Resolver.writes_all_or_nothing`).

Nothing is assumed about the store, nor about anybody else who replies: any call may
fail, at any time.
-/

namespace FeatureGate

/-! ## Writes and their reports -/

/-- Whether a call writes or removes rows, other than by a first value. -/
def Store.Call.isWrite : Store.Call → Bool
  | .set .. | .setForAll .. | .delete .. | .purge _ => true
  | _ => false

/-- Whether the rows that a call writes or removes may be of a feature. -/
def Store.Call.Covers (feature : String) : Store.Call → Prop
  | .set f .. | .setForAll f _ | .delete f _ => f = feature
  | .purge (some names) => feature ∈ names
  | .purge none => True
  | _ => False

/-- **What is cached after a write** that the store took. -/
def Store.Call.recache (cache : Cache) : Store.Call → Cache
  | .set feature key value => cache.written feature key value
  | .setForAll feature _ | .delete feature _ => cache.forgetFeature feature
  | .purge features => cache.purged features
  | _ => cache

/-- **The write that an event reports**, if it reports one. -/
def Event.write? : Event → Option Store.Call
  | .updated feature key value => some (.set feature key value)
  | .updatedForAll feature value => some (.setForAll feature value)
  | .deleted feature key => some (.delete feature key)
  | .purged features => some (.purge features)
  | _ => none

/-- A write leaves what is cached of other features. -/
theorem Store.Call.get?_recache (call : Store.Call) (cache : Cache) {feature : String}
    (h : ¬ call.Covers feature) (key : String) :
    (call.recache cache).get? feature key = cache.get? feature key := by
  cases call with
  | set f k value =>
    have hne : f ≠ feature := h
    show (cache.written f k value).get? feature key = _
    unfold Cache.written
    split <;> simp [Cache.get?_put, Cache.get?_forgetFeature, hne]
  | setForAll f value => exact (cache.get?_forgetFeature f feature key).trans (if_neg h)
  | delete f k => exact (cache.get?_forgetFeature f feature key).trans (if_neg h)
  | purge features =>
    cases features with
    | some names => exact (cache.get?_foldl_forgetFeature names feature key).trans (if_neg h)
    | none => exact absurd trivial h
  | _ => rfl

theorem Event.isWrite_of_write? {event : Event} {call : Store.Call}
    (h : event.write? = some call) : call.isWrite = true := by
  cases event <;> cases h <;> rfl

/-- A request that neither the store nor the listener sees. -/
def Request.IsSilent : Request → Prop
  | .clock | .warn _ => True
  | _ => False

/-- A request that neither writes nor reports a write. -/
def Request.IsBare : Request → Prop
  | .store call => call.isWrite = false
  | .deliver event => event.write? = none
  | _ => True

theorem Request.IsSilent.isBare {request : Request} (h : request.IsSilent) :
    request.IsBare := by
  cases request with
  | clock | warn => trivial
  | _ => exact h.elim

/-- Resolutions neither write, but for first values, nor report a write. -/
theorem Request.IsOfResolution.isBare {request : Request} (h : request.IsOfResolution) :
    request.IsBare := by
  cases request with
  | store call =>
    cases call with
    | get | insert => rfl
    | _ => exact h.elim
  | deliver event =>
    cases event with
    | updated | updatedForAll | deleted | purged => exact h.elim
    | _ => rfl
  | _ => trivial

namespace Resolver

/-- The write that an exchange is about, if the store took it. -/
def taken? : Exchange interface → Option Store.Call
  | ⟨.store call, reply⟩ => if call.isWrite && Except.isOk reply then some call else none
  | _ => none

/-- **The writes that the store took**, in order. -/
def taken (transcript : List (Exchange interface)) : List Store.Call :=
  transcript.filterMap taken?

/-- **The writes that were reported**, in order. -/
def reported (transcript : List (Exchange interface)) : List Store.Call :=
  (delivered transcript).filterMap Event.write?

@[simp]
theorem taken_append (first rest : List (Exchange interface)) :
    taken (first ++ rest) = taken first ++ taken rest :=
  List.filterMap_append

@[simp]
theorem reported_append (first rest : List (Exchange interface)) :
    reported (first ++ rest) = reported first ++ reported rest := by
  unfold reported
  rw [delivered_append, List.filterMap_append]

/-- A write that the store takes is one that was taken. -/
theorem taken_cons_ok {call : Store.Call} (hwrite : call.isWrite = true) (answer : call.Answer)
    (rest : List (Exchange interface)) :
    taken (⟨.store call, (.ok answer : call.Reply)⟩ :: rest) = call :: taken rest :=
  List.filterMap_cons_some (if_pos (by rw [hwrite]; rfl))

/-- A call that fails is no write that was taken. -/
theorem taken_cons_error (call : Store.Call) (error : StoreError)
    (rest : List (Exchange interface)) :
    taken (⟨.store call, (.error error : call.Reply)⟩ :: rest) = taken rest :=
  List.filterMap_cons_none (if_neg (by simp [Except.isOk, Except.toBool]))

@[simp]
theorem taken_report (resolver : Resolver) (event : Event) :
    taken (resolver.report event) = [] := by
  unfold report
  split <;> rfl

theorem reported_report (resolver : Resolver) {event : Event} {call : Store.Call}
    (h : event.write? = some call) :
    reported (resolver.report event) = if resolver.isHeard then [call] else [] := by
  unfold reported
  rw [delivered_report]
  split
  · exact List.filterMap_cons_some h
  · rfl

variable {transcript : List (Exchange interface)}

/-- Nothing is delivered by silent requests. -/
theorem delivered_of_isSilent (h : OnlyAsks Request.IsSilent transcript) :
    delivered transcript = [] :=
  h.delivered_eq_nil fun _ => id

theorem taken_of_isBare (h : OnlyAsks Request.IsBare transcript) :
    taken transcript = [] := by
  refine List.filterMap_eq_nil_iff.mpr fun exchange hmem => ?_
  have hbare := h exchange hmem
  obtain ⟨request, reply⟩ := exchange
  cases request with
  | store call =>
    have hwrite : call.isWrite = false := hbare
    simp [taken?, hwrite]
  | _ => rfl

theorem reported_of_isBare (h : OnlyAsks Request.IsBare transcript) :
    reported transcript = [] :=
  List.filterMap_eq_nil_iff.mpr fun _ hmem => h.of_mem_delivered hmem

/-! ## Tasks that write -/

/-- **The write by which a task answered**, under an ambient scope. To purge what has
expired is to write only if anything has. -/
def Task.written? (resolver : Resolver) (ambient : Option Scope) :
    (task : Task) → task.Answer → Option Store.Call
  | .operation (.set feature context value), _ =>
    some (.set feature (resolver.keyUnder ambient context) value)
  | .operation (.activate feature context), _ =>
    some (.set feature (resolver.keyUnder ambient context) (.bool true))
  | .operation (.deactivate feature context), _ =>
    some (.set feature (resolver.keyUnder ambient context) (.bool false))
  | .operation (.activateForGroup feature group), _ =>
    some (.set feature (resolver.keyUnder ambient (.group group)) (.bool true))
  | .operation (.setForAllContexts feature value), _ => some (.setForAll feature value)
  | .operation (.delete feature context), _ =>
    some (.delete feature (resolver.keyUnder ambient context))
  | .operation (.purge features), _ => some (.purge features)
  | .operation .purgeExpired, names =>
    if names.isEmpty then none else some (.purge (some names))
  | _, _ => none

/-- **How an action that writes goes**, after silent requests. -/
inductive Writes (resolver : Resolver) {α : Type} (written? : α → Option Store.Call)
    (work : Work) : Except FeatureError α → Work → List (Exchange interface) → Prop
  /-- There was nothing to write. -/
  | idle (before : List (Exchange interface)) {answer : α} :
    OnlyAsks Request.IsSilent before → written? answer = none →
    Writes resolver written? work (.ok answer) work before
  /-- The store refused. -/
  | refused (before : List (Exchange interface)) {call : Store.Call} {error : StoreError} :
    OnlyAsks Request.IsSilent before →
    Writes resolver written? work (.error (.store error)) work
      (before ++ [⟨.store call, (.error error : call.Reply)⟩])
  /-- The store took the write, and it was reported. -/
  | taken (before : List (Exchange interface)) {answer : α} {call : Store.Call} {event : Event}
    {reply : call.Answer} :
    OnlyAsks Request.IsSilent before → event.write? = some call →
    written? answer = some call →
    Writes resolver written? work (.ok answer) { work with cache := call.recache work.cache }
      (before ++ ⟨.store call, (.ok reply : call.Reply)⟩ :: resolver.report event)

variable {resolver : Resolver} {work : Work}

/-- Silent requests may be made first, and the answer may be another one for the same write. -/
theorem Writes.after {α β : Type} {written? : α → Option Store.Call}
    {written?' : β → Option Store.Call} {result : Except FeatureError α} {after : Work}
    {rest : List (Exchange interface)} (h : Writes resolver written? work result after rest)
    (answer : α → β) (hanswer : ∀ a, written?' (answer a) = written? a)
    {before : List (Exchange interface)} (hbefore : OnlyAsks Request.IsSilent before) :
    Writes resolver written?' work (result.map answer) after (before ++ rest) := by
  cases h with
  | idle rest hrest hnone =>
    exact .idle _ (hbefore.append hrest) ((hanswer _).trans hnone)
  | refused rest hrest =>
    rw [← List.append_assoc]
    exact .refused _ (hbefore.append hrest)
  | taken rest hrest hevent hsome =>
    rw [← List.append_assoc]
    exact .taken _ (hbefore.append hrest) hevent ((hanswer _).trans hsome)

/-- A write that fails changes nothing, and nobody is told. -/
theorem Writes.of_error {α : Type} {written? : α → Option Store.Call}
    {result : Except FeatureError α} {after : Work} {transcript : List (Exchange interface)}
    (h : Writes resolver written? work result after transcript) {error : FeatureError}
    (herror : result = .error error) : after = work ∧ delivered transcript = [] := by
  cases h with
  | idle | taken => cases herror
  | refused before hsilent =>
    rw [delivered_append, delivered_of_isSilent hsilent]
    exact ⟨rfl, rfl⟩

/-- A write that does not fail is the one that was answered with. -/
theorem Writes.of_ok {α : Type} {written? : α → Option Store.Call}
    {result : Except FeatureError α} {after : Work} {transcript : List (Exchange interface)}
    (h : Writes resolver written? work result after transcript) {answer : α}
    (hok : result = .ok answer) :
    match written? answer with
    | none => after = work ∧ delivered transcript = []
    | some call => after = { work with cache := call.recache work.cache }
        ∧ ∃ before reply event,
          transcript = before ++ ⟨.store call, (.ok reply : call.Reply)⟩ :: resolver.report event
            ∧ OnlyAsks Request.IsSilent before ∧ event.write? = some call
            ∧ delivered transcript = if resolver.isHeard then [event] else [] := by
  cases h with
  | refused => cases hok
  | idle _ hsilent hnone =>
    cases hok
    rw [hnone]
    exact ⟨rfl, delivered_of_isSilent hsilent⟩
  | @taken before _ call event reply hsilent hevent hsome =>
    cases hok
    rw [hsome]
    refine ⟨rfl, before, reply, event, rfl, hsilent, hevent, ?_⟩
    rw [delivered_append, delivered_of_isSilent hsilent, List.nil_append, delivered_cons_store,
      delivered_report]

/-- **A write** that the store refuses changes nothing, and one that it takes is reported. -/
theorem transcribes_overwrite {call : Store.Call} {event : Event}
    (hevent : event.write? = some call) :
    (resolver.overwrite call call.recache event).Transcribes work
      (Writes resolver (fun _ => some call) work) := by
  unfold overwrite
  exact .askStore_bind (fun reply => .modify_bind (.emit (.taken [] .nil hevent rfl)))
    fun error => .refused [] .nil

theorem transcribes_set (feature : String) (context : Context) (value : Payload) :
    (resolver.set feature context value).Transcribes work
      (Writes resolver
        (fun _ => some (.set feature (resolver.keyUnder work.ambient context) value)) work) := by
  rw [set_eq_overwrite]
  exact .contextKey_bind (transcribes_overwrite rfl)

theorem transcribes_purge (features : Option (List String)) :
    (resolver.purge features).Transcribes work
      (Writes resolver (fun _ => some (.purge features)) work) := by
  rw [purge_eq_overwrite]
  exact transcribes_overwrite rfl

/-- **To purge what has expired** is to read the clock, and to purge if anything has. -/
theorem transcribes_purgeExpired :
    resolver.purgeExpired.Transcribes work (Writes resolver
      (fun names => if names.isEmpty then none else some (.purge (some names))) work) := by
  unfold purgeExpired
  refine .ask_bind fun now => .get_bind ?_
  have hclock : OnlyAsks Request.IsSilent [⟨.clock, now⟩] := .cons trivial .nil
  generalize hexpired : work.registry.expired now = expired
  dsimp only
  split
  · rename_i hsome
    have hpurged : (if expired.isEmpty then none else some (Store.Call.purge (some expired)))
        = some (.purge (some expired)) := if_neg (by simpa using hsome)
    refine .bind (transcribes_purge (some expired)) (fun _ after rest hwrites => .pure ?_)
      fun _ after rest hwrites => hwrites.after (fun _ => expired) (fun _ => hpurged) hclock
    rw [List.append_nil]
    exact hwrites.after (fun _ => expired) (fun _ => hpurged) hclock
  · rename_i hnone
    refine .idle [⟨.clock, now⟩] hclock (if_pos (by simpa using hnone))

/-- **A task that writes** goes as it should, whatever it is replied. -/
theorem Task.transcribes_write {task : Task} (hwrite : task.IsWrite) (resolver : Resolver)
    (work : Work) :
    (task.action resolver).Transcribes work
      (Writes resolver (task.written? resolver work.ambient) work) := by
  cases task with
  | operation op =>
    cases op with
    | set feature context value => exact transcribes_set feature context value
    | activate feature context => exact transcribes_set feature context (.bool true)
    | deactivate feature context => exact transcribes_set feature context (.bool false)
    | activateForGroup feature group => exact transcribes_set feature (.group group) (.bool true)
    | setForAllContexts feature value => exact transcribes_overwrite rfl
    | delete feature context => exact .contextKey_bind (transcribes_overwrite rfl)
    | purge features => exact transcribes_purge features
    | purgeExpired => exact transcribes_purgeExpired
    | _ => exact hwrite.elim
  | _ => exact hwrite.elim

/-! ## Tasks that define -/

/-- Registering a definition starts with silent requests. -/
theorem transcribes_warnOfExpiry (definition : Definition) :
    (resolver.warnOfExpiry definition).Transcribes work fun result after transcript =>
      result = .ok () ∧ after = work ∧ OnlyAsks Request.IsSilent transcript := by
  unfold warnOfExpiry
  split
  · split
    · refine .ask_bind fun now => ?_
      split
      · exact .ask_bind fun _ => .pure ⟨rfl, rfl, .cons trivial (.cons trivial .nil)⟩
      · exact .pure ⟨rfl, rfl, .cons trivial .nil⟩
    · exact .pure ⟨rfl, rfl, .nil⟩
  · exact .pure ⟨rfl, rfl, .nil⟩

/-- **Registering a definition**: one that is refused changes nothing, and nobody is told of
either but the log. -/
theorem transcribes_define (definition : Definition) :
    (resolver.define definition).Transcribes work fun result after transcript =>
      OnlyAsks Request.IsSilent transcript
        ∧ match work.registry.define definition with
          | .error error => result = .error error ∧ after = work
          | .ok registry => result = .ok () ∧ after =
              { work with registry, cache := work.cache.forgetFeature definition.name } := by
  unfold define
  refine .bind (transcribes_warnOfExpiry definition) ?_ ?_
  · rintro _ after before ⟨-, rfl, hbefore⟩
    refine .get_bind ?_
    cases after.registry.define definition with
    | error error => exact .throw ⟨hbefore.append .nil, rfl, rfl⟩
    | ok registry => exact .modify_bind (.pure ⟨hbefore.append .nil, rfl, rfl⟩)
  · rintro _ _ _ ⟨⟨⟩, -⟩

/-- **How a task that defines a feature goes**: nothing changes, or its definition is registered
and what was cached for the feature goes. -/
structure Task.Defines (task : Task) (work : Work) (result : Except FeatureError task.Answer)
    (after : Work) (transcript : List (Exchange interface)) : Prop where
  /-- Nobody is told but the log. -/
  silent : OnlyAsks Request.IsSilent transcript
  /-- A failure changes nothing. -/
  failed {error : FeatureError} : result = .error error → after = work
  /-- A definition that is found fit is registered. -/
  defined {answer : task.Answer} : result = .ok answer → ∃ definition registry,
    task.definition? = some definition ∧ work.registry.define definition = .ok registry
      ∧ after = { work with registry, cache := work.cache.forgetFeature definition.name }

/-- **A task that defines a feature** goes as it should, whatever it is replied. -/
theorem Task.transcribes_definition {task : Task} (hdefinition : task.IsDefinition)
    (resolver : Resolver) (work : Work) :
    (task.action resolver).Transcribes work (task.Defines work) := by
  have hdefine : ∀ definition : Definition, (resolver.define definition).Transcribes work
      fun result after transcript => OnlyAsks Request.IsSilent transcript
        ∧ (∀ {error}, result = .error error → after = work)
        ∧ ∀ {answer}, result = .ok answer → ∃ registry,
          work.registry.define definition = .ok registry ∧ after =
            { work with registry, cache := work.cache.forgetFeature definition.name } := by
    refine fun definition => (transcribes_define definition).mono ?_
    rintro result after transcript ⟨hsilent, hresult⟩
    cases hregistry : work.registry.define definition with
    | error refusal =>
      rw [hregistry] at hresult
      obtain ⟨rfl, rfl⟩ := hresult
      exact ⟨hsilent, fun _ => rfl, nofun⟩
    | ok registry =>
      rw [hregistry] at hresult
      obtain ⟨rfl, rfl⟩ := hresult
      exact ⟨hsilent, nofun, fun _ => ⟨registry, rfl, rfl⟩⟩
  cases task with
  | operation op =>
    cases op with
    | define definition =>
      exact (hdefine definition).mono fun _ _ _ h =>
        ⟨h.1, h.2.1, fun hok => ⟨definition, (h.2.2 hok).imp fun _ hregistry => ⟨rfl, hregistry⟩⟩⟩
    | defineVariant feature weights =>
      show (resolver.defineVariant feature weights).Transcribes work _
      unfold defineVariant
      cases htable : VariantTable.ofList feature weights with
      | error error => exact .throw ⟨.nil, fun _ => rfl, nofun⟩
      | ok table =>
        have hdefinition : (Task.operation (.defineVariant feature weights)).definition?
            = some (.ofRule feature (.variants table)) := by
          simp [Task.definition?, htable, Except.toOption]
        exact (hdefine _).mono fun _ _ _ h => ⟨h.1, h.2.1,
          fun hok => ⟨_, (h.2.2 hok).imp fun _ hregistry => ⟨hdefinition, hregistry⟩⟩⟩
    | _ => exact hdefinition.elim
  | _ => exact hdefinition.elim

/-! ## Tasks that do neither -/

open Resolver.Action (Maintains)

/-- **Tasks that neither write nor define** neither write nor report a write. -/
theorem asking_isBare (resolver : Resolver) :
    Maintains.Asking (.transcript interface) (fun _ => OnlyAsks Request.IsBare) resolver where
  clock := OnlyAsks.ask trivial
  resolve := resolve_onlyAsks (fun _ => Request.IsOfResolution.isBare) resolver
  loadWith skipCached features contexts := by
    have hread : ∀ pairs, (askStore (.getMany pairs)).Maintains (.transcript interface)
        fun _ => OnlyAsks Request.IsBare := fun _ => OnlyAsks.askStore rfl
    refine .loadWith fun work known h pairs _ => ?_
    exact Maintains.bind (hread _) (fun stored => .forM fun entry _ =>
      settle_onlyAsks (fun _ => Request.IsOfResolution.isBare) resolver _ _ _ _) work known h
  stored := OnlyAsks.askStore rfl
  rescope _ h := h
  flush h := h

/-! ## Runs -/

/-- The write that a task came to, if it did not fail. -/
def Task.cameTo? (resolver : Resolver) (ambient : Option Scope) (task : Task)
    (result : Except FeatureError task.Answer) : Option Store.Call :=
  result.toOption.bind (task.written? resolver ambient)

theorem Task.cameTo?_of_not_isWrite {task : Task} (h : ¬ task.IsWrite) (resolver : Resolver)
    (ambient : Option Scope) (result : Except FeatureError task.Answer) :
    task.cameTo? resolver ambient result = none := by
  cases result with
  | error error => rfl
  | ok answer =>
    cases task with
    | operation op =>
      cases op with
      | set | activate | deactivate | activateForGroup | setForAllContexts | delete | purge
      | purgeExpired => exact absurd trivial h
      | _ => rfl
    | _ => rfl

/-- What is written by an action that goes as it should is what the store took, and is
reported. -/
theorem taken_of_writes {α : Type} {written? : α → Option Store.Call}
    {result : Except FeatureError α} {after : Work} {transcript : List (Exchange interface)}
    (h : Writes resolver written? work result after transcript) :
    taken transcript = (result.toOption.bind written?).toList
      ∧ reported transcript = if resolver.isHeard then taken transcript else [] := by
  cases h with
  | idle _ hsilent hnone =>
    have hbare := hsilent.mono fun _ => Request.IsSilent.isBare
    rw [taken_of_isBare hbare, reported_of_isBare hbare, ite_self]
    exact ⟨(congrArg Option.toList hnone).symm, rfl⟩
  | @refused before call error hsilent =>
    have hbare := hsilent.mono fun _ => Request.IsSilent.isBare
    have htaken : taken (before ++ [⟨.store call, (.error error : call.Reply)⟩]) = [] := by
      rw [taken_append, taken_of_isBare hbare, taken_cons_error]
      rfl
    rw [htaken, ite_self, reported_append, reported_of_isBare hbare]
    exact ⟨rfl, rfl⟩
  | @taken before answer call event reply hsilent hevent hsome =>
    have hbare := hsilent.mono fun _ => Request.IsSilent.isBare
    have htaken : Resolver.taken (before ++ ⟨.store call, (.ok reply : call.Reply)⟩
        :: resolver.report event) = [call] := by
      rw [taken_append, taken_of_isBare hbare, taken_cons_ok (Event.isWrite_of_write? hevent),
        taken_report]
      rfl
    rw [htaken, reported_append, reported_of_isBare hbare]
    exact ⟨(congrArg Option.toList hsome).symm, reported_report resolver hevent⟩

/-- **A task** writes what it came to, and reports it if reports reach anybody. -/
theorem Task.transcribes_cameTo (task : Task) (resolver : Resolver) (work : Work) :
    (task.action resolver).Transcribes work fun result _ transcript =>
      taken transcript = (task.cameTo? resolver work.ambient result).toList
        ∧ reported transcript = if resolver.isHeard then taken transcript else [] := by
  by_cases hwrite : task.IsWrite
  · exact (Task.transcribes_write hwrite resolver work).mono fun _ _ _ h => taken_of_writes h
  · have hbare : (task.action resolver).Transcribes work fun _ _ transcript =>
        OnlyAsks Request.IsBare transcript := by
      by_cases hdefinition : task.IsDefinition
      · exact (Task.transcribes_definition hdefinition resolver work).mono
          fun _ _ _ h => h.silent.mono fun _ => Request.IsSilent.isBare
      · exact (asking_isBare resolver).task hwrite hdefinition work [] .nil
    refine hbare.mono fun result _ transcript h => ?_
    rw [Task.cameTo?_of_not_isWrite hwrite, taken_of_isBare h, reported_of_isBare h, ite_self]
    exact ⟨rfl, rfl⟩

end Resolver

namespace Crew

open Resolver

variable {σ : Type}

/-- **The write of a turn**, if it came to one, and whose it was. -/
def write? (answer : (request : Request) → StateM σ request.Reply) (crew : Crew σ)
    (turn : Turn) : Option (Resolver × Store.Call) :=
  match crew.members[turn.member]? with
  | none => none
  | some member =>
    (turn.task.cameTo? member.resolver member.work.ambient
      (crew.run answer member (turn.task.action member.resolver)).1.1).map (member.resolver, ·)

/-- **The writes of a sequence of turns**, in order. -/
def writes (answer : (request : Request) → StateM σ request.Reply) :
    List Turn → Crew σ → List (Resolver × Store.Call)
  | [], _ => []
  | turn :: rest, crew =>
    (crew.write? answer turn).toList ++ writes answer rest (crew.take answer turn).2

variable (answer : (request : Request) → StateM σ request.Reply)

/-- **A turn** adds its write to the transcript, and its report if anybody is told. -/
theorem transcript_take (crew : Crew (σ × List (Exchange interface))) (turn : Turn) :
    ∃ rest, (crew.take (transcribing answer) turn).2.state.2
        = crew.state.2 ++ rest
      ∧ taken rest
        = (crew.write? (transcribing answer) turn).toList.map (·.2)
      ∧ reported rest = ((crew.write? (transcribing answer) turn).toList.filter
          (·.1.isHeard)).map (·.2) := by
  cases hmember : crew.members[turn.member]? with
  | none =>
    refine ⟨[], ?_, ?_, ?_⟩
    · rw [take_of_none hmember, List.append_nil]
    · simp [write?, hmember, taken]
    · simp [write?, hmember, reported]
  | some member =>
    obtain ⟨rest, hrest, htaken, hreported⟩ := (Task.transcribes_cameTo turn.task member.resolver
      { member.work with registry := crew.registry }).run answer crew.state
    obtain ⟨write, hwrite⟩ : ∃ write, turn.task.cameTo? member.resolver member.work.ambient
        (crew.run (transcribing answer) member (turn.task.action member.resolver)).1.1 = write :=
      ⟨_, rfl⟩
    replace htaken : taken rest = write.toList := htaken.trans (congrArg Option.toList hwrite)
    have hcrew : crew.write? (transcribing answer) turn = write.map (member.resolver, ·) := by
      unfold write?
      rw [hmember]
      exact congrArg (Option.map _) hwrite
    refine ⟨rest, ?_, ?_, ?_⟩
    · rw [take_of_member hmember]
      exact hrest
    · rw [htaken, hcrew]
      cases write <;> rfl
    · rw [hreported, htaken, hcrew]
      cases write with
      | none => exact ite_self _
      | some call => cases hheard : member.resolver.isHeard <;> simp [hheard]

/-- **The transcript of a sequence of turns**: the writes that the store took are those of the
turns, and what is reported is what members wrote who are heard. -/
theorem transcript_after (crew : Crew (σ × List (Exchange interface))) (turns : List Turn) :
    ∃ rest, (crew.after (transcribing answer) turns).state.2 = crew.state.2 ++ rest
      ∧ taken rest = (crew.writes (transcribing answer) turns).map (·.2)
      ∧ reported rest
        = ((crew.writes (transcribing answer) turns).filter (·.1.isHeard)).map (·.2) := by
  induction turns generalizing crew with
  | nil => exact ⟨[], (List.append_nil _).symm, rfl, rfl⟩
  | cons turn turns ih =>
    obtain ⟨first, hfirst, htaken, hreported⟩ := transcript_take answer crew turn
    obtain ⟨rest, hrest, htaken', hreported'⟩ := ih (crew.take (transcribing answer) turn).2
    refine ⟨first ++ rest, ?_, ?_, ?_⟩
    · rw [← List.append_assoc, ← hfirst]
      exact hrest
    · rw [taken_append, htaken, htaken', writes, List.map_append]
    · rw [reported_append, hreported, hreported', writes, List.filter_append, List.map_append]

end Crew

namespace Resolver

variable {σ : Type}

/-- **Writes are all or nothing, and reported truthfully**, whoever replies, and whatever fails.

* A task that writes or defines and fails leaves the unit of work as it was, and delivers
  nothing.
* A task that writes and does not fail has made one call of the store that writes, unless
  there was nothing to purge. The cached values of the features written were forgotten or
  replaced after it, and those of others are as they were. Then one event was delivered,
  which reports the call, if reports reach anybody.
* A task that defines and does not fail has registered its definition, and delivers nothing.
* Over any sequence of turns of resolvers, the writes that the store took are those of the
  turns that did not fail, in order, and the writes reported are those of them whose
  resolver is heard. -/
theorem writes_all_or_nothing (answer : (request : Request) → StateM σ request.Reply) :
    (∀ (resolver : Resolver) (task : Task) (work : Work) (s : σ),
      let course := (task.action resolver).course answer work s
      (task.IsWrite ∨ task.IsDefinition → ∀ error, course.result = .error error →
          course.work = work ∧ delivered course.transcript = [])
        ∧ (task.IsWrite → ∀ a, course.result = .ok a →
          match task.written? resolver work.ambient a with
          | none => course.work = work ∧ delivered course.transcript = []
          | some call => course.work = { work with cache := call.recache work.cache }
            ∧ (∀ feature, ¬ call.Covers feature → ∀ key,
                course.work.cache.get? feature key = work.cache.get? feature key)
            ∧ ∃ before reply event,
                course.transcript = before ++ ⟨.store call, (.ok reply : call.Reply)⟩
                    :: resolver.report event
                  ∧ OnlyAsks Request.IsSilent before ∧ event.write? = some call
                  ∧ delivered course.transcript = if resolver.isHeard then [event] else [])
        ∧ (task.IsDefinition → ∀ a, course.result = .ok a →
          delivered course.transcript = [] ∧ ∃ definition registry,
            task.definition? = some definition ∧ work.registry.define definition = .ok registry
              ∧ course.work = { work with
                  registry, cache := work.cache.forgetFeature definition.name }))
      ∧ ∀ (crew : Crew (σ × List (Exchange interface))) (turns : List Crew.Turn), ∃ rest,
          (crew.after (transcribing answer) turns).state.2 = crew.state.2 ++ rest
            ∧ taken rest = (crew.writes (transcribing answer) turns).map (·.2)
            ∧ reported rest
                = ((crew.writes (transcribing answer) turns).filter (·.1.isHeard)).map (·.2) := by
  refine ⟨fun resolver task work s => ?_, fun crew turns => crew.transcript_after answer turns⟩
  intro course
  refine ⟨?_, ?_, ?_⟩
  · rintro (hwrite | hdefinition) error herror
    · exact ((Task.transcribes_write hwrite resolver work).course answer s).of_error herror
    · have hdefines := (Task.transcribes_definition hdefinition resolver work).course answer s
      exact ⟨hdefines.failed herror, delivered_of_isSilent hdefines.silent⟩
  · intro hwrite a hok
    have hwrites := ((Task.transcribes_write hwrite resolver work).course answer s).of_ok hok
    cases hwritten : task.written? resolver work.ambient a with
    | none =>
      rw [hwritten] at hwrites
      exact hwrites
    | some call =>
      rw [hwritten] at hwrites
      obtain ⟨hwork, htranscript⟩ := hwrites
      refine ⟨hwork, fun feature hfeature key => ?_, htranscript⟩
      rw [show course.work = _ from hwork]
      exact call.get?_recache work.cache hfeature key
  · intro hdefinition a hok
    have hdefines := (Task.transcribes_definition hdefinition resolver work).course answer s
    exact ⟨delivered_of_isSilent hdefines.silent, hdefines.defined hok⟩

/-- A resolver sets a value, fails to delete it, and purges everything. What fails leaves its
unit of work as it was, and is not reported. -/
theorem writes_all_or_nothing_amid_failures :
    let resolver : Resolver := ⟨.none, .standard, false, true, none⟩
    let answer := (FrailSurroundings.failing .none).answer
    let delete : Task := .operation (.delete "dark" (.scalar "ada"))
    let work : Work := { Work.start .empty none with
      cache := Cache.empty.put "dark" "ada" (.active (.bool true)) }
    let start : World Store.Rows × List (Option StoreError) :=
      (.start .epoch ∅ ⟨[]⟩, [none, some (.backend "down"), none])
    let turns : List Crew.Turn :=
      [⟨0, .operation (.set "dark" (.scalar "ada") (.bool true))⟩, ⟨0, delete⟩,
        ⟨0, .operation (.purge none)⟩]
    ((delete.action resolver).course answer work (start.1, [some (.backend "down")])).work = work
      ∧ reported ((Crew.start .empty [(resolver, none)] (start, [])).after (transcribing answer)
          turns).state.2 = [.set "dark" "ada" (.bool true), .purge none] := by
  intro resolver answer delete work start turns
  obtain ⟨hsingle, hrun⟩ := writes_all_or_nothing answer
  have hwrites : ((Crew.writes (transcribing answer) turns
      (.start .empty [(resolver, none)] (start, []))).filter (·.1.isHeard)).map (·.2)
        = [.set "dark" "ada" (.bool true), .purge none] := by
    subst turns start delete answer resolver
    decide +kernel
  have hfails : ((delete.action resolver).course answer work
      (start.1, [some (.backend "down")])).result = .error (.store (.backend "down")) := rfl
  refine ⟨((hsingle resolver delete work _).1 (.inl trivial) _ hfails).1, ?_⟩
  obtain ⟨rest, hrest, -, hreported⟩ := hrun (.start .empty [(resolver, none)] (start, [])) turns
  rw [hrest]
  exact hreported.trans hwrites

end Resolver

end FeatureGate
