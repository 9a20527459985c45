import Mathlib.Data.List.Basic
import FeatureGate.Proofs.Nesting.Amid
import FeatureGate.Proofs.Transcript

/-!
# What reads ask for

To resolve a feature, the store is asked for single rows, and to write first values. Many
rows at a time are read by loading only. It does so once, for all the pairs that are not
skipped and whatever it is told (`Resolver.transcribes_loadWith`): what is done with the
rows afterwards is either nothing that anybody is asked for, or a resolution.
-/

namespace FeatureGate

/-- **A request that a resolution may make.** -/
def Request.IsOfResolution : Request → Prop
  | .store (.get ..) | .store (.insert ..) => True
  | .store _ => False
  | .deliver (.resolved ..) | .deliver (.unknownFeatureResolved ..) | .deliver (.raceRetried ..)
  | .deliver (.cycleDetected ..) => True
  | .deliver _ => False
  | _ => True

theorem Request.IsReportOf.isOfResolution {feature key : String} {request : Request}
    (h : request.IsReportOf feature key) : request.IsOfResolution := by
  cases request with
  | deliver event =>
    cases event with
    | updated | updatedForAll | deleted | purged => exact h.elim
    | _ => trivial
  | warn => trivial
  | _ => exact h.elim

/-- **The pairs whose rows are read at once** by a request, if it is a batched read. -/
def Request.batch? : Request → Option (List (String × String))
  | .store (.getMany pairs) => some pairs
  | _ => none

theorem Request.IsOfResolution.batch?_eq_none {request : Request}
    (h : request.IsOfResolution) : request.batch? = none := by
  cases request with
  | store call =>
    cases call with
    | getMany => exact h.elim
    | _ => rfl
  | _ => rfl

namespace Resolver

open Resolver.Action (Maintains)

/-! ## Resolutions -/

section OnlyAsks

variable {sort : Request → Prop}
  (hsort : ∀ request : Request, request.IsOfResolution → sort request)
include hsort

/-- All there is to do for an open feature is of any sort that resolutions are of. -/
theorem serves_onlyAsks (resolver : Resolver) (feature key : String) :
    Maintains.Serves (.transcript interface) (fun _ => OnlyAsks sort) resolver feature key where
  get := OnlyAsks.askStore (hsort _ trivial)
  insert _ := OnlyAsks.askStore (hsort _ trivial)
  compute _ _ := OnlyAsks.ask (hsort _ trivial)
  inherit := .groupValue (fun _ => OnlyAsks.ask (hsort _ trivial))
    (fun _ => OnlyAsks.askStore (hsort _ trivial)) key (OnlyAsks.ask (hsort _ trivial))
  keep _ := .modify fun _ _ h => h
  report _ h := OnlyAsks.ask (hsort _ h.isOfResolution)

/-- **Resolving a feature** makes no requests but those that resolutions make. -/
theorem resolve_onlyAsks (resolver : Resolver) (feature : String) (context : Context) :
    (resolver.resolve feature context).Maintains (.transcript interface)
      fun _ => OnlyAsks sort := by
  have hamid : Amid (.transcript interface) (fun _ => OnlyAsks sort) resolver context [] :=
    { guard := fun _ h => h
      clock := OnlyAsks.ask (hsort _ trivial)
      reportCycle := fun _ _ => .reportCycle (OnlyAsks.ask (hsort _ trivial))
        fun _ => OnlyAsks.ask (hsort _ trivial)
      resolveOpen := fun _ _ => (serves_onlyAsks hsort resolver _ _).resolveOpen context _ }
  exact hamid.resolve feature

/-- **Settling pairs** makes no others either. -/
theorem settle_onlyAsks (resolver : Resolver) (feature : String) (context : Context)
    (key : String) (stored : Option Payload) :
    (resolver.settle feature context key stored).Maintains (.transcript interface)
      fun _ => OnlyAsks sort :=
  .settle (fun _ _ => .modify fun _ _ h => h) (.modify fun _ _ h => h)
    (resolve_onlyAsks hsort resolver feature context)

end OnlyAsks

/-! ## Loading -/

/-- **The batched reads** on a transcript, in order. -/
def batches (transcript : List (Exchange interface)) : List (List (String × String)) :=
  transcript.filterMap (·.call.batch?)

theorem batches_eq_nil {transcript : List (Exchange interface)}
    (h : OnlyAsks (·.batch? = none) transcript) : batches transcript = [] :=
  List.filterMap_eq_nil_iff.mpr h

/-- **The pairs to load**: of the features with the keys of the contexts, feature by feature,
those that are not skipped. -/
def wanted (resolver : Resolver) (skipCached : Bool) (features : List String)
    (contexts : List Context) (work : Work) : List (String × String) :=
  (features.product (contexts.map (resolver.keyUnder work.ambient))).filter
    fun (feature, key) => !(skipCached && work.cache.contains feature key)

theorem map_loadPairs (resolver : Resolver) (skipCached : Bool) (features : List String)
    (contexts : List Context) (work : Work) :
    (loadPairs work.cache skipCached features (contexts.map fun context =>
        (context, resolver.keyUnder work.ambient context))).map
      (fun (feature, _, key) => (feature, key))
        = resolver.wanted skipCached features contexts work := by
  unfold loadPairs wanted List.product
  rw [List.map_flatMap, List.filter_flatMap]
  refine List.flatMap_congr fun feature _ => ?_
  rw [List.map_filterMap, List.filterMap_map, List.map_map, ← List.filterMap_eq_filter,
    List.filterMap_map]
  refine List.filterMap_congr fun context _ => ?_
  show Option.map _ (if _ then _ else _) = if (!(skipCached
    && work.cache.contains feature (resolver.keyUnder work.ambient context))) then _ else _
  cases skipCached && work.cache.contains feature (resolver.keyUnder work.ambient context) <;> rfl

/-- **Loading makes one batched read**, of the pairs to load, and none if there are none. -/
theorem transcribes_loadWith (resolver : Resolver) (skipCached : Bool) (features : List String)
    (contexts : List Context) (work : Work) :
    (resolver.loadWith skipCached features contexts).Transcribes work fun _ _ transcript =>
      let wanted := resolver.wanted skipCached features contexts work
      batches transcript = if wanted.isEmpty then [] else [wanted] := by
  rw [loadWith]
  refine .get_bind ?_
  dsimp only
  rw [← map_loadPairs]
  generalize loadPairs work.cache skipCached features (contexts.map fun context =>
    (context, resolver.keyUnder work.ambient context)) = pairs
  rw [List.isEmpty_map]
  split
  · exact .pure rfl
  · -- nothing that comes after the batched read is one
    refine .askStore_bind (fun answer => ?_) fun _ => rfl
    have hsettle : Maintains (.transcript interface) (fun _ => OnlyAsks (·.batch? = none))
        ((pairs.zip answer).forM fun entry =>
          resolver.settle entry.1.1 entry.1.2.1 entry.1.2.2 entry.2) :=
      .forM fun entry _ =>
        settle_onlyAsks (fun _ => Request.IsOfResolution.batch?_eq_none) resolver _ _ _ _
    refine Action.Transcribes.mono (hsettle work [] .nil) fun _ _ rest hrest => ?_
    exact congrArg _ (batches_eq_nil hrest)

end Resolver

end FeatureGate
