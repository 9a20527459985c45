import FeatureGate.Proofs.Gating.Opening

/-!
# Which group a context inherits from

Groups are built up by two sorts of edits, in any order: a context key is added to a group, or a
group is granted a feature. When the own value of a context is not active, the groups of its key
are asked in the order in which the key was first added to them, and the first one that was
granted the feature, and for which an active value is stored, decides
(`Resolver.resolve_in_membership_order`).

All other groups may as well not be there: adding a key a second time moves no group forward, and
a group without the grant, or without an active row, is passed over.
-/

namespace FeatureGate

open Store (Rows)

/-! ## Groups as they are built up -/

namespace Groups

/-- **An edit of the groups.** -/
inductive Edit where
  /-- A context key is added to a group. -/
  | member (group key : String)
  /-- A feature is granted to a group. -/
  | grant (group feature : String)
deriving DecidableEq

/-- The groups after an edit. -/
def edit (groups : Groups) : Edit → Groups
  | .member group key => groups.addMember group key
  | .grant group feature => groups.grant group feature

/-- **The groups that a list of edits builds up.** -/
def ofEdits (edits : List Edit) : Groups := edits.foldl edit empty

/-- The group that an edit adds a key to. -/
def Edit.joined? (key : String) : Edit → Option String
  | .member group other => if other = key then some group else none
  | .grant .. => none

/-- **The groups that a key was added to**, in order and as often as it was. -/
def joined (edits : List Edit) (key : String) : List String := edits.filterMap (·.joined? key)

variable {α : Type} (f : String → Option α) (groups : Groups) (edits : List Edit)
  (key group feature : String)

/-- **A search of the groups of a key** after an edit comes last to the group that was added. -/
theorem findSome?_groupsFor_edit (edit : Edit) :
    ((groups.edit edit).groupsFor key).findSome? f
      = ((groups.groupsFor key).findSome? f).or ((edit.joined? key).bind f) := by
  cases edit with
  | grant group feature => simp [Groups.edit, grant, groupsFor, Edit.joined?]
  | member group other =>
    by_cases hkey : other = key
    · subst hkey
      have hafter : (groups.addMember group other).groupsFor other
          = if (groups.groupsFor other).contains group then groups.groupsFor other
            else groups.groupsFor other ++ [group] := by
        simp [addMember, groupsFor]
      show ((groups.addMember group other).groupsFor other).findSome? f = _
      rw [hafter, Edit.joined?, if_pos rfl, Option.bind_some]
      split
      · -- the group was asked already
        rename_i hmem
        cases hfound : (groups.groupsFor other).findSome? f with
        | some a => rfl
        | none =>
          have hgroup := List.findSome?_eq_none_iff.mp hfound group (by simpa using hmem)
          rw [hgroup]
          rfl
      · rw [List.findSome?_append]
        simp
    · simp [Groups.edit, addMember, groupsFor, Edit.joined?, hkey,
        Std.ExtTreeMap.getElem?_insert]

/-- **A search of the groups of a key** goes through those it was added to, in order: one that
comes again makes no difference. -/
theorem findSome?_groupsFor :
    ((ofEdits edits).groupsFor key).findSome? f = (joined edits key).findSome? f := by
  have hfrom : ∀ groups : Groups, ((edits.foldl edit groups).groupsFor key).findSome? f
      = ((groups.groupsFor key).findSome? f).or ((joined edits key).findSome? f) := by
    induction edits with
    | nil => simp [joined]
    | cons first rest ih =>
      intro groups
      rw [List.foldl_cons, ih, findSome?_groupsFor_edit, Option.or_assoc]
      refine congrArg (Option.or _) ?_
      unfold joined
      rw [List.filterMap_cons]
      cases first.joined? key with
      | none => rfl
      | some group =>
        rw [List.findSome?_cons, Option.bind_some]
        cases f group <;> rfl
  have hempty : (empty.groupsFor key).findSome? f = none := by simp [empty, groupsFor]
  rw [ofEdits, hfrom, hempty, Option.none_or]

theorem mem_featuresIn_edit (edit : Edit) :
    feature ∈ (groups.edit edit).featuresIn group
      ↔ feature ∈ groups.featuresIn group ∨ edit = .grant group feature := by
  cases edit with
  | member other key => simp [Groups.edit, addMember, featuresIn]
  | grant other granted =>
    by_cases hgroup : other = group
    · subst hgroup
      simpa [Groups.edit, grant, featuresIn, Std.ExtTreeSet.mem_insert] using or_comm
    · simp [Groups.edit, grant, featuresIn, Std.ExtTreeMap.getElem?_insert, hgroup]

/-- **The features of a group** are those that it was granted. -/
theorem mem_featuresIn :
    feature ∈ (ofEdits edits).featuresIn group ↔ .grant group feature ∈ edits := by
  have hfrom : ∀ groups : Groups, feature ∈ (edits.foldl edit groups).featuresIn group
      ↔ feature ∈ groups.featuresIn group ∨ .grant group feature ∈ edits := by
    induction edits with
    | nil => simp
    | cons first rest ih =>
      intro groups
      rw [List.foldl_cons, ih, mem_featuresIn_edit, List.mem_cons, or_assoc, eq_comm]
  rw [ofEdits, hfrom]
  simp [empty, featuresIn]

end Groups

namespace Resolver

/-! ## Which group decides -/

/-- **A group supplies a payload** of a feature: it was granted the feature, and the payload is
stored for it and is active. -/
structure Supplies (resolver : Resolver) (edits : List Groups.Edit) (s : State Rows)
    (feature group : String) (payload : Payload) : Prop where
  /-- The feature was granted to the group. -/
  granted : .grant group feature ∈ edits
  /-- There is a row under the key of the group, in the ambient scope. -/
  row : s.world.store.get? feature (resolver.keyUnder s.work.ambient (.group group))
    = some payload
  /-- It stands for an active value. -/
  active : (FeatureValue.ofPayload payload).isActive

/-- An active value has the payload it is stored with. -/
theorem ofPayload_of_isActive {payload : Payload} (h : (FeatureValue.ofPayload payload).isActive) :
    FeatureValue.ofPayload payload = .active payload := by
  refine FeatureValue.ofPayload_eq_active ?_ ?_
  · rintro rfl
    cases h
  · rintro rfl
    cases h

/-- **What a group has to offer** of a feature: the active value that is stored for it, if it was
granted the feature. -/
def offered (resolver : Resolver) (edits : List Groups.Edit) (rows : Rows)
    (ambient : Option Scope) (feature group : String) : Option FeatureValue :=
  if .grant group feature ∈ edits then
    activeRow rows feature (resolver.keyUnder ambient (.group group))
  else none

section Offered

variable {resolver : Resolver} {edits : List Groups.Edit} {s : State Rows} {feature : String}

/-- **What is granted to a key** is the first offer of a group that it was added to. -/
theorem granted_ofEdits (hgroups : resolver.consultsGroups) (edits : List Groups.Edit)
    (rows : Rows) (ambient : Option Scope) (feature key : String) :
    resolver.granted (Groups.ofEdits edits).source rows ambient feature key
      = (Groups.joined edits key).findSome? (resolver.offered edits rows ambient feature) := by
  unfold granted
  rw [if_pos hgroups, ← Groups.findSome?_groupsFor]
  refine congrArg (List.findSome? · _) (funext fun group => ?_)
  refine if_congr ?_ rfl rfl
  show ((Groups.ofEdits edits).featuresIn group).contains feature ↔ _
  rw [List.contains_iff_mem, Groups.mem_featuresIn]

theorem offered_congr {rows rows' : Rows}
    (h : ∀ key, rows'.get? feature key = rows.get? feature key) (ambient : Option Scope) :
    resolver.offered edits rows' ambient feature = resolver.offered edits rows ambient feature := by
  funext group
  simp only [offered, activeRow, h]

/-- A group offers what it supplies. -/
theorem offered_eq_some_iff {group : String} {value : FeatureValue} :
    resolver.offered edits s.world.store s.work.ambient feature group = some value
      ↔ ∃ payload, resolver.Supplies edits s feature group payload ∧ value = .active payload := by
  unfold offered
  by_cases hgrant : .grant group feature ∈ edits
  · rw [if_pos hgrant, activeRow, Option.filter_eq_some_iff, Option.map_eq_some_iff]
    constructor
    · rintro ⟨⟨payload, hrow, rfl⟩, hactive⟩
      exact ⟨payload, ⟨hgrant, hrow, hactive⟩, ofPayload_of_isActive hactive⟩
    · rintro ⟨payload, hsupplies, rfl⟩
      exact ⟨⟨payload, hsupplies.row, ofPayload_of_isActive hsupplies.active⟩, rfl⟩
  · rw [if_neg hgrant]
    refine iff_of_false nofun ?_
    rintro ⟨payload, hsupplies, -⟩
    exact hgrant hsupplies.granted

theorem offered_eq_none {group : String}
    (h : ∀ payload, ¬ resolver.Supplies edits s feature group payload) :
    resolver.offered edits s.world.store s.work.ambient feature group = none := by
  refine Option.eq_none_iff_forall_ne_some.mpr fun value hvalue => ?_
  obtain ⟨payload, hsupplies, -⟩ := offered_eq_some_iff.mp hvalue
  exact h payload hsupplies

/-- **The first group that supplies a payload** decides. -/
theorem findSome?_offered {before after : List String} {group : String} {payload : Payload}
    (hbefore : ∀ other ∈ before, ∀ p, ¬ resolver.Supplies edits s feature other p)
    (hsupplies : resolver.Supplies edits s feature group payload) :
    (before ++ group :: after).findSome?
        (resolver.offered edits s.world.store s.work.ambient feature)
      = some (.active payload) := by
  have hnone : before.findSome? (resolver.offered edits s.world.store s.work.ambient feature)
      = none :=
    List.findSome?_eq_none_iff.mpr fun other hother => offered_eq_none (hbefore other hother)
  rw [List.findSome?_append, hnone, Option.none_or, List.findSome?_cons,
    offered_eq_some_iff.mpr ⟨payload, hsupplies, rfl⟩]

end Offered

/-- **The fallback to groups goes by membership.** Let groups be built up by any edits, and let
a feature be resolved for a context with an empty cache, where all that the feature requires is
found active.

* If the own value of the context is active, it is the answer.
* Otherwise the first group that the key of the context was added to, of those that supply a
  payload, gives the answer, and without such a group the answer is the own value.
* For the feature, no row is written but that of the own value, and no other one is written once
  the requirements are resolved. -/
theorem resolve_in_membership_order (resolver : Resolver) (hgroups : resolver.consultsGroups)
    (edits : List Groups.Edit) {s t : State Rows} (hcache : s.work.cache = .empty)
    {feature : String} {context : Context}
    (hunexpired : ∀ definition, s.work.registry.get? feature = some definition →
      definition.isExpiredAt s.world.now = false)
    (hrequired : (resolver.allAreActive (s.work.registry.required feature) context).perform
      Store.memory (Groups.ofEdits edits).membership s = (.ok true, t)) :
    let key := resolver.keyUnder s.work.ambient context
    let own := ownValue t context feature key
    let joined := Groups.joined edits key
    ∃ value u, (resolver.resolve feature context).perform Store.memory
        (Groups.ofEdits edits).membership s = (.ok value, u)
      ∧ (own.isActive → value = own)
      ∧ (own.isActive = false →
          (∀ before group after payload, joined = before ++ group :: after →
              (∀ other ∈ before, ∀ p, ¬ resolver.Supplies edits s feature other p) →
              resolver.Supplies edits s feature group payload → value = .active payload)
            ∧ ((∀ group ∈ joined, ∀ p, ¬ resolver.Supplies edits s feature group p) →
              value = own))
      ∧ (∀ k, t.world.store.get? feature k = s.world.store.get? feature k)
      ∧ ∀ f k, u.world.store.get? f k
          = if f = feature ∧ k = key then ownRow t context feature key
            else t.world.store.get? f k := by
  intro key own joined
  have hmet : (resolver.allAreActive (s.work.registry.required feature) context).perform
      Store.memory (Groups.ofEdits edits).source.membership s = (.ok true, t) := hrequired
  obtain ⟨hperform, hsame⟩ := perform_resolve_of_allAreActive hunexpired hmet
  have hrow : ∀ k, t.world.store.get? feature k = s.world.store.get? feature k :=
    hsame.row fun hne => hne rfl
  have hambient : t.work.ambient = s.work.ambient := hsame.ambient
  have hkey : resolver.keyUnder t.work.ambient context = key := by rw [hambient]
  have hnone : t.work.cache.get? feature key = none :=
    (hsame.cached (fun hne => hne rfl) key).trans (by
      show s.work.cache.get? feature key = none
      rw [hcache, Cache.get?_empty])
  have hgranted : resolver.granted (Groups.ofEdits edits).source t.world.store t.work.ambient
      feature key
        = joined.findSome? (resolver.offered edits s.world.store s.work.ambient feature) := by
    rw [granted_ofEdits hgroups, hambient, offered_congr hrow]
  have hvalue := baseValue_of_not_cached resolver (Groups.ofEdits edits).source hkey hnone
  rw [hgranted] at hvalue
  refine ⟨_, _, hperform, fun hactive => ?_, fun hinactive => ⟨?_, ?_⟩, hrow, fun f k => ?_⟩
  · rw [hvalue, if_pos hactive]
  · intro before group after payload hjoined hbefore hsupplies
    rw [hvalue, if_neg (by simpa using hinactive), hjoined,
      findSome?_offered hbefore hsupplies, Option.getD_some]
  · intro hall
    have hnothing : joined.findSome? (resolver.offered edits s.world.store s.work.ambient feature)
        = none :=
      List.findSome?_eq_none_iff.mpr fun group hgroup => offered_eq_none (hall group hgroup)
    rw [hvalue, if_neg (by simpa using hinactive), hnothing, Option.getD_none]
  · have hlasting : resolver.lastingRow context (t.within .empty) feature
        = ownRow t context feature key := resolver.lastingRow_of_not_cached hkey hnone
    rw [get?_opened, hlasting]
    show (if f = feature ∧ k = resolver.keyUnder t.work.ambient context then _ else _) = _
    rw [hkey]
    rfl

/-- A key is added to four groups, and to one of them twice. The first has no grant, the second
has an inactive row and the third has none, so the fourth decides; the feature requires another
one, which is stored. -/
theorem resolve_in_membership_order_of_fourth :
    let edits : List Groups.Edit := [.member "staff" "ada", .grant "off" "dark",
      .member "off" "ada", .member "new" "ada", .grant "new" "dark", .member "beta" "ada",
      .member "off" "ada", .grant "beta" "dark"]
    let rows : Rows := (((((∅ : Rows).insert ⟨"base", "ada"⟩ (.bool true)).insert
      ⟨"dark", "group|staff"⟩ (.string "staff")).insert ⟨"dark", "group|off"⟩ (.bool false)).insert
      ⟨"dark", "group|beta"⟩ (.string "beta"))
    let dark : Definition :=
      { Definition.ofRule "dark" (.constant (.bool false)) with required := ["base"] }
    let resolver : Resolver := ⟨.none, .standard, true, false, none⟩
    let s : State Rows := ⟨.start ⟨(∅ : Std.ExtTreeMap String Definition).insert "dark" dark⟩ none,
      .start .epoch rows ⟨[]⟩⟩
    ((resolver.resolve "dark" (.scalar "ada")).perform Store.memory
      (Groups.ofEdits edits).membership s).1 = .ok (.active (.string "beta")) := by
  intro edits rows dark resolver s
  have hdark : s.work.registry.get? "dark" = some dark := by
    simp [s, Work.start, Registry.get?]
  have hunexpired : ∀ definition, s.work.registry.get? "dark" = some definition →
      definition.isExpiredAt s.world.now = false := by
    intro definition h
    rw [hdark] at h
    rw [← Option.some.inj h]
    rfl
  have hrequired : (resolver.allAreActive (s.work.registry.required "dark")
      (.scalar "ada")).perform Store.memory (Groups.ofEdits edits).membership s
        = (.ok true, ((resolver.allAreActive (s.work.registry.required "dark")
            (.scalar "ada")).perform Store.memory (Groups.ofEdits edits).membership s).2) := by
    have hmet : ((resolver.allAreActive (s.work.registry.required "dark")
        (.scalar "ada")).perform Store.memory (Groups.ofEdits edits).membership s).1.toOption
          = some true := by
      decide +kernel
    refine Prod.ext ?_ rfl
    revert hmet
    generalize ((resolver.allAreActive (s.work.registry.required "dark")
      (.scalar "ada")).perform Store.memory (Groups.ofEdits edits).membership s).1 = outcome
    cases outcome <;> simp [Except.toOption]
  obtain ⟨value, u, hperform, -, hfallback, -⟩ :=
    resolve_in_membership_order resolver rfl edits rfl hunexpired hrequired
  have hjoined : Groups.joined edits (resolver.keyUnder s.work.ambient (.scalar "ada"))
      = ["staff", "off", "new"] ++ "beta" :: ["off"] := by cbv
  have hinactive : (ownValue ((resolver.allAreActive (s.work.registry.required "dark")
      (.scalar "ada")).perform Store.memory (Groups.ofEdits edits).membership s).2 (.scalar "ada")
      "dark" (resolver.keyUnder s.work.ambient (.scalar "ada"))).isActive = false := by
    decide +kernel
  rw [hperform, (hfallback hinactive).1 _ _ _ _ hjoined ?_ ⟨by decide, by cbv, rfl⟩]
  rintro group hgroup p ⟨hgrant, hrow, hactive⟩
  simp only [List.mem_cons, List.not_mem_nil, or_false] at hgroup
  rcases hgroup with rfl | rfl | rfl
  · exact absurd hgrant (by decide)
  · have hoff : s.world.store.get? "dark" (resolver.keyUnder s.work.ambient (.group "off"))
        = some (.bool false) := by cbv
    cases hrow.symm.trans hoff
    cases hactive
  · have hnew : s.world.store.get? "dark" (resolver.keyUnder s.work.ambient (.group "new"))
        = none := by cbv
    cases hrow.symm.trans hnew

end Resolver

end FeatureGate
