import Mathlib.Data.List.Forall2
import FeatureGate.Proofs.Context.Separation
import FeatureGate.Proofs.Writes

/-!
# Equal contexts and their keys

Contexts are compared by their structure, and constraints by value: two doubles are equal if
they are the same number. Keys are texts. The order in which constraints were added is not
seen by either, so the two could differ on one point only, which is how a number is written –
and they do, because `0.0` and `-0.0` are equal and are written apart.

Nothing else comes between them. Equal values have zeros in the same places, and where the
signs of these zeros agree the values are the same, while where they do not neither the texts
nor the keys are (`keys_agree_iff`). Setting the ambient scope has the same gap, because a scope
that is equal to the one there is does not replace it.
-/

namespace FeatureGate

/-! ## Codes that tell two things apart -/

/-- **A code tells `x` from `y`**, whatever it is followed by: the texts differ, unless the two
are the same. -/
def Tells {α β : Type} (code : α → List β) (x y : α) : Prop :=
  ∀ ⦃r s : List β⦄, code x ++ r = code y ++ s → x = y ∧ r = s

namespace Tells

variable {α β : Type} {code : α → List β} {x y : α} {xs ys : List α}

theorem refl (code : α → List β) (x : α) : Tells code x x := fun _ _ h =>
  ⟨rfl, List.append_cancel_left h⟩

theorem eq_iff (h : Tells code x y) : code x = code y ↔ x = y := by
  refine ⟨fun hcode => ?_, congrArg code⟩
  exact (@h [] [] (by rw [hcode])).1

/-- What is put in front of either changes nothing. -/
theorem cons (h : Tells code x y) (c : β) : Tells (fun z => c :: code z) x y := fun _ _ hxy =>
  h (List.cons.inj hxy).2

/-- **Lists are told apart item by item**, if they are of one length. -/
theorem flatMap (h : List.Forall₂ (Tells code) xs ys) : Tells (·.flatMap code) xs ys := by
  induction h with
  | nil => exact refl _ _
  | cons hxy _ ih =>
    intro r s heq
    simp only [List.flatMap_cons, List.append_assoc] at heq
    obtain ⟨rfl, hrest⟩ := hxy heq
    exact (ih hrest).imp (congrArg _) id

/-- Separators between the items change nothing. -/
theorem intercalate (separator : β) (h : List.Forall₂ (Tells code) xs ys) :
    Tells (fun zs => [separator].intercalate (zs.map code)) xs ys := by
  have hsplit : ∀ z zs, [separator].intercalate ((z :: zs).map code)
      = code z ++ zs.flatMap fun z => separator :: code z := by
    intro z zs
    induction zs generalizing z with
    | nil => simp
    | cons z' zs ih =>
      rw [List.map_cons, List.map_cons, List.intercalate_cons_cons, ← List.map_cons, ih]
      simp
  cases h with
  | nil => exact refl _ _
  | cons hxy hrest =>
    intro r s heq
    simp only [hsplit, List.append_assoc] at heq
    obtain ⟨rfl, hbehind⟩ := hxy heq
    exact (flatMap (hrest.imp fun _ _ h => h.cons separator) hbehind).imp (congrArg _) id

end Tells

/-! ## Equal values -/

namespace Double

/-- Equal doubles are the same, except for the sign of a zero. -/
theorem eq_of_equal {a b : Double} (h : a.equal b) (hsign : a.isZero → a.negative = b.negative) :
    a = b := by
  obtain ⟨sign, magnitude, finite⟩ := a
  obtain ⟨sign', magnitude', finite'⟩ := b
  simp only [equal, Bool.and_eq_true, Bool.or_eq_true, beq_iff_eq] at h
  obtain ⟨rfl, rfl | rfl⟩ := h
  · rfl
  · rw [show sign = sign' from hsign rfl]

theorem isZero_eq_of_equal {a b : Double} (h : a.equal b) : a.isZero = b.isZero := by
  simp only [equal, Bool.and_eq_true, beq_iff_eq] at h
  rw [isZero, isZero, h.1]

end Double

namespace Json

mutual

/-- **The signs of the zeros** among the doubles inside a value, as it is written: `true` for
`-0.0`. -/
def zeroSigns : Json → List Bool
  | .number (.double d) => if d.isZero then [d.negative] else []
  | .array items => zeroSignsItems items
  | .object fields => zeroSignsFields fields
  | _ => []

/-- The signs of the zeros inside the values of a list. -/
def zeroSignsItems : List Json → List Bool
  | [] => []
  | item :: rest => item.zeroSigns ++ zeroSignsItems rest

/-- The signs of the zeros inside the values of a list of fields. -/
def zeroSignsFields : List (String × Json) → List Bool
  | [] => []
  | (_, value) :: rest => value.zeroSigns ++ zeroSignsFields rest

end

@[simp]
theorem zeroSigns_array (items : List Json) :
    (array items).zeroSigns = items.flatMap zeroSigns := by
  rw [zeroSigns]
  induction items with
  | nil => rfl
  | cons item rest ih => rw [zeroSignsItems, ih, List.flatMap_cons]

@[simp]
theorem zeroSigns_object (fields : List (String × Json)) :
    (object fields).zeroSigns = fields.flatMap fun field => field.2.zeroSigns := by
  rw [zeroSigns]
  induction fields with
  | nil => rfl
  | cons field rest ih => rw [zeroSignsFields, ih, List.flatMap_cons]

/-- **Two values that are told apart** by their texts, and by the signs of their zeros. -/
structure Told (v w : Json) : Prop where
  /-- The texts tell them apart. -/
  chars : Tells Json.chars v w
  /-- So do the signs. -/
  zeroSigns : Tells Json.zeroSigns v w
  /-- Both are missing, or neither. -/
  isNull : v.isNull = w.isNull

theorem Told.refl (v : Json) : Told v v := ⟨.refl _ _, .refl _ _, rfl⟩

/-- Fields of one name, whose values are told apart. -/
def FieldsTold (x y : String × Json) : Prop := x.1 = y.1 ∧ Told x.2 y.2

/-- The text of a zero tells its sign. -/
theorem chars_of_isZero {d : Double} (h : d.isZero) :
    chars (.number (.double d))
      = if d.negative then ['-', '0', '.', '0'] else ['0', '.', '0'] := by
  rw [chars_number, Number.text, Decimal.Layout.writeDouble, if_pos h]
  cases d.negative <;> rfl

theorem told_of_number_equal {m n : Number} (h : m.equal n) : Told (.number m) (.number n) := by
  cases m with
  | integer a ha =>
    cases n with
    | integer b hb =>
      obtain rfl : a = b := by simpa [Number.equal] using h
      exact .refl _
    | double b => cases h
  | double a =>
    cases n with
    | integer b hb => cases h
    | double b =>
      have hzero := Double.isZero_eq_of_equal h
      -- the two are the same, or zeros of different signs
      by_cases hsign : a.isZero → a.negative = b.negative
      · obtain rfl := Double.eq_of_equal h hsign
        exact .refl _
      · obtain ⟨ha, hne⟩ := Classical.not_imp.mp hsign
        have hb : b.isZero := hzero ▸ ha
        refine ⟨fun r s heq => ?_, fun r s heq => ?_, rfl⟩
        · rw [chars_of_isZero ha, chars_of_isZero hb] at heq
          cases hs : a.negative <;> cases ht : b.negative <;> simp_all
        · simp only [zeroSigns, ha, hb, if_true, List.singleton_append, List.cons.injEq] at heq
          exact absurd heq.1 hne

theorem told_array {xs ys : List Json} (h : List.Forall₂ Told xs ys) :
    Told (.array xs) (.array ys) := by
  have hchars := Tells.intercalate ',' (h.imp fun _ _ h => h.chars)
  have hsigns := Tells.flatMap (h.imp fun _ _ h => h.zeroSigns)
  refine ⟨fun r s heq => ?_, fun r s heq => ?_, rfl⟩
  · simp only [chars_array, List.cons_append, List.append_assoc, List.cons.injEq,
      true_and] at heq
    exact (hchars heq).imp (congrArg _) fun hrest => (List.cons.inj hrest).2
  · rw [zeroSigns_array, zeroSigns_array] at heq
    exact (hsigns heq).imp (congrArg _) id

/-- However names are written, and whatever stands between a name and the value. -/
theorem FieldsTold.named (name : String → List Char) (delimiter : Char) {x y : String × Json}
    (h : FieldsTold x y) :
    Tells (fun field => name field.1 ++ delimiter :: field.2.chars) x y := by
  intro r s heq
  simp only [List.append_assoc, List.cons_append, h.1] at heq
  obtain ⟨hvalue, hrest⟩ := h.2.chars (List.cons.inj (List.append_cancel_left heq)).2
  exact ⟨Prod.ext h.1 hvalue, hrest⟩

theorem FieldsTold.zeroSigns {x y : String × Json} (h : FieldsTold x y) :
    Tells (fun field : String × Json => field.2.zeroSigns) x y := fun _ _ heq =>
  (h.2.zeroSigns heq).imp (Prod.ext h.1) id

theorem told_object {xs ys : List (String × Json)} (h : List.Forall₂ FieldsTold xs ys) :
    Told (.object xs) (.object ys) := by
  have hchars := Tells.intercalate ',' (h.imp fun _ _ h => h.named Document.quote ':')
  have hsigns := Tells.flatMap (h.imp fun _ _ h => h.zeroSigns)
  refine ⟨fun r s heq => ?_, fun r s heq => ?_, rfl⟩
  · simp only [chars_object, List.cons_append, List.append_assoc, List.cons.injEq,
      true_and] at heq
    exact (hchars heq).imp (congrArg _) fun hrest => (List.cons.inj hrest).2
  · rw [zeroSigns_object, zeroSigns_object] at heq
    exact (hsigns heq).imp (congrArg _) id

mutual

/-- **Equal values are told apart** both by their texts and by the signs of their zeros. -/
theorem told_of_equal : ∀ {v w : Json}, v.equal w → Told v w
  | .null, w, h => by
    cases w with
    | null => exact .refl _
    | _ => cases h
  | .bool a, w, h => by
    cases w with
    | bool b =>
      obtain rfl : a = b := by simpa [equal] using h
      exact .refl _
    | _ => cases h
  | .number m, w, h => by
    cases w with
    | number n => exact told_of_number_equal h
    | _ => cases h
  | .string a, w, h => by
    cases w with
    | string b =>
      obtain rfl : a = b := by simpa [equal] using h
      exact .refl _
    | _ => cases h
  | .array xs, w, h => by
    cases w with
    | array ys => exact told_array (forall₂_told_of_equalItems h)
    | _ => cases h
  | .object xs, w, h => by
    cases w with
    | object ys => exact told_object (forall₂_told_of_equalFields h)
    | _ => cases h

theorem forall₂_told_of_equalItems : ∀ {xs ys : List Json}, equalItems xs ys →
    List.Forall₂ Told xs ys
  | [], [], _ => .nil
  | [], _ :: _, h => by cases h
  | _ :: _, [], h => by cases h
  | x :: xs, y :: ys, h => by
    rw [equalItems, Bool.and_eq_true] at h
    exact .cons (told_of_equal h.1) (forall₂_told_of_equalItems h.2)

theorem forall₂_told_of_equalFields : ∀ {xs ys : List (String × Json)}, equalFields xs ys →
    List.Forall₂ FieldsTold xs ys
  | [], [], _ => .nil
  | [], _ :: _, h => by cases h
  | _ :: _, [], h => by cases h
  | (j, x) :: xs, (k, y) :: ys, h => by
    rw [equalFields, Bool.and_eq_true, Bool.and_eq_true, beq_iff_eq] at h
    exact .cons ⟨h.1.1, told_of_equal h.1.2⟩ (forall₂_told_of_equalFields h.2)

end

end Json

/-! ## Equal scopes -/

namespace Scope

variable {s t : Scope}

/-- **The signs of the zeros** among the constraints that count. -/
def zeroSigns (scope : Scope) : List Bool :=
  scope.defined.flatMap fun pair => pair.2.zeroSigns

/-- In equal scopes the same constraints count, and they have equal values. -/
theorem forall₂_told_of_equal (h : s.equal t) :
    List.Forall₂ Json.FieldsTold s.defined t.defined := by
  rw [equal, Bool.and_eq_true] at h
  refine List.rel_filter (fun x y hxy => ?_) (Json.forall₂_told_of_equalFields h.2)
  show (!x.2.isNull) = true ↔ (!y.2.isNull) = true
  rw [hxy.2.isNull]

/-- **Equal scopes have the same text just if the signs of their zeros agree.** -/
theorem suffix_eq_iff_of_equal (h : s.equal t) :
    s.suffix = t.suffix ↔ s.zeroSigns = t.zeroSigns := by
  have htold := forall₂_told_of_equal h
  have hchars := Tells.intercalate ';'
    (htold.imp fun _ _ h => h.named (fun name => (Key.escape name).toList) '=')
  have hkind : s.kind = t.kind := by
    rw [equal, Bool.and_eq_true, beq_iff_eq] at h
    exact h.1
  calc s.suffix = t.suffix
      ↔ [';'].intercalate (s.defined.map pairChars)
          = [';'].intercalate (t.defined.map pairChars) := by
        rw [← String.toList_inj, toList_suffix, toList_suffix, hkind]
        simp only [List.cons.injEq, true_and, List.append_cancel_left_eq,
          List.append_cancel_right_eq]
    _ ↔ s.defined = t.defined := hchars.eq_iff
    _ ↔ s.zeroSigns = t.zeroSigns :=
        (Tells.flatMap (htold.imp fun _ _ h => h.zeroSigns)).eq_iff.symm

end Scope

/-! ## Equal contexts -/

namespace Resolver

variable {c d : Context} {a b : Option Scope}

theorem isAmbient_or (hcd : c.equal d) (hab : isAmbient a b) :
    isAmbient (c.scope.or a) (d.scope.or b) := by
  rw [Context.equal, Bool.and_eq_true] at hcd
  cases hc : c.scope with
  | none =>
    cases hd : d.scope with
    | none => simpa using hab
    | some t => simp [hc, hd] at hcd
  | some s =>
    cases hd : d.scope with
    | none => simp [hc, hd] at hcd
    | some t => simpa [hc, hd, isAmbient] using hcd.2

/-- The scope that counts may be replaced by an equal one just if the signs agree. -/
theorem key_eq_key_iff_of_isAmbient (aliases : Aliases) (hidentity : c.identity = d.identity)
    (hscope : isAmbient (c.scope.or a) (d.scope.or b)) :
    aliases.key c a = aliases.key d b
      ↔ (c.scope.or a).map Scope.zeroSigns = (d.scope.or b).map Scope.zeroSigns := by
  unfold Aliases.key
  rw [hidentity]
  cases hs : c.scope.or a with
  | none =>
    cases ht : d.scope.or b with
    | none => simp
    | some t => simp [hs, ht, isAmbient] at hscope
  | some s =>
    cases ht : d.scope.or b with
    | none => simp [hs, ht, isAmbient] at hscope
    | some t =>
      rw [hs, ht] at hscope
      simp [String.append_right_inj, Scope.suffix_eq_iff_of_equal hscope]

theorem program_setAmbientScope (scope : Option Scope) (work : Work) :
    (setAmbientScope scope).program work
      = .done (.ok (), if isAmbient work.ambient scope then work
          else { work with ambient := scope, cache := .empty }) := by
  rw [setAmbientScope, Action.program_get_bind]
  show (if !isAmbient work.ambient scope then _ else _ : Action Unit).program work = _
  cases isAmbient work.ambient scope <;> rfl

/-- Under an equal ambient scope, contexts have the keys they had, just if the signs agree. -/
theorem keys_eq_iff_of_isAmbient (aliases : Aliases) (hab : isAmbient a b) :
    (∀ context, aliases.key context a = aliases.key context b)
      ↔ a.map Scope.zeroSigns = b.map Scope.zeroSigns := by
  constructor
  · intro h
    exact (key_eq_key_iff_of_isAmbient (c := .null) aliases rfl hab).mp (h .null)
  · intro hsigns context
    cases hscope : context.scope with
    | some own => simp [Aliases.key, hscope]
    | none =>
      have hown : ∀ ambient, context.scope.or ambient = ambient := by simp [hscope]
      refine (key_eq_key_iff_of_isAmbient aliases rfl ?_).mpr ?_
      · rwa [hown, hown]
      · rwa [hown, hown]

/-- **When equal contexts have equal keys**, whatever the aliases and under any two equal
ambient scopes.

* They do just if, among the constraints that count, the zeros have the same signs.
* After the ambient scope is set, keys are those under the scope that was asked for, just
  if that is not equal to the one before or has zeros of the same signs. -/
theorem keys_agree_iff (aliases : Aliases) (resolver : Resolver) (hcd : c.equal d)
    (hab : isAmbient a b) :
    (aliases.key c a = aliases.key d b
        ↔ (c.scope.or a).map Scope.zeroSigns = (d.scope.or b).map Scope.zeroSigns)
      ∧ ∀ (work : Work) (scope : Option Scope), ∃ after,
        (setAmbientScope scope).program work = .done (.ok (), after)
          ∧ ((∀ context, (resolver.contextKey context).program after
                = .done (.ok (resolver.aliases.key context scope), after))
            ↔ (isAmbient work.ambient scope →
                work.ambient.map Scope.zeroSigns = scope.map Scope.zeroSigns)) := by
  have hidentity : c.identity = d.identity := by
    rw [Context.equal, Bool.and_eq_true, beq_iff_eq] at hcd
    exact hcd.1
  refine ⟨key_eq_key_iff_of_isAmbient aliases hidentity (isAmbient_or hcd hab),
    fun work scope => ⟨_, program_setAmbientScope scope work, ?_⟩⟩
  have hkey : ∀ (after : Work) context,
      (resolver.contextKey context).program after
          = .done (.ok (resolver.aliases.key context scope), after)
        ↔ resolver.aliases.key context after.ambient = resolver.aliases.key context scope :=
    fun after context => by
      show Program.done (Except.ok (resolver.aliases.key context after.ambient), after) = _ ↔ _
      simp
  simp only [hkey]
  cases hsame : isAmbient work.ambient scope with
  | true =>
    rw [if_pos rfl, keys_eq_iff_of_isAmbient resolver.aliases hsame]
    simp
  | false => simp

/-- The same constraints, added in two orders, make the same key, also if one of them is a
double. -/
theorem keys_agree_iff_reordered :
    let half : Json := .number (.double ⟨false, 1022 * Double.binadeSize, by decide⟩)
    let there := ((Scope.ofKind "tenant").constrain "rate" half).constrain "id" (.string "1")
    let back := ((Scope.ofKind "tenant").constrain "id" (.string "1")).constrain "rate" half
    let ada := Context.scalar "ada"
    Aliases.none.key (ada.inScope there) none = Aliases.none.key (ada.inScope back) none
      ∧ Aliases.none.key ada (some there) = Aliases.none.key ada (some back) := by
  intro half there back ada
  let resolver : Resolver := ⟨.none, .standard, false, false, none⟩
  constructor
  · exact (keys_agree_iff .none resolver (c := ada.inScope there) (d := ada.inScope back)
      (a := none) (b := none) (by decide +kernel) rfl).1.mpr (by decide +kernel)
  · exact (keys_agree_iff .none resolver (c := ada) (d := ada) (a := some there)
      (b := some back) (by decide +kernel) (by decide +kernel)).1.mpr (by decide +kernel)

/-- **Equal contexts with different keys**: a constraint is `0.0` in one and `-0.0` in the
other. Where the first scope is the ambient one, setting the second one changes no key. -/
theorem equal_contexts_apart :
    let scope (negative : Bool) := (Scope.ofKind "t").constrain "x"
      (.number (.double ⟨negative, 0, by decide⟩))
    let user := Context.scalar "u"
    let work := Work.start .empty (some (scope false))
    (user.inScope (scope false)).equal (user.inScope (scope true))
      ∧ Aliases.none.key (user.inScope (scope false)) none = "u@t\x7bx=0.0\x7d"
      ∧ Aliases.none.key (user.inScope (scope true)) none = "u@t\x7bx=-0.0\x7d"
      ∧ (setAmbientScope (some (scope true))).program work = .done (.ok (), work)
      ∧ Aliases.none.key user work.ambient = "u@t\x7bx=0.0\x7d"
      ∧ Aliases.none.key user (some (scope true)) = "u@t\x7bx=-0.0\x7d" := by
  intro scope user work
  refine ⟨?_, ?_, ?_, ?_, ?_, ?_⟩
  · decide +kernel
  · decide +kernel
  · decide +kernel
  · rw [program_setAmbientScope, if_pos (by decide +kernel)]
  · decide +kernel
  · decide +kernel

end Resolver

end FeatureGate
