import Mathlib.Data.Option.Defs
import FeatureGate.Context.Key
import FeatureGate.Proofs.Json.Rendering

/-!
# Context keys cannot be forged

A key is made of parts that come from outside – identifiers, kinds, names and
values of constraints – and of delimiters between them. Were a delimiter to get
into a part, one context could be given the key of another.

It cannot: the parts are escaped, so the first delimiter of each sort is one
that the key put there. Only the values of constraints stand in the key as they
are written, and they do not need to be escaped, because a value shows where it
ends (`Json.chars_append_inj`). So a key is taken apart in one way only, and
what it does not tell apart is what it leaves out: constraints whose value is
`null`.
-/

namespace FeatureGate

namespace Key

/-! ## Parts -/

/-- **Read one character of an escaped part** off the front of a text. -/
def readChar : List Char → Option (Char × List Char)
  | '%' :: high :: low :: rest => do
    let code := 16 * (← Text.digit? high) + (← Text.digit? low)
    some (Char.ofNat code, rest)
  | c :: rest => some (c, rest)
  | [] => none

/-- Reading undoes escaping. -/
theorem readChar_escapeChar (c : Char) (rest : List Char) :
    readChar (escapeChar c ++ rest) = some (c, rest) := by
  unfold escapeChar
  split
  all_goals try rfl
  rename_i hpercent _ _ _ _ _ _
  show readChar (c :: rest) = some (c, rest)
  unfold readChar
  split <;> simp_all

@[simp]
theorem toList_escape (part : String) : (escape part).toList = part.toList.flatMap escapeChar := by
  simp [escape]

/-- Escaping loses nothing. -/
theorem escape_injective {a b : String} (h : escape a = escape b) : a = b := by
  have hlist : a.toList.flatMap escapeChar ++ [] = b.toList.flatMap escapeChar ++ [] := by
    simpa using congrArg String.toList h
  exact String.toList_inj.mp (Json.flatMap_append_inj readChar_escapeChar rfl rfl hlist).1

/-- **The delimiters** that a key puts between its parts. -/
def delimiters : List Char := ['|', '@', ';', '=', '\x7b', '\x7d']

theorem delimiter_notMem_escapeChar {d : Char} (hd : d ∈ delimiters) (c : Char) :
    d ∉ escapeChar c := by
  unfold escapeChar
  split
  case h_8 =>
    rw [List.mem_singleton]
    rintro rfl
    simp_all [delimiters]
  -- the characters of the escapes themselves
  all_goals
    simp only [delimiters, List.mem_cons, List.not_mem_nil, or_false] at hd
    rcases hd with rfl | rfl | rfl | rfl | rfl | rfl <;> decide

/-- No delimiter is left in an escaped part. -/
theorem delimiter_notMem_escape {d : Char} (hd : d ∈ delimiters) (part : String) :
    d ∉ (escape part).toList := by
  rw [toList_escape, List.mem_flatMap]
  exact fun ⟨c, _, hc⟩ => delimiter_notMem_escapeChar hd c hc

end Key

/-! ## Scopes -/

namespace Scope

/-- The characters of a constraint in a key. -/
def pairChars (pair : String × Json) : List Char :=
  (Key.escape pair.1).toList ++ '=' :: pair.2.chars

theorem toList_suffix (scope : Scope) :
    scope.suffix.toList
      = '@' :: ((Key.escape scope.kind).toList ++ '\x7b' ::
          ([';'].intercalate (scope.defined.map pairChars) ++ ['\x7d'])) := by
  have hpairs : scope.defined.map
      (String.toList ∘ fun pair => Key.escape pair.1 ++ "=" ++ pair.2.render)
      = scope.defined.map pairChars :=
    List.map_congr_left fun pair _ => by simp [pairChars]
  rw [← hpairs]
  simp [suffix]

/-- **Whether no constraint of a scope holds a double.** -/
def Integral (scope : Scope) : Prop :=
  ∀ (name : String) (value : Json), scope.constraints[name]? = some value → value.integral

theorem integral_ofKind (kind : String) : (ofKind kind).Integral := by
  simp [Integral, ofKind]

theorem Integral.constrain {scope : Scope} (h : scope.Integral) (name : String) {value : Json}
    (hvalue : value.integral) : (scope.constrain name value).Integral := by
  intro other found hfound
  simp only [Scope.constrain, Std.ExtTreeMap.getElem?_insert] at hfound
  split_ifs at hfound
  · exact Option.some.inj hfound ▸ hvalue
  · exact h other found hfound

/-- **What two scopes have in common that a key does not tell apart**: the
kind, and every constraint that is not `null`. -/
structure Alike (s t : Scope) : Prop where
  /-- The kinds are the same. -/
  kind : s.kind = t.kind
  /-- A value other than `null` is that of a constraint in both or in none. -/
  constraints : ∀ (name : String) (value : Json), value ≠ .null →
    (s.constraints[name]? = some value ↔ t.constraints[name]? = some value)

theorem mem_defined_iff {scope : Scope} {name : String} {value : Json} :
    (name, value) ∈ scope.defined
      ↔ scope.constraints[name]? = some value ∧ value.isNull = false := by
  simp [defined, List.mem_filter, Std.ExtTreeMap.mem_toList_iff_getElem?_eq_some]

theorem Integral.of_mem_defined {scope : Scope} (h : scope.Integral) {pair : String × Json}
    (hp : pair ∈ scope.defined) : pair.2.integral :=
  h pair.1 pair.2 (mem_defined_iff.mp hp).1

/-- The constraints that count, as a map. -/
theorem defined_eq_toList_filter (scope : Scope) :
    scope.defined = (scope.constraints.filter fun _ value => !value.isNull).toList := by
  rw [Std.ExtTreeMap.toList_filter]
  rfl

theorem isNull_eq_false_iff {value : Json} : value.isNull = false ↔ value ≠ .null := by
  cases value <;> simp [Json.isNull]

/-- Scopes are alike if their kinds and the constraints that count are the
same. -/
theorem alike_iff {s t : Scope} : s.Alike t ↔ s.kind = t.kind ∧ s.defined = t.defined := by
  constructor
  · intro h
    refine ⟨h.kind, ?_⟩
    rw [defined_eq_toList_filter, defined_eq_toList_filter, Std.ExtTreeMap.toList_inj]
    refine Std.ExtTreeMap.ext_getElem? fun name => ?_
    rw [Std.ExtTreeMap.getElem?_filter', Std.ExtTreeMap.getElem?_filter']
    refine Option.ext fun value => ?_
    simp only [Option.filter_eq_some_iff, Bool.not_eq_true', isNull_eq_false_iff]
    exact and_congr_left fun hvalue => h.constraints name value hvalue
  · rintro ⟨hkind, hdefined⟩
    refine ⟨hkind, fun name value hvalue => ?_⟩
    have hmem : (name, value) ∈ s.defined ↔ (name, value) ∈ t.defined := by rw [hdefined]
    simpa [mem_defined_iff, isNull_eq_false_iff, hvalue] using hmem

/-- A constraint does not start with the brace that closes the list of
constraints, even if its name is empty. -/
theorem close_ne_pairChars (pair : String × Json) (r s : List Char) :
    '\x7d' :: r ≠ pairChars pair ++ s := by
  have hescape := Key.delimiter_notMem_escape (d := '\x7d') (by decide) pair.1
  intro h
  cases hname : (Key.escape pair.1).toList with
  | nil => simp [pairChars, hname] at h
  | cons c rest =>
    simp only [pairChars, hname, List.cons_append, List.cons.injEq] at h
    exact hescape (by rw [hname, h.1]; exact List.mem_cons_self)

/-- **The text of a scope tells its kind and the constraints that count.** -/
theorem suffix_inj {s t : Scope} (hs : s.Integral) (ht : t.Integral)
    (h : s.suffix.toList = t.suffix.toList) : s.kind = t.kind ∧ s.defined = t.defined := by
  rw [toList_suffix, toList_suffix] at h
  obtain ⟨hkind, hpairs⟩ := Json.append_cons_inj
    (Key.delimiter_notMem_escape (by decide) _) (Key.delimiter_notMem_escape (by decide) _)
    (List.cons.inj h).2
  -- the name of a constraint ends at the first `=`, its value where it ends itself
  refine ⟨Key.escape_injective (String.toList_inj.mp hkind),
    (Json.intercalate_append_inj pairChars (by decide : ';' ≠ '\x7d')
      (fun x hx y hy c hc d hd r r' hxy => ?_) (fun x hx => close_ne_pairChars x)
      (fun y hy => close_ne_pairChars y) hpairs).1⟩
  obtain ⟨hname, hvalue⟩ := Json.append_cons_inj
    (Key.delimiter_notMem_escape (by decide) _) (Key.delimiter_notMem_escape (by decide) _)
    (show (Key.escape x.1).toList ++ '=' :: (x.2.chars ++ c :: r)
      = (Key.escape y.1).toList ++ '=' :: (y.2.chars ++ d :: r') by
        simpa [pairChars] using hxy)
  obtain ⟨hxy, hrest⟩ := Json.chars_append_inj (hs.of_mem_defined hx) (ht.of_mem_defined hy)
    (Json.follows_of_mem (by decide) (by decide) hc r)
    (Json.follows_of_mem (by decide) (by decide) hd r') hvalue
  exact ⟨Prod.ext (Key.escape_injective (String.toList_inj.mp hname)) hxy, List.cons.inj hrest⟩

end Scope

/-! ## Whole keys -/

/-- A plain identifier or an entity: an identity that a user of the library
names. -/
def Identity.IsNamed : Identity → Prop
  | .scalar _ | .entity .. => True
  | .null | .custom _ => False

namespace Aliases

variable (aliases : Aliases)

/-- A key begins with the identity, up to the first `@`. -/
theorem at_notMem_identityKey (identity : Identity) :
    '@' ∉ (aliases.identityKey identity).toList := by
  have hescape : ∀ part, '@' ∉ (Key.escape part).toList :=
    Key.delimiter_notMem_escape (by decide)
  cases identity with
  | null => exact (by decide : '@' ∉ Key.null.toList)
  | scalar id => exact hescape id
  | entity kind key =>
    rw [identityKey, String.toList_append, String.toList_append, List.mem_append,
      List.mem_append]
    rintro ((h | h) | h)
    · exact hescape _ h
    · exact absurd h (by decide)
    · exact hescape _ h
  | custom id => exact hescape id

theorem toList_key (context : Context) (ambient : Option Scope) :
    (aliases.key context ambient).toList
      = (aliases.identityKey context.identity).toList
        ++ ((context.scope.or ambient).map fun scope => scope.suffix.toList).getD [] := by
  unfold key
  cases context.scope.or ambient <;> simp

/-- **A key is taken apart in one way**: equal keys have the same identity part,
and scopes that are alike, or none. -/
theorem key_eq_iff_identityKey_eq {c d : Context} {a b : Option Scope}
    (ha : ∀ s ∈ c.scope.or a, s.Integral) (hb : ∀ s ∈ d.scope.or b, s.Integral) :
    aliases.key c a = aliases.key d b
      ↔ aliases.identityKey c.identity = aliases.identityKey d.identity
        ∧ Option.Rel Scope.Alike (c.scope.or a) (d.scope.or b) := by
  have hc := at_notMem_identityKey aliases c.identity
  have hd := at_notMem_identityKey aliases d.identity
  rw [← String.toList_inj, ← String.toList_inj, toList_key, toList_key]
  cases hs : c.scope.or a with
  | none =>
    cases ht : d.scope.or b with
    | none => simp
    | some t =>
      refine iff_of_false (fun h => hc ?_) (fun h => nomatch h.2)
      rw [show (aliases.identityKey c.identity).toList = _ by simpa using h]
      exact List.mem_append_right _ (by rw [Scope.toList_suffix]; exact List.mem_cons_self)
  | some s =>
    cases ht : d.scope.or b with
    | none =>
      refine iff_of_false (fun h => hd ?_) (fun h => nomatch h.2)
      rw [show (aliases.identityKey d.identity).toList = _ by simpa using h.symm]
      exact List.mem_append_right _ (by rw [Scope.toList_suffix]; exact List.mem_cons_self)
    | some t =>
      -- the first `@` of both keys ends their identities
      simp only [Option.map_some, Option.getD_some, Option.rel_some_some]
      constructor
      · intro h
        have hsplit := h
        rw [Scope.toList_suffix, Scope.toList_suffix] at hsplit
        obtain ⟨hidentity, hscope⟩ := Json.append_cons_inj hc hd hsplit
        rw [hidentity] at h
        exact ⟨hidentity, Scope.alike_iff.mpr (Scope.suffix_inj (ha s hs) (hb t ht)
          (List.append_cancel_left h))⟩
      · rintro ⟨hidentity, halike⟩
        obtain ⟨hkind, hdefined⟩ := Scope.alike_iff.mp halike
        rw [hidentity, Scope.toList_suffix, Scope.toList_suffix, hkind, hdefined]

@[simp] theorem storedKind_none (kind : String) : none.storedKind kind = kind := by
  simp [storedKind, none]

/-- Without aliases, plain identifiers and entities have identity parts of their
own. -/
theorem identityKey_injective {i j : Identity} (hi : i.IsNamed) (hj : j.IsNamed)
    (h : none.identityKey i = none.identityKey j) : i = j := by
  have hbar : ∀ part, '|' ∉ (Key.escape part).toList :=
    Key.delimiter_notMem_escape (by decide)
  have hentity : ∀ kind key, (none.identityKey (.entity kind key)).toList
      = (Key.escape kind).toList ++ '|' :: (Key.escape key).toList := fun kind key => by
    simp [identityKey]
  cases i with
  | null => exact hi.elim
  | custom id => exact hi.elim
  | scalar id =>
    cases j with
    | null => exact hj.elim
    | custom id => exact hj.elim
    | scalar id' => rw [Key.escape_injective h]
    | entity kind key =>
      refine absurd ?_ (hbar id)
      rw [show Key.escape id = none.identityKey (.entity kind key) from h, hentity]
      simp
  | entity kind key =>
    cases j with
    | null => exact hj.elim
    | custom id => exact hj.elim
    | scalar id =>
      refine absurd ?_ (hbar id)
      rw [show Key.escape id = none.identityKey (.entity kind key) from h.symm, hentity]
      simp
    | entity kind' key' =>
      have hlist := congrArg String.toList h
      rw [hentity, hentity] at hlist
      obtain ⟨hkind, hkey⟩ := Json.append_cons_inj (hbar kind) (hbar kind') hlist
      rw [Key.escape_injective (String.toList_inj.mp hkind),
        Key.escape_injective (String.toList_inj.mp hkey)]

/-- **Keys cannot be forged.** Two contexts with plain identifiers or entities
have the same key exactly if they stand for the same identity, and the scope
that counts – their own, or else the ambient one – is missing from both or has
the same kind and the same constraints in both, apart from those that are
`null`. -/
theorem key_eq_key_iff {c d : Context} (hc : c.identity.IsNamed) (hd : d.identity.IsNamed)
    {a b : Option Scope} (ha : ∀ s ∈ c.scope.or a, s.Integral)
    (hb : ∀ s ∈ d.scope.or b, s.Integral) :
    none.key c a = none.key d b
      ↔ c.identity = d.identity ∧ Option.Rel Scope.Alike (c.scope.or a) (d.scope.or b) := by
  rw [key_eq_iff_identityKey_eq none ha hb]
  exact and_congr_left fun _ => ⟨identityKey_injective hc hd, congrArg _⟩

/-- A constraint whose text looks like two constraints does not become two,
and one that is `null` does not count. -/
theorem key_eq_key_iff_tenant :
    let forged := (Scope.ofKind "tenant").constrain "a" (.string "1\";b=\"2")
    let honest := ((Scope.ofKind "tenant").constrain "a" (.string "1")).constrain "b"
      (.string "2")
    let padded := forged.constrain "c" .null
    none.key (.group "beta") (some forged) ≠ none.key ((Context.group "beta").inScope honest) .none
      ∧ none.key (.group "beta") (some forged)
        = none.key ((Context.group "beta").inScope padded) (some honest) := by
  intro forged honest padded
  have hforged : forged.Integral := (Scope.integral_ofKind _).constrain _ rfl
  have hhonest : honest.Integral := ((Scope.integral_ofKind _).constrain _ rfl).constrain _ rfl
  have hpadded : padded.Integral := hforged.constrain _ rfl
  have hall : ∀ {s : Scope}, s.Integral → ∀ t ∈ some s, t.Integral := fun h _ ht =>
    Option.some.inj ht ▸ h
  have hplain : (Context.group "beta").identity.IsNamed := trivial
  have hscoped : ∀ s, ((Context.group "beta").inScope s).identity.IsNamed := fun _ => trivial
  constructor
  · rw [Ne, key_eq_key_iff hplain (hscoped honest) (hall hforged) (hall hhonest)]
    rintro ⟨-, hrel⟩
    have halike : forged.Alike honest := Option.rel_some_some.mp hrel
    have hb := (halike.constraints "b" (.string "2") (by simp)).mpr
      (by simp [honest, Scope.constrain])
    simp [forged, Scope.constrain, Scope.ofKind] at hb
  · rw [key_eq_key_iff hplain (hscoped padded) (hall hforged) (hall hpadded)]
    refine ⟨rfl, .some ⟨rfl, fun name value hvalue => ?_⟩⟩
    by_cases hname : "c" = name
    · subst hname
      simp [forged, padded, Scope.constrain, Scope.ofKind, hvalue.symm]
    · simp [padded, Scope.constrain, Std.ExtTreeMap.getElem?_insert, hname]

end Aliases

end FeatureGate
