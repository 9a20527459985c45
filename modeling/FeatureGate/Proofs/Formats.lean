import FeatureGate.Context.Document
import FeatureGate.Proofs.Json.Records

/-!
# Written values are read back

Feature values, identities, scopes, contexts and variant tables are written as JSON and read from
it. A value has one document, but many documents are read as that value: the fields of an object
may come in any order, and a record may have fields nobody knows (`Format.Forms`). A format is
faithful if every form of a value, as text, is read as that value and no other
(`Format.IsFaithful`); all five formats are.

Payloads and constraints are JSON values of any shape, except that doubles are left out, and that
a text can only be read if it does not nest too deep. Both are matters of JSON and not of the
formats, so the second is asked of the value's own text and of nothing else.
-/

namespace FeatureGate

open Json (Document)

/-- **A written format** of a sort of values. -/
structure Format (α : Type) where
  /-- The document a value is written as. -/
  write : α → Document
  /-- The value a document is read as. -/
  read? : Document → Option α
  /-- Whether the JSON values inside are values without doubles. -/
  Plain : α → Prop
  /-- The documents that say what the value's own document says. -/
  Forms : α → Document → Prop

namespace Format

variable {α : Type}

/-- Whether the text of a value can be read as JSON at all. Only depth can keep it from that, as
it does with JSON values themselves (`Json.parse?_render_iff`). -/
def IsReadable (format : Format α) (a : α) : Prop :=
  (Json.parse? (format.write a).render).isSome

instance (format : Format α) (a : α) : Decidable (format.IsReadable a) :=
  inferInstanceAs (Decidable (_ = true))

/-- **A faithful format**: values are read back from every form of theirs, and no two values have
the same text. -/
structure IsFaithful (format : Format α) : Prop where
  /-- What a value is written as is a form of it. -/
  forms_write : ∀ a, format.Forms a (format.write a)
  /-- The text of each form is read as the value. -/
  reads : ∀ a, format.Plain a → format.IsReadable a → ∀ document, format.Forms a document →
    (Document.parse? document.render).bind format.read? = some a
  /-- Values that have the same text are the same. -/
  eq_of_render_eq : ∀ a b, format.Plain a → format.Plain b →
    (format.write a).render = (format.write b).render → a = b

/-- What is left to show of a format once texts are out of the way. -/
theorem isFaithful_of_documents {format : Format α}
    (hwrite : ∀ a, format.Forms a (format.write a))
    (hwritten : ∀ a, format.Plain a → ∀ document, format.Forms a document → document.IsWritten)
    (hread : ∀ a, format.Plain a → ((format.write a).toJson? Json.depthLimit).isSome →
      ∀ document, format.Forms a document → format.read? document = some a)
    (hinjective : ∀ a b, format.Plain a → format.Plain b → format.write a = format.write b →
      a = b) : format.IsFaithful where
  forms_write := hwrite
  reads a hplain hreadable document hform := by
    rw [Document.parse?_render (hwritten a hplain document hform), Option.bind_some]
    refine hread a hplain ?_ document hform
    rwa [IsReadable, Json.parse?, Document.parse?_render (hwritten a hplain _ (hwrite a))]
      at hreadable
  eq_of_render_eq a b ha hb h :=
    hinjective a b ha hb (Document.render_injective (hwritten a ha _ (hwrite a))
      (hwritten b hb _ (hwrite b)) h)

end Format

/-! ## JSON values -/

namespace Json

/-- A value without doubles, with the fields of its objects in order. -/
structure Plain (value : Json) : Prop where
  /-- No number is a double. -/
  integral : value.integral
  /-- Every object lists its fields in order. -/
  canonical : value.canonical

/-- An object of plain values under names in order. -/
theorem plain_object {fields : List (String × Json)} (hsorted : fields.Pairwise (·.1 < ·.1))
    (h : ∀ field ∈ fields, field.2.Plain) : (Json.object fields).Plain := by
  have hfields : integralFields fields ∧ canonicalFields fields := by
    induction fields with
    | nil => exact ⟨rfl, trivial⟩
    | cons field rest ih =>
      obtain ⟨hfield, hrest⟩ := List.forall_mem_cons.mp h
      obtain ⟨hintegral, hcanonical⟩ := ih hsorted.of_cons hrest
      exact ⟨(Bool.and_eq_true _ _).mpr ⟨hfield.integral, hintegral⟩, hfield.canonical, hcanonical⟩
  exact ⟨hfields.1, hsorted, hfields.2⟩

theorem ofJson_injective {v w : Json} (hv : v.integral) (hw : w.integral)
    (h : Document.ofJson v = Document.ofJson w) : v = w := by
  have hchars : v.chars ++ [] = w.chars ++ [] := by rw [chars, h, chars]
  have hend : Follows [] := by simp [Follows]
  exact (chars_append_inj hv hw hend hend hchars).1

/-- What spells a plain value means that value, wherever its own document means one. -/
theorem Plain.toJson?_eq {value : Json} (h : value.Plain) {document : Document} {budget : Nat}
    (hspells : document.Spells value) (hbudget : ((Document.ofJson value).toJson? budget).isSome) :
    document.toJson? budget = some value :=
  hspells.toJson?_eq h.integral h.canonical hbudget

end Json

/-! ## Feature values -/

namespace FeatureValue

/-- Whether the payload of an active value is plain. -/
def Plain : FeatureValue → Prop
  | .active payload => payload.Plain
  | _ => True

/-- **What a feature value may be written as**: a record of its state, with the payload if it is
active. -/
def Forms : FeatureValue → Document → Prop
  | .active payload, document => ∃ written, written.Spells payload ∧
      document.WritesRecord ["state", "payload"]
        [("state", .text "active"), ("payload", written)]
  | value, document => document.WritesRecord ["state", "payload"] [("state", .text value.state)]

/-- The format of feature values. -/
def format : Format FeatureValue := ⟨toDocument, ofDocument?, Plain, Forms⟩

theorem stateName?_text (record : Document) (name : String) :
    stateName? record (.text name) = some name := by
  cases record <;> rfl

theorem forms_toDocument : ∀ value : FeatureValue, value.Forms value.toDocument
  | .active payload => ⟨_, Document.spells_ofJson payload, Document.writesRecord_record _ _⟩
  | .inactive => Document.writesRecord_record _ _
  | .undefined => Document.writesRecord_record _ _

theorem isWritten_of_forms : ∀ {value : FeatureValue} {document : Document},
    value.Plain → value.Forms document → document.IsWritten
  | .active _, _, h, ⟨_, hspells, hrecord⟩ =>
    hrecord.isWritten (by simp [hspells.isWritten h.integral])
  | .inactive, _, _, hrecord => hrecord.isWritten (by simp)
  | .undefined, _, _, hrecord => hrecord.isWritten (by simp)

/-- **A feature value is read from every form of it.** -/
theorem ofDocument?_of_forms {value : FeatureValue} {document : Document} (hplain : value.Plain)
    (hbudget : (value.toDocument.toJson? Json.depthLimit).isSome)
    (h : value.Forms document) : ofDocument? document = some value := by
  cases value with
  | active payload =>
    obtain ⟨written, hspells, hrecord⟩ := h
    -- the record is one container, so the payload is read with one less
    have hpayload : ((Document.ofJson payload).toJson? (Json.depthLimit - 1)).isSome :=
      Document.isSome_toJson?_of_record hbudget ("payload", Document.ofJson payload) (by simp)
    have hread : written.toJson? (Json.depthLimit - 1) = some payload :=
      hplain.toJson?_eq hspells hpayload
    simp [ofDocument?, hrecord.fields?_eq (by simp), List.lookup_cons, stateName?_text, hread]
  | inactive | undefined =>
    simp [ofDocument?, Document.WritesRecord.fields?_eq h (by simp), List.lookup_cons, state,
      stateName?_text]

theorem toDocument_injective {v w : FeatureValue} (hv : v.Plain) (hw : w.Plain)
    (h : v.toDocument = w.toDocument) : v = w := by
  cases v <;> cases w <;> simp [toDocument, Document.record, Document.text, state] at h ⊢
  exact Json.ofJson_injective hv.integral hw.integral h

theorem isFaithful : format.IsFaithful :=
  Format.isFaithful_of_documents forms_toDocument (fun _ h _ hform => isWritten_of_forms h hform)
    (fun _ h hbudget _ hform => ofDocument?_of_forms h hbudget hform)
    (fun _ _ hv hw h => toDocument_injective hv hw h)

end FeatureValue

/-! ## Identities -/

namespace Identity

/-- **What an identity may be written as.** Only an entity has fields that can be moved: the
object around them has one field and says which sort of identity it is. -/
def Forms : Identity → Document → Prop
  | .entity kind key, document => ∃ content,
      content.WritesRecord ["kind", "key"] [("kind", .text kind), ("key", .text key)] ∧
        document = .record [("entity", content)]
  | identity, document => document = identity.toDocument

/-- The format of identities. -/
def format : Format Identity := ⟨toDocument, ofDocument?, fun _ => True, Forms⟩

theorem forms_toDocument : ∀ identity : Identity, identity.Forms identity.toDocument
  | .null => rfl
  | .scalar _ => rfl
  | .entity _ _ => ⟨_, Document.writesRecord_record _ _, rfl⟩
  | .custom _ => rfl

theorem isWritten_of_forms : ∀ {identity : Identity} {document : Document},
    identity.Forms document → document.IsWritten
  | .null, _, rfl => rfl
  | .scalar _, _, rfl => ⟨rfl, rfl, trivial⟩
  | .entity _ _, _, ⟨_, hrecord, rfl⟩ =>
    ⟨rfl, hrecord.isWritten (by simp), trivial⟩
  | .custom _, _, rfl => ⟨rfl, rfl, trivial⟩

/-- **An identity is read from every form of it.** -/
theorem ofDocument?_of_forms : ∀ {identity : Identity} {document : Document},
    identity.Forms document → ofDocument? document = some identity
  | .null, _, rfl => rfl
  | .scalar _, _, rfl => rfl
  | .entity kind key, _, ⟨content, hrecord, rfl⟩ => by
    have hfields : content.fields? ["kind", "key"]
        = some [some (.text kind), some (.text key)] := by
      simp [hrecord.fields?_eq (by simp), List.lookup_cons]
    simp [ofDocument?, Document.choice?, Document.record, hfields]
  | .custom _, _, rfl => rfl

theorem toDocument_injective {a b : Identity} (h : a.toDocument = b.toDocument) : a = b :=
  Option.some.inj ((ofDocument?_of_forms (forms_toDocument a)).symm.trans
    (h ▸ ofDocument?_of_forms (forms_toDocument b)))

theorem isFaithful : format.IsFaithful :=
  Format.isFaithful_of_documents forms_toDocument (fun _ _ _ hform => isWritten_of_forms hform)
    (fun _ _ _ _ hform => ofDocument?_of_forms hform) (fun _ _ _ _ h => toDocument_injective h)

end Identity

/-! ## Scopes -/

namespace Scope

/-- Whether every constraint is plain. -/
def Plain (scope : Scope) : Prop :=
  ∀ (name : String) (value : Json), scope.constraints[name]? = some value → value.Plain

/-- The constraints as one value. -/
def constraintsJson (scope : Scope) : Json := .object scope.constraints.toList

/-- **What a scope may be written as**: a record of its kind and its constraints, which are an
object with its fields in any order. -/
def Forms (scope : Scope) (document : Document) : Prop :=
  ∃ written, written.Spells scope.constraintsJson ∧
    document.WritesRecord ["kind", "constraints"]
      [("kind", .text scope.kind), ("constraints", written)]

/-- The format of scopes. -/
def format : Format Scope := ⟨toDocument, ofDocument?, Plain, Forms⟩

theorem plain_ofKind (kind : String) : (ofKind kind).Plain := by
  simp [Plain, ofKind]

theorem Plain.constrain {scope : Scope} (h : scope.Plain) (name : String) {value : Json}
    (hvalue : value.Plain) : (scope.constrain name value).Plain := by
  intro other found hfound
  simp only [Scope.constrain, Std.ExtTreeMap.getElem?_insert] at hfound
  split_ifs at hfound
  · exact Option.some.inj hfound ▸ hvalue
  · exact h other found hfound

theorem Plain.constraintsJson {scope : Scope} (h : scope.Plain) : scope.constraintsJson.Plain := by
  refine Json.plain_object ?_ fun field hfield =>
    h field.1 field.2 (Std.ExtTreeMap.mem_toList_iff_getElem?_eq_some.mp hfield)
  refine Std.ExtTreeMap.ordered_keys_toList.imp fun hlt => ?_
  exact compareOfLessAndEq_eq_lt.mp hlt

theorem toDocument_eq (scope : Scope) :
    scope.toDocument = .record [("kind", .text scope.kind),
      ("constraints", .ofJson scope.constraintsJson)] := by
  have hfields : ∀ fields : List (String × Json),
      Document.ofFields fields = fields.map fun field => (some field.1, .ofJson field.2) := by
    intro fields
    induction fields with
    | nil => rfl
    | cons field rest ih => rw [Document.ofFields, ih, List.map_cons]
  rw [toDocument, constraintsJson, Document.ofJson, hfields]
  simp only [Document.record, List.map_map]
  rfl

theorem forms_toDocument (scope : Scope) : scope.Forms scope.toDocument := by
  rw [toDocument_eq]
  exact ⟨_, Document.spells_ofJson _, Document.writesRecord_record _ _⟩

theorem isWritten_of_forms {scope : Scope} {document : Document} (hplain : scope.Plain)
    (h : scope.Forms document) : document.IsWritten := by
  obtain ⟨written, hspells, hrecord⟩ := h
  refine hrecord.isWritten ?_
  simp [hspells.isWritten hplain.constraintsJson.integral]

theorem foldl_insert_eq_insertMany (fields : List (String × Json)) :
    ∀ map : Std.ExtTreeMap String Json,
      fields.foldl (fun map (name, value) => map.insert name value) map
        = map.insertMany fields := by
  induction fields with
  | nil => exact fun map => Std.ExtTreeMap.insertMany_nil.symm
  | cons field rest ih =>
    intro map
    rw [List.foldl_cons, ih, Std.ExtTreeMap.insertMany_cons]

/-- **Fields put into a map in any order** are the map they are the fields of. -/
theorem foldl_insert_of_perm {fields : List (String × Json)} {map : Std.ExtTreeMap String Json}
    (h : fields.Perm map.toList) :
    fields.foldl (fun map (name, value) => map.insert name value) ∅ = map := by
  rw [foldl_insert_eq_insertMany]
  refine Std.ExtTreeMap.ext_getElem? fun name => ?_
  cases hname : map[name]? with
  | some value =>
    -- no name is repeated, so it does not matter which field is put in last
    have hmem : (name, value) ∈ fields :=
      h.mem_iff.mpr (Std.ExtTreeMap.mem_toList_iff_getElem?_eq_some.mpr hname)
    have hdistinct := h.symm.pairwise Std.ExtTreeMap.distinct_keys_toList
      fun hne heq => hne (Std.OrientedCmp.eq_symm heq)
    exact Std.ExtTreeMap.getElem?_insertMany_list_of_mem (by simp) hdistinct hmem
  | none =>
    rw [Std.ExtTreeMap.getElem?_insertMany_list_of_contains_eq_false]
    · rfl
    · refine Bool.eq_false_iff.mpr fun hcontains => ?_
      obtain ⟨field, hfield, rfl⟩ := List.mem_map.mp (List.contains_iff_mem.mp hcontains)
      have hsome := Std.ExtTreeMap.mem_toList_iff_getElem?_eq_some.mp (h.mem_iff.mp hfield)
      exact Option.some_ne_none _ (hsome.symm.trans hname)

theorem constraintsOfDocument?_of_spells {scope : Scope} {written : Document} {budget : Nat}
    (hplain : scope.Plain) (hspells : written.Spells scope.constraintsJson)
    (hbudget : ((Document.ofJson scope.constraintsJson).toJson? (budget + 1)).isSome) :
    constraintsOfDocument? budget written = some scope.constraints := by
  obtain ⟨fields, sorted, rfl, hperm, hfields⟩ := hspells
  rw [constraintsJson, Document.ofJson, Document.toJson?, Option.isSome_map] at hbudget
  obtain ⟨found, hfound, hsorted⟩ := Document.exists_fieldsToJson?_of_perm hperm
    (hfields.fieldsToJson?_eq hplain.constraintsJson.integral hplain.constraintsJson.canonical.2
      hbudget)
  simp [constraintsOfDocument?, hfound, foldl_insert_of_perm hsorted]

/-- **A scope is read from every form of it**, also inside a context. -/
theorem ofDocumentAt?_of_forms {scope : Scope} {document : Document} {depth : Nat}
    (hplain : scope.Plain)
    (hbudget : (scope.toDocument.toJson? (Json.depthLimit - 2 - depth + 2)).isSome)
    (h : scope.Forms document) : ofDocumentAt? depth document = some scope := by
  obtain ⟨written, hspells, hrecord⟩ := h
  rw [toDocument_eq] at hbudget
  have hconstraints := constraintsOfDocument?_of_spells hplain hspells
    (Document.isSome_toJson?_of_record hbudget _ (List.mem_cons_of_mem _ List.mem_cons_self))
  simp [ofDocumentAt?, hrecord.fields?_eq (by simp), List.lookup_cons, hconstraints]

theorem toDocument_injective {a b : Scope} (ha : a.Plain) (hb : b.Plain)
    (h : a.toDocument = b.toDocument) : a = b := by
  rw [toDocument_eq, toDocument_eq] at h
  have hparts : a.kind = b.kind ∧
      Document.ofJson a.constraintsJson = Document.ofJson b.constraintsJson := by
    simpa [Document.record, Document.text] using h
  have hjson := Json.ofJson_injective ha.constraintsJson.integral hb.constraintsJson.integral
    hparts.2
  have hconstraints : a.constraints = b.constraints :=
    Std.ExtTreeMap.toList_inj.mp (Json.object.inj hjson)
  obtain ⟨kind, constraints⟩ := a
  exact congr (congrArg Scope.mk hparts.1) hconstraints

theorem isFaithful : format.IsFaithful :=
  Format.isFaithful_of_documents forms_toDocument (fun _ h _ hform => isWritten_of_forms h hform)
    (fun _ h hbudget _ hform => ofDocumentAt?_of_forms h hbudget hform)
    (fun _ _ ha hb h => toDocument_injective ha hb h)

end Scope

/-! ## Contexts -/

namespace Context

/-- Whether the scope, if there is one, is plain. -/
def Plain (context : Context) : Prop := ∀ scope ∈ context.scope, scope.Plain

/-- What the scope of a context may be written as. -/
def ScopeForms : Option Scope → Document → Prop
  | some scope, document => scope.Forms document
  | none, document => document = .null

/-- **What a context may be written as**: a record of its identity and its scope, which is `null`
if there is none. -/
def Forms (context : Context) (document : Document) : Prop :=
  ∃ identity scope, context.identity.Forms identity ∧ ScopeForms context.scope scope ∧
    document.WritesRecord ["identity", "scope"] [("identity", identity), ("scope", scope)]

/-- The format of contexts. -/
def format : Format Context := ⟨toDocument, ofDocument?, Plain, Forms⟩

theorem scopeForms_ofOption : ∀ scope : Option Scope,
    ScopeForms scope (.ofOption (scope.map Scope.toDocument))
  | some scope => scope.forms_toDocument
  | none => rfl

theorem forms_toDocument (context : Context) : context.Forms context.toDocument :=
  ⟨_, _, context.identity.forms_toDocument, scopeForms_ofOption _,
    Document.writesRecord_record _ _⟩

theorem isWritten_of_forms {context : Context} {document : Document} (hplain : context.Plain)
    (h : context.Forms document) : document.IsWritten := by
  obtain ⟨identity, scope, hidentity, hscope, hrecord⟩ := h
  have hwritten : scope.IsWritten := by
    cases hc : context.scope with
    | none =>
      rw [hc] at hscope
      exact hscope ▸ trivial
    | some s =>
      rw [hc] at hscope
      exact Scope.isWritten_of_forms (hplain s hc) hscope
  refine hrecord.isWritten ?_
  simp [Identity.isWritten_of_forms hidentity, hwritten]

/-- A scope is written as an object, and so as something else than `null`. -/
theorem isNull_of_forms {scope : Scope} {document : Document} (h : scope.Forms document) :
    document.isNull = false := by
  obtain ⟨_, _, _, _, _, _, rfl⟩ := h
  rfl

/-- **A context is read from every form of it.** -/
theorem ofDocument?_of_forms {context : Context} {document : Document} (hplain : context.Plain)
    (hbudget : (context.toDocument.toJson? Json.depthLimit).isSome)
    (h : context.Forms document) : ofDocument? document = some context := by
  obtain ⟨id, own⟩ := context
  obtain ⟨identity, scope, hidentity, hscope, hrecord⟩ := h
  have hid := Identity.ofDocument?_of_forms hidentity
  cases own with
  | none =>
    have hnull : scope = .null := hscope
    subst hnull
    simp [ofDocument?, hrecord.fields?_eq (by simp), List.lookup_cons, hid, Document.isNull]
  | some s =>
    have hread : Scope.ofDocumentAt? 1 scope = some s :=
      Scope.ofDocumentAt?_of_forms (hplain s rfl)
        (Document.isSome_toJson?_of_record hbudget ("scope", s.toDocument)
          (List.mem_cons_of_mem _ List.mem_cons_self)) hscope
    simp [ofDocument?, hrecord.fields?_eq (by simp), List.lookup_cons, hid,
      isNull_of_forms hscope, hread]

theorem toDocument_injective {a b : Context} (ha : a.Plain) (hb : b.Plain)
    (h : a.toDocument = b.toDocument) : a = b := by
  obtain ⟨id, own⟩ := a
  obtain ⟨id', own'⟩ := b
  have hparts : id.toDocument = id'.toDocument ∧
      Document.ofOption (own.map Scope.toDocument) = .ofOption (own'.map Scope.toDocument) := by
    simpa [toDocument, Document.record] using h
  rw [Identity.toDocument_injective hparts.1]
  cases own with
  | none =>
    cases own' with
    | none => rfl
    | some s' => cases hparts.2
  | some s =>
    cases own' with
    | none => cases hparts.2
    | some s' => rw [Scope.toDocument_injective (ha s rfl) (hb s' rfl) hparts.2]

theorem isFaithful : format.IsFaithful :=
  Format.isFaithful_of_documents forms_toDocument (fun _ h _ hform => isWritten_of_forms h hform)
    (fun _ h hbudget _ hform => ofDocument?_of_forms h hbudget hform)
    (fun _ _ ha hb h => toDocument_injective ha hb h)

end Context

/-! ## Variant tables -/

namespace VariantTable

/-- The document of a variant and its weight. -/
def shareDocument (share : String × UInt32) : Document :=
  .array [.text share.1, .number (toString share.2.toNat)]

/-- **What a variant table may be written as**: a record of its variants in order. -/
def Forms (table : VariantTable) (document : Document) : Prop :=
  document.WritesRecord ["variants"] [("variants", .array (table.variants.map shareDocument))]

/-- The format of variant tables. -/
def format : Format VariantTable := ⟨toDocument, ofDocument?, fun _ => True, Forms⟩

theorem forms_toDocument (table : VariantTable) : table.Forms table.toDocument :=
  Document.writesRecord_record _ _

theorem shareOfDocument?_shareDocument (share : String × UInt32) :
    shareOfDocument? (shareDocument share) = some share := by
  obtain ⟨name, weight⟩ := share
  have hlt : weight.toNat < UInt32.size := weight.toNat_lt_size
  have hnumber := Json.Number.ofText?_integer weight.toNat (by unfold UInt32.size at hlt; omega)
  have hread : (Document.number (toString weight.toNat)).number? = _ := hnumber
  have hbelow : ∀ inRange, (Json.Number.integer weight.toNat inRange).toNatBelow? UInt32.size
      = some weight.toNat := fun _ => if_pos hlt
  rw [shareDocument, shareOfDocument?, hread]
  simp [hbelow]

theorem isWritten_of_forms {table : VariantTable} {document : Document}
    (h : table.Forms document) : document.IsWritten := by
  have hshare : ∀ share ∈ table.variants, (shareDocument share).IsWritten := fun share _ =>
    ⟨rfl, Option.isSome_iff_exists.mpr ⟨_, Json.Numeral.parse?_toString share.2.toNat⟩, trivial⟩
  refine h.isWritten (List.forall_mem_singleton.mpr ?_)
  exact Document.areWritten_iff.mpr (List.forall_mem_map.mpr hshare)

/-- **A variant table is read from every form of it.** -/
theorem ofDocument?_of_forms {table : VariantTable} {document : Document}
    (h : table.Forms document) : ofDocument? document = some table := by
  have hshares : (table.variants.map shareDocument).mapM shareOfDocument?
      = some table.variants := by
    induction table.variants with
    | nil => rfl
    | cons share rest ih =>
      rw [List.map_cons, List.mapM_cons, shareOfDocument?_shareDocument, ih]
      rfl
  simp [ofDocument?, h.fields?_eq (by simp), List.lookup_cons, hshares]

theorem toDocument_injective {a b : VariantTable} (h : a.toDocument = b.toDocument) : a = b :=
  Option.some.inj ((ofDocument?_of_forms (forms_toDocument a)).symm.trans
    (h ▸ ofDocument?_of_forms (forms_toDocument b)))

theorem isFaithful : format.IsFaithful :=
  Format.isFaithful_of_documents forms_toDocument (fun _ _ _ hform => isWritten_of_forms hform)
    (fun _ _ _ _ hform => ofDocument?_of_forms hform) (fun _ _ _ _ h => toDocument_injective h)

end VariantTable

/-- **Written values are read back unchanged**, whatever the order of the fields of an object and
whatever fields a record has besides: feature values, identities, scopes, contexts and variant
tables. Distinct values are written differently, and a context that is read back has the key it
had, under any aliases and in any ambient scope. -/
theorem written_values_read_back :
    FeatureValue.format.IsFaithful ∧ Identity.format.IsFaithful ∧ Scope.format.IsFaithful ∧
      Context.format.IsFaithful ∧ VariantTable.format.IsFaithful ∧
      ∀ context : Context, context.Plain → Context.format.IsReadable context →
        ∀ document, context.Forms document →
          ∃ read, (Document.parse? document.render).bind Context.ofDocument? = some read ∧
            ∀ (aliases : Aliases) (ambient : Option Scope),
              aliases.key read ambient = aliases.key context ambient :=
  ⟨FeatureValue.isFaithful, Identity.isFaithful, Scope.isFaithful, Context.isFaithful,
    VariantTable.isFaithful, fun context hplain hreadable document hform =>
      ⟨context, Context.isFaithful.reads context hplain hreadable document hform,
        fun _ _ => rfl⟩⟩

/-- An active value whose payload is `null`, with a field nobody knows and the state last; and a
context with its scope first and the constraints out of order. -/
theorem shuffled_values_read_back :
    let value := Document.record
      [("payload", .null), ("comment", .number "1e999"), ("state", .text "active")]
    let scope := ((Scope.ofKind "tenant").constrain "id" (.string "7")).constrain "plan" .null
    let context := (Context.entity "user" "42").inScope scope
    let written := Document.record
      [("scope", .record
        [("constraints", .record [("plan", .null), ("id", .text "7")]), ("kind", .text "tenant")]),
      ("identity", .record
        [("entity", .record [("key", .text "42"), ("since", .null), ("kind", .text "user")])])]
    (Document.parse? value.render).bind FeatureValue.ofDocument? = some (.active .null) ∧
      (Document.parse? written.render).bind Context.ofDocument? = some context := by
  intro value scope context written
  obtain ⟨hvalues, -, -, hcontexts, -, -⟩ := written_values_read_back
  have hid : Json.Plain (.string "7") := ⟨rfl, trivial⟩
  have hnull : Json.Plain .null := ⟨rfl, trivial⟩
  have hscope : scope.Plain := ((Scope.plain_ofKind _).constrain _ hid).constrain _ hnull
  have hconstraints : scope.constraints.toList = [("id", .string "7"), ("plan", .null)] := by
    decide +kernel
  constructor
  · refine hvalues.reads (.active .null) hnull (by decide +kernel) value
      ⟨.null, rfl, [("comment", .number "1e999")], _, ?_, List.perm_append_singleton _ _, rfl⟩
    refine List.forall_mem_singleton.mpr ⟨by decide, ?_⟩
    show (Json.Numeral.parse? "1e999".toList).isSome
    decide +kernel
  · refine hcontexts.reads context (fun _ h => Option.some.inj h ▸ hscope) (by decide +kernel)
      written ⟨_, _, ⟨_, ⟨[("since", .null)], _, ?_, List.perm_append_singleton _ _, rfl⟩, rfl⟩,
        ⟨_, ?_, [], _, by simp, .swap _ _ _, rfl⟩, [], _, by simp, .swap _ _ _, rfl⟩
    · exact List.forall_mem_singleton.mpr ⟨by decide, trivial⟩
    · rw [Scope.constraintsJson, hconstraints]
      exact ⟨_, _, rfl, .swap _ _ _, _, _, rfl, rfl, _, _, rfl, rfl, rfl⟩

end FeatureGate
