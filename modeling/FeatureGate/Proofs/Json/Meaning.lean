import FeatureGate.Proofs.Json.Reading

/-!
# Documents that mean a value

A value has one document of its own, with the fields of every object in increasing order of name,
but it can be written otherwise: the order of the fields of an object does not matter, nor that
of the fields of an object inside it. `Document.Spells` says of a document that it is one of
those.

Whatever spells a value means that value (`Document.Spells.toJson?`). How deep a document nests
is the same for all that spell a value, so a budget that does for the value's own document does
for each of them, and a value is read back from its text unless it nests too deep
(`parse?_render_iff`). Doubles are left out: their text is not always read back as the same
double.
-/

namespace FeatureGate.Json

/-! ## Integers -/

namespace Numeral

theorem value_toDigits (n : Nat) : Text.value (Nat.toDigits 10 n) = n :=
  Nat.ofDigitChars_ten_toDigits

theorem digitChar_ne_zero : ∀ n < 10, 0 < n → Nat.digitChar n ≠ '0' := by decide

/-- No superfluous zero is written in front. -/
theorem head?_toDigits_ne_zero {n : Nat} (h : 0 < n) : (Nat.toDigits 10 n).head? ≠ some '0' := by
  induction n using Nat.strongRecOn with
  | ind n ih =>
    rcases Nat.lt_or_ge n 10 with hlt | hge
    · rw [Nat.toDigits_of_lt_base hlt]
      exact fun hzero => digitChar_ne_zero n hlt h (Option.some.inj hzero)
    · rw [Nat.toDigits_of_base_le (by decide) hge,
        List.head?_append_of_ne_nil _ Nat.toDigits_ne_nil]
      exact ih (n / 10) (by omega) (by omega)

theorem takeWhile_toDigits (n : Nat) :
    (Nat.toDigits 10 n).takeWhile Char.isDigit = Nat.toDigits 10 n :=
  List.takeWhile_eq_self_iff.mpr fun _ => isDigit_of_mem_toDigits

theorem dropWhile_toDigits (n : Nat) : (Nat.toDigits 10 n).dropWhile Char.isDigit = [] :=
  List.dropWhile_eq_nil_iff.mpr fun _ => isDigit_of_mem_toDigits

/-- The digits of a natural number may be the whole part of a numeral. -/
theorem isWhole_toDigits (n : Nat) :
    (!(Nat.toDigits 10 n).isEmpty &&
      ((Nat.toDigits 10 n).head? != some '0' || (Nat.toDigits 10 n).length == 1)) = true := by
  have hne : (Nat.toDigits 10 n).isEmpty = false :=
    List.isEmpty_eq_false_iff.mpr Nat.toDigits_ne_nil
  rcases Nat.eq_zero_or_pos n with rfl | hpos
  · rfl
  · have hhead : ((Nat.toDigits 10 n).head? != some '0') = true :=
      bne_iff_ne.mpr (head?_toDigits_ne_zero hpos)
    rw [hne, hhead]
    rfl

/-- **The text of an integer is a numeral** without fraction and exponent. -/
theorem parse?_toString (value : Int) :
    parse? (toString value).toList
      = some ⟨decide (value < 0), Nat.toDigits 10 value.natAbs, none, none⟩ := by
  unfold parse?
  split
  rename_i negative unsigned hsplit
  have hparts : negative = decide (value < 0) ∧ unsigned = Nat.toDigits 10 value.natAbs := by
    rw [toList_toString_int] at hsplit
    split_ifs at hsplit with hneg
    · cases hsplit
      simp [hneg]
    · split at hsplit
      · rename_i rest hdigits
        have hminus : '-' ∈ Nat.toDigits 10 value.natAbs := hdigits ▸ List.mem_cons_self
        cases isDigit_of_mem_toDigits hminus
      · cases hsplit
        simp [hneg]
  obtain ⟨rfl, rfl⟩ := hparts
  rw [takeWhile_toDigits, dropWhile_toDigits]
  dsimp only
  rw [isWhole_toDigits]
  rfl

end Numeral

/-- **An integer is read back from its text.** -/
theorem Number.ofText?_integer (value : Int)
    (inRange : -9223372036854775808 ≤ value ∧ value < 18446744073709551616) :
    Number.ofText? (toString value) = some (.integer value inRange) := by
  have hvalue : (if decide (value < 0) then -(Text.value (Nat.toDigits 10 value.natAbs) : Int)
      else Text.value (Nat.toDigits 10 value.natAbs)) = value := by
    rw [Numeral.value_toDigits]
    split_ifs with hneg <;> simp only [decide_eq_true_eq] at hneg <;> omega
  rw [Number.ofText?, Numeral.parse?_toString]
  simp only [Option.bind_eq_bind, Option.bind_some, Numeral.toNumber?, hvalue]
  rw [dif_pos]
  refine ⟨trivial, trivial, fun hneg => ?_, inRange⟩
  rw [Numeral.value_toDigits]
  simp only [decide_eq_true_eq] at hneg
  omega

theorem Number.ofText?_text {number : Number} (h : (Json.number number).integral) :
    Number.ofText? number.text = some number := by
  cases number with
  | integer value inRange => exact Number.ofText?_integer value inRange
  | double value => cases h

theorem Number.isSome_parse?_text {number : Number} (h : (Json.number number).integral) :
    (Numeral.parse? number.text.toList).isSome := by
  cases number with
  | integer value inRange => exact Option.isSome_iff_exists.mpr ⟨_, Numeral.parse?_toString value⟩
  | double value => cases h

/-! ## Sorted fields -/

namespace Fields

variable {α : Type}

theorem perm_put {name : String} (value : α) : ∀ {fields : List (String × α)},
    name ∉ fields.map (·.1) → (put name value fields).Perm ((name, value) :: fields)
  | [], _ => .refl _
  | (other, old) :: rest, h => by
    obtain ⟨hne, hrest⟩ := not_or.mp (mt List.mem_cons.mpr h)
    rw [put, if_neg hne]
    split_ifs
    · exact .refl _
    · exact ((perm_put value hrest).cons _).trans (.swap _ _ _)

theorem mem_of_mem_put {name : String} {value : α} {field : String × α} :
    ∀ {fields : List (String × α)}, field ∈ put name value fields →
      field = (name, value) ∨ field ∈ fields
  | [], h => .inl (List.mem_singleton.mp h)
  | (other, old) :: rest, h => by
    rw [put] at h
    split_ifs at h with hlt heq
    · exact List.mem_cons.mp h
    · exact (List.mem_cons.mp h).imp_right (List.mem_cons_of_mem _)
    · rcases List.mem_cons.mp h with rfl | h
      · exact .inr List.mem_cons_self
      · exact (mem_of_mem_put h).imp_right (List.mem_cons_of_mem _)

theorem pairwise_put {name : String} (value : α) : ∀ {fields : List (String × α)},
    fields.Pairwise (·.1 < ·.1) → (put name value fields).Pairwise (·.1 < ·.1)
  | [], _ => List.pairwise_singleton _ _
  | (other, old) :: rest, h => by
    obtain ⟨hfirst, hrest⟩ := List.pairwise_cons.mp h
    rw [put]
    split_ifs with hlt heq
    · refine List.pairwise_cons.mpr ⟨List.forall_mem_cons.mpr ⟨hlt, fun field hfield => ?_⟩, h⟩
      exact String.lt_trans hlt (hfirst field hfield)
    · subst heq
      exact List.pairwise_cons.mpr ⟨hfirst, hrest⟩
    · refine List.pairwise_cons.mpr ⟨fun field hfield => ?_, pairwise_put value hrest⟩
      rcases mem_of_mem_put hfield with rfl | hfield
      · exact Decidable.not_not.mp fun hge =>
          heq (String.le_antisymm (String.not_lt.mp hge) (String.not_lt.mp hlt))
      · exact hfirst field hfield

/-- Putting fields in their places one by one keeps the order. -/
theorem pairwise_foldl_put (written : List (String × α)) : ∀ {sorted : List (String × α)},
    sorted.Pairwise (·.1 < ·.1) →
      (written.foldl (fun sorted field => put field.1 field.2 sorted) sorted).Pairwise
        (·.1 < ·.1) := by
  induction written with
  | nil => exact id
  | cons field rest ih => exact fun h => ih (pairwise_put field.2 h)

/-- Fields whose names are new are added. -/
theorem perm_foldl_put (written : List (String × α)) : ∀ {sorted : List (String × α)},
    ((written ++ sorted).map (·.1)).Nodup →
      (written.foldl (fun sorted field => put field.1 field.2 sorted) sorted).Perm
        (written ++ sorted) := by
  induction written with
  | nil => exact fun _ => .refl _
  | cons field rest ih =>
    intro sorted hnodup
    have hmove : (rest ++ field :: sorted).Perm (field :: (rest ++ sorted)) := List.perm_middle
    have hnew : field.1 ∉ sorted.map (·.1) := fun hmem =>
      (List.nodup_cons.mp hnodup).1 (((List.sublist_append_right rest sorted).map _).subset hmem)
    have hput := perm_put field.2 hnew
    have hnodup' : ((rest ++ put field.1 field.2 sorted).map (·.1)).Nodup :=
      (((hput.append_left rest).trans hmove).map (·.1)).nodup_iff.mpr hnodup
    exact ((ih hnodup').trans (hput.append_left rest)).trans hmove

theorem nodup_of_pairwise {fields : List (String × α)} (h : fields.Pairwise (·.1 < ·.1)) :
    (fields.map (·.1)).Nodup := by
  refine List.pairwise_map.mpr (h.imp fun hlt heq => ?_)
  rw [heq] at hlt
  exact String.lt_irrefl _ hlt

/-- **Fields in any order are put in order again**, if no name is repeated. -/
theorem ofList_of_perm {written fields : List (String × α)} (h : written.Perm fields)
    (hsorted : fields.Pairwise (·.1 < ·.1)) : ofList written = fields := by
  have hnodup : ((written ++ []).map Prod.fst).Nodup := by
    rw [List.append_nil]
    exact (h.map Prod.fst).nodup_iff.mpr (nodup_of_pairwise hsorted)
  refine List.Perm.eq_of_pairwise (fun _ _ _ _ hab hba => ?_)
    (pairwise_foldl_put written .nil) hsorted ?_
  · exact absurd (String.lt_trans hab hba) (String.lt_irrefl _)
  · exact (perm_foldl_put written hnodup).trans (by rwa [List.append_nil])

end Fields

namespace Document

/-! ## Documents of lists -/

theorem isSome_itemsToJson?_cons {budget : Nat} {item : Document} {rest : List Document} :
    (itemsToJson? budget (item :: rest)).isSome ↔
      (toJson? budget item).isSome ∧ (itemsToJson? budget rest).isSome := by
  rw [itemsToJson?]
  cases toJson? budget item <;> cases itemsToJson? budget rest <;> simp

theorem fieldsToJson?_cons_eq_some {budget : Nat} {field : Option String × Document}
    {rest : List (Option String × Document)} {values : List (String × Json)} :
    fieldsToJson? budget (field :: rest) = some values ↔
      ∃ name value others, field.1 = some name ∧ toJson? budget field.2 = some value ∧
        fieldsToJson? budget rest = some others ∧ values = (name, value) :: others := by
  obtain ⟨name, item⟩ := field
  cases name <;> cases hitem : toJson? budget item <;>
    cases hrest : fieldsToJson? budget rest <;> simp [fieldsToJson?, hitem, hrest, eq_comm]

theorem isSome_fieldsToJson?_cons {budget : Nat} {name : String} {item : Document}
    {rest : List (Option String × Document)} :
    (fieldsToJson? budget ((some name, item) :: rest)).isSome ↔
      (toJson? budget item).isSome ∧ (fieldsToJson? budget rest).isSome := by
  cases hitem : toJson? budget item <;> cases hrest : fieldsToJson? budget rest <;>
    simp [fieldsToJson?, hitem, hrest]

/-- **Fields in another order have their values in that order.** -/
theorem exists_fieldsToJson?_of_perm {budget : Nat}
    {written fields : List (Option String × Document)} (h : written.Perm fields) :
    ∀ {values : List (String × Json)}, fieldsToJson? budget fields = some values →
      ∃ found, fieldsToJson? budget written = some found ∧ found.Perm values := by
  induction h with
  | nil => exact fun hvalues => ⟨_, hvalues, .refl _⟩
  | cons field _ ih =>
    intro values hvalues
    obtain ⟨name, value, others, hname, hvalue, hothers, rfl⟩ :=
      fieldsToJson?_cons_eq_some.mp hvalues
    obtain ⟨found, hfound, hperm⟩ := ih hothers
    exact ⟨(name, value) :: found,
      fieldsToJson?_cons_eq_some.mpr ⟨name, value, found, hname, hvalue, hfound, rfl⟩,
      hperm.cons _⟩
  | swap first second rest =>
    intro values hvalues
    obtain ⟨name, value, others, hname, hvalue, hothers, rfl⟩ :=
      fieldsToJson?_cons_eq_some.mp hvalues
    obtain ⟨name', value', others', hname', hvalue', hothers', rfl⟩ :=
      fieldsToJson?_cons_eq_some.mp hothers
    refine ⟨(name', value') :: (name, value) :: others', ?_, .swap _ _ _⟩
    exact fieldsToJson?_cons_eq_some.mpr ⟨name', value', _, hname', hvalue',
      fieldsToJson?_cons_eq_some.mpr ⟨name, value, _, hname, hvalue, hothers', rfl⟩, rfl⟩
  | trans _ _ ih₁ ih₂ =>
    intro values hvalues
    obtain ⟨found, hfound, hperm⟩ := ih₂ hvalues
    obtain ⟨found', hfound', hperm'⟩ := ih₁ hfound
    exact ⟨found', hfound', hperm'.trans hperm⟩

/-! ## Spelling a value -/

mutual

/-- **A document spells a value** if it is the document of the value but for the order of the
fields of objects. -/
def Spells : Document → Json → Prop
  | document, .null => document = .null
  | document, .bool value => document = .bool value
  | document, .number value => document = .number value.text
  | document, .string value => document = .string (some value)
  | document, .array items => ∃ written, document = .array written ∧ SpellItems written items
  | document, .object fields => ∃ written sorted, document = .object written ∧
      written.Perm sorted ∧ SpellFields sorted fields

/-- Whether the documents of a list spell the values of another. -/
def SpellItems : List Document → List Json → Prop
  | documents, [] => documents = []
  | documents, item :: rest => ∃ document others, documents = document :: others ∧
      document.Spells item ∧ SpellItems others rest

/-- Whether the fields of a list spell the fields of another, under the same names. -/
def SpellFields : List (Option String × Document) → List (String × Json) → Prop
  | fields, [] => fields = []
  | fields, (name, item) :: rest => ∃ document others, fields = (some name, document) :: others ∧
      document.Spells item ∧ SpellFields others rest

end

mutual

/-- The document of a value spells it. -/
theorem spells_ofJson : ∀ value : Json, (ofJson value).Spells value
  | .null => rfl
  | .bool _ => rfl
  | .number _ => rfl
  | .string _ => rfl
  | .array items => ⟨_, rfl, spellItems_ofItems items⟩
  | .object fields => ⟨_, _, rfl, .refl _, spellFields_ofFields fields⟩

theorem spellItems_ofItems : ∀ items : List Json, SpellItems (ofItems items) items
  | [] => rfl
  | item :: rest => ⟨_, _, rfl, spells_ofJson item, spellItems_ofItems rest⟩

theorem spellFields_ofFields : ∀ fields : List (String × Json),
    SpellFields (ofFields fields) fields
  | [] => rfl
  | (_, item) :: rest => ⟨_, _, rfl, spells_ofJson item, spellFields_ofFields rest⟩

end

mutual

/-- What spells a value without doubles can be written. -/
theorem Spells.isWritten : ∀ {value : Json} {document : Document},
    document.Spells value → value.integral → document.IsWritten
  | .null, _, rfl, _ => trivial
  | .bool _, _, rfl, _ => trivial
  | .number _, _, rfl, h => Number.isSome_parse?_text h
  | .string _, _, rfl, _ => rfl
  | .array _, _, ⟨_, rfl, hitems⟩, h => hitems.areWritten h
  | .object _, _, ⟨_, _, rfl, hperm, hfields⟩, h =>
    areWrittenFields_iff.mpr fun field hfield =>
      areWrittenFields_iff.mp (hfields.areWritten h) field (hperm.subset hfield)

theorem SpellItems.areWritten : ∀ {items : List Json} {documents : List Document},
    SpellItems documents items → integralItems items → AreWritten documents
  | [], _, rfl, _ => trivial
  | _ :: _, _, ⟨_, _, rfl, hitem, hrest⟩, h =>
    have h := (Bool.and_eq_true _ _).mp h
    ⟨hitem.isWritten h.1, hrest.areWritten h.2⟩

theorem SpellFields.areWritten : ∀ {fields : List (String × Json)}
    {documents : List (Option String × Document)},
    SpellFields documents fields → integralFields fields → AreWrittenFields documents
  | [], _, rfl, _ => trivial
  | (_, _) :: _, _, ⟨_, _, rfl, hitem, hrest⟩, h =>
    have h := (Bool.and_eq_true _ _).mp h
    ⟨rfl, hitem.isWritten h.1, hrest.areWritten h.2⟩

end

mutual

/-- **What spells a value means that value**, if nothing in it is a double and its own document
keeps to the budget. -/
theorem Spells.toJson?_eq : ∀ {value : Json} {document : Document} {budget : Nat},
    document.Spells value → value.integral → value.canonical →
      ((ofJson value).toJson? budget).isSome → document.toJson? budget = some value
  | .null, _, _, rfl, _, _, _ => rfl
  | .bool _, _, _, rfl, _, _, _ => rfl
  | .number _, _, _, rfl, h, _, _ => by rw [toJson?, Number.ofText?_text h]; rfl
  | .string _, _, _, rfl, _, _, _ => rfl
  | .array _, _, 0, ⟨_, rfl, _⟩, _, _, hbudget => nomatch hbudget
  | .array _, _, _ + 1, ⟨_, rfl, hitems⟩, h, hcanonical, hbudget => by
    rw [ofJson, toJson?, Option.isSome_map] at hbudget
    rw [toJson?, hitems.itemsToJson?_eq h hcanonical hbudget]
    rfl
  | .object _, _, 0, ⟨_, _, rfl, _, _⟩, _, _, hbudget => nomatch hbudget
  | .object _, _, _ + 1, ⟨_, _, rfl, hperm, hfields⟩, h, hcanonical, hbudget => by
    rw [ofJson, toJson?, Option.isSome_map] at hbudget
    -- the fields mean what they spell, in the order written, and are sorted again
    obtain ⟨found, hfound, hsorted⟩ := exists_fieldsToJson?_of_perm hperm
      (hfields.fieldsToJson?_eq h hcanonical.2 hbudget)
    rw [toJson?, hfound, Option.map_some, Json.ofFields,
      Fields.ofList_of_perm hsorted hcanonical.1]

theorem SpellItems.itemsToJson?_eq : ∀ {items : List Json} {documents : List Document}
    {budget : Nat}, SpellItems documents items → integralItems items → canonicalItems items →
      (itemsToJson? budget (ofItems items)).isSome → itemsToJson? budget documents = some items
  | [], _, _, rfl, _, _, _ => rfl
  | _ :: _, _, _, ⟨_, _, rfl, hitem, hrest⟩, h, hcanonical, hbudget => by
    obtain ⟨hfirst, hothers⟩ := isSome_itemsToJson?_cons.mp hbudget
    rw [integralItems, Bool.and_eq_true] at h
    rw [itemsToJson?, hitem.toJson?_eq h.1 hcanonical.1 hfirst,
      hrest.itemsToJson?_eq h.2 hcanonical.2 hothers]

theorem SpellFields.fieldsToJson?_eq : ∀ {fields : List (String × Json)}
    {documents : List (Option String × Document)} {budget : Nat},
    SpellFields documents fields → integralFields fields → canonicalFields fields →
      (fieldsToJson? budget (ofFields fields)).isSome →
        fieldsToJson? budget documents = some fields
  | [], _, _, rfl, _, _, _ => rfl
  | (_, _) :: _, _, _, ⟨_, _, rfl, hitem, hrest⟩, h, hcanonical, hbudget => by
    obtain ⟨hfirst, hothers⟩ := isSome_fieldsToJson?_cons.mp hbudget
    rw [integralFields, Bool.and_eq_true] at h
    exact fieldsToJson?_cons_eq_some.mpr ⟨_, _, _, rfl, hitem.toJson?_eq h.1 hcanonical.1 hfirst,
      hrest.fieldsToJson?_eq h.2 hcanonical.2 hothers, rfl⟩

end

end Document

/-! ## How deep a value nests -/

mutual

/-- **How deep a value nests**: how many arrays and objects are open at once in its text. -/
def nesting : Json → Nat
  | .array items => nestingItems items + 1
  | .object fields => nestingFields fields + 1
  | _ => 0

/-- How deep the values of a list nest. -/
def nestingItems : List Json → Nat
  | [] => 0
  | item :: rest => max item.nesting (nestingItems rest)

/-- How deep the values of a list of fields nest. -/
def nestingFields : List (String × Json) → Nat
  | [] => 0
  | (_, item) :: rest => max item.nesting (nestingFields rest)

end

mutual

/-- A value keeps to a budget if it does not nest deeper. -/
theorem isSome_toJson?_ofJson : ∀ {value : Json} {budget : Nat}, value.integral →
    (((Document.ofJson value).toJson? budget).isSome ↔ value.nesting ≤ budget)
  | .null, _, _ => by simp [Document.ofJson, Document.toJson?, nesting]
  | .bool _, _, _ => by simp [Document.ofJson, Document.toJson?, nesting]
  | .number _, _, h => by
    simp [Document.ofJson, Document.toJson?, nesting, Number.ofText?_text h]
  | .string _, _, _ => by simp [Document.ofJson, Document.toJson?, nesting]
  | .array _, 0, _ => by simp [Document.ofJson, Document.toJson?, nesting]
  | .array _, budget + 1, h => by
    rw [Document.ofJson, Document.toJson?, Option.isSome_map, isSome_itemsToJson?_ofItems h,
      nesting, Nat.add_le_add_iff_right]
  | .object _, 0, _ => by simp [Document.ofJson, Document.toJson?, nesting]
  | .object _, budget + 1, h => by
    rw [Document.ofJson, Document.toJson?, Option.isSome_map, isSome_fieldsToJson?_ofFields h,
      nesting, Nat.add_le_add_iff_right]

theorem isSome_itemsToJson?_ofItems : ∀ {items : List Json} {budget : Nat}, integralItems items →
    ((Document.itemsToJson? budget (Document.ofItems items)).isSome
      ↔ nestingItems items ≤ budget)
  | [], _, _ => by simp [Document.ofItems, Document.itemsToJson?, nestingItems]
  | _ :: _, budget, h => by
    rw [integralItems, Bool.and_eq_true] at h
    rw [nestingItems, Nat.max_le, ← isSome_toJson?_ofJson h.1, ← isSome_itemsToJson?_ofItems h.2]
    exact Document.isSome_itemsToJson?_cons

theorem isSome_fieldsToJson?_ofFields : ∀ {fields : List (String × Json)} {budget : Nat},
    integralFields fields →
      ((Document.fieldsToJson? budget (Document.ofFields fields)).isSome
        ↔ nestingFields fields ≤ budget)
  | [], _, _ => by simp [Document.ofFields, Document.fieldsToJson?, nestingFields]
  | (_, _) :: _, budget, h => by
    rw [integralFields, Bool.and_eq_true] at h
    rw [nestingFields, Nat.max_le, ← isSome_toJson?_ofJson h.1,
      ← isSome_fieldsToJson?_ofFields h.2]
    exact Document.isSome_fieldsToJson?_cons

end

/-- **A value is read back from its text** if, and only if, it does not nest too deep. -/
theorem parse?_render_iff {value : Json} (h : value.integral) (hcanonical : value.canonical) :
    parse? value.render = some value ↔ value.nesting ≤ depthLimit := by
  have hspells := Document.spells_ofJson value
  have hparse : parse? value.render = (Document.ofJson value).toJson? depthLimit := by
    rw [parse?, render, Document.parse?_render (hspells.isWritten h)]
    rfl
  rw [hparse, ← isSome_toJson?_ofJson h]
  exact ⟨fun hsome => by rw [hsome]; rfl, hspells.toJson?_eq h hcanonical⟩

end FeatureGate.Json
