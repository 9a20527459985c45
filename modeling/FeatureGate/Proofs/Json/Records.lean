import FeatureGate.Json.Record
import FeatureGate.Proofs.Json.Meaning

/-!
# Records that are written freely

A record has its fields in a fixed order where the program writes it. Whoever else writes one may
choose another order and may add fields the record does not know (`Document.WritesRecord`). The
reader finds the same entries in it all the same (`Document.WritesRecord.fields?_eq`): under each
name the one field there is, and none where there is none.
-/

namespace FeatureGate.Json.Document

/-- **A record with these fields**, in any order and among any others. The others have names that
the record, whose names are given first, does not know. -/
def WritesRecord (names : List String) (known : List (String × Document))
    (document : Document) : Prop :=
  ∃ unknown fields : List (String × Document),
    (∀ field ∈ unknown, field.1 ∉ names ∧ field.2.IsWritten) ∧
      fields.Perm (known ++ unknown) ∧ document = .record fields

/-- The record as the program writes it. -/
theorem writesRecord_record (names : List String) (known : List (String × Document)) :
    (record known).WritesRecord names known :=
  ⟨[], known, by simp, by rw [List.append_nil], rfl⟩

@[simp]
theorem isWritten_text (value : String) : (text value).IsWritten := rfl

@[simp]
theorem text?_text (value : String) : (text value).text? = some value := rfl

/-! ## Entries -/

theorem entries_record (fields : List (String × Document)) (name : String) :
    entries (fields.map fun field => (some field.1, field.2)) name
      = (fields.filter (·.1 == name)).map (·.2) := by
  rw [entries, List.filter_map, List.map_map]
  rfl

/-- If no name is repeated, there is one entry under each. -/
theorem map_filter_eq_lookup {fields : List (String × Document)}
    (h : (fields.map (·.1)).Nodup) (name : String) :
    (fields.filter (·.1 == name)).map (·.2) = (fields.lookup name).toList := by
  induction fields with
  | nil => rfl
  | cons field rest ih =>
    obtain ⟨key, document⟩ := field
    obtain ⟨hnew, hrest⟩ := List.nodup_cons.mp h
    by_cases hkey : key = name
    · subst hkey
      have hnone : rest.filter (·.1 == key) = [] :=
        List.filter_eq_nil_iff.mpr fun other hother hname =>
          hnew (List.mem_map.mpr ⟨other, hother, beq_iff_eq.mp hname⟩)
      rw [List.filter_cons_of_pos (by simp), hnone, List.lookup_cons_self]
      rfl
    · rw [List.filter_cons_of_neg (by simpa using hkey), ih hrest, List.lookup_cons,
        beq_false_of_ne (Ne.symm hkey)]

/-- **The entries of a record** that is written freely are those it is written with. -/
theorem WritesRecord.entries_eq {names : List String} {known : List (String × Document)}
    {unknown fields : List (String × Document)}
    (hunknown : ∀ field ∈ unknown, field.1 ∉ names ∧ field.2.IsWritten)
    (hperm : fields.Perm (known ++ unknown)) (hnodup : (known.map (·.1)).Nodup)
    {name : String} (hname : name ∈ names) :
    entries (fields.map fun field => (some field.1, field.2)) name
      = (known.lookup name).toList := by
  have hnone : unknown.filter (·.1 == name) = [] := by
    refine List.filter_eq_nil_iff.mpr fun field hfield heq => (hunknown field hfield).1 ?_
    rwa [beq_iff_eq.mp heq]
  have hentries := (hperm.filter (·.1 == name)).map (·.2)
  rw [List.filter_append, hnone, List.append_nil, map_filter_eq_lookup hnodup] at hentries
  rw [entries_record]
  cases hlookup : known.lookup name with
  | none =>
    rw [hlookup] at hentries
    exact List.perm_nil.mp hentries
  | some document =>
    rw [hlookup] at hentries
    exact List.perm_singleton.mp hentries

/-- **The fields of a record are found** whatever their order, and others are passed over. -/
theorem WritesRecord.fields?_eq {names : List String} {known : List (String × Document)}
    {document : Document} (h : document.WritesRecord names known)
    (hnodup : (known.map (·.1)).Nodup) :
    document.fields? names = some (names.map fun name => known.lookup name) := by
  obtain ⟨unknown, fields, hunknown, hperm, rfl⟩ := h
  have hentries : ∀ name ∈ names, entries (fields.map fun field => (some field.1, field.2)) name
      = (known.lookup name).toList := fun _ => entries_eq hunknown hperm hnodup
  have honce : names.all (fun name =>
      (entries (fields.map fun field => (some field.1, field.2)) name).length ≤ 1) := by
    refine List.all_eq_true.mpr fun name hname => decide_eq_true ?_
    rw [hentries name hname]
    cases known.lookup name <;> simp
  rw [record, fields?, if_pos (by simpa using honce)]
  refine congrArg some (List.map_congr_left fun name hname => ?_)
  rw [hentries name hname]
  cases known.lookup name <;> rfl

/-! ## Text and meaning -/

theorem WritesRecord.isWritten {names : List String} {known : List (String × Document)}
    {document : Document} (h : document.WritesRecord names known)
    (hknown : ∀ field ∈ known, field.2.IsWritten) : document.IsWritten := by
  obtain ⟨unknown, fields, hunknown, hperm, rfl⟩ := h
  refine areWrittenFields_iff.mpr (List.forall_mem_map.mpr fun field hfield => ⟨rfl, ?_⟩)
  rcases List.mem_append.mp (hperm.subset hfield) with hfield | hfield
  · exact hknown field hfield
  · exact (hunknown field hfield).2

/-- If a record has a value, so have its fields, with one container less to open. -/
theorem isSome_toJson?_of_record {budget : Nat} {fields : List (String × Document)}
    (h : ((record fields).toJson? (budget + 1)).isSome) :
    ∀ field ∈ fields, (field.2.toJson? budget).isSome := by
  rw [record, toJson?, Option.isSome_map] at h
  induction fields with
  | nil => simp
  | cons field rest ih =>
    obtain ⟨hvalue, hothers⟩ := isSome_fieldsToJson?_cons.mp h
    exact List.forall_mem_cons.mpr ⟨hvalue, ih hothers⟩

end FeatureGate.Json.Document
