import FeatureGate.Proofs.Json.Rendering
import FeatureGate.Proofs.Trimming
import FeatureGate.Store.Recording

/-!
# What a recording store counts

A recording store notes a call as a text – operation, feature and key, separated by
spaces, with blanks at the end cut off – and counts calls by looking at the texts. Whether a
count is right therefore depends on whether the text tells which call it was.

It always tells the operation, because no operation has a blank in its name. It tells the
feature and the key as long as neither has a space in it and the key does not end in
something that is cut off; where it does not, some pair of feature and key is counted
wrongly (`Recorded.counts_exactly_iff`). A call that overwrites all rows of a feature is the
worst of them, since it has no key at all: the text that is looked for ends in a space, and
the one that was noted does not.
-/

namespace FeatureGate

namespace Store

open Text (trimEnd isBlank)

/-! ## Which call a text tells -/

/-- The state of a store after calls, one after another. -/
def after {σ : Type} (store : Store (StateM σ)) (calls : List Call) (s : σ) : σ :=
  calls.foldl (fun s call => ((store.call call).run s).2) s

namespace Call

/-- **The feature and the key that a call is made with.** A call about a whole feature takes no
key, so the key is empty; one about many pairs, or about features by the list, is made with
none in particular. -/
def target? : Call → Option Address
  | .get feature key | .insert feature key _ | .set feature key _ | .delete feature key =>
    some ⟨feature, key⟩
  | .setForAll feature _ => some ⟨feature, ""⟩
  | .getMany _ | .purge _ | .listStored => none

/-- **A call of an operation for a feature and a key.** -/
def IsFor (operation feature key : String) (call : Call) : Prop :=
  call.operation = operation ∧ call.target? = some ⟨feature, key⟩

instance (operation feature key : String) : DecidablePred (IsFor operation feature key) :=
  fun call => inferInstanceAs
    (Decidable (call.operation = operation ∧ call.target? = some ⟨feature, key⟩))

/-- **A call that its text tells.** The feature and the key have no space, and the key ends in
something that is not blank. What stands for the feature where there is none has no space
either. -/
def IsLegible : Call → Prop
  | .get feature key | .insert feature key _ | .set feature key _ | .delete feature key =>
    ' ' ∉ feature.toList ∧ ' ' ∉ key.toList ∧ key ≠ "" ∧ trimEnd key = key
  | .setForAll .. => False
  | .purge (some features) => ' ' ∉ (trimEnd (String.intercalate "," features)).toList
  | .getMany _ | .purge none | .listStored => True

variable {call : Call} {operation feature key : String}

theorem trimEnd_text (call : Call) : trimEnd call.text = call.text := Text.trimEnd_trimEnd _

theorem space_notMem_operation (call : Call) : ' ' ∉ call.operation.toList := by
  cases call <;> simp only [operation] <;> decide

theorem trimEnd_operation (call : Call) : trimEnd call.operation = call.operation := by
  cases call <;> simp only [operation] <;> decide +kernel

/-! ## The text of a call -/

theorem toList_callText (operation feature key : String) :
    (callText operation feature key).toList
      = operation.toList ++ ' ' :: (feature.toList ++ ' ' :: key.toList) := by
  simp [callText]

/-- **What is looked for may have been noted** just if its key ends in something. -/
theorem trimEnd_callText_eq_self_iff (operation feature key : String) :
    trimEnd (callText operation feature key) = callText operation feature key
      ↔ key ≠ "" ∧ trimEnd key = key := by
  have hfront : (operation ++ " " ++ feature ++ " ").toList.rdropWhile isBlank
      = (operation ++ " " ++ feature).toList.rdropWhile isBlank := by
    rw [String.toList_append]
    exact List.rdropWhile_concat_pos _ _ ' ' rfl
  constructor
  · intro htrimmed
    by_cases hkey : trimEnd key = ""
    · -- the space in front of the key is cut off as well
      have hshort : trimEnd (callText operation feature key)
          = trimEnd (operation ++ " " ++ feature) := by
        rw [callText, ← Text.trimEnd_append_trimEnd, hkey, String.append_empty]
        rw [← String.toList_inj, Text.toList_trimEnd, Text.toList_trimEnd, hfront]
      have hlength := (Text.prefix_trimEnd (operation ++ " " ++ feature)).length_le
      rw [← hshort, htrimmed, toList_callText] at hlength
      have hspace : " ".toList.length = 1 := rfl
      simp only [String.toList_append, List.length_append, List.length_cons, hspace] at hlength
      omega
    · have happend := Text.trimEnd_append_of_ne (operation ++ " " ++ feature ++ " ") hkey
      have hself : trimEnd key = key :=
        String.append_right_inj _ |>.mp (happend.symm.trans htrimmed)
      exact ⟨hself ▸ hkey, hself⟩
  · rintro ⟨hne, hself⟩
    have happend := Text.trimEnd_append_of_ne (t := key) (operation ++ " " ++ feature ++ " ")
      (hself.symm ▸ hne)
    rw [hself] at happend
    exact happend

/-- There are two spaces in what is looked for. -/
theorem two_le_count_callText (operation feature key : String) :
    2 ≤ (callText operation feature key).toList.count ' ' := by
  simp [toList_callText]
  omega

/-- **What is looked for is taken apart in one way**, if there are no other spaces. -/
theorem callText_inj {operation' feature' key' : String} (ho : ' ' ∉ operation.toList)
    (hf : ' ' ∉ feature.toList) (hk : ' ' ∉ key.toList)
    (h : callText operation' feature' key' = callText operation feature key) :
    operation' = operation ∧ feature' = feature ∧ key' = key := by
  have hlist := congrArg String.toList h
  rw [toList_callText, toList_callText] at hlist
  have hcount := congrArg (List.count ' ') hlist
  simp only [List.count_append, List.count_cons_self, List.count_eq_zero_of_not_mem ho,
    List.count_eq_zero_of_not_mem hf, List.count_eq_zero_of_not_mem hk] at hcount
  have ho' : ' ' ∉ operation'.toList := List.count_eq_zero.mp (by omega)
  have hf' : ' ' ∉ feature'.toList := List.count_eq_zero.mp (by omega)
  obtain ⟨hoperation, hrest⟩ := Json.append_cons_inj ho' ho hlist
  obtain ⟨hfeature, hkey⟩ := Json.append_cons_inj hf' hf hrest
  exact ⟨String.toList_inj.mp hoperation, String.toList_inj.mp hfeature,
    String.toList_inj.mp hkey⟩

/-- A call for a feature and a key is noted as what is looked for, trimmed. -/
theorem IsFor.text_eq (h : call.IsFor operation feature key) :
    call.text = trimEnd (callText operation feature key) := by
  obtain ⟨rfl, htarget⟩ := h
  cases call <;> cases htarget <;> rfl

/-- Where nothing stands for the key, what stands for the feature may be trimmed first. -/
theorem text_of_keyText_eq_empty (h : call.keyText = "") :
    call.text = trimEnd (call.operation ++ " " ++ trimEnd call.subject) := by
  have hspace : trimEnd " " = "" := rfl
  rw [text, callText, h, Text.trimEnd_append_trimEnd, String.append_empty]
  rw [← Text.trimEnd_append_trimEnd, hspace, String.append_empty]

/-- **The text of a call begins with its operation**, up to the first space. -/
theorem takeWhile_text (call : Call) :
    call.text.toList.takeWhile (· ≠ ' ') = call.operation.toList := by
  have hoperation : ∀ c ∈ call.operation.toList, decide (c ≠ ' ') = true := fun c hc =>
    decide_eq_true fun hspace => call.space_notMem_operation (hspace ▸ hc)
  have htrimmed := congrArg String.toList call.trimEnd_operation
  rw [Text.toList_trimEnd] at htrimmed
  rw [text, Text.toList_trimEnd, toList_callText, Text.rdropWhile_append, htrimmed]
  split
  · exact List.takeWhile_eq_self_iff.mpr hoperation
  · rename_i hne
    -- what is left behind the operation begins as it did, with a space
    obtain ⟨c, rest, hrest⟩ := List.exists_cons_of_ne_nil hne
    have hprefix := List.rdropWhile_prefix isBlank
      (' ' :: (call.subject.toList ++ ' ' :: call.keyText.toList))
    rw [hrest] at hprefix ⊢
    obtain rfl : c = ' ' := (List.cons_prefix_cons.mp hprefix).1
    rw [List.takeWhile_append_of_pos hoperation]
    simp

/-! ## Legible calls -/

/-- **A legible call is told by its text**: it is noted as what is looked for just if it is
made for that feature and key. -/
theorem IsLegible.text_eq_iff (h : call.IsLegible) :
    call.text = callText operation feature key ↔ call.IsFor operation feature key := by
  -- a call for a feature and a key, told apart by the spaces of what is looked for
  have hkeyed : ∀ {f k : String}, call.target? = some ⟨f, k⟩ → ' ' ∉ f.toList →
      ' ' ∉ k.toList → k ≠ "" → trimEnd k = k →
      (call.text = callText operation feature key ↔ call.IsFor operation feature key) := by
    intro f k htarget hf hk hne hself
    have htext : call.text = callText call.operation f k :=
      (IsFor.text_eq ⟨rfl, htarget⟩).trans
        ((trimEnd_callText_eq_self_iff ..).mpr ⟨hne, hself⟩)
    rw [htext, IsFor, htarget]
    constructor
    · intro heq
      obtain ⟨rfl, rfl, rfl⟩ := callText_inj call.space_notMem_operation hf hk heq.symm
      exact ⟨rfl, rfl⟩
    · rintro ⟨rfl, hsame⟩
      cases hsame
      rfl
  -- a call without either, whose text has not spaces enough
  have hkeyless : call.target? = none → call.keyText = "" →
      ' ' ∉ (trimEnd call.subject).toList →
      (call.text = callText operation feature key ↔ call.IsFor operation feature key) := by
    intro htarget hkeyText hsubject
    refine iff_of_false (fun heq => ?_) fun hfor => nomatch htarget.symm.trans hfor.2
    have hspaces : (call.operation ++ " " ++ trimEnd call.subject).toList.count ' ' = 1 := by
      simp [List.count_eq_zero_of_not_mem call.space_notMem_operation,
        List.count_eq_zero_of_not_mem hsubject]
    have hcount := two_le_count_callText operation feature key
    rw [← heq, text_of_keyText_eq_empty hkeyText] at hcount
    have hle := (Text.prefix_trimEnd
      (call.operation ++ " " ++ trimEnd call.subject)).sublist.count_le ' '
    omega
  cases call with
  | get f k => exact hkeyed rfl h.1 h.2.1 h.2.2.1 h.2.2.2
  | insert f k value => exact hkeyed rfl h.1 h.2.1 h.2.2.1 h.2.2.2
  | set f k value => exact hkeyed rfl h.1 h.2.1 h.2.2.1 h.2.2.2
  | delete f k => exact hkeyed rfl h.1 h.2.1 h.2.2.1 h.2.2.2
  | setForAll f value => exact h.elim
  | getMany pairs =>
    refine hkeyless rfl rfl fun hmem => ?_
    have hdigit : ' ' ∈ Nat.toDigits 10 pairs.length := by
      simpa using (Text.prefix_trimEnd (toString pairs.length)).subset hmem
    exact absurd (Json.isDigit_of_mem_toDigits hdigit) (by decide)
  | listStored => exact hkeyless rfl rfl (by decide)
  | purge features =>
    cases features with
    | none => exact hkeyless rfl rfl (by decide)
    | some names => exact hkeyless rfl rfl h

end Call

namespace Recorded

variable {σ : Type} {operation feature key : String}

/-! ## Counting -/

/-- **A count that is right tells every call** whose text is what is looked for. -/
theorem isFor_of_text_eq {calls : List Call}
    (hexact : calls.countP (fun call => call.text = callText operation feature key)
      = calls.countP (Call.IsFor operation feature key))
    {call : Call} (hcall : call ∈ calls)
    (htext : call.text = callText operation feature key) :
    call.IsFor operation feature key := by
  have htrimmed := call.trimEnd_text
  rw [htext] at htrimmed
  have hsub : (calls.filter (Call.IsFor operation feature key)).Sublist
      (calls.filter fun call => call.text = callText operation feature key) :=
    List.monotone_filter_right calls fun other hother =>
      decide_eq_true ((Call.IsFor.text_eq (of_decide_eq_true hother)).trans htrimmed)
  rw [List.countP_eq_length_filter, List.countP_eq_length_filter] at hexact
  have hmem : call ∈ calls.filter (Call.IsFor operation feature key) := by
    rw [hsub.eq_of_length hexact.symm]
    exact List.mem_filter.mpr ⟨hcall, decide_eq_true htext⟩
  exact of_decide_eq_true (List.mem_filter.mp hmem).2

section Exact

variable {calls : List Call}
  (hexact : ∀ operation feature key,
    calls.countP (fun call => call.text = callText operation feature key)
      = calls.countP (Call.IsFor operation feature key))
  {call : Call} (hcall : call ∈ calls)

include hexact hcall

/-- If all counts are right, what is looked for is found where a call was made for it. -/
theorem text_eq_of_isFor (hfor : call.IsFor operation feature key) :
    call.text = callText operation feature key := by
  have hfound : 0 < calls.countP fun call => call.text = callText operation feature key := by
    rw [hexact]
    exact List.countP_pos_iff.mpr ⟨call, hcall, decide_eq_true hfor⟩
  obtain ⟨noted, -, hnoted⟩ := List.countP_pos_iff.mp hfound
  have htrimmed := noted.trimEnd_text
  rw [of_decide_eq_true hnoted] at htrimmed
  rw [hfor.text_eq, htrimmed]

/-- **If all counts are right, every call is legible**: a space in a part of its text would
have it counted for two pairs. -/
theorem isLegible_of_counts : call.IsLegible := by
  have hkeyed : ∀ {f k : String}, call.target? = some ⟨f, k⟩ →
      ' ' ∉ f.toList ∧ ' ' ∉ k.toList ∧ k ≠ "" ∧ trimEnd k = k := by
    intro f k htarget
    have htext := text_eq_of_isFor hexact hcall ⟨rfl, htarget⟩
    have htrimmed := call.trimEnd_text
    rw [htext, Call.trimEnd_callText_eq_self_iff] at htrimmed
    -- the same text, read as that of another pair
    have hother : ∀ f' k' : String,
        f.toList ++ ' ' :: k.toList = f'.toList ++ ' ' :: k'.toList → f = f' := by
      intro f' k' hsame
      have htext' : call.text = callText call.operation f' k' := by
        rw [htext, ← String.toList_inj, Call.toList_callText, Call.toList_callText, hsame]
      have hfor := isFor_of_text_eq (hexact _ _ _) hcall htext'
      exact congrArg Address.feature (Option.some.inj (htarget.symm.trans hfor.2))
    refine ⟨fun hspace => ?_, fun hspace => ?_, htrimmed⟩
    · obtain ⟨a, b, hab⟩ := List.append_of_mem hspace
      have hf := hother (String.ofList a) (String.ofList b ++ " " ++ k)
        (by simp [hab])
      have hlength := congrArg (fun s => s.toList.length) hf
      simp [hab] at hlength
    · obtain ⟨a, b, hab⟩ := List.append_of_mem hspace
      have hf := hother (f ++ " " ++ String.ofList a) (String.ofList b)
        (by simp [hab])
      have hlength := congrArg (fun s => s.toList.length) hf
      simp at hlength
  cases call with
  | get f k => exact hkeyed rfl
  | insert f k value => exact hkeyed rfl
  | set f k value => exact hkeyed rfl
  | delete f k => exact hkeyed rfl
  | setForAll f value => exact absurd rfl (hkeyed rfl).2.2.1
  | getMany pairs => trivial
  | listStored => trivial
  | purge features =>
    cases features with
    | none => trivial
    | some names =>
      intro hspace
      have hne : trimEnd (String.intercalate "," names) ≠ "" := by
        intro hempty
        rw [hempty] at hspace
        exact absurd hspace (by decide)
      -- two names are read as a feature and a key
      obtain ⟨a, b, hab⟩ := List.append_of_mem hspace
      have htext : (Call.purge (some names)).text
          = callText "purge" (String.ofList a) (String.ofList b) := by
        rw [Call.text_of_keyText_eq_empty rfl, Text.trimEnd_append_of_ne _
          (by rwa [Text.trimEnd_trimEnd]), Text.trimEnd_trimEnd, ← String.toList_inj,
          Call.toList_callText]
        simp [Call.operation, Call.subject, hab]
      exact nomatch (isFor_of_text_eq (hexact _ _ _) hcall htext).2

end Exact

/-! ## What is counted -/

/-- **The texts of the calls are noted in order.** -/
theorem calls_after (store : Store (StateM σ)) (calls : List Call) (recorded : Recorded σ) :
    ((recording store).after calls recorded).calls = recorded.calls ++ calls.map Call.text := by
  induction calls generalizing recorded with
  | nil => simp [after]
  | cons call rest ih =>
    show ((recording store).after rest _).calls = _
    rw [ih, List.map_cons, List.append_cons]
    rfl

/-- **What a recording store counts**, around any store and since it was last cleared.

* The calls of an operation, and all calls, are always counted rightly.
* The calls for a feature and a key are counted rightly, for all operations, features and
  keys, just if every call that was made is legible. -/
theorem counts_exactly_iff (store : Store (StateM σ)) (before : Recorded σ)
    (calls : List Call) :
    let recorded := (recording store).after calls before.clear
    (∀ operation, recorded.callCount operation
        = calls.countP fun call => call.operation = operation)
      ∧ recorded.totalCalls = calls.length
      ∧ ((∀ operation feature key, recorded.callsFor operation feature key
            = calls.countP (Call.IsFor operation feature key))
          ↔ ∀ call ∈ calls, call.IsLegible) := by
  intro recorded
  have hcalls : recorded.calls = calls.map Call.text := calls_after store calls before.clear
  have hcallsFor : ∀ operation feature key, recorded.callsFor operation feature key
      = calls.countP fun call => call.text = callText operation feature key := by
    intro operation feature key
    rw [callsFor, hcalls, ← List.countP_eq_length_filter, List.countP_map]
    rfl
  refine ⟨fun operation => ?_, ?_, ?_⟩
  · rw [callCount, hcalls, ← List.countP_eq_length_filter, List.countP_map]
    refine List.countP_congr fun call _ => ?_
    simp only [Function.comp_apply, Call.takeWhile_text, String.toList_inj]
  · rw [totalCalls, hcalls, List.length_map]
  · simp only [hcallsFor]
    constructor
    · intro hexact call hcall
      exact isLegible_of_counts hexact hcall
    · intro hlegible operation feature key
      refine List.countP_congr fun call hcall => ?_
      simp only [decide_eq_true_eq]
      exact (hlegible call hcall).text_eq_iff

/-- **Some counts are wrong.** A call that overwrites all rows of a feature is not counted for
the feature, and one for a feature with a space in its name is counted for another one. -/
theorem not_counts_exactly_of_spaces :
    let calls : List Call := [.setForAll "new-ui" (.bool true), .get "new ui" "User|1"]
    let recorded := (recording memory).after calls (⟨[], ∅⟩ : Recorded Rows).clear
    recorded.callsFor "set_for_all" "new-ui" "" = 0
      ∧ calls.countP (Call.IsFor "set_for_all" "new-ui" "") = 1
      ∧ recorded.callsFor "get" "new" "ui User|1" = 1
      ∧ calls.countP (Call.IsFor "get" "new" "ui User|1") = 0 := by
  decide +kernel

end Recorded

end Store

end FeatureGate
