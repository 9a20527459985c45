import Mathlib.Data.List.Basic
import FeatureGate.Json.Token

/-!
# Values can be read off the front of a text

The compact text of a value shows where it ends. Whatever follows it, as long
as it does not go on with a digit, the value and what follows are fixed by the
whole text: a string ends at its first bare quote, an array or object at the
bracket that closes it, and only a number needs to be told apart from a longer
one.

This is more than injectivity of the text, and it is what makes it possible to
write values into larger texts without escaping them.

Doubles are left out. Their text could be read back as well, but then an
argument about shortest digits would be needed, and integers have none.
-/

namespace FeatureGate.Json

/-! ## Codes that are read character by character -/

/-- Before the first occurrence of a delimiter, two texts agree, and after
it. -/
theorem append_cons_inj {delimiter : Char} {a b r s : List Char}
    (ha : delimiter ∉ a) (hb : delimiter ∉ b)
    (h : a ++ delimiter :: r = b ++ delimiter :: s) : a = b ∧ r = s := by
  induction a generalizing b with
  | nil =>
    cases b with
    | nil => exact ⟨rfl, (List.cons.inj h).2⟩
    | cons d b => exact absurd ((List.cons.inj h).1 ▸ List.mem_cons_self) hb
  | cons c a ih =>
    cases b with
    | nil => exact absurd ((List.cons.inj h).1 ▸ List.mem_cons_self) ha
    | cons d b =>
      obtain ⟨hcd, hrest⟩ := List.cons.inj h
      obtain ⟨hab, hrs⟩ := ih (fun hm => ha (List.mem_cons_of_mem _ hm))
        (fun hm => hb (List.mem_cons_of_mem _ hm)) hrest
      exact ⟨by rw [hcd, hab], hrs⟩

/-- **A code that can be read one character at a time is read without doubt**,
up to a point from which on nothing can be read. -/
theorem flatMap_append_inj {code : Char → List Char}
    {read : List Char → Option (Char × List Char)}
    (hread : ∀ c rest, read (code c ++ rest) = some (c, rest))
    {r s : List Char} (hr : read r = none) (hs : read s = none) :
    ∀ {cs ds : List Char}, cs.flatMap code ++ r = ds.flatMap code ++ s → cs = ds ∧ r = s
  | [], [], h => ⟨rfl, h⟩
  | [], d :: ds, h => by
    have hd : read r = some (d, ds.flatMap code ++ s) := by
      rw [show r = code d ++ (ds.flatMap code ++ s) by simpa using h, hread]
    exact absurd (hr.symm.trans hd) (by simp)
  | c :: cs, [], h => by
    have hc : read s = some (c, cs.flatMap code ++ r) := by
      rw [show s = code c ++ (cs.flatMap code ++ r) by simpa using h.symm, hread]
    exact absurd (hs.symm.trans hc) (by simp)
  | c :: cs, d :: ds, h => by
    have hcd : read (code c ++ (cs.flatMap code ++ r))
        = read (code d ++ (ds.flatMap code ++ s)) :=
      congrArg read (by simpa using h)
    rw [hread, hread, Option.some.injEq, Prod.mk.injEq] at hcd
    obtain ⟨hcs, hrs⟩ := flatMap_append_inj hread hr hs hcd.2
    exact ⟨by rw [hcd.1, hcs], hrs⟩

section Separated

variable {α : Type} (text : α → List Char) {separator close : Char}

/-- Behind the first item of a closed list stands the character that closes it,
or a separator and the other items. -/
theorem intercalate_cons_append (x : α) (xs : List α) (r : List Char) :
    (xs = [] ∧ [separator].intercalate ((x :: xs).map text) ++ close :: r
        = text x ++ close :: r)
      ∨ [separator].intercalate ((x :: xs).map text) ++ close :: r
        = text x ++ separator :: ([separator].intercalate (xs.map text) ++ close :: r) := by
  cases xs with
  | nil => exact .inl ⟨rfl, by simp⟩
  | cons y ys => exact .inr (by simp [List.intercalate_cons_cons])

/-- **A list of texts with separators is read item by item** up to the
character that closes it, if every item is, and if no item starts with that
character. -/
theorem intercalate_append_inj (hne : separator ≠ close) :
    ∀ {xs ys : List α},
      (∀ x ∈ xs, ∀ y ∈ ys, ∀ c ∈ [separator, close], ∀ d ∈ [separator, close],
        ∀ r s, text x ++ c :: r = text y ++ d :: s → x = y ∧ c = d ∧ r = s) →
      (∀ x ∈ xs, ∀ r s, close :: r ≠ text x ++ s) →
      (∀ y ∈ ys, ∀ r s, close :: r ≠ text y ++ s) →
      ∀ {r s : List Char},
        [separator].intercalate (xs.map text) ++ close :: r
            = [separator].intercalate (ys.map text) ++ close :: s →
          xs = ys ∧ r = s
  | [], [], _, _, _, r, s, h => by simpa using h
  | [], y :: ys, _, _, hys, r, s, h => by
    rcases intercalate_cons_append text y ys s with ⟨_, hy⟩ | hy <;> rw [hy] at h
    all_goals exact absurd h (hys y List.mem_cons_self _ _)
  | x :: xs, [], _, hxs, _, r, s, h => by
    rcases intercalate_cons_append text x xs r with ⟨_, hx⟩ | hx <;> rw [hx] at h
    all_goals exact absurd h.symm (hxs x List.mem_cons_self _ _)
  | x :: xs, y :: ys, hitem, hxs, hys, r, s, h => by
    -- behind equal first items stand equal characters, so both lists end or none
    have hfirst := hitem x List.mem_cons_self y List.mem_cons_self
    rcases intercalate_cons_append text x xs r with ⟨hxs0, hx⟩ | hx <;>
      rcases intercalate_cons_append text y ys s with ⟨hys0, hy⟩ | hy <;> rw [hx, hy] at h
    · obtain ⟨hxy, _, hrs⟩ := hfirst close (by simp) close (by simp) _ _ h
      exact ⟨by rw [hxy, hxs0, hys0], hrs⟩
    · exact absurd (hfirst close (by simp) separator (by simp) _ _ h).2.1.symm hne
    · exact absurd (hfirst separator (by simp) close (by simp) _ _ h).2.1 hne
    · obtain ⟨hxy, _, hrest⟩ := hfirst separator (by simp) separator (by simp) _ _ h
      obtain ⟨hxys, hrs⟩ := intercalate_append_inj hne
        (fun a ha b hb => hitem a (List.mem_cons_of_mem _ ha) b (List.mem_cons_of_mem _ hb))
        (fun a ha => hxs a (List.mem_cons_of_mem _ ha))
        (fun b hb => hys b (List.mem_cons_of_mem _ hb)) hrest
      exact ⟨by rw [hxy, hxys], hrs⟩

end Separated

/-! ## Strings -/

namespace Document

/-- **Read one character of a string** off the front of a text, escapes undone;
nothing at the closing quote. -/
def readChar : List Char → Option (Char × List Char)
  | '\\' :: 'u' :: '0' :: '0' :: high :: low :: rest => do
    let code := 16 * (← Text.digit? high) + (← Text.digit? low)
    some (Char.ofNat code, rest)
  | '\\' :: c :: rest => (Token.unescape? c).map (·, rest)
  | '"' :: _ => none
  | c :: rest => some (c, rest)
  | [] => none

theorem digit?_hexDigit : ∀ n < 16, Text.digit? (hexDigit n) = some n := by decide

/-- Reading undoes escaping. -/
theorem readChar_escape (c : Char) (rest : List Char) :
    readChar (escape c ++ rest) = some (c, rest) := by
  unfold escape
  split_ifs with h1 h2 h3 h4 h5 h6 h7 hcontrol
  all_goals try (subst c; rfl)
  · -- the other controls are written by their number
    have hhigh := digit?_hexDigit (c.toNat / 16) (by omega)
    have hlow := digit?_hexDigit (c.toNat % 16) (by omega)
    have hcode : 16 * (c.toNat / 16) + c.toNat % 16 = c.toNat := by omega
    simp [readChar, hhigh, hlow, hcode]
  · show readChar (c :: rest) = some (c, rest)
    unfold readChar
    split <;> simp_all

/-- A quoted string is read without doubt, whatever follows it. -/
theorem quote_append_inj {s t : String} {r r' : List Char}
    (h : quote s ++ r = quote t ++ r') : s = t ∧ r = r' := by
  have hinner : s.toList.flatMap escape ++ '"' :: r = t.toList.flatMap escape ++ '"' :: r' := by
    simpa [quote] using h
  obtain ⟨hst, hr⟩ := flatMap_append_inj readChar_escape (by rfl) (by rfl) hinner
  exact ⟨String.toList_inj.mp hst, (List.cons.inj hr).2⟩

end Document

/-! ## Integers -/

/-- What may follow a value: a text that does not go on with a digit. -/
def Follows (rest : List Char) : Prop := ∀ c ∈ rest.head?, c.isDigit = false

theorem follows_cons {c : Char} (h : c.isDigit = false) (rest : List Char) :
    Follows (c :: rest) := by
  simp [Follows, h]

/-- Rows of digits are read without doubt if no digit follows. -/
theorem digits_append_inj {r s : List Char} (hr : Follows r) (hs : Follows s) :
    ∀ {a b : List Char}, (∀ c ∈ a, c.isDigit) → (∀ c ∈ b, c.isDigit) →
      a ++ r = b ++ s → a = b ∧ r = s
  | [], [], _, _, h => ⟨rfl, h⟩
  | [], d :: b, _, hb, h => by
    have hd : d.isDigit = false := hr d (by simp [show r = d :: (b ++ s) from h])
    exact absurd (hb d List.mem_cons_self) (by simp [hd])
  | c :: a, [], ha, _, h => by
    have hc : c.isDigit = false := hs c (by simp [show s = c :: (a ++ r) from h.symm])
    exact absurd (ha c List.mem_cons_self) (by simp [hc])
  | c :: a, d :: b, ha, hb, h => by
    obtain ⟨hcd, hrest⟩ := List.cons.inj h
    obtain ⟨hab, hrs⟩ := digits_append_inj hr hs
      (fun x hx => ha x (List.mem_cons_of_mem _ hx))
      (fun x hx => hb x (List.mem_cons_of_mem _ hx)) hrest
    exact ⟨by rw [hcd, hab], hrs⟩

theorem isDigit_of_mem_toDigits {n : Nat} {c : Char} (h : c ∈ Nat.toDigits 10 n) : c.isDigit :=
  Nat.isDigit_of_mem_toDigits (by decide) (by decide) h

theorem toDigits_injective {m n : Nat} (h : Nat.toDigits 10 m = Nat.toDigits 10 n) : m = n := by
  rw [← Nat.ofDigitChars_ten_toDigits (n := m), h, Nat.ofDigitChars_ten_toDigits]

/-- The text of an integer is its digits, after a sign if it is negative. -/
theorem toList_toString_int (value : Int) :
    (toString value).toList
      = if value < 0 then '-' :: Nat.toDigits 10 value.natAbs
        else Nat.toDigits 10 value.natAbs := by
  rw [Int.toString_eq_repr, Int.repr_eq_if]
  rcases Int.lt_or_le value 0 with h | h
  · have habs : (-value).toNat = value.natAbs := by omega
    rw [if_neg (by omega), if_pos h, habs, String.toList_append]
    simp
  · have habs : value.toNat = value.natAbs := by omega
    rw [if_pos h, if_neg (by omega), habs]
    simp

/-- An integer starts with a sign or a digit. -/
theorem exists_cons_eq_toString_int (value : Int) :
    ∃ c rest, (toString value).toList = c :: rest ∧ (c = '-' ∨ c.isDigit) := by
  rw [toList_toString_int]
  split_ifs
  · exact ⟨_, _, rfl, .inl rfl⟩
  · obtain ⟨c, rest, h⟩ := List.exists_cons_of_ne_nil
      (Nat.toDigits_ne_nil (n := value.natAbs) (b := 10))
    exact ⟨c, rest, h, .inr (isDigit_of_mem_toDigits (h ▸ List.mem_cons_self))⟩

/-- Integers are read without doubt if no digit follows. -/
theorem int_append_inj {a b : Int} {r s : List Char} (hr : Follows r) (hs : Follows s)
    (h : (toString a).toList ++ r = (toString b).toList ++ s) : a = b ∧ r = s := by
  have hdigits : ∀ {m n : Nat}, Nat.toDigits 10 m ++ r = Nat.toDigits 10 n ++ s →
      m = n ∧ r = s := fun hmn =>
    (digits_append_inj hr hs (fun _ => isDigit_of_mem_toDigits)
      (fun _ => isDigit_of_mem_toDigits) hmn).imp toDigits_injective id
  have hsign : ∀ {m : Nat} {u v : List Char}, '-' :: u ≠ Nat.toDigits 10 m ++ v := by
    intro m u v hm
    obtain ⟨c, rest, hc⟩ := List.exists_cons_of_ne_nil (Nat.toDigits_ne_nil (n := m) (b := 10))
    have hdigit : c.isDigit := isDigit_of_mem_toDigits (hc ▸ List.mem_cons_self)
    rw [hc] at hm
    exact absurd ((List.cons.inj hm).1 ▸ hdigit) (by decide)
  rw [toList_toString_int, toList_toString_int] at h
  split_ifs at h with ha hb hb
  · obtain ⟨hab, hrs⟩ := hdigits (List.cons.inj h).2
    exact ⟨by omega, hrs⟩
  · exact absurd h hsign
  · exact absurd h.symm hsign
  · obtain ⟨hab, hrs⟩ := hdigits h
    exact ⟨by omega, hrs⟩

/-! ## Values -/

/-- The characters of the compact text of a value. -/
def chars (value : Json) : List Char := (Document.ofJson value).chars

@[simp]
theorem toList_render (value : Json) : value.render.toList = value.chars := by
  simp [render, Document.render, chars]

/-- The characters of a field. -/
def fieldChars (field : String × Json) : List Char :=
  Document.quote field.1 ++ ':' :: field.2.chars

theorem charsItems_ofItems (items : List Json) :
    Document.charsItems (Document.ofItems items) = [','].intercalate (items.map chars) := by
  induction items with
  | nil => rfl
  | cons item rest ih =>
    cases rest with
    | nil => simp [Document.ofItems, Document.charsItems, chars]
    | cons other rest =>
      rw [Document.ofItems] at ih
      simp only [Document.ofItems, Document.charsItems, ih]
      simp [chars]

theorem charsFields_ofFields (fields : List (String × Json)) :
    Document.charsFields (Document.ofFields fields)
      = [','].intercalate (fields.map fieldChars) := by
  induction fields with
  | nil => rfl
  | cons field rest ih =>
    cases rest with
    | nil => simp [Document.ofFields, Document.charsFields, fieldChars, chars]
    | cons other rest =>
      rw [Document.ofFields] at ih
      simp only [Document.ofFields, Document.charsFields, ih]
      simp [fieldChars, chars]

@[simp] theorem chars_null : chars .null = ['n', 'u', 'l', 'l'] := rfl

@[simp] theorem chars_true : chars (.bool true) = ['t', 'r', 'u', 'e'] := rfl

@[simp] theorem chars_false : chars (.bool false) = ['f', 'a', 'l', 's', 'e'] := rfl

@[simp]
theorem chars_number (n : Number) : chars (.number n) = n.text.toList := by
  simp [chars, Document.ofJson, Document.chars]

@[simp]
theorem chars_string (s : String) : chars (.string s) = Document.quote s := by
  simp [chars, Document.ofJson, Document.chars]

@[simp]
theorem chars_array (items : List Json) :
    chars (.array items) = '[' :: [','].intercalate (items.map chars) ++ [']'] := by
  simp [chars, Document.ofJson, Document.chars, charsItems_ofItems]

@[simp]
theorem chars_object (fields : List (String × Json)) :
    chars (.object fields)
      = '\x7b' :: [','].intercalate (fields.map fieldChars) ++ ['\x7d'] := by
  simp [chars, Document.ofJson, Document.chars, charsFields_ofFields]

theorem integral_of_mem_items {items : List Json} (h : integralItems items) :
    ∀ item ∈ items, item.integral := by
  induction items with
  | nil => simp
  | cons item rest ih =>
    rw [integralItems, Bool.and_eq_true] at h
    exact List.forall_mem_cons.mpr ⟨h.1, ih h.2⟩

theorem integral_of_mem_fields {fields : List (String × Json)} (h : integralFields fields) :
    ∀ field ∈ fields, field.2.integral := by
  induction fields with
  | nil => simp
  | cons field rest ih =>
    rw [integralFields, Bool.and_eq_true] at h
    exact List.forall_mem_cons.mpr ⟨h.1, ih h.2⟩

/-- The sorts of values. -/
inductive Shape where
  /-- `null`. -/
  | null
  /-- A truth value. -/
  | truth
  /-- A number. -/
  | number
  /-- A string. -/
  | text
  /-- An array. -/
  | list
  /-- An object. -/
  | record
deriving DecidableEq

/-- The sort of a value. -/
def shape : Json → Shape
  | .null => .null
  | .bool _ => .truth
  | .number _ => .number
  | .string _ => .text
  | .array _ => .list
  | .object _ => .record

/-- The sort of the values whose text starts with a character. -/
def shapeOpenedBy? (c : Char) : Option Shape :=
  if c = 'n' then some .null
  else if c = 't' ∨ c = 'f' then some .truth
  else if c = '-' ∨ c.isDigit then some .number
  else if c = '"' then some .text
  else if c = '[' then some .list
  else if c = '\x7b' then some .record
  else none

/-- The first character of a text tells the sort of the value. -/
theorem exists_cons_eq_chars {value : Json} (h : value.integral) :
    ∃ c rest, value.chars = c :: rest ∧ shapeOpenedBy? c = some value.shape := by
  cases value with
  | null => exact ⟨_, _, chars_null, rfl⟩
  | bool b => cases b <;> exact ⟨_, _, rfl, rfl⟩
  | number n =>
    cases n with
    | integer value inRange =>
      obtain ⟨c, rest, hc, hsign⟩ := exists_cons_eq_toString_int value
      refine ⟨c, rest, (chars_number _).trans hc, ?_⟩
      have hletter : c ≠ 'n' ∧ c ≠ 't' ∧ c ≠ 'f' := by
        refine ⟨?_, ?_, ?_⟩ <;> rintro rfl <;> revert hsign <;> decide
      simp [shapeOpenedBy?, shape, hletter, hsign]
    | double d => simp [integral] at h
  | string s => exact ⟨'"', _, by rw [chars_string]; rfl, rfl⟩
  | array items => exact ⟨'[', _, by rw [chars_array]; rfl, rfl⟩
  | object fields => exact ⟨'\x7b', _, by rw [chars_object]; rfl, rfl⟩

/-- Values whose texts start alike are of the same sort. -/
theorem shape_eq_of_chars_append {v w : Json} (hv : v.integral) (hw : w.integral)
    {r s : List Char} (h : v.chars ++ r = w.chars ++ s) : v.shape = w.shape := by
  obtain ⟨c, rest, hc, hcv⟩ := exists_cons_eq_chars hv
  obtain ⟨d, rest', hd, hdw⟩ := exists_cons_eq_chars hw
  rw [hc, hd] at h
  rw [(List.cons.inj h).1] at hcv
  exact Option.some.inj (hcv.symm.trans hdw)

/-- No value starts with a character that opens none. -/
theorem cons_ne_chars_append {c : Char} (hc : shapeOpenedBy? c = none) {v : Json}
    (hv : v.integral) (r s : List Char) : c :: r ≠ v.chars ++ s := by
  obtain ⟨d, rest, hd, hdv⟩ := exists_cons_eq_chars hv
  rw [hd]
  intro h
  rw [← (List.cons.inj h).1, hc] at hdv
  cases hdv

/-- Numbers that are no doubles are read without doubt if no digit follows. -/
theorem integralText_append_inj {m n : Number} (hm : (Json.number m).integral)
    (hn : (Json.number n).integral) {r s : List Char} (hr : Follows r) (hs : Follows s)
    (h : m.text.toList ++ r = n.text.toList ++ s) : m = n ∧ r = s := by
  cases m with
  | double d => simp [integral] at hm
  | integer a ha =>
    cases n with
    | double d => simp [integral] at hn
    | integer b hb =>
      obtain ⟨hab, hrs⟩ := int_append_inj (a := a) (b := b) hr hs h
      subst hab
      exact ⟨rfl, hrs⟩

/-- What follows an item or a field of a closed list follows a value. -/
theorem follows_of_mem {c : Char} {separator close : Char} (hs : separator.isDigit = false)
    (hc : close.isDigit = false) (h : c ∈ [separator, close]) (rest : List Char) :
    Follows (c :: rest) := by
  rcases List.mem_pair.mp h with rfl | rfl
  · exact follows_cons hs rest
  · exact follows_cons hc rest

/-- **A value is read off the front of a text without doubt**, if no digit
follows it. -/
theorem chars_append_inj : ∀ {v w : Json}, v.integral → w.integral →
    ∀ {r s : List Char}, Follows r → Follows s →
      v.chars ++ r = w.chars ++ s → v = w ∧ r = s
  -- values of different sorts start differently: only like ones are left
  | .null, w, hv, hw, r, s, _, _, h => by
    cases w with
    | null => simpa using h
    | _ => cases shape_eq_of_chars_append hv hw h
  | .bool b, w, hv, hw, r, s, _, _, h => by
    cases w with
    | bool b' => cases b <;> cases b' <;> simp at h <;> simp [h]
    | _ => cases shape_eq_of_chars_append hv hw h
  | .number n, w, hv, hw, r, s, hr, hs, h => by
    cases w with
    | number n' =>
      rw [chars_number, chars_number] at h
      exact (integralText_append_inj hv hw hr hs h).imp (congrArg _) id
    | _ => cases shape_eq_of_chars_append hv hw h
  | .string a, w, hv, hw, r, s, _, _, h => by
    cases w with
    | string b =>
      rw [chars_string, chars_string] at h
      exact (Document.quote_append_inj h).imp (congrArg _) id
    | _ => cases shape_eq_of_chars_append hv hw h
  | .array items, w, hv, hw, r, s, _, _, h => by
    cases w with
    | array items' =>
      rw [integral] at hv hw
      have hi := integral_of_mem_items hv
      have hi' := integral_of_mem_items hw
      refine (intercalate_append_inj chars (by decide : ',' ≠ ']')
        (fun x hx y hy c hc d hd r s hxy => ?_)
        (fun x hx => cons_ne_chars_append (by decide) (hi x hx))
        (fun y hy => cons_ne_chars_append (by decide) (hi' y hy))
        (by simpa using h)).imp (congrArg _) id
      obtain ⟨hxy, hrest⟩ := chars_append_inj (hi x hx) (hi' y hy)
        (follows_of_mem (by decide) (by decide) hc r)
        (follows_of_mem (by decide) (by decide) hd s) hxy
      exact ⟨hxy, List.cons.inj hrest⟩
    | _ => cases shape_eq_of_chars_append hv hw h
  | .object fields, w, hv, hw, r, s, _, _, h => by
    cases w with
    | object fields' =>
      rw [integral] at hv hw
      have hi := integral_of_mem_fields hv
      have hi' := integral_of_mem_fields hw
      refine (intercalate_append_inj fieldChars (by decide : ',' ≠ '\x7d')
        (fun x hx y hy c hc d hd r s hxy => ?_)
        (fun x hx r s hx => by simp [fieldChars, Document.quote] at hx)
        (fun y hy r s hy => by simp [fieldChars, Document.quote] at hy)
        (by simpa using h)).imp (congrArg _) id
      obtain ⟨hname, hvalue⟩ := Document.quote_append_inj
        (show Document.quote x.1 ++ (':' :: (x.2.chars ++ c :: r))
          = Document.quote y.1 ++ (':' :: (y.2.chars ++ d :: s)) by
            simpa [fieldChars] using hxy)
      obtain ⟨hxy, hrest⟩ := chars_append_inj (hi x hx) (hi' y hy)
        (follows_of_mem (by decide) (by decide) hc r)
        (follows_of_mem (by decide) (by decide) hd s) (List.cons.inj hvalue).2
      exact ⟨Prod.ext hname hxy, List.cons.inj hrest⟩
    | _ => cases shape_eq_of_chars_append hv hw h
termination_by v => sizeOf v
decreasing_by
  · have := List.sizeOf_lt_of_mem hx
    simp only [array.sizeOf_spec]
    omega
  · have := List.sizeOf_lt_of_mem hx
    obtain ⟨name, value⟩ := x
    simp only [Prod.mk.sizeOf_spec, object.sizeOf_spec] at this ⊢
    omega

end FeatureGate.Json
