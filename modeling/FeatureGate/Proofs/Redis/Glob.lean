import Mathlib.Data.List.Basic
import FeatureGate.Redis.Glob

/-!
# Patterns that mean what they say

A prefix that has none of the characters with a meaning in patterns stands for itself, so
the pattern made of it, a colon and a star matches the keys that begin with the prefix and
a colon, and no others (`globMatches_iff_of_plain`); these can be told without the rules of
patterns (`globMatches_eq_literalMatches`). A server compares bytes: that a character with a
meaning is met among them only where it stands in the text, and that a key which begins with
the bytes of a text begins with the text, is a property of the encoding.
-/

namespace FeatureGate.Redis

/-! ## Texts as bytes -/

/-- A byte as the character with its number. -/
def byteChar (byte : UInt8) : Char := Char.ofNat byte.toNat

theorem toNat_byteChar (byte : UInt8) : (byteChar byte).toNat = byte.toNat := by
  have hlt := byte.toNat_lt
  have hvalid : byte.toNat.isValidChar := Or.inl (by omega)
  rw [byteChar, Char.ofNat, dif_pos hvalid]
  rfl

theorem byteChar_injective : Function.Injective byteChar := by
  intro a b h
  have hnat := congrArg Char.toNat h
  rw [toNat_byteChar, toNat_byteChar] at hnat
  exact UInt8.toNat_inj.mp hnat

/-- The bytes of an array are listed from the first to the last. -/
theorem toList_loop (array : ByteArray) (i : Nat) (seen : List UInt8) :
    ByteArray.toList.loop array i seen = seen.reverse ++ array.data.toList.drop i := by
  fun_induction ByteArray.toList.loop array i seen with
  | case1 i seen h ih =>
    have hlt : i < array.data.toList.length := h
    rw [ih, List.drop_eq_getElem_cons hlt, List.reverse_cons, List.append_assoc]
    simp [ByteArray.get!, h]
  | case2 i seen h =>
    rw [List.drop_eq_nil_of_le (Nat.le_of_not_lt h), List.append_nil]

/-- The bytes of a text are those of its characters, one after another. -/
theorem bytes_eq (text : String) :
    bytes text = (text.toList.flatMap String.utf8EncodeChar).map byteChar := by
  have hbytes : text.toUTF8.toList = text.toList.flatMap String.utf8EncodeChar := by
    show ByteArray.toList.loop text.toByteArray 0 [] = _
    rw [toList_loop, ← String.utf8Encode_toList]
    exact List.toList_data_toByteArray
  rw [bytes, hbytes]
  rfl

theorem bytes_append (a b : String) : bytes (a ++ b) = bytes a ++ bytes b := by
  simp [bytes_eq]

/-- The star of a pattern is one byte. -/
theorem bytes_star : bytes "*" = ['*'] := by
  rw [bytes_eq]
  rfl

/-- **A key that begins with the bytes of a text** begins with the text. -/
theorem exists_eq_append_of_bytes_prefix {text key : String} (h : bytes text <+: bytes key) :
    ∃ rest, key = text ++ rest := by
  rw [bytes_eq, bytes_eq, List.prefix_map_iff_of_injective byteChar_injective] at h
  obtain ⟨left, hleft⟩ := h
  have hencoded : text.toList.utf8Encode ++ left.toByteArray = key.toList.utf8Encode := by
    rw [List.utf8Encode, List.utf8Encode, ← hleft, List.toByteArray_append]
  obtain ⟨rest, hrest⟩ := List.isPrefix_of_utf8Encode_append_eq_utf8Encode _ hencoded
  refine ⟨String.ofList rest, String.toList_inj.mp ?_⟩
  rw [String.toList_append, String.toList_ofList, hrest]

/-- **A byte that is a common character** is a character of the text. -/
theorem mem_toList_of_mem_bytes {text : String} {c : Char} (h : c ∈ bytes text)
    (hcommon : c.toNat < 128) : c ∈ text.toList := by
  rw [bytes_eq] at h
  obtain ⟨byte, hbyte, rfl⟩ := List.mem_map.mp h
  obtain ⟨d, hd, hmem⟩ := List.mem_flatMap.mp hbyte
  rw [toNat_byteChar] at hcommon
  unfold String.utf8EncodeChar at hmem
  dsimp only at hmem
  split at hmem
  · rename_i hsmall
    obtain rfl := List.mem_singleton.mp hmem
    have hchar : byteChar (UInt8.ofNat d.val.toNat) = d := by
      rw [byteChar, UInt8.toNat_ofNat', Nat.mod_eq_of_lt (by omega)]
      exact Char.ofNat_toNat d
    rwa [hchar]
  · -- a character of more than one byte has none below 128
    have hlarge : 128 ≤ byte.toNat := by
      split at hmem
      · simp only [List.mem_cons, List.not_mem_nil, or_false] at hmem
        rcases hmem with rfl | rfl <;> simp only [UInt8.toNat_ofNat'] <;> omega
      · split at hmem
        · simp only [List.mem_cons, List.not_mem_nil, or_false] at hmem
          rcases hmem with rfl | rfl | rfl <;> simp only [UInt8.toNat_ofNat'] <;> omega
        · simp only [List.mem_cons, List.not_mem_nil, or_false] at hmem
          rcases hmem with rfl | rfl | rfl | rfl <;> simp only [UInt8.toNat_ofNat'] <;> omega
    omega

/-! ## Matching -/

namespace Glob

/-- **The characters with a meaning** in patterns. -/
def specials : List Char := ['*', '?', '[', ']', '\\']

/-- The characters with a meaning are common ones. -/
theorem toNat_lt_of_mem_specials {c : Char} (h : c ∈ specials) : c.toNat < 128 := by
  simp only [specials, List.mem_cons, List.not_mem_nil, or_false] at h
  rcases h with rfl | rfl | rfl | rfl | rfl <;> decide

/-- Bytes without a meaning stand for themselves. -/
theorem parts_append {literal : List Char} (hplain : ∀ c ∈ literal, c ∉ specials)
    (rest : List Char) : parts (literal ++ rest) = literal.map .byte ++ parts rest := by
  induction literal with
  | nil => rfl
  | cons c literal ih =>
    obtain ⟨hc, hliteral⟩ := List.forall_mem_cons.mp hplain
    simp only [specials, List.mem_cons, List.not_mem_nil, or_false, not_or] at hc
    obtain ⟨hstar, hany, hset, -, hescape⟩ := hc
    rw [List.cons_append, parts, ih hliteral]
    · rfl
    · exact hstar
    · exact hany
    · exact fun _ h _ => hset h
    · exact hset
    · exact fun _ _ h _ => hescape h

/-- A star at the end matches whatever is left. -/
theorem accepts_star (chars : List Char) : accepts [.star] chars = true := by
  rw [accepts, List.any_eq_true]
  exact ⟨chars.length, List.mem_range.mpr (Nat.lt_succ_self _), by simp [accepts]⟩

/-- **A literal before a star** is what a key has to begin with. -/
theorem accepts_iff_prefix (literal chars : List Char) :
    accepts (literal.map .byte ++ [.star]) chars = true ↔ literal <+: chars := by
  induction literal generalizing chars with
  | nil => simpa using accepts_star chars
  | cons c literal ih =>
    cases chars with
    | nil => simp [accepts]
    | cons d chars =>
      rw [List.map_cons, List.cons_append, accepts, Bool.and_eq_true, ih, List.cons_prefix_cons]
      · simp [Part.holds]
      · nofun

/-- **Without brackets and backslashes** a pattern that ends with a star matches what begins
with the same characters: a star and a question mark match themselves, among others. -/
theorem accepts_append_star {literal : List Char}
    (hfree : ∀ c ∈ literal, c ≠ '[' ∧ c ≠ '\\') (rest : List Char) :
    accepts (parts (literal ++ ['*'])) (literal ++ rest) = true := by
  induction literal with
  | nil =>
    rw [List.nil_append, List.nil_append, parts, parts]
    exact accepts_star rest
  | cons c literal ih =>
    obtain ⟨⟨hset, hescape⟩, hliteral⟩ := List.forall_mem_cons.mp hfree
    have hrest := ih hliteral
    rw [List.cons_append, List.cons_append]
    by_cases hstar : c = '*'
    · subst hstar
      rw [parts, accepts, List.any_eq_true]
      exact ⟨1, List.mem_range.mpr (by simp), hrest⟩
    · by_cases hany : c = '?'
      · subst hany
        rw [parts, accepts, hrest]
        · rfl
        · exact Part.noConfusion
      · rw [parts, accepts, hrest]
        · simp [Part.holds]
        · exact Part.noConfusion
        · exact hstar
        · exact hany
        · exact fun _ h _ => hset h
        · exact hset
        · exact fun _ _ h _ => hescape h

end Glob

/-- **A plain prefix**: none of its characters has a meaning in patterns. -/
def IsPlain (text : String) : Prop := ∀ c ∈ text.toList, c ∉ Glob.specials

instance instDecidableIsPlain (text : String) : Decidable (IsPlain text) :=
  List.decidableBAll (fun c => c ∉ Glob.specials) text.toList

/-- **The pattern of a plain prefix** matches the keys under it, and no others. -/
theorem globMatches_iff_of_plain {keyPrefix : String} (hplain : IsPlain keyPrefix)
    (key : String) :
    globMatches (keyPrefix ++ ":*") key = true ↔ ∃ rest, key = keyPrefix ++ ":" ++ rest := by
  have hliteral : ∀ c ∈ bytes (keyPrefix ++ ":"), c ∉ Glob.specials := by
    intro c hc hspecial
    have hmem := mem_toList_of_mem_bytes hc (Glob.toNat_lt_of_mem_specials hspecial)
    rw [String.toList_append, List.mem_append] at hmem
    rcases hmem with hmem | hmem
    · exact hplain c hmem hspecial
    · obtain rfl : c = ':' := by simpa using hmem
      exact absurd hspecial (by decide)
  have hstar : Glob.parts (bytes "*") = [.star] := by
    rw [bytes_star, Glob.parts, Glob.parts]
  have hpattern : Glob.parts (bytes (keyPrefix ++ ":*"))
      = (bytes (keyPrefix ++ ":")).map .byte ++ [.star] := by
    rw [show keyPrefix ++ ":*" = keyPrefix ++ ":" ++ "*" by rw [String.append_assoc]; rfl,
      bytes_append _ "*", Glob.parts_append hliteral, hstar]
  rw [globMatches, hpattern, Glob.accepts_iff_prefix]
  constructor
  · exact exists_eq_append_of_bytes_prefix
  · rintro ⟨rest, rfl⟩
    rw [bytes_append _ rest]
    exact List.prefix_append ..

/-- A text that begins as the pattern does before its star begins with the prefix. -/
theorem literalMatches_iff (keyPrefix key : String) :
    literalMatches (keyPrefix ++ ":*") key = true ↔ ∃ rest, key = keyPrefix ++ ":" ++ rest := by
  have hliteral : (keyPrefix ++ ":*").toList.dropLast = (keyPrefix ++ ":").toList := by
    rw [String.toList_append, String.toList_append]
    exact List.dropLast_append_of_ne_nil (by decide)
  rw [literalMatches, hliteral, List.isPrefixOf_iff_prefix]
  constructor
  · rintro ⟨rest, hrest⟩
    refine ⟨String.ofList rest, String.toList_inj.mp ?_⟩
    rw [String.toList_append, String.toList_ofList, hrest]
  · rintro ⟨rest, rfl⟩
    exact ⟨rest.toList, String.toList_append.symm⟩

/-- **The pattern of a plain prefix** may as well be compared literally. -/
theorem globMatches_eq_literalMatches {keyPrefix : String} (hplain : IsPlain keyPrefix)
    (key : String) :
    globMatches (keyPrefix ++ ":*") key = literalMatches (keyPrefix ++ ":*") key := by
  rw [Bool.eq_iff_iff, globMatches_iff_of_plain hplain, literalMatches_iff]

end FeatureGate.Redis
