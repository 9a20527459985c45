import Mathlib.Data.List.TakeWhile
import FeatureGate.Json.Parser
import FeatureGate.Proofs.Json.Rendering

/-!
# What was written is read back

The text of a document is read in two passes. The lexer goes over the characters and finds
tokens, and where a word or a number ends it finds out from the character behind it; the reader
goes over the tokens and keeps what is open on a stack. Each pass undoes one half of writing:
the lexer finds the tokens that were written out (`Token.reads_chars`), and the reader puts them
together again (`Reader.foldlM_tokens`). So every document is read back from its text as it is,
field by field in the order written (`Document.parse?_render`).

This is a matter of syntax only. What a number or a string means is not looked into, but a number
has to be written as a numeral, and a string has to have a text.
-/

namespace FeatureGate.Json

/-! ## Numerals -/

namespace Numeral

open Token (isNumeric)

theorem isNumeric_of_isDigit {c : Char} (h : c.isDigit) : isNumeric c := by
  simp [isNumeric, h]

theorem isNumeric_of_mem_takeWhile {cs : List Char} :
    ∀ c ∈ cs.takeWhile Char.isDigit, isNumeric c :=
  fun _ hc => isNumeric_of_isDigit (List.mem_takeWhile_imp hc)

/-- A whole number has numeric characters only. -/
theorem isNumeric_of_signed? {cs : List Char} (h : (Text.signed? cs).isSome) :
    ∀ c ∈ cs, isNumeric c := by
  have hdigits : ∀ {negative : Bool} {digits : List Char},
      (do guard (!digits.isEmpty && digits.all Char.isDigit)
          let magnitude : Int := Text.value digits
          return if negative then -magnitude else magnitude : Option Int).isSome →
        ∀ c ∈ digits, isNumeric c := by
    intro negative digits hsome c hc
    cases hguard : !digits.isEmpty && digits.all Char.isDigit with
    | false =>
      rw [hguard] at hsome
      cases hsome
    | true =>
      rw [Bool.and_eq_true, List.all_eq_true] at hguard
      exact isNumeric_of_isDigit (hguard.2 c hc)
  unfold Text.signed? at h
  split at h
  rename_i negative digits heq
  split at heq
  · cases heq
    exact List.forall_mem_cons.mpr ⟨rfl, hdigits h⟩
  · cases heq
    exact List.forall_mem_cons.mpr ⟨rfl, hdigits h⟩
  · cases heq
    exact hdigits h

theorem isNumeric_of_splitFraction {cs rest : List Char} {fraction : Option (List Char)}
    (h : splitFraction cs = some (fraction, rest)) (hrest : ∀ c ∈ rest, isNumeric c) :
    ∀ c ∈ cs, isNumeric c := by
  unfold splitFraction at h
  split at h
  · rename_i after
    dsimp only at h
    split at h
    · cases h
    · cases h
      refine List.forall_mem_cons.mpr ⟨rfl, ?_⟩
      rw [← List.takeWhile_append_dropWhile (p := Char.isDigit) (l := after)]
      exact List.forall_mem_append.mpr ⟨isNumeric_of_mem_takeWhile, hrest⟩
  · cases h
    exact hrest

/-- What a numeral goes on with after its whole part is numeric. -/
theorem isNumeric_of_exponent {negative : Bool} {whole rest : List Char}
    {fraction : Option (List Char)} {n : Numeral}
    (h : (match rest with
      | [] => some ⟨negative, whole, fraction, none⟩
      | e :: rest => do
        guard (e == 'e' || e == 'E')
        let exponent ← Text.signed? rest
        some ⟨negative, whole, fraction, some exponent⟩ : Option Numeral) = some n) :
    ∀ c ∈ rest, isNumeric c := by
  cases rest with
  | nil => simp
  | cons e rest =>
    obtain ⟨_, hguard, h⟩ := Option.bind_eq_some_iff.mp h
    obtain ⟨exponent, hsigned, _⟩ := Option.bind_eq_some_iff.mp h
    refine List.forall_mem_cons.mpr ⟨?_, isNumeric_of_signed? (by rw [hsigned]; rfl)⟩
    cases he : e == 'e' || e == 'E' with
    | false =>
      rw [he] at hguard
      cases hguard
    | true => rcases (Bool.or_eq_true _ _).mp he with he | he <;> rw [beq_iff_eq.mp he] <;> rfl

/-- **A numeral** starts with a minus sign or a digit and has numeric characters only. -/
theorem exists_cons_of_parse? {cs : List Char} (h : (parse? cs).isSome) :
    ∃ c rest, cs = c :: rest ∧ (c = '-' ∨ c.isDigit) ∧ ∀ d ∈ rest, isNumeric d := by
  obtain ⟨n, hn⟩ := Option.isSome_iff_exists.mp h
  unfold parse? at hn
  split at hn
  rename_i negative unsigned heq
  obtain ⟨_, hguard, hn⟩ := Option.bind_eq_some_iff.mp hn
  obtain ⟨⟨fraction, rest⟩, hfraction, hexponent⟩ := Option.bind_eq_some_iff.mp hn
  have hnumeric : ∀ c ∈ unsigned, isNumeric c := by
    rw [← List.takeWhile_append_dropWhile (p := Char.isDigit) (l := unsigned)]
    exact List.forall_mem_append.mpr ⟨isNumeric_of_mem_takeWhile,
      isNumeric_of_splitFraction hfraction (isNumeric_of_exponent hexponent)⟩
  have hfirst : ∃ c rest, unsigned = c :: rest ∧ c.isDigit := by
    cases unsigned with
    | nil => cases hguard
    | cons c rest =>
      by_cases hc : c.isDigit
      · exact ⟨c, rest, rfl, hc⟩
      · rw [List.takeWhile_cons_of_neg hc] at hguard
        cases hguard
  obtain ⟨c, rest, rfl, hc⟩ := hfirst
  split at heq
  · cases heq
    exact ⟨_, _, rfl, .inl rfl, hnumeric⟩
  · cases heq
    exact ⟨c, rest, rfl, .inr hc, (List.forall_mem_cons.mp hnumeric).2⟩

end Numeral

/-! ## Documents that have been written -/

namespace Document

mutual

/-- **Whether a document says what a text can say**: every number is a numeral, and every string
and name has a text. -/
def IsWritten : Document → Prop
  | .number text => (Numeral.parse? text.toList).isSome
  | .string text => text.isSome
  | .array items => AreWritten items
  | .object fields => AreWrittenFields fields
  | _ => True

/-- Whether every document of a list is written. -/
def AreWritten : List Document → Prop
  | [] => True
  | item :: rest => item.IsWritten ∧ AreWritten rest

/-- Whether every field of a list has a name and is written. -/
def AreWrittenFields : List (Option String × Document) → Prop
  | [] => True
  | (name, item) :: rest => name.isSome ∧ item.IsWritten ∧ AreWrittenFields rest

end

theorem areWritten_iff {items : List Document} :
    AreWritten items ↔ ∀ item ∈ items, item.IsWritten := by
  induction items with
  | nil => simp [AreWritten]
  | cons item rest ih => rw [AreWritten, ih, List.forall_mem_cons]

theorem areWrittenFields_iff {fields : List (Option String × Document)} :
    AreWrittenFields fields ↔ ∀ field ∈ fields, field.1.isSome ∧ field.2.IsWritten := by
  induction fields with
  | nil => simp [AreWrittenFields]
  | cons field rest ih => rw [AreWrittenFields, ih, List.forall_mem_cons, and_assoc]

mutual

/-- **The tokens a document is written with.** -/
def tokens : Document → List Token
  | .null => [.null]
  | .bool value => [.bool value]
  | .number text => [.number text]
  | .string text => [.string text]
  | .array items => .openArray :: tokensItems items ++ [.closeArray]
  | .object fields => .openObject :: tokensFields fields ++ [.closeObject]

/-- The tokens of the items of an array. -/
def tokensItems : List Document → List Token
  | [] => []
  | [item] => tokens item
  | item :: rest => tokens item ++ .comma :: tokensItems rest

/-- The tokens of the fields of an object. -/
def tokensFields : List (Option String × Document) → List Token
  | [] => []
  | [(name, item)] => .string name :: .colon :: tokens item
  | (name, item) :: rest =>
    .string name :: .colon :: tokens item ++ .comma :: tokensFields rest

end

end Document

/-! ## Finding the tokens -/

namespace Token

/-- **Characters that are read as tokens**: from between two tokens, the lexer reads them all, and
if they end there it has found these tokens. -/
def Reads (cs : List Char) (tokens : List Token) : Prop :=
  ∀ before, ∃ lexer, cs.foldlM Lexer.step? ⟨before, .between⟩ = some lexer ∧
    lexer.finish? = some ⟨tokens.reverse ++ before, .between⟩

/-- **A mark** is a token of one character, and no other token goes on with it. -/
structure IsMark (c : Char) (token : Token) : Prop where
  begins : ∀ before, Lexer.begin? ⟨before, .between⟩ c = some ⟨token :: before, .between⟩
  not_isLower : c.isLower = false
  not_isNumeric : isNumeric c = false

theorem isMark_openArray : IsMark '[' .openArray := ⟨fun _ => rfl, rfl, rfl⟩

theorem isMark_closeArray : IsMark ']' .closeArray := ⟨fun _ => rfl, rfl, rfl⟩

theorem isMark_openObject : IsMark '\x7b' .openObject := ⟨fun _ => rfl, rfl, rfl⟩

theorem isMark_closeObject : IsMark '\x7d' .closeObject := ⟨fun _ => rfl, rfl, rfl⟩

theorem isMark_comma : IsMark ',' .comma := ⟨fun _ => rfl, rfl, rfl⟩

theorem isMark_colon : IsMark ':' .colon := ⟨fun _ => rfl, rfl, rfl⟩

/-- A mark ends whatever the lexer is inside of. -/
theorem IsMark.step? {c : Char} {token : Token} (hmark : IsMark c token) {lexer : Lexer}
    {before : List Token} (h : lexer.finish? = some ⟨before, .between⟩) :
    lexer.step? c = some ⟨token :: before, .between⟩ := by
  obtain ⟨found, inside⟩ := lexer
  cases inside with
  | between =>
    cases h
    exact hmark.begins _
  | word letters =>
    rw [Lexer.step?, hmark.not_isLower]
    exact Option.bind_eq_some_iff.mpr ⟨_, h, hmark.begins _⟩
  | number chars =>
    rw [Lexer.step?, hmark.not_isNumeric]
    exact Option.bind_eq_some_iff.mpr ⟨_, h, hmark.begins _⟩
  | string spelling => cases h
  | escaped spelling => cases h
  | unit spelling missing value => cases h

theorem reads_nil : Reads [] [] := fun _ => ⟨_, rfl, rfl⟩

/-- A mark may stand in front. -/
theorem Reads.cons_mark {c : Char} {token : Token} {cs : List Char} {tokens : List Token}
    (hmark : IsMark c token) (h : Reads cs tokens) : Reads (c :: cs) (token :: tokens) := by
  intro before
  obtain ⟨lexer, hlexer, hfinish⟩ := h (token :: before)
  refine ⟨lexer, ?_, by rw [hfinish, List.reverse_cons, List.append_assoc]; rfl⟩
  rw [List.foldlM_cons, hmark.step? (by rfl : Lexer.finish? ⟨before, .between⟩ = _)]
  exact hlexer

/-- **A mark parts what is in front of it from what follows.** -/
theorem Reads.append_mark {c : Char} {token : Token} {cs ds : List Char}
    {tokens others : List Token} (hcs : Reads cs tokens) (hmark : IsMark c token)
    (hds : Reads ds others) : Reads (cs ++ c :: ds) (tokens ++ token :: others) := by
  intro before
  obtain ⟨lexer, hlexer, hfinish⟩ := hcs before
  obtain ⟨last, hlast, hend⟩ := hds (token :: (tokens.reverse ++ before))
  refine ⟨last, ?_, by rw [hend]; simp⟩
  rw [List.foldlM_append, hlexer]
  simp only [Option.bind_eq_bind, Option.bind_some, List.foldlM_cons]
  rw [hmark.step? hfinish]
  exact hlast

/-- What is put in a pair of marks. -/
theorem Reads.enclosed {c d : Char} {first last : Token} {cs : List Char} {tokens : List Token}
    (hc : IsMark c first) (h : Reads cs tokens) (hd : IsMark d last) :
    Reads (c :: cs ++ [d]) (first :: tokens ++ [last]) :=
  .cons_mark hc (h.append_mark hd reads_nil)

/-! ### Words, numbers and strings -/

theorem reads_null : Reads "null".toList [.null] := fun _ => ⟨_, rfl, rfl⟩

theorem reads_true : Reads "true".toList [.bool true] := fun _ => ⟨_, rfl, rfl⟩

theorem reads_false : Reads "false".toList [.bool false] := fun _ => ⟨_, rfl, rfl⟩

theorem foldlM_step?_number {before : List Token} {cs : List Char}
    (h : ∀ c ∈ cs, isNumeric c) (read : List Char) :
    cs.foldlM Lexer.step? ⟨before, .number read⟩ = some ⟨before, .number (cs.reverse ++ read)⟩ := by
  induction cs generalizing read with
  | nil => rfl
  | cons c cs ih =>
    obtain ⟨hc, hcs⟩ := List.forall_mem_cons.mp h
    have hstep : Lexer.step? ⟨before, .number read⟩ c = some ⟨before, .number (c :: read)⟩ := by
      simp [Lexer.step?, hc]
    rw [List.foldlM_cons, hstep]
    simpa using ih hcs (c :: read)

/-- A numeral is read as one token. -/
theorem reads_number {text : String} (h : (Numeral.parse? text.toList).isSome) :
    Reads text.toList [.number text] := by
  intro before
  obtain ⟨c, rest, htext, hc, hrest⟩ := Numeral.exists_cons_of_parse? h
  have hbegin : Lexer.step? ⟨before, .between⟩ c = some ⟨before, .number [c]⟩ := by
    have hne : ∀ d : Char, d.isDigit = false → d ≠ '-' → c ≠ d := by
      rintro d hdigit hminus rfl
      exact hc.elim hminus fun hd => Bool.false_ne_true (hdigit.symm.trans hd)
    simp (disch := decide) [Lexer.step?, Lexer.begin?, isSpace, hne, hc]
  -- the number is left open: only what follows tells that it has ended
  refine ⟨⟨before, .number (rest.reverse ++ [c])⟩, ?_, ?_⟩
  · rw [htext, List.foldlM_cons, hbegin]
    exact foldlM_step?_number hrest [c]
  · have hread : (rest.reverse ++ [c]).reverse = text.toList := by simp [htext]
    rw [Lexer.finish?]
    simp only [hread]
    rw [if_pos h, String.ofList_toList]
    rfl

/-- **An escaped character is read as the character.** -/
theorem foldlM_step?_escape {before : List Token} {read : List Char} (c : Char) :
    (Document.escape c).foldlM Lexer.step? ⟨before, .string ⟨read, none, false⟩⟩
      = some ⟨before, .string ⟨c :: read, none, false⟩⟩ := by
  unfold Document.escape
  split_ifs with h1 h2 h3 h4 h5 h6 h7 hcontrol
  all_goals try (subst c; rfl)
  · -- the other controls are written by their number
    have hhigh := Document.digit?_hexDigit (c.toNat / 16) (by omega)
    have hlow := Document.digit?_hexDigit (c.toNat % 16) (by omega)
    have hcode : 16 * (c.toNat / 16) + c.toNat % 16 = c.toNat := by omega
    have hzero : Text.digit? '0' = some 0 := rfl
    have hlone : ¬ 0xD800 ≤ c.toNat ∧ ¬ 0xDC00 ≤ c.toNat := by omega
    simp [Lexer.step?, hzero, hhigh, hlow, hcode, hlone, Spelling.pushUnit, Spelling.push,
      Spelling.settle]
  · simp [Lexer.step?, h1, h2, hcontrol, Spelling.push, Spelling.settle]

theorem foldlM_step?_escapes {before : List Token} (cs read : List Char) :
    (cs.flatMap Document.escape).foldlM Lexer.step? ⟨before, .string ⟨read, none, false⟩⟩
      = some ⟨before, .string ⟨cs.reverse ++ read, none, false⟩⟩ := by
  induction cs generalizing read with
  | nil => rfl
  | cons c cs ih =>
    rw [List.flatMap_cons, List.foldlM_append, foldlM_step?_escape]
    simpa using ih (c :: read)

/-- A quoted string is read as one token. -/
theorem reads_quote (s : String) : Reads (Document.quote s) [.string (some s)] := by
  intro before
  refine ⟨⟨.string (some s) :: before, .between⟩, ?_, rfl⟩
  have hopen : Lexer.step? ⟨before, .between⟩ '"' = some ⟨before, .string ⟨[], none, false⟩⟩ := rfl
  rw [Document.quote, List.cons_append, List.foldlM_cons, hopen]
  simp only [Option.bind_eq_bind, Option.bind_some]
  rw [List.foldlM_append, foldlM_step?_escapes]
  simp [Lexer.step?, Lexer.emit, Spelling.text?, Spelling.settle]

/-- A name that has a text is read as one token. -/
theorem reads_name {name : Option String} (h : name.isSome) :
    Reads (Document.quote (name.getD "")) [.string name] := by
  obtain ⟨text, rfl⟩ := Option.isSome_iff_exists.mp h
  exact reads_quote text

/-! ### Documents -/

mutual

/-- **The characters of a document are read as its tokens.** -/
theorem reads_chars : ∀ {document : Document}, document.IsWritten →
    Reads document.chars document.tokens
  | .null, _ => reads_null
  | .bool true, _ => reads_true
  | .bool false, _ => reads_false
  | .number _, h => reads_number h
  | .string _, h => reads_name h
  | .array _, h => .enclosed isMark_openArray (reads_charsItems h) isMark_closeArray
  | .object _, h => .enclosed isMark_openObject (reads_charsFields h) isMark_closeObject

/-- The items of an array, with the commas between them. -/
theorem reads_charsItems : ∀ {items : List Document}, Document.AreWritten items →
    Reads (Document.charsItems items) (Document.tokensItems items)
  | [], _ => reads_nil
  | [_], h => reads_chars h.1
  | _ :: _ :: _, h =>
    (reads_chars h.1).append_mark isMark_comma (reads_charsItems h.2)

/-- The fields of an object, with the commas between them. -/
theorem reads_charsFields : ∀ {fields : List (Option String × Document)},
    Document.AreWrittenFields fields →
      Reads (Document.charsFields fields) (Document.tokensFields fields)
  | [], _ => reads_nil
  | [(_, _)], h => (reads_name h.1).append_mark isMark_colon (reads_chars h.2.1)
  | (_, _) :: other :: rest, h => by
    have hfield := (reads_name h.1).append_mark isMark_colon (reads_chars h.2.1)
    exact hfield.append_mark isMark_comma (reads_charsFields h.2.2)

end

/-- **The lexer finds the tokens of a document in its characters.** -/
theorem scan?_chars {document : Document} (h : document.IsWritten) :
    scan? document.chars = some document.tokens := by
  obtain ⟨lexer, hlexer, hfinish⟩ := reads_chars h []
  rw [scan?, Lexer.start, hlexer]
  simp [hfinish]

end Token

/-! ## Putting the tokens together -/

namespace Reader

open Document (tokens tokensItems tokensFields)

/-- Where a value may begin. -/
def Stage.Awaits (stage : Stage) : Prop := stage = .value ∨ stage = .firstItem

/-- Where a name may begin, behind the fields given. -/
def Stage.AwaitsName (stage : Stage) (fields : List (Option String × Document)) : Prop :=
  stage = .name fields ∨ stage = .firstName fields

/-- A token with which a value begins is no bracket that closes an array. -/
theorem step?_of_awaits {stack : List Open} {stage : Stage} (hstage : stage.Awaits)
    {token : Token} (htoken : token ≠ .closeArray) :
    step? ⟨stack, stage⟩ token = beginValue? ⟨stack, stage⟩ token := by
  rcases hstage with rfl | rfl
  · rfl
  · cases token <;> first | rfl | exact absurd rfl htoken

theorem step?_of_awaitsName {stack : List Open} {stage : Stage}
    {fields : List (Option String × Document)} (hstage : stage.AwaitsName fields)
    (name : Option String) :
    step? ⟨stack, stage⟩ (.string name) = some ⟨.object fields name :: stack, .colon⟩ := by
  rcases hstage with rfl | rfl <;> rfl

/-- A name, a colon and the tokens of a value. -/
theorem foldlM_field {stack : List Open} {stage : Stage}
    {fields : List (Option String × Document)} (hstage : stage.AwaitsName fields)
    (name : Option String) {item : Document} {found : List Token}
    (hitem : found.foldlM step? ⟨.object fields name :: stack, .value⟩
      = some ⟨.object fields name :: stack, .afterValue item⟩) :
    (.string name :: .colon :: found).foldlM step? ⟨stack, stage⟩
      = some ⟨.object fields name :: stack, .afterValue item⟩ := by
  rw [List.foldlM_cons, step?_of_awaitsName hstage]
  exact hitem

mutual

/-- **The tokens of a document are put together to the document**, wherever a value may begin. -/
theorem foldlM_tokens : ∀ (document : Document) {stack : List Open} {stage : Stage},
    stage.Awaits →
      document.tokens.foldlM step? ⟨stack, stage⟩ = some ⟨stack, .afterValue document⟩
  | .null, _, _, h => by rw [tokens, List.foldlM_cons, step?_of_awaits h (by simp)]; rfl
  | .bool _, _, _, h => by rw [tokens, List.foldlM_cons, step?_of_awaits h (by simp)]; rfl
  | .number _, _, _, h => by rw [tokens, List.foldlM_cons, step?_of_awaits h (by simp)]; rfl
  | .string _, _, _, h => by rw [tokens, List.foldlM_cons, step?_of_awaits h (by simp)]; rfl
  | .array [], _, _, h => by
    rw [tokens, List.cons_append, List.foldlM_cons, step?_of_awaits h (by simp)]
    rfl
  -- the first item may begin where the array might have ended, the others behind a comma
  | .array (item :: rest), _, _, h => by
    rw [tokens, List.cons_append, List.foldlM_cons, step?_of_awaits h (by simp)]
    exact foldlM_tokensItems (item :: rest) (by simp) [] (.inr rfl)
  | .object [], _, _, h => by
    rw [tokens, List.cons_append, List.foldlM_cons, step?_of_awaits h (by simp)]
    rfl
  | .object (field :: rest), _, _, h => by
    rw [tokens, List.cons_append, List.foldlM_cons, step?_of_awaits h (by simp)]
    exact foldlM_tokensFields (field :: rest) (by simp) [] (.inr rfl)

/-- The items of an array that has some already. -/
theorem foldlM_tokensItems : ∀ (items : List Document), items ≠ [] →
    ∀ (read : List Document) {stack : List Open} {stage : Stage}, stage.Awaits →
      (tokensItems items ++ [Token.closeArray]).foldlM step? ⟨.array read :: stack, stage⟩
        = some ⟨stack, .afterValue (.array (read.reverse ++ items))⟩
  | [], hne, _, _, _, _ => absurd rfl hne
  | [item], _, read, stack, stage, h => by
    rw [tokensItems, List.foldlM_append, foldlM_tokens item h]
    simp [step?, continue?]
  | item :: other :: rest, _, read, stack, stage, h => by
    have hnext : (tokensItems (other :: rest) ++ [Token.closeArray]).foldlM step?
        ⟨.array (item :: read) :: stack, .value⟩ = _ :=
      foldlM_tokensItems (other :: rest) (by simp) (item :: read) (.inl rfl)
    rw [tokensItems, List.append_assoc, List.foldlM_append, foldlM_tokens item h]
    · simpa [step?, continue?] using hnext
    · simp

/-- The fields of an object that has some already. -/
theorem foldlM_tokensFields : ∀ (fields : List (Option String × Document)), fields ≠ [] →
    ∀ (read : List (Option String × Document)) {stack : List Open} {stage : Stage},
      stage.AwaitsName read →
        (tokensFields fields ++ [Token.closeObject]).foldlM step? ⟨stack, stage⟩
          = some ⟨stack, .afterValue (.object (read.reverse ++ fields))⟩
  | [], hne, _, _, _, _ => absurd rfl hne
  | [(name, item)], _, read, stack, stage, h => by
    rw [tokensFields, List.foldlM_append, foldlM_field h name (foldlM_tokens item (.inl rfl))]
    simp [step?, continue?]
  | (name, item) :: other :: rest, _, read, stack, stage, h => by
    have hnext : (tokensFields (other :: rest) ++ [Token.closeObject]).foldlM step?
        ⟨stack, .name ((name, item) :: read)⟩ = _ :=
      foldlM_tokensFields (other :: rest) (by simp) ((name, item) :: read) (.inl rfl)
    rw [tokensFields, List.append_assoc, List.foldlM_append,
      foldlM_field h name (foldlM_tokens item (.inl rfl))]
    · simpa [step?, continue?] using hnext
    · simp

end

end Reader

namespace Document

/-- **What was written is read back** as it was written. -/
theorem parse?_render {document : Document} (h : document.IsWritten) :
    parse? document.render = some document := by
  rw [parse?, render, String.toList_ofList, Token.scan?_chars h]
  simp [Reader.start, Reader.foldlM_tokens document (.inl rfl), Reader.document?]

/-- Documents whose texts are equal are equal. -/
theorem render_injective {a b : Document} (ha : a.IsWritten) (hb : b.IsWritten)
    (h : a.render = b.render) : a = b :=
  Option.some.inj ((parse?_render ha).symm.trans (h ▸ parse?_render hb))

end Document

end FeatureGate.Json
