import Pipeline.Proofs.Yaml.Scanner

/-!
# Tokens of JSON texts

The scanner on the text of a JSON object whose keys are words and that has no numbers. If all its
strings can be read again, the tokens are those of the object with what the strings become
(`Value.tokens`); otherwise they end in an error (`tokensOf_pretty`).
-/

namespace Pipeline

open Yaml (Token Scanner)

namespace Json

mutual

/-- Whether a value has no numbers, and its keys are words that are not too long. -/
def Value.isSimple : Value → Bool
  | .null => true
  | .bool _ => true
  | .number _ => false
  | .string _ => true
  | .array items => allSimple items
  | .object fields => fieldsSimple fields

/-- Whether values have no numbers, and their keys are words that are not too long. -/
def allSimple : List Value → Bool
  | [] => true
  | v :: vs => v.isSimple && allSimple vs

/-- Whether fields have no numbers, and their keys are words that are not too long. -/
def fieldsSimple : List (String × Value) → Bool
  | [] => true
  | (key, v) :: fs =>
    Yaml.isWord key && decide (key.toList.length ≤ 100) && v.isSimple && fieldsSimple fs

end

mutual

/-- Whether all strings of a value have a property. -/
def Value.allStrings (p : String → Bool) : Value → Bool
  | .null => true
  | .bool _ => true
  | .number _ => true
  | .string s => p s
  | .array items => itemsAllStrings p items
  | .object fields => fieldsAllStrings p fields

/-- Whether all strings of some values have a property. -/
def itemsAllStrings (p : String → Bool) : List Value → Bool
  | [] => true
  | v :: vs => v.allStrings p && itemsAllStrings p vs

/-- Whether all strings of some fields, their keys apart, have a property. -/
def fieldsAllStrings (p : String → Bool) : List (String × Value) → Bool
  | [] => true
  | (_, v) :: fs => v.allStrings p && fieldsAllStrings p fs

end

mutual

/-- The tokens that the text of a value has in YAML, when strings become what `f` says. -/
def Value.tokens (f : String → String) : Value → List Token
  | .null => [.scalar "null" .plain]
  | .bool b => [.scalar (toString b) .plain]
  | .number n => [.scalar n.render .plain]
  | .string s => [.scalar (f s) .doubleQuoted]
  | .array items =>
    .flowSequenceStart :: (List.intercalate [.flowEntry] (itemTokens f items) ++ [.flowSequenceEnd])
  | .object fields =>
    .flowMappingStart :: (List.intercalate [.flowEntry] (fieldTokens f fields) ++ [.flowMappingEnd])

/-- The tokens of each of some values. -/
def itemTokens (f : String → String) : List Value → List (List Token)
  | [] => []
  | v :: vs => v.tokens f :: itemTokens f vs

/-- The tokens of each of some fields. -/
def fieldTokens (f : String → String) : List (String × Value) → List (List Token)
  | [] => []
  | (key, v) :: fs =>
    (.key :: .scalar key .doubleQuoted :: .value :: v.tokens f) :: fieldTokens f fs

end

end Json

namespace Yaml

/-- What a string is read again as. -/
def afresh (s : String) : String :=
  (reread s).getD s

/-- Whether a string can be read again. -/
def isLegible (s : String) : Bool :=
  (reread s).isSome

/-- A text that goes on with what separates items or ends them, blanks apart. -/
def Separates (text : List Char) : Prop :=
  ∃ blanks mark cs, text = blanks ++ mark :: cs ∧ (∀ ch ∈ blanks, isBlank ch = true) ∧
    isFlowMark mark = true

namespace Scanner

/-- From a state the tokens `more` are read up to `text` if `ok` says so; otherwise there is an
error. -/
def Goes (s : Scanner) (depth : Nat) (ts more : List Token) (text : List Char) (ok : Bool) : Prop :=
  Token.streamEnd ∉ more ∧
    if ok then ∃ s', s.Reaches s' ∧ s'.Stands depth (ts ++ more) text else s.Fails

variable {s : Scanner} {depth depth' : Nat} {ts more more' : List Token} {text text' : List Char}
  {ok ok' : Bool}

/-- Some tokens are read after others. -/
lemma Goes.bind (h : s.Goes depth ts more text ok)
    (next : ∀ s' : Scanner, s'.Stands depth (ts ++ more) text →
      s'.Goes depth' (ts ++ more) more' text' ok') (unended : Token.streamEnd ∉ more') :
    s.Goes depth' ts (more ++ more') text' (ok && ok') := by
  obtain ⟨unended', goes⟩ := h
  refine ⟨by simp [unended, unended'], ?_⟩
  cases ok with
  | false => exact goes
  | true =>
    obtain ⟨s', reaches, stands⟩ := goes
    have onward := (next s' stands).2
    rw [Bool.true_and]
    cases ok' with
    | false => exact reaches.fails onward
    | true =>
      obtain ⟨s'', reaches', stands'⟩ := onward
      exact ⟨s'', reaches.trans reaches', List.append_assoc ts more more' ▸ stands'⟩

/-- Tokens are read after those that lead to a state. -/
lemma Reaches.goes {s' : Scanner} (h : s.Reaches s') (more : List Token)
    (unended : Token.streamEnd ∉ more) (next : s'.Goes depth (ts ++ more) more' text ok) :
    s.Goes depth ts (more ++ more') text ok := by
  refine ⟨by simp [unended, next.1], ?_⟩
  have onward := next.2
  cases ok with
  | false => exact h.fails onward
  | true =>
    obtain ⟨s'', reaches, stands⟩ := onward
    exact ⟨s'', h.trans reaches, List.append_assoc ts more more' ▸ stands⟩

/-- Tokens that lead to a state are read. -/
lemma Reaches.goes_of_stands {s' : Scanner} (h : s.Reaches s') (unended : Token.streamEnd ∉ more)
    (stands : s'.Stands depth (ts ++ more) text) : s.Goes depth ts more text true :=
  ⟨unended, s', h, stands⟩

/-- A state does not depend on the blanks before the text that is left. -/
lemma Stands.blanks {blanks : List Char} (h : s.Stands depth ts (blanks ++ text))
    (blank : ∀ ch ∈ blanks, isBlank ch = true) : s.Stands depth ts text :=
  ⟨h.free, h.open_, h.tokens, h.left.trans (dropBlanks_append blank text)⟩

end Scanner

/-- A member of a collection: its text, its tokens, and whether it can be read. -/
structure Member where
  text : String
  tokens : List Token
  ok : Bool

/-- The tokens of a member are read, wherever it may stand. -/
def Member.Scans (m : Member) : Prop :=
  Token.streamEnd ∉ m.tokens ∧
    ∀ {s : Scanner} {depth : Nat} {ts : List Token} {text : List Char},
      s.Stands (depth + 1) ts (m.text.toList ++ text) → s.keyAllowed = true →
        Separates text → Token.streamEnd ∉ ts → s.Goes (depth + 1) ts m.tokens text m.ok

/-- The start of a line is blank. -/
lemma isBlank_newline (level : Nat) : ∀ ch ∈ (Json.newline level).toList, isBlank ch = true := by
  intro ch mem
  have : ch = '\n' ∨ ch ∈ List.replicate (2 * level) ' ' := by
    simpa [Json.newline] using mem
  rcases this with rfl | mem
  · rfl
  · rw [List.eq_of_mem_replicate mem]
    rfl

/-- What separates members does not end the text. -/
lemma unended_of_members {members : List Member} (each : ∀ m ∈ members, m.Scans) :
    Token.streamEnd ∉ List.intercalate [.flowEntry] (members.map Member.tokens) := by
  induction members with
  | nil => simp [List.intercalate]
  | cons m members ih =>
    rw [List.forall_mem_cons] at each
    cases members with
    | nil => simpa [List.intercalate] using each.1.1
    | cons n members =>
      have := ih each.2
      simp only [List.map_cons] at this ⊢
      rw [List.intercalate_cons_cons]
      simp [each.1.1, this]

variable {s : Scanner} {depth : Nat} {ts : List Token} {text : List Char}

/-- Members on lines of their own are read one after the other. -/
lemma scans_separated {members : List Member} (each : ∀ m ∈ members, m.Scans)
    (some : members ≠ []) (level : Nat)
    (h : s.Stands (depth + 1) ts
      ((String.intercalate ("," ++ Json.newline level) (members.map Member.text)).toList ++ text))
    (allowed : s.keyAllowed = true) (ends : Separates text) (unended : Token.streamEnd ∉ ts) :
    s.Goes (depth + 1) ts (List.intercalate [.flowEntry] (members.map Member.tokens)) text
      (members.all Member.ok) := by
  induction members generalizing s ts with
  | nil => exact absurd rfl some
  | cons m members ih =>
    rw [List.forall_mem_cons] at each
    obtain ⟨here, each⟩ := each
    cases members with
    | nil =>
      have goes := here.2 (by simpa using h) allowed ends unended
      simpa [List.intercalate] using goes
    -- the comma belongs to neither member; the lines after it are blanks
    | cons n members =>
      have unended' := unended_of_members each
      simp only [List.map_cons] at h unended' ih ⊢
      rw [String.intercalate_cons_cons] at h
      rw [List.intercalate_cons_cons, List.all_cons, List.append_assoc]
      have comma : ",".toList = [','] := rfl
      simp only [String.toList_append, List.append_assoc, comma, List.singleton_append] at h
      have first := here.2 h allowed ⟨[], ',', _, rfl, by simp, rfl⟩ unended
      refine first.bind (fun s' stands => ?_) (by simpa using unended')
      obtain ⟨s'', reaches, stands', allowed'⟩ := stands.comma
      have stands'' := stands'.blanks (isBlank_newline level)
      refine reaches.goes _ (by simp) (ih each (by simp) stands'' allowed' ?_)
      simp [unended, here.1]

/-- The two brackets of a collection, as characters and as tokens. -/
inductive Brackets : Char → Char → Token → Token → Prop where
  | sequence : Brackets '[' ']' .flowSequenceStart .flowSequenceEnd
  | mapping : Brackets '\x7b' '\x7d' .flowMappingStart .flowMappingEnd

/-- A collection is read with all its members. -/
lemma scans_bracketed {opening closing : Char} {first last : Token}
    (brackets : Brackets opening closing first last) {members : List Member}
    (each : ∀ m ∈ members, m.Scans) (level : Nat) (text : List Char)
    (h : s.Stands depth ts ((Json.bracketed (String.singleton opening) (String.singleton closing)
      level (members.map Member.text)).toList ++ text))
    (unended : Token.streamEnd ∉ ts) :
    s.Goes depth ts
      (first :: (List.intercalate [.flowEntry] (members.map Member.tokens) ++ [last])) text
      (members.all Member.ok) := by
  have unended₁ : Token.streamEnd ∉ [first] := by cases brackets <;> simp
  have unended₂ : Token.streamEnd ∉ [last] := by cases brackets <;> simp
  have isOpening : (opening = '[' ∧ first = .flowSequenceStart) ∨
      (opening = '\x7b' ∧ first = .flowMappingStart) := by
    cases brackets <;> simp
  have isClosing : (closing = ']' ∧ last = .flowSequenceEnd) ∨
      (closing = '\x7d' ∧ last = .flowMappingEnd) := by
    cases brackets <;> simp
  have mark : isFlowMark closing = true := by cases brackets <;> rfl
  cases members with
  | nil =>
    have text' : (Json.bracketed (String.singleton opening) (String.singleton closing) level
        (([] : List Member).map Member.text)).toList ++ text = opening :: closing :: text := by
      simp [Json.bracketed]
    rw [text'] at h
    obtain ⟨s₁, reaches, stands, -⟩ := h.opening isOpening
    obtain ⟨s₂, reaches', stands', -⟩ := stands.closing isClosing
    exact reaches.goes [first] unended₁ (reaches'.goes_of_stands unended₂ stands')
  | cons m members =>
    have text' : (Json.bracketed (String.singleton opening) (String.singleton closing) level
        ((m :: members).map Member.text)).toList ++ text =
        opening :: ((Json.newline (level + 1)).toList ++
          ((String.intercalate ("," ++ Json.newline (level + 1))
            ((m :: members).map Member.text)).toList ++
              ((Json.newline level).toList ++ closing :: text))) := by
      simp [Json.bracketed]
    rw [text'] at h
    obtain ⟨s₁, reaches, stands, allowed⟩ := h.opening isOpening
    have inside := scans_separated each (by simp) (level + 1)
      (stands.blanks (isBlank_newline (level + 1))) allowed
      ⟨_, closing, text, rfl, isBlank_newline level, mark⟩ (by simp [unended, unended₁])
    refine reaches.goes [first] unended₁ ?_
    -- the closing bracket cannot fail, so it is as well read as its members are
    rw [← Bool.and_true (List.all _ _)]
    refine inside.bind (fun s₂ stands₂ => ?_) unended₂
    obtain ⟨s₃, reaches', stands', -⟩ :=
      (stands₂.blanks (isBlank_newline level)).closing isClosing
    exact reaches'.goes_of_stands unended₂ stands'

/-- The items of an array as members. -/
def itemMembers (level : Nat) : List Json.Value → List Member
  | [] => []
  | v :: vs =>
    ⟨v.prettyAt level, v.tokens afresh, v.allStrings isLegible⟩ :: itemMembers level vs

/-- The fields of an object as members. -/
def fieldMembers (level : Nat) : List (String × Json.Value) → List Member
  | [] => []
  | (key, v) :: fs =>
    ⟨Json.renderString key ++ ": " ++ v.prettyAt level,
      .key :: .scalar key .doubleQuoted :: .value :: v.tokens afresh, v.allStrings isLegible⟩ ::
        fieldMembers level fs

/-- The texts, tokens and strings of items are those of the members. -/
lemma itemMembers_eq (level : Nat) (items : List Json.Value) :
    (itemMembers level items).map Member.text = Json.prettyItems level items ∧
    (itemMembers level items).map Member.tokens = Json.itemTokens afresh items ∧
    (itemMembers level items).all Member.ok = Json.itemsAllStrings isLegible items := by
  induction items with
  | nil => exact ⟨rfl, rfl, rfl⟩
  | cons v vs ih =>
    simp [itemMembers, Json.prettyItems, Json.itemTokens, Json.itemsAllStrings, ih]

/-- The texts, tokens and strings of fields are those of the members. -/
lemma fieldMembers_eq (level : Nat) (fields : List (String × Json.Value)) :
    (fieldMembers level fields).map Member.text = Json.prettyFields level fields ∧
    (fieldMembers level fields).map Member.tokens = Json.fieldTokens afresh fields ∧
    (fieldMembers level fields).all Member.ok = Json.fieldsAllStrings isLegible fields := by
  induction fields with
  | nil => exact ⟨rfl, rfl, rfl⟩
  | cons f fs ih =>
    simp [fieldMembers, Json.prettyFields, Json.fieldTokens, Json.fieldsAllStrings, ih]

/-- The tokens of a value are read wherever it may stand between brackets. -/
def ValueScans (v : Json.Value) (level : Nat) : Prop :=
  Token.streamEnd ∉ v.tokens afresh ∧
    ∀ {s : Scanner} {depth : Nat} {ts : List Token} {text : List Char},
      s.Stands (depth + 1) ts ((v.prettyAt level).toList ++ text) → Separates text →
        Token.streamEnd ∉ ts →
          s.Goes (depth + 1) ts (v.tokens afresh) text (v.allStrings isLegible)

/-- A word of JSON is read. -/
lemma scans_word {w : String} (word : isPlainWord w)
    (h : s.Stands (depth + 1) ts (w.toList ++ text)) (ends : Separates text) :
    s.Goes (depth + 1) ts [.scalar w .plain] text true := by
  obtain ⟨blanks, mark, cs, rfl, blank, isMark⟩ := ends
  obtain ⟨s', reaches, stands⟩ := h.word word blank isMark
  refine reaches.goes_of_stands (by simp) ⟨stands.free, stands.open_, stands.tokens, ?_⟩
  rw [dropBlanks_append blank]
  exact stands.left

/-- A string is read if it can be read again. -/
lemma scans_string {str : String}
    (h : s.Stands depth ts ((Json.renderString str).toList ++ text))
    (unended : Token.streamEnd ∉ ts) :
    s.Goes depth ts [.scalar (afresh str) .doubleQuoted] text (isLegible str) := by
  refine ⟨by simp, ?_⟩
  have reads := h.string unended
  unfold afresh isLegible
  cases again : reread str with
  | none => simpa [again] using reads
  | some value => simpa [again] using reads

/-- A field is read, its key before its value. -/
lemma scans_field {key : String} {v : Json.Value} {level : Nat} (word : isWord key = true)
    (short : key.toList.length ≤ 100) (value : ValueScans v level) :
    Member.Scans ⟨Json.renderString key ++ ": " ++ v.prettyAt level,
      .key :: .scalar key .doubleQuoted :: .value :: v.tokens afresh,
      v.allStrings isLegible⟩ := by
  refine ⟨by simp [value.1], ?_⟩
  intro s depth ts text h allowed ends unended
  have text' : (Json.renderString key ++ ": " ++ v.prettyAt level).toList ++ text =
      (Json.renderString key).toList ++ ':' :: ([' '] ++ ((v.prettyAt level).toList ++ text)) := by
    simp
  rw [text'] at h
  obtain ⟨s', reaches, stands⟩ := h.key word short allowed
  refine reaches.goes [.key, .scalar key .doubleQuoted, .value] (by simp) ?_
  exact value.2 (stands.blanks (by simp [isBlank])) ends (by simp [unended])

mutual

/-- The tokens of a simple value are read. -/
lemma value_scans (v : Json.Value) (simple : v.isSimple = true) (level : Nat) :
    ValueScans v level := by
  cases v with
  | null => exact ⟨by simp [Json.Value.tokens], fun h ends _ => scans_word (.inl rfl) h ends⟩
  | bool b =>
    have word : isPlainWord (toString b) := by cases b <;> simp [isPlainWord, toString]
    exact ⟨by simp [Json.Value.tokens], fun h ends _ => scans_word word h ends⟩
  | number n => cases simple
  | string str => exact ⟨by simp [Json.Value.tokens], fun h _ unended => scans_string h unended⟩
  | array items =>
    have each := items_scan items simple (level + 1)
    obtain ⟨texts, tokens, oks⟩ := itemMembers_eq (level + 1) items
    have unended := unended_of_members each
    rw [tokens] at unended
    refine ⟨by simp [Json.Value.tokens, unended], fun {s depth ts text} h _ unended => ?_⟩
    have goes := scans_bracketed .sequence each level text (by rw [texts]; exact h) unended
    rw [tokens, oks] at goes
    exact goes
  | object fields =>
    have each := fields_scan fields simple (level + 1)
    obtain ⟨texts, tokens, oks⟩ := fieldMembers_eq (level + 1) fields
    have unended := unended_of_members each
    rw [tokens] at unended
    refine ⟨by simp [Json.Value.tokens, unended], fun {s depth ts text} h _ unended => ?_⟩
    have goes := scans_bracketed .mapping each level text (by rw [texts]; exact h) unended
    rw [tokens, oks] at goes
    exact goes

/-- The tokens of simple items are read. -/
lemma items_scan (items : List Json.Value) (simple : Json.allSimple items = true) (level : Nat) :
    ∀ m ∈ itemMembers level items, m.Scans := by
  cases items with
  | nil => simp [itemMembers]
  | cons v vs =>
    simp only [Json.allSimple, Bool.and_eq_true] at simple
    have value := value_scans v simple.1 level
    exact List.forall_mem_cons.2
      ⟨⟨value.1, fun h _ ends unended => value.2 h ends unended⟩, items_scan vs simple.2 level⟩

/-- The tokens of simple fields are read. -/
lemma fields_scan (fields : List (String × Json.Value)) (simple : Json.fieldsSimple fields = true)
    (level : Nat) : ∀ m ∈ fieldMembers level fields, m.Scans := by
  match fields with
  | [] => simp [fieldMembers]
  | (key, v) :: fs =>
    simp only [Json.fieldsSimple, Bool.and_eq_true, decide_eq_true_eq] at simple
    obtain ⟨⟨⟨word, short⟩, simple⟩, others⟩ := simple
    exact List.forall_mem_cons.2
      ⟨scans_field word short (value_scans v simple level), fields_scan fs others level⟩

end

/-- Whether all characters that JSON shows of a string may stand in a YAML text. -/
def isShown (s : String) : Bool :=
  s.toList.all fun ch => decide (ch.toNat < 0x20) || isAllowed ch

/-- A character is written with characters that may stand in a YAML text, unless it is shown and may
not. -/
lemma all_escapeChar (ch : Char) :
    (Json.escapeChar ch).toList.all isAllowed = (decide (ch.toNat < 0x20) || isAllowed ch) := by
  by_cases control : ch.toNat < 0x20
  · have all : ∀ n : Fin 32, (Json.escapeChar (Char.ofNat n)).toList.all isAllowed = true := by
      decide +kernel
    have := all ⟨ch.toNat, control⟩
    simp only [Char.ofNat_toNat] at this
    simp [this, control]
  · by_cases quote : ch = '"'
    · subst quote
      decide
    · by_cases backslash : ch = '\\'
      · subst backslash
        decide
      · rw [escapeChar_of_shown (by omega) quote backslash]
        simp [control]

/-- A string is written with characters that may stand in a YAML text if those shown may. -/
lemma all_renderString (s : String) : (Json.renderString s).toList.all isAllowed = isShown s := by
  have quote : isAllowed '"' = true := by decide
  have inside (cs : List Char) : (escaped cs).all isAllowed =
      cs.all fun ch => decide (ch.toNat < 0x20) || isAllowed ch := by
    induction cs with
    | nil => rfl
    | cons ch cs ih => rw [escaped_cons, List.all_append, all_escapeChar, ih, List.all_cons]
  simp [toList_renderString, quote, inside, isShown]

/-- The letters of a word may stand in a YAML text. -/
lemma isShown_of_isWord {s : String} (h : isWord s = true) : isShown s = true := by
  unfold isWord at h
  unfold isShown
  rw [List.all_eq_true] at h ⊢
  intro ch mem
  simp [isAllowed, toNat_of_isAlphanum (h ch mem)]

/-- The layout between members may stand in a YAML text. -/
lemma all_bracketed {opening closing : String} (opens : opening.toList.all isAllowed = true)
    (closes : closing.toList.all isAllowed = true) (level : Nat) (parts : List String) :
    (Json.bracketed opening closing level parts).toList.all isAllowed =
      parts.all fun part => part.toList.all isAllowed := by
  have line (level : Nat) : (Json.newline level).toList.all isAllowed = true := by
    rw [List.all_eq_true]
    intro ch mem
    have : ch = ' ' ∨ ch = '\n' := by simpa [isBlank] using isBlank_newline level ch mem
    rcases this with rfl | rfl <;> decide
  have comma : isAllowed ',' = true := by decide
  have separated (separator : String) (fits : separator.toList.all isAllowed = true) :
      (String.intercalate separator parts).toList.all isAllowed =
        parts.all fun part => part.toList.all isAllowed := by
    induction parts with
    | nil => rfl
    | cons part parts ih =>
      cases parts with
      | nil => simp
      | cons next parts =>
        rw [String.intercalate_cons_cons]
        simp only [String.toList_append, List.all_append, fits, ih, List.all_cons]
        simp
  unfold Json.bracketed
  split
  · rename_i none
    simp [List.isEmpty_iff.1 none, opens, closes]
  · have := separated ("," ++ Json.newline (level + 1)) (by simp [comma, line])
    simp only [String.toList_append, List.all_append, opens, closes, line, this, Bool.true_and,
      Bool.and_true]

mutual

/-- The text of a simple value may be YAML if what is shown of its strings may. -/
lemma all_prettyAt (v : Json.Value) (simple : v.isSimple = true) (level : Nat) :
    (v.prettyAt level).toList.all isAllowed = v.allStrings isShown := by
  cases v with
  | null => exact (by decide : "null".toList.all isAllowed = true)
  | bool b =>
    cases b with
    | false => exact (by decide : "false".toList.all isAllowed = true)
    | true => exact (by decide : "true".toList.all isAllowed = true)
  | number n => cases simple
  | string str => exact all_renderString str
  | array items =>
    rw [Json.Value.prettyAt, all_bracketed (by decide) (by decide)]
    exact all_prettyItems items simple (level + 1)
  | object fields =>
    rw [Json.Value.prettyAt, all_bracketed (by decide) (by decide)]
    exact all_prettyFields fields simple (level + 1)

/-- The texts of simple items may be YAML if what is shown of their strings may. -/
lemma all_prettyItems (items : List Json.Value) (simple : Json.allSimple items = true)
    (level : Nat) : ((Json.prettyItems level items).all fun part => part.toList.all isAllowed) =
      Json.itemsAllStrings isShown items := by
  cases items with
  | nil => rfl
  | cons v vs =>
    simp only [Json.allSimple, Bool.and_eq_true] at simple
    rw [Json.prettyItems, List.all_cons, all_prettyAt v simple.1, all_prettyItems vs simple.2]
    rfl

/-- The texts of simple fields may be YAML if what is shown of their strings may. -/
lemma all_prettyFields (fields : List (String × Json.Value))
    (simple : Json.fieldsSimple fields = true) (level : Nat) :
    ((Json.prettyFields level fields).all fun part => part.toList.all isAllowed) =
      Json.fieldsAllStrings isShown fields := by
  match fields with
  | [] => rfl
  | (key, v) :: fs =>
    simp only [Json.fieldsSimple, Bool.and_eq_true, decide_eq_true_eq] at simple
    obtain ⟨⟨⟨word, -⟩, simple⟩, others⟩ := simple
    have colon : ": ".toList.all isAllowed = true := by decide
    rw [Json.prettyFields, List.all_cons, all_prettyFields fs others, String.toList_append,
      String.toList_append, List.all_append, List.all_append, all_renderString,
      isShown_of_isWord word, colon, all_prettyAt v simple]
    rfl

end

/-- Before the first token the scanner is free. -/
lemma stands_start (cs : List Char) :
    Scanner.Stands { cursor := .start cs, given := [.streamStart], count := 1 } 0 [.streamStart]
      cs where
  free :=
    { indent := rfl
      outer := rfl
      unfinished := rfl
      count := rfl
      optional := List.forall_mem_cons.2 ⟨rfl, by simp⟩
      ahead := List.forall_mem_cons.2 ⟨(absurd · Bool.false_ne_true), by simp⟩ }
  open_ := rfl
  tokens := rfl
  left := rfl

/-- Where tokens are read up to the end of the text they end with it; otherwise an error ends
them. -/
lemma Scanner.Goes.tokensWith {more : List Token} {ok : Bool} (h : s.Goes 0 ts more [] ok)
    {fuel : Nat} (enough : s.cursor.rest.length < fuel) :
    if ok then s.tokensWith fuel = (ts ++ (more ++ [.streamEnd]), none)
    else ∃ ts' e, s.tokensWith fuel = (ts', some e) ∧ Token.streamEnd ∉ ts' := by
  obtain ⟨-, goes⟩ := h
  cases ok with
  | true =>
    obtain ⟨s', ⟨n, shorter, reaches⟩, stands⟩ := goes
    obtain ⟨fuel, rfl⟩ : ∃ m, fuel = n + (m + 1) := ⟨fuel - n - 1, by omega⟩
    rw [if_pos rfl, reaches, stands.finish, List.append_assoc]
  | false =>
    obtain ⟨n, ts', e, shorter, unended, ends⟩ := goes
    obtain ⟨fuel, rfl⟩ : ∃ m, fuel = n + 1 + m := ⟨fuel - n - 1, by omega⟩
    exact ⟨ts', e, ends fuel, unended⟩

/-- The tokens of the text of a simple object are those of the object, if what is shown of its
strings may stand in YAML and they can be read again; otherwise an error ends them. -/
theorem tokensOf_pretty {fields : List (String × Json.Value)}
    (simple : Json.fieldsSimple fields = true) :
    if (Json.Value.object fields).allStrings isShown && (Json.Value.object fields).allStrings isLegible
    then tokensOf (Json.Value.object fields).pretty =
      (.streamStart :: ((Json.Value.object fields).tokens afresh ++ [.streamEnd]), none)
    else ∃ ts e, tokensOf (Json.Value.object fields).pretty = (ts, some e) ∧
      Token.streamEnd ∉ ts := by
  generalize text : (Json.Value.object fields).pretty = written
  have shown : written.toList.all isAllowed = (Json.Value.object fields).allStrings isShown := by
    rw [← text]
    exact all_prettyAt (.object fields) simple 0
  unfold tokensOf
  dsimp only
  rw [← shown]
  cases allowed : written.toList.all isAllowed with
  | false => exact ⟨[], .controlCharacter, by simp, by simp⟩
  | true =>
    obtain ⟨texts, tokens, oks⟩ := fieldMembers_eq 1 fields
    have laid : (Json.bracketed (String.singleton '\x7b') (String.singleton '\x7d') 0
        ((fieldMembers 1 fields).map Member.text)).toList ++ [] = written.toList := by
      rw [texts, List.append_nil, ← text]
      rfl
    have goes := scans_bracketed .mapping (fields_scan fields simple 1) 0 []
      (laid ▸ stands_start written.toList) (by simp)
    rw [laid, tokens, oks] at goes
    rw [Bool.true_and, if_pos rfl]
    exact goes.tokensWith (Nat.lt_add_of_pos_right (by decide))

end Yaml

end Pipeline
