import Pipeline.Json.Reader
import Pipeline.Proofs.Fallible

/-!
# What stands at the front of a JSON text

The grammar by which strings (`Chars`), values, items and fields (`Reads`) are read, without the
fuel that bounds their lengths and nesting. What the functions read stands there by the grammar
(`chars_of_readChars`, `reads_of_readValueWith`).
-/

namespace Pipeline.Json

/-- Characters of a string and its closing quote stand at the front of a text, and what comes after
them; `strict` asks that surrogates pair up. -/
inductive Chars (strict : Bool) : List Char → List Char → Prop where
  | close {cs} :
    Chars strict ('"' :: cs) cs
  | plain {c cs rest} :
    c ≠ '"' →
    c ≠ '\\' →
    ¬ c.toNat < 0x20 →
    Chars strict cs rest →
    Chars strict (c :: cs) rest
  | letter {e x cs rest} :
    letterEscape? e = some x →
    Chars strict cs rest →
    Chars strict ('\\' :: e :: cs) rest
  | code {x cs cs' rest} :
    readCodeEscape strict cs = .ok (x, cs') →
    Chars strict cs' rest →
    Chars strict ('\\' :: 'u' :: cs) rest

/-- Names, by their first letter and the others, and the values that they stand for. -/
inductive Named : Char → List Char → Value → Prop where
  | null :
    Named 'n' ['u', 'l', 'l'] .null
  | true :
    Named 't' ['r', 'u', 'e'] (.bool true)
  | false :
    Named 'f' ['a', 'l', 's', 'e'] (.bool false)

/-- What can stand at the front of a text. -/
inductive Part where
  | value (v : Value)
  /-- The items of a list and its end. -/
  | items (vs : List Value)
  /-- The fields of an object and its end. -/
  | fields (fs : List (String × Value))

/-- A part stands at the front of a text, and what comes after it. -/
inductive Reads : List Char → Part → List Char → Prop where
  | name {cs c letters v rest rest'} :
    Named c letters v →
    skipSpace cs = c :: rest →
    readName letters rest = .ok rest' →
    Reads cs (.value v) rest'
  | string {cs s rest rest'} :
    skipSpace cs = '"' :: rest →
    readString rest = .ok (s, rest') →
    Reads cs (.value (.string s)) rest'
  | negative {cs t n rest rest'} :
    skipSpace cs = '-' :: rest →
    scanNumber .eofInValue rest = .ok (t, rest') →
    t.value true = .ok n →
    Reads cs (.value (.number n)) rest'
  | natural {cs c t n rest rest'} :
    skipSpace cs = c :: rest →
    c.isDigit = true →
    scanNumber .eofInValue (c :: rest) = .ok (t, rest') →
    t.value false = .ok n →
    Reads cs (.value (.number n)) rest'
  | emptyArray {cs rest rest'} :
    skipSpace cs = '[' :: rest →
    skipSpace rest = ']' :: rest' →
    Reads cs (.value (.array [])) rest'
  | array {cs vs rest rest'} :
    skipSpace cs = '[' :: rest →
    Reads (skipSpace rest) (.items vs) rest' →
    Reads cs (.value (.array vs)) rest'
  | emptyObject {cs rest rest'} :
    skipSpace cs = '\x7b' :: rest →
    skipSpace rest = '\x7d' :: rest' →
    Reads cs (.value (.object [])) rest'
  | object {cs fs rest rest'} :
    skipSpace cs = '\x7b' :: rest →
    Reads (skipSpace rest) (.fields fs) rest' →
    Reads cs (.value (.object fs)) rest'
  | lastItem {cs v rest rest'} :
    Reads cs (.value v) rest →
    skipSpace rest = ']' :: rest' →
    Reads cs (.items [v]) rest'
  | moreItems {cs v vs rest rest' rest''} :
    Reads cs (.value v) rest →
    skipSpace rest = ',' :: rest' →
    Reads (skipSpace rest') (.items vs) rest'' →
    Reads cs (.items (v :: vs)) rest''
  | lastField {cs key v afterQuote afterKey afterColon rest rest'} :
    skipSpace cs = '"' :: afterQuote →
    readString afterQuote = .ok (key, afterKey) →
    readColon afterKey = .ok afterColon →
    Reads afterColon (.value v) rest →
    skipSpace rest = '\x7d' :: rest' →
    Reads cs (.fields [(key, v)]) rest'
  | moreFields {cs key v fs afterQuote afterKey afterColon rest rest' rest''} :
    skipSpace cs = '"' :: afterQuote →
    readString afterQuote = .ok (key, afterKey) →
    readColon afterKey = .ok afterColon →
    Reads afterColon (.value v) rest →
    skipSpace rest = ',' :: rest' →
    Reads (skipSpace rest') (.fields fs) rest'' →
    Reads cs (.fields ((key, v) :: fs)) rest''

/-- The characters that are read with any fuel stand at the front. -/
lemma chars_of_readChars {strict : Bool} {fuel : Nat} {acc cs rest : List Char} {s : String}
    (h : readChars strict fuel acc cs = .ok (s, rest)) : Chars strict cs rest := by
  induction fuel generalizing acc cs with
  | zero => cases h
  | succ fuel ih =>
    unfold readChars at h
    split at h
    case h_1 => cases h
    case h_2 => cases h
    case h_3 _ c cs same =>
      cases same
      split at h
      case isTrue quote =>
        cases h
        exact quote ▸ .close
      split at h
      case isTrue escape =>
        subst escape
        split at h
        case h_1 => cases h
        split at h
        case h_1 letter => exact .letter letter (ih h)
        split at h
        case isTrue code =>
          obtain ⟨_, read, h⟩ := bind_eq_ok h
          exact code ▸ .code read (ih h)
        case isFalse => cases h
      case isFalse notQuote notEscape =>
        split at h
        case isTrue => cases h
        case isFalse notControl => exact .plain notQuote notEscape notControl (ih h)

/-- A value that is read with some fuel stands at the front, if what is read with less fuel does. -/
lemma reads_of_readValueWith_succ {fuel : Nat}
    (items : ∀ cs vs rest, readItems fuel cs = .ok (vs, rest) → Reads cs (.items vs) rest)
    (fields : ∀ cs fs rest, readFields fuel cs = .ok (fs, rest) → Reads cs (.fields fs) rest)
    (cs : List Char) (v : Value) (rest : List Char)
    (h : readValueWith (fuel + 1) cs = .ok (v, rest)) : Reads cs (.value v) rest := by
  rw [readValueWith] at h
  split at h
  case h_1 => cases h
  case h_2 c text front =>
    have name {letters : List Char} {v' : Value} (named : Named c letters v')
        (h : (readName letters text).map (fun rest => (v', rest)) = .ok (v, rest)) :
        Reads cs (.value v) rest := by
      obtain ⟨_, read, same⟩ := map_eq_ok h
      cases same
      exact .name named front read
    split at h
    case isTrue here => exact name (here ▸ .null) h
    split at h
    case isTrue here => exact name (here ▸ .true) h
    split at h
    case isTrue here => exact name (here ▸ .false) h
    split at h
    case isTrue here =>
      obtain ⟨_, read, same⟩ := map_eq_ok h
      cases same
      exact .string (here ▸ front) read
    split at h
    case isTrue here =>
      obtain ⟨_, scanned, h⟩ := bind_eq_ok h
      obtain ⟨_, value, h⟩ := bind_eq_ok h
      cases h
      exact .negative (here ▸ front) scanned value
    split at h
    case isTrue digit =>
      obtain ⟨_, scanned, h⟩ := bind_eq_ok h
      obtain ⟨_, value, h⟩ := bind_eq_ok h
      cases h
      exact .natural front digit scanned value
    split at h
    case isTrue here =>
      subst here
      split at h
      case h_1 close =>
        cases h
        exact .emptyArray front close
      case h_2 => cases h
      case h_3 =>
        obtain ⟨_, read, same⟩ := map_eq_ok h
        cases same
        exact .array front (items _ _ _ read)
    split at h
    case isTrue here =>
      subst here
      split at h
      case h_1 close =>
        cases h
        exact .emptyObject front close
      case h_2 =>
        obtain ⟨_, read, same⟩ := map_eq_ok h
        cases same
        exact .object front (fields _ _ _ read)
    cases h

/-- Items that are read with some fuel stand at the front, if what is read with less fuel does. -/
lemma reads_of_readItems_succ {fuel : Nat}
    (value : ∀ cs v rest, readValueWith fuel cs = .ok (v, rest) → Reads cs (.value v) rest)
    (items : ∀ cs vs rest, readItems fuel cs = .ok (vs, rest) → Reads cs (.items vs) rest)
    (cs : List Char) (vs : List Value) (rest : List Char)
    (h : readItems (fuel + 1) cs = .ok (vs, rest)) : Reads cs (.items vs) rest := by
  rw [readItems] at h
  obtain ⟨⟨v, afterValue⟩, read, h⟩ := bind_eq_ok h
  have first := value _ _ _ read
  simp only at h
  split at h
  case h_1 comma =>
    split at h
    case h_1 => cases h
    case h_2 =>
      obtain ⟨_, more, same⟩ := map_eq_ok h
      cases same
      exact .moreItems first comma (items _ _ _ more)
  case h_2 close =>
    cases h
    exact .lastItem first close
  all_goals cases h

/-- Fields that are read with some fuel stand at the front, if what is read with less fuel does. -/
lemma reads_of_readFields_succ {fuel : Nat}
    (value : ∀ cs v rest, readValueWith fuel cs = .ok (v, rest) → Reads cs (.value v) rest)
    (fields : ∀ cs fs rest, readFields fuel cs = .ok (fs, rest) → Reads cs (.fields fs) rest)
    (cs : List Char) (fs : List (String × Value)) (rest : List Char)
    (h : readFields (fuel + 1) cs = .ok (fs, rest)) : Reads cs (.fields fs) rest := by
  rw [readFields] at h
  split at h
  case h_1 afterQuote front =>
    obtain ⟨⟨key, afterKey⟩, keyRead, h⟩ := bind_eq_ok h
    obtain ⟨afterColon, colon, h⟩ := bind_eq_ok h
    obtain ⟨⟨v, afterValue⟩, read, h⟩ := bind_eq_ok h
    have first := value _ _ _ read
    simp only at h
    split at h
    case h_1 comma =>
      split at h
      case h_1 | h_2 => cases h
      case h_3 =>
        obtain ⟨_, more, same⟩ := map_eq_ok h
        cases same
        exact .moreFields front keyRead colon first comma (fields _ _ _ more)
    case h_2 close =>
      cases h
      exact .lastField front keyRead colon first close
    all_goals cases h
  all_goals cases h

/-- Values, items and fields that are read with any fuel stand at the front. -/
lemma reads_of_fuel (fuel : Nat) :
    (∀ cs v rest, readValueWith fuel cs = .ok (v, rest) → Reads cs (.value v) rest) ∧
      (∀ cs vs rest, readItems fuel cs = .ok (vs, rest) → Reads cs (.items vs) rest) ∧
      ∀ cs fs rest, readFields fuel cs = .ok (fs, rest) → Reads cs (.fields fs) rest := by
  induction fuel with
  | zero =>
    refine ⟨fun _ _ _ h => ?_, fun _ _ _ h => ?_, fun _ _ _ h => ?_⟩
    · cases h
    · cases h
    · cases h
  | succ fuel ih =>
    obtain ⟨value, items, fields⟩ := ih
    exact ⟨reads_of_readValueWith_succ items fields, reads_of_readItems_succ value items,
      reads_of_readFields_succ value fields⟩

/-- A value that is read stands at the front. -/
lemma reads_of_readValueWith {fuel : Nat} {cs rest : List Char} {v : Value}
    (h : readValueWith fuel cs = .ok (v, rest)) : Reads cs (.value v) rest :=
  (reads_of_fuel fuel).1 cs v rest h

end Pipeline.Json
