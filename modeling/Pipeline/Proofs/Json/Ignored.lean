import Mathlib.Data.List.DropRight
import Mathlib.Data.List.TakeWhile
import Mathlib.Order.Basic
import Pipeline.Proofs.Json.Reading

/-!
# Values that are only checked

A value that can be read can be ignored, and what comes after it is the same
(`Reads.ignoreValue_eq`). Those who ignore a value ask for less: surrogates need not pair up, and
numbers need not have a value. The fuel is enough since all that stands at the front of a text takes
something off it (`Reads.length_lt`).
-/

namespace Pipeline.Json

variable {cs rest : List Char}

/-! ### What is taken off -/

/-- Blanks at the front are skipped at once. -/
@[simp] lemma skipSpace_skipSpace (cs : List Char) : skipSpace (skipSpace cs) = skipSpace cs :=
  List.dropWhile_idempotent _ cs

/-- What comes after the first character that is not blank is shorter than the text. -/
lemma length_lt_of_skipSpace {c : Char} (h : skipSpace cs = c :: rest) :
    rest.length < cs.length := by
  have le : (skipSpace cs).length ≤ cs.length := List.length_dropWhile_le ..
  rw [h] at le
  exact le

/-- What comes after a name is not longer than the text. -/
lemma length_le_of_readName {letters : List Char} (h : readName letters cs = .ok rest) :
    rest.length ≤ cs.length := by
  induction letters generalizing cs with
  | nil =>
    cases h
    exact le_rfl
  | cons e letters ih =>
    cases cs with
    | nil => cases h
    | cons c cs =>
      rw [readName] at h
      split at h
      · exact (ih h).trans (Nat.le_succ _)
      · cases h

/-- What comes after a colon is shorter than the text. -/
lemma length_lt_of_readColon (h : readColon cs = .ok rest) : rest.length < cs.length := by
  unfold readColon at h
  split at h
  case h_1 colon =>
    cases h
    exact length_lt_of_skipSpace colon
  all_goals cases h

/-- Four hexadecimal digits are four characters. -/
lemma length_of_readFourHex {n : Nat} (h : readFourHex cs = .ok (n, rest)) :
    rest.length + 4 = cs.length := by
  unfold readFourHex at h
  split at h
  · split at h
    · cases h
      rfl
    · cases h
  · split at h <;> cases h

/-- An escape by code is one of four digits, or two of surrogates that pair up. -/
lemma readCodeEscape_cases {strict : Bool} {x : Char}
    (h : readCodeEscape strict cs = .ok (x, rest)) :
    (∃ n, readFourHex cs = .ok (n, rest)) ∨
      ∃ n m cs', readFourHex cs = .ok (n, '\\' :: 'u' :: cs') ∧ readFourHex cs' = .ok (m, rest) := by
  unfold readCodeEscape at h
  obtain ⟨⟨n, cs'⟩, first, h⟩ := bind_eq_ok h
  simp only at h
  split at h
  · cases h
    exact .inl ⟨n, first⟩
  split at h
  · cases h
  split at h
  · cases h
    exact .inl ⟨n, first⟩
  split at h
  case h_3 =>
    obtain ⟨⟨m, _⟩, second, h⟩ := bind_eq_ok h
    simp only at h
    split at h
    · cases h
    · obtain ⟨-, rfl⟩ := Prod.mk.inj (Except.ok.inj h)
      exact .inr ⟨n, m, _, first, second⟩
  all_goals cases h

/-- What comes after an escape by code is shorter than the text. -/
lemma length_lt_of_readCodeEscape {strict : Bool} {x : Char}
    (h : readCodeEscape strict cs = .ok (x, rest)) : rest.length < cs.length := by
  rcases readCodeEscape_cases h with ⟨n, one⟩ | ⟨n, m, cs', first, second⟩
  · have := length_of_readFourHex one
    omega
  · have := length_of_readFourHex first
    have := length_of_readFourHex second
    simp only [List.length_cons] at *
    omega

/-- What comes after the characters of a string is shorter than the text. -/
lemma Chars.length_lt {strict : Bool} (h : Chars strict cs rest) : rest.length < cs.length := by
  induction h with
  | close => exact Nat.lt_succ_self _
  | plain _ _ _ _ ih => exact Nat.lt_succ_of_lt ih
  | letter _ _ ih => exact Nat.lt_succ_of_lt (Nat.lt_succ_of_lt ih)
  | code read _ ih =>
    have shorter := length_lt_of_readCodeEscape read
    exact Nat.lt_succ_of_lt (Nat.lt_succ_of_lt (ih.trans shorter))

/-- What comes after a string is shorter than the text. -/
lemma length_lt_of_readString {s : String} (h : readString cs = .ok (s, rest)) :
    rest.length < cs.length :=
  (chars_of_readChars h).length_lt

/-! ### Numbers

Which error is given for a text that stops inside of a number does not matter to one that does not.
-/

/-- Some digits are taken off, whatever the error were. -/
lemma someDigits_eq_ok {e : Error} {ds : List Char} (h : someDigits e cs = .ok (ds, rest)) :
    rest.length < cs.length ∧ ∀ e', someDigits e' cs = .ok (ds, rest) := by
  have all : (spanDigits cs).1 ++ (spanDigits cs).2 = cs := List.takeWhile_append_dropWhile
  have total := congrArg List.length all
  rw [List.length_append] at total
  unfold someDigits at h ⊢
  split at h
  case h_1 => cases h
  case h_2 => cases h
  case h_3 stopped absent span =>
    cases h
    have some : 0 < ds.length := List.length_pos_iff.2 fun none => by
      cases rest with
      | nil => exact stopped none rfl
      | cons c rest => exact absent c rest none rfl
    simp only [span] at total
    exact ⟨by omega, fun _ => rfl⟩

/-- The digits before the point are taken off, whatever the error were. -/
lemma scanWhole_eq_ok {e : Error} {ds : List Char} (h : scanWhole e cs = .ok (ds, rest)) :
    rest.length < cs.length ∧ ∀ e', scanWhole e' cs = .ok (ds, rest) := by
  unfold scanWhole at h ⊢
  split at h
  case h_1 =>
    split at h
    case h_1 =>
      split at h
      case isTrue => cases h
      case isFalse notDigit =>
        cases h
        exact ⟨Nat.lt_succ_self _, fun _ => if_neg notDigit⟩
    case h_2 =>
      cases h
      exact ⟨Nat.lt_succ_self _, fun _ => rfl⟩
  case h_2 => exact someDigits_eq_ok h

/-- A fraction is taken off, whatever the error were. -/
lemma scanFraction_eq_ok {e : Error} {ds : Option (List Char)}
    (h : scanFraction e cs = .ok (ds, rest)) :
    rest.length ≤ cs.length ∧ ∀ e', scanFraction e' cs = .ok (ds, rest) := by
  unfold scanFraction at h ⊢
  split at h
  case h_1 =>
    obtain ⟨_, digits, same⟩ := map_eq_ok h
    cases same
    obtain ⟨shorter, again⟩ := someDigits_eq_ok digits
    exact ⟨Nat.le_succ_of_le shorter.le, fun e' => by rw [again e']; rfl⟩
  case h_2 =>
    cases h
    exact ⟨le_rfl, fun _ => rfl⟩

/-- An exponent is taken off, whatever the error were. -/
lemma scanExponent_eq_ok {e : Error} {ds : Option (Bool × List Char)}
    (h : scanExponent e cs = .ok (ds, rest)) :
    rest.length ≤ cs.length ∧ ∀ e', scanExponent e' cs = .ok (ds, rest) := by
  unfold scanExponent at h ⊢
  cases cs with
  | nil =>
    cases h
    exact ⟨le_rfl, fun _ => rfl⟩
  | cons c cs =>
    simp only at h ⊢
    split at h
    case isTrue letter =>
      simp only [if_pos letter]
      obtain ⟨_, digits, same⟩ := map_eq_ok h
      cases same
      obtain ⟨shorter, again⟩ := someDigits_eq_ok digits
      refine ⟨?_, fun e' => by rw [again e']; rfl⟩
      refine Nat.le_succ_of_le (shorter.le.trans ?_)
      split <;> simp
    case isFalse notLetter =>
      simp only [if_neg notLetter]
      cases h
      exact ⟨le_rfl, fun _ => rfl⟩

/-- A number is taken off, whatever the error were. -/
lemma scanNumber_eq_ok {e : Error} {t : NumberText} (h : scanNumber e cs = .ok (t, rest)) :
    rest.length < cs.length ∧ ∀ e', scanNumber e' cs = .ok (t, rest) := by
  obtain ⟨_, whole, h⟩ := bind_eq_ok h
  obtain ⟨_, fraction, h⟩ := bind_eq_ok h
  obtain ⟨_, exponent, h⟩ := bind_eq_ok h
  cases h
  obtain ⟨first, whole⟩ := scanWhole_eq_ok whole
  obtain ⟨second, fraction⟩ := scanFraction_eq_ok fraction
  obtain ⟨third, exponent⟩ := scanExponent_eq_ok exponent
  refine ⟨(third.trans second).trans_lt first, fun e' => ?_⟩
  simp only [scanNumber, whole e', fraction e', exponent e', bind, Except.bind]

/-! ### Ignoring -/

/-- What stands after blanks at the front takes something off. -/
lemma length_lt_of_after (cs : List Char) (h : rest.length < (skipSpace cs).length) :
    rest.length < cs.length := by
  have le : (skipSpace cs).length ≤ cs.length := List.length_dropWhile_le ..
  omega

/-- What stands at the front takes something off. -/
lemma Reads.length_lt {part : Part} (h : Reads cs part rest) : rest.length < cs.length := by
  induction h with
  | name _ front name =>
    exact (length_le_of_readName name).trans_lt (length_lt_of_skipSpace front)
  | string front string =>
    exact (length_lt_of_readString string).trans (length_lt_of_skipSpace front)
  | negative front number _ =>
    exact (scanNumber_eq_ok number).1.trans (length_lt_of_skipSpace front)
  | natural front _ number _ =>
    have shorter := (scanNumber_eq_ok number).1
    exact length_lt_of_after _ (front ▸ shorter)
  | emptyArray front close | emptyObject front close =>
    exact (length_lt_of_skipSpace close).trans (length_lt_of_skipSpace front)
  | array front _ ih | object front _ ih =>
    exact (length_lt_of_after _ ih).trans (length_lt_of_skipSpace front)
  | lastItem _ close ih =>
    exact (length_lt_of_skipSpace close).trans ih
  | moreItems _ comma _ ih ih' =>
    exact ((length_lt_of_after _ ih').trans (length_lt_of_skipSpace comma)).trans ih
  | lastField front key colon _ close ih =>
    have beforeValue := (length_lt_of_readColon colon).trans (length_lt_of_readString key)
    exact (((length_lt_of_skipSpace close).trans ih).trans beforeValue).trans
      (length_lt_of_skipSpace front)
  | moreFields front key colon _ comma _ ih ih' =>
    have beforeValue := (length_lt_of_readColon colon).trans (length_lt_of_readString key)
    have afterValue := (length_lt_of_after _ ih').trans (length_lt_of_skipSpace comma)
    exact ((afterValue.trans ih).trans beforeValue).trans (length_lt_of_skipSpace front)

/-- Surrogates that pair up are two characters to one who does not ask. -/
lemma Chars.lenient (h : Chars true cs rest) : Chars false cs rest := by
  have single {cs cs' : List Char} {n : Nat} (digits : readFourHex cs = .ok (n, cs')) :
      readCodeEscape false cs = .ok (Char.ofNat n, cs') := by
    rw [readCodeEscape, digits]
    rfl
  induction h with
  | close => exact .close
  | plain notQuote notEscape notControl _ ih => exact .plain notQuote notEscape notControl ih
  | letter letter _ ih => exact .letter letter ih
  | code read _ ih =>
    -- the second half of a pair is an escape of its own to one who does not ask
    rcases readCodeEscape_cases read with ⟨n, one⟩ | ⟨n, m, cs', first, second⟩
    · exact .code (single one) ih
    · exact .code (single first) (.code (single second) ih)

/-- The characters at the front are read with enough fuel. -/
lemma Chars.readChars_eq_ok {strict : Bool} (h : Chars strict cs rest) {fuel : Nat}
    (enough : cs.length < fuel) (acc : List Char) :
    ∃ s, readChars strict fuel acc cs = .ok (s, rest) := by
  induction fuel generalizing cs acc with
  | zero => cases enough
  | succ fuel ih =>
    unfold readChars
    cases h with
    | close => exact ⟨_, rfl⟩
    | plain notQuote notEscape notControl more =>
      simp only [notQuote, notEscape, notControl, if_false]
      exact ih more (Nat.lt_of_succ_lt_succ enough) _
    | letter letter more =>
      simp only [List.length_cons] at enough
      simp only [letter]
      exact ih more (by omega) _
    | code read more =>
      have shorter := length_lt_of_readCodeEscape read
      have notLetter : letterEscape? 'u' = none := rfl
      simp only [List.length_cons] at enough
      simp only [notLetter, read, bind, Except.bind]
      exact ih more (by omega) _

/-- A string that can be read can be ignored. -/
lemma ignoreString_eq {s : String} (h : readString cs = .ok (s, rest)) :
    ignoreString cs = .ok rest := by
  obtain ⟨_, read⟩ := (chars_of_readChars h).lenient.readChars_eq_ok (Nat.lt_succ_self _) []
  rw [ignoreString, read]
  rfl

/-- A value does not begin with a closing bracket. -/
lemma Reads.front_value {v : Value} (h : Reads cs (.value v) rest) :
    ∃ c text, skipSpace cs = c :: text ∧ c ≠ ']' := by
  cases h with
  | name named front =>
    refine ⟨_, _, front, ?_⟩
    rintro rfl
    cases named
  | natural front digit =>
    refine ⟨_, _, front, ?_⟩
    rintro rfl
    exact absurd digit (by decide)
  | string front | negative front | emptyArray front | array front | emptyObject front
  | object front => exact ⟨_, _, front, by decide⟩

/-- Items do not begin with a closing bracket. -/
lemma Reads.front_items {vs : List Value} (h : Reads cs (.items vs) rest) :
    ∃ c text, skipSpace cs = c :: text ∧ c ≠ ']' := by
  cases h with
  | lastItem first => exact first.front_value
  | moreItems first => exact first.front_value

/-- Fields begin with a quote. -/
lemma Reads.front_fields {fs : List (String × Value)} (h : Reads cs (.fields fs) rest) :
    ∃ text, skipSpace cs = '"' :: text := by
  cases h with
  | lastField front => exact ⟨_, front⟩
  | moreFields front => exact ⟨_, front⟩

/-- The text after a part that is only checked. -/
def Part.ignoreWith (fuel : Nat) (cs : List Char) : Part → Except Error (List Char)
  | .value _ => ignoreValueWith fuel cs
  | .items _ => ignoreItems fuel cs
  | .fields _ => ignoreFields fuel cs

/-- How much fuel is enough for ignoring a part: the items of a list pass on all their fuel but one
to an item that begins where they do. -/
def Part.fuel (cs : List Char) : Part → Nat
  | .value _ => 2 * cs.length + 1
  | .items _ => 2 * cs.length + 2
  | .fields _ => 2 * cs.length + 1

/-- Blanks at the front do not matter. -/
@[simp] lemma Part.ignoreWith_skipSpace (fuel : Nat) (cs : List Char) (part : Part) :
    part.ignoreWith fuel (skipSpace cs) = part.ignoreWith fuel cs := by
  have value (fuel : Nat) : ignoreValueWith fuel (skipSpace cs) = ignoreValueWith fuel cs := by
    cases fuel with
    | zero => rfl
    | succ fuel => simp only [ignoreValueWith, skipSpace_skipSpace]
  cases part with
  | value v => exact value fuel
  | items vs =>
    cases fuel with
    | zero => rfl
    | succ fuel => simp only [Part.ignoreWith, ignoreItems, value]
  | fields fs =>
    cases fuel with
    | zero => rfl
    | succ fuel => simp only [Part.ignoreWith, ignoreFields, skipSpace_skipSpace]

/-- No more fuel is needed without the blanks at the front. -/
lemma Part.fuel_skipSpace_le (cs : List Char) (part : Part) :
    part.fuel (skipSpace cs) ≤ part.fuel cs := by
  have le : (skipSpace cs).length ≤ cs.length := List.length_dropWhile_le ..
  cases part <;> simp only [Part.fuel] <;> omega

/-- A part can be ignored with this fuel, wherever it stands, if the fuel is enough for it. -/
def IgnoredWith (fuel : Nat) : Prop :=
  ∀ {cs rest : List Char} {part : Part}, Reads cs part rest → part.fuel cs ≤ fuel →
    part.ignoreWith fuel cs = .ok rest

section

variable {fuel : Nat}

/-- A part after blanks can be ignored with the blanks. -/
lemma IgnoredWith.afterSpace (ih : IgnoredWith fuel) {part : Part}
    (h : Reads (skipSpace cs) part rest) (enough : part.fuel cs ≤ fuel) :
    part.ignoreWith fuel cs = .ok rest := by
  have ignored := ih h ((part.fuel_skipSpace_le cs).trans enough)
  rwa [Part.ignoreWith_skipSpace] at ignored

/-- A value can be ignored with some fuel, if its items or fields can be with less. -/
lemma IgnoredWith.value (ih : IgnoredWith fuel) {v : Value} (h : Reads cs (.value v) rest)
    (enough : 2 * cs.length ≤ fuel) : ignoreValueWith (fuel + 1) cs = .ok rest := by
  cases h with
  | name named front name =>
    simp only [ignoreValueWith, front]
    cases named <;> exact name
  | string front string =>
    simp only [ignoreValueWith, front]
    exact ignoreString_eq string
  | negative front number _ =>
    simp only [ignoreValueWith, front, (scanNumber_eq_ok number).2 .invalidNumber]
    rfl
  | @natural _ c _ _ _ _ front digit number _ =>
    -- a digit is none of the letters and signs that are tried before it
    have differs (x : Char) (other : x.isDigit = false) : c ≠ x := by
      rintro rfl
      cases digit.symm.trans other
    simp only [ignoreValueWith, front, (scanNumber_eq_ok number).2 .invalidNumber]
    rw [if_neg (differs 'n' rfl), if_neg (differs 't' rfl), if_neg (differs 'f' rfl),
      if_neg (differs '"' rfl), if_neg (differs '-' rfl), if_pos digit]
    rfl
  | emptyArray front close =>
    simp only [ignoreValueWith, front, close]
    rfl
  | emptyObject front close =>
    simp only [ignoreValueWith, front, close]
    rfl
  | @array _ vs text _ front more =>
    have := length_lt_of_skipSpace front
    have ignored := ih more (((Part.items vs).fuel_skipSpace_le text).trans
      (by simp only [Part.fuel]; omega))
    obtain ⟨c, _, there, notClose⟩ := more.front_items
    rw [skipSpace_skipSpace] at there
    rw [there] at ignored
    have notDigit : '['.isDigit = false := rfl
    simp only [ignoreValueWith, front, there, notDigit, Char.reduceEq, Bool.false_eq_true, if_false,
      if_true]
    split
    case h_1 same => exact absurd (List.cons.inj same).1 notClose
    case h_2 => cases ‹_›
    case h_3 => exact ignored
  | @object _ fs text _ front more =>
    have := length_lt_of_skipSpace front
    have ignored := ih more (((Part.fields fs).fuel_skipSpace_le text).trans
      (by simp only [Part.fuel]; omega))
    obtain ⟨_, there⟩ := more.front_fields
    rw [skipSpace_skipSpace] at there
    rw [there] at ignored
    simp only [ignoreValueWith, front, there]
    exact ignored

/-- Items can be ignored with some fuel, if each of them can be with less. -/
lemma IgnoredWith.items (ih : IgnoredWith fuel) {vs : List Value} (h : Reads cs (.items vs) rest)
    (enough : 2 * cs.length + 1 ≤ fuel) : ignoreItems (fuel + 1) cs = .ok rest := by
  cases h with
  | lastItem first close =>
    have ignored : ignoreValueWith fuel cs = .ok _ := ih first enough
    simp only [ignoreItems, ignored, close, bind, Except.bind]
  | moreItems first comma more =>
    have ignored : ignoreValueWith fuel cs = .ok _ := ih first enough
    have := first.length_lt
    have := length_lt_of_skipSpace comma
    simp only [ignoreItems, ignored, comma, bind, Except.bind]
    exact ih.afterSpace more (by simp only [Part.fuel]; omega)

/-- Fields can be ignored with some fuel, if the value of each of them can be with less. -/
lemma IgnoredWith.fields (ih : IgnoredWith fuel) {fs : List (String × Value)}
    (h : Reads cs (.fields fs) rest) (enough : 2 * cs.length ≤ fuel) :
    ignoreFields (fuel + 1) cs = .ok rest := by
  cases h with
  | @lastField _ _ _ _ _ text _ _ front key colon first close =>
    have := length_lt_of_skipSpace front
    have := length_lt_of_readString key
    have := length_lt_of_readColon colon
    have ignored : ignoreValueWith fuel text = .ok _ :=
      ih first (by simp only [Part.fuel]; omega)
    simp only [ignoreFields, front, ignoreString_eq key, colon, ignored, close, bind, Except.bind]
  | @moreFields _ _ _ _ _ _ text _ _ _ front key colon first comma more =>
    have := length_lt_of_skipSpace front
    have := length_lt_of_readString key
    have := length_lt_of_readColon colon
    have := first.length_lt
    have := length_lt_of_skipSpace comma
    have ignored : ignoreValueWith fuel text = .ok _ :=
      ih first (by simp only [Part.fuel]; omega)
    simp only [ignoreFields, front, ignoreString_eq key, colon, ignored, comma, bind, Except.bind]
    exact ih.afterSpace more (by simp only [Part.fuel]; omega)

end

/-- What stands at the front can be ignored with enough fuel. -/
lemma ignoredWith (fuel : Nat) : IgnoredWith fuel := by
  induction fuel with
  | zero =>
    intro cs rest part _ enough
    cases part <;> cases enough
  | succ fuel ih =>
    intro cs rest part h enough
    cases part with
    | value v => exact ih.value h (Nat.le_of_succ_le_succ enough)
    | items vs => exact ih.items h (Nat.le_of_succ_le_succ enough)
    | fields fs => exact ih.fields h (Nat.le_of_succ_le_succ enough)

/-- A value that stands at the front can be ignored. -/
lemma Reads.ignoreValue_eq {v : Value} (h : Reads cs (.value v) rest) :
    ignoreValue cs = .ok rest :=
  ignoredWith _ h (Nat.le_succ _)

end Pipeline.Json
