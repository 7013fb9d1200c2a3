import Pipeline.Manifest
import Pipeline.Proofs.Json.Ignored

/-!
# The scripts of a manifest as a JSON value

A manifest is read piece by piece and never becomes a JSON value. Where its text is one of a JSON
value, that value decides whether the text is a manifest and which scripts it has
(`scriptsOf_eq_ok_iff`): exactly one field is called `scripts`, all of whose fields are strings, or
none is. One field of another type is enough for the whole text to be refused.
-/

namespace Pipeline.Manifest

open Json

/-- The JSON value of scripts. -/
def scriptMap (scripts : Scripts) : Value :=
  .object (scripts.map fun s => (s.1, .string s.2))

/-- Whether a field is the one that holds the scripts. -/
def isScripts (f : String × Value) : Bool :=
  f.1 == "scripts"

/-- A JSON value is a manifest with some scripts. -/
inductive Declares : Value → Scripts → Prop where
  | scripts {fields scripts} :
    fields.filter isScripts = [("scripts", scriptMap scripts)] →
    Declares (.object fields) scripts
  | absent {fields} :
    fields.filter isScripts = [] →
    Declares (.object fields) []
  | item {scripts} :
    Declares (.array [scriptMap scripts]) scripts
  | empty :
    Declares (.array []) []

/-- The last of the scripts with a name has a command. -/
def LastFor (scripts : Scripts) (name command : String) : Prop :=
  ∃ before after, scripts = before ++ (name, command) :: after ∧ ∀ s ∈ after, s.1 ≠ name

/-- The command of a script is that of the last one with its name. -/
lemma command?_eq_some_iff {scripts : Scripts} {name command : String} :
    command? scripts name = some command ↔ LastFor scripts name command := by
  rw [command?, Option.map_eq_some_iff]
  constructor
  · rintro ⟨⟨_, _⟩, found, rfl⟩
    obtain ⟨named, after, before, same, others⟩ := List.find?_eq_some_iff_append.1 found
    refine ⟨before.reverse, after.reverse, ?_, ?_⟩
    · rw [← eq_of_beq named, List.reverse_eq_iff.1 same]
      simp
    · simpa using others
  · rintro ⟨before, after, rfl, others⟩
    refine ⟨(name, command), ?_, rfl⟩
    refine List.find?_eq_some_iff_append.2
      ⟨beq_self_eq_true name, after.reverse, before.reverse, ?_, ?_⟩
    · simp
    · simpa using others

/-- The fields of an object from the next key on, as a manifest is read. -/
inductive Entries : Bool → List Char → List (String × Value) → List Char → Prop where
  | close {first cs rest} :
    nextKey first cs = .ok (.inr rest) →
    Entries first cs [] rest
  | entry {first cs key v fs afterQuote afterKey afterColon afterValue rest} :
    nextKey first cs = .ok (.inl afterQuote) →
    readString afterQuote = .ok (key, afterKey) →
    readColon afterKey = .ok afterColon →
    Reads afterColon (.value v) afterValue →
    Entries false afterValue fs rest →
    Entries first cs ((key, v) :: fs) rest

/-- The values that are not made up of others or of characters. -/
def isAtom : Value → Bool
  | .null | .bool _ | .number _ => true
  | .string _ | .array _ | .object _ => false

/-- The text after the first character of a value holds the rest of it. -/
inductive Opens : Char → List Char → Value → List Char → Prop where
  | string {text s rest} :
    readString text = .ok (s, rest) →
    Opens '"' text (.string s) rest
  | emptyArray {text rest} :
    skipSpace text = ']' :: rest →
    Opens '[' text (.array []) rest
  | array {text vs rest} :
    Reads (skipSpace text) (.items vs) rest →
    Opens '[' text (.array vs) rest
  | object {text fs rest} :
    Entries true text fs rest →
    Opens '\x7b' text (.object fs) rest
  | atom {c text v rest} :
    isAtom v = true →
    c ≠ '"' →
    c ≠ '[' →
    c ≠ '\x7b' →
    Opens c text v rest

section

variable {cs rest : List Char}

/-- The closing bracket comes instead of a key. -/
lemma nextKey_close (first : Bool) (h : skipSpace cs = '\x7d' :: rest) :
    nextKey first cs = .ok (.inr rest) := by
  simp only [nextKey, h]

/-- The first key comes at once. -/
lemma nextKey_first (h : skipSpace cs = '"' :: rest) : nextKey true cs = .ok (.inl rest) := by
  rw [nextKey, h]
  rfl

/-- Another key comes after a comma. -/
lemma nextKey_comma {text : List Char} (h : skipSpace cs = ',' :: text)
    (h' : skipSpace text = '"' :: rest) : nextKey false cs = .ok (.inl rest) := by
  rw [nextKey, h]
  split
  case h_1 same => cases same
  case h_2 same => exact absurd (List.cons.inj same).1 (by decide)
  case h_3 same =>
    cases same
    simp only [Bool.false_eq_true, if_false, if_true, h']

/-- What comes after a quote of a key is shorter than the text. -/
lemma length_lt_of_nextKey {first : Bool} (h : nextKey first cs = .ok (.inl rest)) :
    rest.length < cs.length := by
  unfold nextKey at h
  split at h
  case h_1 => cases h
  case h_2 => cases h
  case h_3 text _ front =>
    have shorter := length_lt_of_skipSpace front
    split at h
    case isTrue =>
      split at h
      case isTrue =>
        cases h
        exact shorter
      case isFalse => cases h
    case isFalse =>
      split at h
      case isTrue =>
        split at h
        case h_1 quote =>
          cases h
          exact (length_lt_of_skipSpace quote).trans shorter
        all_goals cases h
      case isFalse => cases h

/-- The fields that stand at a front are those from the key on that comes there. -/
lemma entries_of_fields {fs : List (String × Value)} (h : Reads cs (.fields fs) rest)
    {first : Bool} {cs' : List Char}
    (begins : ∀ text, skipSpace cs = '"' :: text → nextKey first cs' = .ok (.inl text)) :
    Entries first cs' fs rest := by
  generalize same : Part.fields fs = part at h
  induction h generalizing fs first cs' with
  | lastField front key colon value close =>
    cases same
    exact .entry (begins _ front) key colon value (.close (nextKey_close false close))
  | moreFields front key colon value comma _ _ ih =>
    cases same
    refine .entry (begins _ front) key colon value (ih (fun text front => ?_) rfl)
    rw [skipSpace_skipSpace] at front
    exact nextKey_comma comma front
  | _ => cases same

/-- A value that stands at the front begins as one of its kind. -/
lemma opens_of_reads {v : Value} (h : Reads cs (.value v) rest) :
    ∃ c text, skipSpace cs = c :: text ∧ Opens c text v rest := by
  cases h with
  | name named front _ =>
    refine ⟨_, _, front, ?_⟩
    cases named <;> exact .atom rfl (by decide) (by decide) (by decide)
  | string front string => exact ⟨_, _, front, .string string⟩
  | negative front => exact ⟨_, _, front, .atom rfl (by decide) (by decide) (by decide)⟩
  | natural front digit =>
    refine ⟨_, _, front, .atom rfl ?_ ?_ ?_⟩ <;>
      · rintro rfl
        exact absurd digit (by decide)
  | emptyArray front close => exact ⟨_, _, front, .emptyArray close⟩
  | array front items => exact ⟨_, _, front, .array items⟩
  | emptyObject front close => exact ⟨_, _, front, .object (.close (nextKey_close true close))⟩
  | object front fields =>
    refine ⟨_, _, front, .object (entries_of_fields fields fun text front => ?_)⟩
    rw [skipSpace_skipSpace] at front
    exact nextKey_first front

/-- A command is read where a string stands. -/
lemma readCommand_eq_ok_iff {v : Value} (h : Reads cs (.value v) rest) {command : String}
    {rest' : List Char} :
    readCommand cs = .ok (command, rest') ↔ v = .string command ∧ rest' = rest := by
  obtain ⟨c, text, front, opens⟩ := opens_of_reads h
  rw [readCommand, front]
  constructor
  · intro read
    cases opens with
    | string string =>
      cases string.symm.trans read
      exact ⟨rfl, rfl⟩
    | atom _ notQuote _ _ =>
      split at read
      case h_1 => cases ‹_›
      case h_2 same => exact absurd (List.cons.inj same).1 notQuote
      case h_3 => cases read
    | _ => cases read
  · rintro ⟨rfl, rfl⟩
    cases opens with
    | string string => exact string
    | atom atom => cases atom

/-- Scripts are read where all fields are strings. -/
lemma readScripts_eq_ok_iff {first : Bool} {fs : List (String × Value)}
    (h : Entries first cs fs rest) {fuel : Nat} (enough : cs.length < fuel) {scripts : Scripts}
    {rest' : List Char} :
    readScripts fuel first cs = .ok (scripts, rest') ↔
      fs = scripts.map (fun s => (s.1, .string s.2)) ∧ rest' = rest := by
  induction h generalizing fuel scripts rest' with
  | @close first cs rest none =>
    cases fuel with
    | zero => cases enough
    | succ fuel =>
      simp only [readScripts, none, bind, Except.bind]
      constructor
      · intro read
        cases read
        exact ⟨rfl, rfl⟩
      · rintro ⟨same, rfl⟩
        rw [List.map_eq_nil_iff.1 same.symm]
  | @entry first cs key v fs _ _ _ _ rest some string colon value _ ih =>
    cases fuel with
    | zero => cases enough
    | succ fuel =>
      have := length_lt_of_nextKey some
      have := length_lt_of_readString string
      have := length_lt_of_readColon colon
      have := value.length_lt
      -- every entry takes something off the text, so one unit of fuel less is enough for the others
      replace ih {scripts : Scripts} {rest' : List Char} := @ih fuel (by omega) scripts rest'
      simp only [readScripts, some, string, colon, bind, Except.bind]
      constructor
      · intro read
        obtain ⟨⟨command, _⟩, first, read⟩ := bind_eq_ok read
        obtain ⟨⟨more, _⟩, others, read⟩ := bind_eq_ok read
        obtain ⟨rfl, rfl⟩ := (readCommand_eq_ok_iff value).1 first
        simp only at others
        obtain ⟨rfl, rfl⟩ := ih.1 others
        cases read
        exact ⟨rfl, rfl⟩
      · rintro ⟨same, rfl⟩
        cases scripts with
        | nil => cases same
        | cons s scripts =>
          obtain ⟨here, others⟩ := List.cons.inj same
          cases here
          rw [(readCommand_eq_ok_iff value).2 ⟨rfl, rfl⟩]
          simp only [ih.2 ⟨others, rfl⟩]

/-- The scripts of an object are read where all its fields are strings. -/
lemma readScriptMap_eq_ok_iff {v : Value} (h : Reads cs (.value v) rest) {scripts : Scripts}
    {rest' : List Char} :
    readScriptMap cs = .ok (scripts, rest') ↔ v = scriptMap scripts ∧ rest' = rest := by
  obtain ⟨c, text, front, opens⟩ := opens_of_reads h
  rw [readScriptMap, front]
  constructor
  · intro read
    cases opens with
    | object entries =>
      obtain ⟨rfl, rfl⟩ := (readScripts_eq_ok_iff entries (Nat.lt_succ_self _)).1 read
      exact ⟨rfl, rfl⟩
    | atom _ _ _ notBrace =>
      split at read
      case h_1 => cases ‹_›
      case h_2 same => exact absurd (List.cons.inj same).1 notBrace
      case h_3 => cases read
    | _ => cases read
  · rintro ⟨rfl, rfl⟩
    cases opens with
    | object entries => exact (readScripts_eq_ok_iff entries (Nat.lt_succ_self _)).2 ⟨rfl, rfl⟩
    | atom atom => cases atom

/-- The scripts found so far, and the fields that are left, make some scripts. -/
inductive Completes : Option Scripts → List (String × Value) → Scripts → Prop where
  | found {fs scripts} :
    fs.filter isScripts = [] →
    Completes (some scripts) fs scripts
  | absent {fs} :
    fs.filter isScripts = [] →
    Completes none fs []
  | scripts {fs scripts} :
    fs.filter isScripts = [("scripts", scriptMap scripts)] →
    Completes none fs scripts

/-- Only the field of the scripts makes a difference. -/
lemma Completes.of_filter_eq {found : Option Scripts} {fs fs' : List (String × Value)}
    {scripts : Scripts} (h : Completes found fs scripts)
    (same : fs.filter isScripts = fs'.filter isScripts) : Completes found fs' scripts := by
  cases h with
  | found none => exact .found (same ▸ none)
  | absent none => exact .absent (same ▸ none)
  | scripts one => exact .scripts (same ▸ one)

/-- A field of another name makes no difference. -/
lemma completes_cons_iff_of_other {found : Option Scripts} {f : String × Value}
    {fs : List (String × Value)} {scripts : Scripts} (other : isScripts f = false) :
    Completes found (f :: fs) scripts ↔ Completes found fs scripts := by
  have same : (f :: fs).filter isScripts = fs.filter isScripts :=
    List.filter_cons_of_neg (by rw [other]; decide)
  exact ⟨fun h => h.of_filter_eq same, fun h => h.of_filter_eq same.symm⟩

/-- The field of the scripts comes once, and is followed by other fields. -/
lemma completes_cons_scripts_iff {found : Option Scripts} {v : Value}
    {fs : List (String × Value)} {scripts : Scripts} :
    Completes found (("scripts", v) :: fs) scripts ↔
      found = none ∧ v = scriptMap scripts ∧ Completes (some scripts) fs scripts := by
  have more : (("scripts", v) :: fs).filter isScripts = ("scripts", v) :: fs.filter isScripts :=
    List.filter_cons_of_pos rfl
  constructor
  · intro h
    cases h with
    | found none | absent none =>
      rw [more] at none
      cases none
    | scripts one =>
      rw [more] at one
      obtain ⟨here, others⟩ := List.cons.inj one
      exact ⟨rfl, (Prod.mk.inj here).2, .found others⟩
  · rintro ⟨rfl, rfl, rest⟩
    cases rest with
    | found none => exact .scripts (by rw [more, none])

/-- The fields of a manifest are read where they make scripts, with those found before. -/
lemma readFields_eq_ok_iff {first : Bool} {fs : List (String × Value)}
    (h : Entries first cs fs rest) {fuel : Nat} (enough : cs.length < fuel)
    {found : Option Scripts} {scripts : Scripts} {rest' : List Char} :
    readFields fuel first found cs = .ok (scripts, rest') ↔
      Completes found fs scripts ∧ rest' = rest := by
  induction h generalizing fuel found rest' with
  | @close first cs rest none =>
    cases fuel with
    | zero => cases enough
    | succ fuel =>
      simp only [readFields, none, bind, Except.bind]
      constructor
      · intro read
        cases read
        cases found with
        | none => exact ⟨.absent rfl, rfl⟩
        | some scripts => exact ⟨.found rfl, rfl⟩
      · rintro ⟨completes, rfl⟩
        cases completes with
        | found => rfl
        | absent => rfl
        | scripts one => cases one
  | @entry first cs key v fs _ _ _ _ rest some string colon value _ ih =>
    cases fuel with
    | zero => cases enough
    | succ fuel =>
      have := length_lt_of_nextKey some
      have := length_lt_of_readString string
      have := length_lt_of_readColon colon
      have := value.length_lt
      replace ih {found : Option Scripts} {rest' : List Char} :=
        @ih fuel (by omega) found rest'
      simp only [readFields, some, string, colon, bind, Except.bind]
      by_cases named : key = "scripts"
      · subst named
        rw [if_pos rfl, completes_cons_scripts_iff]
        cases found with
        | some before =>
          -- a second field of this name is refused, whatever its value is
          constructor
          · intro read
            cases read
          · rintro ⟨⟨none, -⟩, -⟩
            cases none
        | none =>
          constructor
          · intro read
            obtain ⟨⟨mine, _⟩, map, read⟩ := bind_eq_ok read
            obtain ⟨rfl, rfl⟩ := (readScriptMap_eq_ok_iff value).1 map
            obtain ⟨completes, rfl⟩ := ih.1 read
            cases completes with
            | found others => exact ⟨⟨rfl, rfl, .found others⟩, rfl⟩
          · rintro ⟨⟨-, rfl, completes⟩, rfl⟩
            rw [(readScriptMap_eq_ok_iff value).2 ⟨rfl, rfl⟩]
            exact ih.2 ⟨completes, rfl⟩
      · rw [if_neg named, value.ignoreValue_eq, completes_cons_iff_of_other (by simpa [isScripts])]
        exact ih

/-- The fields of an object are a manifest where they make scripts. -/
lemma declares_object_iff {fs : List (String × Value)} {scripts : Scripts} :
    Declares (.object fs) scripts ↔ Completes none fs scripts := by
  constructor
  · intro h
    cases h with
    | scripts one => exact .scripts one
    | absent none => exact .absent none
  · intro h
    cases h with
    | scripts one => exact .scripts one
    | absent none => exact .absent none

/-- An array is read where its only item is a map of scripts. -/
lemma readArray_eq_ok_iff {vs : List Value} (h : Opens '[' cs (.array vs) rest) {scripts : Scripts}
    {rest' : List Char} :
    readArray cs = .ok (scripts, rest') ↔ Declares (.array vs) scripts ∧ rest' = rest := by
  cases h with
  | atom atom => cases atom
  | emptyArray close =>
    have closed : skipSpace (']' :: rest) = ']' :: rest := rfl
    simp only [readArray, close, bind, Except.bind, closed]
    constructor
    · intro read
      cases read
      exact ⟨.empty, rfl⟩
    · rintro ⟨declares, rfl⟩
      cases declares
      rfl
  | array items =>
    obtain ⟨c, _, there, notClose⟩ := items.front_items
    rw [skipSpace_skipSpace] at there
    constructor
    · intro read
      unfold readArray at read
      split at read
      case h_1 none => cases there.symm.trans none
      case h_2 close => exact absurd (List.cons.inj (there.symm.trans close)).1 notClose
      case h_3 =>
        obtain ⟨⟨mine, _⟩, item, read⟩ := bind_eq_ok read
        cases items with
        | lastItem value close =>
          obtain ⟨rfl, rfl⟩ := (readScriptMap_eq_ok_iff value).1 item
          simp only [close] at read
          cases read
          exact ⟨.item, rfl⟩
        | moreItems value comma more =>
          obtain ⟨rfl, rfl⟩ := (readScriptMap_eq_ok_iff value).1 item
          simp only [comma] at read
          split at read <;> cases read
    · rintro ⟨declares, rfl⟩
      cases declares with
      | item =>
        cases items with
        | lastItem value close =>
          have item := (readScriptMap_eq_ok_iff value).2 ⟨rfl, rfl⟩
          unfold readArray
          split
          case h_1 none => cases there.symm.trans none
          case h_2 close => exact absurd (List.cons.inj (there.symm.trans close)).1 notClose
          case h_3 =>
            rw [item]
            simp only [close, bind, Except.bind]
        | moreItems _ _ more => cases more
      | empty => cases items

end

/-- Scripts after which nothing but blanks comes. -/
def atEnd (read : Scripts × List Char) : Except Error Scripts :=
  if (skipSpace read.2).isEmpty then .ok read.1 else .error .trailingCharacters

/-- Where reading gives the scripts of a kind and comes to an end, these are the scripts. -/
lemma bind_atEnd_eq_ok_iff {x : Except Error (Scripts × List Char)} {rest : List Char}
    {P : Scripts → Prop} (h : ∀ scripts rest', x = .ok (scripts, rest') ↔ P scripts ∧ rest' = rest)
    (ends : (skipSpace rest).isEmpty = true) (scripts : Scripts) :
    x >>= atEnd = .ok scripts ↔ P scripts := by
  constructor
  · intro read
    obtain ⟨⟨scripts', rest'⟩, first, read⟩ := bind_eq_ok read
    obtain ⟨holds, rfl⟩ := (h scripts' rest').1 first
    rw [atEnd, if_pos ends] at read
    cases read
    exact holds
  · intro holds
    rw [(h scripts rest).2 ⟨holds, rfl⟩]
    exact if_pos ends

/-- A text that begins as an object is read as its fields. -/
lemma scriptsOf_of_object {text : String} {cs : List Char}
    (h : skipSpace text.toList = '\x7b' :: cs) :
    scriptsOf text = readFields (cs.length + 1) true none cs >>= atEnd := by
  rw [scriptsOf, h]
  rfl

/-- A text that begins as an array is read as its item. -/
lemma scriptsOf_of_array {text : String} {cs : List Char} (h : skipSpace text.toList = '[' :: cs) :
    scriptsOf text = readArray cs >>= atEnd := by
  rw [scriptsOf, h]
  rfl

/-- A text that begins in another way is refused. -/
lemma scriptsOf_of_other {text : String} {c : Char} {cs : List Char}
    (h : skipSpace text.toList = c :: cs) (notBrace : c ≠ '\x7b') (notBracket : c ≠ '[')
    (scripts : Scripts) : scriptsOf text ≠ .ok scripts := by
  rw [scriptsOf, h]
  split
  case h_1 same => cases same
  case h_2 same => exact absurd (List.cons.inj same).1 notBrace
  case h_3 same => exact absurd (List.cons.inj same).1 notBracket
  case h_4 => exact fun same => by cases same

/-- Where a text is one of a JSON value, the value decides whether it is a manifest, and which
scripts it has. -/
lemma scriptsOf_eq_ok_iff {text : String} {v : Value} (h : Value.ofText text = .ok v)
    (scripts : Scripts) : scriptsOf text = .ok scripts ↔ Declares v scripts := by
  obtain ⟨⟨_, rest⟩, read, h⟩ := bind_eq_ok h
  simp only at h
  split at h
  case isFalse => cases h
  case isTrue ends =>
    cases h
    obtain ⟨c, cs, front, opens⟩ := opens_of_reads (reads_of_readValueWith read)
    have array {vs : List Value} (opens : Opens '[' cs (.array vs) rest)
        (front : skipSpace text.toList = '[' :: cs) :
        scriptsOf text = .ok scripts ↔ Declares (.array vs) scripts := by
      rw [scriptsOf_of_array front]
      exact bind_atEnd_eq_ok_iff (fun _ _ => readArray_eq_ok_iff opens) ends scripts
    cases opens with
    | string =>
      constructor
      · exact fun read => absurd read (scriptsOf_of_other front (by decide) (by decide) _)
      · rintro ⟨⟩
    | atom atom _ notBracket notBrace =>
      constructor
      · exact fun read => absurd read (scriptsOf_of_other front notBrace notBracket _)
      · rintro ⟨⟩ <;> cases atom
    | object entries =>
      rw [scriptsOf_of_object front, declares_object_iff]
      exact bind_atEnd_eq_ok_iff
        (fun _ _ => readFields_eq_ok_iff entries (Nat.lt_succ_self _)) ends scripts
    | emptyArray close => exact array (.emptyArray close) front
    | array items => exact array (.array items) front

end Pipeline.Manifest
