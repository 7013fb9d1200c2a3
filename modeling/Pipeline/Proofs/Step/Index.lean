import Mathlib.Data.List.Nodup
import Mathlib.Tactic.Lemma
import Pipeline.Step.Registry

/-!
# The index of a registry

One pass over the records leaves an index that knows of the names gone through so far where each of
them came first, and reports each of them when it comes for the second time (`Index.Knows`). Every
record that is added keeps this (`Index.Knows.add`), so in the end the index has for each name the
position of the record that the registry finds, and there is one warning for each name that comes
more than once, in the order in which the second records come (`Registry.index_finds_and_reports`;
specification, section 11, duplicate names).
-/

namespace Pipeline.Registry

/-- A name comes for the first time at a position. -/
structure ComesFirst (names : List String) (name : String) (position : Nat) : Prop where
  here : names[position]? = some name
  before : name ∉ names.take position

/-- A name comes for the second time at a position. -/
structure ComesAgain (names : List String) (name : String) (position : Nat) : Prop where
  here : names[position]? = some name
  before : (names.take position).count name = 1

/-- Some of the names are those that come more than once, each listed once, in the order in which
they come for the second time. -/
structure AreRepeated (names told : List String) : Prop where
  nodup : told.Nodup
  mem : ∀ name, name ∈ told ↔ 2 ≤ names.count name
  order : told.Pairwise fun a b => ∀ i j, ComesAgain names a i → ComesAgain names b j → i < j

/-- The names of the records. -/
def names (r : Registry) : List String :=
  r.records.map StepRecord.name

section

variable {names told : List String} {name other : String} {position : Nat}

/-- A name that comes again comes before the end of the names. -/
lemma ComesAgain.lt_length (h : ComesAgain names name position) : position < names.length :=
  (List.getElem?_eq_some_iff.1 h.here).1

/-- Where the names are followed by one more, a name that came again before comes again at the same
place, and another one can only come again at the end. -/
lemma comesAgain_append (h : ComesAgain (names ++ [other]) name position) :
    ComesAgain names name position ∨
      position = names.length ∧ name = other ∧ names.count name = 1 := by
  have inside : position ≤ names.length := by
    have := h.lt_length
    rw [List.length_append, List.length_singleton] at this
    omega
  rcases Nat.lt_or_eq_of_le inside with inner | rfl
  · left
    constructor
    case here => simpa [List.getElem?_append_left inner] using h.here
    case before => simpa [List.take_append_of_le_length inside] using h.before
  · right
    refine ⟨rfl, ?_, ?_⟩
    · simpa using h.here.symm
    · simpa using h.before

/-- A name that comes again comes at least twice. -/
lemma ComesAgain.two_le_count (h : ComesAgain names name position) : 2 ≤ names.count name := by
  have last : name ∈ names.drop position := by
    rw [List.mem_iff_getElem?]
    exact ⟨0, by simpa using h.here⟩
  have once := List.count_pos_iff.2 last
  rw [← List.take_append_drop position names, List.count_append, h.before]
  omega

/-- A name that has come twice already does not come for the second time now. -/
lemma ComesAgain.of_append (h : ComesAgain (names ++ [other]) name position)
    (twice : 2 ≤ names.count name) : ComesAgain names name position := by
  rcases comesAgain_append h with before | ⟨-, -, once⟩
  · exact before
  · omega

/-- The order of the repeated names is the same after one name more. -/
lemma AreRepeated.order_append (h : AreRepeated names told) (other : String) :
    told.Pairwise fun a b => ∀ i j, ComesAgain (names ++ [other]) a i →
      ComesAgain (names ++ [other]) b j → i < j := by
  refine h.order.imp_of_mem ?_
  intro a b isTold isTold' before i j again again'
  have twice := (h.mem a).1 isTold
  have twice' := (h.mem b).1 isTold'
  exact before i j (again.of_append twice) (again'.of_append twice')

/-- The same names come twice when one comes that does not come for the second time. -/
lemma two_le_count_append (not : names.count other ≠ 1) (name : String) :
    2 ≤ (names ++ [other]).count name ↔ 2 ≤ names.count name := by
  rw [List.count_append, List.count_singleton]
  by_cases same : other = name
  · subst same
    rw [if_pos (beq_self_eq_true other)]
    omega
  · simp [same]

/-- A name more comes twice when it comes for the second time. -/
lemma two_le_count_append_again (once : names.count other = 1) (name : String) :
    2 ≤ (names ++ [other]).count name ↔ name = other ∨ 2 ≤ names.count name := by
  rw [List.count_append, List.count_singleton]
  by_cases same : other = name
  · subst same
    simp [once]
  · simp [same, Ne.symm same]

/-- The repeated names are the same after a name that does not come for the second time. -/
lemma AreRepeated.append (h : AreRepeated names told) (not : names.count other ≠ 1) :
    AreRepeated (names ++ [other]) told := by
  constructor
  case nodup => exact h.nodup
  case mem => exact fun name => (h.mem name).trans (two_le_count_append not name).symm
  case order => exact h.order_append other

/-- A name that comes for the second time joins the repeated names as the last one. -/
lemma AreRepeated.append_again (h : AreRepeated names told) (once : names.count other = 1) :
    AreRepeated (names ++ [other]) (told ++ [other]) := by
  have new : other ∉ told := by
    rw [h.mem]
    omega
  constructor
  case nodup => exact List.Nodup.append h.nodup (by simp) (by simpa using new)
  case mem =>
    intro name
    rw [List.mem_append, List.mem_singleton, h.mem, two_le_count_append_again once, or_comm]
  case order =>
    refine List.pairwise_append.2 ⟨h.order_append other, List.pairwise_singleton _ _, ?_⟩
    -- the names told before have come again among the names, and the new one comes after these
    intro a isTold b isLast i j again again'
    obtain rfl := List.mem_singleton.1 isLast
    have earlier := (again.of_append ((h.mem a).1 isTold)).lt_length
    rcases comesAgain_append again' with before | ⟨rfl, -⟩
    · have := before.two_le_count
      omega
    · exact earlier

/-- A name comes for the first time where it is found from the front. -/
lemma idxOf?_eq_some_iff :
    names.idxOf? name = some position ↔ ComesFirst names name position := by
  rw [List.idxOf?, List.findIdx?_eq_some_iff_getElem]
  constructor
  · rintro ⟨inside, same, others⟩
    constructor
    case here => simpa [List.getElem?_eq_getElem inside] using same
    case before =>
      intro mem
      obtain ⟨earlier, lt, is⟩ := List.mem_take_iff_getElem.1 mem
      exact others earlier (by omega) (by simpa using is)
  · rintro ⟨here, before⟩
    obtain ⟨inside, is⟩ := List.getElem?_eq_some_iff.1 here
    refine ⟨inside, by simpa using is, ?_⟩
    intro earlier lt same
    exact before (List.mem_take_iff_getElem.2 ⟨earlier, by omega, by simpa using same⟩)

end

namespace Index

/-- An index knows of some names where each of them comes first, and has reported those that come
more than once. -/
structure Knows (x : Index) (names : List String) : Prop where
  positions : ∀ name, x.position? name = names.idxOf? name
  reported : ∀ name, name ∈ x.reported ↔ 2 ≤ names.count name
  log : ∃ told, x.log = told.map repeatedWarning ∧ AreRepeated names told

/-- An empty index knows of no names. -/
lemma knows_nil : Knows {} [] := by
  constructor
  case positions => exact fun name => rfl
  case reported => simp
  case log => exact ⟨[], rfl, by simp, by simp, .nil⟩

variable {names : List String} {x : Index}

/-- A name that is not new has its position whatever comes after it. -/
lemma idxOf?_append_of_mem {name : String} (mem : name ∈ names) (more : List String) :
    (names ++ more).idxOf? name = names.idxOf? name := by
  rw [List.idxOf?, List.findIdx?_append, ← List.idxOf?]
  cases found : names.idxOf? name with
  | some position => rfl
  | none => exact absurd mem (List.idxOf?_eq_none_iff.1 found)

/-- A new name has the position at the end. -/
lemma idxOf?_append_of_new {name other : String} (new : name ∉ names) :
    (names ++ [other]).idxOf? name = if name = other then some names.length else none := by
  rw [List.idxOf?, List.findIdx?_append, ← List.idxOf?, List.idxOf?_eq_none_iff.2 new]
  by_cases same : name = other
  · simp [same]
  · simp [same, Ne.symm same]

/-- The positions are right when a new name gets the one at the end. -/
lemma Knows.positions_new (h : x.Knows names) {other : String} (new : other ∉ names)
    (name : String) :
    ((other, names.length) :: x.positions).lookup name = (names ++ [other]).idxOf? name := by
  rw [List.lookup_cons]
  by_cases same : name = other
  · subst same
    simp [idxOf?_append_of_new new]
  · have other : (name == other) = false := by simpa using same
    rw [other]
    refine (h.positions name).trans ?_
    by_cases mem : name ∈ names
    · rw [idxOf?_append_of_mem mem]
    · rw [idxOf?_append_of_new mem, if_neg same, List.idxOf?_eq_none_iff.2 mem]

/-- The positions stay right when a name comes that is not new. -/
lemma Knows.positions_again (h : x.Knows names) {other : String} (mem : other ∈ names)
    (name : String) : x.position? name = (names ++ [other]).idxOf? name := by
  rw [h.positions]
  by_cases known : name ∈ names
  · rw [idxOf?_append_of_mem known]
  · have different : name ≠ other := fun same => known (same ▸ mem)
    rw [idxOf?_append_of_new known, if_neg different, List.idxOf?_eq_none_iff.2 known]

/-- A new name only gets its position. -/
lemma Knows.add_new (h : x.Knows names) {other : String} (new : other ∉ names) :
    (x.add names.length other).Knows (names ++ [other]) := by
  obtain ⟨told, log, repeated⟩ := h.log
  have unknown : x.position? other = none := by
    rw [h.positions, List.idxOf?_eq_none_iff]
    exact new
  have not : names.count other ≠ 1 := by
    rw [List.count_eq_zero.2 new]
    exact Nat.zero_ne_one
  unfold Index.add
  rw [unknown]
  constructor
  case positions => exact h.positions_new new
  case reported => exact fun name => (h.reported name).trans (two_le_count_append not name).symm
  case log => exact ⟨told, log, repeated.append not⟩

/-- A name that comes again is reported when it comes for the second time, and never after that. -/
lemma Knows.add_again (h : x.Knows names) {other : String} (mem : other ∈ names) :
    (x.add names.length other).Knows (names ++ [other]) := by
  obtain ⟨told, log, repeated⟩ := h.log
  obtain ⟨position, known⟩ : ∃ position, x.position? other = some position := by
    rw [← Option.ne_none_iff_exists', h.positions, Ne, List.idxOf?_eq_none_iff]
    exact not_not_intro mem
  have once : 0 < names.count other := List.count_pos_iff.2 mem
  have reported := h.reported other
  unfold Index.add
  rw [known]
  by_cases before : other ∈ x.reported
  · have not : names.count other ≠ 1 := by
      have twice := reported.1 before
      omega
    simp only [List.contains_iff_mem, before, if_true]
    constructor
    case positions => exact h.positions_again mem
    case reported => exact fun name => (h.reported name).trans (two_le_count_append not name).symm
    case log => exact ⟨told, log, repeated.append not⟩
  · have second : names.count other = 1 := by
      have notTwice := reported.not.1 before
      omega
    simp only [List.contains_iff_mem, before, if_false]
    constructor
    case positions => exact h.positions_again mem
    case reported =>
      intro name
      rw [List.mem_cons, h.reported, two_le_count_append_again second]
    case log =>
      refine ⟨told ++ [other], ?_, repeated.append_again second⟩
      rw [log, List.map_append]
      rfl

/-- With one name more an index knows of that, too. -/
lemma Knows.add (h : x.Knows names) (other : String) :
    (x.add names.length other).Knows (names ++ [other]) := by
  by_cases mem : other ∈ names
  · exact h.add_again mem
  · exact h.add_new mem

/-- With more records an index knows of their names, too. -/
lemma Knows.addAll (h : x.Knows names) (records : List StepRecord) :
    (x.addAll names.length records).Knows (names ++ records.map StepRecord.name) := by
  induction records generalizing names x with
  | nil => simpa [Index.addAll] using h
  | cons record records ih =>
    have rest := ih (h.add record.name)
    rw [List.length_append, List.length_singleton, List.append_assoc] at rest
    exact rest

/-- The index of a registry knows of its names. -/
lemma knows_index (r : Registry) : r.index.Knows r.names :=
  knows_nil.addAll r.records

end Index

/-- A registry finds the record at the position where the name comes first. -/
lemma find?_eq_bind_idxOf? (r : Registry) (name : String) :
    r.find? name = (r.names.idxOf? name).bind fun position => r.records[position]? := by
  rw [find?, List.find?_eq_bind_findIdx?_getElem?, names, List.idxOf?, List.findIdx?_map]
  rfl

/-- No two names have the same warning. -/
lemma repeatedWarning_injective : Function.Injective repeatedWarning := by
  intro a b same
  simpa [repeatedWarning, LogEntry.warn] using same

/-- A registry finds for each name the first record of that name and no other, where its index says
that the record is, and counts all records. Its warnings are one for each name that comes more than
once, however often it does, in the order in which the names come for the second time. -/
theorem index_finds_and_reports (r : Registry) :
    (∀ name record, r.find? name = some record ↔
      ∃ position, ComesFirst r.names name position ∧ r.records[position]? = some record) ∧
    (∀ name, r.find? name = none ↔ name ∉ r.names) ∧
    (∀ name, r.find? name = (r.index.position? name).bind fun position => r.records[position]?) ∧
    (∀ name position, r.index.position? name = some position → position < r.records.length) ∧
    r.size = r.records.length ∧
    ∃ told, r.warnings = told.map repeatedWarning ∧ r.warnings.Nodup ∧ AreRepeated r.names told := by
  have knows := Index.knows_index r
  obtain ⟨told, log, repeated⟩ := knows.log
  refine ⟨?_, ?_, ?_, ?_, rfl, told, log, ?_, repeated⟩
  · intro name record
    rw [find?_eq_bind_idxOf?, Option.bind_eq_some_iff]
    simp only [idxOf?_eq_some_iff]
  · intro name
    simp [find?, names]
  · intro name
    rw [find?_eq_bind_idxOf?, knows.positions]
  · intro name position found
    rw [knows.positions, idxOf?_eq_some_iff] at found
    have inside := (List.getElem?_eq_some_iff.1 found.here).1
    rwa [names, List.length_map] at inside
  · rw [warnings, log]
    exact repeated.nodup.map repeatedWarning_injective

/-- A name that comes three times is told of once, before one whose second record comes later. -/
example :
    (⟨["b", "a", "a", "b", "a"].map fun name => ⟨name, .build name, .done, .onward, none⟩⟩ :
      Registry).warnings = [repeatedWarning "a", repeatedWarning "b"] := by
  decide

end Pipeline.Registry
