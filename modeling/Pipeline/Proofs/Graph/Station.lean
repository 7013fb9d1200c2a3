import Mathlib.Tactic.Lemma
import Pipeline.Graph.ByName
import Pipeline.Graph.Edge
import Pipeline.Step.Reference

/-!
# Stations of edges and targets

An edge of a record and a target among nodes both stand for a station. The edge that a record has in
a registry stands for the station after the record (`stationAfter?_of_edge`), and what a target
stands for does not change when nodes are added or get other edges (`station?_append`,
`station?_modify`).
-/

namespace Pipeline

/-- The station that an edge leads to. -/
def Edge.station : Edge → Station
  | .terminal t => .terminal t
  | .record next => next.station

/-- The station that a target stands for among nodes. -/
def Target.station? (nodes : List StepNode) : Target → Option Station
  | .terminal t => some (.terminal t)
  | .step position => nodes[position]?.map fun n => .step n.name n.kind

/-- The stations of a graph are those of its nodes. -/
lemma Graph.station?_eq (g : Graph) (target : Target) :
    g.station? target = target.station? g.nodes := by
  cases target <;> rfl

/-- A step that ends the pipeline stands for its terminal. -/
lemma StepRecord.station_eq_terminal {record : StepRecord} {result : Bool}
    (h : record.kind = .finish result) : record.station = .terminal ⟨record.name, result⟩ := by
  simp [station, h]

/-- A step that does not end the pipeline is a station itself. -/
lemma StepRecord.station_eq_step {record : StepRecord} (h : record.kind.isFinish = false) :
    record.station = .step record.name record.kind := by
  unfold station
  split
  · rename_i result kind
    simp [kind, StepKind.isFinish] at h
  · rfl

/-- Only steps that do not end the pipeline are stations on the way. -/
lemma StepRecord.isFinish_of_station {record : StepRecord} {name : String} {kind : StepKind}
    (h : record.station = .step name kind) :
    record.kind.isFinish = false ∧ record.name = name ∧ record.kind = kind := by
  cases finish : record.kind.isFinish with
  | false =>
    rw [station_eq_step finish] at h
    cases h
    exact ⟨rfl, rfl, rfl⟩
  | true =>
    obtain ⟨result, kind⟩ := StepKind.eq_finish_of_isFinish finish
    rw [station_eq_terminal kind] at h
    cases h

/-- The edge of a record after a success or a failure. -/
def StepRecord.edge (record : StepRecord) (r : Registry) (success : Bool) :
    Except ConfigError Edge :=
  if success then record.successEdge r else record.failureEdge r

/-- What is wrong with a route to a name without a record. -/
def StepRecord.dangling (record : StepRecord) (success : Bool) (target : String) : ConfigError :=
  if success then .missingSuccessStep record.name target
  else .missingFailureStep record.name (record.failureWord.getD "") target

/-- Both edges of a record follow their routes in the same way. -/
lemma StepRecord.edge_eq (record : StepRecord) (r : Registry) (success : Bool) :
    record.edge r success =
      match record.route success with
      | .done => .ok (.terminal (.byDefault success))
      | .named target =>
        match r.find? target with
        | some next => .ok (.record next)
        | none => .error (record.dangling success target) := by
  cases success <;> rfl

/-- An edge to a record leads along the record's route to the first definition of a name. -/
lemma StepRecord.route_of_edge {record next : StepRecord} {r : Registry} {success : Bool}
    (h : record.edge r success = .ok (.record next)) :
    record.route success = .named next.name ∧ r.find? next.name = some next := by
  rw [edge_eq] at h
  split at h
  · cases h
  · rename_i target route
    split at h
    · rename_i found
      cases h
      obtain rfl := Registry.name_of_find? found
      exact ⟨route, found⟩
    · cases h

/-- There is no edge only where the record's route names a step without a definition. -/
lemma StepRecord.route_of_edge_error {record : StepRecord} {r : Registry} {success : Bool}
    {e : ConfigError} (h : record.edge r success = .error e) :
    ∃ target, record.route success = .named target ∧ r.find? target = none ∧
      e = record.dangling success target := by
  rw [edge_eq] at h
  split at h
  · cases h
  · rename_i target route
    split at h
    · cases h
    · rename_i missing
      cases h
      exact ⟨target, route, missing, rfl⟩

/-- What a record names on a route is among its references. -/
lemma StepRecord.mem_references {record : StepRecord} {success : Bool} {target : String}
    (h : record.kind.isFinish = false) (route : record.route success = .named target) :
    target ∈ record.references := by
  cases success with
  | true => simp_all [StepRecord.route, references, Route.name?]
  | false => simp_all [StepRecord.route, references, Route.name?]

/-- What a record refers to is named on one of its routes. -/
lemma StepRecord.route_of_mem_references {record : StepRecord} {target : String}
    (h : target ∈ record.references) :
    record.kind.isFinish = false ∧ ∃ success, record.route success = .named target := by
  have name : ∀ route : Route, target ∈ route.name?.toList → route = .named target := by
    intro route mem
    cases route with
    | done => simp [Route.name?] at mem
    | named name => simp_all [Route.name?]
  unfold references at h
  split at h
  · simp at h
  · rename_i finish
    rcases List.mem_append.1 h with mem | mem
    · exact ⟨by simpa using finish, true, name _ mem⟩
    · exact ⟨by simpa using finish, false, name _ mem⟩

namespace Registry

/-- The station of a name whose definition is not an end is a step of that name. -/
lemma station?_of_find? {r : Registry} {name : String} {record : StepRecord}
    (found : r.find? name = some record) (notFinish : record.kind.isFinish = false) :
    r.station? name = some (.step name record.kind) := by
  obtain rfl := name_of_find? found
  rw [station?, found, Option.map_some, StepRecord.station_eq_step notFinish]

/-- The station after a definition is the end of its route or the station of the next step. -/
lemma stationAfter?_of_find? {r : Registry} {name : String} {record : StepRecord}
    (found : r.find? name = some record) (success : Bool) :
    r.stationAfter? name success =
      match record.route success with
      | .done => some (.terminal (.byDefault success))
      | .named next => r.station? next := by
  unfold stationAfter?
  rw [found]
  rfl

/-- The edge of a definition leads to the station after it. -/
lemma stationAfter?_of_edge {r : Registry} {name : String} {record : StepRecord} {success : Bool}
    {edge : Edge} (found : r.find? name = some record) (h : record.edge r success = .ok edge) :
    r.stationAfter? name success = some edge.station := by
  rw [stationAfter?_of_find? found]
  rw [StepRecord.edge_eq] at h
  cases route : record.route success with
  | done =>
    simp only [route] at h
    cases h
    rfl
  | named target =>
    simp only [route] at h
    cases there : r.find? target with
    | none =>
      rw [there] at h
      cases h
    | some next =>
      rw [there] at h
      cases h
      simp [station?, there, Edge.station]

/-- A definition refers to the step that comes after it. -/
lemma refers_of_stationAfter? {r : Registry} {name next : String} {kind after : StepKind}
    {success : Bool} (here : r.station? name = some (.step name kind))
    (h : r.stationAfter? name success = some (.step next after)) : r.Refers name next := by
  obtain ⟨record, found, isStep⟩ := Option.map_eq_some_iff.1 here
  obtain ⟨notFinish, -, -⟩ := StepRecord.isFinish_of_station isStep
  rw [stationAfter?_of_find? found] at h
  cases route : record.route success with
  | done =>
    simp only [route] at h
    cases h
  | named target =>
    simp only [route] at h
    obtain ⟨other, there, isNext⟩ := Option.map_eq_some_iff.1 h
    obtain ⟨-, rfl, -⟩ := StepRecord.isFinish_of_station isNext
    obtain rfl := name_of_find? there
    exact ⟨record, found, StepRecord.mem_references notFinish route⟩

end Registry

namespace Target

/-- More nodes leave the station of a target as it is. -/
lemma station?_append {nodes more : List StepNode} {target : Target} {station : Station}
    (h : target.station? nodes = some station) : target.station? (nodes ++ more) = some station := by
  cases target with
  | terminal t => exact h
  | step position =>
    obtain ⟨n, here, rfl⟩ := Option.map_eq_some_iff.1 h
    have inside : position < nodes.length := (List.getElem?_eq_some_iff.1 here).1
    simp [station?, List.getElem?_append_left inside, here]

/-- Other edges for a node leave the station of a target as it is. -/
@[simp] lemma station?_modify (nodes : List StepNode) (position : Nat)
    (onSuccess onFailure : Target) (target : Target) :
    target.station? (nodes.modify position fun n =>
        { n with onSuccess := onSuccess, onFailure := onFailure }) =
      target.station? nodes := by
  cases target with
  | terminal t => rfl
  | step other =>
    simp only [station?, List.getElem?_modify]
    cases nodes[other]? <;> simp
    split <;> simp

end Target

end Pipeline
