import Pipeline.Proofs.Config.Authored
import Pipeline.Proofs.Run.Decision
import Pipeline.Run.Outcome

/-!
# Verdicts of runs

A run is as successful as its last step, unless that step goes to an end which its author gave the
other result (`run_isEarned`; specification, section 6, process exit contract). For an edge to a
terminal is either that of a route which ends the pipeline, and then its result is that of the step,
or that of a route to an end with a name (`Depicts.terminal_cases`).
-/

namespace Pipeline

/-- What a configuration lets its runs come to, given the decisions of their steps. -/
structure Outcome.IsEarned (config : Config) (decided : List (StepNode × Bool)) (o : Outcome) :
    Prop where
  /-- The steps that decide are the executed ones, in their order. -/
  executed : (decided.map Prod.fst).map StepNode.name = o.executed
  /-- A run succeeds only when its last step did, or names an end with that result for failures. -/
  green : o.success = true → ∀ n success, decided.getLast? = some (n, success) →
    success = true ∨ config.NamesEnd n.name false true
  /-- A run fails only when its last step did, or names an end with that result for successes. -/
  red : o.success = false → ∀ n success, decided.getLast? = some (n, success) →
    success = false ∨ config.NamesEnd n.name true false
  /-- A step that fails makes the run fail unless it names where to go after a failure. -/
  fatal : ∀ n e, (n, false) ∈ decided → config.entry? n.name = some e → e.StopsAfter false →
    o.success = false
  /-- A run without steps has the result of its root, which is an end. -/
  idle : decided = [] → config.IsEnd config.root o.success

section

variable {root : String} {r : Registry} {g : Graph} {n : StepNode} {t : Terminal} {success : Bool}

/-- A station that is a terminal is that of an end. -/
lemma StepRecord.finish_of_station {record : StepRecord} (h : record.station = .terminal t) :
    record.kind = .finish t.result ∧ record.name = t.name := by
  cases finish : record.kind.isFinish with
  | true =>
    obtain ⟨result, kind⟩ := StepKind.eq_finish_of_isFinish finish
    rw [station_eq_terminal kind] at h
    cases h
    exact ⟨kind, rfl⟩
  | false =>
    rw [station_eq_step finish] at h
    cases h

/-- An edge to a terminal is that of a route that ends the pipeline, or leads to a named end. -/
lemma Graph.Depicts.terminal_cases (d : g.Depicts r root) (mem : n ∈ g.nodes)
    (next : n.next success = .terminal t) : ∃ record, r.find? n.name = some record ∧
      (record.route success = .done ∧ t = .byDefault success ∨
        ∃ finish, record.route success = .named finish.name ∧ r.find? finish.name = some finish ∧
          finish.kind = .finish t.result) := by
  obtain ⟨record, found, -⟩ := d.find?_of_mem mem
  obtain ⟨station, after, stands⟩ := d.next n mem success
  rw [next] at stands
  cases stands
  rw [Registry.stationAfter?_of_find? found] at after
  refine ⟨record, found, ?_⟩
  cases route : record.route success with
  | done =>
    rw [route] at after
    cases after
    exact .inl ⟨rfl, rfl⟩
  | named name =>
    rw [route] at after
    obtain ⟨finish, there, isEnd⟩ := Option.map_eq_some_iff.1 after
    obtain ⟨kind, -⟩ := StepRecord.finish_of_station isEnd
    obtain rfl := Registry.name_of_find? there
    exact .inr ⟨finish, rfl, there, kind⟩

/-- The edge of a route that ends the pipeline leads to the terminal with the result of the step. -/
lemma Graph.Depicts.next_of_done (d : g.Depicts r root) (mem : n ∈ g.nodes) {record : StepRecord}
    (found : r.find? n.name = some record) (route : record.route success = .done) :
    n.next success = .terminal (.byDefault success) := by
  obtain ⟨station, after, stands⟩ := d.next n mem success
  rw [Registry.stationAfter?_of_find? found, route] at after
  cases after
  exact Graph.eq_terminal stands

variable {config : Config}

/-- The terminal that an edge leads to has the result of the step, or is a named end. -/
lemma Graph.Depicts.result_cases (d : g.Depicts r root) (registry : config.registry = .ok r)
    (mem : n ∈ g.nodes) (next : n.next success = .terminal t) :
    t.result = success ∨ config.NamesEnd n.name success t.result := by
  obtain ⟨record, found, ⟨-, rfl⟩ | ⟨finish, route, there, kind⟩⟩ := d.terminal_cases mem next
  · exact .inl rfl
  · obtain ⟨e, first, meant⟩ := Config.entry_of_find? registry found
    rw [StepRecord.route_of_ofEntry meant] at route
    obtain ⟨word, other⟩ := Route.ofWord_eq_named_iff.1 route
    exact .inr ⟨e, finish.name, first, word, other, Config.isEnd_of_find? registry there kind⟩

/-- The edge of an entry that stops leads to the terminal with the result of the step. -/
lemma Graph.Depicts.next_of_stopsAfter (d : g.Depicts r root) (registry : config.registry = .ok r)
    (mem : n ∈ g.nodes) {e : StepEntry} (first : config.entry? n.name = some e)
    (stops : e.StopsAfter success) : n.next success = .terminal (.byDefault success) := by
  obtain ⟨record, found, -⟩ := d.find?_of_mem mem
  obtain ⟨e', first', meant⟩ := Config.entry_of_find? registry found
  obtain rfl : e = e' := Option.some.inj (first.symm.trans first')
  apply d.next_of_done mem found
  rw [StepRecord.route_of_ofEntry meant, Route.ofWord_eq_done stops]

/-- A course has the result of its last step, or that of an end which this step names. -/
lemma Course.result_cases {σ : Type} {c : Collaborators σ} {policy : StderrPolicy}
    {target : Target} {w : σ} {ns : List StepNode} (course : Course c policy g target w ns t)
    (d : g.Depicts r root) (registry : config.registry = .ok r)
    (last : (decisions c policy w ns).getLast? = some (n, success)) :
    t.result = success ∨ config.NamesEnd n.name success t.result := by
  have mem := course.mem_of_decided (List.mem_of_getLast? last)
  exact d.result_cases registry mem (course.last last)

/-- A graph that starts at a terminal is that of an end. -/
lemma Graph.Depicts.isEnd_of_root (d : g.Depicts r root) (registry : config.registry = .ok r)
    (start : g.root = .terminal t) : config.IsEnd root t.result := by
  obtain ⟨station, isStart, stands⟩ := d.root
  rw [start] at stands
  cases stands
  obtain ⟨record, found, isEnd⟩ := Option.map_eq_some_iff.1 isStart
  obtain ⟨kind, -⟩ := StepRecord.finish_of_station isEnd
  exact Config.isEnd_of_find? registry found kind

end

/-- A run of a configuration ends, and neither succeeds nor fails unless its last step did or went
to an end that was given this result. -/
theorem run_isEarned {config : Config} {g : Graph} (h : config.toGraph = .ok g) {σ : Type}
    (c : Collaborators σ) (policy : StderrPolicy) (id : ExecutionId) (w : σ)
    (startedAt finishedAt : Instant) :
    ∃ p, g.run c policy id w = some p ∧
      (Outcome.ofPassage p id startedAt finishedAt).IsEarned config
        (decisions c policy w (g.stepsOf p)) := by
  obtain ⟨r, registry, compiled⟩ := Config.registry_of_toGraph h
  have d := Graph.depicts_of_compile compiled
  obtain ⟨ns, t, course, run, steps⟩ := run_stepsOf compiled c policy id w
  refine ⟨_, run, ?_⟩
  rw [steps]
  constructor
  case executed =>
    rw [map_fst_decisions]
    rfl
  case green =>
    intro (green : t.result = true) n success last
    cases success with
    | true => exact .inl rfl
    | false =>
      have finish := course.result_cases d registry last
      rw [green] at finish
      exact .inr (finish.resolve_left Bool.false_ne_true.symm)
  case red =>
    intro (red : t.result = false) n success last
    cases success with
    | true =>
      have finish := course.result_cases d registry last
      rw [red] at finish
      exact .inr (finish.resolve_left Bool.false_ne_true)
    | false => exact .inl rfl
  case fatal =>
    intro n e decided first stops
    have next := d.next_of_stopsAfter registry (course.mem_of_decided decided) first stops
    exact congrArg Terminal.result (course.ends decided next)
  case idle =>
    intro none
    obtain rfl : [] = ns := by
      rw [← map_fst_decisions w ns, none]
      rfl
    exact d.isEnd_of_root registry course.of_nil

/-- The diamond as an author writes it. -/
def diamondConfig : Config where
  root := "a"
  steps :=
    [{ name := "d", typeTag := "BuildScript", success := some "END", failure := some "continue",
       scriptName := some "d" },
     { name := "b", typeTag := "Lint", success := some "d", failure := some "red" },
     { name := "a", typeTag := "Test", success := some "b", failure := some "c" },
     { name := "c", typeTag := "BuildScript", success := some "d", failure := some "continue",
       scriptName := some "c" },
     { name := "red", typeTag := "End", result := some false },
     { name := "a", typeTag := "End", result := some true }]

/-- A run of the diamond in which every second command fails has the result of its last step, which
fails and stops there. -/
theorem run_isEarned_diamond :
    diamondConfig.toGraph = .ok Graph.diamond ∧
    ∃ p, Graph.diamond.run alternating .fail .nil 1 = some p ∧
      (Outcome.ofPassage p .nil ⟨0⟩ ⟨0⟩).IsEarned diamondConfig
        (decisions alternating .fail 1 (Graph.diamond.stepsOf p)) := by
  have compiled : diamondConfig.toGraph = .ok Graph.diamond := by decide +kernel
  exact ⟨compiled, run_isEarned compiled alternating .fail .nil 1 ⟨0⟩ ⟨0⟩⟩

end Pipeline
