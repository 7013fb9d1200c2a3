import Pipeline.Proofs.Run.Calls
import Pipeline.Proofs.Run.Decision

/-!
# Runs under both policies

How output on standard error is judged matters to a command only when it exits with status zero and
has written something there; every other way in which a step can go wrong comes first. So a step
whose command does not do this is the same under both policies (`Graph.block_of_quiet`), and one
whose command does fails under the strict policy and succeeds under the other, with the same calls
and the same log up to there (`StepNode.perform_of_noisy`). The runs of a graph under the two
policies are the same when no step has such a command, and else they part at the first one that has
(`run_policies`; specification, section 11, `stderr`).
-/

namespace Pipeline

/-- Whether only the policy decides what a command that left this behind comes to: it exited with
status zero, but anything at all was written to standard error. -/
def CommandOutput.IsNoisy (o : CommandOutput) : Prop :=
  o.exitedCleanly = true ∧ o.hasStderr = true

/-- The reason for which the strict policy fails a command. -/
def CommandOutput.noise (o : CommandOutput) (command : String) : String :=
  "`" ++ command ++ "` wrote to stderr: " ++ Text.trim o.stderr

section

variable {σ : Type} (c : Collaborators σ)

/-- A command and what it leaves behind in a world, if it can be started there. -/
def commandOutput? (command : String) (w : σ) : Option (String × CommandOutput) :=
  match (c.run command w).result with
  | .ok o => some (command, o)
  | .error _ => none

/-- The command of a script and what it leaves behind, if it is found and can be started. -/
def scriptOutput? (script : String) (w : σ) : Option (String × CommandOutput) :=
  match (c.lookup script w).result with
  | .ok command => commandOutput? c command (c.lookup script w).world
  | .error _ => none

/-- The command that a step runs when its turn comes in a world, and what it leaves behind. -/
def StepNode.output? (n : StepNode) (w : σ) : Option (String × CommandOutput) :=
  match n.kind with
  | .build script => scriptOutput? c script w
  | .typeScript config => commandOutput? c ("tsc -p " ++ config) w
  | .test (.command command) => commandOutput? c command w
  | .test (.script script) => scriptOutput? c script w
  | .finish _ => none
  | .unknown _ => none

/-- Whether the command of a step exits with status zero but writes to standard error. -/
def Turn.IsNoisy (turn : Turn σ) : Prop :=
  ∃ command o, turn.node.output? c turn.world = some (command, o) ∧ o.IsNoisy

end

/-- Two runs, told under identifiers of their own, are the same otherwise: all that is told and
logged between their starts and their ends, the executed steps, the terminal and the world. -/
structure Graph.SameRun {σ : Type} (g : Graph) (id id' : ExecutionId) (p p' : Passage σ) :
    Prop where
  notices : ∃ between, p.notices = g.openingNotices id ++ (between ++ finishNotices id p.terminal) ∧
    p'.notices = g.openingNotices id' ++ (between ++ finishNotices id' p'.terminal)
  executed : p.executed = p'.executed
  terminal : p.terminal = p'.terminal
  world : p.world = p'.world

/-- Two runs that record their calls part at the command `command` of a step `n`, which exits and
leaves `o` behind: all before is the same, with the start of the step, its calls and what these log,
and then the step fails in the first run and succeeds in the second one. -/
structure Graph.PartsAt {σ : Type} (g : Graph) (c : Collaborators σ) (id id' : ExecutionId) (w : σ)
    (before : List StepNode) (n : StepNode) (command : String) (o : CommandOutput)
    (p p' : Passage (σ × List (Call σ))) : Prop where
  executed : (before ++ [n]).map StepNode.name <+: p.executed ∧
    (before ++ [n]).map StepNode.name <+: p'.executed
  calls : callsOf c .ignore w (before ++ [n]) <+: p.world.2 ∧
    callsOf c .ignore w (before ++ [n]) <+: p'.world.2
  notices : ∃ (log : List LogEntry) (warning : LogEntry) (rest rest' : List Notice),
    p.notices = g.openingNotices id ++ (g.noticesOf c .ignore w before ++ (startNotices n ++
      log.map .log ++ [.log warning,
        .event (.stepFailed n.name (o.noise command) (g.targetName n.onFailure))] ++ rest)) ∧
    p'.notices = g.openingNotices id' ++ (g.noticesOf c .ignore w before ++ (startNotices n ++
      log.map .log ++ [.event (.stepOutput n.name o.stdout),
        .event (.stepSucceeded n.name (g.targetName n.onSuccess))] ++ rest'))

/-- A command that is not noisy is judged alike under both policies. -/
lemma CommandOutput.judge_of_quiet {o : CommandOutput} (quiet : ¬ o.IsNoisy) (command : String) :
    o.judge .fail command = o.judge .ignore command := by
  unfold judge
  cases exit : o.exitCode with
  | none => rfl
  | some code =>
    by_cases clean : code = 0
    · have silent : o.hasStderr = false := by
        cases noise : o.hasStderr with
        | false => rfl
        | true => exact absurd ⟨by simp [exitedCleanly, exit, clean], noise⟩ quiet
      simp [clean, silent]
    · simp [clean]

/-- A noisy command fails under the strict policy and succeeds under the other. -/
lemma CommandOutput.judge_of_noisy {o : CommandOutput} (noisy : o.IsNoisy) (command : String) :
    o.judge .fail command = .failure (o.noise command) ∧
      o.judge .ignore command = .success o.stdout := by
  obtain ⟨clean, noise⟩ := noisy
  have exit : o.exitCode = some 0 := by simpa [exitedCleanly] using clean
  simp [judge, exit, noise, CommandOutput.noise]

section

variable {σ : Type} {c : Collaborators σ}

/-- What comes of a step whose noisy command decides, under both policies: the same calls and the
same log, but for a warning where the step fails. -/
def PartAnswers (step command : String) (o : CommandOutput) (strict lax : Answer σ StepOutcome) :
    Prop :=
  ∃ log w, lax = ⟨.success o.stdout, log, w⟩ ∧ strict =
    ⟨.failure (o.noise command),
      log ++ [.warn ("Error while executing " ++ step ++ ": " ++ o.noise command)], w⟩

/-- Where no command is noisy, a step that runs one is the same under both policies. -/
lemma performCommand_of_quiet {command : String} {w : σ}
    (quiet : ∀ o, commandOutput? c command w = some (command, o) → ¬ o.IsNoisy) (step : String) :
    performCommand c .fail step command w = performCommand c .ignore step command w := by
  have judged : judgeCommand .fail command (c.run command w).result =
      judgeCommand .ignore command (c.run command w).result := by
    cases result : (c.run command w).result with
    | error e => rfl
    | ok o => exact o.judge_of_quiet (quiet o (by simp [commandOutput?, result])) command
  simp only [performCommand, judged]

/-- A noisy command decides by the policy what comes of its step. -/
lemma performCommand_of_noisy {command : String} {w : σ} {o : CommandOutput}
    (result : (c.run command w).result = .ok o) (noisy : o.IsNoisy) (step : String) :
    PartAnswers step command o (performCommand c .fail step command w)
      (performCommand c .ignore step command w) := by
  obtain ⟨strict, lax⟩ := o.judge_of_noisy noisy command
  refine ⟨.debug ("Step " ++ step ++ " runs `" ++ command ++ "`") :: (c.run command w).log,
    (c.run command w).world, ?_, ?_⟩
  · simp [performCommand, result, judgeCommand, lax, commandWarning]
  · simp [performCommand, result, judgeCommand, strict, commandWarning]

/-- The command that leaves an output behind is the one that is run. -/
lemma commandOutput?_eq_some {command other : String} {w : σ} {o : CommandOutput}
    (h : commandOutput? c command w = some (other, o)) :
    command = other ∧ (c.run command w).result = .ok o := by
  unfold commandOutput? at h
  split at h
  · rename_i result
    cases h
    exact ⟨rfl, result⟩
  · cases h

/-- Where no command is noisy, a step that runs a script is the same under both policies. -/
lemma performScript_of_quiet {script : String} {w : σ}
    (quiet : ∀ command o, scriptOutput? c script w = some (command, o) → ¬ o.IsNoisy)
    (step : String) :
    performScript c .fail step script w = performScript c .ignore step script w := by
  cases found : (c.lookup script w).result with
  | error e => simp only [performScript, found]
  | ok command =>
    have same : performCommand c .fail step command (c.lookup script w).world =
        performCommand c .ignore step command (c.lookup script w).world := by
      apply performCommand_of_quiet
      intro o ran
      exact quiet command o (by simp [scriptOutput?, found, ran])
    simp only [performScript, found, same]

/-- A noisy command of a script decides by the policy what comes of the step. -/
lemma performScript_of_noisy {script command : String} {w : σ} {o : CommandOutput}
    (ran : scriptOutput? c script w = some (command, o)) (noisy : o.IsNoisy) (step : String) :
    PartAnswers step command o (performScript c .fail step script w)
      (performScript c .ignore step script w) := by
  cases found : (c.lookup script w).result with
  | error e => simp [scriptOutput?, found] at ran
  | ok command' =>
    simp only [scriptOutput?, found] at ran
    obtain ⟨rfl, result⟩ := commandOutput?_eq_some ran
    obtain ⟨log, w', lax, strict⟩ := performCommand_of_noisy result noisy step
    refine ⟨(c.lookup script w).log ++ log, w', ?_, ?_⟩
    · simp only [performScript, found, lax]
    · simp only [performScript, found, strict, List.append_assoc]

/-- A step whose command is not noisy is the same under both policies. -/
lemma StepNode.perform_of_quiet {n : StepNode} {w : σ} (quiet : ¬ Turn.IsNoisy c ⟨n, w⟩) :
    n.perform c .fail w = n.perform c .ignore w := by
  have quiet : ∀ command o, n.output? c w = some (command, o) → ¬ o.IsNoisy :=
    fun command o ran noisy => quiet ⟨command, o, ran, noisy⟩
  unfold StepNode.output? at quiet
  unfold perform
  cases kind : n.kind with
  | build script =>
    simp only [kind] at quiet
    exact performScript_of_quiet quiet _
  | typeScript config =>
    simp only [kind] at quiet
    exact performCommand_of_quiet (quiet _) _
  | test source =>
    cases source with
    | command command =>
      simp only [kind] at quiet
      exact performCommand_of_quiet (quiet _) _
    | script script =>
      simp only [kind] at quiet
      exact performScript_of_quiet quiet _
  | finish result => rfl
  | unknown tag => rfl

/-- The noisy command of a step decides by the policy what comes of the step. -/
lemma StepNode.perform_of_noisy {n : StepNode} {w : σ} {command : String} {o : CommandOutput}
    (ran : n.output? c w = some (command, o)) (noisy : o.IsNoisy) :
    PartAnswers n.name command o (n.perform c .fail w) (n.perform c .ignore w) := by
  unfold StepNode.output? at ran
  unfold perform
  cases kind : n.kind with
  | build script =>
    simp only [kind] at ran
    exact performScript_of_noisy ran noisy _
  | typeScript config =>
    simp only [kind] at ran
    obtain ⟨rfl, result⟩ := commandOutput?_eq_some ran
    exact performCommand_of_noisy result noisy _
  | test source =>
    cases source with
    | command command =>
      simp only [kind] at ran
      obtain ⟨rfl, result⟩ := commandOutput?_eq_some ran
      exact performCommand_of_noisy result noisy _
    | script script =>
      simp only [kind] at ran
      exact performScript_of_noisy ran noisy _
  | finish result => simp [kind] at ran
  | unknown tag => simp [kind] at ran

/-- One step of a run is the same under both policies when its command is not noisy. -/
lemma Graph.block_of_quiet (g : Graph) {n : StepNode} {w : σ} (quiet : ¬ Turn.IsNoisy c ⟨n, w⟩) :
    g.block c .fail n w = g.block c .ignore n w := by
  unfold Graph.block
  rw [StepNode.perform_of_quiet quiet]

/-- A step whose command runs is of a known type. -/
lemma StepNode.isUnknown_of_output? {n : StepNode} {w : σ} {ran : String × CommandOutput}
    (h : n.output? c w = some ran) : n.kind.isUnknown = false := by
  unfold StepNode.output? at h
  cases kind : n.kind with
  | unknown tag => simp [kind] at h
  | _ => rfl

/-- The notices of a step whose noisy command decides part after its start and its log. -/
lemma Graph.notices_of_noisy (g : Graph) {n : StepNode} {w : σ} {command : String}
    {o : CommandOutput} (ran : n.output? c w = some (command, o)) (noisy : o.IsNoisy) :
    ∃ (log : List LogEntry) (warning : LogEntry),
      (g.block c .fail n w).notices = startNotices n ++ log.map .log ++
        [.log warning,
          .event (.stepFailed n.name (o.noise command) (g.targetName n.onFailure))] ∧
      (g.block c .ignore n w).notices = startNotices n ++ log.map .log ++
        [.event (.stepOutput n.name o.stdout),
          .event (.stepSucceeded n.name (g.targetName n.onSuccess))] := by
  obtain ⟨log, w', lax, strict⟩ := StepNode.perform_of_noisy ran noisy
  have known := StepNode.isUnknown_of_output? ran
  refine ⟨log, .warn ("Error while executing " ++ n.name ++ ": " ++ o.noise command), ?_, ?_⟩
  · rw [g.notices_block_of_known known, strict]
    simp [outcomeEvents]
  · rw [g.notices_block_of_known known, lax]
    simp [outcomeEvents]

/-- What a step leaves does not depend on the policy. -/
lemma StepNode.leaves_policy (n : StepNode) (policy policy' : StderrPolicy) (w : σ) :
    n.leaves c policy w = n.leaves c policy' w := by
  have world : (n.perform c policy w).world = (n.perform c policy' w).world := by
    have script (script : String) : (performScript c policy n.name script w).world =
        (performScript c policy' n.name script w).world := by
      cases found : (c.lookup script w).result <;> simp [performScript, found, performCommand]
    unfold StepNode.perform
    cases n.kind with
    | build name => exact script name
    | test source =>
      cases source with
      | command command => rfl
      | script name => exact script name
    | _ => rfl
  rw [leaves, leaves, world]

/-- The turns of steps are the same under all policies. -/
lemma turns_policy (policy policy' : StderrPolicy) (w : σ) (ns : List StepNode) :
    turns c policy w ns = turns c policy' w ns := by
  induction ns generalizing w with
  | nil => rfl
  | cons n ns ih => rw [turns, turns, n.leaves_policy policy policy', ih]

/-- Steps leave the same world under all policies. -/
lemma worldAfter_policy (policy policy' : StderrPolicy) (w : σ) (ns : List StepNode) :
    worldAfter c policy w ns = worldAfter c policy' w ns := by
  induction ns generalizing w with
  | nil => rfl
  | cons n ns ih => rw [worldAfter, worldAfter, n.leaves_policy policy policy', ih]

/-- Steps demand the same calls under all policies. -/
lemma callsOf_policy (policy policy' : StderrPolicy) (w : σ) (ns : List StepNode) :
    callsOf c policy w ns = callsOf c policy' w ns := by
  rw [callsOf, callsOf, turns_policy policy policy']

/-- Steps whose commands are not noisy have the same notices under both policies. -/
lemma Graph.noticesOf_of_quiet (g : Graph) {w : σ} {ns : List StepNode}
    (quiet : ∀ turn ∈ turns c .ignore w ns, ¬ turn.IsNoisy c) :
    g.noticesOf c .fail w ns = g.noticesOf c .ignore w ns := by
  rw [noticesOf, noticesOf, turns_policy .fail .ignore]
  apply List.flatMap_congr
  intro turn mem
  rw [g.block_of_quiet (quiet turn mem)]

variable {g : Graph} {target : Target} {w : σ}

/-- Courses under the two policies go through the same steps as long as no command is noisy. -/
lemma Course.common {before after ns : List StepNode} {t t' : Terminal}
    (lax : Course c .ignore g target w (before ++ after) t') (strict : Course c .fail g target w ns t)
    (quiet : ∀ turn ∈ turns c .ignore w before, ¬ turn.IsNoisy c) :
    ∃ target' after', ns = before ++ after' ∧
      Course c .ignore g target' (worldAfter c .ignore w before) after t' ∧
      Course c .fail g target' (worldAfter c .ignore w before) after' t := by
  induction before generalizing target w ns with
  | nil => exact ⟨target, ns, rfl, lax, strict⟩
  | cons n before ih =>
    obtain ⟨here, quiet⟩ := List.forall_mem_cons.1 quiet
    cases lax with
    | turn found lax =>
      cases strict with
      | turn found' strict =>
        obtain rfl := Option.some.inj (found.symm.trans found')
        have same : n.succeeds c .fail w = n.succeeds c .ignore w := by
          rw [StepNode.succeeds, StepNode.succeeds, StepNode.perform_of_quiet here]
        rw [same, n.leaves_policy .fail .ignore] at strict
        obtain ⟨target', after', rfl, lax', strict'⟩ := ih lax strict quiet
        exact ⟨target', after', rfl, lax', strict'⟩

/-- Steps whose commands are not noisy make the same run under both policies. -/
lemma sameRun_of_quiet {ns : List StepNode}
    (quiet : ∀ turn ∈ turns c .ignore w ns, ¬ turn.IsNoisy c) (id id' : ExecutionId)
    (t : Terminal) :
    g.SameRun id id' (g.passage c.recorded .fail id (w, []) ns t)
      (g.passage c.recorded .ignore id' (w, []) ns t) := by
  rw [g.passage_recorded, g.passage_recorded]
  constructor
  case notices => exact ⟨_, by rw [g.noticesOf_of_quiet quiet], rfl⟩
  case executed => rfl
  case terminal => rfl
  case world => rw [worldAfter_policy .fail .ignore, callsOf_policy .fail .ignore]

/-- A step with a noisy command makes the runs part that are the same up to there. -/
lemma partsAt_of_noisy {before after after' : List StepNode} {n : StepNode}
    (quiet : ∀ turn ∈ turns c .ignore w before, ¬ turn.IsNoisy c) {command : String}
    {o : CommandOutput} (ran : n.output? c (worldAfter c .ignore w before) = some (command, o))
    (noisy : o.IsNoisy) (id id' : ExecutionId) (t t' : Terminal) :
    g.PartsAt c id id' w before n command o
      (g.passage c.recorded .fail id (w, []) (before ++ n :: after') t)
      (g.passage c.recorded .ignore id' (w, []) (before ++ n :: after) t') := by
  have shared (ns : List StepNode) : before ++ [n] <+: before ++ n :: ns := ⟨ns, by simp⟩
  have calls (policy : StderrPolicy) (ns : List StepNode) :
      callsOf c .ignore w (before ++ [n]) <+: callsOf c policy w (before ++ n :: ns) := by
    obtain ⟨rest, split⟩ := shared ns
    rw [callsOf_policy .ignore policy, ← split, callsOf_append policy w (before ++ [n]) rest]
    exact List.prefix_append ..
  -- up to the noisy step the turns are the same, and its own block is where the policies part
  obtain ⟨log, warning, strict, lax⟩ := g.notices_of_noisy ran noisy
  rw [g.passage_recorded, g.passage_recorded]
  constructor
  case executed => exact ⟨(shared _).map _, (shared _).map _⟩
  case calls => exact ⟨calls _ _, calls _ _⟩
  case notices =>
    have here (policy : StderrPolicy) (ns : List StepNode) :
        g.noticesOf c policy w (before ++ n :: ns) = g.noticesOf c .ignore w before ++
          ((g.block c policy n (worldAfter c .ignore w before)).notices ++
            g.noticesOf c policy (n.leaves c policy (worldAfter c .ignore w before)) ns) := by
      have same : g.noticesOf c policy w before = g.noticesOf c .ignore w before := by
        cases policy with
        | fail => exact g.noticesOf_of_quiet quiet
        | ignore => rfl
      rw [g.noticesOf_append, g.noticesOf_cons, same, worldAfter_policy policy .ignore]
    refine ⟨log, warning,
      g.noticesOf c .fail (n.leaves c .fail (worldAfter c .ignore w before)) after' ++
        Graph.finishNotices id t,
      g.noticesOf c .ignore (n.leaves c .ignore (worldAfter c .ignore w before)) after ++
        Graph.finishNotices id' t', ?_, ?_⟩
    · rw [here, strict]
      simp only [List.append_assoc]
    · rw [here, lax]
      simp only [List.append_assoc]

end

/-- The runs of a compiled graph under the two policies, from the same world, are the same but for
their identifiers when no command of the lax run is noisy. Otherwise they are the same up to the
first step whose command is: its start and its calls are the last that they have in common. -/
theorem run_policies {root : String} {r : Registry} {g : Graph} (h : Graph.compile root r = .ok g)
    {σ : Type} (c : Collaborators σ) (id id' : ExecutionId) (w : σ) :
    ∃ p p', g.run c.recorded .fail id (w, []) = some p ∧
      g.run c.recorded .ignore id' (w, []) = some p' ∧
      ((∀ turn ∈ turns c .ignore w (g.stepsOf p'), ¬ turn.IsNoisy c) → g.SameRun id id' p p') ∧
      ∀ before n after command o, g.stepsOf p' = before ++ n :: after →
        (∀ turn ∈ turns c .ignore w before, ¬ turn.IsNoisy c) →
        n.output? c (worldAfter c .ignore w before) = some (command, o) → o.IsNoisy →
        g.PartsAt c id id' w before n command o p p' := by
  have d := Graph.depicts_of_compile h
  obtain ⟨ns, t, strict⟩ := exists_course_of_compile h c .fail w
  obtain ⟨ns', t', lax⟩ := exists_course_of_compile h c .ignore w
  refine ⟨_, _, run_of_course d (strict.recorded []) id, run_of_course d (lax.recorded []) id', ?_⟩
  rw [stepsOf_passage (Graph.nodup_of_compile h) id' _ lax.mem t']
  constructor
  -- with no noisy step the whole lax course is common to both
  · intro quiet
    rw [← List.append_nil ns'] at lax
    obtain ⟨target, after, rfl, lax, strict⟩ := lax.common strict quiet
    obtain rfl := lax.of_nil
    cases strict
    rw [List.append_nil]
    exact sameRun_of_quiet quiet id id' _
  · rintro before n after command o rfl quiet ran noisy
    obtain ⟨target, after', rfl, lax, strict⟩ := lax.common strict quiet
    cases lax with
    | turn here _ =>
      obtain ⟨rest, rfl⟩ := strict.head here
      exact partsAt_of_noisy quiet ran noisy id id' t t'

/-- Collaborators that count the commands that were run: every script is a command of its own name,
all commands write a line end to standard error, and the first one fails. -/
def grumbling : Collaborators Nat where
  lookup script w := ⟨.ok script, [], w⟩
  run _ w := ⟨.ok { stderr := "\n", exitCode := some (if w = 0 then 1 else 0) }, [], w + 1⟩

/-- The runs of the diamond in which every command writes to standard error and the first one fails
part at the step `c`, whose command is the first to exit with status zero. -/
theorem run_policies_diamond :
    Graph.compile "a" Graph.diamondRegistry = .ok Graph.diamond ∧
    ∃ p p', Graph.diamond.run grumbling.recorded .fail .nil (0, []) = some p ∧
      Graph.diamond.run grumbling.recorded .ignore .nil (0, []) = some p' ∧
      Graph.diamond.PartsAt grumbling .nil .nil 0
        [⟨1, "a", .test (.script "test"), .step 1, .step 3⟩] ⟨4, "c", .build "c", .step 2, .step 2⟩
        "c" { stderr := "\n", exitCode := some 0 } p p' := by
  obtain ⟨p, p', run, run', -, parts⟩ := run_policies Graph.compile_diamond grumbling .nil .nil 0
  have executed : (Graph.diamond.run grumbling.recorded .ignore .nil (0, [])).map Passage.executed =
      some ["a", "c", "d"] := by decide
  rw [run', Option.map_some, Option.some.injEq] at executed
  refine ⟨Graph.compile_diamond, p, p', run, run', ?_⟩
  apply parts _ _ [⟨3, "d", .build "d", .terminal (.byDefault true), .terminal (.byDefault false)⟩]
  · rw [Graph.stepsOf, executed]
    rfl
  · intro turn mem
    obtain rfl := List.mem_singleton.1 mem
    rintro ⟨command, o, ran, clean, -⟩
    cases ran
    cases clean
  · rfl
  · exact ⟨rfl, by decide⟩

end Pipeline
