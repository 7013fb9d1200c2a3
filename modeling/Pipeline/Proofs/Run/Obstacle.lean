import Pipeline.Proofs.Run.Calls

/-!
# What steps succeed and what stands in their way

A step succeeds when it has a command, its own or that of its script, and the command is started,
exits with status zero and writes nothing to standard error unless the policy lets it. The first of
these that does not come about is the obstacle that the step meets: it ends what the step does, and
its text is the reason for the failure. There is no third way (`StepNode.result_perform_iff`;
specification, section 14, failure causes).
-/

namespace Pipeline

/-- What stands in the way of a step's success. -/
inductive Obstacle where
  /-- Steps of this kind are not performed here. -/
  | unhandled (kind : StepKind)
  /-- The manifest has no command for the script. -/
  | lookup (e : ManifestError)
  /-- The command cannot be started. -/
  | spawn (e : SpawnError)
  /-- The command ends without an exit code. -/
  | killed (command : String)
  /-- The command exits with a code other than zero. -/
  | exit (command : String) (code : Int) (stderr : String)
  /-- The command exits with zero, but what it wrote to standard error counts as a failure. -/
  | noise (command : String) (stderr : String)
  deriving DecidableEq, Repr

/-- The reason for a failure that an obstacle gives. -/
def Obstacle.reason : Obstacle → String
  | .unhandled kind => "No handler for step type " ++ kind.tag
  | .lookup e => e.message
  | .spawn e => e.message
  | .killed command => "`" ++ command ++ "` was terminated by a signal"
  | .exit command code stderr =>
    "`" ++ command ++ "` exited with code " ++ toString code ++ ": " ++ Text.trim stderr
  | .noise command stderr => "`" ++ command ++ "` wrote to stderr: " ++ Text.trim stderr

/-- A finished command is as it should be: it exited with status zero, and standard error is empty
unless the policy ignores it. -/
structure CommandOutput.Passes (policy : StderrPolicy) (o : CommandOutput) : Prop where
  exitCode : o.exitCode = some 0
  stderr : policy = .ignore ∨ o.stderr = ""

/-- What is wrong with a finished command; its exit code comes before its standard error. -/
inductive CommandOutput.Meets (policy : StderrPolicy) (command : String) (o : CommandOutput) :
    Obstacle → Prop where
  | killed :
    o.exitCode = none →
    Meets policy command o (.killed command)
  | exit {code} :
    o.exitCode = some code →
    code ≠ 0 →
    Meets policy command o (.exit command code o.stderr)
  | noise :
    o.exitCode = some 0 →
    policy = .fail →
    o.stderr ≠ "" →
    Meets policy command o (.noise command o.stderr)

/-- A kind of steps that run a script of the manifest. -/
def StepKind.RunsScript (kind : StepKind) (script : String) : Prop :=
  kind = .build script ∨ kind = .test (.script script)

/-- A kind of steps for which there is no handler. -/
def StepKind.RunsNothing (kind : StepKind) : Prop :=
  (∃ result, kind = .finish result) ∨ ∃ tag, kind = .unknown tag

section

variable {σ : Type} (c : Collaborators σ) (policy : StderrPolicy) (n : StepNode) (w : σ)

/-- A step comes to have a command, to be run in a world, after some calls: it has one of its own,
or the manifest has one for its script. -/
inductive StepNode.Obtains : String → σ → List (Call σ) → Prop where
  | compiler {config} :
    n.kind = .typeScript config →
    Obtains ("tsc -p " ++ config) w []
  | own {command} :
    n.kind = .test (.command command) →
    Obtains command w []
  | script {script command} :
    n.kind.RunsScript script →
    (c.lookup script w).result = .ok command →
    Obtains command (c.lookup script w).world [.ofLookup c script w]

/-- A step gets through, with the standard output of its command and all its calls. -/
inductive StepNode.GetsThrough : String → List (Call σ) → Prop where
  | ran {command w' calls o} :
    n.Obtains c w command w' calls →
    (c.run command w').result = .ok o →
    o.Passes policy →
    GetsThrough o.stdout (calls ++ [.ofRun c command w'])

/-- The first obstacle that a step meets, and the calls that it has made by then. -/
inductive StepNode.Meets : Obstacle → List (Call σ) → Prop where
  | unhandled :
    n.kind.RunsNothing →
    Meets (.unhandled n.kind) []
  | lookup {script e} :
    n.kind.RunsScript script →
    (c.lookup script w).result = .error e →
    Meets (.lookup e) [.ofLookup c script w]
  | spawn {command w' calls e} :
    n.Obtains c w command w' calls →
    (c.run command w').result = .error e →
    Meets (.spawn e) (calls ++ [.ofRun c command w'])
  | ran {command w' calls o obstacle} :
    n.Obtains c w command w' calls →
    (c.run command w').result = .ok o →
    o.Meets policy command obstacle →
    Meets obstacle (calls ++ [.ofRun c command w'])

end

namespace CommandOutput

variable {policy : StderrPolicy} {command : String} {o : CommandOutput}

/-- A command that is as it should be makes its step succeed. -/
lemma Passes.judge (h : o.Passes policy) (command : String) :
    o.judge policy command = .success o.stdout := by
  obtain ⟨exit, silent⟩ := h
  have quiet : ¬ (policy = .fail ∧ o.hasStderr = true) := by
    rintro ⟨rfl, noise⟩
    rcases silent with ignored | empty
    · cases ignored
    · simp [hasStderr, empty] at noise
  simp [CommandOutput.judge, exit, quiet]

/-- What is wrong with a command is the reason for which its step fails. -/
lemma Meets.judge {obstacle : Obstacle} (h : o.Meets policy command obstacle) :
    o.judge policy command = .failure obstacle.reason := by
  unfold CommandOutput.judge
  cases h with
  | killed none => rw [none]; rfl
  | exit exit failed => rw [exit]; exact if_pos failed
  | noise exit strict noise =>
    have noisy : o.hasStderr = true := by simpa [hasStderr] using noise
    rw [exit]
    exact (if_neg (not_not_intro rfl)).trans (if_pos ⟨strict, noisy⟩)

/-- A command is as it should be, or something is wrong with it. -/
lemma passes_or_meets (policy : StderrPolicy) (command : String) (o : CommandOutput) :
    o.Passes policy ∨ ∃ obstacle, o.Meets policy command obstacle := by
  cases exit : o.exitCode with
  | none => exact .inr ⟨_, .killed exit⟩
  | some code =>
    by_cases clean : code = 0
    · subst clean
      by_cases silent : o.stderr = ""
      · exact .inl ⟨exit, .inr silent⟩
      · cases policy with
        | ignore => exact .inl ⟨exit, .inl rfl⟩
        | fail => exact .inr ⟨_, .noise exit rfl silent⟩
    · exact .inr ⟨_, .exit exit clean⟩

end CommandOutput

namespace StepNode

variable {σ : Type} {c : Collaborators σ} {policy : StderrPolicy} {n : StepNode} {w : σ}

/-- What comes of a step that has a command is what comes of the command, and the command is the
last of its calls. -/
lemma Obtains.perform {command : String} {w' : σ} {calls : List (Call σ)}
    (h : n.Obtains c w command w' calls) (policy : StderrPolicy) :
    (n.perform c policy w).result = judgeCommand policy command (c.run command w').result ∧
      n.calls c w = calls ++ [.ofRun c command w'] := by
  cases h with
  | compiler kind => simp [StepNode.perform, performCommand, compilerCommand, StepNode.calls, kind]
  | own kind => simp [StepNode.perform, performCommand, StepNode.calls, kind]
  | script kind found =>
    rcases kind with kind | kind <;>
      simp [StepNode.perform, performScript, performCommand, StepNode.calls, scriptCalls, kind,
        found]

/-- The calls that a step adds to an empty list are those that it demands. -/
lemma calls_recorded (c : Collaborators σ) (policy : StderrPolicy) (n : StepNode) (w : σ) :
    (n.perform c.recorded policy (w, [])).world.2 = n.calls c w := by
  rw [n.perform_recorded]
  rfl

/-- A step that gets through succeeds with the output of its command. -/
lemma GetsThrough.perform {output : String} {calls : List (Call σ)}
    (h : n.GetsThrough c policy w output calls) :
    (n.perform c policy w).result = .success output ∧ n.calls c w = calls := by
  cases h with
  | @ran command _ _ o obtained ran passes =>
    obtain ⟨result, demanded⟩ := obtained.perform policy
    exact ⟨by rw [result, ran]; exact passes.judge command, demanded⟩

/-- A step that meets an obstacle fails for the reason that this gives. -/
lemma Meets.perform {obstacle : Obstacle} {calls : List (Call σ)}
    (h : n.Meets c policy w obstacle calls) :
    (n.perform c policy w).result = .failure obstacle.reason ∧ n.calls c w = calls := by
  cases h with
  | unhandled kind =>
    unfold StepNode.perform StepNode.calls
    rcases kind with ⟨result, kind⟩ | ⟨tag, kind⟩ <;> rw [kind] <;> exact ⟨rfl, rfl⟩
  | lookup kind missing =>
    unfold StepNode.perform StepNode.calls
    rcases kind with kind | kind <;> simp only [kind, performScript, scriptCalls, missing] <;>
      exact ⟨rfl, trivial⟩
  | spawn obtained stuck =>
    obtain ⟨result, demanded⟩ := obtained.perform policy
    exact ⟨by rw [result, stuck]; rfl, demanded⟩
  | ran obtained ran wrong =>
    obtain ⟨result, demanded⟩ := obtained.perform policy
    exact ⟨by rw [result, ran]; exact wrong.judge, demanded⟩

/-- A step that has a command gets through or meets an obstacle. -/
lemma Obtains.getsThrough_or_meets {command : String} {w' : σ} {calls : List (Call σ)}
    (h : n.Obtains c w command w' calls) (policy : StderrPolicy) :
    (∃ output made, n.GetsThrough c policy w output made) ∨
      ∃ obstacle made, n.Meets c policy w obstacle made := by
  cases ran : (c.run command w').result with
  | error e => exact .inr ⟨_, _, .spawn h ran⟩
  | ok o =>
    rcases o.passes_or_meets policy command with passes | ⟨obstacle, wrong⟩
    · exact .inl ⟨_, _, .ran h ran passes⟩
    · exact .inr ⟨_, _, .ran h ran wrong⟩

/-- A step that runs a script gets through or meets an obstacle. -/
lemma getsThrough_or_meets_of_runsScript {script : String} (h : n.kind.RunsScript script)
    (c : Collaborators σ) (policy : StderrPolicy) (w : σ) :
    (∃ output calls, n.GetsThrough c policy w output calls) ∨
      ∃ obstacle calls, n.Meets c policy w obstacle calls := by
  cases found : (c.lookup script w).result with
  | error e => exact .inr ⟨_, _, .lookup h found⟩
  | ok command => exact (Obtains.script h found).getsThrough_or_meets policy

/-- A step gets through or meets an obstacle. -/
lemma getsThrough_or_meets (c : Collaborators σ) (policy : StderrPolicy) (n : StepNode) (w : σ) :
    (∃ output calls, n.GetsThrough c policy w output calls) ∨
      ∃ obstacle calls, n.Meets c policy w obstacle calls := by
  cases kind : n.kind with
  | build script => exact getsThrough_or_meets_of_runsScript (.inl kind) c policy w
  | typeScript config => exact (Obtains.compiler kind).getsThrough_or_meets policy
  | test source =>
    cases source with
    | command command => exact (Obtains.own kind).getsThrough_or_meets policy
    | script script => exact getsThrough_or_meets_of_runsScript (.inr kind) c policy w
  | finish result => exact .inr ⟨_, _, .unhandled (.inl ⟨result, kind⟩)⟩
  | unknown tag => exact .inr ⟨_, _, .unhandled (.inr ⟨tag, kind⟩)⟩

/-- A step succeeds with an output after some calls exactly when it gets through with them, and
fails for a reason after some calls exactly when the first obstacle that it meets is met with them
and gives that reason. One of the two happens to every step. -/
theorem result_perform_iff (c : Collaborators σ) (policy : StderrPolicy) (n : StepNode) (w : σ) :
    (∀ output calls,
      (n.perform c policy w).result = .success output ∧
          (n.perform c.recorded policy (w, [])).world.2 = calls ↔
        n.GetsThrough c policy w output calls) ∧
    (∀ reason calls,
      (n.perform c policy w).result = .failure reason ∧
          (n.perform c.recorded policy (w, [])).world.2 = calls ↔
        ∃ obstacle, n.Meets c policy w obstacle calls ∧ obstacle.reason = reason) ∧
    ((∃ output calls, n.GetsThrough c policy w output calls) ∨
      ∃ obstacle calls, n.Meets c policy w obstacle calls) := by
  rw [calls_recorded]
  -- each of the two settles the outcome, so the outcome tells which of them it was
  have ends := getsThrough_or_meets c policy n w
  refine ⟨fun output calls => ⟨?_, GetsThrough.perform⟩, fun reason calls => ⟨?_, ?_⟩, ends⟩
  · rintro ⟨succeeded, rfl⟩
    rcases ends with ⟨_, _, through⟩ | ⟨_, _, meets⟩
    · obtain ⟨result, demanded⟩ := through.perform
      cases succeeded.symm.trans result
      rwa [demanded]
    · cases succeeded.symm.trans meets.perform.1
  · rintro ⟨failed, rfl⟩
    rcases ends with ⟨_, _, through⟩ | ⟨obstacle, _, meets⟩
    · cases failed.symm.trans through.perform.1
    · obtain ⟨result, demanded⟩ := meets.perform
      cases failed.symm.trans result
      exact ⟨obstacle, by rwa [demanded], rfl⟩
  · rintro ⟨obstacle, meets, rfl⟩
    exact meets.perform

end StepNode

end Pipeline
