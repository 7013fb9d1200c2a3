import Pipeline.Shell.Signal
import Pipeline.Shell.State

/-!
# Processes

A subshell is a process of its own: what it changes is lost but for files and streams. A process in
the background goes on whenever the shell that started it waits or lets time pass. Which of several
processes is first is decided by the times at which their next commands finish.
-/

namespace Pipeline.Shell

/-- Whether a process has still something to run. -/
def Process.isUnderWay (p : Process) : Bool :=
  p.ended.isNone && !p.pending.isEmpty

namespace State

/-- The process of a number. -/
def process? (s : State) (number : Nat) : Option Process :=
  s.processes.find? fun p => p.number == number

/-- The state with a process as it is now. -/
def withProcess (s : State) (p : Process) : State :=
  { s with processes := s.processes.map fun q => if q.number = p.number then p else q }

/-- The time that a process has come to. -/
def clockOf (s : State) (number : Nat) : Nat :=
  ((s.process? number).map Process.clock).getD s.clock

/-- The signals that were sent to the process and are not ignored. -/
def awaitedSignals (s : State) : List Nat :=
  ((s.signals.filter fun x => x.1 == s.process).map Prod.snd).filter fun n =>
    ((Signal.ofNumber? n).bind fun signal => s.traps.lookup signal.name) != some ""

end State

/-- The commands of a list one by one. -/
def Command.steps : Command → List Command
  | .sequence a b => a.steps ++ b.steps
  | .subshell body => body.steps
  | c => [c]

namespace Act

/-- What a shell says and keeps of a process that a signal ended. -/
def noteKilled (signal : Nat) : Act Unit := do
  let text := Signal.textOf signal
  if !text.isEmpty then warn (text ++ "\n")
  setStatus (128 + signal)

/-- The process before comes back, but for the status. -/
def comeBack (before : Local) : Act Unit :=
  modify fun s => { s with toLocal := { before with status := s.status } }

/-- Carries an action out to its end, and then `finish` unless a signal ended it; the signal
otherwise. -/
def runOut (finish action : Act Unit) : Act (Option Nat) := do
  match ← catchStop action with
  | some (.killed signal) => return some signal
  | _ =>
    match ← catchStop finish with
    | some (.killed signal) => return some signal
    | _ => return none

/-- Lets processes in the background go on, as `step` says, in the order in which their commands
finish: up to a time if there is a limit, and until it is enough. -/
def settle (step : Process → Act Unit) (limit : Option Nat) (enough : State → Bool) :
    Nat → Act Unit
  | 0 => return
  | fuel + 1 => do
    let s ← get
    if enough s then return
    let outcomes := (s.processes.filter Process.isUnderWay).map fun p =>
      let after := (((step p).run).run s).2
      (after.clockOf p.number, after)
    let first := outcomes.foldl (fun best o =>
      match best with
      | none => some o
      | some b => if o.1 < b.1 then some o else some b) none
    if let some (finish, after) := first then
      if limit.all fun t => finish ≤ t then
        set after
        settle step limit enough fuel

/-- How many commands in the background are run at most while a shell waits. -/
def settleLimit : Nat := 10000

/-- Lets the processes in the background catch up with the time. -/
def catchUp (step : Process → Act Unit) : Act Unit := do
  let s ← get
  if !s.processes.isEmpty then settle step (some s.clock) (fun _ => false) settleLimit

/-- Lets all processes come to their ends that were started after the one of a number. -/
def settleSince (step : Process → Act Unit) (number : Nat) : Act Unit := do
  let mine (p : Process) : Bool := number < p.number && p.isUnderWay
  settle step none (fun s => !s.processes.any mine) settleLimit

/-- An action in a process of its own, and how that ends. -/
def apart (finish action : Act Unit) : Act Ending := do
  let before := (← get).toLocal
  let number ← newProcess
  modify fun s =>
    { s with process := number, jobs := [], traps := s.traps.filter fun t => t.2.isEmpty }
  let killed ← runOut finish action
  comeBack before
  return killed.elim (.exited (← get).status) .signalled

/-- What a shell says and keeps of how a process that it waited for ended. -/
def noteEnding : Ending → Act Unit
  | .exited status => setStatus status
  | .signalled signal => noteKilled signal

/-- An action in a process of its own that is waited for. -/
def enclosed (finish action : Act Unit) : Act Unit := do
  noteEnding (← apart finish action)

/-- Runs the next command of a process in the background; what else has happened stays as it is. -/
def stepProcess (runNext : Command → Act Unit) (finish : Act Unit) (p : Process) :
    Act Unit := do
  let s ← get
  let started := s.withProcess { p with pending := [] }
  set { started with toLocal := p.state, clock := p.clock }
  let last := p.pending.length ≤ 1
  let stop ← catchStop ((p.pending.head?.map runNext).getD (pure ()))
  let ends := last || stop.isSome
  let killed ←
    match stop with
    | some (.killed signal) => pure (some signal)
    | _ => if ends then runOut finish (pure ()) else pure none
  let t ← get
  let after : Process :=
    { p with
      clock := t.clock
      pending := if ends then [] else p.pending.drop 1
      state := t.toLocal
      ended := if ends then some (killed.elim (.exited t.status) .signalled) else none }
  set { t.withProcess after with toLocal := s.toLocal, clock := s.clock }

/-- The process under way takes some time. -/
def elapse (time : Nat) : Act Unit :=
  modify fun s => { s with clock := s.clock + time }

/-- How long it takes until a process in the background starts, in microseconds. -/
def startDelay : Nat := 300

/-- Puts a command into the background. -/
def startProcess (command : Command) : Act Unit := do
  let number ← newProcess
  let empty ← newStream (.remaining [] false)
  modify fun s =>
    let own := { (s.withDescriptor 0 empty).toLocal with
      process := number, jobs := [], traps := s.traps.filter fun t => t.2.isEmpty, loops := 0 }
    let kept := s.jobs.filter fun j => ((s.process? j.2).map Process.waited) == some false
    let free (n : Nat) : Bool := !kept.any fun j => j.1 == n
    let job := ((List.range (kept.length + 1)).map (· + 1)).find? free
    { s with
      processes := s.processes ++ [⟨number, s.clock + startDelay, command.steps, own, none, false⟩]
      jobs := (job.getD 1, number) :: kept
      background := some number
      status := 0 }

/-- Sends a signal to a process that is not the one under way; `none` only asks whether there is
one. Tells whether there is one. -/
def sendSignal (target : Nat) (signal : Option Signal) : Act Bool := do
  let s ← get
  match s.process? target with
  | none =>
    if target = s.shell || target = s.process then
      if let some signal := signal then
        set { s with signals := s.signals ++ [(target, signal.number)] }
      return true
    else return false
  | some p =>
    if p.waited then return false
    if let some signal := signal then
      match if signal.name = "KILL" then none else p.state.traps.lookup signal.name with
      | some "" => pure ()
      | some _ => set { s with signals := s.signals ++ [(target, signal.number)] }
      | none =>
        if signal.ends && p.ended.isNone then
          set (s.withProcess { p with pending := [], ended := some (.signalled signal.number) })
    return true

/-- The actions for the signals that came, or the end if there is none for one of them. -/
def noticeSignals (runText : String → Act Unit) : Act Unit := do
  let s ← get
  let (mine, others) := s.signals.partition fun x => x.1 == s.process
  if !mine.isEmpty then
    set { s with signals := others }
    for (_, n) in mine.mergeSort fun a b => a.2 ≤ b.2 do
      if let some signal := Signal.ofNumber? n then
        match if signal.name = "KILL" then none else s.traps.lookup signal.name with
        | some action =>
          let outer := (← get).interrupted
          modify fun t => { t with interrupted := some s.status }
          runText action
          modify fun t => { t with interrupted := outer, status := s.status }
        | none => if signal.ends then throw (.killed n)

end Act

end Pipeline.Shell
