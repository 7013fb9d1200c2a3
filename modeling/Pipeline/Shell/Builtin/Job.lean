import Pipeline.Shell.Builtin.Arguments
import Pipeline.Shell.Process

/-!
# Builtins for jobs

The processes in the background are listed as jobs, and processes are sent signals.
-/

namespace Pipeline.Shell

/-- The process of a job that is named by its number or as the current or the previous one. -/
def State.job? (s : State) (name : String) : Option Nat :=
  match name.toList.drop 1 with
  | [] | ['%'] | ['+'] => s.jobs.head?.map Prod.snd
  | ['-'] => (s.jobs[1]?).map Prod.snd
  | digits => (String.ofList digits).toNat?.bind fun n => s.jobs.lookup n

/-- What is said of how a process ended, or that it did not. -/
def Process.describe (p : Process) : String :=
  match p.ended with
  | none => "Running"
  | some (.exited 0) => "Done"
  | some (.exited n) => "Done(" ++ toString n ++ ")"
  | some (.signalled n) => Signal.textOf n

namespace Builtin

/-- The process that an argument names by a job or a number. -/
def processOf (command arg : String) : Act Nat := do
  if arg.toList.head? = some '%' then
    match (← get).job? arg with
    | some n => return n
    | none => abort command ("No such job: " ++ arg)
  else number command arg

/-- Lists the jobs, and forgets those that ended. -/
def jobs (args : List String) : Act Nat := do
  let (options, _) ← takeOptions "jobs" "lp" (args.length + 1) args
  let mut left := 0
  for (job, n) in (← get).jobs do
    if let some p := (← get).process? n then
      let sign := if left = 0 then " + " else if left = 1 then " - " else "   "
      let text := p.describe
      if options.any fun o => o.1 == 'p' then Act.say (toString n ++ "\n")
      else
        Act.say ("[" ++ toString job ++ "]" ++ sign ++ text ++
          String.ofList (List.replicate (27 - text.length) ' ') ++ "\n")
      if p.ended.isNone then left := left + 1
  modify fun s =>
    { s with jobs := s.jobs.filter fun j => (s.process? j.2).any fun p => p.ended.isNone }
  return 0

/-- A job cannot be brought to the front or sent back where there are none. -/
def resume (command : String) (_ : List String) : Act Nat :=
  abort command "No current job"

/-- Sends a signal. -/
def kill (args : List String) : Act Nat := do
  match KillRequest.ofArguments args with
  | .error problem => abort "kill" problem
  | .ok (.list names) =>
    Act.say (String.join (names.map (· ++ "\n")))
    return 0
  | .ok (.send signal targets) =>
    let mut status := 0
    for target in targets do
      let reached ←
        match target.toList with
        | '%' :: _ =>
          let _ ← processOf "kill" target
          pure false
        | '-' :: digits =>
          let _ ← number "kill" (String.ofList digits)
          pure false
        | _ =>
          let n ← number "kill" target
          let own := (← get).process
          Act.sendSignal (if n = 0 then own else n) signal
      if !reached then
        report "kill" "No such process\n"
        status := 1
    return status

end Builtin

end Pipeline.Shell
