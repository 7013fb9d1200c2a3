/-!
# Signals

The signals that a process can be sent, by name and number, and what is asked of `kill`.
-/

namespace Pipeline.Shell

/-- A signal that a process can be sent. -/
structure Signal where
  name : String
  number : Nat
  /-- What is said of a process that it ended. -/
  text : String
  /-- Whether a process ends when it does not expect the signal. -/
  ends : Bool := true
  deriving DecidableEq, Repr

namespace Signal

/-- The signals that have a meaning, in the order of their numbers. -/
def classic : List Signal :=
  [⟨"HUP", 1, "Hangup", true⟩, ⟨"INT", 2, "", true⟩, ⟨"QUIT", 3, "Quit", true⟩,
    ⟨"ILL", 4, "Illegal instruction", true⟩, ⟨"TRAP", 5, "Trace/breakpoint trap", true⟩,
    ⟨"ABRT", 6, "Aborted", true⟩, ⟨"BUS", 7, "Bus error", true⟩,
    ⟨"FPE", 8, "Floating point exception", true⟩, ⟨"KILL", 9, "Killed", true⟩,
    ⟨"USR1", 10, "User defined signal 1", true⟩, ⟨"SEGV", 11, "Segmentation fault", true⟩,
    ⟨"USR2", 12, "User defined signal 2", true⟩, ⟨"PIPE", 13, "", true⟩,
    ⟨"ALRM", 14, "Alarm clock", true⟩, ⟨"TERM", 15, "Terminated", true⟩,
    ⟨"16", 16, "Stack fault", true⟩, ⟨"CHLD", 17, "", false⟩, ⟨"CONT", 18, "", false⟩,
    ⟨"STOP", 19, "", false⟩, ⟨"TSTP", 20, "", false⟩, ⟨"TTIN", 21, "", false⟩,
    ⟨"TTOU", 22, "", false⟩, ⟨"URG", 23, "", false⟩,
    ⟨"XCPU", 24, "CPU time limit exceeded", true⟩, ⟨"XFSZ", 25, "File size limit exceeded", true⟩,
    ⟨"VTALRM", 26, "Virtual timer expired", true⟩, ⟨"PROF", 27, "Profiling timer expired", true⟩,
    ⟨"WINCH", 28, "", false⟩, ⟨"IO", 29, "I/O possible", true⟩, ⟨"PWR", 30, "Power failure", true⟩,
    ⟨"SYS", 31, "Bad system call", true⟩, ⟨"32", 32, "Unknown signal 32", true⟩,
    ⟨"33", 33, "Unknown signal 33", true⟩]

/-- The signals without a meaning of their own, named by their distance from the first or the
last. -/
def realTime : List Signal :=
  (List.range 31).map fun k =>
    let name :=
      if k = 0 then "RTMIN"
      else if k ≤ 15 then "RTMIN+" ++ toString k
      else if k < 30 then "RTMAX-" ++ toString (30 - k)
      else "RTMAX"
    ⟨name, 34 + k, "Real-time signal " ++ toString k, true⟩

/-- All signals in the order of their numbers. -/
def all : List Signal :=
  classic ++ realTime

/-- The signal of a number. -/
def ofNumber? (n : Nat) : Option Signal :=
  all.find? fun s => s.number == n

/-- The signal of a name, in letters of either case, or of a number. -/
def find? (text : String) : Option Signal :=
  match text.toNat? with
  | some n => ofNumber? n
  | none => all.find? fun s => s.name.toList == text.toList.map Char.toUpper

/-- What is said of a process that a signal ended. -/
def textOf (number : Nat) : String :=
  ((ofNumber? number).map Signal.text).getD "Killed"

end Signal

/-- The name of a condition that a trap can be set for. -/
def conditionOf (text : String) : Option String :=
  if text = "0" ∨ text = "EXIT" then some "EXIT" else (Signal.find? text).map Signal.name

/-- What is asked of `kill`: names of signals, or that a signal is sent; none is sent to ask whether
there is such a process. -/
inductive KillRequest where
  | list (names : List String)
  | send (signal : Option Signal) (targets : List String)
  deriving DecidableEq, Repr

namespace KillRequest

/-- The signal of an argument, where zero stands for none. -/
def signal? (text : String) : Option (Option Signal) :=
  if text = "0" then some none else (Signal.find? text).map some

/-- The request for names: of all signals, or of the one that ended a process with a status. -/
def names : List String → Except String KillRequest
  | [] => .ok (.list ("0" :: Signal.all.map Signal.name))
  | status :: _ =>
    match status.toNat? with
    | none => .error ("Illegal number: " ++ status)
    | some n =>
      match Signal.ofNumber? (if 128 < n then n - 128 else n) with
      | some s => .ok (.list [s.name])
      | none => .error ("invalid signal number or exit status: " ++ status)

/-- What the arguments ask for, or what is wrong with them. -/
def ofArguments (args : List String) : Except String KillRequest :=
  let send (signal : Option Signal) (targets : List String) : Except String KillRequest :=
    if targets.isEmpty then
      .error "Usage: kill [-s sigspec | -signum | -sigspec] [pid | job]... or\nkill -l [exitstatus]"
    else .ok (.send signal targets)
  match args with
  | [] => send none []
  | arg :: rest =>
    match arg.toList with
    | ['-', '-'] => send (Signal.find? "TERM") rest
    | '-' :: c :: cs =>
      match signal? (String.ofList (c :: cs)) with
      | some signal => send signal rest
      | none =>
        if c = 'l' ∧ cs = [] then names rest
        else if c = 's' ∧ cs.isEmpty ∧ rest.isEmpty then .error "No arg for -s option"
        else if c = 's' then
          let (name, targets) :=
            if cs.isEmpty then (rest.headD "", rest.drop 1) else (String.ofList cs, rest)
          match signal? name with
          | some signal => send signal targets
          | none => .error ("invalid signal number or name: " ++ name)
        else .error ("Illegal option -" ++ c.toString)
    | _ => send (Signal.find? "TERM") args

end KillRequest

end Pipeline.Shell
