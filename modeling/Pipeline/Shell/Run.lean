import Pipeline.Run.Command
import Pipeline.Shell.Lookup
import Pipeline.Shell.Redirection
import Pipeline.Shell.Script
import Pipeline.Text.Blank

/-!
# Running shell commands

Commands run one after the other; the stages of a pipeline too, each on the whole output of the one
before. All functions share one measure of how deep they may call each other.
-/

namespace Pipeline.Shell

namespace Act

/-- The stop of a command that ends nothing but a call. -/
def untilReturn (action : Act Unit) : Act Unit := do
  match ← catchStop action with
  | none | some .function => return
  | some stop => throw stop

/-- An action on behalf of a builtin, which messages name. -/
def onBehalfOf (user : String) (action : Act Unit) : Act Unit := do
  let outer := (← get).user
  modify fun s => { s with user := some user }
  let stop ← catchStop action
  modify fun s => { s with user := outer }
  if let some stop := stop then throw stop

/-- An action whose failure ends nothing but itself. -/
def tolerant (action : Act Unit) : Act Unit := do
  let loops := (← get).loops
  match ← catchStop action with
  | none => return
  | some .failure => modify fun s => { s with loops := loops }
  | some stop => throw stop

/-- One round of a loop; tells whether there is another one. -/
def oneRound (round : Act Bool) : Act Bool := do
  let loops := (← get).loops
  try round
  catch stop =>
    match stop with
    | .loop again levels =>
      if levels ≤ 1 then
        modify fun s => { s with loops := loops }
        return again
      else
        modify fun s => { s with loops := loops - 1 }
        throw (.loop again (levels - 1))
    | stop => throw stop

/-- Nothing of this name can be run. -/
def refuseCommand (before name : String) (e : FileError) : Act Unit := do
  let missing := e = .noSuchFile || e = .notDirectory
  complain (before ++ name ++ ": " ++ if missing then "not found" else e.reason)
  let unreachable := missing || e = .tooManyLinks || e = .nameTooLong
  setStatus (if unreachable || !name.toList.contains '/' then 127 else 126)

end Act

/-- The interpreter that the first line of a script names, and an argument for it. -/
def interpreter? (content : List Char) : Option (String × List String) :=
  match content with
  | '#' :: '!' :: rest =>
    let line := (rest.takeWhile (· ≠ '\n')).dropWhile Text.isGap
    let name := line.takeWhile (!Text.isGap ·)
    let bare := (line.drop name.length).dropWhile Text.isGap
    let arg := (bare.reverse.dropWhile Text.isGap).reverse
    some (String.ofList name, if arg.isEmpty then [] else [String.ofList arg])
  | _ => none

/-- How a shell is started: the options it gets, the text of its commands if that is an argument,
and the arguments that are left. -/
structure ShellStart where
  letters : List (Bool × Char) := []
  names : List (Bool × String) := []
  inline : Bool := false
  fromInput : Bool := false
  rest : List String := []

/-- How arguments start a shell. -/
def ShellStart.ofArguments : Nat → ShellStart → List String → ShellStart
  | 0, start, args => { start with rest := args }
  | fuel + 1, start, args =>
    match args with
    | [] => start
    | arg :: rest =>
      let take (on : Bool) (cs : List Char) : ShellStart :=
        let named := cs.contains 'o'
        ofArguments fuel
          { start with
            letters := start.letters ++
              (cs.filter fun c => c != 'c' && c != 's' && c != 'o').map fun c => (on, c)
            names := start.names ++ if named then [(on, rest.headD "")] else []
            inline := start.inline || cs.contains 'c'
            fromInput := start.fromInput || cs.contains 's' }
          (if named then rest.drop 1 else rest)
      match arg.toList with
      | ['-', '-'] | ['-'] => { start with rest := rest }
      | '-' :: cs => take true cs
      | '+' :: cs => take false cs
      | _ => { start with rest := args }

/-- How much a pipe takes of what nobody reads. -/
def pipeRoom : Nat := 4194304

/-- How long it takes to run a program, in microseconds. -/
def programTime : Nat := 1000

mutual

/-- What commands write to standard output. -/
def capture : Nat → Capture
  | 0, _ => return ""
  | fuel + 1, commands => do
    let stream ← Act.newStream (.gathered [] none)
    let before ← get
    Act.enclosed (runExitTrap fuel) do
      modify fun s => s.withDescriptor 1 stream
      runAll fuel commands
    Act.settleSince (stepBackground fuel) before.lastProcess
    modify fun s => { s with substituted := some s.status, status := before.status }
    return String.ofList (((← get).outputOf stream).toList.filter (· ≠ '\x00'))

/-- The next command of a process in the background. -/
def stepBackground : Nat → Process → Act Unit
  | 0, _ => return
  | fuel + 1, p => Act.stepProcess (fun c => run fuel c false) (runExitTrap fuel) p

/-- The action for the end of a shell. -/
def runExitTrap : Nat → Act Unit
  | 0 => return
  | fuel + 1 => do
    let s ← get
    match s.traps.lookup "EXIT" with
    | none => return
    | some action =>
      set { s with traps := s.traps.filter fun t => t.1 != "EXIT", interrupted := some s.status }
      Act.untilReturn (runText fuel action false)
      Act.setStatus s.status

/-- Commands one after the other. -/
def runAll : Nat → List Command → Act Unit
  | 0, _ => return
  | _, [] => return
  | fuel + 1, command :: rest => do
    run fuel command false
    runAll fuel rest

/-- The commands of a text. -/
def runText : Nat → String → Bool → Act Unit
  | 0, _, _ => return
  | fuel + 1, text, tested => runSource fuel { rest := text.toList } false tested

/-- The commands that are left of a source, each line read when the one before was run; `ran` tells
whether there was one. -/
def runSource : Nat → Source → Bool → Bool → Act Unit
  | 0, _, _, _ => return
  | fuel + 1, source, ran, tested => do
    match ({ source with aliases := (← get).aliases }).next with
    | .error e =>
      modify fun s => { s with line := e.line }
      Act.abort e.text
    | .ok (none, _) => if !ran then Act.setStatus 0
    | .ok (some command, source) =>
      run fuel command tested
      runSource fuel source true tested

/-- A command, whose status is asked for if it is `tested`. -/
def run : Nat → Command → Bool → Act Unit
  | 0, _, _ => return
  | fuel + 1, command, tested => do
    if (← get).hasOption 'n' then return
    let check : Act Unit := do
      let s ← get
      if s.status ≠ 0 && !tested && s.hasOption 'e' then throw .exit
    let checked (action : Act Unit) : Act Unit := do
      action
      Act.noticeSignals fun text => runText fuel text false
      check
    match command with
    | .nothing => Act.setStatus 0
    | .simple line assignments words redirects =>
      checked (runSimple fuel line assignments words redirects tested)
    | .pipe stages =>
      checked do runStages fuel stages none tested (← get).clock
    | .negation c =>
      run fuel c true
      Act.setStatus (if (← get).status = 0 then 1 else 0)
    | .both a b =>
      run fuel a true
      if (← get).status = 0 then run fuel b tested
    | .either a b =>
      run fuel a true
      if (← get).status ≠ 0 then run fuel b tested
    | .sequence a b =>
      run fuel a tested
      run fuel b tested
    | .background c => Act.startProcess c
    | .subshell c => checked (Act.enclosed (runExitTrap fuel) (run fuel c tested))
    | .redirected line c redirects =>
      modify fun s => { s with line := line }
      let problem ← Act.withDescriptors do
        match ← redirectAll (capture fuel) redirects with
        | some problem => return some problem
        | none =>
          run fuel c tested
          return none
      if let some problem := problem then
        Act.complain problem
        Act.setStatus 2
        check
    | .conditional condition yes no =>
      run fuel condition true
      if (← get).status = 0 then run fuel yes tested
      else run fuel no tested
    | .loop untilTrue condition body =>
      modify fun s => { s with loops := s.loops + 1 }
      runLoop fuel untilTrue condition body tested 0
      modify fun s => { s with loops := s.loops - 1 }
    | .forEach name words body =>
      let fields ← expandFields (capture fuel) words
      modify fun s => { s with loops := s.loops + 1 }
      Act.setStatus 0
      runForEach fuel name body tested fields
      modify fun s => { s with loops := s.loops - 1 }
    | .choice subject arms =>
      let text ← Word.expandText (capture fuel) subject
      runArms fuel text arms tested
    | .function name body =>
      modify fun s =>
        { s with functions := (name, body) :: s.functions.filter fun f => f.1 != name }
      Act.setStatus 0

/-- The rounds of a loop whose condition is asked before each. -/
def runLoop : Nat → Bool → Command → Command → Bool → Nat → Act Unit
  | 0, _, _, _, _, _ => return
  | fuel + 1, untilTrue, condition, body, tested, status => do
    let again ← Act.oneRound do
      run fuel condition true
      if ((← get).status = 0) = (untilTrue = true) then
        Act.setStatus status
        return false
      else
        run fuel body tested
        return true
    if again then runLoop fuel untilTrue condition body tested (← get).status

/-- The rounds of a loop over fields. -/
def runForEach : Nat → String → Command → Bool → List String → Act Unit
  | 0, _, _, _, _ => return
  | _, _, _, _, [] => return
  | fuel + 1, name, body, tested, field :: fields => do
    let again ← Act.oneRound do
      Act.assign name field
      run fuel body tested
      return true
    if again then runForEach fuel name body tested fields

/-- The first arm with a pattern that the text has the form of. -/
def runArms : Nat → String → List (List Word × Command) → Bool → Act Unit
  | 0, _, _, _ => return
  | _, _, [], _ => Act.setStatus 0
  | fuel + 1, text, (patterns, body) :: arms, tested => do
    if ← anyAccepts (capture fuel) text patterns then run fuel body tested
    else runArms fuel text arms tested

/-- The stages of a pipeline, each on the output of the one before, which is in a stream. All start
at the same time, and the pipeline takes as long as the slowest of them. -/
def runStages : Nat → List Command → Option Nat → Bool → Nat → Act Unit
  | 0, _, _, _, _ => return
  | _, [], _, _, _ => return
  | fuel + 1, stage :: stages, source, tested, start => do
    let before ← get
    let output ← Act.newStream (.gathered [] (some pipeRoom))
    modify fun s => { s with clock := start }
    Act.enclosed (runExitTrap fuel) do
      if let some source := source then modify fun s => s.withDescriptor 0 source
      if !stages.isEmpty then modify fun s => s.withDescriptor 1 output
      run fuel stage tested
    if !stages.isEmpty then Act.settleSince (stepBackground fuel) before.lastProcess
    modify fun s => { s with clock := max s.clock before.clock }
    if !stages.isEmpty then
      let next ← Act.newStream (.remaining ((← get).outputOf output).toList false)
      runStages fuel stages (some next) tested start

/-- What stands before a command that is shown. -/
def traceMark : Nat → Act String
  | 0 => return "+ "
  | fuel + 1 => do
    let text := ((← get).value? "PS4").getD ""
    let source : Source := { rest := text.toList }
    match (Reader.readSegments (24 * text.length + 64) .document).run source with
    | .ok (w, _) => return textOf (← expandSegments (capture fuel) w)
    | .error _ => return text

/-- A simple command. -/
def runSimple : Nat → Nat → List (String × Word) → List Word → List Redirect → Bool → Act Unit
  | 0, _, _, _, _, _ => return
  | fuel + 1, line, assignments, words, redirects, tested => do
    modify fun s => { s with line := line, substituted := none }
    let fields ← expandFields (capture fuel) words
    let outer := (← get).descriptors
    let assigned : Act Unit := do
      let texts ← assignAll (capture fuel) assignments
      if (← get).hasOption 'x' then
        let mark ← traceMark fuel
        Act.withDescriptors do
          modify fun s => { s with descriptors := outer }
          Act.warn (mark ++ String.intercalate " " (texts ++ fields) ++ "\n")
    match fields with
    | [] =>
      match ← Act.withDescriptors (redirectAll (capture fuel) redirects) with
      | some problem =>
        Act.complain problem
        Act.setStatus 2
      | none =>
        assigned
        Act.setStatus ((← get).substituted.getD 0)
    | name :: args =>
      let special := specialBuiltins.contains name
      let body : Act Unit := do
        match ← redirectAll (capture fuel) redirects with
        | some problem =>
          Act.complain problem
          Act.setStatus 2
          if special then throw .failure
        | none =>
          let before ← get
          assigned
          if special then runCommand fuel name args tested
          else
            modify fun s => assignments.foldl (fun s a => s.withExported a.1) s
            let stop ← Act.catchStop (runCommand fuel name args tested)
            modify fun s => assignments.foldl (fun s a => s.withVariableOf before a.1) s
            if let some stop := stop then throw stop
      if (fields.dropWhile (· = "command")).head? = some "exec" then body
      else Act.withDescriptors body

/-- A command by its name. -/
def runCommand : Nat → String → List String → Bool → Act Unit
  | 0, _, _, _ => return
  | fuel + 1, name, args, tested => do
    let s ← get
    match if specialBuiltins.contains name then none else s.functions.lookup name with
    | some body => callFunction fuel body args tested
    | none =>
      if specialBuiltins.contains name then Act.onBehalfOf name (runBuiltin fuel name args tested)
      else if name = "command" then Act.tolerant (runBuiltin fuel name args tested)
      else if Builtin.isBuiltin name then
        Act.tolerant (Act.onBehalfOf name (runBuiltin fuel name args tested))
      else runProgram fuel name args

/-- A function with its own positions; variables that it hid come back. -/
def callFunction : Nat → Command → List String → Bool → Act Unit
  | 0, _, _, _ => return
  | fuel + 1, body, args, tested => do
    let s ← get
    set { s with
      positions := args, hidden := [] :: s.hidden, loops := 0, optionIndex := 1, lettersTaken := 0 }
    let stop ← Act.catchStop (Act.untilReturn (run fuel body tested))
    modify fun t =>
      let t := (t.hidden.headD []).foldl (fun t h =>
        if h.1 = "-" then { t with options := ((h.2.bind Variable.value).getD "").toList }
        else t.withVariable? h.1 h.2) t
      { t with
        positions := s.positions, hidden := s.hidden, loops := s.loops
        optionIndex := s.optionIndex, lettersTaken := s.lettersTaken }
    if let some stop := stop then throw stop

/-- A builtin by its name. -/
def runBuiltin : Nat → String → List String → Bool → Act Unit
  | 0, _, _, _ => return
  | fuel + 1, name, args, tested => do
    match name with
    | "eval" => runText fuel (String.intercalate " " args) tested
    | "." => runFile fuel args
    | "exec" => runInPlace fuel args
    | "command" =>
      let (options, args) ← Builtin.takeOptions "command" "pvV" (args.length + 1) args
      let has (c : Char) : Bool := options.any fun o => o.1 == c
      match args with
      | [] => Act.setStatus 0
      | command :: rest =>
        if has 'v' then Act.setStatus (← Act.sayCommand command)
        else if has 'V' then Act.setStatus (← Act.sayUse command)
        else if Builtin.isBuiltin command then
          Act.tolerant (Act.onBehalfOf command (runBuiltin fuel command rest tested))
        else runProgram fuel command rest
    | "type" => Act.setStatus (← Builtin.type args)
    | "hash" => Act.setStatus (← Builtin.hash args)
    | "wait" => Act.setStatus (← runWait fuel args 0)
    | name =>
      if let some builtin := Builtin.find? name then Act.setStatus (← builtin args)

/-- Waits for processes in the background; the status is that of the last one. -/
def runWait : Nat → List String → Nat → Act Nat
  | 0, _, status => return status
  | fuel + 1, args, status => do
    let interrupted (s : State) : Bool := !s.awaitedSignals.isEmpty
    let finish (numbers : List Nat) : Act Unit := do
      let ended (s : State) : Bool :=
        numbers.all fun n => !((s.process? n).any fun p => p.ended.isNone)
      Act.settle (stepBackground fuel) none (fun s => ended s || interrupted s) Act.settleLimit
      modify fun s =>
        numbers.foldl (fun s n =>
          match s.process? n with
          | some p =>
            if p.ended.isNone then s
            else { s.withProcess { p with waited := true } with clock := max s.clock p.clock }
          | none => s) s
    match args with
    | [] =>
      finish ((← get).jobs.map Prod.snd)
      return (← get).awaitedSignals.head?.elim status (128 + ·)
    | arg :: rest =>
      let number ← Builtin.processOf "wait" arg
      finish [number]
      let s ← get
      let status ←
        match (s.process? number).map Process.ended with
        | none => pure 127
        | some none => pure (s.awaitedSignals.head?.elim 0 (128 + ·))
        | some (some (.exited n)) => pure n
        | some (some (.signalled n)) =>
          Act.noteKilled n
          pure (128 + n)
      if rest.isEmpty then return status else runWait fuel rest status

/-- A program in the place of the shell. -/
def runInPlace : Nat → List String → Act Unit
  | 0, _ => return
  | fuel + 1, args => do
    match args with
    | [] => Act.setStatus 0
    | name :: args =>
      match (← get).findProgram name with
      | .error e =>
        Act.refuseCommand "" name e
        throw .exit
      | .ok (path, program) =>
        modify fun s => { s with traps := s.traps.filter fun t => t.2.isEmpty }
        match ← runFound fuel name path program args with
        | .signalled signal => throw (.killed signal)
        | .exited status =>
          Act.setStatus status
          throw .exit

/-- The commands of a file in this shell. -/
def runFile : Nat → List String → Act Unit
  | 0, _ => return
  | fuel + 1, args => do
    match args with
    | [] => Act.setStatus 0
    | path :: _ =>
      let s ← get
      let found := (s.searchPaths path).find? fun p => (s.files.at? s.workingDir p).isSome
      match found with
      | none =>
        if path.toList.contains '/' then
          Builtin.abort "." ("cannot open " ++ path ++ ": No such file")
        else Builtin.abort "." (path ++ ": not found")
      | some path =>
        match s.files.read s.workingDir path with
        | .ok content =>
          let source : Source := { rest := Text.ofOctets content }
          Act.untilReturn (Act.onBehalfOf path (runSource fuel source false false))
        | .error e => Builtin.abort "." ("cannot open " ++ path ++ ": " ++ openReason false e)

/-- A program by its name, in a process of its own. -/
def runProgram : Nat → String → List String → Act Unit
  | 0, _, _ => return
  | fuel + 1, name, args => do
    match (← get).findProgram name with
    | .error e => Act.refuseCommand "" name e
    | .ok (path, program) =>
      Act.track name path
      Act.noteEnding (← runFound fuel name path program args)
      Act.catchUp (stepBackground fuel)

/-- A program that was found under a path, called by a name, and how it ends. -/
def runFound : Nat → String → String → Program → List String → Act Ending
  | 0, _, _, _, _ => return .exited 0
  | fuel + 1, name, path, program, args => do
    Act.elapse programTime
    match program with
    | .shell => Act.apart (runExitTrap fuel) (runShell fuel name args)
    | .utility utility =>
      let before := (← get).toLocal
      let killed ← Act.runOut (pure ()) do Act.setStatus (← utility (system fuel) args)
      Act.comeBack before
      return killed.elim (.exited (← get).status) .signalled
    | .script content =>
      match interpreter? content with
      | none => Act.apart (runExitTrap fuel) (runShell fuel path (path :: args))
      | some (interpreter, extra) =>
        match (← get).programAt interpreter with
        | .ok program => runFound fuel interpreter interpreter program (extra ++ path :: args)
        | .error e =>
          Act.refuseCommand "" name e
          return .exited (← get).status

/-- The programs that another program may run. -/
def system : Nat → Utility.System
  | 0 => ⟨fun _ _ => return .error .noSuchFile, State.programPaths⟩
  | fuel + 1 =>
    let run (name : String) (args : List String) : Act (Except FileError Ending) := do
      match (← get).findProgram name with
      | .error e => return .error e
      | .ok (path, program) => return .ok (← runFound fuel name path program args)
    ⟨run, State.programPaths⟩

/-- A shell, with the exported variables of the one that starts it. -/
def runShell : Nat → String → List String → Act Unit
  | 0, _, _ => return
  | fuel + 1, name, args => do
    modify fun s => { s with toLocal := s.asStarted }
    modify fun s => { s with name := name, line := 0 }
    let start := ShellStart.ofArguments (args.length + 1) {} args
    for (on, c) in start.letters do
      if optionLetters.contains c then Builtin.setOption on c
      else Act.abort ("Illegal option -" ++ c.toString)
    for (on, name) in start.names do
      match shellOptions.lookup name with
      | some letter => letter.elim (pure ()) (Builtin.setOption on)
      | none => Act.abort ("Illegal option " ++ (if on then "-o " else "+o ") ++ name)
    let script (text : List Char) (args : List String) : Act Unit := do
      modify fun s => { s with name := args.headD name, positions := args.drop 1, line := 1 }
      runSource fuel { rest := text } false false
    match start.inline, start.rest with
    | true, [] => Act.abort "-c requires an argument"
    | true, text :: args => script text.toList args
    | false, [] => script (← Act.readAll) []
    | false, path :: args =>
      if start.fromInput then script (← Act.readAll) (name :: path :: args)
      else
        let s ← get
        match s.files.read s.workingDir path with
        | .ok content => script (Text.ofOctets content) (path :: args)
        | .error e => Act.abort ("cannot open " ++ path ++ ": " ++ openReason false e)

end

/-- How deep the functions of a shell may call each other. -/
def depth : Nat := 100000

/-- Runs the commands of a text in a directory: what they leave behind, and the files after them. -/
def execute (files : Files) (workingDir : Place) (text : String) : CommandOutput × Files :=
  let action : Act Unit := do
    let killed ← Act.runOut (runExitTrap depth) (runShell depth "sh" ["-c", Text.toOctetText text])
    Act.settle (stepBackground depth) none (fun _ => false) Act.settleLimit
    if let some signal := killed then throw (.killed signal)
  let initial := State.initial (files.mapNames Text.toOctetText) (workingDir.map Text.toOctetText)
  let (result, s) := (action.run initial).run
  let output : CommandOutput :=
    { stdout := Text.ofOctetText (s.outputOf 1)
      stderr := Text.ofOctetText (s.outputOf 2)
      exitCode :=
        match result with
        | .error (.killed _) => none
        | _ => some (s.status % 256 : Nat) }
  (output, s.files.mapNames Text.ofOctetText)

end Pipeline.Shell
