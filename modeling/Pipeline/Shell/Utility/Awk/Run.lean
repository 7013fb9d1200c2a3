import Pipeline.Shell.Utility.Arguments
import Pipeline.Shell.Utility.Awk.Record
import Pipeline.Shell.Utility.Awk.Table
import Pipeline.Shell.Utility.Awk.Token
import Pipeline.Shell.Utility.Date

/-!
# Runs of programs on records

What a program does: records are taken from the input one after the other, and the statements for
them are carried out. Output waits until something else has to see it.
-/

namespace Pipeline.Shell.Utility.Awk

/-- A variable of a function under way. -/
structure Slot where
  value : Value
  /-- The name that its table has among all tables. -/
  table : String

/-- Where output goes to that a program names. -/
inductive Outlet where
  | file (name : String)
  | command (text : String)
  deriving DecidableEq, Repr

/-- What is left of input that a program names. -/
structure Inlet where
  content : List Char
  /-- How the command ended that it comes from, if it does. -/
  ending : Option Ending := none

/-- What does not change during a run. -/
structure Setting where
  /-- The name that the program was started by. -/
  name : String
  functions : List (String × Function)
  system : System

/-- What is known during a run. -/
structure Running where
  globals : List (String × Value) := []
  tables : List (String × Table) := []
  /-- The variables of the function under way. -/
  frame : List (String × Slot) := []
  /-- How many tables without a name of their own there were. -/
  fresh : Nat := 0
  record : String := ""
  /-- Whether the record has to be put together from its fields. -/
  isStale : Bool := false
  fields : Array String := #[]
  /-- How the record is to be cut into fields; `none` once it is. -/
  separator : Option Separator := none
  /-- What separates the fields of records to come, with the text that asks for it. -/
  nextSeparator : String × Separator := (" ", .blanks)
  /-- Output that waits, the last piece first. -/
  output : List (List Char) := []
  /-- How much output waits. -/
  waiting : Nat := 0
  /-- Output that waits for other places, the one used last in front. -/
  outlets : List (Outlet × List (List Char)) := []
  inlets : List (String × Inlet) := []
  /-- What is left of the file that records come from. -/
  main : Option (List Char) := none
  /-- The number of the operand that comes next. -/
  operand : Nat := 1
  /-- Whether some operand named a file. -/
  hasFile : Bool := false
  /-- The numbers of the ranges that have started. -/
  ranges : List Nat := []
  status : Nat := 0
  seed : Value := .number 0
  /-- The number that the next random one comes from. -/
  chance : Nat := 1

/-- Why statements are not carried on. -/
inductive Halt where
  | next
  | nextFile
  | exit
  | giveBack (a : Value)
  | leave
  | goOn
  /-- An error, told with the place in the input if it is one of the program. -/
  | failure (message : String) (placed : Bool)

/-- An action of a run. -/
abbrev Runner := ExceptT Halt (StateT Running Act)

/-- An action of the shell as one of a run. -/
def ofShell {α : Type} (action : Act α) : Runner α :=
  ExceptT.lift (StateT.lift action)

/-- Ends the run with an error of the program. -/
def fault {α : Type} (message : String) : Runner α :=
  throw (.failure message true)

/-- The value of a variable of the whole program. -/
def global (name : String) : Runner Value := do
  return ((← get).globals.lookup name).getD .unset

/-- How numbers are written in texts. -/
def conversion : Runner (Float → String) := do
  let format := (← global "CONVFMT").toText fun x => formatNumber "%.6g" x
  return formatNumber format

/-- A value as a text. -/
def textOf : Value → Runner String
  | .number x => do return numberText (← conversion) x
  | a => return a.toText fun _ => ""

/-- The expression of a text that a program made. -/
def regexOf (text : String) : Runner Regex :=
  match patternOf text with
  | .ok r => return r
  | .error reason => fault ("regular expression compile failed (" ++ reason ++ ")\n" ++ text)

/-- The separator of a text that a program made. -/
def separatorOf (text : String) : Runner Separator :=
  match Separator.ofText text with
  | .ok separator => return separator
  | .error reason => fault ("regular expression compile failed (" ++ reason ++ ")\n" ++ text)

/-- A list with another item for a name, in the place of the one before. -/
def withItem {α : Type} (name : String) (a : α) (items : List (String × α)) : List (String × α) :=
  if (items.lookup name).isSome then
    items.map fun (x : String × α) => if x.1 = name then (name, a) else x
  else (name, a) :: items

/-- Gives a variable of the whole program another value. -/
def setGlobal (name : String) (a : Value) : Runner Unit := do
  modify fun s => { s with globals := withItem name a s.globals }
  if name = "FS" then
    let text ← textOf a
    let separator ← separatorOf text
    modify fun s => { s with nextSeparator := (text, separator) }

/-- Cuts the record into fields, if it is not yet. -/
def cutRecord : Runner Unit :=
  modify fun s =>
    match s.separator with
    | some separator => { s with fields := (separator.split s.record).toArray, separator := none }
    | none => s

/-- Gives the record another text. -/
def setRecord (text : String) : Runner Unit :=
  modify fun s =>
    { s with record := text, isStale := false, separator := some s.nextSeparator.2 }

/-- The record. -/
def recordText : Runner String := do
  if (← get).isStale then
    let between ← textOf (← global "OFS")
    modify fun s => { s with
      record := String.intercalate between s.fields.toList, isStale := false }
  return (← get).record

/-- The greatest number of a field. -/
def fieldLimit : Int := 32767

/-- The number of a field that a value asks for. -/
def fieldNumber (a : Value) : Runner Nat := do
  let n := countOf a.toNumber
  if n < 0 then fault ("negative field index $" ++ toString n)
  if fieldLimit < n then fault ("maximum number of fields(" ++ toString fieldLimit ++ ") exceeded")
  return n.toNat

/-- The value of a field; the record has the number zero. -/
def fieldValue (n : Nat) : Runner Value := do
  if n = 0 then return .ofInput (← recordText)
  cutRecord
  match (← get).fields[n - 1]? with
  | some s => return .ofInput s
  | none => return .unset

/-- Gives the record another number of fields. -/
def setFieldCount (n : Nat) : Runner Unit := do
  cutRecord
  modify fun s => { s with
    isStale := true
    fields := if n ≤ s.fields.size then s.fields.extract 0 n
      else s.fields ++ Array.replicate (n - s.fields.size) "" }

/-- Gives a field another text. -/
def setField (n : Nat) (text : String) : Runner Unit := do
  if n = 0 then setRecord text
  else
    cutRecord
    if (← get).fields.size < n then setFieldCount n
    modify fun s => { s with isStale := true, fields := s.fields.set! (n - 1) text }

/-- The name that a table has among all tables. -/
def tableName (name : String) : Runner String := do
  return (((← get).frame.lookup name).map Slot.table).getD name

/-- The table of a name. -/
def tableOf (name : String) : Runner Table := do
  return ((← get).tables.lookup (← tableName name)).getD {}

/-- Gives a name another table. -/
def setTable (name : String) (t : Table) : Runner Unit := do
  let name ← tableName name
  modify fun s => { s with tables := withItem name t s.tables }

/-- The value of a variable. -/
def variableValue (name : String) : Runner Value := do
  match (← get).frame.lookup name with
  | some slot => return slot.value
  | none =>
    if name = "NF" then
      cutRecord
      return .number (Float.ofNat (← get).fields.size)
    global name

/-- Gives a variable another value. -/
def setVariable (name : String) (a : Value) : Runner Unit := do
  let s ← get
  match s.frame.lookup name with
  | some slot => set { s with frame := withItem name { slot with value := a } s.frame }
  | none => if name = "NF" then setFieldCount (← fieldNumber a) else setGlobal name a

/-- Something that has a value which may be changed. -/
inductive Location where
  | variable (name : String)
  | field (n : Nat)
  | element (table : String) (key : Key)

/-- The value at a location. -/
def Location.value : Location → Runner Value
  | .variable name => variableValue name
  | .field n => fieldValue n
  | .element table key => do
    let (found, t) := (← tableOf table).find true key
    setTable table t
    return found.getD .unset

/-- Gives a location another value. -/
def Location.assign (l : Location) (a : Value) : Runner Unit := do
  match l with
  | .variable name => setVariable name a
  | .field n => setField n (← textOf a)
  | .element table key =>
    let (_, t) := (← tableOf table).find true key
    setTable table (t.put key a)

/-- Writes the output that waits, but for that of commands. -/
def flush : Runner Unit := do
  let s ← get
  set { s with
    output := [], waiting := 0
    outlets := s.outlets.map fun (x : Outlet × List (List Char)) =>
      match x.1 with
      | .file _ => (x.1, [])
      | .command _ => x }
  ofShell (put s.output.reverse.flatten)
  for (outlet, pieces) in s.outlets do
    if let .file name := outlet then
      ofShell do
        let t ← get
        let _ ← Act.changeFiles fun f =>
          f.append t.workingDir name (Text.octetsOf pieces.reverse.flatten)

/-- How much output waits at most. -/
def outputLimit : Nat := 4096

/-- Writes to standard output, as soon as enough of it waits. -/
def write (cs : List Char) : Runner Unit := do
  modify fun s => { s with output := cs :: s.output, waiting := s.waiting + cs.length }
  let s ← get
  if outputLimit ≤ s.waiting then
    set { s with output := [], waiting := 0 }
    ofShell (put s.output.reverse.flatten)

/-- The shell that runs commands. -/
def shellName : String := "/bin/sh"

/-- The number that tells how a command ended. -/
def endingNumber : Option Ending → Nat
  | some (.exited status) => status
  | some (.signalled signal) => 256 + signal
  | none => 127

/-- Runs the command of an outlet on what was written to it, or writes the rest to its file; the
number that tells how it ended. -/
def finishOutlet (g : Setting) (outlet : Outlet) (pieces : List (List Char)) : Runner Nat := do
  let content := pieces.reverse.flatten
  match outlet with
  | .command text => return endingNumber (← ofShell (g.system.feed shellName text content))
  | .file name =>
    ofShell do
      let t ← get
      let _ ← Act.changeFiles fun f => f.append t.workingDir name (Text.octetsOf content)
    return 0

/-- Ends what reads and writes under a name; the number that tells how it ended. -/
def close (g : Setting) (name : String) : Runner Int := do
  let s ← get
  let isNamed (o : Outlet) : Bool := o == .file name || o == .command name
  match s.outlets.find? fun o => isNamed o.1 with
  | some (outlet, pieces) =>
    set { s with outlets := s.outlets.filter fun o => !(isNamed o.1) }
    return (← finishOutlet g outlet pieces : Nat)
  | none =>
    match s.inlets.lookup name with
    | some inlet =>
      set { s with inlets := s.inlets.filter fun i => i.1 != name }
      return if inlet.ending.isSome then endingNumber inlet.ending else 0
    | none => return -1

/-- Opens a place for output that is not open yet. -/
def openOutlet (outlet : Outlet) (anew : Bool) : Runner Unit := do
  match outlet with
  | .command _ => flush
  | .file name =>
    let failed ← ofShell do
      let t ← get
      Act.changeFiles fun f =>
        if anew then f.write t.workingDir name [] else f.append t.workingDir name []
    if let some e := failed then
      throw (.failure ("cannot open \"" ++ name ++ "\" for output (" ++ e.reason ++ ")") false)
  modify fun s => { s with outlets := (outlet, []) :: s.outlets }

/-- Writes to a place, which is opened where that is needed. -/
def writeOutlet (outlet : Outlet) (anew : Bool) (cs : List Char) : Runner Unit := do
  if !((← get).outlets.any fun o => o.1 == outlet) then openOutlet outlet anew
  modify fun s =>
    match s.outlets.partition fun o => o.1 == outlet with
    | ((_, pieces) :: _, others) => { s with outlets := (outlet, cs :: pieces) :: others }
    | ([], _) => s

/-- Writes to where a name leads. -/
def writeNamed (name : String) (anew : Bool) (cs : List Char) : Runner Unit := do
  if ["/dev/stdout", "-", "/dev/fd/1"].contains name then
    write cs
  else if name = "/dev/stderr" || name = "/dev/fd/2" then ofShell (Act.warn (String.ofList cs))
  else writeOutlet (.file name) anew cs

/-- What an assignment among the operands says: a name and a text. -/
def assignmentOf? (text : String) : Option (String × String) :=
  let name := text.toList.takeWhile isWordChar
  match name.head?, text.toList.drop name.length with
  | some c, '=' :: value =>
    if c.isDigit then none
    else some (String.ofList name, String.ofList (unescaped (value.length + 1) value))
  | _, _ => none

/-- Opens the next file that records come from; tells whether there is one. `fuel` bounds how many
operands there are. -/
def openNext : Nat → Runner Bool
  | 0 => return false
  | fuel + 1 => do
    let s ← get
    let count := countOf (← global "ARGC").toNumber
    if (s.operand : Int) < count then
      set { s with operand := s.operand + 1 }
      let (found, t) := (← tableOf "ARGV").find false (.name (toString s.operand))
      setTable "ARGV" t
      let operand ← textOf (found.getD .unset)
      if operand.isEmpty then openNext fuel
      else
        match assignmentOf? operand with
        | some (name, value) =>
          setVariable name (.ofInput value)
          openNext fuel
        | none =>
          modify fun s => { s with hasFile := true }
          begin operand
    else if s.hasFile then return false
    else
      set { s with hasFile := true }
      begin "-"
where
  /-- Opens a file that records come from. -/
  begin (name : String) : Runner Bool := do
    setGlobal "FILENAME" (.text (if name = "-" then "" else name))
    setGlobal "FNR" (.number 0)
    match ← ofShell (contentOf (if name = "/dev/stdin" then "-" else name)) with
    | .ok content =>
      modify fun s => { s with main := some content }
      return true
    | .error .isDirectory =>
      throw (.failure ("read error (" ++ FileError.isDirectory.reason ++ ")") false)
    | .error e => throw (.failure ("cannot open \"" ++ name ++ "\" (" ++ e.reason ++ ")") false)

/-- What records end with. -/
def recordEnd : Runner RecordEnd := do
  match RecordEnd.ofText (← textOf (← global "RS")) with
  | .ok e => return e
  | .error reason => fault ("regular expression compile failed (" ++ reason ++ ")")

/-- The next record of the input; `fuel` bounds how many files there are. -/
def nextMain : Nat → Runner (Option String)
  | 0 => return none
  | fuel + 1 => do
    match (← get).main with
    | none => if ← openNext fuel then nextMain fuel else return none
    | some content =>
      match (← recordEnd).take? content with
      | none =>
        modify fun s => { s with main := none }
        nextMain fuel
      | some (text, rest) =>
        modify fun s => { s with main := some rest }
        for name in ["NR", "FNR"] do
          setGlobal name (.number ((← global name).toNumber + 1))
        return some (String.ofList text)

/-- How many files there are at most. -/
def fileLimit : Nat := 100000

/-- The next record of an inlet, which is opened where that is needed: none at the end, and an error
where it cannot be opened. -/
def nextInlet (g : Setting) (name : String) (isCommand : Bool) :
    Runner (Except Unit (Option String)) := do
  let inlet? : Option Inlet ←
    match (← get).inlets.lookup name with
    | some inlet => pure (some inlet)
    | none =>
      if isCommand then
        flush
        let (content, ending) ← ofShell (g.system.outputOf shellName name)
        pure (some ⟨content, ending⟩)
      else
        match ← ofShell (contentOf name) with
        | .ok content => pure (some { content := content })
        | .error _ => pure none
  match inlet? with
  | none => return .error ()
  | some inlet =>
    let (found, rest) :=
      match (← recordEnd).take? inlet.content with
      | some (text, rest) => (some (String.ofList text), rest)
      | none => (none, [])
    modify fun s => { s with
      inlets := (name, { inlet with content := rest }) :: s.inlets.filter fun i => i.1 != name }
    return .ok found

/-- What is done with the values of a program, where parts of it are nested. -/
structure Evaluation where
  value : Expr → Runner Value
  carryOut : Statement → Runner Unit

/-- How often the body of a loop is repeated at most. -/
def turnLimit : Nat := 1000000000

/-- Repeats a body as long as `turn` says so. -/
def repeating (turn : Runner Bool) : Nat → Runner Unit
  | 0 => return
  | fuel + 1 => do
    if ← turn then repeating turn fuel

/-- The values of expressions one after the other. -/
def valuesOf (ev : Evaluation) : List Expr → Runner (List Value)
  | [] => return []
  | e :: es => do
    let a ← ev.value e
    return a :: (← valuesOf ev es)

/-- The key that expressions ask for. -/
def keyOf (ev : Evaluation) (keys : List Expr) : Runner Key := do
  match keys with
  | [e] => return .ofValue (← conversion) (← ev.value e)
  | es =>
    let texts ← (← valuesOf ev es).mapM textOf
    return .name (String.intercalate (← textOf (← global "SUBSEP")) texts)

/-- The location that an expression names, if it does. -/
def locationOf? (ev : Evaluation) (e : Expr) : Runner (Option Location) := do
  match e with
  | .variable name => return some (.variable name)
  | .field index => return some (.field (← fieldNumber (← ev.value index)))
  | .element table keys => return some (.element table (← keyOf ev keys))
  | .grouped e =>
    match e with
    | .variable name => return some (.variable name)
    | _ => return none
  | _ => return none

/-- The expression that a pattern stands for. -/
def patternValue (ev : Evaluation) (e : Expr) : Runner Regex := do
  match e with
  | .regex r => return r
  | e => regexOf (← textOf (← ev.value e))

/-- Whether a text matches. -/
def matchesText (r : Regex) (text : String) : Bool :=
  (r.find? false text.toList.toArray 0).isSome

/-- A value that was read into a target or else the record; tells that there was one. -/
def storeLine (ev : Evaluation) (target : Option Expr) (text : String) : Runner Unit := do
  match target with
  | none => setRecord text
  | some e =>
    if let some l := ← locationOf? ev e then l.assign (.ofInput text)

/-- Reads a line. -/
def readLine (g : Setting) (ev : Evaluation) (source : Source Expr) (target : Option Expr) :
    Runner Value := do
  let found : Except Unit (Option String) ←
    match source with
    | .main => pure (.ok (← nextMain fileLimit))
    | .file e => nextInlet g (← textOf (← ev.value e)) false
    | .command e => nextInlet g (← textOf (← ev.value e)) true
  match found with
  | .error () => return .number (-1)
  | .ok none => return .number 0
  | .ok (some text) =>
    storeLine ev target text
    return .number 1

/-- Replaces matches in a text at a location, or in the record; how many there were. -/
def substitute (ev : Evaluation) (all : Bool) (pattern new : Expr) (target : Option Expr) :
    Runner Value := do
  let r ← patternValue ev pattern
  let new ← textOf (← ev.value new)
  let place? : Option Location ←
    match target with
    | none => pure (some (.field 0))
    | some e => locationOf? ev e
  let text ←
    match place?, target with
    | some l, _ => do textOf (← l.value)
    | none, some e => do textOf (← ev.value e)
    | none, none => pure ""
  let cs := text.toList.toArray
  let found := if all then r.all false cs else (r.find? false cs 0).toList
  if !found.isEmpty then
    if let some l := place? then
      l.assign (.text (String.ofList (replaced cs new.toList 0 found)))
  return .number (Float.ofNat found.length)

/-- Cuts a text into a table; how many parts there are. -/
def splitInto (ev : Evaluation) (subject : Expr) (table : String) (separator : Option Expr) :
    Runner Value := do
  let text ← textOf (← ev.value subject)
  let separator : Separator ←
    match separator with
    | none => pure (← get).nextSeparator.2
    | some (.regex r) => pure (.regex r)
    | some e => separatorOf (← textOf (← ev.value e))
  let parts := separator.split text
  setTable table (.ofList (parts.map .ofInput))
  return .number (Float.ofNat parts.length)

/-- The part of a text from a place on, of some length. -/
def partOf (text : List Char) (start : Int) (count : Option Int) : List Char :=
  let (start, count) : Int × Option Int :=
    if start < 1 then (1, count.map fun n => n - start) else (start, count)
  let rest := text.drop (start - 1).toNat
  count.elim rest fun n => rest.take n.toNat

/-- The place of a text within another one, from one on; zero if it is not there. -/
def placeOf (part : List Char) : Nat → List Char → Nat
  | n, [] => if part.isEmpty then n else 0
  | n, c :: cs => if part.isPrefixOf (c :: cs) then n else placeOf part (n + 1) cs

/-- The seconds of a text with the parts of a date and a time. -/
def secondsOf (text : String) : Int :=
  match (wordsOf [] text.toList).mapM String.toInt? with
  | some (year :: month :: day :: hour :: minute :: second :: _) =>
    daysOfDate year month.toNat day.toNat * 86400 + hour * 3600 + minute * 60 + second
  | _ => -1

/-- The text of a time in a format. -/
def timeText (format : Option String) (seconds : Option Value) : Runner Value := do
  let format := format.getD "%c"
  let moment : Int ←
    match seconds with
    | some a => pure (truncated a.toNumber)
    | none => ofShell do return presentOf (← get)
  return .text (dateText (.ofSeconds moment) (format.length + 1) format.toList)

/-- A text made of a format; `name` asks for it. -/
def formatText (name : String) (args : List Value) : Runner (List Char) := do
  let format ← textOf (args.headD .unset)
  let made := formatValues (← conversion) (format.length + 1) 1 format.toList (args.drop 1)
  let shown := name ++ "(\"" ++ format ++ "\")"
  match made.fault with
  | none => return made.text
  | some problem =>
    if name = "printf" then write made.text
    match problem with
    | .fewArguments => fault ("not enough arguments passed to " ++ shown)
    | .improper n => fault ("improper conversion(number " ++ toString n ++ ") in " ++ shown)

/-- The length of a variable, which may be a table. -/
def lengthOf (name : String) : Runner Value := do
  let t ← tableOf name
  if t.size ≠ 0 then return .number (Float.ofNat t.size)
  let text ← textOf (← variableValue name)
  return .number (Float.ofNat text.length)

/-- The next random number. -/
def randomNumber : Runner Value := do
  let n := ((← get).chance * 16807) % 2147483647
  modify fun s => { s with chance := n }
  return .number (Float.ofNat n / 2147483647)

/-- Makes random numbers start again from a number; the one before. -/
def startRandom (a : Value) : Runner Value := do
  let before := (← get).seed
  modify fun s => { s with
    seed := a, chance := (truncated a.toNumber).natAbs % 2147483646 + 1 }
  return before

/-- The value of a call of a builtin function with values. -/
def valueOfCall (g : Setting) (name : String) (args : List Value) : Runner Value := do
  let first := args.headD .unset
  let x := first.toNumber
  let number (y : Float) : Runner Value := return .number y
  let count (n : Nat) : Runner Value := return .number (Float.ofNat n)
  match name with
  | "length" =>
    let text ← if args.isEmpty then recordText else textOf first
    count text.length
  | "index" =>
    let text ← textOf first
    let part ← textOf (args.getD 1 .unset)
    count (placeOf part.toList 1 text.toList)
  | "substr" =>
    let text ← textOf first
    let size := (args[2]?).map fun a => countOf a.toNumber
    return .text (String.ofList (partOf text.toList (countOf (args.getD 1 .unset).toNumber) size))
  | "sprintf" => return .text (String.ofList (← formatText "sprintf" args))
  | "sin" => number x.sin
  | "cos" => number x.cos
  | "exp" => number x.exp
  | "log" => number x.log
  | "sqrt" => number x.sqrt
  | "int" => number (if x < 0 then x.ceil else x.floor)
  | "atan2" => number (x.atan2 (args.getD 1 .unset).toNumber)
  | "rand" => randomNumber
  | "srand" =>
    if args.isEmpty then startRandom (.number (Float.ofInt (← ofShell do return presentOf (← get))))
    else startRandom first
  | "systime" => number (Float.ofInt (← ofShell do return presentOf (← get)))
  | "mktime" => number (Float.ofInt (secondsOf (← textOf first)))
  | "strftime" =>
    let format ← if args.isEmpty then pure none else some <$> textOf first
    timeText format args[1]?
  | "close" => number (Float.ofInt (← close g (← textOf first)))
  | "fflush" =>
    let text ← textOf first
    let isOpen := (← get).outlets.any fun o => o.1 == .file text || o.1 == .command text
    flush
    number (if text.isEmpty || text = "/dev/stdout" || isOpen then 0 else -1)
  | "system" =>
    let text ← textOf first
    flush
    let ending ← ofShell (g.system.run shellName ["-c", text])
    count (endingNumber ending.toOption)
  | "toupper" => return .text (String.ofList ((← textOf first).toList.map Char.toUpper))
  | "tolower" => return .text (String.ofList ((← textOf first).toList.map Char.toLower))
  | _ => return .unset

/-- The value of a call of a builtin function. -/
def builtinValue (g : Setting) (ev : Evaluation) (name : String) (args : List Expr) :
    Runner Value := do
  match name, args with
  | "sub", pattern :: new :: target => substitute ev false pattern new target.head?
  | "gsub", pattern :: new :: target => substitute ev true pattern new target.head?
  | "split", subject :: .variable table :: separator =>
    splitInto ev subject table separator.head?
  | "length", [.variable name] => lengthOf name
  | "match", [subject, pattern] =>
    let text ← textOf (← ev.value subject)
    let r ← patternValue ev pattern
    let (start, size) : Float × Float :=
      match r.find? false text.toList.toArray 0 with
      | some m => (Float.ofNat (m.start + 1), Float.ofNat (m.stop - m.start))
      | none => (0, -1)
    setVariable "RSTART" (.number start)
    setVariable "RLENGTH" (.number size)
    return .number start
  | _, _ => valueOfCall g name (← valuesOf ev args)

/-- The variable of a function for an argument, if there is one: a name brings its table along. -/
def slotFor (ev : Evaluation) (arg : Option Expr) : Runner Slot := do
  match arg with
  | some (.variable name) => return ⟨← variableValue name, ← tableName name⟩
  | some e => return ⟨← ev.value e, ""⟩
  | none =>
    modify fun s => { s with fresh := s.fresh + 1 }
    return ⟨.unset, "#" ++ toString (← get).fresh⟩

/-- The value of a call of a function of the program. -/
def functionValue (g : Setting) (ev : Evaluation) (name : String) (args : List Expr) :
    Runner Value := do
  let some f := g.functions.lookup name | return .unset
  let mut slots : List (String × Slot) := []
  let mut rest := args
  for param in f.params do
    slots := (param, ← slotFor ev rest.head?) :: slots
    rest := rest.drop 1
  let outer := (← get).frame
  modify fun s => { s with frame := slots }
  try
    ev.carryOut f.body
    modify fun s => { s with frame := outer }
    return .unset
  catch halt =>
    modify fun s => { s with frame := outer }
    match halt with
    | .giveBack a => return a
    | halt => throw halt

/-- The value of an expression, where `ev` is for its parts. -/
def valueStep (g : Setting) (ev : Evaluation) (e : Expr) : Runner Value := do
  match e with
  | .number x => return .number x
  | .text s => return .text s
  | .regex r => return .ofBool (matchesText r (← recordText))
  | .variable name => variableValue name
  | .field index => fieldValue (← fieldNumber (← ev.value index))
  | .element table keys => (Location.element table (← keyOf ev keys)).value
  | .assign target e =>
    let l? ← locationOf? ev target
    let a ← ev.value e
    if let some l := l? then l.assign a
    return a
  | .assignOp op target e =>
    let l? ← locationOf? ev target
    let y := (← ev.value e).toNumber
    let x ← match l? with | some l => do pure (← l.value).toNumber | none => pure 0
    let a : Value := .number (op.apply x y)
    if let some l := l? then l.assign a
    return a
  | .step amount before target =>
    let some l ← locationOf? ev target | return .unset
    let x := (← l.value).toNumber
    l.assign (.number (x + amount))
    return .number (if before then x + amount else x)
  | .both a b => do
    if !(← ev.value a).isTrue then return .ofBool false
    return .ofBool (← ev.value b).isTrue
  | .either a b => do
    if (← ev.value a).isTrue then return .ofBool true
    return .ofBool (← ev.value b).isTrue
  | .choice test yes no => do
    if (← ev.value test).isTrue then ev.value yes else ev.value no
  | .fits negated subject pattern =>
    let text ← textOf (← ev.value subject)
    return .ofBool (matchesText (← patternValue ev pattern) text != negated)
  | .compare c a b =>
    let a ← ev.value a
    let b ← ev.value b
    return .ofBool (c.holds (a.order (← conversion) b))
  | .arithmetic op a b =>
    let x := (← ev.value a).toNumber
    let y := (← ev.value b).toNumber
    return .number (op.apply x y)
  | .joined a b =>
    let s ← textOf (← ev.value a)
    return .text (s ++ (← textOf (← ev.value b)))
  | .negate a => return .number (-(← ev.value a).toNumber)
  | .plus a => return .number (← ev.value a).toNumber
  | .not a => return .ofBool (!(← ev.value a).isTrue)
  | .member keys table =>
    let (found, t) := (← tableOf table).find false (← keyOf ev keys)
    setTable table t
    return .ofBool found.isSome
  | .grouped a => ev.value a
  | .builtin name args => builtinValue g ev name args
  | .call name args => functionValue g ev name args
  | .getLine source target => readLine g ev source target

/-- Writes where a statement says. -/
def writeTo (ev : Evaluation) (target : Destination) (cs : List Char) : Runner Unit := do
  match target with
  | .output => write cs
  | .file e => writeNamed (← textOf (← ev.value e)) true cs
  | .appended e => writeNamed (← textOf (← ev.value e)) false cs
  | .command e => writeOutlet (.command (← textOf (← ev.value e))) true cs

/-- Carries a body out once; tells whether the loop goes on. -/
def turnOf (body : Runner Unit) : Runner Bool := do
  try
    body
    return true
  catch halt =>
    match halt with
    | .leave => return false
    | .goOn => return true
    | halt => throw halt

/-- Carries a statement out, where `ev` is for its parts. -/
def carryOutStep (ev : Evaluation) (s : Statement) : Runner Unit := do
  match s with
  | .expression e =>
    let _ ← ev.value e
  | .print args target =>
    let format := formatNumber (← textOf (← global "OFMT"))
    let texts ←
      if args.isEmpty then do pure [← recordText]
      else pure ((← valuesOf ev args).map fun a => a.toText format)
    let line := String.intercalate (← textOf (← global "OFS")) texts
    writeTo ev target (line ++ (← textOf (← global "ORS"))).toList
  | .format args target => writeTo ev target (← formatText "printf" (← valuesOf ev args))
  | .block body =>
    for s in body do ev.carryOut s
  | .choice test yes no =>
    if (← ev.value test).isTrue then ev.carryOut yes else ev.carryOut no
  | .whileLoop test body =>
    repeating (do
      if (← ev.value test).isTrue then turnOf (ev.carryOut body) else return false) turnLimit
  | .doWhile body test =>
    repeating (do
      if ← turnOf (ev.carryOut body) then return (← ev.value test).isTrue
        else return false) turnLimit
  | .loop start test step body =>
    ev.carryOut start
    let holds : Runner Bool :=
      match test with
      | none => return true
      | some e => do return (← ev.value e).isTrue
    repeating (do
      if !(← holds) then return false
      if !(← turnOf (ev.carryOut body)) then return false
      ev.carryOut step
      return true) turnLimit
  | .forEach name table body =>
    let t := (← tableOf table).asNamed
    setTable table t
    let mut going := true
    for key in t.keys do
      if going then
        setVariable name (.text key)
        going ← turnOf (ev.carryOut body)
  | .next => throw .next
  | .nextFile => throw .nextFile
  | .exit status =>
    if let some e := status then
      let n := truncated (← ev.value e).toNumber
      modify fun s => { s with status := (n.emod 256).toNat }
    throw .exit
  | .giveBack none => throw (.giveBack .unset)
  | .giveBack (some e) => throw (.giveBack (← ev.value e))
  | .leave => throw .leave
  | .goOn => throw .goOn
  | .delete table keys =>
    match keys with
    | none => setTable table {}
    | some keys =>
      let key ← keyOf ev keys
      setTable table ((← tableOf table).erase key)

/-- How deep calls and parts of programs are nested at most. -/
def nestingLimit : Nat := 100000

mutual

/-- The value of an expression; `fuel` exceeds the depth of the nesting. -/
def valueOf (g : Setting) : Nat → Expr → Runner Value
  | 0, _ => fault "evaluation stack overflow"
  | fuel + 1, e => valueStep g ⟨valueOf g fuel, carryOut g fuel⟩ e

/-- Carries a statement out; `fuel` exceeds the depth of the nesting. -/
def carryOut (g : Setting) : Nat → Statement → Runner Unit
  | 0, _ => fault "evaluation stack overflow"
  | fuel + 1, s => carryOutStep ⟨valueOf g fuel, carryOut g fuel⟩ s

end

/-- Whether a rule is for the record that is there. -/
def Pattern.selects (g : Setting) (p : Pattern) : Runner Bool := do
  let holds (e : Expr) : Runner Bool := do return (← valueOf g nestingLimit e).isTrue
  match p with
  | .first | .last => return false
  | .always => return true
  | .condition e => holds e
  | .range number start stop =>
    let started := (← get).ranges.contains number
    if !started && !(← holds start) then return false
    let stops ← holds stop
    modify fun s => { s with
      ranges := if stops then s.ranges.filter (· != number)
        else if started then s.ranges else number :: s.ranges }
    return true

/-- Carries the rules out for all records; `fuel` exceeds their number. -/
def runRecords (g : Setting) (rules : List Rule) : Nat → Runner Unit
  | 0 => return
  | fuel + 1 => do
    match ← nextMain fileLimit with
    | none => return
    | some text =>
      setRecord text
      try
        for rule in rules do
          if ← rule.pattern.selects g then carryOut g nestingLimit rule.body
      catch halt =>
        match halt with
        | .next => pure ()
        | .nextFile => modify fun s => { s with main := none }
        | halt => throw halt
      runRecords g rules fuel

/-- Carries an action out that the program may end. -/
def untilExit (action : Runner Unit) : Runner Bool := do
  try
    action
    return true
  catch halt =>
    match halt with
    | .exit => return false
    | halt => throw halt

/-- Runs a program on its input. -/
def runProgram (g : Setting) (rules : List Rule) : Runner Unit := do
  let carryOutAll (wanted : Pattern → Bool) : Runner Unit := do
    for rule in rules do
      if wanted rule.pattern then carryOut g nestingLimit rule.body
  let isFirst : Pattern → Bool | .first => true | _ => false
  let isLast : Pattern → Bool | .last => true | _ => false
  let goesOn ← untilExit do
    carryOutAll isFirst
    if rules.any fun r => !(isFirst r.pattern) then runRecords g rules turnLimit
  if goesOn || rules.any fun r => isLast r.pattern then
    let _ ← untilExit (carryOutAll isLast)

/-- Ends all commands that read from the program, and writes what waits. -/
def finishRun (g : Setting) : Runner Unit := do
  let outlets := (← get).outlets
  modify fun s => { s with outlets := [] }
  for (outlet, pieces) in outlets do
    if let .command _ := outlet then
      let _ ← finishOutlet g outlet pieces
  flush
  for (outlet, pieces) in outlets do
    if let .file _ := outlet then
      let _ ← finishOutlet g outlet pieces

end Pipeline.Shell.Utility.Awk
