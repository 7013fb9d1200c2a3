import Pipeline.Shell.Format
import Pipeline.Shell.Utility.Arguments

/-!
# Utilities for numbers

Numbers are listed step by step or taken apart into primes. Sequences are reckoned with ratios, so
that no step is lost.
-/

namespace Pipeline.Shell.Utility

/-- A number of a sequence, with the width and the places it is written with; without a value it has
no end. -/
structure SequenceNumber where
  value : Option (Int × Nat)
  negative : Bool := false
  width : Int := 0
  places : Option Int := none
  deriving Repr

namespace SequenceNumber

/-- The number one. -/
def one : SequenceNumber :=
  ⟨some (1, 1), false, 1, some 0⟩

/-- The width and the places of a decimal as it is written. -/
def layoutOf (cs : List Char) : Int × Option Int :=
  let isPower (c : Char) : Bool := c == 'e' || c == 'E'
  let whole := cs.takeWhile fun c => c != '.' && !isPower c
  let hasPoint := cs.contains '.'
  let beforePower := cs.takeWhile (!isPower ·)
  let fraction := (beforePower.drop (whole.length + 1)).length
  let afterDigit := (whole.getLast?).any Char.isDigit
  let places : Int := if hasPoint then fraction else 0
  let width : Int := beforePower.length +
    if !hasPoint then 0 else if fraction = 0 then -1 else if afterDigit then 0 else 1
  if cs.all (!isPower ·) then (width, some places)
  else
    let power := (Number.scanPower 'e' 'E' (cs.drop beforePower.length)).1
    if power < 0 then
      (width + (if !hasPoint || fraction = 0 then 1 else 0) - power, some (places - power))
    else
      let left := places - min places power
      let width := if hasPoint && left = 0 && fraction ≠ 0 then width - 1 else width
      (width + (power - min (fraction : Int) power), some left)

/-- The number that an argument of `seq` writes. -/
def ofText (text : String) : Except String SequenceNumber :=
  match Number.scanSigned? text.toList with
  | some (negative, .ratio n d, []) =>
    let cs := text.toList.dropWhile fun c => Text.isSpace c || c == '+'
    let isHexadecimal := cs.any fun c => c == 'x' || c == 'X'
    let (width, places) := if isHexadecimal then (0, none) else layoutOf cs
    let places :=
      if isHexadecimal && cs.all fun c => c != '.' && c != 'p' then some 0 else places
    .ok ⟨some (if negative then -(n : Int) else n, d), negative, width, places⟩
  | some (negative, .infinite, []) => .ok ⟨none, negative, 0, none⟩
  | some (_, .notANumber, []) =>
    .error ("invalid 'not-a-number' argument: " ++ quotedArgument text)
  | _ => .error ("invalid floating point argument: " ++ quotedArgument text)

end SequenceNumber

/-- How the numbers of a sequence are written. -/
inductive SequenceFormat where
  /-- With a number of places, zeros in front up to a width. -/
  | fixed (width places : Nat)
  | general
  /-- As a conversion with a letter says, between two texts. -/
  | formatted (before : String) (v : Conversion) (letter : Char) (after : String)

namespace SequenceFormat

/-- A text in which two percent signs stand for one, up to a single one, and the rest. -/
def takeLiteral : List Char → List Char × List Char
  | '%' :: '%' :: rest => let (text, rest) := takeLiteral rest; ('%' :: text, rest)
  | '%' :: rest => ([], '%' :: rest)
  | c :: rest => let (text, rest) := takeLiteral rest; (c :: text, rest)
  | [] => ([], [])

/-- The format that a text writes. -/
def ofText (text : String) : Except String SequenceFormat :=
  let name := "format " ++ quotedArgument text
  match takeLiteral text.toList with
  | (_, []) => .error (name ++ " has no % directive")
  | (before, _ :: rest) =>
    let (v, rest, _) := takeConversion (rest.filter (· ≠ '\'')) []
    match if rest.head? = some 'L' then rest.drop 1 else rest with
    | [] => .error (name ++ " ends in %")
    | letter :: rest =>
      if "efgaEFGA".toList.contains letter then
        match takeLiteral rest with
        | (after, []) => .ok (.formatted (String.ofList before) v letter (String.ofList after))
        | _ => .error (name ++ " has too many % directives")
      else .error (name ++ " has unknown %" ++ letter.toString ++ " directive")

/-- The usual format for a sequence. -/
def usual (equalWidth : Bool) (first step last : SequenceNumber) : SequenceFormat :=
  match first.places, step.places, last.places with
  | some p, some q, some r =>
    let places := max p q
    if equalWidth then
      let room (n : SequenceNumber) (own : Int) : Int :=
        n.width + (places - own) +
          if own = 0 ∧ places ≠ 0 then 1 else if own ≠ 0 ∧ places = 0 then -1 else 0
      .fixed (max (room first p) (room last r)).toNat places.toNat
    else .fixed 0 places.toNat
  | _, _, _ => .general

/-- The number `n / d` as it is written, without what stands around it. -/
def bareText (f : SequenceFormat) (n : Int) (d : Nat) : String :=
  let lead := if n < 0 then "-" else ""
  match f with
  | fixed width places =>
    let text := if d = 1 ∧ places = 0 then toString n.natAbs
      else Number.fixedText n.natAbs d places false
    lead ++ String.ofList (List.replicate (width - lead.length - text.length) '0') ++ text
  | general => lead ++ Number.generalText n.natAbs d 6 false 'e'
  | formatted _ v letter _ => v.floating letter (.ofRatio (n < 0) n.natAbs d)

/-- The number `n / d` as it is written. -/
def text (f : SequenceFormat) (n : Int) (d : Nat) : String :=
  match f with
  | formatted before _ _ after => before ++ f.bareText n d ++ after
  | _ => f.bareText n d

end SequenceFormat

/-- How many numbers of a sequence without an end are written. -/
def sequenceLimit : Nat := 1000000

/-- How many numbers are written at once. -/
def sequencePiece : Nat := 256

/-- Writes the numbers of a sequence from the one of index `i` on. -/
def writeSequence (text : Nat → String) (separator : String) (count : Nat) : Nat → Nat → Act Unit
  | 0, _ => return
  | fuel + 1, i => do
    if i < count then
      let indices := (List.range (min sequencePiece (count - i))).map (i + ·)
      Act.say (String.join (indices.map fun j =>
        text j ++ if j + 1 = count then "\n" else separator))
      writeSequence text separator count fuel (i + sequencePiece)

/-- Whether the number after the last one is written too: what is written of it is the end itself,
and differs from what is written of the number before. -/
def writesBeyond (f : SequenceFormat) (before beyond last : Int) (d : Nat) : Bool :=
  match Number.scanSigned? (f.bareText beyond d).toList with
  | some (negative, .ratio n e, []) =>
    (if negative then -(n : Int) else n) * d == last * e && f.text before d != f.text beyond d
  | _ => false

/-- Writes the numbers of a sequence; one without an end goes `downwards` or up. -/
def runSequence (f : SequenceFormat) (separator : String) (first step : Int × Nat)
    (last : Option (Int × Nat)) (downwards : Bool) : Act Unit :=
  let d := first.2 * step.2 * (last.elim 1 Prod.snd)
  let scaled (x : Int × Nat) : Int := x.1 * ((d / x.2 : Nat) : Int)
  let start := scaled first
  let step := scaled step
  let at' (i : Nat) : Int := start + step * (i : Int)
  let count :=
    match last.map scaled with
    | none => if (0 < step) != downwards then sequenceLimit else 0
    | some last =>
      let within := (if 0 < step then (last - start).fdiv step else (start - last).fdiv (-step)) + 1
      let within := within.toNat
      if 0 < within && writesBeyond f (at' (within - 1)) (at' within) last d then within + 1
      else within
  writeSequence (fun i => f.text (at' i) d) separator count (count + 1) 0

/-- The arguments of `seq` after its options, where a negative number is none. -/
def splitSequenceArguments : List String → List String × List String
  | [] => ([], [])
  | arg :: rest =>
    match arg.toList with
    | '-' :: c :: _ =>
      if c.isDigit || c == '.' || arg == "--" then
        ([], if arg == "--" then rest else arg :: rest)
      else
        let takesNext := ["-s", "-f", "--separator", "--format"].contains arg
        let (options, operands) :=
          if takesNext then
            let (options, operands) := splitSequenceArguments (rest.drop 1)
            (rest.take 1 ++ options, operands)
          else splitSequenceArguments rest
        (arg :: options, operands)
    | _ => ([], arg :: rest)
termination_by args => args.length

/-- Writes numbers from the first to the last by a step. -/
def seq (args : List String) : Act Nat := do
  let (options, operands) := splitSequenceArguments args
  let t : OptionTable :=
    { plain := "w", valued := "sf"
      long := [("equal-width", 'w'), ("separator", 's'), ("format", 'f')] }
  withArguments "seq" t 1 options fun a => do
    let problem? : Option String :=
      match operands with
      | [] => some "missing operand"
      | _ :: _ :: _ :: extra :: _ => some ("extra operand " ++ quotedArgument extra)
      | _ => none
    if let some problem := problem? then return ← reportUse "seq" problem
    match (a.value? "f").mapM SequenceFormat.ofText with
    | .error problem =>
      report "seq" problem
      return 1
    | .ok format? =>
      if format?.isSome && a.has "w" then
        return ← reportUse "seq"
          "format string may not be specified when printing equal width strings"
      match operands.mapM SequenceNumber.ofText with
      | .error problem => reportUse "seq" problem
      | .ok numbers =>
        let (first, step, last) :=
          match numbers with
          | [last] => (SequenceNumber.one, SequenceNumber.one, last)
          | [first, last] => (first, SequenceNumber.one, last)
          | [first, step, last] => (first, step, last)
          | _ => (.one, .one, .one)
        match first.value, step.value with
        | some first', some step' =>
          if step'.1 = 0 then
            reportUse "seq"
              ("invalid Zero increment value: " ++ quotedArgument (operands.getD 1 ""))
          else
            let usual := SequenceFormat.usual (a.has "w") first step last
            runSequence (format?.getD usual) ((a.value? "s").getD "\n") first' step' last.value
              last.negative
            return 0
        | _, _ => return 0

/-- The prime factors of a number from `d` on, the least first. -/
def factorsFrom : Nat → Nat → Nat → List Nat
  | 0, _, n => if n = 1 then [] else [n]
  | fuel + 1, d, n =>
    if n < d * d then (if n = 1 then [] else [n])
    else if n % d = 0 then d :: factorsFrom fuel d (n / d)
    else factorsFrom fuel (if d = 2 then 3 else d + 2) n

/-- Writes numbers with their prime factors. -/
def factor (args : List String) : Act Nat :=
  withArguments "factor" { plain := "h", long := [("exponents", 'h')] } 1 args fun a => do
    let texts ←
      if a.operands.isEmpty then do
        let content ← Act.readAll
        let words := (String.ofList content).splitToList Text.isFieldGap
        pure (words.filter (· ≠ ""))
      else pure a.operands
    forOperands texts fun text => do
      let bare := text.toList.dropWhile fun c => Text.isSpace c || c == '+'
      match (if bare.all Char.isDigit then (String.ofList bare).toNat? else none) with
      | none =>
        report "factor" (quotedArgument text ++ " is not a valid positive integer")
        return false
      | some n =>
        let factors := if n = 0 then [] else factorsFrom 2000000 2 n
        let shown :=
          if a.has "h" then
            factors.eraseDups.map fun p =>
              let power := factors.count p
              toString p ++ if power = 1 then "" else "^" ++ toString power
          else factors.map toString
        Act.say (toString n ++ ":" ++ String.join (shown.map (" " ++ ·)) ++ "\n")
        return true

end Pipeline.Shell.Utility
