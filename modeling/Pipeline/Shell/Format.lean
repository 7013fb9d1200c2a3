import Pipeline.Number.Scan
import Pipeline.Shell.Escape

/-!
# Formats

Formats that take arguments one after the other until none is left, with conversions for texts and
numbers. What an argument has to offer is read from its front, and what is wrong with it is told.
-/

namespace Pipeline.Shell

open Number (Floating)

/-- How a conversion is written. -/
structure Conversion where
  leftAligned : Bool := false
  zeros : Bool := false
  plus : Bool := false
  blank : Bool := false
  alternative : Bool := false
  width : Nat := 0
  precision : Option Nat := none

/-- A problem with an argument. -/
inductive ArgumentProblem where
  | notNumeric
  | notAllUsed
  | outOfRange
  deriving DecidableEq, Repr

/-- The text of a problem. -/
def ArgumentProblem.message : ArgumentProblem → String
  | notNumeric => "expected numeric value"
  | notAllUsed => "not completely converted"
  | outOfRange => "Numerical result out of range"

namespace Conversion

/-- `n` times the same character. -/
def fill (n : Nat) (c : Char) : String :=
  String.ofList (List.replicate n c)

/-- A text padded to the width of a conversion. -/
def pad (v : Conversion) (text : String) : String :=
  let blanks := fill (v.width - text.length) ' '
  if v.leftAligned then text ++ blanks else blanks ++ text

/-- The sign before a number. -/
def sign (v : Conversion) (negative : Bool) : String :=
  if negative then "-" else if v.plus then "+" else if v.blank then " " else ""

/-- A number with what comes before its digits, zeros between them if there is room. -/
def padNumber (v : Conversion) (zeros : Bool) (lead digits : String) : String :=
  if zeros && v.zeros && !v.leftAligned then
    lead ++ fill (v.width - lead.length - digits.length) '0' ++ digits
  else v.pad (lead ++ digits)

/-- The digits of a number in a base, at least as many as the precision. -/
def digits (v : Conversion) (base n : Nat) : String :=
  if n = 0 ∧ v.precision = some 0 then ""
  else
    let text := String.ofList (Nat.toDigits base n)
    fill (v.precision.getD 0 - text.length) '0' ++ text

/-- A whole number with its sign. -/
def signed (v : Conversion) (n : Int) : String :=
  v.padNumber v.precision.isNone (v.sign (n < 0)) (v.digits 10 n.natAbs)

/-- A whole number without a sign, as the letter of the conversion says. -/
def unsigned (v : Conversion) (letter : Char) (n : Nat) : String :=
  let zeros := v.precision.isNone
  match letter with
  | 'o' =>
    let text := v.digits 8 n
    v.padNumber zeros "" (if v.alternative && text.toList.head? != some '0' then "0" ++ text
      else text)
  | 'x' => v.padNumber zeros (if v.alternative && n != 0 then "0x" else "") (v.digits 16 n)
  | 'X' =>
    let text := String.ofList ((v.digits 16 n).toList.map Char.toUpper)
    v.padNumber zeros (if v.alternative && n != 0 then "0X" else "") text
  | _ => v.padNumber zeros "" (v.digits 10 n)

/-- The hexadecimal digits of a magnitude with an exponent of two. -/
def hexadecimal (v : Conversion) (x : Number.Binary64) : String :=
  if x.mantissa = 0 then "0" ++ (match v.precision with
    | some (n + 1) => "." ++ fill (n + 1) '0'
    | _ => if v.alternative then "." else "") ++ "p+0"
  else
    let shift := 52 - Nat.log2 x.mantissa
    let mantissa := x.mantissa * Nat.pow 2 shift
    let e : Int := x.exponent + 52 - shift
    let (mantissa, places) :=
      match v.precision with
      | some p =>
        if p < 13 then (Number.Binary64.roundHalfEven mantissa (Nat.pow 16 (13 - p)), p)
        else (mantissa * Nat.pow 16 (p - 13), p)
      | none => (mantissa, 13)
    let whole := mantissa / Nat.pow 16 places
    let text := String.ofList (Nat.toDigits 16 (mantissa % Nat.pow 16 places))
    let fraction := if places = 0 then "" else fill (places - text.length) '0' ++ text
    let fraction :=
      if v.precision.isSome then fraction
      else String.ofList (fraction.toList.reverse.dropWhile (· = '0')).reverse
    String.ofList (Nat.toDigits 16 whole) ++
      (if fraction.isEmpty && !v.alternative then "" else "." ++ fraction) ++ "p" ++
      (if e < 0 then "-" else "+") ++ toString e.natAbs

/-- A number in double precision, as the letter of the conversion says. -/
def floating (v : Conversion) (letter : Char) (x : Floating) : String :=
  let upper (text : String) : String :=
    if letter.isUpper then String.ofList (text.toList.map Char.toUpper) else text
  let lead := v.sign x.isNegative
  match x with
  | .infinite _ => v.pad (lead ++ upper "inf")
  | .notANumber _ => v.pad (lead ++ upper "nan")
  | .finite y =>
    let (n, d) := y.magnitude.toRatio
    let places := v.precision.getD 6
    match letter.toLower with
    | 'f' => v.padNumber true lead (Number.fixedText n d places v.alternative)
    | 'e' => v.padNumber true lead (upper (Number.exponentialText n d places v.alternative 'e'))
    | 'g' => v.padNumber true lead (upper (Number.generalText n d places v.alternative 'e'))
    | _ => v.padNumber true (lead ++ upper "0x") (upper (v.hexadecimal y.magnitude))

end Conversion

/-- The problem of an argument of which `rest` was not used. -/
def problemOf (arg rest : List Char) : Option ArgumentProblem :=
  if rest.isEmpty then none else if rest.length = arg.length then some .notNumeric
  else some .notAllUsed

/-- The digits of a whole number in the base that its front tells: their value, and the rest. -/
def scanWhole (cs : List Char) : Option (Nat × List Char) :=
  let read (base : Nat) (cs : List Char) : Option (Nat × List Char) :=
    let ds := cs.takeWhile fun c => (Text.digitIn? base c).isSome
    if ds.isEmpty then none else some (Number.digitsValue base ds, cs.drop ds.length)
  match cs with
  | '0' :: x :: rest =>
    if x = 'x' ∨ x = 'X' then (read 16 rest).orElse fun _ => some (0, x :: rest)
    else read 8 cs
  | cs => read 10 cs

/-- The whole number of an argument, which is written in 64 bits with or without a sign, and what is
wrong with it: decimal, octal, hexadecimal, or the octet after a quote. -/
def wholeOf (isSigned : Bool) (arg : String) : Int × Option ArgumentProblem :=
  let cs := arg.toList
  match cs with
  | '\'' :: rest => ((rest.headD '\x00').toNat, none)
  | '"' :: rest => ((rest.headD '\x00').toNat, none)
  | cs =>
    let bare := cs.dropWhile Text.isSpace
    let (negative, ds) :=
      match bare with
      | '-' :: ds => (true, ds)
      | '+' :: ds => (false, ds)
      | ds => (false, ds)
    match scanWhole ds with
    | none => (0, problemOf cs cs)
    | some (n, rest) =>
      let value : Int := if negative then -n else n
      let (low, high) : Int × Int :=
        if isSigned then (-Nat.pow 2 63, Nat.pow 2 63 - 1)
        else (-(Nat.pow 2 64 - 1 : Nat), Nat.pow 2 64 - 1)
      let far := value < low ∨ high < value
      let value := if far then (if isSigned ∧ negative then low else high) else value
      (value, (problemOf cs rest).orElse fun _ => if far then some .outOfRange else none)

/-- The number in double precision of an argument, and what is wrong with it. -/
def floatingOf (arg : String) : Floating × Option ArgumentProblem :=
  let cs := arg.toList
  match cs with
  | '\'' :: rest => (.ofRatio false (rest.headD '\x00').toNat 1, none)
  | '"' :: rest => (.ofRatio false (rest.headD '\x00').toNat 1, none)
  | cs =>
    match Number.scanFloating? cs with
    | none => (.zero, problemOf cs cs)
    | some (x, rest) => (x, problemOf cs rest)

/-- What is wrong with a format or an argument of it. -/
inductive FormatProblem where
  | argument (text : String) (problem : ArgumentProblem)
  /-- A conversion without a meaning, as it is written. -/
  | directive (text : String)
  | noLetter
  deriving DecidableEq, Repr

/-- What is said of a problem. -/
def FormatProblem.message : FormatProblem → String
  | argument text problem => text ++ ": " ++ problem.message
  | directive text => text ++ ": invalid directive"
  | noLetter => "missing format character"

/-- What formatting makes: a text, complaints, and whether output ends. -/
structure Printed where
  text : String := ""
  complaints : List FormatProblem := []
  ends : Bool := false
  /-- Whether the format itself has no meaning. -/
  malformed : Bool := false
  /-- The arguments that are left. -/
  left : List String := []

/-- The flags of a conversion, and the text after them. -/
def takeFlags (v : Conversion) : List Char → Conversion × List Char
  | '-' :: rest => takeFlags { v with leftAligned := true } rest
  | '0' :: rest => takeFlags { v with zeros := true } rest
  | '+' :: rest => takeFlags { v with plus := true } rest
  | ' ' :: rest => takeFlags { v with blank := true } rest
  | '#' :: rest => takeFlags { v with alternative := true } rest
  | cs => (v, cs)

/-- A number in a format: digits, or a star that takes an argument. -/
def takeAmount (cs : List Char) (args : List String) : Int × List Char × List String :=
  match cs with
  | '*' :: rest => ((wholeOf true (args.headD "")).1, rest, args.drop 1)
  | cs =>
    let digits := cs.takeWhile Char.isDigit
    (Number.digitsValue 10 digits, cs.drop digits.length, args)

/-- The conversion after a percent sign up to its letter, the text from there on, and the arguments
that are left. -/
def takeConversion (cs : List Char) (args : List String) :
    Conversion × List Char × List String :=
  let (v, rest) := takeFlags {} cs
  let (width, rest, args) := takeAmount rest args
  let v := { v with width := width.natAbs, leftAligned := v.leftAligned || width < 0 }
  match rest with
  | '.' :: rest =>
    let (n, rest, args) := takeAmount rest args
    ({ v with precision := if n < 0 then none else some n.toNat }, rest, args)
  | rest => (v, rest, args)

/-- The value of a number in 64 bits without a sign. -/
def unsignedValue (n : Int) : Nat :=
  (n.emod (Nat.pow 2 64)).toNat

/-- The output of a format for some arguments; `fuel` exceeds the length of the format. -/
def formatOnce : Nat → List Char → List String → Printed
  | 0, _, args => { left := args }
  | _, [], args => { left := args }
  | fuel + 1, c :: rest, args =>
    let followedBy (text : String) (rest : List Char) (args : List String)
        (complaints : List FormatProblem) : Printed :=
      let after := formatOnce fuel rest args
      { after with text := text ++ after.text, complaints := complaints ++ after.complaints }
    if c = '\\' then
      match rest with
      | 'c' :: _ => { ends := true, left := args }
      | rest =>
        let (octet, rest) := Escape.take rest
        followedBy octet.toString rest args []
    else if c ≠ '%' then followedBy c.toString rest args []
    else
      let (v, afterConversion, args) := takeConversion rest args
      let arg := args.headD ""
      let cut (text : String) : String :=
        v.precision.elim text fun n => String.ofList (text.toList.take n)
      let converted (text : String) (problem : Option ArgumentProblem) (rest : List Char) :
          Printed :=
        followedBy text rest (args.drop 1)
          (problem.elim [] fun p => [.argument arg p])
      let malformed (complaint : FormatProblem) : Printed :=
        { complaints := [complaint], ends := true, malformed := true }
      match afterConversion with
      | [] => malformed .noLetter
      | letter :: more =>
        if letter = '%' ∧ rest.head? = some '%' then followedBy "%" more args []
        else if letter = 's' then converted (v.pad (cut arg)) none more
        else if letter = 'b' then
          let escaped := Escape.resolveText arg
          let shown := v.pad (cut (String.ofList escaped.text))
          if escaped.ends then { text := shown, ends := true, left := args.drop 1 }
          else converted shown none more
        else if letter = 'c' then
          converted (v.pad (String.ofList (if args.isEmpty then [] else [arg.toList.headD '\x00'])))
            none more
        else if letter = 'd' ∨ letter = 'i' then
          let (n, problem) := wholeOf true arg
          converted (v.signed n) problem more
        else if ['o', 'u', 'x', 'X'].contains letter then
          let (n, problem) := wholeOf false arg
          converted (v.unsigned letter (unsignedValue n)) problem more
        else if ['a', 'A', 'e', 'E', 'f', 'F', 'g', 'G'].contains letter then
          let (x, problem) := floatingOf arg
          converted (v.floating letter x) problem more
        else
          let size := rest.length - more.length
          malformed (.directive ("%" ++ String.ofList (rest.take size)))

/-- The output of a format that is used again as long as there are arguments. -/
def formatAll (format : List Char) : Nat → List String → Printed
  | 0, _ => {}
  | fuel + 1, args =>
    let once := formatOnce (format.length + 1) format args
    if once.ends || once.left.isEmpty || once.left.length = args.length then once
    else
      let after := formatAll format fuel once.left
      { after with
        text := once.text ++ after.text
        complaints := once.complaints ++ after.complaints }

end Pipeline.Shell
