import Pipeline.Shell.Utility.Arguments
import Pipeline.Shell.Utility.Count
import Pipeline.Text.Blank

/-!
# The order of lines

How lines compare: by their octets or by keys, which are parts of lines that may stand for numbers,
months or versions.
-/

namespace Pipeline.Shell.Utility

open Text (isFieldGap)

/-- How texts compare. -/
inductive KeyKind where
  | text
  | number
  | general
  | human
  | month
  | version
  deriving DecidableEq, Repr

/-- How a part of a line is compared. -/
structure KeyStyle where
  kind : KeyKind := .text
  skipStart : Bool := false
  skipEnd : Bool := false
  dictionary : Bool := false
  fold : Bool := false
  shownOnly : Bool := false
  reverse : Bool := false
  deriving DecidableEq, Repr

/-- The style with a letter's option; blanks are skipped at the start or at the end of the part. -/
def KeyStyle.with? (style : KeyStyle) (atEnd : Bool) (c : Char) : Option KeyStyle :=
  match c with
  | 'b' => some (if atEnd then { style with skipEnd := true } else { style with skipStart := true })
  | 'd' => some { style with dictionary := true }
  | 'f' => some { style with fold := true }
  | 'i' => some { style with shownOnly := true }
  | 'r' => some { style with reverse := true }
  | 'n' => some { style with kind := .number }
  | 'g' => some { style with kind := .general }
  | 'h' => some { style with kind := .human }
  | 'M' => some { style with kind := .month }
  | 'V' => some { style with kind := .version }
  | 'R' => some style
  | _ => none

/-- A part of a line: from a field and an octet in it up to another. -/
structure SortKey where
  field : Nat
  offset : Nat
  /-- The field at which the part ends, and how many of its octets belong to it, all if zero. -/
  until? : Option (Nat × Nat)
  style : KeyStyle

/-- What is left of a line after a number of fields. -/
def afterFields (separator : Option Char) : Nat → List Char → List Char
  | 0, cs => cs
  | n + 1, cs =>
    match separator with
    | some c => afterFields separator n ((cs.dropWhile (· ≠ c)).drop 1)
    | none => afterFields separator n ((cs.dropWhile isFieldGap).dropWhile (!isFieldGap ·))

/-- The part of a line that a key asks for. -/
def SortKey.part (key : SortKey) (separator : Option Char) (line : List Char) : List Char :=
  let trim (skip : Bool) (cs : List Char) : List Char :=
    if skip then cs.dropWhile isFieldGap else cs
  let start := (trim key.style.skipStart (afterFields separator key.field line)).drop key.offset
  match key.until? with
  | none => start
  | some (field, count) =>
    let rest :=
      if count = 0 then
        let after := afterFields separator (field + 1) line
        match separator with
        | none => after
        | some c =>
          let last := (afterFields separator field line).dropWhile (· ≠ c)
          if last.isEmpty then [] else c :: after
      else (trim key.style.skipEnd (afterFields separator field line)).drop count
    start.take (start.length - rest.length)

/-- A decimal number: its sign, the digits before the point, and those behind it. -/
structure DecimalText where
  negative : Bool
  whole : List Char
  fraction : List Char

/-- The decimal number at the front of a text. -/
def DecimalText.ofText (cs : List Char) : DecimalText :=
  let cs := cs.dropWhile isFieldGap
  let (negative, cs) := match cs with | '-' :: rest => (true, rest) | _ => (false, cs)
  let whole := cs.takeWhile Char.isDigit
  let fraction :=
    match cs.drop whole.length with
    | '.' :: rest => rest.takeWhile Char.isDigit
    | _ => []
  ⟨negative, whole, fraction⟩

/-- The number as a whole number of units of which there are ten to a power in one. -/
def DecimalText.scaled (d : DecimalText) (places : Nat) : Int :=
  let digits := d.whole ++ d.fraction ++ List.replicate (places - d.fraction.length) '0'
  let n : Nat := digits.foldl (fun n c => n * 10 + (c.toNat - 48)) 0
  if d.negative then -n else n

/-- The order of two numbers at the front of texts. -/
def compareNumbers (a b : List Char) : Ordering :=
  let x := DecimalText.ofText a
  let y := DecimalText.ofText b
  let places := max x.fraction.length y.fraction.length
  compare (x.scaled places) (y.scaled places)

/-- The exponent after a number, and the number's digits with a power of ten. -/
def generalNumber? (cs : List Char) : Option (Int × Int) :=
  let cs := cs.dropWhile Text.isSpace
  let unsigned := match cs with | '+' :: rest => rest | cs => cs
  let d := DecimalText.ofText unsigned
  if d.whole.isEmpty && d.fraction.isEmpty then none
  else
    let body := match unsigned with | '-' :: rest => rest | rest => rest
    let after := (body.drop d.whole.length).drop
      (match body.drop d.whole.length with | '.' :: _ => d.fraction.length + 1 | _ => 0)
    let exponent : Int :=
      match after with
      | c :: rest =>
        if c = 'e' ∨ c = 'E' then
          let (sign, digits) : Int × List Char :=
            match rest with
            | '-' :: ds => (-1, ds)
            | '+' :: ds => (1, ds)
            | ds => (1, ds)
          sign * (((String.ofList (digits.takeWhile Char.isDigit)).toNat?.getD 0 : Nat) : Int)
        else 0
      | [] => 0
    some (d.scaled d.fraction.length, exponent - d.fraction.length)

/-- The order of two numbers with exponents; a text without a number comes before all. -/
def compareGeneral (a b : List Char) : Ordering :=
  match generalNumber? a, generalNumber? b with
  | none, none => .eq
  | none, _ => .lt
  | _, none => .gt
  | some (m, x), some (n, y) =>
    let least := min x y
    let scale (k e : Int) : Int := k * (Nat.pow 10 (min 5000 (e - least).toNat) : Nat)
    compare (scale m x) (scale n y)

/-- The rank of the unit after a number, less than zero for a negative number. -/
def unitRank (cs : List Char) : Int :=
  let d := DecimalText.ofText cs
  let body := cs.dropWhile isFieldGap
  let body := if d.negative then body.drop 1 else body
  let after := body.drop d.whole.length
  let after := match after with | '.' :: rest => rest.drop d.fraction.length | rest => rest
  let isZero := (d.whole ++ d.fraction).all (· = '0')
  let rank : Nat :=
    match after with
    | c :: _ =>
      if isZero then 0
      else ((['K', 'M', 'G', 'T', 'P', 'E', 'Z', 'Y', 'R', 'Q'].idxOf?
        (if c = 'k' then 'K' else c)).map (· + 1)).getD 0
    | [] => 0
  if d.negative then -rank else rank

/-- The number of the month that a text begins with. -/
def monthOf (cs : List Char) : Nat :=
  let name := String.ofList (((cs.dropWhile isFieldGap).take 3).map Char.toUpper)
  ((["JAN", "FEB", "MAR", "APR", "MAY", "JUN", "JUL", "AUG", "SEP", "OCT", "NOV", "DEC"].idxOf?
    name).map (· + 1)).getD 0

/-- The rank of an octet in a version. -/
def versionRank (c : Char) : Int :=
  if c.isDigit then 0
  else if c.isAlpha then c.toNat
  else if c = '~' then -1
  else c.toNat + 256

/-- The order of two versions: stretches without digits and numbers in turn. -/
def compareVersions : Nat → List Char → List Char → Ordering
  | 0, _, _ => .eq
  | fuel + 1, a, b =>
    if a.isEmpty && b.isEmpty then .eq
    else
      let (x, y) := (a.takeWhile (!Char.isDigit ·), b.takeWhile (!Char.isDigit ·))
      let size := max x.length y.length
      let rank (cs : List Char) (i : Nat) : Int := ((cs[i]?).map versionRank).getD 0
      let letters := (List.range size).foldl (fun (o : Ordering) i =>
        o.then (compare (rank x i) (rank y i))) .eq
      let number (cs : List Char) : Nat :=
        ((cs.takeWhile Char.isDigit).foldl (fun (n : Nat) c => n * 10 + (c.toNat - 48)) 0)
      let (p, q) := (a.drop x.length, b.drop y.length)
      (letters.then (compare (number p) (number q))).then
        (compareVersions fuel (p.dropWhile Char.isDigit) (q.dropWhile Char.isDigit))

/-- The order of octets. -/
def compareOctets : List Char → List Char → Ordering
  | [], [] => .eq
  | [], _ => .lt
  | _, [] => .gt
  | a :: as, b :: bs => if a = b then compareOctets as bs else compare a.toNat b.toNat

/-- The order of two parts. -/
def KeyStyle.compareParts (style : KeyStyle) (a b : List Char) : Ordering :=
  let seen (cs : List Char) : List Char :=
    let cs := if style.dictionary then cs.filter fun c => isFieldGap c || c.isAlphanum else cs
    let cs := if style.shownOnly then cs.filter isShown else cs
    if style.fold then cs.map Char.toUpper else cs
  let order :=
    match style.kind with
    | .text => compareOctets (seen a) (seen b)
    | .number => compareNumbers a b
    | .general => compareGeneral a b
    | .human => (compare (unitRank a) (unitRank b)).then (compareNumbers a b)
    | .month => compare (monthOf a) (monthOf b)
    | .version => (compareVersions (a.length + b.length + 1) a b).then (compareOctets a b)
  if style.reverse then order.swap else order

end Pipeline.Shell.Utility
