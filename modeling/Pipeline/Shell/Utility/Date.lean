import Pipeline.Number.Notation
import Pipeline.Run.Instant
import Pipeline.Shell.Utility.Arguments

/-!
# Dates

Times as seconds since 1970 began: how they are read from texts with dates, clock times and
distances from them, and how they are written in a format. All are in universal time.
-/

namespace Pipeline.Shell.Utility

open Instant (CivilDay civilDay)

/-- The days from the beginning of 1970 to a date. -/
def daysOfDate (year : Int) (month day : Nat) : Int :=
  let y := if month ≤ 2 then year - 1 else year
  let era := y.fdiv 400
  let yearOfEra := y - era * 400
  let shifted : Int := if 2 < month then (month : Int) - 3 else (month : Int) + 9
  let dayOfYear := (153 * shifted + 2).fdiv 5 + (day : Int) - 1
  era * 146097 + yearOfEra * 365 + yearOfEra.fdiv 4 - yearOfEra.fdiv 100 + dayOfYear - 719468

/-- A date with a time of the day. -/
structure DateTime where
  year : Int
  month : Nat
  day : Nat
  second : Nat

/-- The date and time of seconds since 1970 began. -/
def DateTime.ofSeconds (seconds : Int) : DateTime :=
  let date := civilDay (seconds.fdiv 86400)
  ⟨date.year, date.month, date.day, (seconds.fmod 86400).toNat⟩

/-- The seconds from the beginning of 1970 to a date and time. -/
def DateTime.seconds (t : DateTime) : Int :=
  daysOfDate t.year t.month t.day * 86400 + t.second

/-- Whether there is such a day. -/
def DateTime.isValid (t : DateTime) : Bool :=
  let back := DateTime.ofSeconds (daysOfDate t.year t.month t.day * 86400)
  back.month == t.month && back.day == t.day && t.second < 86400

/-- The day of the week, Sunday as zero. -/
def weekdayOf (days : Int) : Nat :=
  ((days + 4).fmod 7).toNat

/-- The names of the days of the week. -/
def weekdays : List String :=
  ["Sunday", "Monday", "Tuesday", "Wednesday", "Thursday", "Friday", "Saturday"]

/-- The names of the months. -/
def months : List String :=
  ["January", "February", "March", "April", "May", "June", "July", "August", "September", "October",
    "November", "December"]

/-- The year and the number of the week that a day belongs to, where a week belongs to the year that
most of its days lie in. -/
def weekOf (days : Int) : Int × Nat :=
  let thursday := days - (((weekdayOf days + 6) % 7 : Nat) : Int) + 3
  let year := (civilDay thursday).year
  (year, ((thursday - daysOfDate year 1 1).toNat) / 7 + 1)

/-- A part of a text that tells a time. -/
inductive DateWord where
  | number (digits : List Char)
  | word (letters : String)
  | sign (c : Char)
  deriving DecidableEq, Repr

/-- The parts of a text that tells a time; `fuel` exceeds its length. -/
def dateWords : Nat → List Char → List DateWord
  | 0, _ => []
  | _, [] => []
  | fuel + 1, c :: cs =>
    if c.isDigit then
      let digits := (c :: cs).takeWhile Char.isDigit
      .number digits :: dateWords fuel ((c :: cs).drop digits.length)
    else if c.isAlpha then
      let letters := (c :: cs).takeWhile Char.isAlpha
      .word (String.ofList (letters.map Char.toLower)) ::
        dateWords fuel ((c :: cs).drop letters.length)
    else if c = ' ' ∨ c = '\t' ∨ c = ',' then dateWords fuel cs
    else .sign c :: dateWords fuel cs

/-- What the parts of a text tell of a time. -/
structure DateParts where
  date : Option (Int × Nat × Nat) := none
  clock : Option Nat := none
  seconds : Option Int := none
  /-- How far the clock is ahead of universal time. -/
  offset : Int := 0
  months : Int := 0
  rest : Int := 0
  /-- A day of the week, and which of those to come. -/
  weekday : Option (Nat × Int) := none

/-- The number of digits. -/
def digitsNumber (cs : List Char) : Nat :=
  cs.foldl (fun n c => n * 10 + (c.toNat - 48)) 0

/-- A distance of a unit as months and seconds. -/
def unitOf? (word : String) : Option (Int × Int) :=
  let bare := if word.toList.getLast? = some 's' then String.ofList word.toList.dropLast else word
  match bare with
  | "sec" | "second" => some (0, 1)
  | "min" | "minute" => some (0, 60)
  | "hour" => some (0, 3600)
  | "day" => some (0, 86400)
  | "week" => some (0, 604800)
  | "fortnight" => some (0, 1209600)
  | "month" => some (1, 0)
  | "year" => some (12, 0)
  | _ => none

/-- The number of a month by its name, or the first three letters of it. -/
def monthNumber? (word : String) : Option Nat :=
  (months.findIdx? fun m =>
    let name := String.ofList (m.toList.map Char.toLower)
    name == word || String.ofList (name.toList.take 3) == word).map (· + 1)

/-- The number of a day of the week by its name, or a beginning of it that is in use. -/
def weekdayNumber? (word : String) : Option Nat :=
  let full : String :=
    match word with
    | "tues" => "tuesday"
    | "wednes" => "wednesday"
    | "thur" | "thurs" => "thursday"
    | word => word
  weekdays.findIdx? fun d =>
    let name := d.toList.map Char.toLower
    name == full.toList || name.take 3 == full.toList

namespace DateParts

/-- The parts with a distance added, a number of times. -/
def move (p : DateParts) (times : Int) (unit : Int × Int) : DateParts :=
  { p with months := p.months + times * unit.1, rest := p.rest + times * unit.2 }

/-- The clock time of hours, minutes and seconds, if it is one. -/
def clockOf? (h m s : List Char) : Option Nat :=
  let (h, m, s) := (digitsNumber h, digitsNumber m, digitsNumber s)
  if h < 24 ∧ m < 60 ∧ s ≤ 60 then some (h * 3600 + m * 60 + s) else none

/-- The year of two digits or more. -/
def yearOf (cs : List Char) : Int :=
  let n := digitsNumber cs
  if 2 < cs.length then n else if n < 69 then 2000 + n else 1900 + n

/-- The parts that words tell. -/
def ofWords (p : DateParts) : List DateWord → Option DateParts
  | [] => some p
  | .sign '@' :: .sign '-' :: .number n :: rest =>
    ofWords { p with seconds := some (-(digitsNumber n : Int)) } rest
  | .sign '@' :: .number n :: .sign '.' :: .number _ :: rest =>
    ofWords { p with seconds := some (digitsNumber n) } rest
  | .sign '@' :: .number n :: rest => ofWords { p with seconds := some (digitsNumber n) } rest
  | .number y :: .sign '-' :: .number m :: .sign '-' :: .number d :: rest =>
    ofWords { p with date := some (yearOf y, digitsNumber m, digitsNumber d) } rest
  | .number m :: .sign '/' :: .number d :: .sign '/' :: .number y :: rest =>
    if 4 ≤ m.length then
      ofWords { p with date := some (yearOf m, digitsNumber d, digitsNumber y) } rest
    else ofWords { p with date := some (yearOf y, digitsNumber m, digitsNumber d) } rest
  | .number h :: .sign ':' :: .number m :: .sign ':' :: .number s
      :: .sign '.' :: .number _ :: rest =>
    (clockOf? h m s).bind fun t => ofWords { p with clock := some t } rest
  | .number h :: .sign ':' :: .number m :: .sign ':' :: .number s :: rest =>
    (clockOf? h m s).bind fun t => ofWords { p with clock := some t } rest
  | .number h :: .sign ':' :: .number m :: rest =>
    (clockOf? h m []).bind fun t => ofWords { p with clock := some t } rest
  | .sign c :: .number h :: .sign ':' :: .number m :: rest =>
    if p.clock.isSome ∧ (c = '+' ∨ c = '-') then
      let size : Int := digitsNumber h * 3600 + digitsNumber m * 60
      ofWords { p with offset := if c = '-' then -size else size } rest
    else none
  | .number _ :: .word "ago" :: _ => none
  | .number n :: .word w :: .word "ago" :: rest =>
    (unitOf? w).bind fun unit => ofWords (p.move (-(digitsNumber n : Int)) unit) rest
  | .sign '+' :: .number n :: .word w :: rest =>
    (unitOf? w).bind fun unit => ofWords (p.move (digitsNumber n) unit) rest
  | .sign '-' :: .number n :: .word w :: rest =>
    (unitOf? w).bind fun unit => ofWords (p.move (-(digitsNumber n : Int)) unit) rest
  | .number d :: .word w :: .number y :: rest =>
    match monthNumber? w, unitOf? w with
    | some m, _ =>
      if y.length = 4 then ofWords { p with date := some (yearOf y, m, digitsNumber d) } rest
      else none
    | none, some unit => ofWords (p.move (digitsNumber d) unit) (.number y :: rest)
    | none, none => none
  | .number n :: .word w :: rest =>
    match w, unitOf? w with
    | "am", _ => (clockOf? n [] []).bind fun t => ofWords { p with clock := some (t % 43200) } rest
    | "pm", _ =>
      (clockOf? n [] []).bind fun t => ofWords { p with clock := some (t % 43200 + 43200) } rest
    | _, some unit => ofWords (p.move (digitsNumber n) unit) rest
    | _, none =>
      (weekdayNumber? w).bind fun day =>
        ofWords { p with weekday := some (day, digitsNumber n) } rest
  | .word w :: .number d :: .number y :: rest =>
    (monthNumber? w).bind fun m =>
      if y.length = 4 then ofWords { p with date := some (yearOf y, m, digitsNumber d) } rest
      else none
  | .word w :: .word unit :: rest =>
    let ordinal? : Option Int :=
      match w with
      | "next" => some 1
      | "last" => some (-1)
      | "this" => some 0
      | _ => none
    match ordinal?, unitOf? unit, weekdayNumber? unit with
    | some n, some unit, _ => ofWords (p.move n unit) rest
    | some n, none, some day => ofWords { p with weekday := some (day, n) } rest
    | some _, none, none => none
    | none, _, _ =>
      match w with
      | "t" | "z" | "utc" | "gmt" | "now" | "today" => ofWords p (.word unit :: rest)
      | "yesterday" => ofWords (p.move (-1) (0, 86400)) (.word unit :: rest)
      | "tomorrow" => ofWords (p.move 1 (0, 86400)) (.word unit :: rest)
      | _ =>
        (weekdayNumber? w).bind fun day =>
          ofWords { p with weekday := some (day, 0) } (.word unit :: rest)
  | .word w :: rest =>
    match w with
    | "t" | "z" | "utc" | "gmt" | "now" | "today" => ofWords p rest
    | "yesterday" => ofWords (p.move (-1) (0, 86400)) rest
    | "tomorrow" => ofWords (p.move 1 (0, 86400)) rest
    | _ => (weekdayNumber? w).bind fun day => ofWords { p with weekday := some (day, 0) } rest
  | .number n :: rest =>
    if n.length = 8 then
      let (y, m, d) := (n.take 4, (n.drop 4).take 2, n.drop 6)
      ofWords { p with date := some (yearOf y, digitsNumber m, digitsNumber d) } rest
    else none
  | .sign _ :: _ => none
termination_by words => words.length

end DateParts

/-- The seconds of a text that tells a time, with another time as the present. -/
def timeOfDate? (present : Int) (text : String) : Option Int := do
  let cs := text.toList
  let p ← DateParts.ofWords {} (dateWords (cs.length + 1) cs)
  let now := DateTime.ofSeconds present
  let start : DateTime :=
    match p.seconds, p.date with
    | some n, _ => .ofSeconds n
    | none, some (y, m, d) => ⟨y, m, d, p.clock.getD 0⟩
    | none, none =>
      { now with
        second := p.clock.getD (if cs.isEmpty || p.weekday.isSome then 0 else now.second) }
  if !start.isValid then none
  else
    let months := start.year * 12 + (start.month : Int) - 1 + p.months
    let moved := { start with year := months.fdiv 12, month := (months.fmod 12).toNat + 1 }
    let days : Int :=
      match p.date, p.weekday with
      | none, some (day, ordinal) =>
        let today := weekdayOf (moved.seconds.fdiv 86400)
        ((day + 7 - today) % 7 : Nat) +
          7 * (ordinal - if 0 < ordinal ∧ today ≠ day then 1 else 0)
      | _, _ => 0
    some (moved.seconds + days * 86400 + p.rest - p.offset)

/-- The seconds of digits as `touch` takes them: a year that may be short or missing, then a month,
a day, an hour and a minute of two digits each, and seconds after a point. -/
def timeOfStamp? (present : Int) (text : String) : Option Int :=
  let digits := text.toList.takeWhile Char.isDigit
  let seconds := text.toList.drop digits.length
  let tail := digits.drop (digits.length - 8)
  let head := digits.take (digits.length - 8)
  let two (i : Nat) : Nat := digitsNumber ((tail.drop (2 * i)).take 2)
  let year := if head.isEmpty then (DateTime.ofSeconds present).year else DateParts.yearOf head
  let second? : Option Nat :=
    match seconds with
    | [] => some 0
    | ['.', a, b] => if a.isDigit ∧ b.isDigit then some (digitsNumber [a, b]) else none
    | _ => none
  match second? with
  | some second =>
    let t : DateTime := ⟨year, two 0, two 1, two 2 * 3600 + two 3 * 60 + second⟩
    if [8, 10, 12].contains digits.length && t.isValid && two 2 < 24 && two 3 < 60 then
      some t.seconds
    else none
  | none => none

/-- What a letter of a format stands for, and how it is padded if nothing else is said: with a
character to a width. -/
def dateField (t : DateTime) (c : Char) : Option (String × Option (Char × Nat)) :=
  let days := daysOfDate t.year t.month t.day
  let dayOfYear := (days - daysOfDate t.year 1 1).toNat
  let weekday := weekdayOf days
  let (hour, minute, second) := (t.second / 3600, t.second / 60 % 60, t.second % 60)
  let two (n : Nat) : Option (String × Option (Char × Nat)) := some (toString n, some ('0', 2))
  let blank (n : Nat) : Option (String × Option (Char × Nat)) := some (toString n, some (' ', 2))
  let text (s : String) : Option (String × Option (Char × Nat)) := some (s, none)
  let short (s : String) : String := String.ofList (s.toList.take 3)
  let pad (n : Nat) : String := Number.paddedDigits n 2
  let twelve := if hour % 12 = 0 then 12 else hour % 12
  let time := pad hour ++ ":" ++ pad minute ++ ":" ++ pad second
  let monthName := months.getD (t.month - 1) ""
  let dayName := weekdays.getD weekday ""
  let year := t.year.toNat
  match c with
  | 'Y' => some (toString t.year, some ('0', 4))
  | 'C' => two (year / 100)
  | 'y' => two (year % 100)
  | 'm' => two t.month
  | 'd' => two t.day
  | 'e' => blank t.day
  | 'H' => two hour
  | 'k' => blank hour
  | 'I' => two twelve
  | 'l' => blank twelve
  | 'M' => two minute
  | 'S' => two second
  | 'N' => some ("000000000", none)
  | 'j' => some (toString (dayOfYear + 1), some ('0', 3))
  | 'u' => text (toString (if weekday = 0 then 7 else weekday))
  | 'w' => text (toString weekday)
  | 'U' => two ((dayOfYear + 7 - weekday) / 7)
  | 'W' => two ((dayOfYear + 7 - (weekday + 6) % 7) / 7)
  | 'V' => two (weekOf days).2
  | 'G' => some (toString (weekOf days).1, some ('0', 4))
  | 'g' => two ((weekOf days).1.toNat % 100)
  | 'q' => text (toString ((t.month - 1) / 3 + 1))
  | 's' => text (toString t.seconds)
  | 'a' => text (short dayName)
  | 'A' => text dayName
  | 'b' | 'h' => text (short monthName)
  | 'B' => text monthName
  | 'p' => text (if hour < 12 then "AM" else "PM")
  | 'P' => text (if hour < 12 then "am" else "pm")
  | 'F' => text (toString t.year ++ "-" ++ pad t.month ++ "-" ++ pad t.day)
  | 'D' | 'x' => text (pad t.month ++ "/" ++ pad t.day ++ "/" ++ pad (year % 100))
  | 'T' | 'X' => text time
  | 'R' => text (pad hour ++ ":" ++ pad minute)
  | 'r' =>
    text (pad twelve ++ ":" ++ pad minute ++ ":" ++ pad second ++
      if hour < 12 then " AM" else " PM")
  | 'c' =>
    text (short dayName ++ " " ++ short monthName ++ " " ++
      padded 2 (toString t.day) ++ " " ++ time ++
      " " ++ toString t.year)
  | 'Z' => text "UTC"
  | 'z' => text "+0000"
  | 'n' => text "\n"
  | 't' => text "\t"
  | '%' => text "%"
  | _ => none

/-- A time in a format; `fuel` exceeds the length of the format. -/
def dateText (t : DateTime) : Nat → List Char → String
  | 0, _ => ""
  | _, [] => ""
  | fuel + 1, c :: cs =>
    if c ≠ '%' then c.toString ++ dateText t fuel cs
    else
      let flags := cs.takeWhile fun d => "-_0^#".toList.contains d
      let rest := cs.drop flags.length
      let digits := rest.takeWhile Char.isDigit
      let rest := rest.drop digits.length
      let colons := rest.takeWhile (· = ':')
      match rest.drop colons.length with
      | [] => "%" ++ String.ofList cs
      | letter :: after =>
        let whole := c :: cs.take (cs.length - after.length)
        match if colons.isEmpty then dateField t letter else if letter = 'z' then
          some ("+00:00", none) else none with
        | none => String.ofList whole ++ dateText t fuel after
        | some (text, layout) =>
          let text := if letter = 'N' ∧ !digits.isEmpty then
            String.ofList (text.toList.take (digitsNumber digits)) else text
          let fill :=
            if flags.contains '_' then ' ' else if flags.contains '0' then '0'
            else layout.elim ' ' Prod.fst
          let width :=
            if flags.contains '-' then 0
            else if digits.isEmpty then layout.elim 0 Prod.snd else digitsNumber digits
          let text := String.ofList (List.replicate (width - text.length) fill) ++ text
          let text :=
            if flags.contains '^' ∨ flags.contains '#' then
              String.ofList (text.toList.map Char.toUpper)
            else text
          text ++ dateText t fuel after

/-- The time of a moment in the run of a shell, in seconds since 1970 began. -/
def presentOf (s : State) : Int :=
  Files.presentTime + ((s.clock / 1000000 : Nat) : Int)

/-- Writes a time in a format. -/
def date (args : List String) : Act Nat :=
  let t : OptionTable :=
    { plain := "uR", valued := "drsf", optional := "I", longValued := ["rfc-3339"]
      long := [("utc", 'u'), ("universal", 'u'), ("date", 'd'), ("reference", 'r'), ("set", 's'),
        ("rfc-email", 'R'), ("iso-8601", 'I'), ("file", 'f')] }
  withArguments "date" t 1 args fun a => do
    let s ← get
    let format : String :=
      match a.operands.head?, a.last? ["R", "I", "rfc-3339"] with
      | some operand, _ => String.ofList (operand.toList.drop 1)
      | none, some "R" => "%a, %d %b %Y %H:%M:%S %z"
      | none, some key =>
        let between := if key = "I" then "T" else " "
        match (a.value? key).getD "" with
        | "hours" => "%Y-%m-%d" ++ between ++ "%H%:z"
        | "minutes" => "%Y-%m-%d" ++ between ++ "%H:%M%:z"
        | "seconds" => "%Y-%m-%d" ++ between ++ "%H:%M:%S%:z"
        | "ns" => "%Y-%m-%d" ++ between ++ "%H:%M:%S.%N%:z"
        | _ => "%Y-%m-%d"
      | none, none => "%a %b %e %H:%M:%S %Z %Y"
    let write (seconds : Int) : Act Nat := do
      Act.say (dateText (.ofSeconds seconds) (format.length + 1) format.toList ++ "\n")
      return 0
    match a.operands with
    | _ :: extra :: _ => reportUse "date" ("extra operand " ++ quotedArgument extra)
    | operands =>
      if let some operand := operands.head?.filter fun o => o.toList.head? != some '+' then
        report "date" ("invalid date " ++ quotedArgument operand)
        return 1
      match a.value? "r", a.value? "d" with
      | some path, _ =>
        match s.files.locate s.workingDir path with
        | .ok (place, _) => write (s.files.changeOf place).1
        | .error e =>
          report "date" (plainComplaint path e)
          return 1
      | none, some text =>
        match timeOfDate? (presentOf s) text with
        | some seconds => write seconds
        | none =>
          report "date" ("invalid date " ++ quotedArgument text)
          return 1
      | none, none => write (presentOf s)

end Pipeline.Shell.Utility
