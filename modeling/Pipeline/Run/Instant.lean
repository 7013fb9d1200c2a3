import Pipeline.Number.Binary64
import Pipeline.Number.Layout

/-!
# Instants

Instants are counted in microseconds from the beginning of 1970, and written as a date and a time of
the Gregorian calendar, years outside of 0 to 9999 with a sign. Durations are shown in seconds with
one decimal, rounded from their double precision value; a half goes to the even tenth.
-/

namespace Pipeline

/-- Microseconds since 1970 began. -/
structure Instant where
  micros : Int
  deriving DecidableEq, Repr, Inhabited

namespace Instant

/-- A year with the days before it, counted from the beginning of March in year zero. -/
structure CivilDay where
  year : Int
  month : Nat
  day : Nat
  deriving DecidableEq, Repr

/-- The date of a day counted from the beginning of 1970. -/
def civilDay (days : Int) : CivilDay :=
  let shifted := days + 719468
  let era := Int.fdiv shifted 146097
  let dayOfEra := (Int.fmod shifted 146097).toNat
  let yearOfEra :=
    (dayOfEra - dayOfEra / 1460 + dayOfEra / 36524 - dayOfEra / 146096) / 365
  let dayOfYear := dayOfEra - (365 * yearOfEra + yearOfEra / 4 - yearOfEra / 100)
  let shiftedMonth := (5 * dayOfYear + 2) / 153
  let month := if shiftedMonth < 10 then shiftedMonth + 3 else shiftedMonth - 9
  { year := (yearOfEra : Int) + era * 400 + (if month ≤ 2 then 1 else 0)
    month := month
    day := dayOfYear - (153 * shiftedMonth + 2) / 5 + 1 }

/-- `n` with zeros before it up to a width. -/
def padded (width n : Nat) : String :=
  let text := toString n
  Number.zeros (width - text.length) ++ text

/-- A year with four digits or more, and a sign where it is needed. -/
def renderYear (year : Int) : String :=
  if year < 0 then "-" ++ padded 4 year.natAbs
  else if 9999 < year then "+" ++ padded 5 year.toNat
  else padded 4 year.toNat

/-- The fraction of a second, in as few groups of three digits as hold it. -/
def renderFraction (micros : Nat) : String :=
  if micros = 0 then ""
  else if micros % 1000 = 0 then "." ++ padded 3 (micros / 1000)
  else "." ++ padded 6 micros

/-- The date and time in universal time. -/
def render (t : Instant) : String :=
  let days := Int.fdiv t.micros 86400000000
  let rest := (Int.fmod t.micros 86400000000).toNat
  let date := civilDay days
  let seconds := rest / 1000000
  renderYear date.year ++ "-" ++ padded 2 date.month ++ "-" ++ padded 2 date.day ++ "T" ++
    padded 2 (seconds / 3600) ++ ":" ++ padded 2 (seconds / 60 % 60) ++ ":" ++
    padded 2 (seconds % 60) ++ renderFraction (rest % 1000000) ++ "Z"

end Instant

/-- The seconds of a duration in double precision: the whole ones plus the billionths. -/
def secondsOf (micros : Nat) : Option Number.Binary64 := do
  let whole ← Number.Binary64.ofNat? (micros / 1000000)
  let fraction ← Number.Binary64.ofRatio? (micros % 1000000 * 1000) 1000000000
  whole.add? fraction

/-- The time between two instants in seconds with one decimal; a negative time counts as none. -/
def renderElapsed (start finish : Instant) : String :=
  let tenths := ((secondsOf (finish.micros - start.micros).toNat).getD .zero).tenths
  toString (tenths / 10) ++ "." ++ toString (tenths % 10)

end Pipeline
