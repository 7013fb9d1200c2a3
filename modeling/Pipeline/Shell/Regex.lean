import Pipeline.Shell.CharClass

/-!
# Regular expressions

Expressions for searches through texts, and what they match: of the matches that start first, the
longest. Parentheses remember what they matched, so that it can be asked for again.
-/

namespace Pipeline.Shell

/-- A regular expression. -/
inductive Regex where
  | empty
  | any
  | one (c : Char)
  | oneOf (negated : Bool) (ranges : List CharRange)
  | lineStart
  | lineEnd
  /-- A place where one of several lines in a text starts. -/
  | rowStart
  /-- A place where one of several lines in a text ends. -/
  | rowEnd
  | wordStart
  | wordEnd
  /-- A place where a word starts or ends, or one where it does not. -/
  | wordEdge (negated : Bool)
  | group (number : Nat) (r : Regex)
  /-- What a group matched before. -/
  | again (number : Nat)
  | both (first second : Regex)
  | either (first second : Regex)
  /-- A number of matches one after the other. -/
  | repeated (r : Regex) (low : Nat) (high : Option Nat)
  deriving Repr, Inhabited

/-- A place in a text up to which it was matched, with what groups matched: from where to where. -/
structure Spot where
  pos : Nat
  groups : List (Nat × Nat × Nat) := []
  deriving DecidableEq, Repr

/-- A part of a text that an expression matches. -/
structure Match where
  start : Nat
  stop : Nat
  groups : List (Nat × Nat × Nat)
  deriving DecidableEq, Repr

namespace Regex

/-- Whether the character at a place belongs to a word. -/
def wordAt (text : Array Char) (p : Nat) : Bool :=
  (text[p]?).any isWordChar

/-- Whether the character before a place belongs to a word. -/
def wordBefore (text : Array Char) (p : Nat) : Bool :=
  0 < p && wordAt text (p - 1)

/-- Spots without those where an earlier one is. -/
def firsts (spots : List Spot) : List Spot :=
  (spots.foldl (fun (acc : List Spot) s =>
    if acc.any fun t => t.pos == s.pos then acc else s :: acc) []).reverse

/-- Whether a character is one that an expression asks for; `fold` says that case does not count. -/
def agrees (fold : Bool) (c d : Char) : Bool :=
  c == d || (fold && c.toLower == d.toLower)

/-- Whether a character belongs to ranges. -/
def belongs (fold : Bool) (ranges : List CharRange) (c : Char) : Bool :=
  CharClass.holds ranges c ||
    (fold && (CharClass.holds ranges c.toLower || CharClass.holds ranges c.toUpper))

/-- The test of an expression for one character. -/
def single? (fold : Bool) : Regex → Option (Char → Bool)
  | .any => some fun _ => true
  | .one d => some fun c => agrees fold c d
  | .oneOf negated ranges => some fun c => belongs fold ranges c != negated
  | _ => none

/-- How many characters from a place on pass a test. -/
def countWhile (text : Array Char) (test : Char → Bool) : Nat → Nat → Nat
  | 0, _ => 0
  | limit + 1, p => if (text[p]?).any test then countWhile text test limit (p + 1) + 1 else 0

/-- The spots that steps lead to from those of a stack, the last found first. -/
def closure (step : Spot → List Spot) : Nat → List Spot → List Spot → List Spot
  | 0, _, done => done
  | _, [], done => done
  | fuel + 1, s :: stack, done =>
    if done.any fun t => t.pos == s.pos then closure step fuel stack done
    else closure step fuel (step s ++ stack) (s :: done)

/-- The spots after a number of steps. -/
def times (step : Spot → List Spot) : Nat → List Spot → List Spot
  | 0, spots => spots
  | n + 1, spots => times step n (firsts (spots.flatMap step))

/-- The spots after a number of steps at most, those after more steps first. -/
def atMost (step : Spot → List Spot) : Nat → List Spot → List Spot
  | 0, spots => spots
  | n + 1, spots => firsts (spots.flatMap fun s => atMost step n (step s) ++ [s])

/-- What a group matched. -/
def groupOf (groups : List (Nat × Nat × Nat)) (number : Nat) : Option (Nat × Nat) :=
  groups.lookup number

/-- The spots where a match that starts at a spot may end, preferred ones first. -/
def ends (text : Array Char) (fold : Bool) : Regex → Spot → List Spot
  | .empty, s => [s]
  | .any, s => if s.pos < text.size then [{ s with pos := s.pos + 1 }] else []
  | .one d, s => if (text[s.pos]?).any (agrees fold · d) then [{ s with pos := s.pos + 1 }] else []
  | .oneOf negated ranges, s =>
    if (text[s.pos]?).any fun c => belongs fold ranges c != negated then
      [{ s with pos := s.pos + 1 }]
    else []
  | .lineStart, s => if s.pos = 0 then [s] else []
  | .lineEnd, s => if s.pos = text.size then [s] else []
  | .rowStart, s => if s.pos = 0 || text[s.pos - 1]? == some '\n' then [s] else []
  | .rowEnd, s => if s.pos = text.size || text[s.pos]? == some '\n' then [s] else []
  | .wordStart, s => if !wordBefore text s.pos && wordAt text s.pos then [s] else []
  | .wordEnd, s => if wordBefore text s.pos && !wordAt text s.pos then [s] else []
  | .wordEdge negated, s =>
    if (wordBefore text s.pos != wordAt text s.pos) != negated then [s] else []
  | .group number r, s =>
    (ends text fold r s).map fun t =>
      { t with groups := (number, s.pos, t.pos) :: t.groups.filter fun g => g.1 != number }
  | .again number, s =>
    match groupOf s.groups number with
    | none => []
    | some (start, stop) =>
      let size := stop - start
      let same := (List.range size).all fun i =>
        match text[start + i]?, text[s.pos + i]? with
        | some c, some d => agrees fold c d
        | _, _ => false
      if same then [{ s with pos := s.pos + size }] else []
  | .both first second, s => firsts ((ends text fold first s).flatMap (ends text fold second))
  | .either first second, s => firsts (ends text fold first s ++ ends text fold second s)
  | .repeated r low high, s =>
    match single? fold r with
    | some test =>
      let count := countWhile text test (high.getD text.size) s.pos
      if count < low then []
      else (List.range (count + 1 - low)).map fun i => { s with pos := s.pos + count - i }
    | none =>
      let start := times (ends text fold r) low [s]
      match high with
      | some high => atMost (ends text fold r) (high - low) start
      | none =>
        let size := (text.size + 2) * (text.size + 2)
        firsts (start.flatMap fun t => closure (ends text fold r) size [t] [])

/-- The longest match that starts at a place. -/
def matchAt? (r : Regex) (fold : Bool) (text : Array Char) (start : Nat) : Option Match :=
  ((ends text fold r ⟨start, []⟩).foldl (fun (best : Option Spot) s =>
    match best with
    | none => some s
    | some t => if t.pos < s.pos then some s else some t) none).map fun s =>
      ⟨start, s.pos, s.groups⟩

/-- The first match that starts at one of the places from `start` on, `count` of them. -/
def findFrom? (r : Regex) (fold : Bool) (text : Array Char) : Nat → Nat → Option Match
  | 0, _ => none
  | count + 1, start => (r.matchAt? fold text start) <|> findFrom? r fold text count (start + 1)

/-- The first match from a place on. -/
def find? (r : Regex) (fold : Bool) (text : Array Char) (start : Nat) : Option Match :=
  findFrom? r fold text (text.size + 1 - start) start

/-- The matches one after the other from a place on. An empty match at the end of the one before
does not count. -/
def findAll (r : Regex) (fold : Bool) (text : Array Char) : Nat → Nat → Option Nat → List Match
  | 0, _, _ => []
  | fuel + 1, start, last =>
    match r.find? fold text start with
    | none => []
    | some m =>
      if m.start = m.stop then
        let rest := findAll r fold text fuel (m.stop + 1) last
        if last = some m.start then rest else m :: rest
      else m :: findAll r fold text fuel m.stop (some m.stop)

/-- All matches in a text. -/
def all (r : Regex) (fold : Bool) (text : Array Char) : List Match :=
  findAll r fold text (text.size + 2) 0 none

/-- The expression of a text that stands for itself. -/
def literal (cs : List Char) : Regex :=
  cs.foldr (fun c r => .both (.one c) r) .empty

/-- The number of groups. -/
def groupCount : Regex → Nat
  | .group _ r => groupCount r + 1
  | .both first second | .either first second => groupCount first + groupCount second
  | .repeated r _ _ => groupCount r
  | _ => 0

end Regex

end Pipeline.Shell
