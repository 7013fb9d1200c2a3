import Pipeline.Shell.Format
import Pipeline.Shell.Pattern
import Pipeline.Shell.Regex

/-!
# Terms on files

What is asked of files while a tree is gone through, and what is done with them: conditions and
actions put together by connectives, and how such a term is read from signs with parentheses.
-/

namespace Pipeline.Shell.Utility.Find

/-- How a number is compared. -/
inductive Amount where
  | exactly (n : Nat)
  | more (n : Nat)
  | less (n : Nat)
  deriving DecidableEq, Repr

/-- Whether a number fits. -/
def Amount.holds (a : Amount) (x : Nat) : Bool :=
  match a with
  | .exactly n => x == n
  | .more n => n < x
  | .less n => x < n

/-- The comparison that a text asks for: a number, with a sign for more or less. -/
def Amount.ofText? (text : String) : Option Amount :=
  match text.toList with
  | '+' :: cs => (String.ofList cs).toNat?.map .more
  | '-' :: cs => (String.ofList cs).toNat?.map .less
  | _ => text.toNat?.map .exactly

/-- How permissions are compared. -/
inductive ModeUse where
  | exactly
  | every
  | some
  deriving DecidableEq, Repr

/-- What is asked of a file. -/
inductive Condition where
  | constant (holds : Bool)
  | name (pattern : Pattern) (fold : Bool)
  | path (pattern : Pattern) (fold : Bool)
  | regex (r : Regex) (fold : Bool)
  /-- Where a link leads. -/
  | target (pattern : Pattern) (fold : Bool)
  /-- The kind, as one of some letters; `other` asks for that behind a link, or of the link
  itself. -/
  | kind (letters : List Char) (other : Bool)
  | size (amount : Amount) (unit : Nat)
  | empty
  | newerThan (place : Place)
  | newerThanTime (time : Int)
  /-- How long ago it was changed, in units of some seconds. -/
  | age (amount : Amount) (unit : Nat) (days : Bool)
  | permissions (use : ModeUse) (bits : Nat)
  | links (amount : Amount)
  | owner (amount : Amount)
  | serial (amount : Amount)
  | same (place : Place)
  | executable
  deriving Inhabited

/-- A part of a format. -/
inductive Piece where
  | text (cs : List Char)
  | field (v : Conversion) (letter : Char) (detail : Char)
  | stop

/-- What is written about a file. -/
inductive Shown where
  | path (ending : String)
  | format (pieces : List Piece)
  | long

/-- What is done with a file. -/
inductive Action where
  | write (what : Shown) (file : Option String)
  | delete
  | prune
  | quit
  | run (command : List String) (inPlace asks : Bool)
  /-- One command for many files, told apart from others by a number. -/
  | gather (number : Nat) (command : List String) (inPlace : Bool)

/-- Conditions and actions put together. -/
inductive Term where
  | condition (c : Condition)
  | action (a : Action)
  | both (first second : Term)
  | either (first second : Term)
  /-- One after the other, whatever the first gives. -/
  | next (first second : Term)
  | negation (t : Term)

/-- How two terms are joined, the loosest way first. -/
inductive Joint where
  | next
  | either
  | both
  deriving DecidableEq, Repr

/-- How tightly terms are joined. -/
def Joint.rank : Joint → Nat
  | next => 1
  | either => 2
  | both => 3

/-- The term that joins two others. -/
def Joint.join : Joint → Term → Term → Term
  | next => .next
  | either => .either
  | both => .both

/-- A sign of a term as it is written; a parenthesis may be there without being written. -/
inductive Sign where
  | leaf (t : Term)
  | opening (written : Bool) (name : String)
  | closing (written : Bool) (name : String)
  | negation (name : String)
  | joint (j : Joint) (name : String)

/-- Whether a term may end with a sign. -/
def Sign.isEnd : Sign → Bool
  | .leaf _ | .closing _ _ => true
  | _ => false

/-- Whether a term may start with a sign. -/
def Sign.isStart : Sign → Bool
  | .leaf _ | .opening _ _ | .negation _ => true
  | _ => false

/-- What is wrong with the signs of a term. -/
inductive SignError where
  | incomplete
  | nothingBefore (joint : String)
  | nothingInside (before : String)
  | nothingAfter (before : String)
  | nothingBeforeClosing (closing : String)
  | noClosing (opening : String)
  | closingMissing
  | emptyParentheses
  | tooManyClosing
  deriving DecidableEq, Repr

/-- What is said of an error. -/
def SignError.message : SignError → String
  | incomplete => "invalid expression"
  | nothingBefore joint => "invalid expression; you have used a binary operator '" ++ joint ++
      "' with nothing before it."
  | nothingInside before => "expected an expression between '" ++ before ++ "' and ')'"
  | nothingAfter before => "expected an expression after '" ++ before ++ "'"
  | nothingBeforeClosing closing =>
    "invalid expression: expected expression before closing parentheses '" ++ closing ++ "'."
  | noClosing «opening» => "invalid expression; expected to find a ')' but didn't see one. " ++
      "Perhaps you need an extra predicate after '" ++ «opening» ++ "'"
  | closingMissing =>
    "invalid expression; I was expecting to find a ')' somewhere but did not see one."
  | emptyParentheses => "invalid expression; empty parentheses are not allowed."
  | tooManyClosing => "you have too many ')'"

/-- A reader of signs. -/
abbrev SignReader := StateT (List Sign) (Except SignError)

mutual

/-- The term at the front whose joints are tighter than `rank`; `before` is the sign before it. -/
def takeTerm : Nat → Nat → Option Sign → SignReader Term
  | 0, _, _ => throw .incomplete
  | fuel + 1, rank, before => do
    let rest ← get
    match rest with
    | [] => throw .incomplete
    | .joint _ name :: _ => throw (.nothingBefore name)
    | .closing written _ :: _ =>
      match before, written with
      | some (.negation name), true | some (.joint _ name), true => throw (.nothingInside name)
      | some (.negation name), false | some (.joint _ name), false => throw (.nothingAfter name)
      | _, _ => throw .tooManyClosing
    | .leaf t :: rest =>
      set rest
      takeMore fuel rank t
    | .negation name :: rest =>
      set rest
      let t ← takeTerm fuel 4 (some (.negation name))
      takeMore fuel rank (.negation t)
    | .opening written name :: rest =>
      match rest with
      | [] | .closing false _ :: _ => throw (.noClosing name)
      | .closing true closing :: _ =>
        throw (if written then .emptyParentheses else .nothingBeforeClosing closing)
      | _ => pure ()
      set rest
      let t ← takeTerm fuel 0 (some (.opening written name))
      match ← get with
      | .closing _ _ :: rest =>
        set rest
        takeMore fuel rank t
      | _ => throw .closingMissing

/-- A term with what is joined to it more tightly than `rank`. -/
def takeMore : Nat → Nat → Term → SignReader Term
  | 0, _, t => return t
  | fuel + 1, rank, t => do
    match ← get with
    | .joint j name :: rest =>
      if rank < j.rank then
        set rest
        let second ← takeTerm fuel j.rank (some (.joint j name))
        takeMore fuel rank (j.join t second)
      else return t
    | .closing _ _ :: _ | [] => return t
    | _ => throw .incomplete

end

/-- The term of signs. -/
def termOf (signs : List Sign) : Except SignError Term := do
  let (t, rest) ← (takeTerm (2 * signs.length + 2) 0 none).run signs
  if rest.isEmpty then return t else throw .tooManyClosing

/-- Signs with one more; where a term ends and another one starts, both have to hold. -/
def addSign (signs : List Sign) (sign : Sign) : List Sign :=
  if sign.isStart && signs.getLast?.any Sign.isEnd then signs ++ [.joint .both "-a", sign]
  else signs ++ [sign]

end Pipeline.Shell.Utility.Find
