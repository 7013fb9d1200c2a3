import Pipeline.Shell.Regex.OfText

/-!
# Scripts for editing lines

What a script of `sed` says: commands one after the other, each for some of the lines, and what can
be wrong with the text of a script.
-/

namespace Pipeline.Shell.Utility.Edit

/-- A pattern, and whether case does not count; without an expression it is the pattern that was
used last. -/
structure LinePattern where
  regex : Option Regex
  fold : Bool

/-- What tells a line. -/
inductive Address where
  | line (n : Nat)
  /-- Every so many lines from one on. -/
  | step (first step : Nat)
  | last
  | pattern (p : LinePattern)

/-- Where a range of lines ends. -/
inductive RangeEnd where
  | address (a : Address)
  /-- After so many lines more. -/
  | count (n : Nat)
  /-- At a line whose number is a multiple. -/
  | multiple (n : Nat)

/-- The lines that a command is for. -/
structure Selection where
  first : Option Address := none
  stop : Option RangeEnd := none
  negated : Bool := false

/-- How the case of what follows is changed. -/
inductive CaseChange where
  | upper
  | lower
  | upperNext
  | lowerNext
  | none
  deriving DecidableEq, Repr

/-- A part of what is put in for a match. -/
inductive ReplacePart where
  | text (cs : List Char)
  | group (number : Nat)
  | case (change : CaseChange)

/-- Matches of a pattern are replaced. -/
structure Substitution where
  pattern : LinePattern
  parts : List ReplacePart
  /-- The first match that counts. -/
  occurrence : Nat := 1
  all : Bool := false
  /-- How often the result is written. -/
  prints : Nat := 0
  /-- Whether the result is run as a command. -/
  runs : Bool := false
  file : Option String := none

/-- What a command does. -/
inductive Deed where
  /-- Goes on after the end of a block if the line is not selected. -/
  | block (stop : Nat)
  | tellNumber
  | tellName
  | append (text : List Char)
  | insert (text : List Char)
  | change (text : List Char)
  | jump (label : String)
  | jumpIfReplaced (label : String)
  | jumpUnlessReplaced (label : String)
  | delete
  | deleteFirst
  | run (command : List Char)
  | takeHeld
  | addHeld
  | hold
  | addToHeld
  | exchange
  | reveal (width : Option Nat)
  | nextLine
  | addLine
  | print
  | printFirst
  | quit (status : Nat) (silent : Bool)
  | readFile (name : String)
  | readLine (name : String)
  | write (name : String)
  | writeFirst (name : String)
  | replace (s : Substitution)
  | exchangeCharacters (pairs : List (Char × Char))
  | clear
  | idle

/-- A command with the lines that it is for. -/
structure Command where
  selection : Selection
  deed : Deed

/-- A script. -/
structure Script where
  commands : Array Command := #[]
  /-- Where labels stand. -/
  labels : List (String × Nat) := []
  /-- Whether lines are written only where a command says so. -/
  quiet : Bool := false
  /-- The files that are written, which are made anew. -/
  outputs : List String := []

/-- What is wrong with a script. -/
inductive ScriptError where
  | severalBangs
  | commaExpected
  | badFirstAddress
  | openBrace
  | closeBrace
  | closeBraceAddress
  | extraCharacters
  | textMissing
  | labelAddress
  | commentAddress
  | commandMissing
  | oneAddress
  | addressUnterminated
  | replaceUnterminated
  | exchangeUnterminated
  | unknownReplaceOption
  | severalPrints
  | severalGlobals
  | severalNumbers
  | numberZero
  | differentLengths
  | lineZero
  | unknownCommand (c : Char)
  | labelMissing
  | fileMissing
  | restricted
  | newerVersion
  | noPattern
  | emptyPatternOptions
  | badReference (n : Nat)
  | regex (e : RegexError)
  deriving DecidableEq, Repr

/-- What is said of an error. -/
def ScriptError.message : ScriptError → String
  | severalBangs => "multiple \x60!'s"
  | commaExpected => "unexpected \x60,'"
  | badFirstAddress => "invalid usage of +N or ~N as first address"
  | openBrace => "unmatched \x60\x7b'"
  | closeBrace => "unexpected \x60\x7d'"
  | closeBraceAddress => "\x7d doesn't want any addresses"
  | extraCharacters => "extra characters after command"
  | textMissing => "expected \\ after \x60a', \x60c' or \x60i'"
  | labelAddress => ": doesn't want any addresses"
  | commentAddress => "comments don't accept any addresses"
  | commandMissing => "missing command"
  | oneAddress => "command only uses one address"
  | addressUnterminated => "unterminated address regex"
  | replaceUnterminated => "unterminated \x60s' command"
  | exchangeUnterminated => "unterminated \x60y' command"
  | unknownReplaceOption => "unknown option to \x60s'"
  | severalPrints => "multiple \x60p' options to \x60s' command"
  | severalGlobals => "multiple \x60g' options to \x60s' command"
  | severalNumbers => "multiple number options to \x60s' command"
  | numberZero => "number option to \x60s' command may not be zero"
  | differentLengths => "strings for \x60y' command are different lengths"
  | lineZero => "invalid usage of line address 0"
  | unknownCommand c => "unknown command: \x60" ++ c.toString ++ "'"
  | labelMissing => "\":\" lacks a label"
  | fileMissing => "missing filename in r/R/w/W commands"
  | restricted => "e/r/w commands disabled in sandbox mode"
  | newerVersion => "expected newer version of sed"
  | noPattern => "no previous regular expression"
  | emptyPatternOptions => "cannot specify modifiers on empty regexp"
  | badReference n => "invalid reference \\" ++ toString n ++ " on \x60s' command's RHS"
  | regex e => e.message

end Pipeline.Shell.Utility.Edit
