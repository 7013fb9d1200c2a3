import Pipeline.Shell.Utility.Awk.Value

/-!
# Records and fields

The input is cut into records, and a record into fields. A separator is a character, an expression,
or one of the texts that ask for paragraphs, for words or for single characters.
-/

namespace Pipeline.Shell.Utility.Awk

/-- What separates the fields of a record. -/
inductive Separator where
  /-- Blanks, which do not count at the ends. -/
  | blanks
  | character (c : Char)
  /-- Nothing: each character is a field. -/
  | nothing
  | regex (r : Regex)

/-- The separator of a text, or why it is refused. -/
def Separator.ofText (text : String) : Except String Separator :=
  match text.toList with
  | [] => .ok .nothing
  | [' '] => .ok .blanks
  | [c] => .ok (.character c)
  | _ => (patternOf text).map .regex

/-- The parts of a text between matches that are not empty. -/
def betweenMatches (text : Array Char) : Nat → List Match → List String
  | start, [] => [String.ofList (text.extract start text.size).toList]
  | start, m :: ms =>
    if m.start = m.stop then betweenMatches text start ms
    else String.ofList (text.extract start m.start).toList :: betweenMatches text m.stop ms

/-- The words between blanks, the one under way collected in reverse. -/
def wordsOf (acc : List Char) : List Char → List String
  | [] => if acc.isEmpty then [] else [String.ofList acc.reverse]
  | c :: cs =>
    if c = ' ' ∨ c = '\t' ∨ c = '\n' then
      if acc.isEmpty then wordsOf [] cs else String.ofList acc.reverse :: wordsOf [] cs
    else wordsOf (c :: acc) cs

/-- The fields of a text; an empty one has none. -/
def Separator.split (separator : Separator) (text : String) : List String :=
  if text.isEmpty then []
  else
    match separator with
    | blanks => wordsOf [] text.toList
    | character c => text.splitToList (· = c)
    | nothing => text.toList.map fun c => c.toString
    | regex r =>
      let cs := text.toList.toArray
      betweenMatches cs 0 (r.all false cs)

/-- What separates records. -/
inductive RecordEnd where
  | character (c : Char)
  /-- Empty lines. -/
  | paragraphs
  | regex (r : Regex)

/-- The end of records that a text asks for, or why it is refused. -/
def RecordEnd.ofText (text : String) : Except String RecordEnd :=
  match text.toList with
  | [] => .ok .paragraphs
  | [c] => .ok (.character c)
  | _ => (patternOf text).map .regex

/-- The lines up to an empty one, and what comes after it. -/
def takeParagraph : List Char → List Char → List Char × List Char
  | acc, '\n' :: '\n' :: rest => (acc.reverse, rest.dropWhile (· = '\n'))
  | acc, ['\n'] => (acc.reverse, [])
  | acc, c :: cs => takeParagraph (c :: acc) cs
  | acc, [] => (acc.reverse, [])

/-- The first record of a content, and the rest. -/
def RecordEnd.take? (e : RecordEnd) (content : List Char) : Option (List Char × List Char) :=
  match e with
  | character c =>
    if content.isEmpty then none
    else
      let line := content.takeWhile (· ≠ c)
      some (line, content.drop (line.length + 1))
  | paragraphs =>
    match content.dropWhile (· = '\n') with
    | [] => none
    | content => some (takeParagraph [] content)
  | regex r =>
    if content.isEmpty then none
    else
      let text := content.toArray
      let first := (r.find? false text 0).filter fun m => m.start < m.stop
      match first.or ((r.all false text).find? fun m => m.start < m.stop) with
      | some m => some (content.take m.start, content.drop m.stop)
      | none => some (content, [])

/-- The text that is put in for a match: an ampersand stands for what was matched, unless a
backslash is before it. -/
def filledIn (found : List Char) : List Char → List Char
  | '\\' :: '\\' :: '&' :: cs => '\\' :: found ++ filledIn found cs
  | '\\' :: '&' :: cs => '&' :: filledIn found cs
  | '&' :: cs => found ++ filledIn found cs
  | c :: cs => c :: filledIn found cs
  | [] => []

/-- A text with something put in for matches in it. -/
def replaced (text : Array Char) (new : List Char) : Nat → List Match → List Char
  | start, [] => (text.extract start text.size).toList
  | start, m :: ms =>
    (text.extract start m.start).toList ++ filledIn (text.extract m.start m.stop).toList new ++
      replaced text new m.stop ms

end Pipeline.Shell.Utility.Awk
