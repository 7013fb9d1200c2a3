/-!
# Escapes

What a backslash and the characters after it stand for in what a shell writes. The values of octal
escapes are octets.
-/

namespace Pipeline.Shell

/-- A text, and whether output ends after it. -/
structure Unescaped where
  text : List Char
  ends : Bool := false

namespace Escape

/-- Whether a character is an octal digit. -/
def isOctal (c : Char) : Bool :=
  '0' ≤ c && c ≤ '7'

/-- The octet of octal digits. -/
def octalOctet (cs : List Char) : Char :=
  Char.ofNat (cs.foldl (fun n c => n * 8 + (c.toNat - 48)) 0 % 256)

/-- The octet of an escape of one letter. -/
def letterOctet? (c : Char) : Option Char :=
  match c with
  | '\\' => some '\\'
  | 'a' => some '\x07'
  | 'b' => some '\x08'
  | 'e' => some '\x1b'
  | 'f' => some '\x0c'
  | 'n' => some '\n'
  | 'r' => some '\r'
  | 't' => some '\t'
  | 'v' => some '\x0b'
  | _ => none

/-- The escape after a backslash: what it stands for, and the text after it. An escape without a
meaning stands for itself. -/
def take (cs : List Char) : Char × List Char :=
  match cs with
  | [] => ('\\', [])
  | c :: rest =>
    match letterOctet? c with
    | some octet => (octet, rest)
    | none =>
      let digits := (cs.takeWhile isOctal).take 3
      if digits.isEmpty then ('\\', cs) else (octalOctet digits, cs.drop digits.length)

/-- The escape after a backslash in an argument, where a zero comes before the digits of an
octet. -/
def takeInArgument (cs : List Char) : Char × List Char :=
  match cs with
  | '0' :: rest =>
    let digits := (rest.takeWhile isOctal).take 3
    (octalOctet digits, rest.drop digits.length)
  | cs => take cs

/-- The argument with its escapes put in; `fuel` exceeds its length. -/
def resolve : Nat → List Char → Unescaped
  | 0, _ => ⟨[], false⟩
  | _, [] => ⟨[], false⟩
  | fuel + 1, c :: rest =>
    if c = '\\' then
      match rest with
      | 'c' :: _ => ⟨[], true⟩
      | rest =>
        let (octet, rest) := takeInArgument rest
        let after := resolve fuel rest
        ⟨octet :: after.text, after.ends⟩
    else
      let after := resolve fuel rest
      ⟨c :: after.text, after.ends⟩

/-- The argument with its escapes put in. -/
def resolveText (text : String) : Unescaped :=
  resolve (text.length + 1) text.toList

end Escape

/-- What `echo` writes: the arguments with escapes put in and spaces between them. -/
def echoText (args : List String) : String :=
  let (newline, args) := match args with | "-n" :: rest => (false, rest) | _ => (true, args)
  let parts := args.map Escape.resolveText
  let shown := parts.takeWhile fun p => !p.ends
  let ended := shown.length < parts.length
  let all := (parts.take (shown.length + 1)).map fun p => String.ofList p.text
  String.intercalate " " all ++ if newline && !ended then "\n" else ""

end Pipeline.Shell
