import Pipeline.Shell.Utility.Arguments

/-!
# Digests

The digests by which contents are told apart, and the utilities that write and check them.
-/

namespace Pipeline.Shell.Utility

namespace Digest

/-- The octets with their end marked and their number of bits behind them, so that blocks are
full. -/
def pad (block lengthSize : Nat) (little : Bool) (octets : List UInt8) : List UInt8 :=
  let size := octets.length
  let zeros := (2 * block - 1 - lengthSize - size % block) % block
  let bits := (List.range lengthSize).map fun i => UInt8.ofNat (size * 8 / Nat.pow 256 i % 256)
  octets ++ [0x80] ++ List.replicate zeros 0 ++ if little then bits else bits.reverse

/-- The parts of a list that have a size. -/
def chunks {α : Type} (size : Nat) : Nat → List α → List (List α)
  | 0, _ => []
  | _, [] => []
  | fuel + 1, l => l.take size :: chunks size fuel (l.drop size)

/-- The number of octets, the greatest first. -/
def number (octets : List UInt8) : Nat :=
  octets.foldl (fun n b => n * 256 + b.toNat) 0

/-- A number in hexadecimal digits. -/
def hexadecimal (width n : Nat) : String :=
  let text := String.ofList (Nat.toDigits 16 n)
  String.ofList (List.replicate (width - text.length) '0') ++ text

/-- The first numbers with no divisor but one and themselves. -/
def primes (count : Nat) : List Nat :=
  ((List.range 420).filter fun n =>
    2 ≤ n && (List.range n).all fun d => d < 2 || n % d != 0).take count

/-- The greatest number whose power is not greater than `n`. -/
def root (power n : Nat) : Nat :=
  (List.range 80).foldl (fun found i =>
    let next := found + Nat.pow 2 (79 - i)
    if Nat.pow next power ≤ n then next else found) 0

/-- The first bits behind the point of a root of a prime. -/
def rootBits (power bits prime : Nat) : Nat :=
  root power (prime * Nat.pow 2 (power * bits)) % Nat.pow 2 bits

/-- The sines of the first numbers as fractions of a word. -/
def sines : List UInt32 :=
  [0xd76aa478, 0xe8c7b756, 0x242070db, 0xc1bdceee, 0xf57c0faf, 0x4787c62a, 0xa8304613, 0xfd469501,
    0x698098d8, 0x8b44f7af, 0xffff5bb1, 0x895cd7be, 0x6b901122, 0xfd987193, 0xa679438e, 0x49b40821,
    0xf61e2562, 0xc040b340, 0x265e5a51, 0xe9b6c7aa, 0xd62f105d, 0x02441453, 0xd8a1e681, 0xe7d3fbc8,
    0x21e1cde6, 0xc33707d6, 0xf4d50d87, 0x455a14ed, 0xa9e3e905, 0xfcefa3f8, 0x676f02d9, 0x8d2a4c8a,
    0xfffa3942, 0x8771f681, 0x6d9d6122, 0xfde5380c, 0xa4beea44, 0x4bdecfa9, 0xf6bb4b60, 0xbebfbc70,
    0x289b7ec6, 0xeaa127fa, 0xd4ef3085, 0x04881d05, 0xd9d4d039, 0xe6db99e5, 0x1fa27cf8, 0xc4ac5665,
    0xf4292244, 0x432aff97, 0xab9423a7, 0xfc93a039, 0x655b59c3, 0x8f0ccc92, 0xffeff47d, 0x85845dd1,
    0x6fa87e4f, 0xfe2ce6e0, 0xa3014314, 0x4e0811a1, 0xf7537e82, 0xbd3af235, 0x2ad7d2bb, 0xeb86d391]

/-- A word turned to the left. -/
def turnLeft (x : UInt32) (n : Nat) : UInt32 :=
  x <<< UInt32.ofNat n ||| x >>> UInt32.ofNat (32 - n)

/-- One round of the digest with sines. -/
def sineRound (words : Array UInt32) (s : UInt32 × UInt32 × UInt32 × UInt32)
    (i : Nat) (k : UInt32) : UInt32 × UInt32 × UInt32 × UInt32 :=
  let (a, b, c, d) := s
  let (f, g, turns) :=
    if i < 16 then ((b &&& c) ||| (~~~b &&& d), i, [7, 12, 17, 22])
    else if i < 32 then ((d &&& b) ||| (~~~d &&& c), 5 * i + 1, [5, 9, 14, 20])
    else if i < 48 then (b ^^^ c ^^^ d, 3 * i + 5, [4, 11, 16, 23])
    else (c ^^^ (b ||| ~~~d), 7 * i, [6, 10, 15, 21])
  let sum := a + f + k + words.getD (g % 16) 0
  (d, b + turnLeft sum (turns.getD (i % 4) 0), b, c)

/-- The digest with sines. -/
def md5 (octets : List UInt8) : String :=
  let blocks := chunks 64 (octets.length / 64 + 3) (pad 64 8 true octets)
  let step (s : UInt32 × UInt32 × UInt32 × UInt32) (block : List UInt8) :=
    let words := ((chunks 4 16 block).map fun w => UInt32.ofNat (number w.reverse)).toArray
    let t := (sines.zipIdx).foldl (fun t (k, i) => sineRound words t i k) s
    (s.1 + t.1, s.2.1 + t.2.1, s.2.2.1 + t.2.2.1, s.2.2.2 + t.2.2.2)
  let (a, b, c, d) := blocks.foldl step (0x67452301, 0xefcdab89, 0x98badcfe, 0x10325476)
  String.join ([a, b, c, d].flatMap fun w =>
    (List.range 4).map fun i => hexadecimal 2 (w.toNat / Nat.pow 256 i % 256))

/-- The digest of five words. -/
def sha1 (octets : List UInt8) : String :=
  let blocks := chunks 64 (octets.length / 64 + 3) (pad 64 8 false octets)
  let step (s : List UInt32) (block : List UInt8) : List UInt32 :=
    let first := ((chunks 4 16 block).map fun w => UInt32.ofNat (number w)).toArray
    let words := (List.range 64).foldl (fun (ws : Array UInt32) i =>
      let at' (back : Nat) : UInt32 := ws.getD (i + 16 - back) 0
      ws.push (turnLeft (at' 3 ^^^ at' 8 ^^^ at' 14 ^^^ at' 16) 1)) first
    let t := (List.range 80).foldl (fun (t : List UInt32) i =>
      match t with
      | [a, b, c, d, e] =>
        let (f, k) : UInt32 × UInt32 :=
          if i < 20 then ((b &&& c) ||| (~~~b &&& d), 0x5a827999)
          else if i < 40 then (b ^^^ c ^^^ d, 0x6ed9eba1)
          else if i < 60 then ((b &&& c) ||| (b &&& d) ||| (c &&& d), 0x8f1bbcdc)
          else (b ^^^ c ^^^ d, 0xca62c1d6)
        [turnLeft a 5 + f + e + k + words.getD i 0, a, turnLeft b 30, c, d]
      | t => t) s
    (s.zip t).map fun (x, y) => x + y
  String.join ((blocks.foldl step [0x67452301, 0xefcdab89, 0x98badcfe, 0x10325476, 0xc3d2e1f0]).map
    fun w => hexadecimal 8 w.toNat)

/-- A digest with the roots of primes: the size of its words, the turns of its rounds, and where it
starts. -/
structure RootDigest where
  bits : Nat
  rounds : Nat
  turns : List (Nat × Nat × Nat)
  start : List Nat
  size : Nat

/-- A digest with words of 32 bits. -/
def shortWords (start : List Nat) (size : Nat) : RootDigest :=
  ⟨32, 64, [(7, 18, 3), (17, 19, 10), (2, 13, 22), (6, 11, 25)], start, size⟩

/-- A digest with words of 64 bits. -/
def longWords (start : List Nat) (size : Nat) : RootDigest :=
  ⟨64, 80, [(1, 8, 7), (19, 61, 6), (28, 34, 39), (14, 18, 41)], start, size⟩

/-- The digest of octets. -/
def RootDigest.text (d : RootDigest) (octets : List UInt8) : String :=
  let modulus := Nat.pow 2 d.bits
  let wordSize := d.bits / 8
  let block := 16 * wordSize
  let turn (x n : Nat) : Nat := x / Nat.pow 2 n + x * Nat.pow 2 (d.bits - n) % modulus
  let keys := ((primes d.rounds).map (rootBits 3 d.bits)).toArray
  let blocks := chunks block (octets.length / block + 3) (pad block (2 * wordSize) false octets)
  let turns (i : Nat) : Nat × Nat × Nat := d.turns.getD i (0, 0, 0)
  let small (t : Nat × Nat × Nat) (x : Nat) : Nat :=
    turn x t.1 ^^^ turn x t.2.1 ^^^ x / Nat.pow 2 t.2.2
  let great (t : Nat × Nat × Nat) (x : Nat) : Nat := turn x t.1 ^^^ turn x t.2.1 ^^^ turn x t.2.2
  let step (s : List Nat) (content : List UInt8) : List Nat :=
    let first := ((chunks wordSize 16 content).map number).toArray
    let words := (List.range (d.rounds - 16)).foldl (fun (ws : Array Nat) i =>
      let back (n : Nat) : Nat := ws.getD (i + 16 - n) 0
      ws.push ((back 16 + small (turns 0) (back 15) + back 7 + small (turns 1) (back 2)) % modulus))
      first
    let t := (List.range d.rounds).foldl (fun (t : List Nat) i =>
      match t with
      | [a, b, c, e, f, g, h, j] =>
        let choice := (f &&& g) ^^^ ((modulus - 1 - f) &&& h)
        let most := (a &&& b) ^^^ (a &&& c) ^^^ (b &&& c)
        let one := j + great (turns 3) f + choice + keys.getD i 0 + words.getD i 0
        let two := great (turns 2) a + most
        [(one + two) % modulus, a, b, c, (e + one) % modulus, f, g, h]
      | t => t) s
    (s.zip t).map fun (x, y) => (x + y) % modulus
  let words := blocks.foldl step d.start
  String.ofList ((String.join (words.map (hexadecimal (2 * wordSize)))).toList.take d.size)

/-- The usual start with words of 32 bits. -/
def sha256 : RootDigest :=
  shortWords ((primes 8).map (rootBits 2 32)) 64

/-- The shorter digest with words of 32 bits starts with the second halves of greater roots. -/
def sha224 : RootDigest :=
  shortWords (((primes 16).drop 8).map fun p => rootBits 2 64 p % Nat.pow 2 32) 56

/-- The usual start with words of 64 bits. -/
def sha512 : RootDigest :=
  longWords ((primes 8).map (rootBits 2 64)) 128

/-- The shorter digest with words of 64 bits. -/
def sha384 : RootDigest :=
  longWords (((primes 16).drop 8).map (rootBits 2 64)) 96

end Digest

/-- The label of a utility for digests, which also stands before what it writes. -/
def digestLabel (name : String) : String :=
  String.ofList ((name.toList.take (name.length - 3)).map Char.toUpper)

/-- The digest and the path that a line of a list names. -/
def listedDigest? (name : String) (size : Nat) (line : List Char) : Option (List Char × String) :=
  let label := (digestLabel name ++ " (").toList
  if label.isPrefixOf line then
    let rest := line.drop label.length
    let hex := (rest.reverse.takeWhile (· ≠ ' ')).reverse
    let path := rest.take (rest.length - hex.length - 4)
    if hex.length = size ∧ !path.isEmpty then some (hex, String.ofList path) else none
  else
    let hex := line.takeWhile (· ≠ ' ')
    let path := line.drop (hex.length + 2)
    if hex.length = size ∧ !path.isEmpty then some (hex, String.ofList path) else none

/-- Checks the digests that lists name. -/
def checkDigests (name : String) (digest : List UInt8 → String) (a : Arguments) : Act Nat := do
  let quiet := a.has "quiet" || a.has "status"
  let mut status := 0
  for list in if a.operands.isEmpty then ["-"] else a.operands do
    match ← contentOf list with
    | .error e =>
      report name (plainComplaint list e)
      status := 1
    | .ok content =>
      let mut wrong := 0
      let mut unread := 0
      let mut malformed := 0
      let mut proper := 0
      let mut number := 0
      for line in bareLinesOf content do
        number := number + 1
        match listedDigest? name (digest []).length line with
        | none =>
          malformed := malformed + 1
          if a.has "w" then
            report name (quotedIfNeeded list ++ ": " ++
              toString number ++ ": improperly formatted " ++
              digestLabel name ++ " checksum line")
        | some (hex, path) =>
          proper := proper + 1
          match ← contentOf path with
          | .error e =>
            if !(a.has "ignore-missing" && e == .noSuchFile) then
              report name (plainComplaint path e)
              if !a.has "status" then Act.say (path ++ ": FAILED open or read\n")
              unread := unread + 1
          | .ok content =>
            if digest (Text.octetsOf content) = String.ofList (hex.map Char.toLower) then
              if !quiet then Act.say (path ++ ": OK\n")
            else
              if !a.has "status" then Act.say (path ++ ": FAILED\n")
              wrong := wrong + 1
      let warn (n : Nat) (one many : String) : Act Unit := do
        if n ≠ 0 && !a.has "status" then
          report name ("WARNING: " ++ toString n ++ " " ++ if n = 1 then one else many)
      if proper = 0 then
        report name (quotedIfNeeded list ++ ": no properly formatted checksum lines found")
        status := 1
      else
        warn malformed "line is improperly formatted" "lines are improperly formatted"
        warn unread "listed file could not be read" "listed files could not be read"
        warn wrong "computed checksum did NOT match" "computed checksums did NOT match"
        if wrong ≠ 0 || unread ≠ 0 || (malformed ≠ 0 && a.has "strict") then status := 1
  return status

/-- Writes digests of contents, or checks those that were written. -/
def digests (name : String) (digest : List UInt8 → String) (args : List String) : Act Nat :=
  withArguments name
    { plain := "bctwz", longPlain := ["quiet", "status", "tag", "strict", "ignore-missing"]
      long := [("binary", 'b'), ("check", 'c'), ("text", 't'), ("warn", 'w'), ("zero", 'z')] }
    1 args fun a =>
      if a.has "c" then checkDigests name digest a
      else
        forContents name a.operands plainComplaint 1 fun operand content =>
          let text := digest (Text.octetsOf content)
          Act.say ((if a.has "tag" then digestLabel name ++ " (" ++ operand ++ ") = " ++ text
            else text ++ (if a.last? ["b", "t"] = some "b" then " *" else "  ") ++ operand) ++
            if a.has "z" then "\x00" else "\n")

end Pipeline.Shell.Utility
