/-!
# UTF-8

Texts as octets. Decoding is a machine that takes one octet at a time: between characters it waits
for a first octet, and inside one it knows the value so far, the octets still owed and the bounds of
the next one. A strict reader refuses at the first octet that rules the text out; a lenient one
writes a replacement character there and goes on, so each ill-formed stretch that some character
could start with costs one replacement character.
-/

namespace Pipeline.Text

/-- The character under way: its value so far, the octets owed, and the bounds of the next octet. -/
structure Utf8Partial where
  value : Nat
  owed : Nat
  low : Nat
  high : Nat
  deriving DecidableEq, Repr

/-- What a first octet says: a whole character, the start of a longer one, or nothing. -/
inductive Utf8First where
  | whole (c : Char)
  | more (p : Utf8Partial)
  | refused

/-- The reading of a first octet. -/
def utf8First (b : Nat) : Utf8First :=
  if b ≤ 0x7f then .whole (Char.ofNat b)
  else if 0xc2 ≤ b ∧ b ≤ 0xdf then .more ⟨b - 0xc0, 1, 0x80, 0xbf⟩
  else if b = 0xe0 then .more ⟨0, 2, 0xa0, 0xbf⟩
  else if b = 0xed then .more ⟨0xd, 2, 0x80, 0x9f⟩
  else if 0xe1 ≤ b ∧ b ≤ 0xef then .more ⟨b - 0xe0, 2, 0x80, 0xbf⟩
  else if b = 0xf0 then .more ⟨0, 3, 0x90, 0xbf⟩
  else if 0xf1 ≤ b ∧ b ≤ 0xf3 then .more ⟨b - 0xf0, 3, 0x80, 0xbf⟩
  else if b = 0xf4 then .more ⟨4, 3, 0x80, 0x8f⟩
  else .refused

/-- The reading of a later octet `b` that lies within the bounds of `p`. -/
def Utf8Partial.extend (p : Utf8Partial) (b : Nat) : Utf8First :=
  let value := p.value * 64 + (b - 0x80)
  if p.owed ≤ 1 then .whole (Char.ofNat value) else .more ⟨value, p.owed - 1, 0x80, 0xbf⟩

/-- The character that stands for octets that are no text. -/
def replacementChar : Char := '\ufffd'

/-- The text of `bs`, a replacement character for each ill-formed stretch; `p` is under way. -/
def decodeLossyFrom : Option Utf8Partial → List UInt8 → List Char
  | none, [] => []
  | some _, [] => [replacementChar]
  | none, b :: bs =>
    match utf8First b.toNat with
    | .whole c => c :: decodeLossyFrom none bs
    | .more q => decodeLossyFrom (some q) bs
    | .refused => replacementChar :: decodeLossyFrom none bs
  | some p, b :: bs =>
    if p.low ≤ b.toNat ∧ b.toNat ≤ p.high then
      match p.extend b.toNat with
      | .whole c => c :: decodeLossyFrom none bs
      | .more q => decodeLossyFrom (some q) bs
      | .refused => replacementChar :: decodeLossyFrom none bs
    else
      replacementChar ::
        match utf8First b.toNat with
        | .whole c => c :: decodeLossyFrom none bs
        | .more q => decodeLossyFrom (some q) bs
        | .refused => replacementChar :: decodeLossyFrom none bs

/-- The text of `bs` when they are well formed; `p` is under way. -/
def decodeStrictFrom : Option Utf8Partial → List UInt8 → Option (List Char)
  | none, [] => some []
  | some _, [] => none
  | p, b :: bs =>
    let read : Utf8First :=
      match p with
      | none => utf8First b.toNat
      | some p => if p.low ≤ b.toNat ∧ b.toNat ≤ p.high then p.extend b.toNat else .refused
    match read with
    | .whole c => (decodeStrictFrom none bs).map (c :: ·)
    | .more q => decodeStrictFrom (some q) bs
    | .refused => none

/-- The text of the octets, ill-formed stretches replaced. -/
def decodeLossy (bs : List UInt8) : String :=
  String.ofList (decodeLossyFrom none bs)

/-- The text of the octets, if they are well formed. -/
def decodeUtf8? (bs : List UInt8) : Option String :=
  (decodeStrictFrom none bs).map String.ofList

/-- How many octets some characters take. -/
def octets (cs : List Char) : Nat :=
  cs.foldl (fun n c => n + c.utf8Size) 0

/-- The octets of a text. -/
def encodeUtf8 (s : String) : List UInt8 :=
  s.toUTF8.toList

end Pipeline.Text
