import Pipeline.Text.Utf8

/-!
# Octet texts

An octet text holds any octets, each as the character of its number. Texts that come from programs
need not be well formed, so they are kept in this form until someone reads them.
-/

namespace Pipeline.Text

/-- The characters of octets. -/
def ofOctets (bs : List UInt8) : List Char :=
  bs.map fun b => Char.ofNat b.toNat

/-- The octets of an octet text. -/
def octetsOf (cs : List Char) : List UInt8 :=
  cs.map fun c => UInt8.ofNat c.toNat

/-- The octet text of a text. -/
def toOctetText (text : String) : String :=
  String.ofList (ofOctets (encodeUtf8 text))

/-- The text that an octet text stands for, ill-formed stretches replaced. -/
def ofOctetText (text : String) : String :=
  decodeLossy (octetsOf text.toList)

end Pipeline.Text
