/-!
# Consoles

What a console can show: texts with or without a style, and symbols in their first form or in a
plain one. A styled text is put between the code of its style and the code that ends all styles, an
empty text too.
-/

namespace Pipeline

/-- How a text stands out. -/
inductive Style where
  | bold
  | dim
  | red
  | green
  | yellow
  | cyan
  deriving DecidableEq, Repr

/-- The number of a style. -/
def Style.code : Style → Nat
  | .bold => 1
  | .dim => 2
  | .red => 31
  | .green => 32
  | .yellow => 33
  | .cyan => 36

/-- A sign before a line that tells what it is about. -/
inductive Symbol where
  | check
  | cross
  | hourglass
  | info
  | warning
  | rocket
  deriving DecidableEq, Repr

/-- A symbol as it is meant to be. -/
def Symbol.pictured : Symbol → String
  | .check => "✅ "
  | .cross => "❌ "
  | .hourglass => "⏳ "
  | .info => "ℹ️  "
  | .warning => "⚠️  "
  | .rocket => "🚀 "

/-- A symbol where pictures cannot be shown. -/
def Symbol.plain : Symbol → String
  | .check => "✓ "
  | .cross => "✗ "
  | .hourglass => "~ "
  | .info => "i "
  | .warning => "!"
  | .rocket => "> "

/-- What a console can show. -/
structure Console where
  colors : Bool := false
  pictures : Bool := true
  deriving DecidableEq, Repr

namespace Console

/-- The text in a style, if the console has colours. -/
def style (c : Console) (s : Style) (text : String) : String :=
  if c.colors then "\x1b[" ++ toString s.code ++ "m" ++ text ++ "\x1b[0m" else text

/-- The symbol in the form that the console can show. -/
def symbol (c : Console) (s : Symbol) : String :=
  if c.pictures then s.pictured else s.plain

/-- A line with its symbol. -/
def line (c : Console) (s : Symbol) (text : String) : String :=
  c.symbol s ++ " " ++ text

end Console

end Pipeline
