import Hexaglyph.Json.Basic
import Hexaglyph.Text.Symbol
set_option autoImplicit false

/-! Positions in a text as editors count them: lines from zero, and UTF-16 units within a line. -/
namespace Hexaglyph

structure Position where
  line : Int
  char : Int
deriving DecidableEq

namespace Position

def origin : Position := ⟨0, 0⟩

/-- The position after a symbol that stands at this one. -/
def after (p : Position) (s : Symbol) : Position :=
  if s = .char '\n' then ⟨p.line + 1, 0⟩ else ⟨p.line, p.char + s.units⟩

/-- The position at the end of symbols that begin at this one. -/
def afterAll (p : Position) (symbols : List Symbol) : Position :=
  symbols.foldl after p

/-- The same column a number of lines further down. -/
def down (p : Position) (lines : Int) : Position :=
  ⟨p.line + lines, p.char⟩

def toJson (p : Position) : Json :=
  .record [("line", .ofInt p.line), ("character", .ofInt p.char)]

end Position

/-- The symbols from `start` up to, and not with, the one at `stop`. -/
structure Range where
  start : Position
  stop : Position
deriving DecidableEq

namespace Range

/-- The empty range at the beginning of a text. -/
def zero : Range := ⟨.origin, .origin⟩

def down (r : Range) (lines : Int) : Range :=
  ⟨r.start.down lines, r.stop.down lines⟩

/-- A range covers the positions on its first line between its two columns. -/
def covers (r : Range) (p : Position) : Bool :=
  r.start.line == p.line && decide (r.start.char ≤ p.char) && decide (p.char < r.stop.char)

def toJson (r : Range) : Json :=
  .record [("start", r.start.toJson), ("end", r.stop.toJson)]

end Range
end Hexaglyph
