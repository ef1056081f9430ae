import Hexaglyph.Program.Position
set_option autoImplicit false

/-! The layout of a program: one blank between glyphs, none at the ends of lines. Line breaks are
kept, they are how authors group a program. -/
namespace Hexaglyph.Layout

def tidyLine (line : Text) : Text :=
  Text.join [0x20] (Text.words line)

def tidy (program : Text) : Text :=
  Text.join [Text.lineFeed] ((Text.lines program).map tidyLine)

/-- The range of a whole text, up to the end of its last line. -/
def extent (program : Text) : Range :=
  let lines := Text.lines program
  ⟨.origin, ⟨(lines.length - 1 : Nat), (Text.units (lines.getLastD []) : Nat)⟩⟩

end Hexaglyph.Layout
