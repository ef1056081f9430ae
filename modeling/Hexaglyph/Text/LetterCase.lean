import Hexaglyph.Text.FoldRuns
import Hexaglyph.Text.Symbol
import Hexaglyph.Text.UpperRuns
set_option autoImplicit false

/-! Upper case and comparison without regard to case, one character at a time. Mappings that would
change the number of characters are not used, so `ß` has no upper case. -/
namespace Hexaglyph

def upperChar (c : Char) : Char :=
  CaseRun.map upperRuns c

/-- One representative of the characters that differ from `c` in case alone. -/
def foldChar (c : Char) : Char :=
  CaseRun.map foldRuns c

namespace Text

/-- Each character in upper case; a stray byte becomes the replacement character. -/
def upper (t : Text) : Text :=
  (symbols t).flatMap fun s => String.utf8EncodeChar (upperChar s.shown)

def folded (t : Text) : List Char :=
  (symbols t).map fun s => foldChar s.shown

/-- Equality of texts up to the case of their characters. -/
def sameFolded (a b : Text) : Bool :=
  folded a == folded b

end Text
end Hexaglyph
