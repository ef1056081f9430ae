import Hexaglyph.Program.Translation
set_option autoImplicit false

/-! What every service translates with: a translator, and the largest program it takes. -/
namespace Hexaglyph

/-- A limit that is not positive is no limit. -/
structure Workshop where
  translator : Translator
  maxInputBytes : Int

namespace Workshop

def tooLarge (w : Workshop) (program : Text) : Bool :=
  decide (0 < w.maxInputBytes) && decide (w.maxInputBytes < program.length)

/-- The translation of a document; one that is too large only has the diagnostic that says so. -/
def translate (w : Workshop) (program : Text) : Translation :=
  if w.tooLarge program then
    ⟨[], [], [], [Diagnostic.inputTooLarge program.length w.maxInputBytes]⟩
  else w.translator.translate program

/-- The refusal of a program that is too large. -/
def tooLargeMessage (w : Workshop) : Text :=
  utf8 "program is larger than " ++ Text.ofInt w.maxInputBytes ++ utf8 " bytes"

end Workshop
end Hexaglyph
