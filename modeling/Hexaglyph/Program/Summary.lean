import Hexaglyph.Json.Writer
import Hexaglyph.Program.Listing
set_option autoImplicit false

/-! The part of a translation that editors and the web page are given. -/
namespace Hexaglyph

structure Summary where
  lines : List Text
  listing : Text
  gloss : List Text
  tokens : Nat
  diagnostics : List Diagnostic
deriving DecidableEq

def Translation.summary (t : Translation) : Summary :=
  { lines := t.hexLines
    listing := t.listing true
    gloss := t.gloss
    tokens := t.tokens.length
    diagnostics := t.diagnostics }

def Summary.toJson (s : Summary) : Json :=
  .record [
    ("lines", .ofTexts s.lines),
    ("listing", .string s.listing),
    ("gloss", .ofTexts s.gloss),
    ("tokens", .ofNat s.tokens),
    ("diagnostics", .array (s.diagnostics.map Diagnostic.toJson))]

end Hexaglyph
