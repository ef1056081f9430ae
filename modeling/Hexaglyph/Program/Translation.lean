import Hexaglyph.Program.Diagnostic
set_option autoImplicit false

/-! Translations: the tokens of a program, their encoding, their gloss, and their problems. -/
namespace Hexaglyph

structure Translation where
  tokens : List Token
  lines : List EncodedLine
  /-- One entry for every token. -/
  gloss : List Text
  diagnostics : List Diagnostic
deriving DecidableEq

namespace Translation

/-- The problems of tokens, given the lines of the instructions among them in the same order. -/
def problems : List Token → List EncodedLine → List Diagnostic
  | [], _ => []
  | t :: tokens, lines =>
    match t.definition, lines with
    | none, _ => Diagnostic.unrecognizedGlyph t.glyph t.range :: problems tokens lines
    | some (.instruction i), line :: rest =>
      if line.unresolved then
        Diagnostic.unresolvedEncoding t.glyph i.opcode t.range :: problems tokens rest
      else problems tokens rest
    | _, _ => problems tokens lines

/-- Whether anything was reported that is at least a warning. -/
def hasProblems (t : Translation) : Bool :=
  t.diagnostics.any Diagnostic.isProblem

/-- The index of the token that covers a position. -/
def tokenAt (t : Translation) (p : Position) : Option Nat :=
  t.tokens.findIdx? (·.range.covers p)

/-- The line that a token produced. -/
def lineFor (t : Translation) (index : Int) : Option EncodedLine :=
  t.lines.find? (·.token == index)

end Translation

/-- A catalog with the rotation that its translations use. Each translation starts the rotation
anew. -/
structure Translator where
  catalog : Catalog
  rotation : Rotation

/-- Translates a program. Every text has a translation. -/
def Translator.translate (tr : Translator) (program : Text) : Translation :=
  let tokens := tr.catalog.tokens program
  let lines := (encodeTokens (.fresh tr.rotation) tokens).1
  { tokens := tokens
    lines := lines
    gloss := glossTokens tokens
    diagnostics := Translation.problems tokens lines }

end Hexaglyph
