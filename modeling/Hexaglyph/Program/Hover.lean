import Hexaglyph.Program.Listing
set_option autoImplicit false

/-! What an editor shows for the glyph under a position, in Markdown. -/
namespace Hexaglyph.Translation

/-- A text between backquotes. -/
def codeSpan (t : Text) : Text :=
  utf8 "`" ++ t ++ utf8 "`"

/-- A paragraph, left out when it has no text. -/
def paragraph (before t after : Text) : Text :=
  if t.isEmpty then [] else before ++ t ++ after ++ utf8 "\n\n"

/-- The name and the glyph of a definition. -/
def heading (name glyph : Text) : Text :=
  utf8 "**" ++ name ++ utf8 "** " ++ codeSpan glyph

/-- The class and the encoding of a line. -/
def encodingNote (l : EncodedLine) : Text :=
  utf8 l.arity.name ++ utf8 ": " ++ codeSpan l.hex

/-- The description of a token, given the line it produced. -/
def describe (t : Token) (line : Option EncodedLine) : Text :=
  match t.definition with
  | some (.instruction i) =>
    heading i.name t.glyph ++ utf8 " (instruction, opcode " ++ codeSpan i.opcode ++ utf8 ")\n\n" ++
      paragraph [] i.description [] ++ paragraph (utf8 "*") i.meaning (utf8 "*") ++
      (line.map encodingNote).getD []
  | some (.modifier m) => heading m.name t.glyph ++ utf8 " (modifier)\n\n" ++ m.function
  | some (.augmenter a) => heading a.name t.glyph ++ utf8 " (psychic augmenter)\n\n" ++ a.effect
  | none => utf8 "Unrecognized glyph " ++ codeSpan t.glyph

/-- The description of the glyph at a position, if there is one. -/
def hover (t : Translation) (p : Position) : Option Text := do
  let index ← t.tokenAt p
  let token ← t.tokens[index]?
  return Text.trimFinalLineFeeds (describe token (t.lineFor index))

end Hexaglyph.Translation
