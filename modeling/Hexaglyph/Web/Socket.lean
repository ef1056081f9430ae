import Hexaglyph.Json.Field
import Hexaglyph.Json.Reader
import Hexaglyph.Program.Summary
import Hexaglyph.Program.Workshop
set_option autoImplicit false

/-! The conversation over a socket: each message is answered by one. -/
namespace Hexaglyph

/-- A glyph as the palette of the page shows it. -/
structure PaletteEntry where
  glyph : Text
  role : Option Role
  name : Text
  description : Text
deriving DecidableEq

namespace PaletteEntry

def ofDefinition (glyph : Text) : Option Definition → PaletteEntry
  | some (.instruction i) => ⟨glyph, some .instruction, i.name, i.description⟩
  | some (.modifier m) => ⟨glyph, some .modifier, m.name, m.function⟩
  | some (.augmenter a) => ⟨glyph, some .augmenter, a.name, a.effect⟩
  | none => ⟨glyph, none, [], []⟩

def toJson (e : PaletteEntry) : Json :=
  .record [("glyph", .string e.glyph), ("role", .string (Role.label e.role)),
    ("name", .string e.name), ("description", .string e.description)]

end PaletteEntry

/-- The glyphs of a catalog in its order, each with the definition that wins. -/
def Catalog.palette (c : Catalog) : List PaletteEntry :=
  c.glyphs.map fun glyph => PaletteEntry.ofDefinition glyph (c.lookup glyph)

namespace Socket

/-- What the page sends. -/
structure Question where
  type : Text
  text : Text

def question? (frame : Text) : Option Question := do
  let json ← Json.parse? frame
  let members ← Json.members? [json]
  let type ← Json.textField "type" members []
  let text ← Json.textField "text" members []
  return ⟨type, text⟩

/-- What the page is told. -/
inductive Answer where
  | error (message : Text)
  | translation (summary : Summary)
  | catalog (palette : List PaletteEntry)

def Answer.toJson : Answer → Json
  | .error message => .record [("type", .ofString "error"), ("message", .string message)]
  | .translation summary => .record [("type", .ofString "translation"), ("result", summary.toJson)]
  | .catalog palette =>
    .record ([("type", .ofString "catalog")] ++
      Json.memberIf (! palette.isEmpty) "glyphs" (.array (palette.map PaletteEntry.toJson)))

def answer (w : Workshop) : Option Question → Answer
  | none => .error (utf8 "malformed message")
  | some question =>
    if question.type == utf8 "translate" then
      if w.tooLarge question.text then .error w.tooLargeMessage
      else .translation (w.translator.translate question.text).summary
    else if question.type == utf8 "catalog" then .catalog w.translator.catalog.palette
    else .error (utf8 "unknown message type: " ++ question.type)

/-- The bytes a frame may have beyond those of the program in it. -/
def envelope : Int := 1024

/-- The code with which the connection ends when a frame is too long. -/
def messageTooBig : Nat := 1009

def frameTooLong (w : Workshop) (frame : Text) : Bool :=
  decide (0 < w.maxInputBytes) && decide (w.maxInputBytes + envelope < frame.length)

/-- The answer to a frame, or the code with which the connection is closed. -/
def respond (w : Workshop) (frame : Text) : Except Nat Text :=
  if frameTooLong w frame then .error messageTooBig
  else .ok ((answer w (question? frame)).toJson.render ++ [Text.lineFeed])

/-- The answers to frames one after another, up to the end of the connection. -/
def converse (w : Workshop) : List Text → List (Except Nat Text)
  | [] => []
  | frame :: rest =>
    match respond w frame with
    | .ok reply => .ok reply :: converse w rest
    | .error code => [.error code]

end Socket
end Hexaglyph
