import Hexaglyph.Editor.Message
import Hexaglyph.Program.Position
set_option autoImplicit false

/-! The parameters of the requests that the service understands. Reading them fails as a whole if any
field has the wrong type. -/
namespace Hexaglyph

abbrev Uri := Text

namespace Params

/-- The members of the document that parameters name. -/
def documentMembers? (params : Json) : Option (List (Text × Json)) :=
  Json.members? [params] >>= Json.membersField "textDocument"

/-- Parameters that name a document and nothing else. -/
def uri? (params : Json) : Option Uri := do
  let document ← documentMembers? params
  Json.textField "uri" document []

structure Opened where
  uri : Uri
  version : Int
  text : Text

def opened? (params : Json) : Option Opened := do
  let document ← documentMembers? params
  let uri ← Json.textField "uri" document []
  let _ ← Json.textField "languageId" document []
  let version ← Json.integerField "version" document 0
  let text ← Json.textField "text" document []
  return ⟨uri, version, text⟩

structure Changed where
  uri : Uri
  version : Int
  /-- The whole text after each change. -/
  texts : List Text

def changed? (params : Json) : Option Changed := do
  let members ← Json.members? [params]
  let document ← Json.membersField "textDocument" members
  let uri ← Json.textField "uri" document []
  let version ← Json.integerField "version" document 0
  let texts ← Json.recordsField "contentChanges" (fun change => Json.textField "text" change [])
    members
  return ⟨uri, version, texts⟩

/-- The document to save; the reason for saving makes no difference. -/
def saved? (params : Json) : Option Uri := do
  let members ← Json.members? [params]
  let _ ← Json.integerField "reason" members 0
  uri? params

structure Located where
  uri : Uri
  position : Position

def located? (params : Json) : Option Located := do
  let members ← Json.members? [params]
  let uri ← uri? params
  let position ← Json.membersField "position" members
  let line ← Json.integerField "line" position 0
  let char ← Json.integerField "character" position 0
  return ⟨uri, ⟨line, char⟩⟩

/-- The parameters of the first request. Nothing in them is used. -/
def start? (params : Json) : Option Unit := do
  let members ← Json.members? [params]
  let _ ← Json.integerField "processId" members 0
  return ()

end Params
end Hexaglyph
