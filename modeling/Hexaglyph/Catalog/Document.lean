import Hexaglyph.Catalog.Basic
import Hexaglyph.Catalog.Error
import Hexaglyph.Json.Field
import Hexaglyph.Json.Reader
set_option autoImplicit false

/-! Catalog documents. A document has a section for each role, and is accepted when all three are
there and every glyph in them can occur in a program and has a name. -/
namespace Hexaglyph

/-- A document as it was read, before anything is required of it. -/
structure CatalogDocument where
  instructions : Option (Mapping Text Instruction)
  modifiers : Option (Mapping Text Modifier)
  augmenters : Option (Mapping Text Augmenter)

namespace CatalogDocument

def instruction? (members : List (Text × Json)) : Option Instruction := do
  let name ← Json.textField "name" members []
  let opcode ← Json.textField "opcode" members []
  let description ← Json.textField "description" members []
  let meaning ← Json.textField "meaning" members []
  return ⟨name, opcode, description, meaning, none⟩

def modifier? (members : List (Text × Json)) : Option Modifier := do
  let name ← Json.textField "name" members []
  let function ← Json.textField "function" members []
  return ⟨name, function⟩

def augmenter? (members : List (Text × Json)) : Option Augmenter := do
  let name ← Json.textField "name" members []
  let effect ← Json.textField "effect" members []
  return ⟨name, effect⟩

/-- Reads one value of a section: a null takes it away, an object adds to it, and of a glyph given
twice the later definition stands alone. -/
def readSection {α : Type} (readEntry : List (Text × Json) → Option α) :
    Json → Option (Mapping Text α) → Option (Option (Mapping Text α))
  | .null, _ => some none
  | .object members, before => do
    let add (m : Mapping Text α) (member : Text × Json) : Option (Mapping Text α) := do
      let fields ← Json.members? [member.2]
      let value ← readEntry fields
      return m.insert member.1 value
    let m ← members.foldlM add (before.getD Mapping.empty)
    return some m
  | _, _ => none

def ofJson? (json : Json) : Option CatalogDocument := do
  let members ← Json.members? [json]
  let values (role : Role) := Json.valuesOf role.sectionName members
  let instructions ← Json.readOver (readSection instruction?) none (values .instruction)
  let modifiers ← Json.readOver (readSection modifier?) none (values .modifier)
  let augmenters ← Json.readOver (readSection augmenter?) none (values .augmenter)
  return ⟨instructions, modifiers, augmenters⟩

end CatalogDocument

/-- Whether a text can be a glyph: not empty, and without blanks, at which programs are cut. -/
def isGlyph (t : Text) : Bool :=
  ! t.isEmpty && ! (Text.symbols t).any Symbol.isBlank

/-- What is wrong with an entry. -/
def entryFault? (role : Role) (glyph name : Text) : Option CatalogFault :=
  if glyph.isEmpty then some (.emptyGlyph role)
  else if (Text.symbols glyph).any Symbol.isBlank then some (.blankInGlyph role glyph)
  else if name.isEmpty then some (.noName role glyph)
  else none

/-- The first fault of a section. -/
def sectionFault? {α : Type} (role : Role) (name : α → Text) (m : Mapping Text α) :
    Option CatalogFault :=
  m.entries.findSome? fun entry => entryFault? role entry.1 (name entry.2)

def requireSection {α : Type} (role : Role) : Option (Mapping Text α) → Except CatalogFault (Mapping Text α)
  | some m => .ok m
  | none => .error (.missing role)

def refuse : Option CatalogFault → Except CatalogFault Unit
  | some fault => .error fault
  | none => .ok ()

namespace Catalog

/-- The catalog of a document. Missing sections are reported before faulty entries. -/
def ofDocument (source : Text) (document : CatalogDocument) : Except CatalogFault Catalog := do
  let instructions ← requireSection .instruction document.instructions
  let modifiers ← requireSection .modifier document.modifiers
  let augmenters ← requireSection .augmenter document.augmenters
  refuse (sectionFault? .instruction Instruction.name instructions)
  refuse (sectionFault? .modifier Modifier.name modifiers)
  refuse (sectionFault? .augmenter Augmenter.name augmenters)
  return ⟨source, instructions.map Instruction.resolved, modifiers, augmenters⟩

def parseDocument (contents : Text) : Except CatalogFault CatalogDocument :=
  match Json.parse? contents >>= CatalogDocument.ofJson? with
  | some document => .ok document
  | none => .error .malformed

/-- Loads a catalog from what reading its source gave: the contents, or why there are none. -/
def load (source : Text) (read : Except Text Text) : Except CatalogError Catalog :=
  let result := do
    let contents ← read.mapError CatalogFault.cannotRead
    let document ← parseDocument contents
    ofDocument source document
  result.mapError (⟨source, ·⟩)

end Catalog
end Hexaglyph
