import Hexaglyph.Catalog.Definition
import Hexaglyph.Text.Quoted
set_option autoImplicit false

/-! Why a catalog could not be used. -/
namespace Hexaglyph

/-- The words that stand for what is wrong inside a JSON document. -/
def jsonFault : Text := utf8 "<json>"

inductive CatalogFault where
  | cannotOpen (cause : Text)
  | cannotRead (cause : Text)
  | malformed
  | missing (role : Role)
  | emptyGlyph (role : Role)
  | blankInGlyph (role : Role) (glyph : Text)
  | noName (role : Role) (glyph : Text)
deriving DecidableEq

namespace CatalogFault

def reason : CatalogFault → Text
  | cannotOpen _ => utf8 "could not open"
  | cannotRead _ => utf8 "could not read"
  | malformed => utf8 "malformed document"
  | missing role => utf8 "missing " ++ utf8 role.sectionName ++ utf8 " mapping"
  | emptyGlyph role => utf8 "empty glyph in " ++ utf8 role.sectionName
  | blankInGlyph role glyph =>
    utf8 "glyph " ++ Text.quoted glyph ++ utf8 " in " ++ utf8 role.sectionName ++
      utf8 " contains whitespace"
  | noName role glyph => utf8 role.name ++ utf8 " " ++ Text.quoted glyph ++ utf8 " has no name"

/-- What lies behind the fault, if it is not the document itself. -/
def cause? : CatalogFault → Option Text
  | cannotOpen cause => some cause
  | cannotRead cause => some cause
  | malformed => some jsonFault
  | _ => none

end CatalogFault

/-- A fault with the source it was found in. -/
structure CatalogError where
  source : Text
  fault : CatalogFault
deriving DecidableEq

/-- A reason, followed by the cause behind it. -/
def withCause (reason : Text) : Option Text → Text
  | some cause => reason ++ utf8 ": " ++ cause
  | none => reason

def CatalogError.message (e : CatalogError) : Text :=
  utf8 "glyph catalog " ++ e.source ++ utf8 ": " ++ withCause e.fault.reason e.fault.cause?

end Hexaglyph
