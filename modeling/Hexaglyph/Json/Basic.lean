import Hexaglyph.Text.Basic
import Hexaglyph.Text.Digits
set_option autoImplicit false

/-! JSON values. A number keeps the literal it was written with, because `1` and `1.0` are told apart
where an integer is wanted; an object keeps its members in order, repetitions included. -/
namespace Hexaglyph

inductive Json where
  | null
  | bool (value : Bool)
  | number (literal : Text)
  | string (value : Text)
  | array (items : List Json)
  | object (members : List (Text × Json))
deriving Inhabited

namespace Json

def ofInt (n : Int) : Json :=
  number (Text.ofInt n)

def ofNat (n : Nat) : Json :=
  number (Text.ofNat n)

def ofString (s : String) : Json :=
  string (utf8 s)

def ofTexts (texts : List Text) : Json :=
  array (texts.map string)

/-- An object from member names and values. -/
def record (members : List (String × Json)) : Json :=
  object (members.map fun member => (utf8 member.1, member.2))

/-- A member that is left out when the condition fails. -/
def memberIf (condition : Bool) (name : String) (value : Json) : List (String × Json) :=
  if condition then [(name, value)] else []

/-- The value of the last member with exactly this name. -/
def get? (name : Text) : Json → Option Json
  | object members => (members.reverse.find? (·.1 == name)).map Prod.snd
  | _ => none

end Json
end Hexaglyph
