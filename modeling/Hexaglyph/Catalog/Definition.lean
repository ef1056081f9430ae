import Hexaglyph.Text.Digits
set_option autoImplicit false

/-! What a catalog says about a glyph. -/
namespace Hexaglyph

/-- The three kinds of glyphs, in the order in which a lookup tries them. -/
inductive Role where
  | instruction
  | modifier
  | augmenter
deriving DecidableEq

namespace Role

def name : Role → String
  | instruction => "instruction"
  | modifier => "modifier"
  | augmenter => "augmenter"

/-- The roles are numbered from one; zero and all other numbers stand for no role. -/
def ofInt? : Int → Option Role
  | 1 => some instruction
  | 2 => some modifier
  | 3 => some augmenter
  | _ => none

/-- The word for a glyph's role, also when it has none. -/
def label : Option Role → Text
  | some role => utf8 role.name
  | none => utf8 "unknown"

/-- The section of a catalog document that defines the glyphs of a role. -/
def sectionName : Role → String
  | instruction => "glyph_to_opcode"
  | modifier => "modifiers"
  | augmenter => "psychic_augmenters"

end Role

/-- An instruction of the machine. The opcode is kept as the catalog writes it; `code` is the byte it
stands for, if it is one. -/
structure Instruction where
  name : Text
  opcode : Text
  description : Text
  meaning : Text
  code : Option UInt8
deriving DecidableEq

/-- An instruction whose code is what its opcode text says. -/
def Instruction.resolved (i : Instruction) : Instruction :=
  { i with code := Text.toByte? i.opcode }

structure Modifier where
  name : Text
  function : Text
deriving DecidableEq

structure Augmenter where
  name : Text
  effect : Text
deriving DecidableEq

inductive Definition where
  | instruction (i : Instruction)
  | modifier (m : Modifier)
  | augmenter (a : Augmenter)
deriving DecidableEq

namespace Definition

def role : Definition → Role
  | instruction _ => .instruction
  | modifier _ => .modifier
  | augmenter _ => .augmenter

def name : Definition → Text
  | instruction i => i.name
  | modifier m => m.name
  | augmenter a => a.name

end Definition
end Hexaglyph
