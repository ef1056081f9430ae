import Hexaglyph.Catalog.Definition
import Hexaglyph.Mapping
set_option autoImplicit false

/-! Catalogs of glyphs. A glyph may be defined in more than one role; the first role in the order
instruction, modifier, augmenter wins, and the others are shadowed. -/
namespace Hexaglyph

structure Catalog where
  /-- Where the catalog came from, for messages. -/
  source : Text
  instructions : Mapping Text Instruction
  modifiers : Mapping Text Modifier
  augmenters : Mapping Text Augmenter

/-- A glyph with more than one definition: the role that wins, and those never reached. -/
structure Overlap where
  glyph : Text
  resolved : Role
  shadowed : List Role
deriving DecidableEq

/-- Texts in the order of their bytes. -/
def Text.sort (texts : List Text) : List Text :=
  texts.mergeSort fun a b => decide (a ≤ b)

/-- Adds a text unless it has been added before. -/
def Text.addNew (added : List Text) (text : Text) : List Text :=
  if added.contains text then added else added ++ [text]

namespace Catalog

/-- What a glyph means in a catalog. -/
def lookup (c : Catalog) (glyph : Text) : Option Definition :=
  ((c.instructions.get? glyph).map .instruction).or
    (((c.modifiers.get? glyph).map .modifier).or ((c.augmenters.get? glyph).map .augmenter))

/-- Every role that defines the glyph, the winning one first. -/
def roles (c : Catalog) (glyph : Text) : List Role :=
  (if c.instructions.contains glyph then [.instruction] else []) ++
    (if c.modifiers.contains glyph then [.modifier] else []) ++
    (if c.augmenters.contains glyph then [.augmenter] else [])

/-- All glyphs: those of each mapping are sorted and added after those of the mappings before it. -/
def glyphs (c : Catalog) : List Text :=
  let instructions := (Text.sort c.instructions.keys).foldl Text.addNew []
  let modifiers := (Text.sort c.modifiers.keys).foldl Text.addNew instructions
  (Text.sort c.augmenters.keys).foldl Text.addNew modifiers

/-- The number of distinct glyphs. -/
def size (c : Catalog) : Nat :=
  c.glyphs.length

def overlap? (c : Catalog) (glyph : Text) : Option Overlap :=
  match c.roles glyph with
  | resolved :: next :: rest => some ⟨glyph, resolved, next :: rest⟩
  | _ => none

/-- The glyphs with shadowed definitions, sorted. -/
def overlaps (c : Catalog) : List Overlap :=
  (Text.sort c.glyphs).filterMap c.overlap?

end Catalog
end Hexaglyph
