import Hexaglyph.Program.Translation
import Hexaglyph.Text.LetterCase
set_option autoImplicit false

/-! Listings: one encoded instruction a line in hexadecimal, followed on request by its glyph as a
comment. A listing can be read back. -/
namespace Hexaglyph

namespace EncodedLine

/-- The opcode as the catalog writes it, then the operands as bytes. Without opcode text all bytes
are operands. -/
def hex (l : EncodedLine) : Text :=
  let operands := if l.opcode.isEmpty then l.bytes else l.bytes.drop 1
  l.opcode ++ operands.flatMap (Text.ofByte .upper) ++ if l.unresolved then unresolvedMark else []

/-- The line with its glyph as a comment. -/
def commented (l : EncodedLine) : Text :=
  l.hex ++ utf8 "  # " ++ l.glyph

/-- The line as it stands in a listing. -/
def listed (l : EncodedLine) (comments : Bool) : Text :=
  (if comments then l.commented else l.hex) ++ [Text.lineFeed]

end EncodedLine

/-- Something that takes one text after the other. It has a state of its own, and a write may fail. -/
abbrev Writer (ε σ : Type) := Text → EStateM ε σ Unit

namespace Writer

variable {ε σ : Type}

def failed : EStateM.Result ε σ Unit → Bool
  | .ok _ _ => false
  | .error _ _ => true

/-- The state that writing has led to, whether it failed or not. -/
def reached : EStateM.Result ε σ Unit → σ
  | .ok _ s => s
  | .error _ s => s

end Writer

/-- A place with room for so many texts more. -/
structure Quota where
  left : Nat
  /-- The texts it has, the last one first. -/
  taken : List Text

namespace Quota

def write (text : Text) : EStateM Unit Quota Unit
  | ⟨0, taken⟩ => .error () ⟨0, taken⟩
  | ⟨left + 1, taken⟩ => .ok () ⟨left, text :: taken⟩

def written (q : Quota) : Text :=
  q.taken.reverse.flatten

end Quota

namespace Translation

def hexLines (t : Translation) : List Text :=
  t.lines.map EncodedLine.hex

def listing (t : Translation) (comments : Bool) : Text :=
  t.lines.flatMap (·.listed comments)

/-- Writes a listing, a line at a time, and stops at the first write that fails. -/
def writeTo {ε σ : Type} (w : Writer ε σ) (comments : Bool) (lines : List EncodedLine) :
    EStateM ε σ Unit :=
  lines.forM fun line => w (line.listed comments)

/-- Writes a listing where only so many writes succeed: what was written, and whether all of it
was. -/
def writeListing (comments : Bool) (writes : Nat) (lines : List EncodedLine) : Text × Bool :=
  let outcome := writeTo Quota.write comments lines ⟨writes, []⟩
  ((Writer.reached outcome).written, ! Writer.failed outcome)

end Translation

namespace Listing

/-- A comment begins with a number sign and runs to the end of its line. -/
def commentSign : UInt8 := 0x23

def stripComment (line : Text) : Text :=
  line.takeWhile (· != commentSign)

/-- The encoded instructions of a listing in upper case, without comments and blank lines. -/
def parse (t : Text) : List Text :=
  (((Text.lines t).map fun line => Text.trim (stripComment line)).filter (! ·.isEmpty)).map Text.upper

end Listing
end Hexaglyph
