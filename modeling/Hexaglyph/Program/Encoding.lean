import Hexaglyph.Program.Rotation
import Hexaglyph.Program.Token
set_option autoImplicit false

/-! The encoding of instructions. An opcode fixes how many registers follow it and which constant
ends the instruction; an opcode outside the table is kept and marked as unresolved. -/
namespace Hexaglyph

/-- What follows an opcode. -/
inductive Arity where
  | unresolved
  | noOperand
  | singleRegister
  | setImmediate
  | twoRegister
  | conditionalJump
  | jump
deriving DecidableEq

namespace Arity

def name : Arity → String
  | unresolved => "Unresolved"
  | noOperand => "No-operand"
  | singleRegister => "Single-register"
  | setImmediate => "Set-immediate"
  | twoRegister => "Two-register"
  | conditionalJump => "Conditional jump"
  | jump => "Unconditional jump"

/-- The classes are numbered from zero; every other number stands for an unresolved one. -/
def ofInt : Int → Arity
  | 1 => noOperand
  | 2 => singleRegister
  | 3 => setImmediate
  | 4 => twoRegister
  | 5 => conditionalJump
  | 6 => jump
  | _ => unresolved

def number : Arity → Nat
  | unresolved => 0
  | noOperand => 1
  | singleRegister => 2
  | setImmediate => 3
  | twoRegister => 4
  | conditionalJump => 5
  | jump => 6

/-- The number of register operands. -/
def registers : Arity → Nat
  | singleRegister => 1
  | setImmediate => 1
  | twoRegister => 2
  | conditionalJump => 2
  | _ => 0

/-- The value every immediate has. -/
def immediate : UInt8 := 0x02

/-- The address every jump goes to. -/
def address : UInt8 := 0x03

/-- The size of an encoded instruction with its opcode. An unresolved one has nothing else. -/
def length (arity : Arity) : Nat :=
  let size := 1 + arity.registers
  if arity = setImmediate ∨ arity = conditionalJump ∨ arity = jump then size + 1 else size

/-- The bytes that follow an opcode. Registers are drawn as they are needed, from left to right. -/
def operands (a : Allocator) : Arity → List UInt8 × Allocator
  | unresolved => ([], a)
  | noOperand => ([], a)
  | singleRegister =>
    let (register, a) := a.next
    ([register], a)
  | setImmediate =>
    let (register, a) := a.next
    ([register, immediate], a)
  | twoRegister =>
    let (first, a) := a.next
    let (second, a) := a.next
    ([first, second], a)
  | conditionalJump =>
    let (first, a) := a.next
    let (second, a) := a.next
    ([first, second, address], a)
  | jump => ([address], a)

/-- The class of an opcode. -/
def ofOpcode (code : UInt8) : Arity :=
  match code.toNat with
  | 0x00 => noOperand
  | 0x15 => noOperand
  | 0x20 => singleRegister
  | 0x21 => singleRegister
  | 0x22 => singleRegister
  | 0x23 => singleRegister
  | 0x24 => singleRegister
  | 0x25 => singleRegister
  | 0x01 => setImmediate
  | 0x02 => twoRegister
  | 0x03 => twoRegister
  | 0x04 => twoRegister
  | 0x05 => twoRegister
  | 0x10 => twoRegister
  | 0x11 => twoRegister
  | 0x13 => conditionalJump
  | 0x14 => conditionalJump
  | 0x12 => jump
  | _ => unresolved

/-- The class of an instruction; without a code it is unresolved. -/
def ofCode : Option UInt8 → Arity
  | some code => ofOpcode code
  | none => unresolved

end Arity

/-- What follows the opcode of an unresolved instruction in a listing. -/
def unresolvedMark : Text := [0x3F, 0x3F]

/-- The encoding of one instruction. -/
structure EncodedLine where
  glyph : Text
  /-- The index of its token in the program. -/
  token : Int
  opcode : Text
  arity : Arity
  bytes : List UInt8
  unresolved : Bool
  range : Range
deriving DecidableEq

namespace EncodedLine

/-- A line that encodes nothing. -/
def blank : EncodedLine :=
  ⟨[], 0, [], .unresolved, [], false, .zero⟩

/-- Encodes the instruction of a token: the opcode, and what follows it. -/
def encode (a : Allocator) (index : Nat) (t : Token) (i : Instruction) : EncodedLine × Allocator :=
  let arity := Arity.ofCode i.code
  let (operands, a) := arity.operands a
  let line :=
    { glyph := t.glyph
      token := index
      opcode := i.opcode
      arity := arity
      bytes := i.code.toList ++ operands
      unresolved := arity == .unresolved
      range := t.range }
  (line, a)

end EncodedLine

namespace Token

/-- Encodes the instructions among tokens, the first of which has the given index. All other tokens
take no register. -/
def encodeFrom : Nat → Allocator → List Token → List EncodedLine × Allocator
  | _, a, [] => ([], a)
  | index, a, t :: rest =>
    match t.definition with
    | some (.instruction i) =>
      let (line, a) := EncodedLine.encode a index t i
      let (lines, a) := encodeFrom (index + 1) a rest
      (line :: lines, a)
    | _ => encodeFrom (index + 1) a rest

/-- What a glyph means, in words. -/
def gloss (t : Token) : Text :=
  t.glyph ++ utf8 " → " ++
    match t.definition with
    | some (.instruction i) =>
      if ! i.meaning.isEmpty then i.meaning
      else if ! i.description.isEmpty then i.description
      else i.name
    | some (.modifier m) => utf8 "MOD: " ++ m.function
    | some (.augmenter a) => utf8 "AUG: " ++ a.effect
    | none => utf8 "?? unrecognized glyph"

end Token

/-- The lines of all tokens of a program. -/
def encodeTokens (a : Allocator) (tokens : List Token) : List EncodedLine × Allocator :=
  Token.encodeFrom 0 a tokens

/-- The gloss of all tokens of a program. -/
def glossTokens (tokens : List Token) : List Text :=
  tokens.map Token.gloss

end Hexaglyph
