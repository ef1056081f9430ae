import Hexaglyph.Proofs.Encoding
set_option autoImplicit false

/-! The bytes of a program without their lines. The opcode says how long an instruction is, so the
instructions can be told apart again, whatever registers stand among the operands. -/
namespace Hexaglyph

namespace Segment

/-- An opcode with as many bytes behind it as its class has. -/
def Whole (bytes : List UInt8) : Prop :=
  ∃ code operands, bytes = code :: operands ∧ bytes.length = (Arity.ofOpcode code).length

/-- Cuts bytes from the left, each time as many as the first of them says. Nothing comes of it if
fewer are left than that. -/
def cut? : List UInt8 → Option (List (List UInt8))
  | [] => some []
  | code :: rest =>
    let size := (Arity.ofOpcode code).length
    if size ≤ (code :: rest).length then
      (cut? ((code :: rest).drop size)).map ((code :: rest).take size :: ·)
    else none
termination_by bytes => bytes.length
decreasing_by
  have nonempty : 0 < (Arity.ofOpcode code).length := by
    rw [Arity.length_eq]
    omega
  rw [List.length_drop, List.length_cons]
  omega

@[simp] theorem cut?_nil : cut? [] = some [] := by
  rw [cut?]

/-- What follows a whole instruction does not matter for where it ends. -/
theorem cut?_append (piece rest : List UInt8) (whole : Whole piece) :
    cut? (piece ++ rest) = (cut? rest).map (piece :: ·) := by
  obtain ⟨code, operands, rfl, size⟩ := whole
  have fits : (Arity.ofOpcode code).length ≤ (code :: (operands ++ rest)).length := by
    rw [← size, List.length_cons, List.length_cons, List.length_append]
    omega
  have back : (code :: (operands ++ rest)).drop (Arity.ofOpcode code).length = rest := by
    rw [← size, ← List.cons_append, List.drop_left]
  have front : (code :: (operands ++ rest)).take (Arity.ofOpcode code).length =
      code :: operands := by
    rw [← size, ← List.cons_append, List.take_left]
  rw [List.cons_append, cut?]
  simp only [fits, back, front, ↓reduceIte]

/-- Whole instructions can be cut apart in one way only, the way they were put together. -/
theorem cut?_flatten (pieces : List (List UInt8)) (whole : ∀ piece ∈ pieces, Whole piece) :
    cut? pieces.flatten = some pieces := by
  induction pieces with
  | nil => exact cut?_nil
  | cons piece rest ih =>
      have others : ∀ piece ∈ rest, Whole piece := fun piece member =>
        whole piece (List.mem_cons_of_mem _ member)
      rw [List.flatten_cons, cut?_append _ _ (whole piece List.mem_cons_self), ih others]
      rfl

end Segment

/-- Whether a token is an instruction whose opcode is a byte. -/
def Token.hasCode (t : Token) : Bool :=
  match t.definition with
  | some (.instruction i) => i.code.isSome
  | _ => false

namespace EncodedLine

/-- Whether the token that a line belongs to has a code. -/
def isCoded (tokens : List Token) (line : EncodedLine) : Bool :=
  tokens[line.token.toNat]?.any Token.hasCode

namespace Encodes

variable {line : EncodedLine} {rotation : Rotation} {drawn index : Nat} {t : Token} {i : Instruction}

theorem whole_bytes (encodes : line.Encodes rotation drawn index t i) (code : UInt8)
    (known : i.code = some code) : Segment.Whole line.bytes := by
  obtain ⟨registers, -, -, bytes⟩ := encodes.bytes
  have arity := encodes.arity
  have length := encodes.length (by rw [known]; rfl)
  rw [known] at bytes arity
  refine ⟨code, _, bytes, ?_⟩
  rw [length, arity]

/-- An instruction without a code leaves no byte. -/
theorem no_bytes (encodes : line.Encodes rotation drawn index t i) (unknown : i.code = none) :
    line.bytes = [] := by
  obtain ⟨registers, count, -, bytes⟩ := encodes.bytes
  have arity := encodes.arity
  rw [unknown] at bytes arity
  rw [arity] at bytes count
  rw [bytes, List.length_eq_zero_iff.mp count]
  rfl

end Encodes

/-- A line of a program carries a whole instruction if its token has a code, and no bytes if not. -/
theorem bytes_of_mem_encodeTokens (a : Allocator) (tokens : List Token) (line : EncodedLine)
    (member : line ∈ (encodeTokens a tokens).1) :
    if line.isCoded tokens then Segment.Whole line.bytes else line.bytes = [] := by
  obtain ⟨n, found⟩ := List.mem_iff_getElem?.mp member
  obtain ⟨offset, t, i, placed, defined, encodes⟩ := Token.encodeFrom_line 0 a tokens n line found
  have owner : tokens[line.token.toNat]? = some t := by
    rw [encodes.token, Nat.zero_add, Int.toNat_natCast, placed]
  have coded : line.isCoded tokens = i.code.isSome := by
    rw [isCoded, owner, Option.any_some, Token.hasCode, defined]
  rw [coded]
  cases known : i.code with
  | none => exact encodes.no_bytes known
  | some code => exact encodes.whole_bytes code known

/-- Lines without bytes do not show among the bytes of all. -/
theorem flatMap_bytes_filter (kept : EncodedLine → Bool) (lines : List EncodedLine)
    (empty : ∀ line ∈ lines, ¬ kept line → line.bytes = []) :
    lines.flatMap bytes = ((lines.filter kept).map bytes).flatten := by
  induction lines with
  | nil => rfl
  | cons line rest ih =>
      have others := ih fun line member => empty line (List.mem_cons_of_mem _ member)
      by_cases keep : kept line
      · rw [List.filter_cons_of_pos keep, List.flatMap_cons, List.map_cons, List.flatten_cons, others]
      · rw [List.filter_cons_of_neg keep, List.flatMap_cons, empty line List.mem_cons_self keep,
          List.nil_append, others]

end EncodedLine

/-- The bytes of a program fall apart into the bytes of its lines, less the lines that have none
because their opcode is no byte. -/
theorem cut?_encodeTokens (a : Allocator) (tokens : List Token) :
    let lines := (encodeTokens a tokens).1
    Segment.cut? (lines.flatMap EncodedLine.bytes) =
      some ((lines.filter (·.isCoded tokens)).map EncodedLine.bytes) := by
  intro lines
  have each : ∀ line ∈ lines,
      if line.isCoded tokens then Segment.Whole line.bytes else line.bytes = [] :=
    fun line member => line.bytes_of_mem_encodeTokens a tokens member
  rw [EncodedLine.flatMap_bytes_filter (·.isCoded tokens)]
  · apply Segment.cut?_flatten
    intro piece member
    obtain ⟨line, kept, rfl⟩ := List.mem_map.mp member
    obtain ⟨inside, coded⟩ := List.mem_filter.mp kept
    have bytes := each line inside
    rwa [if_pos coded] at bytes
  · intro line member uncoded
    have bytes := each line member
    rwa [if_neg uncoded] at bytes

end Hexaglyph
