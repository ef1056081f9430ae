import Hexaglyph.Program.Encoding
set_option autoImplicit false

/-! The encoding in closed form. A register depends on all lines before its own, but only through the
number of registers they took together. -/
namespace Hexaglyph

theorem Rotation.getElem?_register (r : Rotation) (drawn : Nat) :
    r.registers[drawn % r.registers.length]? = some (r.register drawn) := by
  rw [List.getElem?_eq_getElem (Nat.mod_lt _ r.length_pos)]
  rfl

namespace Arity

def tail : Arity → List UInt8
  | setImmediate => [immediate]
  | conditionalJump => [address]
  | jump => [address]
  | _ => []

theorem tail_eq (arity : Arity) :
    arity.tail = if arity = .setImmediate then [0x02]
      else if arity = .conditionalJump ∨ arity = .jump then [0x03]
      else [] := by
  cases arity <;> rfl

theorem length_eq (arity : Arity) : arity.length = 1 + arity.registers + arity.tail.length := by
  cases arity <;> rfl

/-- What is drawn for an instruction are as many registers as its class is said to have, by their
places in the rotation alone, and the constant comes last. -/
theorem operands_eq (a : Allocator) (arity : Arity) :
    arity.operands a =
      (((List.range arity.registers).map fun slot => a.rotation.register (a.drawn + slot)) ++
        arity.tail, { a with drawn := a.drawn + arity.registers }) := by
  cases arity <;> rfl

end Arity

namespace EncodedLine

def registersOf : List EncodedLine → Nat
  | [] => 0
  | line :: rest => line.arity.registers + registersOf rest

@[simp] theorem registersOf_nil : registersOf [] = 0 := rfl

@[simp] theorem registersOf_cons (line : EncodedLine) (rest : List EncodedLine) :
    registersOf (line :: rest) = line.arity.registers + registersOf rest := rfl

/-- What a line has to say about the instruction at an index of a program, where `drawn` registers
of the rotation were handed out before it. -/
structure Encodes (line : EncodedLine) (rotation : Rotation) (drawn index : Nat) (t : Token)
    (i : Instruction) : Prop where
  token : line.token = index
  glyph : line.glyph = t.glyph
  opcode : line.opcode = i.opcode
  range : line.range = t.range
  arity : line.arity = match i.code with
    | some code => .ofOpcode code
    | none => .unresolved
  unresolved : line.unresolved = true ↔ line.arity = .unresolved
  bytes : ∃ registers : List UInt8, registers.length = line.arity.registers ∧
    (∀ slot < line.arity.registers,
      registers[slot]? = rotation.registers[(drawn + slot) % rotation.registers.length]?) ∧
    line.bytes = i.code.toList ++ registers ++
      if line.arity = .setImmediate then [0x02]
      else if line.arity = .conditionalJump ∨ line.arity = .jump then [0x03]
      else []
  length : i.code.isSome → line.bytes.length = line.arity.length

theorem encode_allocator (a : Allocator) (index : Nat) (t : Token) (i : Instruction) :
    (encode a index t i).2 =
      { a with drawn := a.drawn + (encode a index t i).1.arity.registers } := by
  simp only [encode, Arity.operands_eq]

theorem encode_bytes (a : Allocator) (index : Nat) (t : Token) (i : Instruction) :
    (encode a index t i).1.bytes = i.code.toList ++
      ((List.range (Arity.ofCode i.code).registers).map fun slot =>
        a.rotation.register (a.drawn + slot)) ++ (Arity.ofCode i.code).tail := by
  simp only [encode, Arity.operands_eq, List.append_assoc]

/-- One step of the encoder. -/
theorem encode_encodes (a : Allocator) (index : Nat) (t : Token) (i : Instruction) :
    (encode a index t i).1.Encodes a.rotation a.drawn index t i where
  token := rfl
  glyph := rfl
  opcode := rfl
  range := rfl
  arity := by
    change Arity.ofCode i.code = _
    cases i.code <;> rfl
  unresolved := beq_iff_eq
  bytes := by
    refine ⟨(List.range (Arity.ofCode i.code).registers).map fun slot =>
      a.rotation.register (a.drawn + slot), ?_, ?_, ?_⟩
    · rw [List.length_map, List.length_range]
      rfl
    · intro slot inside
      change slot < (Arity.ofCode i.code).registers at inside
      rw [Rotation.getElem?_register, List.getElem?_map, List.getElem?_range inside]
      rfl
    · rw [encode_bytes, Arity.tail_eq]
      rfl
  length := by
    intro present
    obtain ⟨code, found⟩ := Option.isSome_iff_exists.mp present
    change _ = (Arity.ofCode i.code).length
    rw [encode_bytes, Arity.length_eq, found]
    simp only [Option.toList_some, List.length_append, List.length_cons, List.length_nil,
      List.length_map, List.length_range]

end EncodedLine

namespace Token

theorem role_instruction (t : Token) (i : Instruction) (defined : t.definition = some (.instruction i)) :
    t.role = some .instruction := by
  rw [role, defined]
  rfl

theorem instruction_of_role (t : Token) (instruction : t.role = some .instruction) :
    ∃ i, t.definition = some (.instruction i) := by
  obtain ⟨definition, found, same⟩ := Option.map_eq_some_iff.mp instruction
  cases definition with
  | instruction i => exact ⟨i, found⟩
  | modifier m => cases same
  | augmenter a => cases same

@[simp] theorem encodeFrom_nil (index : Nat) (a : Allocator) : encodeFrom index a [] = ([], a) := rfl

theorem encodeFrom_instruction (index : Nat) (a : Allocator) (t : Token) (rest : List Token)
    (i : Instruction) (defined : t.definition = some (.instruction i)) :
    encodeFrom index a (t :: rest) =
      let first := EncodedLine.encode a index t i
      let others := encodeFrom (index + 1) first.2 rest
      (first.1 :: others.1, others.2) := by
  rw [encodeFrom, defined]

theorem encodeFrom_other (index : Nat) (a : Allocator) (t : Token) (rest : List Token)
    (other : t.role ≠ some .instruction) :
    encodeFrom index a (t :: rest) = encodeFrom (index + 1) a rest := by
  rw [encodeFrom]
  split
  · rename_i i defined
    exact absurd (t.role_instruction i defined) other
  · rfl

/-- A run over two programs goes on with the second where the first has left it. -/
theorem encodeFrom_append (index : Nat) (a : Allocator) (first second : List Token) :
    encodeFrom index a (first ++ second) =
      let front := encodeFrom index a first
      let back := encodeFrom (index + first.length) front.2 second
      (front.1 ++ back.1, back.2) := by
  induction first generalizing index a with
  | nil => rfl
  | cons t rest ih =>
      have place : index + 1 + rest.length = index + (t :: rest).length := by
        rw [List.length_cons]
        omega
      by_cases instruction : t.role = some .instruction
      · obtain ⟨i, defined⟩ := t.instruction_of_role instruction
        simp only [List.cons_append, encodeFrom_instruction _ _ t _ i defined, ih, place]
      · simp only [List.cons_append, encodeFrom_other _ _ t _ instruction, ih, place]

/-- Where a change of the tokens shows in the line of each instruction and in no register, it shows so
in a whole run. -/
theorem encodeFrom_map (change : Token → Token) (shown : EncodedLine → EncodedLine) (shift : Nat)
    (tokens : List Token) (roles : ∀ t ∈ tokens, (change t).role = t.role)
    (step : ∀ t ∈ tokens, ∀ i, t.definition = some (.instruction i) →
      ∃ j, (change t).definition = some (.instruction j) ∧
        ∀ a index, EncodedLine.encode a (index + shift) (change t) j =
          (shown (EncodedLine.encode a index t i).1, (EncodedLine.encode a index t i).2))
    (index : Nat) (a : Allocator) :
    encodeFrom (index + shift) a (tokens.map change) =
      ((encodeFrom index a tokens).1.map shown, (encodeFrom index a tokens).2) := by
  induction tokens generalizing index a with
  | nil => rfl
  | cons t rest ih =>
      have first : t ∈ t :: rest := List.mem_cons_self
      have others := ih (fun u member => roles u (List.mem_cons_of_mem t member))
        (fun u member => step u (List.mem_cons_of_mem t member))
      have place : index + shift + 1 = index + 1 + shift := by omega
      by_cases instruction : t.role = some .instruction
      · obtain ⟨i, defined⟩ := t.instruction_of_role instruction
        obtain ⟨j, changed, encoded⟩ := step t first i defined
        rw [List.map_cons, encodeFrom_instruction _ _ _ _ j changed,
          encodeFrom_instruction _ _ _ _ i defined]
        simp only [encoded, place, others, List.map_cons]
      · have other : (change t).role ≠ some .instruction := by rwa [roles t first]
        rw [List.map_cons, encodeFrom_other _ _ (change t) _ other, encodeFrom_other _ _ t _ instruction,
          place, others]

/-- A run of the encoder draws what its lines take, no more and no less. -/
theorem encodeFrom_allocator (index : Nat) (a : Allocator) (tokens : List Token) :
    (encodeFrom index a tokens).2 =
      { a with drawn := a.drawn + EncodedLine.registersOf (encodeFrom index a tokens).1 } := by
  induction tokens generalizing index a with
  | nil => rfl
  | cons t rest ih =>
      by_cases instruction : t.role = some .instruction
      · obtain ⟨i, defined⟩ := t.instruction_of_role instruction
        rw [encodeFrom_instruction index a t rest i defined]
        simp only [ih, EncodedLine.encode_allocator, EncodedLine.registersOf_cons, Nat.add_assoc]
      · rw [encodeFrom_other index a t rest instruction, ih]

/-- The lines belong to the instructions among the tokens, in their order. -/
theorem encodeFrom_tokens (index : Nat) (a : Allocator) (tokens : List Token) :
    (encodeFrom index a tokens).1.map EncodedLine.token =
      ((tokens.zipIdx index).filter fun entry => entry.1.role == some .instruction).map
        fun entry => (entry.2 : Int) := by
  induction tokens generalizing index a with
  | nil => rfl
  | cons t rest ih =>
      rw [List.zipIdx_cons]
      by_cases instruction : t.role = some .instruction
      · obtain ⟨i, defined⟩ := t.instruction_of_role instruction
        rw [encodeFrom_instruction index a t rest i defined,
          List.filter_cons_of_pos (by simp [instruction])]
        simp only [List.map_cons, ih]
        rfl
      · rw [encodeFrom_other index a t rest instruction,
          List.filter_cons_of_neg (by simp [instruction]), ih]

/-- Each line of a run, with the registers that the lines before it took. -/
theorem encodeFrom_line (index : Nat) (a : Allocator) (tokens : List Token) (n : Nat)
    (line : EncodedLine) (found : (encodeFrom index a tokens).1[n]? = some line) :
    ∃ offset t i, tokens[offset]? = some t ∧ t.definition = some (.instruction i) ∧
      line.Encodes a.rotation
        (a.drawn + EncodedLine.registersOf ((encodeFrom index a tokens).1.take n))
        (index + offset) t i := by
  induction tokens generalizing index a n with
  | nil => simp at found
  | cons t rest ih =>
      by_cases instruction : t.role = some .instruction
      · obtain ⟨i, defined⟩ := t.instruction_of_role instruction
        rw [encodeFrom_instruction index a t rest i defined] at found ⊢
        cases n with
        | zero =>
            cases found
            exact ⟨0, t, i, rfl, defined, EncodedLine.encode_encodes a index t i⟩
        | succ n =>
            obtain ⟨offset, u, j, placed, known, encoded⟩ := ih (index + 1) _ n found
            refine ⟨offset + 1, u, j, placed, known, ?_⟩
            simpa only [EncodedLine.encode_allocator, List.take_succ_cons,
              EncodedLine.registersOf_cons, Nat.add_assoc, Nat.add_comm 1 offset] using encoded
      · rw [encodeFrom_other index a t rest instruction] at found ⊢
        obtain ⟨offset, u, j, placed, known, encoded⟩ := ih (index + 1) a n found
        refine ⟨offset + 1, u, j, placed, known, ?_⟩
        simpa only [Nat.add_assoc, Nat.add_comm 1 offset] using encoded

theorem encodeFrom_increasing (index : Nat) (a : Allocator) (tokens : List Token) :
    ((encodeFrom index a tokens).1.map EncodedLine.token).Pairwise (· < ·) := by
  have ordered : (tokens.zipIdx index).Pairwise fun first second => first.2 < second.2 := by
    have range := List.pairwise_lt_range' (s := index) (n := tokens.length)
    rw [← List.zipIdx_map_snd, List.pairwise_map] at range
    exact range
  rw [encodeFrom_tokens, List.pairwise_map]
  refine (ordered.filter _).imp ?_
  intro first second less
  exact Int.ofNat_lt.mpr less

end Token

/-- The encoder on any tokens, from any place in any rotation: every token has a gloss, every
instruction has a line, and the operands of a line are the next registers of the rotation after
those that the lines before it took. -/
theorem encodeTokens_exact (a : Allocator) (tokens : List Token) :
    let lines := (encodeTokens a tokens).1
    (glossTokens tokens).length = tokens.length ∧
      lines.map EncodedLine.token =
        (tokens.zipIdx.filter fun entry => entry.1.role == some .instruction).map
          (fun entry => (entry.2 : Int)) ∧
      (lines.map EncodedLine.token).Pairwise (· < ·) ∧
      (∀ (n : Nat) (line : EncodedLine), lines[n]? = some line →
        ∃ (index : Nat) (t : Token) (i : Instruction), tokens[index]? = some t ∧
        t.definition = some (.instruction i) ∧
        line.Encodes a.rotation (a.drawn + EncodedLine.registersOf (lines.take n)) index t i) ∧
      (encodeTokens a tokens).2 = { a with drawn := a.drawn + EncodedLine.registersOf lines } := by
  refine ⟨List.length_map _, Token.encodeFrom_tokens 0 a tokens,
    Token.encodeFrom_increasing 0 a tokens, ?_, Token.encodeFrom_allocator 0 a tokens⟩
  intro n line found
  obtain ⟨index, t, i, placed, defined, encoded⟩ := Token.encodeFrom_line 0 a tokens n line found
  rw [Nat.zero_add] at encoded
  exact ⟨index, t, i, placed, defined, encoded⟩

end Hexaglyph
