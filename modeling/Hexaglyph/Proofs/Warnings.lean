import Hexaglyph.Proofs.Diagnostics
import Hexaglyph.Proofs.Digits
import Hexaglyph.Proofs.Hover
import Hexaglyph.Proofs.Listing
import Mathlib.Data.List.Basic
set_option autoImplicit false

/-! Warnings. Which words of a program are reported can be told from the catalog alone: those it does
not know, and the instructions whose opcode has no encoding. -/
namespace Hexaglyph

/-- The opcodes of the machine. -/
def Arity.table : List UInt8 :=
  [0x00, 0x01, 0x02, 0x03, 0x04, 0x05, 0x10, 0x11, 0x12, 0x13, 0x14, 0x15, 0x20, 0x21, 0x22, 0x23,
    0x24, 0x25]

theorem Arity.ofOpcode_eq_unresolved_iff (code : UInt8) :
    ofOpcode code = .unresolved ↔ code ∉ table := by
  have every : ∀ n < 256, ofOpcode (UInt8.ofNat n) = .unresolved ↔ UInt8.ofNat n ∉ table := by
    decide +kernel
  have here := every code.toNat code.toNat_lt
  rwa [UInt8.ofNat_toNat] at here

namespace Instruction

/-- Whether the opcode of an instruction is two hexadecimal digits for an opcode of the machine. -/
def HasEncoding (i : Instruction) : Prop :=
  ∃ code ∈ Arity.table, i.opcode ∈ Text.spellings code

instance (i : Instruction) : Decidable i.HasEncoding :=
  inferInstanceAs (Decidable (∃ code ∈ Arity.table, i.opcode ∈ Text.spellings code))

theorem ofCode_eq_unresolved_iff (i : Instruction) (written : i.code = Text.toByte? i.opcode) :
    Arity.ofCode i.code = .unresolved ↔ ¬ i.HasEncoding := by
  rw [written]
  cases read : Text.toByte? i.opcode with
  | none =>
      refine iff_of_true rfl ?_
      rintro ⟨code, -, spelled⟩
      rw [← Text.toByte?_eq_some_iff, read] at spelled
      cases spelled
  | some code =>
      rw [Arity.ofCode, Arity.ofOpcode_eq_unresolved_iff]
      -- A text is a spelling of one byte only, so the opcode speaks for its own code.
      have own : ∀ other, i.opcode ∈ Text.spellings other ↔ code = other := by
        intro other
        rw [← Text.toByte?_eq_some_iff, read, Option.some.injEq]
      refine not_congr ⟨fun member => ⟨code, member, (own code).mpr rfl⟩, ?_⟩
      rintro ⟨other, member, spelled⟩
      rw [(own other).mp spelled]
      exact member

end Instruction

namespace Catalog

def warning? (c : Catalog) (glyph : Text) (range : Range) : Option Diagnostic :=
  match c.lookup glyph with
  | none => some (.unrecognizedGlyph glyph range)
  | some (.instruction i) =>
    if i.HasEncoding then none else some (.unresolvedEncoding glyph i.opcode range)
  | some _ => none

theorem range_of_warning (c : Catalog) (glyph : Text) (range : Range) (d : Diagnostic)
    (warned : c.warning? glyph range = some d) : d.range = range := by
  unfold warning? at warned
  split at warned
  · cases warned
    rfl
  · split at warned
    · cases warned
    · cases warned
      rfl
  · cases warned

theorem warning?_eq_none_iff (c : Catalog) (glyph : Text) (range : Range) :
    c.warning? glyph range = none ↔
      ∃ d, c.lookup glyph = some d ∧ ∀ i, d = .instruction i → i.HasEncoding := by
  unfold warning?
  cases c.lookup glyph with
  | none => simp
  | some d =>
      cases d with
      | instruction i => simp
      | modifier m => simp
      | augmenter a => simp

/-- A token of a program is reported for what the catalog says about its glyph. -/
theorem problem?_of_mem_tokens (source : Text) (read : Except Text Text) (c : Catalog)
    (loaded : load source read = .ok c) (program : Text) (t : Token)
    (member : t ∈ c.tokens program) : t.problem? = c.warning? t.glyph t.range := by
  have known := c.definition_of_mem_tokens program t member
  unfold Token.problem? warning?
  rw [known]
  cases found : c.lookup t.glyph with
  | none => rfl
  | some d =>
      cases d with
      | instruction i =>
          have written := load_code source read c loaded t.glyph i found
          simp only [i.ofCode_eq_unresolved_iff written, ite_not]
      | modifier m => rfl
      | augmenter a => rfl

theorem start_lt_stop_of_mem_tokens (c : Catalog) (program : Text) (t : Token)
    (member : t ∈ c.tokens program) : t.range.start < t.range.stop := by
  have covered := c.covers_start program t member
  simp only [Range.covers, Bool.and_eq_true, decide_eq_true_eq] at covered
  exact Or.inr ⟨c.single_of_mem_tokens program t member, covered.2⟩

end Catalog

namespace Token

def isInstruction (t : Token) : Bool :=
  t.role == some .instruction

theorem length_encodeFrom (index : Nat) (a : Allocator) (tokens : List Token) :
    (encodeFrom index a tokens).1.length = tokens.countP isInstruction := by
  induction tokens generalizing index a with
  | nil => rfl
  | cons t rest ih =>
      by_cases instruction : t.role = some .instruction
      · obtain ⟨i, defined⟩ := t.instruction_of_role instruction
        rw [encodeFrom_instruction index a t rest i defined,
          List.countP_cons_of_pos (by simp [isInstruction, instruction])]
        simp only [List.length_cons, ih]
      · rw [encodeFrom_other index a t rest instruction,
          List.countP_cons_of_neg (by simp [isInstruction, instruction]), ih]

/-- The line of an instruction stands behind those of the instructions before it. -/
theorem line_of_instruction (index : Nat) (a : Allocator) (front : List Token) (t : Token)
    (back : List Token) (instruction : t.role = some .instruction) :
    ∃ line, (encodeFrom index a (front ++ t :: back)).1[front.countP isInstruction]? = some line ∧
      line.token = (index + front.length : Nat) := by
  obtain ⟨i, defined⟩ := t.instruction_of_role instruction
  have length := length_encodeFrom index a front
  rw [encodeFrom_append]
  simp only
  rw [List.getElem?_append_right (by omega), length, Nat.sub_self,
    encodeFrom_instruction _ _ t back i defined]
  exact ⟨_, rfl, rfl⟩

end Token

namespace Translation

/-- The problems of tokens, read with a cursor that counts the instructions. There is no result if a
line is wanted that is not there. -/
def reported? (lines : List EncodedLine) : Nat → List Token → Option (List Diagnostic)
  | _, [] => some []
  | next, t :: rest =>
    match t.definition with
    | none => (reported? lines next rest).map (.unrecognizedGlyph t.glyph t.range :: ·)
    | some (.instruction i) => do
      let line ← lines[next]?
      let others ← reported? lines (next + 1) rest
      return if line.unresolved then .unresolvedEncoding t.glyph i.opcode t.range :: others
        else others
    | some _ => reported? lines next rest

/-- The cursor finds what stands first among the lines that are left. -/
theorem reported?_eq (lines : List EncodedLine) (next : Nat) (tokens : List Token)
    (enough : next + tokens.countP Token.isInstruction ≤ lines.length) :
    reported? lines next tokens = some (problems tokens (lines.drop next)) := by
  induction tokens generalizing next with
  | nil => rfl
  | cons t rest ih =>
      by_cases instruction : t.role = some .instruction
      · obtain ⟨i, defined⟩ := t.instruction_of_role instruction
        rw [List.countP_cons_of_pos (by simp [Token.isInstruction, instruction])] at enough
        have inside : next < lines.length := by omega
        rw [List.drop_eq_getElem_cons inside, problems_instruction t rest _ _ i defined]
        simp only [reported?, defined, List.getElem?_eq_getElem inside, ih (next + 1) (by omega),
          Option.bind_eq_bind, Option.bind_some, Option.pure_def]
      · rw [List.countP_cons_of_neg (by simp [Token.isInstruction, instruction])] at enough
        have others := ih next enough
        by_cases unknown : t.definition = none
        · rw [problems_unknown t rest _ unknown]
          simp only [reported?, unknown, others, Option.map_some]
        · rw [problems_other t rest _ unknown instruction, ← others, reported?]
          split
          · contradiction
          · rename_i i defined
            exact absurd (t.role_instruction i defined) instruction
          · rfl

end Translation

namespace Translator

variable (tr : Translator) (program : Text)

theorem reported?_translate :
    Translation.reported? (tr.translate program).lines 0 (tr.translate program).tokens =
      some (tr.translate program).diagnostics := by
  have length := Token.length_encodeFrom 0 (.fresh tr.rotation) (tr.catalog.tokens program)
  apply Translation.reported?_eq
  change 0 + (tr.catalog.tokens program).countP Token.isInstruction ≤
    (Token.encodeFrom 0 (.fresh tr.rotation) (tr.catalog.tokens program)).1.length
  omega

theorem diagnostics_eq_warnings (source : Text) (read : Except Text Text)
    (loaded : Catalog.load source read = .ok tr.catalog) :
    (tr.translate program).diagnostics =
      (tr.translate program).tokens.filterMap fun t => tr.catalog.warning? t.glyph t.range := by
  rw [tr.translate_diagnostics]
  exact List.filterMap_congr fun t member =>
    Catalog.problem?_of_mem_tokens source read tr.catalog loaded program t member

theorem hasProblems_eq_false_iff (source : Text) (read : Except Text Text)
    (loaded : Catalog.load source read = .ok tr.catalog) :
    (tr.translate program).hasProblems = false ↔
      ∀ word ∈ Text.words program, ∃ d, tr.catalog.lookup word = some d ∧
        ∀ i, d = .instruction i → i.HasEncoding := by
  rw [tr.hasProblems_eq_false, tr.diagnostics_eq_warnings program source read loaded,
    List.filterMap_eq_nil_iff, ← tr.catalog.tokens_glyphs program, List.forall_mem_map]
  exact forall₂_congr fun t _ => tr.catalog.warning?_eq_none_iff t.glyph t.range

theorem diagnostics_ordered (source : Text) (read : Except Text Text)
    (loaded : Catalog.load source read = .ok tr.catalog) :
    (tr.translate program).diagnostics.Pairwise (fun d e => d.range.stop < e.range.start) ∧
      ∀ d ∈ (tr.translate program).diagnostics, d.range.start < d.range.stop := by
  rw [tr.diagnostics_eq_warnings program source read loaded]
  constructor
  · rw [List.pairwise_filterMap]
    refine (tr.catalog.tokens_pairwise program).imp ?_
    intro t u apart d first e second
    rw [tr.catalog.range_of_warning _ _ d first, tr.catalog.range_of_warning _ _ e second]
    exact apart
  · intro d reported
    obtain ⟨t, member, warned⟩ := List.mem_filterMap.mp reported
    rw [tr.catalog.range_of_warning _ _ d warned]
    exact tr.catalog.start_lt_stop_of_mem_tokens program t member

/-- With any catalog that was loaded, for any registers and any program: the cursor over the lines never
runs past them, and always stands at the line of the instruction at hand. What is reported is, in the
order of the tokens, a warning for each glyph that the catalog does not know and for each instruction
without an encoding, each at the place of its token, and nothing else. So there are no problems
exactly if the catalog knows every word and every instruction has an encoding, and the places of the
diagnostics follow one another. -/
theorem diagnostics_exact (source : Text) (read : Except Text Text)
    (loaded : Catalog.load source read = .ok tr.catalog) :
    let t := tr.translate program
    Translation.reported? t.lines 0 t.tokens = some t.diagnostics ∧
      (∀ front token back, t.tokens = front ++ token :: back → token.role = some .instruction →
        ∃ line, t.lines[front.countP Token.isInstruction]? = some line ∧
          line.token = front.length) ∧
      t.diagnostics =
        t.tokens.filterMap (fun token => tr.catalog.warning? token.glyph token.range) ∧
      (t.hasProblems = false ↔ ∀ word ∈ Text.words program,
        ∃ d, tr.catalog.lookup word = some d ∧ ∀ i, d = .instruction i → i.HasEncoding) ∧
      t.diagnostics.Pairwise (fun d e => d.range.stop < e.range.start) ∧
      ∀ d ∈ t.diagnostics, d.range.start < d.range.stop := by
  intro t
  refine ⟨tr.reported?_translate program, ?_,
    tr.diagnostics_eq_warnings program source read loaded,
    tr.hasProblems_eq_false_iff program source read loaded,
    tr.diagnostics_ordered program source read loaded⟩
  intro front token back split instruction
  have found := Token.line_of_instruction 0 (.fresh tr.rotation) front token back instruction
  rw [← split, Nat.zero_add] at found
  exact found

/-- A catalog with an opcode of the machine, one that is none, one that is no byte, and a modifier. -/
def patchyDocument : Text :=
  utf8 ("\x7b\"glyph_to_opcode\":\x7b\"p\":\x7b\"name\":\"P\",\"opcode\":\"15\"\x7d," ++
    "\"q\":\x7b\"name\":\"Q\",\"opcode\":\"99\"\x7d," ++
    "\"r\":\x7b\"name\":\"R\",\"opcode\":\"1\"\x7d\x7d," ++
    "\"modifiers\":\x7b\"m\":\x7b\"name\":\"M\"\x7d,\"q\":\x7b\"name\":\"Q\"\x7d\x7d," ++
    "\"psychic_augmenters\":\x7b\x7d\x7d")

/-- Of its words, the ones without an encoding and the one that is not in it are reported. -/
theorem diagnostics_patchy :
    ∃ tr : Translator, Catalog.load (utf8 "patchy") (.ok patchyDocument) = .ok tr.catalog ∧
      (tr.translate (utf8 "p q x\nm r p")).diagnostics =
        [.unresolvedEncoding (utf8 "q") (utf8 "99") ⟨⟨0, 2⟩, ⟨0, 3⟩⟩,
          .unrecognizedGlyph (utf8 "x") ⟨⟨0, 4⟩, ⟨0, 5⟩⟩,
          .unresolvedEncoding (utf8 "r") (utf8 "1") ⟨⟨1, 2⟩, ⟨1, 3⟩⟩] := by
  have evaluated : (Catalog.load (utf8 "patchy") (.ok patchyDocument)).toOption.any (fun c =>
      decide (((c.tokens (utf8 "p q x\nm r p")).filterMap fun t => c.warning? t.glyph t.range) =
        [.unresolvedEncoding (utf8 "q") (utf8 "99") ⟨⟨0, 2⟩, ⟨0, 3⟩⟩,
          .unrecognizedGlyph (utf8 "x") ⟨⟨0, 4⟩, ⟨0, 5⟩⟩,
          .unresolvedEncoding (utf8 "r") (utf8 "1") ⟨⟨1, 2⟩, ⟨1, 3⟩⟩])) = true := by
    decide +kernel
  cases loaded : Catalog.load (utf8 "patchy") (.ok patchyDocument) with
  | error fault =>
      rw [loaded] at evaluated
      cases evaluated
  | ok c =>
      rw [loaded] at evaluated
      refine ⟨⟨c, .standard⟩, rfl, ?_⟩
      obtain ⟨-, -, warnings, -⟩ :=
        diagnostics_exact ⟨c, .standard⟩ (utf8 "p q x\nm r p") _ _ loaded
      exact warnings.trans (of_decide_eq_true evaluated)

end Translator
end Hexaglyph
