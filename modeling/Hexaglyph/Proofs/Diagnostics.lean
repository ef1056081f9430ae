import Hexaglyph.Program.Translation
import Hexaglyph.Proofs.Encoding
set_option autoImplicit false

/-! The problems of a program, one token at a time: a token has at most one, and it depends on no
other token. -/
namespace Hexaglyph

def Token.problem? (t : Token) : Option Diagnostic :=
  match t.definition with
  | none => some (.unrecognizedGlyph t.glyph t.range)
  | some (.instruction i) =>
    if Arity.ofCode i.code = .unresolved then some (.unresolvedEncoding t.glyph i.opcode t.range)
    else none
  | _ => none

theorem Token.problem?_other (t : Token) (known : t.definition ≠ none)
    (other : t.role ≠ some .instruction) : t.problem? = none := by
  unfold problem?
  split
  · contradiction
  · rename_i i defined
    exact absurd (t.role_instruction i defined) other
  · rfl

namespace Translation

theorem problems_unknown (t : Token) (rest : List Token) (lines : List EncodedLine)
    (unknown : t.definition = none) :
    problems (t :: rest) lines = .unrecognizedGlyph t.glyph t.range :: problems rest lines := by
  simp only [problems, unknown]

theorem problems_instruction (t : Token) (rest : List Token) (line : EncodedLine)
    (lines : List EncodedLine) (i : Instruction) (defined : t.definition = some (.instruction i)) :
    problems (t :: rest) (line :: lines) =
      if line.unresolved then
        .unresolvedEncoding t.glyph i.opcode t.range :: problems rest lines
      else problems rest lines := by
  simp only [problems, defined]

theorem problems_other (t : Token) (rest : List Token) (lines : List EncodedLine)
    (known : t.definition ≠ none) (other : t.role ≠ some .instruction) :
    problems (t :: rest) lines = problems rest lines := by
  rw [problems.eq_def]
  split
  · contradiction
  · rename_i same
    cases same
    split
    · contradiction
    · rename_i i line rest defined
      exact absurd (t.role_instruction i defined) other
    · rfl

/-- The reader of the lines is always at the line of the instruction at hand, so it reports for every
token what the token alone gives reason for. -/
theorem problems_encodeFrom (index : Nat) (a : Allocator) (tokens : List Token) :
    problems tokens (Token.encodeFrom index a tokens).1 = tokens.filterMap Token.problem? := by
  induction tokens generalizing index a with
  | nil => rfl
  | cons t rest ih =>
      by_cases instruction : t.role = some .instruction
      · obtain ⟨i, defined⟩ := t.instruction_of_role instruction
        have flag : (EncodedLine.encode a index t i).1.unresolved = true ↔
            Arity.ofCode i.code = .unresolved := beq_iff_eq
        rw [Token.encodeFrom_instruction index a t rest i defined,
          problems_instruction t rest _ _ i defined, ih]
        by_cases unresolved : Arity.ofCode i.code = .unresolved
        · have problem : t.problem? = some (.unresolvedEncoding t.glyph i.opcode t.range) := by
            simp only [Token.problem?, defined, if_pos unresolved]
          rw [if_pos (flag.mpr unresolved), List.filterMap_cons_some problem]
        · have problem : t.problem? = none := by
            simp only [Token.problem?, defined, if_neg unresolved]
          rw [if_neg (fun set => unresolved (flag.mp set)), List.filterMap_cons_none problem]
      · rw [Token.encodeFrom_other index a t rest instruction]
        by_cases unknown : t.definition = none
        · have problem : t.problem? = some (.unrecognizedGlyph t.glyph t.range) := by
            simp only [Token.problem?, unknown]
          rw [problems_unknown t rest _ unknown, List.filterMap_cons_some problem, ih]
        · have problem : t.problem? = none := t.problem?_other unknown instruction
          rw [problems_other t rest _ unknown instruction, List.filterMap_cons_none problem, ih]

end Translation

/-- The problems of a translation are those of its tokens. -/
theorem Translator.translate_diagnostics (tr : Translator) (program : Text) :
    (tr.translate program).diagnostics = (tr.catalog.tokens program).filterMap Token.problem? :=
  Translation.problems_encodeFrom 0 _ _

theorem Token.isProblem_problem? (t : Token) (d : Diagnostic) (problem : t.problem? = some d) :
    d.isProblem = true := by
  rw [Token.problem?] at problem
  split at problem
  · cases problem
    rfl
  · split at problem
    · cases problem
      rfl
    · cases problem
  · cases problem

/-- Whatever is reported of a translation is a problem. -/
theorem Translator.hasProblems_eq_false (tr : Translator) (program : Text) :
    (tr.translate program).hasProblems = false ↔ (tr.translate program).diagnostics = [] := by
  have warning : ∀ d ∈ (tr.translate program).diagnostics, d.isProblem = true := by
    intro d member
    rw [tr.translate_diagnostics, List.mem_filterMap] at member
    obtain ⟨t, _, problem⟩ := member
    exact t.isProblem_problem? d problem
  rw [Translation.hasProblems, List.any_eq_false]
  constructor
  · intro quiet
    exact List.eq_nil_iff_forall_not_mem.mpr fun d member => quiet d member (warning d member)
  · intro empty d member
    rw [empty] at member
    cases member

end Hexaglyph
