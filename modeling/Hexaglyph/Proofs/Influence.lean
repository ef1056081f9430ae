import Hexaglyph.Catalog.Builtin
import Hexaglyph.Proofs.Spacing
import Hexaglyph.Proofs.Warnings
import Mathlib.Data.List.Forall2
import Mathlib.Logic.Relation
set_option autoImplicit false

/-! What a listing depends on. Only the instructions of a program have lines, and all other words and
all blanks around them can come and go: no register moves because of them. -/
namespace Hexaglyph

namespace EncodedLine

def unplaced (l : EncodedLine) : EncodedLine :=
  { l with token := 0, range := .zero }

/-- Lines that encode the same in the same way, and may stand in different places. -/
structure SameCode (a b : EncodedLine) : Prop where
  glyph : a.glyph = b.glyph
  opcode : a.opcode = b.opcode
  arity : a.arity = b.arity
  bytes : a.bytes = b.bytes
  unresolved : a.unresolved = b.unresolved
  hex : a.hex = b.hex

theorem sameCode_of_unplaced (a b : EncodedLine) (same : a.unplaced = b.unplaced) :
    SameCode a b := by
  have kept {α : Type} (part : EncodedLine → α) : part a.unplaced = part b.unplaced :=
    congrArg part same
  exact ⟨kept glyph, kept opcode, kept arity, kept bytes, kept unresolved, kept hex⟩

theorem forall₂_sameCode (first second : List EncodedLine)
    (same : first.map unplaced = second.map unplaced) : List.Forall₂ SameCode first second := by
  rw [← List.forall₂_eq_eq_eq, List.forall₂_map_left_iff, List.forall₂_map_right_iff] at same
  exact same.imp sameCode_of_unplaced

end EncodedLine

namespace Token

/-- A run of the encoder over all tokens goes through the same registers as one over the instructions
among them. -/
theorem encodeFrom_filter (index other : Nat) (a : Allocator) (tokens : List Token) :
    (encodeFrom index a tokens).1.map EncodedLine.unplaced =
      (encodeFrom other a (tokens.filter isInstruction)).1.map EncodedLine.unplaced := by
  induction tokens generalizing index other a with
  | nil => rfl
  | cons t rest ih =>
      by_cases instruction : t.role = some .instruction
      · obtain ⟨i, defined⟩ := t.instruction_of_role instruction
        have line : (EncodedLine.encode a index t i).1.unplaced =
            (EncodedLine.encode a other t i).1.unplaced := rfl
        have allocator : (EncodedLine.encode a index t i).2 = (EncodedLine.encode a other t i).2 := rfl
        rw [List.filter_cons_of_pos (by simp [isInstruction, instruction]),
          encodeFrom_instruction index a t rest i defined, encodeFrom_instruction other a t _ i defined]
        simp only [List.map_cons, line, allocator]
        rw [ih (index + 1) (other + 1)]
      · rw [List.filter_cons_of_neg (by simp [isInstruction, instruction]),
          encodeFrom_other index a t rest instruction]
        exact ih (index + 1) other a

theorem encodeFrom_unplaced (move : Range → Range) (index : Nat) (a : Allocator)
    (tokens : List Token) :
    (encodeFrom index a (tokens.map (·.moved move))).1.map EncodedLine.unplaced =
      (encodeFrom index a tokens).1.map EncodedLine.unplaced := by
  have elsewhere := encodeFrom_moved move index a tokens 0
  rw [Nat.add_zero] at elsewhere
  rw [elsewhere, List.map_map]
  rfl

end Token

namespace Catalog

variable (c : Catalog)

def isInstruction (word : Text) : Bool :=
  (c.lookup word).map Definition.role == some .instruction

def instructionWords (program : Text) : List Text :=
  (Text.words program).filter c.isInstruction

/-- A text is put into a program between its words, and has words of its own that are no
instructions, or none at all. -/
inductive Insertion : Text → Text → Prop
  | between (front text back : Text) (place : Text.Seam front back)
      (left : Text.Seam front (text ++ back)) (right : Text.Seam text back)
      (idle : c.instructionWords text = []) : Insertion (front ++ back) (front ++ (text ++ back))

theorem instructionWords_append {a b : Text} (seam : Text.Seam a b) :
    c.instructionWords (a ++ b) = c.instructionWords a ++ c.instructionWords b := by
  rw [instructionWords, seam.words_append, List.filter_append]
  rfl

theorem Insertion.instructionWords_eq {a b : Text} (insertion : c.Insertion a b) :
    c.instructionWords b = c.instructionWords a := by
  cases insertion with
  | between front text back place left right idle =>
      rw [c.instructionWords_append left, c.instructionWords_append right, idle, List.nil_append,
        c.instructionWords_append place]

/-- However much is inserted and deleted, the instructions stay. -/
theorem instructionWords_of_edits {a b : Text} (edits : Relation.EqvGen c.Insertion a b) :
    c.instructionWords b = c.instructionWords a := by
  induction edits with
  | rel a b insertion => exact insertion.instructionWords_eq
  | refl a => rfl
  | symm a b _ ih => exact ih.symm
  | trans a b d _ _ first second => exact second.trans first

/-- The instructions alone, with single spaces between them, are a program with these words. -/
theorem words_join_instructionWords (program : Text) :
    Text.words (Text.join [Text.space] (c.instructionWords program)) =
      c.instructionWords program := by
  apply Text.words_join
  intro w member
  exact Text.isGlyph_of_mem_words program w (List.mem_of_mem_filter member)

theorem instructionWords_join (program : Text) :
    c.instructionWords (Text.join [Text.space] (c.instructionWords program)) =
      c.instructionWords program := by
  rw [instructionWords, words_join_instructionWords]
  apply List.filter_eq_self.mpr
  intro w member
  exact (List.mem_filter.mp member).2

/-- Without their places, the tokens that have lines are the instructions of the program. -/
theorem tokens_instructions (program : Text) :
    ((c.tokens program).filter Token.isInstruction).map (·.moved fun _ => .zero) =
      (c.instructionWords program).map fun w => ⟨w, .zero, c.lookup w⟩ := by
  have known : ∀ t ∈ c.tokens program, t.isInstruction = c.isInstruction t.glyph := by
    intro t member
    rw [Token.isInstruction, Token.role, c.definition_of_mem_tokens program t member]
    rfl
  have filtered : (c.tokens program).filter Token.isInstruction =
      (c.tokens program).filter (c.isInstruction ∘ Token.glyph) := by
    apply List.filter_congr
    exact known
  rw [instructionWords, ← c.tokens_glyphs program, List.filter_map, List.map_map, filtered]
  apply List.map_congr_left
  intro t kept
  have member := List.mem_of_mem_filter kept
  rw [Function.comp_apply, ← c.definition_of_mem_tokens program t member]
  rfl

end Catalog

namespace Translator

variable (tr : Translator)

/-- The lines that glyphs have one after another, without places. -/
def encoding (glyphs : List Text) : List EncodedLine :=
  let tokens : List Token := glyphs.map fun g => ⟨g, .zero, tr.catalog.lookup g⟩
  (encodeTokens (.fresh tr.rotation) tokens).1.map EncodedLine.unplaced

/-- The lines of a program are those of its instructions. -/
theorem unplaced_lines (program : Text) :
    (tr.translate program).lines.map EncodedLine.unplaced =
      tr.encoding (tr.catalog.instructionWords program) := by
  have instructions := Token.encodeFrom_filter 0 0 (.fresh tr.rotation) (tr.catalog.tokens program)
  have places := Token.encodeFrom_unplaced (fun _ => .zero) 0 (.fresh tr.rotation)
    ((tr.catalog.tokens program).filter Token.isInstruction)
  rw [encoding, ← tr.catalog.tokens_instructions program]
  exact instructions.trans places.symm

theorem listing_unplaced (t : Translation) (comments : Bool) :
    t.listing comments = (t.lines.map EncodedLine.unplaced).flatMap (·.listed comments) := by
  rw [List.flatMap_map]
  rfl

/-- A listing depends on nothing but the instructions. Each line of a program is encoded as it is where
the instructions stand alone with single spaces between them; and when blanks, modifiers, augmenters
and unknown words are inserted and deleted anywhere between the words, no byte of the listing
changes. -/
theorem instructions_alone_encoded (program : Text) :
    let alone := Text.join [Text.space] (tr.catalog.instructionWords program)
    (tr.translate alone).lines.length = (tr.translate program).lines.length ∧
      List.Forall₂ EncodedLine.SameCode (tr.translate program).lines (tr.translate alone).lines ∧
      ∀ other, Relation.EqvGen tr.catalog.Insertion program other →
        List.Forall₂ EncodedLine.SameCode (tr.translate program).lines (tr.translate other).lines ∧
        ∀ comments, (tr.translate other).listing comments =
          (tr.translate program).listing comments := by
  intro alone
  have lines : ∀ other, tr.catalog.instructionWords other = tr.catalog.instructionWords program →
      (tr.translate program).lines.map EncodedLine.unplaced =
        (tr.translate other).lines.map EncodedLine.unplaced := by
    intro other same
    rw [tr.unplaced_lines program, tr.unplaced_lines other, same]
  have first := EncodedLine.forall₂_sameCode _ _
    (lines alone (tr.catalog.instructionWords_join program))
  refine ⟨first.length_eq.symm, first, ?_⟩
  intro other edits
  have same := lines other (tr.catalog.instructionWords_of_edits edits)
  refine ⟨EncodedLine.forall₂_sameCode _ _ same, ?_⟩
  intro comments
  rw [listing_unplaced, listing_unplaced, same]

/-- A modifier and an unknown word between two instructions do not show in their listing. -/
theorem listing_embellished :
    let tr : Translator := ⟨.builtin, .standard⟩
    let plain := utf8 "口⿰ 血⿻"
    let rich := utf8 "口⿰ ⺀ what 血⿻"
    tr.catalog.Insertion plain rich ∧
      (tr.translate rich).listing true = (tr.translate plain).listing true := by
  intro tr plain rich
  have insertion : tr.catalog.Insertion (utf8 "口⿰ " ++ utf8 "血⿻")
      (utf8 "口⿰ " ++ (utf8 "⺀ what " ++ utf8 "血⿻")) := by
    have first : utf8 "口⿰ " = utf8 "口⿰" ++ String.utf8EncodeChar ' ' := by decide +kernel
    have second : utf8 "⺀ what " = utf8 "⺀ what" ++ String.utf8EncodeChar ' ' := by decide +kernel
    apply Catalog.Insertion.between
    · rw [first]
      exact .behind _ ' ' _ (by decide)
    · rw [first]
      exact .behind _ ' ' _ (by decide)
    · rw [second]
      exact .behind _ ' ' _ (by decide)
    · decide +kernel
  have whole : utf8 "口⿰ " ++ utf8 "血⿻" = plain := by decide +kernel
  have longer : utf8 "口⿰ " ++ (utf8 "⺀ what " ++ utf8 "血⿻") = rich := by decide +kernel
  rw [whole, longer] at insertion
  have kept := (tr.instructions_alone_encoded plain).2.2 rich (.rel _ _ insertion)
  exact ⟨insertion, kept.2 true⟩

end Translator
end Hexaglyph
