import Hexaglyph.Proofs.Letters
import Hexaglyph.Proofs.OwnListing
set_option autoImplicit false

/-! Grading without regard to case. A catalog with small letters in its opcodes makes the same lines but
for those letters, and has problems in the same places; listings that are expected may have letters of
either case as well. So catalogs and assignments that are the same with small letters give the same
grades. -/
namespace Hexaglyph

/-- An instruction with small letters in its opcode, and the code that this stands for. -/
def Instruction.lowered (i : Instruction) : Instruction :=
  Instruction.resolved { i with opcode := Text.lowered i.opcode }

theorem Instruction.code_lowered (i : Instruction) (code : i.code = Text.toByte? i.opcode) :
    i.lowered.code = i.code := by
  rw [code]
  exact Text.toByte?_lowered i.opcode

def Definition.lowered : Definition → Definition
  | .instruction i => .instruction i.lowered
  | .modifier m => .modifier m
  | .augmenter a => .augmenter a

theorem Definition.role_lowered (d : Definition) : d.lowered.role = d.role := by
  cases d <;> rfl

namespace EncodedLine

def lowered (l : EncodedLine) : EncodedLine :=
  { l with opcode := Text.lowered l.opcode }

theorem sameLetters_hex (l : EncodedLine) : Text.SameLetters l.lowered.hex l.hex := by
  rw [Text.SameLetters, hex_eq, hex_eq, Text.lowered_append, Text.lowered_append]
  have endings : l.lowered.ending = l.ending := by
    rw [ending, lowered, Text.isEmpty_lowered, ending]
  rw [endings, lowered, Text.lowered_lowered]

end EncodedLine

namespace Token

def lowered (t : Token) : Token :=
  { t with definition := t.definition.map Definition.lowered }

theorem role_lowered (t : Token) : t.lowered.role = t.role := by
  rw [role, lowered, Option.map_map, role]
  congr 1
  funext d
  exact d.role_lowered

/-- Whether the code of an instruction is what its opcode says. -/
def Coherent (t : Token) : Prop :=
  ∀ i, t.definition = some (.instruction i) → i.code = Text.toByte? i.opcode

theorem encodeFrom_lowered (tokens : List Token) (coherent : ∀ t ∈ tokens, t.Coherent) (index : Nat)
    (a : Allocator) :
    encodeFrom index a (tokens.map lowered) =
      ((encodeFrom index a tokens).1.map EncodedLine.lowered, (encodeFrom index a tokens).2) := by
  apply encodeFrom_map lowered EncodedLine.lowered 0
  · intro t _
    exact t.role_lowered
  · intro t member i defined
    have code := i.code_lowered (coherent t member i defined)
    refine ⟨i.lowered, ?_, ?_⟩
    · rw [lowered, defined]
      rfl
    · intro a index
      simp only [EncodedLine.encode, EncodedLine.lowered, code]
      rfl

/-- A problem may name the opcode, but where it is does not depend on that. -/
theorem range_problem?_lowered (t : Token) (coherent : t.Coherent) :
    t.lowered.problem?.map Diagnostic.range = t.problem?.map Diagnostic.range := by
  cases known : t.definition with
  | none => simp [problem?, lowered, known, Diagnostic.unrecognizedGlyph]
  | some d =>
      cases d with
      | instruction i =>
          have code := i.code_lowered (coherent i known)
          simp only [problem?, lowered, known, Option.map_some, Definition.lowered, code]
          split <;> rfl
      | modifier m => simp [problem?, lowered, known, Definition.lowered]
      | augmenter a => simp [problem?, lowered, known, Definition.lowered]

end Token

namespace Catalog

def lowered (c : Catalog) : Catalog :=
  { c with instructions := c.instructions.map Instruction.lowered }

/-- Whether catalogs differ in nothing but the case of ASCII letters in their opcodes. -/
structure SameButCase (c e : Catalog) : Prop where
  instructions : ∀ glyph, (c.instructions.get? glyph).map Instruction.lowered =
    (e.instructions.get? glyph).map Instruction.lowered
  modifiers : ∀ glyph, c.modifiers.get? glyph = e.modifiers.get? glyph
  augmenters : ∀ glyph, c.augmenters.get? glyph = e.augmenters.get? glyph

theorem lookup_lowered (c : Catalog) (glyph : Text) :
    c.lowered.lookup glyph = (c.lookup glyph).map Definition.lowered := by
  simp only [lookup, lowered, Mapping.get?_map]
  cases c.instructions.get? glyph with
  | some i => rfl
  | none =>
      cases c.modifiers.get? glyph with
      | some m => rfl
      | none => cases c.augmenters.get? glyph <;> rfl

theorem tokens_lowered (c : Catalog) (program : Text) :
    c.lowered.tokens program = (c.tokens program).map Token.lowered := by
  rw [tokens, tokens, List.map_map]
  apply List.map_congr_left
  intro w _
  simp only [token, lookup_lowered, Function.comp_apply, Token.lowered]

theorem SameButCase.tokens_eq {c e : Catalog} (same : c.SameButCase e) (program : Text) :
    c.lowered.tokens program = e.lowered.tokens program := by
  have lookup (glyph : Text) : c.lowered.lookup glyph = e.lowered.lookup glyph := by
    simp only [Catalog.lookup, lowered, Mapping.get?_map, same.instructions glyph,
      same.modifiers glyph, same.augmenters glyph]
  rw [tokens, tokens]
  apply List.map_congr_left
  intro w _
  simp only [token, lookup]

theorem coherent_of_mem_tokens (source : Text) (read : Except Text Text) (c : Catalog)
    (loaded : load source read = .ok c) (program : Text) : ∀ t ∈ c.tokens program, t.Coherent := by
  intro t member i defined
  rw [c.definition_of_mem_tokens program t member] at defined
  exact load_code source read c loaded t.glyph i defined

end Catalog

namespace Translator

section Lowered

variable (source : Text) (read : Except Text Text) (c : Catalog)
  (loaded : Catalog.load source read = .ok c) (rotation : Rotation) (program : Text)

include loaded

theorem lines_lowered : ((Translator.mk c.lowered rotation).translate program).lines =
    ((Translator.mk c rotation).translate program).lines.map EncodedLine.lowered := by
  have coherent := c.coherent_of_mem_tokens source read loaded program
  simp only [translate, encodeTokens, c.tokens_lowered, Token.encodeFrom_lowered _ coherent]

theorem ranges_lowered :
    ((Translator.mk c.lowered rotation).translate program).diagnostics.map Diagnostic.range =
      ((Translator.mk c rotation).translate program).diagnostics.map Diagnostic.range := by
  have coherent := c.coherent_of_mem_tokens source read loaded program
  rw [translate_diagnostics, translate_diagnostics, List.map_filterMap, List.map_filterMap,
    c.tokens_lowered, List.filterMap_map]
  apply List.filterMap_congr
  intro t member
  exact t.range_problem?_lowered (coherent t member)

theorem folded_hexLines_lowered :
    ((Translator.mk c.lowered rotation).translate program).hexLines.map Text.folded =
      ((Translator.mk c rotation).translate program).hexLines.map Text.folded := by
  rw [Translation.hexLines, Translation.hexLines, lines_lowered source read c loaded, List.map_map,
    List.map_map, List.map_map]
  apply List.map_congr_left
  intro line _
  exact line.sameLetters_hex.congr Text.folded Text.folded_lowered

end Lowered

theorem translate_of_sameButCase {c e : Catalog} (same : c.SameButCase e) (rotation : Rotation)
    (program : Text) : (Translator.mk c.lowered rotation).translate program =
      (Translator.mk e.lowered rotation).translate program := by
  simp only [translate, same.tokens_eq]

end Translator

def GradedTest.unprinted (t : GradedTest) : GradedTest :=
  { t with output := [] }

def TestCase.lowered (c : TestCase) : TestCase :=
  { c with expected := c.expected.map Text.lowered }

def Assignment.lowered (a : Assignment) : Assignment :=
  { a with testCases := a.testCases.map TestCase.lowered }

/-- Whether assignments differ in nothing but the case of ASCII letters in lines that are expected. -/
def Assignment.SameButCase (a b : Assignment) : Prop :=
  a.lowered = b.lowered

namespace Grading

theorem expectedLines_lowered (c : TestCase) : expectedLines c.lowered = expectedLines c := by
  have each : (fun line => Listing.parse (Text.lowered line)) = Listing.parse :=
    funext Listing.parse_lowered
  rw [expectedLines, expectedLines, Listing.parse_join, Listing.parse_join, TestCase.lowered,
    List.flatMap_map, each]

/-- Of expected lines the case does not matter for anything. -/
theorem grade_lowered (tr : Translator) (fs : FileSystem) (a : Assignment) :
    grade tr fs a.lowered = grade tr fs a := by
  have each (c : TestCase) (read : Except FileError Text) :
      gradeCase tr c.lowered read = gradeCase tr c read := by
    cases read with
    | ok program =>
        simp only [gradeCase, translated, expectedLines_lowered]
        rfl
    | error cause => rfl
  have results : (a.lowered.testCases.map fun c =>
      gradeCase tr c (fs.read (a.lowered.programPath c))) =
        a.testCases.map fun c => gradeCase tr c (fs.read (a.programPath c)) := by
    rw [Assignment.lowered, List.map_map]
    apply List.map_congr_left
    intro c _
    exact each c _
  rw [grade, grade, results]
  rfl

theorem sameLines_iff (expected got : List Text) :
    SameLines expected got ↔ expected.map Text.folded = got.map Text.folded := by
  rw [← List.forall₂_eq_eq_eq, List.forall₂_map_left_iff, List.forall₂_map_right_iff, SameLines]
  simp only [Text.sameFolded, beq_iff_eq]

/-- The verdict on a translation is all that its lines are compared for. -/
theorem unprinted_translated (c : TestCase) (t : Translation) :
    (translated c t).entry.unprinted =
      { (GradedTest.create c.title c.points c.visibility).judge
          (compare (expectedLines c) t.hexLines).2 with
        score := if (compare (expectedLines c) t.hexLines).2 then c.points else 0 } := by
  rw [entry_translated, GradedTest.printAll_eq]
  rfl

theorem passed_of_folded (expected got other : List Text)
    (folded : got.map Text.folded = other.map Text.folded) :
    (compare expected got).2 = (compare expected other).2 := by
  rw [Bool.eq_iff_iff, compare_passed, compare_passed, sameLines_iff, sameLines_iff, folded]

section Lowered

variable (source : Text) (read : Except Text Text) (c : Catalog)
  (loaded : Catalog.load source read = .ok c) (rotation : Rotation)

include loaded

theorem unprinted_gradeCase_lowered (test : TestCase) (file : Except FileError Text) :
    (gradeCase ⟨c.lowered, rotation⟩ test file).entry.unprinted =
      (gradeCase ⟨c, rotation⟩ test file).entry.unprinted := by
  cases file with
  | error cause => rfl
  | ok program =>
      have verdict := passed_of_folded (expectedLines test) _ _
        (Translator.folded_hexLines_lowered source read c loaded rotation program)
      rw [gradeCase, gradeCase, unprinted_translated, unprinted_translated, verdict]

theorem clean_gradeCase_lowered (test : TestCase) (file : Except FileError Text) :
    (gradeCase ⟨c.lowered, rotation⟩ test file).clean = (gradeCase ⟨c, rotation⟩ test file).clean := by
  have ranges := Translator.ranges_lowered source read c loaded rotation
  rw [Bool.eq_iff_iff, clean_gradeCase, clean_gradeCase, Clean, Clean]
  simp only [← List.map_eq_nil_iff (f := Diagnostic.range), ranges]

theorem unprinted_grade_lowered (fs : FileSystem) (a : Assignment) :
    (grade ⟨c.lowered, rotation⟩ fs a).tests.map GradedTest.unprinted =
      (grade ⟨c, rotation⟩ fs a).tests.map GradedTest.unprinted := by
  simp only [tests_grade, List.map_append, List.map_map, Function.comp_def,
    unprinted_gradeCase_lowered source read c loaded, clean_gradeCase_lowered source read c loaded]

end Lowered

theorem score_of_unprinted (tr other : Translator) (fs : FileSystem) (a : Assignment)
    (same : (grade tr fs a).tests.map GradedTest.unprinted =
      (grade other fs a).tests.map GradedTest.unprinted) :
    (grade tr fs a).score = (grade other fs a).score := by
  have scores (tests : List GradedTest) :
      tests.map GradedTest.score = (tests.map GradedTest.unprinted).map GradedTest.score := by
    rw [List.map_map]
    rfl
  rw [balanced_grade tr fs a, balanced_grade other fs a, scores, same, ← scores]

/-- With catalogs and assignments that differ in the case of letters alone, all tests come out the same
but for what is printed, and so does the score. The translations of a program have lines of the same
classes and bytes, resolved or not in the same places, and problems in the same places. -/
theorem grade_ignores_case (source otherSource : Text) (read otherRead : Except Text Text)
    (c e : Catalog) (loaded : Catalog.load source read = .ok c)
    (otherLoaded : Catalog.load otherSource otherRead = .ok e) (catalogs : c.SameButCase e)
    (a b : Assignment) (assignments : a.SameButCase b) (rotation : Rotation) (fs : FileSystem) :
    let first := Translator.mk c rotation
    let second := Translator.mk e rotation
    (grade first fs a).tests.map GradedTest.unprinted =
      (grade second fs b).tests.map GradedTest.unprinted ∧
    (grade first fs a).score = (grade second fs b).score ∧
    ∀ program,
      List.Forall₂ (fun l m => l.arity = m.arity ∧ l.bytes = m.bytes ∧ l.unresolved = m.unresolved)
        (first.translate program).lines (second.translate program).lines ∧
      (first.translate program).diagnostics.map Diagnostic.range =
        (second.translate program).diagnostics.map Diagnostic.range := by
  intro first second
  -- Both catalogs are compared with what they are with small letters, where they are the same.
  have between := Translator.translate_of_sameButCase catalogs rotation
  have graded : grade ⟨c.lowered, rotation⟩ fs a = grade ⟨e.lowered, rotation⟩ fs a := by
    have each (test : TestCase) (file : Except FileError Text) :
        gradeCase ⟨c.lowered, rotation⟩ test file = gradeCase ⟨e.lowered, rotation⟩ test file := by
      cases file with
      | ok program => rw [gradeCase, gradeCase, between]
      | error cause => rfl
    simp only [grade, each]
  have expected : grade second fs b = grade second fs a := by
    rw [← grade_lowered second fs b, ← assignments, grade_lowered]
  have tests : (grade first fs a).tests.map GradedTest.unprinted =
      (grade second fs a).tests.map GradedTest.unprinted := by
    rw [← unprinted_grade_lowered source read c loaded, graded,
      unprinted_grade_lowered otherSource otherRead e otherLoaded]
  rw [expected]
  refine ⟨tests, score_of_unprinted first second fs a tests, ?_⟩
  intro program
  have lines : (first.translate program).lines.map EncodedLine.lowered =
      (second.translate program).lines.map EncodedLine.lowered := by
    rw [← Translator.lines_lowered source read c loaded, between,
      Translator.lines_lowered otherSource otherRead e otherLoaded]
  constructor
  · rw [← List.forall₂_eq_eq_eq, List.forall₂_map_left_iff, List.forall₂_map_right_iff] at lines
    apply lines.imp
    intro l m same
    have kept {α : Type} (part : EncodedLine → α) : part l.lowered = part m.lowered :=
      congrArg part same
    exact ⟨kept EncodedLine.arity, kept EncodedLine.bytes, kept EncodedLine.unresolved⟩
  · rw [← Translator.ranges_lowered source read c loaded, between,
      Translator.ranges_lowered otherSource otherRead e otherLoaded]

/-- The plain catalog with a capital letter in an opcode that is no digits. -/
def loudDocument : Text :=
  utf8 ("\x7b\"glyph_to_opcode\":\x7b\"p\":\x7b\"name\":\"P\",\"opcode\":\"02\"\x7d," ++
    "\"q\":\x7b\"name\":\"Q\",\"opcode\":\"\"\x7d," ++
    "\"r\":\x7b\"name\":\"R\",\"opcode\":\"Zz !\"\x7d\x7d," ++
    "\"modifiers\":\x7b\x7d,\"psychic_augmenters\":\x7b\x7d\x7d")

def loudAssignment : Assignment :=
  { annotatedAssignment with
    testCases := [{ annotatedCase with
      expected := [utf8 "# BY HAND", utf8 "020001  # P", utf8 "\t", utf8 "??  # Q",
        utf8 "zZ !??  # r"] }] }

/-- The lines and what is expected of them differ in case, and neither shows in the grade. -/
theorem grade_loudAssignment :
    ∃ c e, Catalog.load (utf8 "plain") (.ok plainDocument) = .ok c ∧
      Catalog.load (utf8 "loud") (.ok loudDocument) = .ok e ∧
      c.SameButCase e ∧ annotatedAssignment.SameButCase loudAssignment ∧
      ((Translator.mk c .standard).translate (utf8 "p q x r")).hexLines =
        [utf8 "020001", utf8 "??", utf8 "zz !??"] ∧
      ((Translator.mk e .standard).translate (utf8 "p q x r")).hexLines =
        [utf8 "020001", utf8 "??", utf8 "Zz !??"] ∧
      (grade ⟨c, .standard⟩ plainFiles annotatedAssignment).tests.map GradedTest.unprinted =
        (grade ⟨e, .standard⟩ plainFiles loudAssignment).tests.map GradedTest.unprinted ∧
      (grade ⟨c, .standard⟩ plainFiles annotatedAssignment).score =
        (grade ⟨e, .standard⟩ plainFiles loudAssignment).score := by
  have evaluated : (Catalog.load (utf8 "plain") (.ok plainDocument)).toOption.any (fun c =>
      (Catalog.load (utf8 "loud") (.ok loudDocument)).toOption.any fun e =>
        decide ((c.lowered.instructions.entries = e.lowered.instructions.entries ∧
            c.modifiers.entries = e.modifiers.entries ∧ c.augmenters.entries = e.augmenters.entries) ∧
          ((Translator.mk c .standard).translate (utf8 "p q x r")).hexLines =
            [utf8 "020001", utf8 "??", utf8 "zz !??"] ∧
          ((Translator.mk e .standard).translate (utf8 "p q x r")).hexLines =
            [utf8 "020001", utf8 "??", utf8 "Zz !??"])) = true := by
    decide +kernel
  have assignments : annotatedAssignment.lowered = loudAssignment.lowered := by decide +kernel
  cases loaded : Catalog.load (utf8 "plain") (.ok plainDocument) with
  | error fault =>
      rw [loaded] at evaluated
      cases evaluated
  | ok c =>
      cases otherLoaded : Catalog.load (utf8 "loud") (.ok loudDocument) with
      | error fault =>
          rw [loaded, otherLoaded] at evaluated
          cases evaluated
      | ok e =>
          rw [loaded, otherLoaded] at evaluated
          obtain ⟨⟨instructions, modifiers, augmenters⟩, quiet, loud⟩ := of_decide_eq_true evaluated
          have found {α : Type} {m n : Mapping Text α} (same : m.entries = n.entries)
              (glyph : Text) : m.get? glyph = n.get? glyph := by
            rw [Mapping.get?, same, Mapping.get?]
          have catalogs : c.SameButCase e := by
            refine ⟨?_, found modifiers, found augmenters⟩
            intro glyph
            rw [← Mapping.get?_map, ← Mapping.get?_map]
            exact found instructions glyph
          obtain ⟨tests, score, -⟩ := grade_ignores_case _ _ _ _ c e loaded otherLoaded catalogs _ _
            assignments .standard plainFiles
          exact ⟨c, e, rfl, rfl, catalogs, assignments, quiet, loud, tests, score⟩

end Grading
end Hexaglyph
