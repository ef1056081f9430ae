import Hexaglyph.Grading.Grade
import Hexaglyph.Proofs.Diagnostics
import Mathlib.Algebra.BigOperators.Group.List.Basic
import Mathlib.Algebra.Ring.Int.Defs
import Mathlib.Data.List.Forall2
set_option autoImplicit false

/-! Grading case by case. Nothing passes from one test case to another but the score, which is a sum,
and whether all programs are clean; so neither depends on the order of the cases. -/
namespace Hexaglyph

namespace GradeSheet

/-- The score of a sheet is that of its tests together, as far as a word can hold it. -/
def Balanced (s : GradeSheet) : Prop :=
  s.score = Signed64.wrap (s.tests.map GradedTest.score).sum

theorem balanced_empty : Balanced empty := rfl

theorem Balanced.add {s : GradeSheet} (balanced : s.Balanced) (t : GradedTest) (score : Int) :
    (s.add t score).Balanced := by
  have sum : (s.add t score).score =
      Signed64.wrap (Signed64.wrap (s.tests.map GradedTest.score).sum + score) :=
    congrArg (fun before => Signed64.wrap (before + score)) balanced
  rw [Balanced, sum, GradeSheet.add]
  simp only [Signed64.wrap, Int.bmod_add_bmod, List.map_append, List.map_cons, List.map_nil,
    List.sum_append, List.sum_cons, List.sum_nil, add_zero]

end GradeSheet

namespace CaseResult

def entry (r : CaseResult) : GradedTest :=
  { r.test with score := r.score }

theorem tests_foldl (s : GradeSheet) (results : List CaseResult) :
    (results.foldl (fun s r => s.add r.test r.score) s).tests = s.tests ++ results.map entry := by
  induction results generalizing s with
  | nil => simp
  | cons r rest ih =>
      rw [List.foldl_cons, ih, GradeSheet.add, List.append_assoc, List.singleton_append,
        List.map_cons, entry]

theorem balanced_foldl (s : GradeSheet) (balanced : s.Balanced) (results : List CaseResult) :
    (results.foldl (fun s r => s.add r.test r.score) s).Balanced := by
  induction results generalizing s with
  | nil => exact balanced
  | cons r rest ih => exact ih _ (balanced.add r.test r.score)

end CaseResult

namespace GradedTest

theorem printAll_output (t : GradedTest) (lines : List Text) :
    (t.printAll lines).output = t.output ++ lines.flatMap (· ++ [Text.lineFeed]) := by
  induction lines generalizing t with
  | nil => simp [printAll]
  | cons line rest ih =>
      have printed := ih (t.print line)
      rw [printAll] at printed ⊢
      rw [List.foldl_cons, printed, print, List.flatMap_cons, List.append_assoc, List.append_assoc,
        List.append_assoc]

/-- Printing changes nothing but the output. -/
theorem printAll_eq (t : GradedTest) (lines : List Text) :
    t.printAll lines = { t with output := (t.printAll lines).output } := by
  induction lines generalizing t with
  | nil => rfl
  | cons line rest ih => exact ih (t.print line)

/-- What the result of a test says when it is worth these points and passed exactly in case of success:
all points or none, and a word on every failure. -/
structure Judged (t : GradedTest) (points : Int) (success : Prop) : Prop where
  maxScore : t.maxScore = points
  passed : success → t.passed = some true ∧ t.score = points
  failed : ¬ success → t.passed = some false ∧ t.score = 0 ∧ t.output ≠ []

theorem judged_printAll (name visibility : Text) (points : Int) (lines : List Text) (passed : Bool)
    (success : Prop) (decides : passed = true ↔ success) (reported : passed = false → lines ≠ []) :
    Judged { ((create name points visibility).printAll lines).judge passed with
      score := if passed then points else 0 } points success := by
  rw [printAll_eq]
  refine ⟨rfl, fun succeeded => ?_, fun broken => ?_⟩
  · rw [decides.mpr succeeded]
    exact ⟨rfl, rfl⟩
  · have failed : passed = false := Bool.eq_false_iff.mpr fun set => broken (decides.mp set)
    obtain ⟨line, rest, shape⟩ := List.exists_cons_of_ne_nil (reported failed)
    refine ⟨congrArg some failed, if_neg (by simp [failed]), ?_⟩
    simp [judge, printAll_output, shape]

end GradedTest

namespace Grading

/-- Whether two listings agree line by line, but for case. -/
def SameLines (expected got : List Text) : Prop :=
  List.Forall₂ (fun want given => Text.sameFolded want given = true) expected got

theorem mismatch_eq_nil (number : Nat) (want given : Text) :
    mismatch number want given = [] ↔ Text.sameFolded want given = true := by
  rw [mismatch]
  split <;> simp_all

/-- Between listings of the same length nothing stands for a missing line. -/
theorem mismatches_eq_nil (number : Nat) (expected got : List Text)
    (sameLength : expected.length = got.length) :
    mismatches number expected got = [] ↔ SameLines expected got := by
  induction expected generalizing number got with
  | nil =>
      cases got with
      | nil => simp [mismatches, SameLines]
      | cons given rest => cases sameLength
  | cons want wants ih =>
      cases got with
      | nil => cases sameLength
      | cons given rest =>
          rw [mismatches, List.append_eq_nil_iff, mismatch_eq_nil,
            ih (number + 1) rest (Nat.succ.inj sameLength), SameLines, SameLines,
            List.forall₂_cons]

/-- The comparison succeeds exactly when it has nothing to say. -/
theorem compare_quiet (expected got : List Text) :
    (compare expected got).2 = true ↔ (compare expected got).1 = [] := by
  by_cases sameLength : expected.length = got.length
  · simp [compare, sameLength]
  · simp [compare, sameLength]

theorem compare_passed (expected got : List Text) :
    (compare expected got).2 = true ↔ SameLines expected got := by
  by_cases sameLength : expected.length = got.length
  · rw [← mismatches_eq_nil 1 expected got sameLength]
    simp [compare, sameLength]
  · have differ : ¬ SameLines expected got := fun same => sameLength same.length_eq
    simp [compare, sameLength, differ]

/-- Whether a program could be read and encodes as a test case expects. -/
def Meets (tr : Translator) (c : TestCase) (read : Except FileError Text) : Prop :=
  ∃ program, read = .ok program ∧
    SameLines (Listing.parse (Text.join [Text.lineFeed] c.expected)) (tr.translate program).hexLines

/-- Whether a program could be read and there is nothing to report about it. -/
def Clean (tr : Translator) (read : Except FileError Text) : Prop :=
  ∃ program, read = .ok program ∧ (tr.translate program).diagnostics = []

theorem entry_translated (c : TestCase) (t : Translation) :
    (translated c t).entry =
      { ((GradedTest.create c.title c.points c.visibility).printAll
          (t.diagnostics.map (·.report c.program) ++
            (compare (expectedLines c) t.hexLines).1)).judge
          (compare (expectedLines c) t.hexLines).2 with
        score := if (compare (expectedLines c) t.hexLines).2 then c.points else 0 } := rfl

theorem judged_gradeCase (tr : Translator) (c : TestCase) (read : Except FileError Text) :
    (gradeCase tr c read).entry.Judged c.points (Meets tr c read) := by
  cases read with
  | ok program =>
      rw [gradeCase, entry_translated]
      apply GradedTest.judged_printAll
      · rw [compare_passed]
        exact ⟨fun same => ⟨program, rfl, same⟩, fun ⟨_, rfl, same⟩ => same⟩
      · intro failed quiet
        have messages := (List.append_eq_nil_iff.mp quiet).2
        rw [(compare_quiet _ _).mpr messages] at failed
        cases failed
  | error cause =>
      refine GradedTest.judged_printAll c.title c.visibility c.points [_] false _ ?_ ?_
      · exact ⟨fun impossible => (by cases impossible), fun ⟨_, read, _⟩ => (by cases read)⟩
      · exact fun _ => List.cons_ne_nil _ _

theorem clean_gradeCase (tr : Translator) (c : TestCase) (read : Except FileError Text) :
    (gradeCase tr c read).clean = true ↔ Clean tr read := by
  cases read with
  | ok program =>
      rw [gradeCase, translated, Bool.not_eq_true', tr.hasProblems_eq_false]
      exact ⟨fun quiet => ⟨program, rfl, quiet⟩, fun ⟨_, rfl, quiet⟩ => quiet⟩
  | error cause => exact ⟨fun impossible => (by cases impossible), fun ⟨_, read, _⟩ => (by cases read)⟩

def closing (points : Int) (clean : Bool) : List GradedTest :=
  if 0 < points then [{ cleanTest points clean with score := if clean then points else 0 }] else []

theorem name_cleanTest (points : Int) (clean : Bool) :
    (cleanTest points clean).name = utf8 "Every glyph translates" := by
  cases clean <;> rfl

theorem judged_cleanTest (points : Int) (clean : Bool) (success : Prop)
    (decides : clean = true ↔ success) :
    GradedTest.Judged { cleanTest points clean with score := if clean then points else 0 } points
      success := by
  -- a clean sheet prints nothing, and printing after the verdict is as good as before
  cases clean with
  | true =>
      exact GradedTest.judged_printAll _ _ points [] true success decides fun impossible =>
        (by cases impossible)
  | false =>
      exact GradedTest.judged_printAll _ _ points [_] false success decides fun _ =>
        List.cons_ne_nil _ _

theorem tests_grade (tr : Translator) (fs : FileSystem) (a : Assignment) :
    (grade tr fs a).tests =
      a.testCases.map (fun c => (gradeCase tr c (fs.read (a.programPath c))).entry) ++
        closing a.cleanTranslationPoints
          (a.testCases.all fun c => (gradeCase tr c (fs.read (a.programPath c))).clean) := by
  rw [grade, sheet, closing, List.all_map]
  split
  · rw [GradeSheet.add, CaseResult.tests_foldl, List.map_map]
    rfl
  · rw [CaseResult.tests_foldl, List.map_map, List.append_nil]
    rfl

theorem balanced_grade (tr : Translator) (fs : FileSystem) (a : Assignment) :
    (grade tr fs a).Balanced := by
  have cases := CaseResult.balanced_foldl _ GradeSheet.balanced_empty
    (a.testCases.map fun c => gradeCase tr c (fs.read (a.programPath c)))
  rw [grade, sheet]
  split
  · exact cases.add _ _
  · exact cases

/-- Grading an assignment judges every test case on its own, in order, by its points and its program;
where there are points for it a last test asks whether all programs are clean, and the score is that
of all tests. In another order the cases have the same results, the same last test and the same
score. -/
theorem grade_tests (tr : Translator) (fs : FileSystem) (a : Assignment) :
    let entry (c : TestCase) := (gradeCase tr c (fs.read (a.programPath c))).entry
    let result := grade tr fs a
    ∃ last : List GradedTest,
      result.tests = a.testCases.map entry ++ last ∧
      (∀ c, (entry c).Judged c.points (Meets tr c (fs.read (a.programPath c)))) ∧
      (a.cleanTranslationPoints ≤ 0 → last = []) ∧
      (0 < a.cleanTranslationPoints → ∃ test, last = [test] ∧
        test.name = utf8 "Every glyph translates" ∧
        test.Judged a.cleanTranslationPoints
          (∀ c ∈ a.testCases, Clean tr (fs.read (a.programPath c)))) ∧
      result.score = Signed64.wrap (result.tests.map GradedTest.score).sum ∧
      ∀ cases : List TestCase, cases.Perm a.testCases →
        (grade tr fs { a with testCases := cases }).tests = cases.map entry ++ last ∧
        (grade tr fs { a with testCases := cases }).score = result.score := by
  intro entry result
  let allClean := a.testCases.all fun c => (gradeCase tr c (fs.read (a.programPath c))).clean
  have decides : allClean = true ↔ ∀ c ∈ a.testCases, Clean tr (fs.read (a.programPath c)) := by
    simp only [allClean, List.all_eq_true, clean_gradeCase]
  refine ⟨closing a.cleanTranslationPoints allClean, tests_grade tr fs a,
    fun c => judged_gradeCase tr c _, fun none => if_neg (Int.not_lt.mpr none), fun some => ?_,
    balanced_grade tr fs a, fun cases order => ?_⟩
  · exact ⟨_, if_pos some, name_cleanTest _ _, judged_cleanTest _ _ _ decides⟩
  · have tests : (grade tr fs { a with testCases := cases }).tests =
        cases.map entry ++ closing a.cleanTranslationPoints allClean := by
      rw [tests_grade, order.all_eq]
      rfl
    have moved : (grade tr fs { a with testCases := cases }).tests.Perm result.tests := by
      rw [tests, tests_grade tr fs a]
      exact (order.map entry).append_right _
    refine ⟨tests, ?_⟩
    rw [balanced_grade tr fs { a with testCases := cases }, balanced_grade tr fs a,
      (moved.map GradedTest.score).sum_eq]

end Grading
end Hexaglyph
