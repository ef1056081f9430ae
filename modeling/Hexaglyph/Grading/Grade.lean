import Hexaglyph.Grading.Assignment
import Hexaglyph.Grading.Sheet
import Hexaglyph.Program.Listing
set_option autoImplicit false

/-! Grading: every program of an assignment is translated and compared with the listing that is
expected of it. -/
namespace Hexaglyph

/-- What one test case contributes. -/
structure CaseResult where
  test : GradedTest
  score : Int
  /-- Whether the program could be read and has no problems. -/
  clean : Bool
  traces : List Text
deriving DecidableEq

namespace Grading

/-- What is shown where a listing has no more lines. -/
def noLine : Text := utf8 "(none)"

def mismatch (number : Nat) (want given : Text) : List Text :=
  if Text.sameFolded want given then []
  else [utf8 "Instruction " ++ Text.ofNat number ++ utf8 ": expected " ++ want ++ utf8 ", got " ++
    given]

/-- The differences between two listings, line by line, where the first lines have this number. -/
def mismatches : Nat → List Text → List Text → List Text
  | _, [], [] => []
  | number, want :: wants, [] => mismatch number want noLine ++ mismatches (number + 1) wants []
  | number, [], got :: gots => mismatch number noLine got ++ mismatches (number + 1) [] gots
  | number, want :: wants, got :: gots =>
    mismatch number want got ++ mismatches (number + 1) wants gots

/-- The messages about two listings that differ, and whether they agree. Case makes no difference. -/
def compare (expected got : List Text) : List Text × Bool :=
  let sameLength := expected.length == got.length
  let lengths := if sameLength then [] else
    [utf8 "Expected " ++ Text.ofNat expected.length ++ utf8 " instructions, got " ++
      Text.ofNat got.length]
  let lines := mismatches 1 expected got
  (lengths ++ lines, sameLength && lines.isEmpty)

/-- The lines that a test case expects. -/
def expectedLines (c : TestCase) : List Text :=
  Listing.parse (Text.join [Text.lineFeed] c.expected)

def unreadable (c : TestCase) (cause : FileError) : CaseResult :=
  let test := (GradedTest.create c.title c.points c.visibility).print
    (utf8 "Could not read " ++ c.program ++ utf8 ": " ++ cause.message)
  ⟨test.judge false, 0, false, []⟩

def translated (c : TestCase) (t : Translation) : CaseResult :=
  let (messages, passed) := compare (expectedLines c) t.hexLines
  let test := (GradedTest.create c.title c.points c.visibility).printAll
    (t.diagnostics.map (·.report c.program) ++ messages)
  let trace := utf8 "autograder: " ++ c.title ++ utf8 " passed=" ++
    if passed then utf8 "true" else utf8 "false"
  ⟨test.judge passed, if passed then c.points else 0, ! t.hasProblems, [trace]⟩

/-- Grades the program of a test case. -/
def gradeCase (tr : Translator) (c : TestCase) : Except FileError Text → CaseResult
  | .ok program => translated c (tr.translate program)
  | .error cause => unreadable c cause

/-- The test that all programs are clean. -/
def cleanTest (points : Int) (clean : Bool) : GradedTest :=
  let test := (GradedTest.create (utf8 "Every glyph translates") points (utf8 "visible")).judge clean
  if clean then test
  else test.print (utf8
    "At least one program has unrecognized glyphs, unresolved encodings or could not be read")

/-- The sheet of an assignment from the results of its cases. -/
def sheet (a : Assignment) (results : List CaseResult) : GradeSheet :=
  let cases := results.foldl (fun s r => s.add r.test r.score) GradeSheet.empty
  if 0 < a.cleanTranslationPoints then
    let clean := results.all CaseResult.clean
    cases.add (cleanTest a.cleanTranslationPoints clean)
      (if clean then a.cleanTranslationPoints else 0)
  else cases

/-- Grades an assignment whose programs are read from a file system. -/
def grade (tr : Translator) (fs : FileSystem) (a : Assignment) : GradeSheet :=
  sheet a (a.testCases.map fun c => gradeCase tr c (fs.read (a.programPath c)))

end Grading
end Hexaglyph
