import Hexaglyph.Json.Writer
import Hexaglyph.Signed64
set_option autoImplicit false

/-! Grade sheets: the result of every test, and the score of all together. -/
namespace Hexaglyph

structure GradedTest where
  name : Text
  maxScore : Int
  score : Int
  output : Text
  visibility : Text
  /-- Whether the test was passed, once that is known. -/
  passed : Option Bool
deriving DecidableEq

namespace GradedTest

/-- A test without result. Where nothing else is said, students can see it. -/
def create (name : Text) (maxScore : Int) (visibility : Text) : GradedTest :=
  ⟨name, maxScore, 0, [], if visibility.isEmpty then utf8 "visible" else visibility, none⟩

/-- Adds a line of output. -/
def print (t : GradedTest) (line : Text) : GradedTest :=
  { t with output := t.output ++ line ++ [Text.lineFeed] }

def printAll (t : GradedTest) (lines : List Text) : GradedTest :=
  lines.foldl print t

def judge (t : GradedTest) (passed : Bool) : GradedTest :=
  { t with passed := some passed }

def statusText (passed : Bool) : Text :=
  if passed then utf8 "passed" else utf8 "failed"

def toJson (t : GradedTest) : Json :=
  .record ([
    ("name", .string t.name),
    ("max_score", .ofInt t.maxScore),
    ("score", .ofInt t.score),
    ("output", .string t.output),
    ("visibility", .string t.visibility)] ++
    (t.passed.toList.map fun passed => ("status", .string (statusText passed))))

end GradedTest

structure GradeSheet where
  tests : List GradedTest
  score : Int
deriving DecidableEq

namespace GradeSheet

def empty : GradeSheet :=
  ⟨[], 0⟩

/-- Adds a test with the score it was given. -/
def add (s : GradeSheet) (t : GradedTest) (score : Int) : GradeSheet :=
  ⟨s.tests ++ [{ t with score := score }], Signed64.wrap (s.score + score)⟩

/-- The score that all tests together allow. -/
def maxScore (s : GradeSheet) : Int :=
  s.tests.foldl (fun sum t => Signed64.wrap (sum + t.maxScore)) 0

def toJson (s : GradeSheet) : Json :=
  .record [("tests", .array (s.tests.map GradedTest.toJson)), ("score", .ofInt s.score)]

/-- The document that is saved. -/
def document (s : GradeSheet) : Text :=
  s.toJson.renderIndented 0

end GradeSheet
end Hexaglyph
