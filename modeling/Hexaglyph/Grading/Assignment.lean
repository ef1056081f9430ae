import Hexaglyph.Catalog.Error
import Hexaglyph.Files.Tree
import Hexaglyph.Json.Field
import Hexaglyph.Json.Reader
set_option autoImplicit false

/-! Assignments: which programs are graded, against which listings, and for how many points. -/
namespace Hexaglyph

structure TestCase where
  number : Int
  name : Text
  visibility : Text
  points : Int
  /-- The path of the program in the students' directory. -/
  program : Text
  /-- Lines of a listing; comments are allowed, and an entry may hold several lines. -/
  expected : List Text
deriving DecidableEq

/-- A case without a name is called by its number. -/
def TestCase.title (c : TestCase) : Text :=
  if c.name.isEmpty then utf8 "Test " ++ Text.ofInt c.number else c.name

structure Assignment where
  name : Text
  catalogPath : Text
  studentCodeDir : Text
  resultsPath : Text
  registerQueue : List UInt8
  testCases : List TestCase
  /-- The points for programs without any problem; none are given unless this is positive. -/
  cleanTranslationPoints : Int
deriving DecidableEq

inductive AssignmentFault where
  | cannotRead (cause : FileError)
  | malformed
  | noTestCases
  | noProgram (index : Nat) (name : Text)
deriving DecidableEq

structure AssignmentError where
  path : Text
  fault : AssignmentFault
deriving DecidableEq

def AssignmentError.message (e : AssignmentError) : Text :=
  match e.fault with
  | .cannotRead cause => utf8 "could not read autograder config: " ++ cause.message
  | .malformed => utf8 "error unmarshalling " ++ e.path ++ utf8 ": " ++ jsonFault
  | .noTestCases => e.path ++ utf8 " defines no test cases"
  | .noProgram index name =>
    e.path ++ utf8 ": test case " ++ Text.ofNat index ++ utf8 " (" ++ name ++
      utf8 ") names no program"

namespace Assignment

/-- Where results go when the assignment does not say. -/
def defaultResultsPath : Text := utf8 "results/results.json"

def testCase? (members : List (Text × Json)) : Option TestCase := do
  let number ← Json.integerField "number" members 0
  let name ← Json.textField "name" members []
  let visibility ← Json.textField "visibility" members []
  let points ← Json.integerField "points" members 0
  let program ← Json.textField "program" members []
  let expected ← Json.textsField "expected" members
  return ⟨number, name, visibility, points, program, expected⟩

def ofJson? (json : Json) : Option Assignment := do
  let members ← Json.members? [json]
  let name ← Json.textField "assignmentName" members []
  let catalogPath ← Json.textField "catalogPath" members []
  let studentCodeDir ← Json.textField "studentCodeDir" members []
  let resultsPath ← Json.textField "resultsPath" members []
  let registerQueue ← Json.bytesField "registerQueue" members []
  let testCases ← Json.recordsField "testCases" testCase? members
  let points ← Json.integerField "cleanTranslationPoints" members 0
  return { name, catalogPath, studentCodeDir
           resultsPath := if resultsPath.isEmpty then defaultResultsPath else resultsPath
           registerQueue, testCases
           cleanTranslationPoints := points }

/-- An assignment needs test cases, and every one of them a program. -/
def check (a : Assignment) : Except AssignmentFault Assignment :=
  if a.testCases.isEmpty then .error .noTestCases
  else
    match a.testCases.findIdx? (·.program.isEmpty) with
    | some index => .error (.noProgram index ((a.testCases[index]?.map TestCase.name).getD []))
    | none => .ok a

/-- The assignment that reading a path gave. -/
def ofRead (path : Text) (read : Except FileError Text) : Except AssignmentError Assignment :=
  let result := do
    let contents ← read.mapError AssignmentFault.cannotRead
    match Json.parse? contents >>= ofJson? with
    | some a => a.check
    | none => .error .malformed
  result.mapError (⟨path, ·⟩)

/-- The path of the program of a test case. -/
def programPath (a : Assignment) (c : TestCase) : Text :=
  Path.inside a.studentCodeDir c.program

end Assignment
end Hexaglyph
