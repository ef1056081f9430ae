import Hexaglyph.Program.Encoding
set_option autoImplicit false

/-! Problems of a program. None of them stops a translation: what has no encoding stays visible in
the output, and a diagnostic says where it is. -/
namespace Hexaglyph

/-- Editors number severities from one, the worst first. -/
structure Severity where
  level : Int
deriving DecidableEq

namespace Severity

def error : Severity := ⟨1⟩
def warning : Severity := ⟨2⟩

end Severity

structure Diagnostic where
  range : Range
  message : Text
  source : Text
  severity : Severity
deriving DecidableEq

namespace Diagnostic

/-- The name that all diagnostics of this library carry. -/
def ownSource : Text := utf8 "Skree"

def unrecognizedGlyph (glyph : Text) (range : Range) : Diagnostic :=
  ⟨range, utf8 "Unrecognized glyph: \"" ++ glyph ++ utf8 "\"", ownSource, .warning⟩

def unresolvedEncoding (glyph opcode : Text) (range : Range) : Diagnostic :=
  ⟨range, utf8 "No encoding defined for opcode " ++ opcode ++ utf8 " of \"" ++ glyph ++
    utf8 "\", emitted as " ++ opcode ++ unresolvedMark, ownSource, .warning⟩

def inputTooLarge (size limit : Int) : Diagnostic :=
  ⟨.zero, utf8 "Program is " ++ Text.ofInt size ++ utf8 " bytes, larger than the limit of " ++
    Text.ofInt limit ++ utf8 " bytes, not translated", ownSource, .error⟩

def isProblem (d : Diagnostic) : Bool :=
  d.severity == .error || d.severity == .warning

def down (d : Diagnostic) (lines : Int) : Diagnostic :=
  { d with range := d.range.down lines }

def toJson (d : Diagnostic) : Json :=
  .record ([("range", d.range.toJson), ("message", .string d.message)] ++
    Json.memberIf (! d.source.isEmpty) "source" (.string d.source) ++
    Json.memberIf (d.severity.level != 0) "severity" (.ofInt d.severity.level))

/-- The place and message in the words of a report; lines are counted from one there. -/
def report (d : Diagnostic) (name : Text) : Text :=
  name ++ utf8 ":" ++ Text.ofInt (d.range.start.line + 1) ++ utf8 ":" ++
    Text.ofInt d.range.start.char ++ utf8 ": " ++ d.message

end Diagnostic
end Hexaglyph
