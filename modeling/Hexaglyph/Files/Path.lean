import Hexaglyph.Text.Basic
set_option autoImplicit false

/-! Paths as text, without a look at any file. -/
namespace Hexaglyph.Path

def slash : UInt8 := 0x2F

def dot : Text := [0x2E]

def dotDot : Text := [0x2E, 0x2E]

/-- The parts between slashes; empty ones are kept. -/
def parts (path : Text) : List Text :=
  Text.pieces (· == slash) path

def isRooted (path : Text) : Bool :=
  path.head? == some slash

/-- Adds a part to a path that is kept last part first: two dots undo a name, at the root they are
dropped, and otherwise they stay. -/
def pushPart (rooted : Bool) (stack : List Text) (part : Text) : List Text :=
  if part.isEmpty || part == dot then stack
  else if part == dotDot then
    match stack with
    | [] => if rooted then [] else [dotDot]
    | top :: rest => if top == dotDot then dotDot :: stack else rest
  else part :: stack

/-- The shortest path that reads the same when nothing on the way is missing. -/
def clean (path : Text) : Text :=
  let rooted := isRooted path
  let body := Text.join [slash] ((parts path).foldl (pushPart rooted) []).reverse
  if rooted then slash :: body
  else if body.isEmpty then dot
  else body

/-- A path inside a directory; an empty directory name adds nothing. -/
def inside (directory path : Text) : Text :=
  if directory.isEmpty then (if path.isEmpty then [] else clean path)
  else clean (directory ++ [slash] ++ path)

/-- What follows the last slash. -/
def lastPart (path : Text) : Text :=
  (path.reverse.takeWhile (· != slash)).reverse

/-- The directory a path leads to. -/
def directory (path : Text) : Text :=
  clean (path.reverse.dropWhile (· != slash)).reverse

/-- The name a path ends in, not counting slashes at its end. -/
def base (path : Text) : Text :=
  if path.isEmpty then dot
  else
    let name := lastPart (path.reverse.dropWhile (· == slash)).reverse
    if name.isEmpty then [slash] else name

/-- Whether the last part of a path has an extension, which may be a bare dot. -/
def hasExtension (path : Text) : Bool :=
  (lastPart path).contains 0x2E

end Hexaglyph.Path
