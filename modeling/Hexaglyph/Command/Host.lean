import Hexaglyph.Files.Tree
import Hexaglyph.Trace
set_option autoImplicit false

/-! What commands need of the world around them. One world is a value, in which every command can be
run and reasoned about. -/
namespace Hexaglyph

class Host (m : Type → Type) where
  readFile : Text → m (Except FileError Text)
  writeFile : Text → Text → m (Except FileError Unit)
  makeDirectories : Text → m (Except FileError Unit)
  /-- The whole standard input. -/
  readInput : m Text
  /-- Writes to the standard output. -/
  print : Text → m Unit
  /-- Writes to the error output. -/
  complain : Text → m Unit
  /-- Adds a line to the log. -/
  log : Text → m Unit
  /-- Hands over a trace. -/
  trace : Tracer → Text → m Unit

/-- A world as a value: the files, the input, and what has been written so far. -/
structure Sandbox where
  files : FileSystem
  input : Text
  output : Text
  errors : Text
  log : Text
  trace : Text

namespace Sandbox

def start (files : FileSystem) (input : Text) : Sandbox :=
  ⟨files, input, [], [], [], []⟩

/-- Keeps the changed files, or reports why there are none. -/
def update (result : Except FileError FileSystem) : StateM Sandbox (Except FileError Unit) :=
  fun s =>
    match result with
    | .ok files => (.ok (), { s with files := files })
    | .error e => (.error e, s)

instance : Host (StateM Sandbox) where
  readFile path := fun s => (s.files.read path, s)
  writeFile path contents := fun s => update (s.files.write path contents) s
  makeDirectories path := fun s =>
    let (reached, made) := s.files.makePath path
    (made, { s with files := reached })
  readInput := fun s => (s.input, s)
  print text := fun s => ((), { s with output := s.output ++ text })
  complain text := fun s => ((), { s with errors := s.errors ++ text })
  log text := fun s => ((), { s with log := s.log ++ text ++ [Text.lineFeed] })
  trace tracer message := fun s => ((), { s with trace := s.trace ++ tracer.written message })

end Sandbox
end Hexaglyph
