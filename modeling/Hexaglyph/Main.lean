import Hexaglyph.Command.Run
set_option autoImplicit false

/-! The program. It gives the commands the files and streams of the machine it runs on. -/
namespace Hexaglyph

def Text.ofByteArray (bytes : ByteArray) : Text :=
  bytes.toList

def Text.toByteArray (t : Text) : ByteArray :=
  ⟨t.toArray⟩

/-- The fault that an error of the machine amounts to. -/
def FileFault.ofError : IO.Error → FileFault
  | .noFileOrDirectory .. => .notFound
  | .inappropriateType _ 20 _ => .notDirectory
  | .inappropriateType _ 21 _ => .isDirectory
  | .invalidArgument _ 36 _ => .nameTooLong
  | .invalidArgument .. => .invalidPath
  | .permissionDenied .. => .denied
  | _ => .broken

/-- Does something with a path. Only texts can be paths of the machine. -/
def withPath {α : Type} (action : FileAction) (path : Text) (run : String → IO α) :
    IO (Except FileError α) := do
  match Text.toString? path with
  | none => return .error ⟨action, path, .notFound⟩
  | some name =>
    try
      return .ok (← run name)
    catch e =>
      return .error ⟨action, path, .ofError e⟩

/-- A directory can be opened, so the attempt to read it is what fails. -/
def readError (e : FileError) : FileError :=
  if e.fault = .isDirectory then { e with action := .reading } else e

def writeStream (stream : IO.FS.Stream) (t : Text) : IO Unit := do
  stream.write t.toByteArray
  stream.flush

instance : Host IO where
  readFile path := do
    let contents ← withPath .opening path fun name => IO.FS.readBinFile name
    return (contents.mapError readError).map Text.ofByteArray
  writeFile path contents :=
    withPath .opening path fun name => IO.FS.writeBinFile name contents.toByteArray
  makeDirectories path :=
    withPath .makingDirectory path fun name => IO.FS.createDirAll name
  readInput := do
    let bytes ← (← IO.getStdin).readBinToEnd
    return Text.ofByteArray bytes
  print text := do writeStream (← IO.getStdout) text
  complain text := do writeStream (← IO.getStderr) text
  log text := do writeStream (← IO.getStderr) (text ++ [Text.lineFeed])
  trace tracer message := do writeStream (← IO.getStderr) (tracer.written message)

/-- Sends what follows from a message. -/
def deliver (tracer : Tracer) (reaction : Reaction) : IO Unit := do
  reaction.traces.forM (Host.trace tracer)
  Host.print reaction.frames

/-- Speaks with an editor until it closes the connection or sends what is no message. `pending` has
been read, but not yet answered. -/
partial def converse (w : Workshop) (tracer : Tracer) (desk : Desk) (pending : Intake) :
    IO Unit := do
  match Frame.opening pending with
  | .whole body rest =>
    if let some message := Json.parse? body then
      let reaction := Service.react w desk message
      deliver tracer reaction
      if ! reaction.closed then converse w tracer reaction.desk rest
  | .broken => return ()
  | _ =>
    let bytes ← (← IO.getStdin).read 65536
    if bytes.isEmpty then
      (Service.converse w desk (Frame.messages pending)).forM (deliver tracer)
    else converse w tracer desk (pending.append (Text.ofByteArray bytes))

/-- Runs a command line and gives the exit code. -/
def runProgram (words : List Text) : IO UInt32 := do
  match ← (Command.run words : ExceptT Failure IO Remaining).run with
  | .ok .nothing => return 0
  | .ok (.converse w tracer) =>
    converse w tracer .empty (.ofText [])
    return 0
  | .ok (.listen address) =>
    Host.complain (utf8 "Error: no connections can be accepted at " ++ address ++ utf8 "\n")
    return 1
  | .error failure =>
    Host.complain (utf8 "Error: " ++ failure.message ++ utf8 "\n")
    return 1

end Hexaglyph

def main (arguments : List String) : IO UInt32 :=
  Hexaglyph.runProgram (arguments.map Hexaglyph.utf8)
