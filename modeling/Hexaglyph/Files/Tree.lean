import Hexaglyph.Files.Path
import Hexaglyph.Mapping
set_option autoImplicit false

/-! A file system as a value: which files and directories there are, and where relative paths
begin. Paths are followed part by part, so two dots lead out of a directory only if it exists. -/
namespace Hexaglyph

inductive FileAction where
  | opening
  | reading
  | makingDirectory
deriving DecidableEq

inductive FileFault where
  | notFound
  | notDirectory
  | isDirectory
  | invalidPath
  | nameTooLong
  | denied
  | broken
deriving DecidableEq

/-- An action that failed, with the path as it was given. -/
structure FileError where
  action : FileAction
  path : Text
  fault : FileFault
deriving DecidableEq

namespace FileError

def actionName : FileAction → String
  | .opening => "open"
  | .reading => "read"
  | .makingDirectory => "mkdir"

def faultText : FileFault → String
  | .notFound => "no such file or directory"
  | .notDirectory => "not a directory"
  | .isDirectory => "is a directory"
  | .invalidPath => "invalid argument"
  | .nameTooLong => "file name too long"
  | .denied => "permission denied"
  | .broken => "input/output error"

def message (e : FileError) : Text :=
  utf8 (actionName e.action) ++ utf8 " " ++ e.path ++ utf8 ": " ++ utf8 (faultText e.fault)

end FileError

inductive Entry where
  | file (contents : Text)
  | directory
deriving DecidableEq

/-- Where an entry is: the names that lead to it from the root. -/
abbrev Location := List Text

structure FileSystem where
  entries : Mapping Location Entry
  /-- The directory in which relative paths begin. -/
  here : Location

namespace FileSystem

/-- An empty working directory inside a directory that is empty but for it. No path can name either,
because their names have slashes in them. -/
def blank : FileSystem :=
  { entries := (Mapping.empty.insert [[Path.slash]] .directory).insert
      [[Path.slash], [Path.slash]] .directory
    here := [[Path.slash], [Path.slash]] }

/-- What is at a location; the root is always a directory. -/
def entry (fs : FileSystem) (location : Location) : Option Entry :=
  if location = [] then some .directory else fs.entries.get? location

/-- Requires a directory at a location. -/
def enter (fs : FileSystem) (location : Location) : Except FileFault Unit :=
  match fs.entry location with
  | some .directory => .ok ()
  | some (.file _) => .error .notDirectory
  | none => .error .notFound

/-- The location one part further on. -/
def step (location : Location) (part : Text) : Except FileFault Location :=
  if part.isEmpty || part == Path.dot then .ok location
  else if part == Path.dotDot then .ok location.dropLast
  else if 255 < part.length then .error .nameTooLong
  else .ok (location ++ [part])

/-- Follows parts from a location. Every part must be left through a directory, so what is at the end
may be missing, but nothing on the way. -/
def walk (fs : FileSystem) : Location → List Text → Except FileFault Location
  | location, [] => .ok location
  | location, part :: rest => do
    fs.enter location
    let next ← step location part
    fs.walk next rest

/-- Where a path begins. -/
def start (fs : FileSystem) (path : Text) : Location :=
  if Path.isRooted path then [] else fs.here

/-- Refuses texts that are no paths. -/
def checkPath (path : Text) : Except FileFault Unit :=
  if path.contains 0 then .error .invalidPath
  else if path.isEmpty then .error .notFound
  else if 4096 ≤ path.length then .error .nameTooLong
  else .ok ()

def locate (fs : FileSystem) (path : Text) : Except FileFault Location := do
  checkPath path
  fs.walk (fs.start path) (Path.parts path)

/-- The contents of a file. A directory can be opened, but not read. -/
def read (fs : FileSystem) (path : Text) : Except FileError Text :=
  match fs.locate path with
  | .error fault => .error ⟨.opening, path, fault⟩
  | .ok location =>
    match fs.entry location with
    | some (.file contents) => .ok contents
    | some .directory => .error ⟨.reading, path, .isDirectory⟩
    | none => .error ⟨.opening, path, .notFound⟩

/-- The location of a file that may be created: its directory must exist, and the path must end in a
name that is not a directory's. -/
def locateNew (fs : FileSystem) (path : Text) : Except FileFault Location := do
  checkPath path
  let parts := (Path.parts path).reverse
  let named := parts.dropWhile List.isEmpty
  match named with
  | [] => .error .isDirectory
  | last :: before =>
    let parent ← fs.walk (fs.start path) before.reverse
    fs.enter parent
    if last == Path.dot || last == Path.dotDot || named.length < parts.length then
      .error .isDirectory
    else
      let location ← step parent last
      match fs.entry location with
      | some .directory => .error .isDirectory
      | _ => .ok location

/-- Gives a file new contents, creating it if it is missing. -/
def write (fs : FileSystem) (path contents : Text) : Except FileError FileSystem :=
  match fs.locateNew path with
  | .error fault => .error ⟨.opening, path, fault⟩
  | .ok location => .ok { fs with entries := fs.entries.insert location (.file contents) }

/-- The location one part further on, if the path up to there can be a directory's. -/
def stepChecked (path : Text) (location : Location) (part : Text) : Except FileFault Location := do
  checkPath path
  step location part

/-- Makes the directories of the parts that are still missing. `done` are the parts already passed,
the last one first. A part that cannot be a directory is noticed only when it is reached, and the
directories before it stay. -/
def makeParts (rooted : Bool) (fs : FileSystem) :
    Location → List Text → List Text → FileSystem × Except FileError Unit
  | _, _, [] => (fs, .ok ())
  | location, done, part :: rest =>
    let shown := (if rooted then [Path.slash] else []) ++
      Text.join [Path.slash] (part :: done).reverse
    match stepChecked shown location part with
    | .error fault => (fs, .error ⟨.makingDirectory, shown, fault⟩)
    | .ok next =>
      match fs.entry next with
      | some .directory => makeParts rooted fs next (part :: done) rest
      | some (.file _) => (fs, .error ⟨.makingDirectory, shown, .notDirectory⟩)
      | none =>
        makeParts rooted { fs with entries := fs.entries.insert next .directory } next
          (part :: done) rest

/-- Makes a directory and those on the way to it, as far as they are missing, or as far as that is
possible. -/
def makePath (fs : FileSystem) (path : Text) : FileSystem × Except FileError Unit :=
  makeParts (Path.isRooted path) fs (fs.start path) [] ((Path.parts path).filter (! ·.isEmpty))

/-- A file system with a directory, if it can be made. -/
def makeDirectories (fs : FileSystem) (path : Text) : Except FileError FileSystem :=
  let (reached, made) := fs.makePath path
  made.map fun _ => reached

/-- Makes a file with its directories. -/
def place (fs : FileSystem) (path contents : Text) : Except FileError FileSystem := do
  let ready ← fs.makeDirectories (Path.directory path)
  ready.write path contents

/-- The files in the working directory that are new or have other contents than before, with the
names that lead to them. -/
def changed (before after : FileSystem) : List (Text × Text) :=
  after.entries.entries.filterMap fun (location, entry) =>
    match entry with
    | .directory => none
    | .file contents =>
      if after.here.isPrefixOf location && before.entry location != some entry then
        some (Text.join [Path.slash] (location.drop after.here.length), contents)
      else none

end FileSystem
end Hexaglyph
