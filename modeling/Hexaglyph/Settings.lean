import Hexaglyph.Catalog.Error
import Hexaglyph.Files.Tree
import Hexaglyph.Json.Field
import Hexaglyph.Json.Reader
set_option autoImplicit false

/-! Settings: the defaults, and a document that changes some of them. -/
namespace Hexaglyph

structure Settings where
  /-- The catalog to load; an empty path selects the built-in one. -/
  catalogPath : Text
  registerQueue : List UInt8
  maxInputBytes : Int
  languageServerAddr : Text
  webAddr : Text
  logEndpoint : Text
deriving DecidableEq

inductive SettingsFault where
  | cannotRead (cause : FileError)
  | malformed
  | emptyQueue
  | limitNotPositive
deriving DecidableEq

namespace SettingsFault

def reason : SettingsFault → Text
  | cannotRead _ => utf8 "could not read"
  | malformed => utf8 "malformed"
  | emptyQueue => utf8 "registerQueue must not be empty"
  | limitNotPositive => utf8 "maxInputBytes must be positive"

def cause? : SettingsFault → Option Text
  | cannotRead cause => some cause.message
  | malformed => some jsonFault
  | _ => none

end SettingsFault

/-- A fault with the path of the document it was found in. -/
structure SettingsError where
  path : Text
  fault : SettingsFault
deriving DecidableEq

def SettingsError.message (e : SettingsError) : Text :=
  utf8 "config " ++ e.path ++ utf8 ": " ++ withCause e.fault.reason e.fault.cause?

namespace Settings

def defaults : Settings :=
  { catalogPath := []
    registerQueue := [0, 1, 0]
    maxInputBytes := 65536
    languageServerAddr := utf8 ":2035"
    webAddr := utf8 ":2036"
    logEndpoint := [] }

/-- The document that is read when no other is named. It alone may be missing. -/
def defaultPath : Text := utf8 "skreeConfig.json"

/-- The path to try for the one that was asked for. -/
def pathFor (asked : Text) : Text :=
  if asked.isEmpty then defaultPath else asked

/-- The settings of a document; what it does not set keeps its default. -/
def ofJson? (json : Json) : Option Settings := do
  let members ← Json.members? [json]
  let catalogPath ← Json.textField "catalogPath" members defaults.catalogPath
  let registerQueue ← Json.bytesField "registerQueue" members defaults.registerQueue
  let maxInputBytes ← Json.integerField "maxInputBytes" members defaults.maxInputBytes
  let languageServerAddr ← Json.textField "languageServerAddr" members defaults.languageServerAddr
  let webAddr ← Json.textField "webAddr" members defaults.webAddr
  let logEndpoint ← Json.textField "logEndpoint" members defaults.logEndpoint
  return ⟨catalogPath, registerQueue, maxInputBytes, languageServerAddr, webAddr, logEndpoint⟩

/-- Settings that can be used: some register, and room for some input. -/
def validate (s : Settings) : Except SettingsFault Settings :=
  if s.registerQueue.isEmpty then .error .emptyQueue
  else if s.maxInputBytes ≤ 0 then .error .limitNotPositive
  else .ok s

def ofContents (contents : Text) : Except SettingsFault Settings :=
  match Json.parse? contents >>= ofJson? with
  | some s => s.validate
  | none => .error .malformed

/-- The settings that reading a path gave. -/
def ofRead (path : Text) : Except FileError Text → Except SettingsError Settings
  | .ok contents => (ofContents contents).mapError (⟨path, ·⟩)
  | .error cause =>
    if cause.fault = .notFound ∧ path = defaultPath then .ok defaults
    else .error ⟨path, .cannotRead cause⟩

/-- The settings at a path in a file system. -/
def load (fs : FileSystem) (asked : Text) : Except SettingsError Settings :=
  ofRead (pathFor asked) (fs.read (pathFor asked))

end Settings
end Hexaglyph
