import Hexaglyph.Catalog.Error
import Hexaglyph.Editor.Params
import Hexaglyph.Program.Hover
import Hexaglyph.Program.Layout
import Hexaglyph.Program.Summary
import Hexaglyph.Program.Workshop
set_option autoImplicit false

/-! The editor service. It keeps the documents that an editor has open, each with its translation, and
reacts to one message at a time. -/
namespace Hexaglyph

/-- A document with the translation that was made of it last, if one was. -/
structure Document where
  version : Int
  text : Text
  translation : Option Translation
deriving DecidableEq

/-- What stands in for a document that is missing. -/
def Document.blank : Document :=
  ⟨0, [], none⟩

/-- What a service remembers of a connection: the documents, and how many calls of its own it made. -/
structure Desk where
  documents : Mapping Uri Document
  calls : Nat

def Desk.empty : Desk :=
  ⟨Mapping.empty, 0⟩

/-- What follows from a message. -/
structure Reaction where
  desk : Desk
  sent : List Outgoing
  traces : List Text
  closed : Bool

namespace Reaction

/-- Nothing is sent. -/
def silent (desk : Desk) : Reaction :=
  ⟨desk, [], [], false⟩

/-- Nothing is sent any more. -/
def closing (desk : Desk) : Reaction :=
  ⟨desk, [], [], true⟩

def send (desk : Desk) (message : Outgoing) : Reaction :=
  ⟨desk, [message], [], false⟩

def traced (r : Reaction) (before : Text) : Reaction :=
  { r with traces := before :: r.traces }

end Reaction

inductive Method where
  | didOpen
  | didClose
  | didChange
  | start
  | started
  | diagnostic
  | willSaveWaitUntil
  | hover
  | translate
  | shutdown
  | exit
deriving DecidableEq

namespace Method

def name : Method → String
  | didOpen => "textDocument/didOpen"
  | didClose => "textDocument/didClose"
  | didChange => "textDocument/didChange"
  | start => "initialize"
  | started => "initialized"
  | diagnostic => "textDocument/diagnostic"
  | willSaveWaitUntil => "textDocument/willSaveWaitUntil"
  | hover => "textDocument/hover"
  | translate => "skree/translate"
  | shutdown => "shutdown"
  | exit => "exit"

def all : List Method :=
  [didOpen, didClose, didChange, start, started, diagnostic, willSaveWaitUntil, hover,
    translate, shutdown, exit]

def ofName? (text : Text) : Option Method :=
  all.find? fun method => utf8 method.name == text

end Method

namespace Service

def invalidParams : Int := -32602
def methodNotFound : Int := -32601

/-- The words every trace of the service begins with. -/
def traceMark : Text := utf8 "Skree Language Server: "

/-- The id to answer with, also where a notification is answered. -/
def replyId (request : Request) : RequestId :=
  request.id.getD .absent

def reply (desk : Desk) (request : Request) (value : Json) : Reaction :=
  .send desk (.result (replyId request) value)

/-- Reports a failure, but never to a notification. -/
def fail (desk : Desk) (request : Request) (code : Int) (message : Text) : Reaction :=
  match request.id with
  | some id => .send desk (.failure id code message)
  | none => .silent desk

/-- Reads the parameters of a request and goes on with them. -/
def withParams {α : Type} (desk : Desk) (request : Request) (read : Json → Option α)
    (next : α → Reaction) : Reaction :=
  match read request.params with
  | some params => next params
  | none =>
    (fail desk request invalidParams (utf8 "invalid parameters")).traced
      (traceMark ++ utf8 "invalid parameters for " ++ request.method ++ utf8 ": " ++ jsonFault)

def put (desk : Desk) (uri : Uri) (document : Document) : Desk :=
  { desk with documents := desk.documents.insert uri document }

def documentAt (desk : Desk) (uri : Uri) : Document :=
  (desk.documents.get? uri).getD .blank

/-- Translates the document of a name as it stands and keeps the translation with it, also where
nothing had been kept. Gives the version and the diagnostics. -/
def refresh (w : Workshop) (desk : Desk) (uri : Uri) : Desk × Int × List Diagnostic :=
  let document := documentAt desk uri
  let translation := w.translate document.text
  (put desk uri { document with translation := some translation }, document.version,
    translation.diagnostics)

def publish (uri : Uri) (version : Int) (diagnostics : List Diagnostic) : Outgoing :=
  .notification "textDocument/publishDiagnostics" (.record [
    ("uri", .string uri),
    ("version", .ofInt version),
    ("diagnostics", .array (diagnostics.map Diagnostic.toJson))])

/-- Translates a document again and publishes its diagnostics. -/
def report (w : Workshop) (desk : Desk) (uri : Uri) : Reaction :=
  let (desk, version, diagnostics) := refresh w desk uri
  .send desk (publish uri version diagnostics)

/-- Keeps a new document, at first without a translation. -/
def opened (w : Workshop) (desk : Desk) (params : Params.Opened) : Reaction :=
  report w (put desk params.uri ⟨params.version, params.text, none⟩) params.uri

/-- Gives a document the last of the new texts. The translation of the former text stays with it until
there is another. -/
def change (w : Workshop) (desk : Desk) (params : Params.Changed) : Reaction :=
  match params.texts.getLast? with
  | some text =>
    let document := documentAt desk params.uri
    let desk := put desk params.uri { document with version := params.version, text := text }
    report w desk params.uri
  | none => .silent desk

def close (desk : Desk) (uri : Uri) : Reaction :=
  .silent { desk with documents := desk.documents.erase uri }

def diagnose (w : Workshop) (desk : Desk) (request : Request) (uri : Uri) : Reaction :=
  let (desk, _, diagnostics) := refresh w desk uri
  reply desk request (.record [("kind", .ofString "full"),
    ("items", .array (diagnostics.map Diagnostic.toJson))])

/-- The edit that tidies a text as a whole. -/
def tidyEdit (text : Text) : Json :=
  .record [("range", (Layout.extent text).toJson), ("newText", .string (Layout.tidy text))]

def tidyBeforeSave (desk : Desk) (request : Request) (uri : Uri) : Reaction :=
  (reply desk request (.array [tidyEdit (documentAt desk uri).text])).traced
    (traceMark ++ utf8 "reformatted document")

/-- The translation that a name has, if it has a document and the document has one. -/
def translationAt? (desk : Desk) (uri : Uri) : Option Translation := do
  let document ← desk.documents.get? uri
  document.translation

def hover (desk : Desk) (request : Request) (params : Params.Located) : Reaction :=
  match translationAt? desk params.uri with
  | none => reply desk request .null
  | some translation =>
    match translation.hover params.position with
    | none => reply desk request .null
    | some value =>
      reply desk request (.record [("contents",
        .record [("kind", .ofString "markdown"), ("value", .string value)])])

def translate (desk : Desk) (request : Request) (uri : Uri) : Reaction :=
  match translationAt? desk uri with
  | some translation => reply desk request translation.summary.toJson
  | none =>
    .send desk (.failure (replyId request) invalidParams (utf8 "document is not open: " ++ uri))

/-- What the service can do, in answer to the first request. -/
def capabilities : Json :=
  .record [
    ("capabilities", .record [
      ("textDocumentSync", .ofNat 1),
      ("diagnosticOptions", .record [
        ("workDoneProgress", .bool false),
        ("interFileDependencies", .bool false),
        ("workspaceDiagnostics", .bool false)]),
      ("hoverProvider", .bool true)]),
    ("serverInfo", .record [("name", .ofString "skree")])]

/-- What has to be announced by a call of the service's own. -/
def registrations : Json :=
  .record [("registrations", .array [.record [
    ("id", .ofString "textDocumentSync.willSaveWaitUntil"),
    ("method", .ofString "textDocument/willSaveWaitUntil"),
    ("registerOptions", .record [("documentSelector", .array [.record [
      ("language", .ofString "skree"),
      ("scheme", .ofString "file")]])])]])]

def start (desk : Desk) (request : Request) : Reaction :=
  { desk := { desk with calls := desk.calls + 1 }
    sent := [.result (replyId request) capabilities,
      .call desk.calls "client/registerCapability" registrations]
    traces := [traceMark ++ utf8 "registering remaining capabilities"]
    closed := false }

def handle (w : Workshop) (desk : Desk) (request : Request) : Reaction :=
  match Method.ofName? request.method with
  | some .didOpen => withParams desk request Params.opened? (opened w desk)
  | some .didClose => withParams desk request Params.uri? (close desk)
  | some .didChange => withParams desk request Params.changed? (change w desk)
  | some .start => withParams desk request Params.start? fun _ => start desk request
  | some .started => .silent desk
  | some .diagnostic => withParams desk request Params.uri? (diagnose w desk request)
  | some .willSaveWaitUntil => withParams desk request Params.saved? (tidyBeforeSave desk request)
  | some .hover => withParams desk request Params.located? (hover desk request)
  | some .translate => withParams desk request Params.uri? (translate desk request)
  | some .shutdown => reply desk request .null
  | some .exit => .closing desk
  | none => fail desk request methodNotFound (utf8 "method not supported: " ++ request.method)

/-- The reaction to what has been read. What cannot be read closes the connection. -/
def receive (w : Workshop) (desk : Desk) : Incoming → Reaction
  | .request request =>
    (handle w desk request).traced (traceMark ++ utf8 "received request: " ++ request.method)
  | .response => .silent desk
  | .unreadable => .closing desk

/-- The reaction to a message. -/
def react (w : Workshop) (desk : Desk) (message : Json) : Reaction :=
  receive w desk (Transport.standard.read message)

/-- The reactions to messages one after another, up to one that closes the connection. -/
def converse (w : Workshop) : Desk → List Json → List Reaction
  | _, [] => []
  | desk, message :: rest =>
    let reaction := react w desk message
    if reaction.closed then [reaction] else reaction :: converse w reaction.desk rest

end Service
end Hexaglyph
