import Hexaglyph.Catalog.Builtin
import Hexaglyph.Catalog.Document
import Hexaglyph.Command.Failure
import Hexaglyph.Command.Host
import Hexaglyph.Editor.Frame
import Hexaglyph.Editor.Service
import Hexaglyph.Grading.Grade
import Hexaglyph.Text.Columns
set_option autoImplicit false

/-! The commands. Each is written for any host, so the same definitions act on real files and on
files that are values. -/
namespace Hexaglyph

/-- What is left to do when a command has said all it can say by itself. -/
inductive Remaining where
  | nothing
  /-- Speak with an editor over the standard input and output. -/
  | converse (w : Workshop) (tracer : Tracer)
  /-- Serve the connections that arrive at an address. -/
  | listen (address : Text)

/-- What every command works with. -/
structure Bench where
  settings : Settings
  catalog : Catalog
  tracer : Tracer

namespace Bench

def translator (b : Bench) : Translator :=
  ⟨b.catalog, .ofList b.settings.registerQueue⟩

def workshop (b : Bench) : Workshop :=
  ⟨b.translator, b.settings.maxInputBytes⟩

end Bench

namespace Command

variable {m : Type → Type} [Monad m] [Host m]

/-- A step that may fail in a way of its own. -/
def orFail {ε α : Type} (wrap : ε → Failure) : Except ε α → ExceptT Failure m α
  | .ok a => pure a
  | .error e => throw (wrap e)

/-- The warning about a glyph with more than one definition. -/
def overlapWarning (o : Overlap) : Text :=
  utf8 "warning: glyph " ++ Text.quoted o.glyph ++ utf8 " is defined more than once, the " ++
    utf8 o.resolved.name ++ utf8 " wins over the " ++
    Text.join (utf8 " and ") (o.shadowed.map fun role => utf8 role.name)

/-- A fault of the file that a catalog was to be read from. -/
def catalogFault (cause : FileError) : CatalogFault :=
  match cause.action with
  | .reading => .cannotRead cause.message
  | _ => .cannotOpen cause.message

/-- The catalog that reading a path gave. -/
def catalogOfRead (path : Text) : Except FileError Text → Except CatalogError Catalog
  | .ok contents => Catalog.load path (.ok contents)
  | .error cause => .error ⟨path, catalogFault cause⟩

/-- Loads the catalog at a path and warns about its overlaps; without a path, the built-in one. -/
def loadCatalog (path : Text) : ExceptT Failure m Catalog :=
  if path.isEmpty then pure Catalog.builtin
  else do
    let read ← Host.readFile (m := m) path
    let catalog ← orFail .catalog (catalogOfRead path read)
    catalog.overlaps.forM fun overlap => Host.log (m := m) (overlapWarning overlap)
    return catalog

/-- A rotation as a trace shows it. -/
def queueText (queue : List UInt8) : Text :=
  utf8 "[" ++ Text.join [0x20] (queue.map fun register => Text.ofNat register.toNat) ++ utf8 "]"

/-- Loads the settings and the catalog. -/
def setUp (options : Options) : ExceptT Failure m Bench := do
  let path := Settings.pathFor options.config
  let read ← Host.readFile (m := m) path
  let settings ← orFail .settings (Settings.ofRead path read)
  let tracer : Tracer := ⟨options.debug, settings.logEndpoint⟩
  let catalog ← loadCatalog (if options.catalog.isEmpty then settings.catalogPath else options.catalog)
  Host.trace (m := m) tracer (utf8 "catalog " ++ catalog.source ++ utf8 ": " ++
    Text.ofNat catalog.size ++ utf8 " glyphs, register queue " ++ queueText settings.registerQueue)
  return ⟨settings, catalog, tracer⟩

/-- The program at a path; a dash stands for the standard input. -/
def readProgram (path : Text) : m (Except FileError Text) :=
  if path == [Usage.dash] then return .ok (← Host.readInput)
  else Host.readFile path

/-- Translates the program at a path and reports its problems. -/
def translateFile (b : Bench) (path : Text) : ExceptT Failure m Translation := do
  let read ← readProgram (m := m) path
  let program ← orFail (.cannotRead path) read
  if b.settings.maxInputBytes < program.length then
    throw (.tooLarge path program.length b.settings.maxInputBytes)
  let t := b.translator.translate program
  t.diagnostics.forM fun d =>
    Host.complain (m := m) (utf8 "\t" ++ d.report (Path.base path) ++ [Text.lineFeed])
  return t

def printListing (b : Bench) (options : Options) (path : Text) : ExceptT Failure m Unit := do
  let t ← translateFile b path
  Host.print (m := m) (t.listing (! options.noComments))
  if options.gloss then
    Host.print (m := m) [Text.lineFeed]
    t.gloss.forM fun line => Host.print (m := m) (line ++ [Text.lineFeed])

/-- The file that a listing is saved to: without an extension it gets the usual one. -/
def listingPath (path : Text) : Text :=
  if Path.hasExtension path then path else path ++ utf8 ".sk6"

def saveListing (b : Bench) (path target : Text) : ExceptT Failure m Unit := do
  let t ← translateFile b path
  if t.lines.isEmpty then throw (.nothingToSave path)
  let target := listingPath target
  let written ← Host.writeFile (m := m) target (t.listing true)
  orFail .file written
  Host.print (m := m) (utf8 "Saved " ++ Text.ofNat t.lines.length ++ utf8 " instructions to " ++
    target ++ [Text.lineFeed])

/-- The cells of a glyph in the table of a catalog. -/
def catalogRow (glyph : Text) : Option Definition → List Text
  | some (.instruction i) =>
    [glyph, utf8 "instruction", i.name, i.opcode, utf8 (Arity.ofCode i.code).name, i.meaning]
  | some (.modifier x) => [glyph, utf8 "modifier", x.name, [], [], x.function]
  | some (.augmenter x) => [glyph, utf8 "augmenter", x.name, [], [], x.effect]
  | none => []

/-- The glyphs of a catalog in columns. -/
def catalogTable (c : Catalog) : Text :=
  let header := ["GLYPH", "ROLE", "NAME", "OPCODE", "ENCODING", "MEANING"].map utf8
  let rows := header :: c.glyphs.map fun glyph => catalogRow glyph (c.lookup glyph)
  Columns.align (rows.flatMap fun row => Text.join [0x09] row ++ [Text.lineFeed])

def printCatalog (b : Bench) : ExceptT Failure m Unit :=
  Host.print (m := m) (catalogTable b.catalog)

/-- Saves a document with the directory it goes to. -/
def saveDocument (path document : Text) : ExceptT Failure m Unit := do
  let made ← Host.makeDirectories (m := m) (Path.directory path)
  orFail .file made
  let written ← Host.writeFile (m := m) path document
  orFail .file written

def gradeCases (tr : Translator) (tracer : Tracer) (a : Assignment) :
    List TestCase → m (List CaseResult)
  | [] => return []
  | c :: rest => do
    let contents ← Host.readFile (a.programPath c)
    let result := Grading.gradeCase tr c contents
    result.traces.forM (Host.trace tracer)
    let results ← gradeCases tr tracer a rest
    return result :: results

def printGrade (b : Bench) (path : Text) : ExceptT Failure m Unit := do
  let read ← Host.readFile (m := m) path
  let a ← orFail .assignment (Assignment.ofRead path read)
  let catalog ← if a.catalogPath.isEmpty then pure b.catalog else loadCatalog a.catalogPath
  let queue := if a.registerQueue.isEmpty then b.settings.registerQueue else a.registerQueue
  let results ← gradeCases (m := m) ⟨catalog, .ofList queue⟩ b.tracer a a.testCases
  let sheet := Grading.sheet a results
  saveDocument a.resultsPath sheet.document
  Host.print (m := m) (a.name ++ utf8 ": " ++ Text.ofInt sheet.score ++ utf8 "/" ++
    Text.ofInt sheet.maxScore ++ utf8 ", results in " ++ a.resultsPath ++ [Text.lineFeed])

/-- Goes on to listen at an address. It must have a port, unless it is left open altogether. -/
def listen (address : Text) : ExceptT Failure m Remaining :=
  if address.isEmpty || address.contains 0x3A then pure (.listen address)
  else throw (.missingPort address)

def openPage (b : Bench) (options : Options) : ExceptT Failure m Remaining := do
  let address := if options.addr.isEmpty then b.settings.webAddr else options.addr
  Host.log (m := m) (utf8 "Open the glyph editor at http://localhost" ++ address)
  listen address

/-- Runs a command that has been set up. -/
def perform (command : Command) (options : Options) (arguments : List Text) (b : Bench) :
    ExceptT Failure m Remaining :=
  match command, arguments with
  | .translate, path :: _ => do
    printListing b options path
    return .nothing
  | .exportListing, path :: target :: _ => do
    saveListing b path target
    return .nothing
  | .catalog, _ => do
    printCatalog b
    return .nothing
  | .grade, path :: _ => do
    printGrade b path
    return .nothing
  | .languageServer, _ =>
    if options.tcp then listen b.settings.languageServerAddr
    else return .converse b.workshop b.tracer
  | .serve, _ => openPage b options
  | _, _ => return .nothing

/-- Runs a command line. -/
def run (words : List Text) : ExceptT Failure m Remaining := do
  match ← orFail .usage (Invocation.parse words) with
  | .help =>
    Host.print (m := m) Invocation.helpText
    return .nothing
  | .run command options arguments =>
    let b ← setUp options
    perform command options arguments b

end Command

/-- The bytes that a reaction of the editor service writes. -/
def Reaction.frames (r : Reaction) : Text :=
  r.sent.flatMap fun message => Frame.encode message.toJson

/-- How a run ended. -/
structure Outcome where
  failure : Option Failure
  world : Sandbox

namespace Outcome

/-- The world after a conversation over its input and output. -/
def afterConversation (w : Workshop) (tracer : Tracer) (s : Sandbox) : Sandbox :=
  let reactions := Service.converse w .empty (Frame.messages (.ofText s.input))
  { s with
    output := s.output ++ reactions.flatMap Reaction.frames
    trace := s.trace ++ reactions.flatMap fun r => r.traces.flatMap tracer.written }

/-- Runs a command line in a world that is a value. Listening leaves it as it is. -/
def ofCommand (files : FileSystem) (input : Text) (words : List Text) : Outcome :=
  match (Command.run words : ExceptT Failure (StateM Sandbox) Remaining).run
      (Sandbox.start files input) with
  | (.error failure, s) => ⟨some failure, s⟩
  | (.ok (.converse w tracer), s) => ⟨none, afterConversation w tracer s⟩
  | (.ok _, s) => ⟨none, s⟩

end Outcome
end Hexaglyph
