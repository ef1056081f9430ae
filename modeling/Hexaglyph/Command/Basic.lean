import Hexaglyph.Text.Basic
set_option autoImplicit false

/-! The commands of the program and the flags they take. -/
namespace Hexaglyph

inductive Command where
  | translate
  | exportListing
  | catalog
  | languageServer
  | serve
  | grade
deriving DecidableEq

inductive Flag where
  | config
  | catalog
  | debug
  | help
  | gloss
  | noComments
  | tcp
  | addr
deriving DecidableEq

namespace Flag

def name : Flag → String
  | config => "config"
  | catalog => "catalog"
  | debug => "debug"
  | help => "help"
  | gloss => "gloss"
  | noComments => "no-comments"
  | tcp => "tcp"
  | addr => "addr"

/-- A switch needs no value; all other flags take one. -/
def isSwitch : Flag → Bool
  | config => false
  | catalog => false
  | addr => false
  | _ => true

/-- The flag as an error message shows it. -/
def shown : Flag → String
  | help => "-h, --help"
  | flag => "--" ++ flag.name

end Flag

/-- The flags that every command takes. -/
def globalFlags : List Flag :=
  [.config, .catalog, .debug]

namespace Command

def all : List Command :=
  [translate, exportListing, catalog, languageServer, serve, grade]

def name : Command → String
  | translate => "translate"
  | exportListing => "export"
  | catalog => "catalog"
  | languageServer => "languageServer"
  | serve => "serve"
  | grade => "grade"

def ofName? (text : Text) : Option Command :=
  all.find? fun command => utf8 command.name == text

def ownFlags : Command → List Flag
  | translate => [.gloss, .noComments]
  | languageServer => [.tcp]
  | serve => [.addr]
  | _ => []

/-- The arguments, as help shows them. -/
def arguments : Command → List String
  | translate => ["sourceFile"]
  | exportListing => ["sourceFile", "crystalFile"]
  | grade => ["autograderConfig"]
  | _ => []

/-- The number of arguments. -/
def arity (command : Command) : Nat :=
  command.arguments.length

end Command

/-- The name of the program on the command line. -/
def programName : Text := utf8 "skree"

end Hexaglyph
