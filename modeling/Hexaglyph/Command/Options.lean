import Hexaglyph.Command.Basic
import Hexaglyph.Text.Digits
import Hexaglyph.Text.Quoted
set_option autoImplicit false

/-! What the flags of a command line say, and what can be wrong with a command line. -/
namespace Hexaglyph

inductive UsageError where
  | unknownCommand (word path : Text)
  | wrongCount (wanted received : Nat)
  | badSyntax (word : Text)
  | unknownFlag (name : Text)
  | unknownShorthand (letter : UInt8) (letters : Text)
  | needsArgument (word : Text)
  | invalidSwitch (flag : Flag) (value : Text)
deriving DecidableEq

/-- A byte as a character between single quotes. -/
def quotedLetter (letter : UInt8) : Text :=
  let c := Char.ofNat letter.toNat
  utf8 "'" ++ (if c = '"' then utf8 "\"" else if c = '\'' then utf8 "\\'" else quotedChar c) ++ utf8 "'"

def UsageError.message : UsageError → Text
  | unknownCommand word path =>
    utf8 "unknown command " ++ Text.quoted word ++ utf8 " for " ++ Text.quoted path
  | wrongCount wanted received =>
    utf8 "accepts " ++ Text.ofNat wanted ++ utf8 " arg(s), received " ++ Text.ofNat received
  | badSyntax word => utf8 "bad flag syntax: " ++ word
  | unknownFlag name => utf8 "unknown flag: --" ++ name
  | unknownShorthand letter letters =>
    utf8 "unknown shorthand flag: " ++ quotedLetter letter ++ utf8 " in -" ++ letters
  | needsArgument word => utf8 "flag needs an argument: " ++ word
  | invalidSwitch flag value =>
    utf8 "invalid argument " ++ Text.quoted value ++ utf8 " for " ++
      Text.quoted (utf8 flag.shown) ++ utf8 " flag: strconv.ParseBool: parsing " ++
      Text.quoted value ++ utf8 ": invalid syntax"

/-- What the flags say. -/
structure Options where
  config : Text
  catalog : Text
  debug : Bool
  help : Bool
  gloss : Bool
  noComments : Bool
  tcp : Bool
  addr : Text
deriving DecidableEq

namespace Options

def defaults : Options :=
  ⟨[], [], false, false, false, false, false, []⟩

/-- The value of a switch, which can be written in several ways. -/
def switch? (value : Text) : Option Bool :=
  if ["1", "t", "T", "true", "TRUE", "True"].any fun word => utf8 word == value then some true
  else if ["0", "f", "F", "false", "FALSE", "False"].any fun word => utf8 word == value then
    some false
  else none

def setSwitch (o : Options) (flag : Flag) (value : Bool) : Options :=
  match flag with
  | .debug => { o with debug := value }
  | .help => { o with help := value }
  | .gloss => { o with gloss := value }
  | .noComments => { o with noComments := value }
  | .tcp => { o with tcp := value }
  | _ => o

def setText (o : Options) (flag : Flag) (value : Text) : Options :=
  match flag with
  | .config => { o with config := value }
  | .catalog => { o with catalog := value }
  | .addr => { o with addr := value }
  | _ => o

def set (o : Options) (flag : Flag) (value : Text) : Except UsageError Options :=
  if flag.isSwitch then
    match switch? value with
    | some on => .ok (o.setSwitch flag on)
    | none => .error (.invalidSwitch flag value)
  else .ok (o.setText flag value)

end Options

namespace Usage

def dash : UInt8 := 0x2D

def equalsSign : UInt8 := 0x3D

def dashes : Text := [dash, dash]

def flagNamed? (known : List Flag) (name : Text) : Option Flag :=
  known.find? fun flag => utf8 flag.name == name

/-- Letters that begin so belong to whoever runs the tests of a program, and are passed over. -/
def testLetters : Text := utf8 "test."

/-- Reads the letters after a single dash. Only the letter for help is known. -/
def readLetters (o : Options) : Text → Except UsageError Options
  | [] => .ok o
  | letter :: rest =>
    if testLetters.isPrefixOf (letter :: rest) then .ok o
    else if letter != 0x68 then .error (.unknownShorthand letter (letter :: rest))
    else
      match rest with
      | 0x3D :: b :: value => o.set .help (b :: value)
      | _ => readLetters { o with help := true } rest

/-- Reads words into options and arguments. -/
def read (known : List Flag) : Options → List Text → Except UsageError (Options × List Text)
  | o, [] => .ok (o, [])
  | o, word :: rest =>
    if word.length < 2 || word.head? != some dash then do
      let (o, arguments) ← read known o rest
      return (o, word :: arguments)
    else if word == dashes then .ok (o, rest)
    else if dashes.isPrefixOf word then
      let body := word.drop 2
      if body.head? == some dash || body.head? == some equalsSign then .error (.badSyntax word)
      else
        let name := body.takeWhile (· != equalsSign)
        match flagNamed? known name with
        | none => .error (.unknownFlag name)
        | some flag =>
          if body.contains equalsSign then do
            let o ← o.set flag (body.drop (name.length + 1))
            read known o rest
          else if flag.isSwitch then read known (o.setSwitch flag true) rest
          else
            match rest with
            | value :: more => do
              let o ← o.set flag value
              read known o more
            | [] => .error (.needsArgument word)
    else do
      let o ← readLetters o (word.drop 1)
      read known o rest

end Usage
end Hexaglyph
