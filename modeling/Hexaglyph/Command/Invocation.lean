import Hexaglyph.Command.Options
set_option autoImplicit false

/-! Command lines: a command, flags before or after it, and arguments. -/
namespace Hexaglyph
namespace Usage

/-- Whether a word is a flag that takes the next word as its value. A flag that is not known is
believed to do so. -/
def takesNext (known : List Flag) (word : Text) : Bool :=
  ! word.contains equalsSign &&
    (if dashes.isPrefixOf word then
      ! ((flagNamed? known (word.drop 2)).map Flag.isSwitch).getD false
    else word.head? == some dash && word.length == 2)

/-- The first word that is neither a flag nor the value of one. The last word is never looked at when
the flag before it takes a value. -/
def firstWord? (known : List Flag) : List Text → Option Text
  | [] => none
  | word :: rest =>
    if word == dashes then none
    else if takesNext known word then
      match rest with
      | _ :: next :: more => firstWord? known (next :: more)
      | _ => none
    else if ! word.isEmpty && word.head? != some dash then some word
    else firstWord? known rest

/-- The words without the first that equals `x` and is neither a flag nor the value of one. -/
def without (known : List Flag) (x : Text) : List Text → List Text
  | [] => []
  | word :: rest =>
    if word == dashes then word :: rest
    else if takesNext known word then
      match rest with
      | value :: more => word :: value :: without known x more
      | [] => [word]
    else if word.head? != some dash && word == x then rest
    else word :: without known x rest

end Usage

/-- A command line that has been understood. -/
inductive Invocation where
  | help
  | run (command : Command) (options : Options) (arguments : List Text)
deriving DecidableEq

namespace Invocation

/-- The commands with their arguments and flags, one a line. -/
def helpText : Text :=
  utf8 "Usage:\n" ++ Command.all.flatMap fun command =>
    let flags := (globalFlags ++ command.ownFlags).map fun flag => "[" ++ flag.shown ++ "]"
    utf8 "  " ++ Text.join [0x20] (programName :: utf8 command.name ::
      (command.arguments ++ flags).map utf8) ++ [Text.lineFeed]

/-- Refuses arguments that a command does not take. -/
def checkArguments (command : Command) (arguments : List Text) : Except UsageError Unit :=
  match command.arity, arguments with
  | 0, word :: _ =>
    .error (.unknownCommand word (programName ++ utf8 " " ++ utf8 command.name))
  | wanted, _ =>
    if arguments.length = wanted then .ok () else .error (.wrongCount wanted arguments.length)

/-- Understands a command line. Mistakes in flags are reported before those in arguments. -/
def parse (words : List Text) : Except UsageError Invocation := do
  match Usage.firstWord? globalFlags words with
  | none =>
    let _ ← Usage.read (.help :: globalFlags) .defaults words
    return .help
  | some word =>
    match Command.ofName? word with
    | none =>
      if word == utf8 Flag.help.name then return .help
      else .error (.unknownCommand word programName)
    | some command =>
      let known := .help :: globalFlags ++ command.ownFlags
      let (options, arguments) ←
        Usage.read known .defaults (Usage.without globalFlags word words)
      if options.help then return .help
      checkArguments command arguments
      return .run command options arguments

end Invocation
end Hexaglyph
