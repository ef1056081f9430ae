import Hexaglyph.Command.Invocation
import Hexaglyph.Grading.Assignment
import Hexaglyph.Settings
set_option autoImplicit false

/-! Why a command did not succeed. -/
namespace Hexaglyph

inductive Failure where
  | usage (error : UsageError)
  | settings (error : SettingsError)
  | catalog (error : CatalogError)
  | assignment (error : AssignmentError)
  | file (error : FileError)
  | cannotRead (path : Text) (cause : FileError)
  | tooLarge (path : Text) (size : Nat) (limit : Int)
  | nothingToSave (path : Text)
  | missingPort (address : Text)
deriving DecidableEq

def Failure.message : Failure → Text
  | usage error => error.message
  | settings error => error.message
  | catalog error => error.message
  | assignment error => error.message
  | file error => error.message
  | cannotRead path cause => utf8 "could not read " ++ path ++ utf8 ": " ++ cause.message
  | tooLarge path size limit =>
    path ++ utf8 " is " ++ Text.ofNat size ++ utf8 " bytes, larger than the limit of " ++
      Text.ofInt limit
  | nothingToSave path => path ++ utf8 " has no instructions, nothing to save"
  | missingPort address =>
    utf8 "listen tcp: address " ++ address ++ utf8 ": missing port in address"

end Hexaglyph
