import Hexaglyph.Text.Digits
import Hexaglyph.Files.Path
set_option autoImplicit false

/-! Percent encoding in addresses. -/
namespace Hexaglyph.Url

def isUnreserved (b : UInt8) : Bool :=
  Text.isDigit b || (0x41 ≤ b && b ≤ 0x5A) || (0x61 ≤ b && b ≤ 0x7A) ||
    b == 0x2D || b == 0x5F || b == 0x2E || b == 0x7E

/-- The parts of an address that are encoded, each with plain bytes of its own. -/
inductive Part where
  | path
  | user
  | host
  | fragment
deriving DecidableEq

namespace Part

/-- The marks that are written as they are in a part, beside letters and digits. -/
def marks : Part → String
  | path => "$&+,/:;=@"
  | user => "$&+,;="
  | host => "!$&'()*+,;=:[]<>\""
  | fragment => "!$&()*+,/:;=?@"

def isPlain (part : Part) (b : UInt8) : Bool :=
  isUnreserved b || (utf8 part.marks).contains b

/-- The bytes that a part may hold once it is encoded. -/
def isAllowed (part : Part) (b : UInt8) : Bool :=
  part.isPlain b || (utf8 "!$&'()*+,;=:@[]%").contains b

def encodeByte (b : UInt8) : Text :=
  0x25 :: Text.ofByte .upper b

def encode (part : Part) (t : Text) : Text :=
  t.flatMap fun b => if part.isPlain b then [b] else encodeByte b

end Part

/-- The bytes an encoded text stands for; a percent sign must be followed by two digits. -/
def decode? : Text → Option Text
  | [] => some []
  | 0x25 :: high :: low :: rest => do
    let b ← Text.toByte? [high, low]
    let decoded ← decode? rest
    return b :: decoded
  | 0x25 :: _ => none
  | b :: rest => (decode? rest).map (b :: ·)

/-- A part in encoded form. One that is encoded already is kept as it is written. -/
def encoded? (part : Part) (t : Text) : Option Text := do
  let decoded ← decode? t
  return if t.all part.isAllowed then t else part.encode decoded

/-- A path without dots and repeated slashes; a slash at its end is kept. -/
def cleanPath (path : Text) : Text :=
  let rooted := if Path.isRooted path then path else Path.slash :: path
  let cleaned := Path.clean rooted
  if rooted.getLast? == some Path.slash && cleaned != [Path.slash] then cleaned ++ [Path.slash]
  else cleaned

/-- Splits a text at the first of a byte, which is dropped; without it the second part is missing. -/
def cut (b : UInt8) (t : Text) : Text × Option Text :=
  match t.dropWhile (· != b) with
  | [] => (t, none)
  | _ :: rest => (t.takeWhile (· != b), some rest)

end Hexaglyph.Url
