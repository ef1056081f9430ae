import Hexaglyph.Text.Digits
import Hexaglyph.Text.Printable
import Hexaglyph.Text.Symbol
set_option autoImplicit false

/-! Text in double quotes for messages. What a reader could not see on a screen is written by its
number, so no two texts look the same. -/
namespace Hexaglyph

/-- The escape of a control character that has a letter of its own. -/
def controlLetter? (c : Char) : Option UInt8 :=
  match c.toNat with
  | 0x07 => some 0x61
  | 0x08 => some 0x62
  | 0x09 => some 0x74
  | 0x0A => some 0x6E
  | 0x0B => some 0x76
  | 0x0C => some 0x66
  | 0x0D => some 0x72
  | _ => none

def quotedChar (c : Char) : Text :=
  let n := c.toNat
  if c = '"' ∨ c = '\\' then 0x5C :: String.utf8EncodeChar c
  else if isPrintable c then String.utf8EncodeChar c
  else
    match controlLetter? c with
    | some letter => [0x5C, letter]
    | none =>
      if n < 0x20 ∨ n = 0x7F then utf8 "\\x" ++ Text.ofHex .lower 2 n
      else if n < 0x10000 then utf8 "\\u" ++ Text.ofHex .lower 4 n
      else utf8 "\\U" ++ Text.ofHex .lower 8 n

def Symbol.quoted : Symbol → Text
  | char c => quotedChar c
  | stray byte => utf8 "\\x" ++ Text.ofByte .lower byte

/-- A text in double quotes. -/
def Text.quoted (t : Text) : Text :=
  utf8 "\"" ++ (symbols t).flatMap Symbol.quoted ++ utf8 "\""

end Hexaglyph
