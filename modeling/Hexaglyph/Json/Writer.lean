import Hexaglyph.Json.Basic
import Hexaglyph.Text.Symbol
set_option autoImplicit false

/-! JSON as text, either compact or indented by two blanks a level. Strings are safe inside markup:
angle brackets, ampersands and the two line separators are always escaped. -/
namespace Hexaglyph.Json

/-- A character inside a string. -/
def escapedChar (c : Char) : Text :=
  match c.toNat with
  | 0x22 => utf8 "\\\""
  | 0x5C => utf8 "\\\\"
  | 0x08 => utf8 "\\b"
  | 0x09 => utf8 "\\t"
  | 0x0A => utf8 "\\n"
  | 0x0C => utf8 "\\f"
  | 0x0D => utf8 "\\r"
  | n =>
    if n < 0x20 ∨ n = 0x3C ∨ n = 0x3E ∨ n = 0x26 ∨ n = 0x2028 ∨ n = 0x2029 then
      utf8 "\\u" ++ Text.ofHex .lower 4 n
    else String.utf8EncodeChar c

/-- A text as a string. A stray byte is written as the replacement character, so the result is always
UTF-8. -/
def quoted (t : Text) : Text :=
  utf8 "\"" ++ (Text.symbols t).flatMap (fun s => escapedChar s.shown) ++ utf8 "\""

mutual

/-- The compact text of a value. -/
def render : Json → Text
  | null => utf8 "null"
  | bool true => utf8 "true"
  | bool false => utf8 "false"
  | number literal => literal
  | string value => quoted value
  | array items => utf8 "[" ++ renderItems items ++ utf8 "]"
  | object members => utf8 "\x7b" ++ renderMembers members ++ utf8 "\x7d"

def renderItems : List Json → Text
  | [] => []
  | [item] => render item
  | item :: next :: rest => render item ++ utf8 "," ++ renderItems (next :: rest)

def renderMembers : List (Text × Json) → Text
  | [] => []
  | [(name, value)] => quoted name ++ utf8 ":" ++ render value
  | (name, value) :: next :: rest =>
    quoted name ++ utf8 ":" ++ render value ++ utf8 "," ++ renderMembers (next :: rest)

end

/-- A line break and the indentation of a level. -/
def newLine (level : Nat) : Text :=
  Text.lineFeed :: List.replicate (2 * level) 0x20

mutual

/-- The indented text of a value that stands at a level. Empty lists and objects stay closed. -/
def renderIndented (level : Nat) : Json → Text
  | array [] => utf8 "[]"
  | array (item :: items) =>
    utf8 "[" ++ indentedItems (level + 1) (item :: items) ++ newLine level ++ utf8 "]"
  | object [] => utf8 "\x7b\x7d"
  | object (member :: members) =>
    utf8 "\x7b" ++ indentedMembers (level + 1) (member :: members) ++ newLine level ++ utf8 "\x7d"
  | value => render value

def indentedItems (level : Nat) : List Json → Text
  | [] => []
  | [item] => newLine level ++ renderIndented level item
  | item :: next :: rest =>
    newLine level ++ renderIndented level item ++ utf8 "," ++ indentedItems level (next :: rest)

def indentedMembers (level : Nat) : List (Text × Json) → Text
  | [] => []
  | [(name, value)] => newLine level ++ quoted name ++ utf8 ": " ++ renderIndented level value
  | (name, value) :: next :: rest =>
    newLine level ++ quoted name ++ utf8 ": " ++ renderIndented level value ++ utf8 "," ++
      indentedMembers level (next :: rest)

end

end Hexaglyph.Json
