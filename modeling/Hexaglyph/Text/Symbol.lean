import Hexaglyph.Text.Basic
set_option autoImplicit false

/-! A text as symbols: the characters it spells in UTF-8, and the stray bytes that belong to none.
No byte is lost, so a text is always the bytes of its symbols. -/
namespace Hexaglyph

/-- What a text is read as: a character, or a byte that starts no valid encoding. -/
inductive Symbol where
  | char (c : Char)
  | stray (byte : UInt8)
deriving DecidableEq

namespace Symbol

/-- The bytes a symbol was read from. -/
def bytes : Symbol → Text
  | char c => String.utf8EncodeChar c
  | stray byte => [byte]

/-- The character a symbol counts as: the replacement character stands for a stray byte. -/
def shown : Symbol → Char
  | char c => c
  | stray _ => Char.ofNat 0xFFFD

/-- The number of UTF-16 units, which is how editors count columns. -/
def units (s : Symbol) : Nat :=
  if 0x10000 ≤ s.shown.toNat then 2 else 1

end Symbol

/-- Blanks separate glyphs. These are the 25 characters with the White_Space property. -/
def isBlank (c : Char) : Bool :=
  let n := c.toNat
  decide (9 ≤ n ∧ n ≤ 13) || n == 0x20 || n == 0x85 || n == 0xA0 || n == 0x1680 ||
    decide (0x2000 ≤ n ∧ n ≤ 0x200A) || n == 0x2028 || n == 0x2029 || n == 0x202F ||
    n == 0x205F || n == 0x3000

def Symbol.isBlank (s : Symbol) : Bool :=
  Hexaglyph.isBlank s.shown

namespace Text

/-- The character whose encoding the text begins with. -/
def firstChar? (t : Text) : Option Char :=
  (t.take 4).toByteArray.utf8DecodeChar? 0

/-- The symbols of a text from which `skip` more bytes of the last character are still to pass. -/
def symbolsAfter : Nat → Text → List Symbol
  | _, [] => []
  | skip + 1, _ :: rest => symbolsAfter skip rest
  | 0, byte :: rest =>
    match firstChar? (byte :: rest) with
    | some c => .char c :: symbolsAfter (c.utf8Size - 1) rest
    | none => .stray byte :: symbolsAfter 0 rest

/-- The symbols of a text. -/
def symbols (t : Text) : List Symbol :=
  symbolsAfter 0 t

/-- The bytes of a list of symbols. -/
def ofSymbols (symbols : List Symbol) : Text :=
  symbols.flatMap Symbol.bytes

/-- The number of UTF-16 units of a text. -/
def units (t : Text) : Nat :=
  (symbols t).foldr (fun symbol count => symbol.units + count) 0

/-- The words of a text: its longest runs without a blank, in order. -/
def words (t : Text) : List Text :=
  ((pieces Symbol.isBlank (symbols t)).filter (! ·.isEmpty)).map ofSymbols

/-- A text without the blanks at both ends. -/
def trim (t : Text) : Text :=
  ofSymbols (((symbols t).dropWhile Symbol.isBlank).reverse.dropWhile Symbol.isBlank).reverse

/-- A text with each stray byte replaced by the replacement character, which makes it UTF-8. -/
def mend (t : Text) : Text :=
  (symbols t).flatMap fun s => String.utf8EncodeChar s.shown

end Text
end Hexaglyph
