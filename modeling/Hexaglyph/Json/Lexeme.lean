import Hexaglyph.Json.Basic
import Hexaglyph.Text.Symbol
set_option autoImplicit false

/-! JSON text as lexemes, read in one pass over the bytes. Everything about the spelling of strings
and numbers is settled here; the nesting is left to the reader. -/
namespace Hexaglyph.Json

/-- The six marks of the grammar. -/
inductive Mark where
  | openList
  | closeList
  | openObject
  | closeObject
  | colon
  | comma
deriving DecidableEq

inductive Lexeme where
  | mark (m : Mark)
  | scalar (value : Json)

/-- A piece of a string: a byte that stands for itself, or a UTF-16 unit written by number. -/
inductive Piece where
  | byte (b : UInt8)
  | unit (u : Nat)

def isHighSurrogate (u : Nat) : Bool :=
  0xD800 ≤ u && u < 0xDC00

def isLowSurrogate (u : Nat) : Bool :=
  0xDC00 ≤ u && u < 0xE000

/-- A unit alone; half a surrogate pair becomes the replacement character. -/
def unitChar (u : Nat) : Char :=
  if isHighSurrogate u || isLowSurrogate u then Char.ofNat 0xFFFD else Char.ofNat u

/-- The bytes of a string. Two units that form a surrogate pair are one character. -/
def assemble : List Piece → Text
  | [] => []
  | .byte b :: rest => b :: assemble rest
  | .unit high :: .unit low :: rest =>
    if isHighSurrogate high && isLowSurrogate low then
      String.utf8EncodeChar (Char.ofNat (0x10000 + (high - 0xD800) * 0x400 + (low - 0xDC00))) ++
        assemble rest
    else String.utf8EncodeChar (unitChar high) ++ assemble (.unit low :: rest)
  | .unit u :: rest => String.utf8EncodeChar (unitChar u) ++ assemble rest

/-- The text a string stands for, always UTF-8. -/
def stringText (pieces : List Piece) : Text :=
  Text.mend (assemble pieces)

/-- At least one digit, and what follows the digits. -/
def digits? (t : Text) : Option Text :=
  if (t.takeWhile Text.isDigit).isEmpty then none else some (t.dropWhile Text.isDigit)

/-- An integer part: a zero alone, or digits that do not begin with one. -/
def integerPart? : Text → Option Text
  | 0x30 :: rest => some rest
  | t => digits? t

def fraction? : Text → Option Text
  | 0x2E :: rest => digits? rest
  | t => some t

def exponent? : Text → Option Text
  | 0x65 :: 0x2B :: rest => digits? rest
  | 0x65 :: 0x2D :: rest => digits? rest
  | 0x65 :: rest => digits? rest
  | 0x45 :: 0x2B :: rest => digits? rest
  | 0x45 :: 0x2D :: rest => digits? rest
  | 0x45 :: rest => digits? rest
  | t => some t

/-- Whether a text is a number of the grammar. -/
def isNumber (t : Text) : Bool :=
  let unsigned := match t with
    | 0x2D :: rest => rest
    | _ => t
  (integerPart? unsigned >>= fraction? >>= exponent?) == some []

/-- A value written without quotes. -/
def bare? (word : Text) : Option Json :=
  if word == utf8 "null" then some .null
  else if word == utf8 "true" then some (.bool true)
  else if word == utf8 "false" then some (.bool false)
  else if isNumber word then some (.number word)
  else none

def mark? : UInt8 → Option Mark
  | 0x5B => some .openList
  | 0x5D => some .closeList
  | 0x7B => some .openObject
  | 0x7D => some .closeObject
  | 0x3A => some .colon
  | 0x2C => some .comma
  | _ => none

/-- The four blanks of the grammar. -/
def isGap (b : UInt8) : Bool :=
  b == 0x20 || b == 0x09 || b == 0x0A || b == 0x0D

/-- The byte a one-letter escape stands for. -/
def escapeByte? : UInt8 → Option UInt8
  | 0x22 => some 0x22
  | 0x5C => some 0x5C
  | 0x2F => some 0x2F
  | 0x62 => some 0x08
  | 0x66 => some 0x0C
  | 0x6E => some 0x0A
  | 0x72 => some 0x0D
  | 0x74 => some 0x09
  | _ => none

/-- Where in a lexeme the pass stands. What has been read of it is kept last byte first. -/
inductive Place where
  | between
  | inWord (soFar : Text)
  | inString (soFar : List Piece)
  | inEscape (soFar : List Piece)
  | inUnit (soFar : List Piece) (missing : Nat) (value : Nat)

/-- A pass over the bytes: the place, and the lexemes finished so far, the last one first. -/
structure Scan where
  place : Place
  done : List Lexeme

/-- Reads a byte that starts a lexeme or separates two. -/
def Scan.start (done : List Lexeme) (b : UInt8) : Scan :=
  if isGap b then ⟨.between, done⟩
  else if b == 0x22 then ⟨.inString [], done⟩
  else
    match mark? b with
    | some m => ⟨.between, .mark m :: done⟩
    | none => ⟨.inWord [b], done⟩

/-- Ends a word, which must be a value. -/
def Scan.endWord (done : List Lexeme) (soFar : Text) : Option (List Lexeme) :=
  (bare? soFar.reverse).map fun value => .scalar value :: done

def Scan.step (scan : Scan) (b : UInt8) : Option Scan :=
  match scan.place with
  | .between => some (Scan.start scan.done b)
  | .inWord soFar =>
    if isGap b || b == 0x22 || (mark? b).isSome then
      (Scan.endWord scan.done soFar).map fun done => Scan.start done b
    else some ⟨.inWord (b :: soFar), scan.done⟩
  | .inString soFar =>
    if b == 0x22 then some ⟨.between, .scalar (.string (stringText soFar.reverse)) :: scan.done⟩
    else if b == 0x5C then some ⟨.inEscape soFar, scan.done⟩
    else if b < 0x20 then none
    else some ⟨.inString (.byte b :: soFar), scan.done⟩
  | .inEscape soFar =>
    if b == 0x75 then some ⟨.inUnit soFar 3 0, scan.done⟩
    else (escapeByte? b).map fun byte => ⟨.inString (.byte byte :: soFar), scan.done⟩
  | .inUnit soFar missing value =>
    (hexValue? b).map fun digit =>
      match missing with
      | 0 => ⟨.inString (.unit (16 * value + digit) :: soFar), scan.done⟩
      | more + 1 => ⟨.inUnit soFar more (16 * value + digit), scan.done⟩

/-- The lexemes of a pass over all the bytes; it must not end inside a string. -/
def Scan.finish (scan : Scan) : Option (List Lexeme) :=
  match scan.place with
  | .between => some scan.done.reverse
  | .inWord soFar => (Scan.endWord scan.done soFar).map List.reverse
  | _ => none

def lexemes? (t : Text) : Option (List Lexeme) :=
  t.foldlM Scan.step ⟨.between, []⟩ >>= Scan.finish

end Hexaglyph.Json
