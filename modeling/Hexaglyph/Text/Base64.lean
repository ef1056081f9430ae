import Hexaglyph.Text.Basic
set_option autoImplicit false

/-! Bytes as padded base64, which may be broken into lines. The bytes are put over those that stand in
their places already. As long as digits stand together and there is room, two groups or one are put down
at a time in eight or four bytes, of which the last two or the last one are zero. -/
namespace Hexaglyph.Base64

def isBreak (b : UInt8) : Bool :=
  b == 0x0A || b == 0x0D

def pad : UInt8 := 0x3D

/-- The value of a digit. -/
def value? (digit : UInt8) : Option Nat :=
  let n := digit.toNat
  if 0x41 ≤ n ∧ n ≤ 0x5A then some (n - 0x41)
  else if 0x61 ≤ n ∧ n ≤ 0x7A then some (n - 0x61 + 26)
  else if 0x30 ≤ n ∧ n ≤ 0x39 then some (n - 0x30 + 52)
  else if n = 0x2B then some 62
  else if n = 0x2F then some 63
  else none

/-- Groups of four digits, of which the last may be padded. -/
def groups? : Text → Option (List UInt8)
  | [] => some []
  | [a, b, 0x3D, 0x3D] => do
    let a ← value? a
    let b ← value? b
    return [UInt8.ofNat (4 * a + b / 16)]
  | [a, b, c, 0x3D] => do
    let a ← value? a
    let b ← value? b
    let c ← value? c
    return [UInt8.ofNat (4 * a + b / 16), UInt8.ofNat (b % 16 * 16 + c / 4)]
  | a :: b :: c :: d :: rest => do
    let a ← value? a
    let b ← value? b
    let c ← value? c
    let d ← value? d
    let bytes ← groups? rest
    return UInt8.ofNat (4 * a + b / 16) :: UInt8.ofNat (b % 16 * 16 + c / 4) ::
      UInt8.ofNat (c % 4 * 64 + d) :: bytes
  | _ => none

/-- The bytes of a text; line breaks are passed over. -/
def decode? (t : Text) : Option (List UInt8) :=
  groups? (t.filter (! isBreak ·))

/-- The room that is set aside for a text: what it would need if its line breaks were digits. -/
def room (t : Text) : Nat :=
  (t.reverse.dropWhile (· == pad)).length * 3 / 4

/-- The number of digits in the next group, of which `missing` places are left, and the text after it.
Line breaks before and in a group are passed over. -/
def nextGroup : Nat → Text → Nat × Text
  | 0, rest => (0, rest)
  | _ + 1, [] => (0, [])
  | missing + 1, b :: rest =>
    if isBreak b then nextGroup (missing + 1) rest
    else
      let (count, rest) := nextGroup missing rest
      (if b == pad then count else count + 1, rest)

def hasBytes (count : Nat) (t : Text) : Bool :=
  (t.take count).length == count

/-- Whether a text begins with so many digits. -/
def hasDigits (count : Nat) (t : Text) : Bool :=
  hasBytes count t && (t.take count).all fun b => (value? b).isSome

/-- How many zeros stand behind the bytes of a text in the end, if `cleared` do at its beginning. -/
def clearedFrom : Nat → Nat → Nat → Text → Nat
  | 0, _, cleared, _ => cleared
  | fuel + 1, room, cleared, t =>
    let byEight := 8 ≤ room && hasBytes 8 t
    if byEight && hasDigits 8 t then clearedFrom fuel (room - 6) 2 (t.drop 8)
    else if ! byEight && 4 ≤ room && hasDigits 4 t then clearedFrom fuel (room - 3) 1 (t.drop 4)
    else
      let (digits, rest) := nextGroup 4 t
      let count := digits * 3 / 4
      clearedFrom fuel (room - count) (cleared - count) rest

/-- The number of zeros that are put down behind the bytes of a text. -/
def cleared (t : Text) : Nat :=
  clearedFrom t.length (room t) 0 t

/-- The bytes of a text, and what is left behind them of those that stood there. -/
def decodeOver? (t : Text) (stood : List UInt8) : Option (List UInt8 × List UInt8) := do
  let bytes ← decode? t
  return (bytes, List.replicate (cleared t) 0 ++ stood.drop (bytes.length + cleared t))

end Hexaglyph.Base64
