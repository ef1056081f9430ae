import Hexaglyph.Text.Basic
set_option autoImplicit false

/-! Numbers as text: decimal with a leading minus sign, and hexadecimal with letters of either case. -/
namespace Hexaglyph

inductive LetterCase where
  | lower
  | upper
deriving DecidableEq

/-- One hexadecimal digit; only the value modulo sixteen counts. -/
def hexDigit (letters : LetterCase) (value : Nat) : UInt8 :=
  let n := value % 16
  if n < 10 then UInt8.ofNat (0x30 + n)
  else UInt8.ofNat ((match letters with | .lower => 0x61 | .upper => 0x41) + (n - 10))

/-- The value of a hexadecimal digit of either case. -/
def hexValue? (digit : UInt8) : Option Nat :=
  let n := digit.toNat
  if 0x30 ≤ n ∧ n ≤ 0x39 then some (n - 0x30)
  else if 0x41 ≤ n ∧ n ≤ 0x46 then some (n - 0x41 + 10)
  else if 0x61 ≤ n ∧ n ≤ 0x66 then some (n - 0x61 + 10)
  else none

namespace Text

/-- The last `width` hexadecimal digits of a number, the highest first. -/
def ofHex (letters : LetterCase) : Nat → Nat → Text
  | 0, _ => []
  | width + 1, value => ofHex letters width (value / 16) ++ [hexDigit letters value]

/-- A byte as two hexadecimal digits. -/
def ofByte (letters : LetterCase) (byte : UInt8) : Text :=
  ofHex letters 2 byte.toNat

/-- The byte two hexadecimal digits stand for; any other text stands for none. -/
def toByte? : Text → Option UInt8
  | [high, low] => do
    let h ← hexValue? high
    let l ← hexValue? low
    return UInt8.ofNat (16 * h + l)
  | _ => none

def ofNat (n : Nat) : Text :=
  (Nat.toDigits 10 n).map fun c => UInt8.ofNat c.toNat

def ofInt : Int → Text
  | .ofNat n => ofNat n
  | .negSucc n => 0x2D :: ofNat (n + 1)

def isDigit (byte : UInt8) : Bool :=
  0x30 ≤ byte && byte ≤ 0x39

/-- The number written by decimal digits alone; no digits at all are no number. -/
def toNat? (t : Text) : Option Nat :=
  if t.isEmpty || ! t.all isDigit then none
  else some (t.foldl (fun n digit => 10 * n + (digit.toNat - 0x30)) 0)

end Text
end Hexaglyph
