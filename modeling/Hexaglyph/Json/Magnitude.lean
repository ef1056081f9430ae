import Hexaglyph.Json.Basic
set_option autoImplicit false

/-! The size of numbers. A number of any size can be written, but where its value is asked for, it has
to be below half a step past the largest double. -/
namespace Hexaglyph.Json

/-- The least number that is too large. -/
def doubleLimit : Nat :=
  Nat.shiftLeft 1 1024 - Nat.shiftLeft 1 970

/-- How many digits the least number that is too large has. -/
def doubleDigits : Nat := 309

/-- The number an exponent is written with. -/
def exponentValue : Text → Int
  | 0x2D :: digits => - (((Text.toNat? digits).getD 0 : Nat) : Int)
  | 0x2B :: digits => ((Text.toNat? digits).getD 0 : Nat)
  | digits => ((Text.toNat? digits).getD 0 : Nat)

/-- Whether a literal writes a number that a double can hold. Only the digits before its point, where
the exponent has moved that, can make it too large. -/
def literalFits (literal : Text) : Bool :=
  let unsigned := literal.dropWhile (· == 0x2D)
  let mantissa := unsigned.takeWhile fun b => b != 0x65 && b != 0x45
  let power := exponentValue (unsigned.drop (mantissa.length + 1))
  let whole := mantissa.takeWhile Text.isDigit
  let fraction := mantissa.drop (whole.length + 1)
  let digits := (whole ++ fraction).dropWhile (· == 0x30)
  let before := (digits.length : Int) + power - (fraction.length : Int)
  if digits.isEmpty || before < doubleDigits then true
  else if (doubleDigits : Int) < before then false
  else
    let leading := (digits ++ List.replicate doubleDigits 0x30).take doubleDigits
    ((Text.toNat? leading).getD 0) < doubleLimit

mutual

/-- Whether doubles can hold all the numbers in a value. -/
def fitsDoubles : Json → Bool
  | number literal => literalFits literal
  | array items => itemsFit items
  | object members => membersFit members
  | _ => true

def itemsFit : List Json → Bool
  | [] => true
  | item :: rest => fitsDoubles item && itemsFit rest

def membersFit : List (Text × Json) → Bool
  | [] => true
  | (_, value) :: rest => fitsDoubles value && membersFit rest

end

end Hexaglyph.Json
