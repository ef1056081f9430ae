import Hexaglyph.Text.Digits
set_option autoImplicit false

/-! Numeric host addresses of version 6: eight groups of hexadecimal digits between colons. Two colons
in a row stand, once, for groups of zeros that are left out, and the last two groups may be written
as four decimal numbers between dots. -/
namespace Hexaglyph.Ipv6

def colon : UInt8 := 0x3A

def isGroup (t : Text) : Bool :=
  ! t.isEmpty && t.length ≤ 4 && t.all fun b => (hexValue? b).isSome

/-- A number below 256 without zeros before it. -/
def isOctet (t : Text) : Bool :=
  match Text.toNat? t with
  | some n => n < 256 && t == Text.ofNat n
  | none => false

def isDotted (t : Text) : Bool :=
  let numbers := Text.pieces (· == 0x2E) t
  numbers.length == 4 && numbers.all isOctet

/-- The texts between colons; an empty text has none. -/
def fields (t : Text) : List Text :=
  if t.isEmpty then [] else Text.pieces (· == colon) t

/-- The number of groups in the fields that end an address. -/
def groupCount? : List Text → Option Nat
  | [] => some 0
  | [last] => if isGroup last then some 1 else if isDotted last then some 2 else none
  | field :: rest => if isGroup field then (groupCount? rest).map (· + 1) else none

/-- Splits a text at the first two colons in a row, which are dropped; without them the second part
is missing. -/
def cutGap : Text → Text × Option Text
  | [] => ([], none)
  | b :: rest =>
    if b == colon && rest.head? == some colon then ([], some rest.tail)
    else
      let (before, after) := cutGap rest
      (b :: before, after)

def isAddress (t : Text) : Bool :=
  match cutGap t with
  | (whole, none) => groupCount? (fields whole) == some 8
  | (before, some after) =>
    (fields before).all isGroup &&
      match groupCount? (fields after) with
      | some n => (fields before).length + n < 8
      | none => false

end Hexaglyph.Ipv6
