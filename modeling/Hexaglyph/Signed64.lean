set_option autoImplicit false

/-! Words of 64 bits, the numbers that documents and scores may hold. -/
namespace Hexaglyph.Signed64

/-- The number of words. -/
def count : Nat := 18446744073709551616

/-- Whether a number can be written as a signed word. -/
def fits (n : Int) : Bool :=
  -9223372036854775808 ≤ n && n ≤ 9223372036854775807

/-- The signed word that a number wraps around to. -/
def wrap (n : Int) : Int :=
  n.bmod count

/-- The unsigned word with the bits of a signed one. -/
def unsigned (n : Int) : Int :=
  n % count

end Hexaglyph.Signed64
