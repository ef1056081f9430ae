set_option autoImplicit false

/-! Registers for operands. They are handed out in rotation, without regard to what they hold. -/
namespace Hexaglyph

/-- The registers of a rotation in order; there is at least one. -/
structure Rotation where
  registers : List UInt8
  nonempty : registers ≠ [] := by simp

namespace Rotation

/-- Input goes to register 0, an immediate to register 1, and the operation takes both. -/
def standard : Rotation := ⟨[0, 1, 0], by simp⟩

/-- The rotation of a list; an empty list selects the standard one. -/
def ofList : List UInt8 → Rotation
  | [] => standard
  | first :: rest => ⟨first :: rest, by simp⟩

theorem length_pos (r : Rotation) : 0 < r.registers.length :=
  List.length_pos_iff.mpr r.nonempty

/-- The register handed out after `drawn` others. -/
def register (r : Rotation) (drawn : Nat) : UInt8 :=
  r.registers.get ⟨drawn % r.registers.length, Nat.mod_lt _ r.length_pos⟩

end Rotation

/-- A rotation of which some registers have been handed out. -/
structure Allocator where
  rotation : Rotation
  drawn : Nat

namespace Allocator

/-- Nothing has been handed out. -/
def fresh (rotation : Rotation) : Allocator :=
  ⟨rotation, 0⟩

/-- Hands out a register. -/
def next (a : Allocator) : UInt8 × Allocator :=
  (a.rotation.register a.drawn, { a with drawn := a.drawn + 1 })

end Allocator
end Hexaglyph
