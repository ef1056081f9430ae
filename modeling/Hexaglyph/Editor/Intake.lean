import Hexaglyph.Text.Basic
set_option autoImplicit false

/-! Streams as they are read. Bytes come in blocks, and those that have come wait until they are used.
Header lines are used up byte by byte; a message is taken into a store of its own, and what the store
holds beyond the message is lost with it. How much that is depends on how the bytes came. -/
namespace Hexaglyph

structure Intake where
  /-- The bytes that are not used yet. -/
  rest : Text
  /-- How many of them have come. -/
  ready : Nat

namespace Intake

/-- The bytes of a block. -/
def blockSize : Nat := 4096

/-- A stream of which nothing has come. -/
def ofText (t : Text) : Intake :=
  ⟨t, 0⟩

def append (s : Intake) (t : Text) : Intake :=
  { s with rest := s.rest ++ t }

/-- Uses up the next `n` bytes, of which there is at least one. As long as they have not all come, the
block that waits is completed, or dropped if it is complete. -/
def pass (s : Intake) (n : Nat) : Intake :=
  let last := (n - 1) % blockSize + 1
  { rest := s.rest.drop n
    ready :=
      if n ≤ s.ready then s.ready - n
      else min blockSize (s.rest.length - (n - last)) - last }

/-- What a message is taken into. -/
structure Store where
  held : Nat
  room : Nat
  /-- How many bytes wait behind those held. -/
  ready : Nat

namespace Store

/-- The room of a new store. -/
def firstRoom : Nat := 64

/-- Takes in once more from a body of `length` bytes, where the stream has `available` bytes from the
body's first on. The room doubles when three quarters of it are used; much room is filled past the
block that waits, if that is empty. -/
def fill (available length : Nat) (s : Store) : Store :=
  let room := if 3 * s.room / 4 ≤ s.held then 2 * s.room else s.room
  let wanted := min room length - s.held
  if s.ready = 0 && blockSize ≤ wanted then
    ⟨s.held + min wanted (available - s.held), room, 0⟩
  else
    let ready := if s.ready = 0 then min blockSize (available - s.held) else s.ready
    let got := min wanted ready
    ⟨s.held + got, room, ready - got⟩

/-- Takes in until so many bytes are held. -/
def fillTo (available length needed : Nat) : Nat → Store → Store
  | 0, s => s
  | fuel + 1, s =>
    if needed ≤ s.held then s else fillTo available length needed fuel (s.fill available length)

end Store

/-- The stream behind a body of `length` bytes, after its first `needed` ones were taken into a
store. -/
def afterMessage (s : Intake) (length needed : Nat) : Intake :=
  let store := Store.fillTo s.rest.length length needed needed ⟨0, Store.firstRoom, s.ready⟩
  ⟨s.rest.drop store.held, store.ready⟩

end Intake
end Hexaglyph
