set_option autoImplicit false

/-! Finite mappings. A mapping keeps its entries in the order in which their keys first
came, and has one entry for a key. -/
namespace Hexaglyph

structure Mapping (κ α : Type) where
  entries : List (κ × α)
  distinct : (entries.map Prod.fst).Nodup

namespace Mapping

variable {κ α β : Type}

def empty : Mapping κ α :=
  ⟨[], List.nodup_nil⟩

instance : Inhabited (Mapping κ α) :=
  ⟨empty⟩

def keys (m : Mapping κ α) : List κ :=
  m.entries.map Prod.fst

def get? [DecidableEq κ] (m : Mapping κ α) (key : κ) : Option α :=
  m.entries.lookup key

def contains [DecidableEq κ] (m : Mapping κ α) (key : κ) : Bool :=
  m.keys.contains key

/-- Adds an entry, or gives a new value to the entry the key has. -/
def insert [DecidableEq κ] (m : Mapping κ α) (key : κ) (value : α) : Mapping κ α :=
  if present : key ∈ m.entries.map Prod.fst then
    { entries := m.entries.map fun entry => if entry.1 = key then (key, value) else entry
      distinct := by
        have same : (m.entries.map fun entry => if entry.1 = key then (key, value) else entry).map
            Prod.fst = m.entries.map Prod.fst := by
          rw [List.map_map]
          apply List.map_congr_left
          intro entry _
          by_cases equal : entry.1 = key <;> simp [equal]
        rw [same]
        exact m.distinct }
  else
    { entries := m.entries ++ [(key, value)]
      distinct := by
        rw [List.map_append, List.nodup_append]
        refine ⟨m.distinct, by simp, ?_⟩
        intro other member last final equal
        simp only [List.map_cons, List.map_nil, List.mem_singleton] at final
        exact present (final ▸ equal ▸ member) }

/-- Removes the entry of a key. -/
def erase [DecidableEq κ] (m : Mapping κ α) (key : κ) : Mapping κ α :=
  { entries := m.entries.filter fun entry => decide (entry.1 ≠ key)
    distinct := m.distinct.sublist ((List.filter_sublist).map Prod.fst) }

/-- Applies a function to every value. -/
def map (f : α → β) (m : Mapping κ α) : Mapping κ β :=
  { entries := m.entries.map fun entry => (entry.1, f entry.2)
    distinct := by
      rw [List.map_map]
      exact m.distinct }

end Mapping
end Hexaglyph
