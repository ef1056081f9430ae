import Hexaglyph.Mapping
set_option autoImplicit false

/-! Looking up a key in a mapping, also after it has changed or its entries have changed places. -/
namespace Hexaglyph.Mapping

variable {κ α : Type} [DecidableEq κ]

@[simp] theorem get?_empty (key : κ) : (empty : Mapping κ α).get? key = none := rfl

theorem mem_of_get? (m : Mapping κ α) (key : κ) (value : α) (found : m.get? key = some value) :
    (key, value) ∈ m.entries := by
  obtain ⟨before, after, split, -⟩ := List.lookup_eq_some_iff.mp found
  simp [split]

/-- A key has one entry, so it is found wherever it stands. -/
theorem get?_eq_some_iff (m : Mapping κ α) (key : κ) (value : α) :
    m.get? key = some value ↔ (key, value) ∈ m.entries := by
  refine ⟨m.mem_of_get? key value, ?_⟩
  intro member
  obtain ⟨before, after, split⟩ := List.append_of_mem member
  have distinct := m.distinct
  rw [split, List.map_append, List.map_cons, List.nodup_append] at distinct
  refine List.lookup_eq_some_iff.mpr ⟨before, after, split, ?_⟩
  intro entry earlier
  rw [bne_iff_ne]
  exact fun same => distinct.2.2 entry.1 (List.mem_map_of_mem earlier) key List.mem_cons_self same.symm

theorem mem_keys_iff (m : Mapping κ α) (key : κ) : key ∈ m.keys ↔ ∃ value, m.get? key = some value := by
  simp only [keys, List.mem_map, get?_eq_some_iff, Prod.exists, exists_and_right, exists_eq_right]

theorem contains_eq (m : Mapping κ α) (key : κ) : m.contains key = decide (key ∈ m.keys) := by
  rw [Bool.eq_iff_iff, decide_eq_true_iff]
  exact List.contains_iff_mem

def Reorders (m n : Mapping κ α) : Prop :=
  m.entries.Perm n.entries

theorem Reorders.get?_eq {m n : Mapping κ α} (same : m.Reorders n) (key : κ) :
    n.get? key = m.get? key := by
  apply Option.ext
  intro value
  rw [get?_eq_some_iff, get?_eq_some_iff, same.mem_iff]

/-- New values for the entries of one key leave all other keys alone. -/
theorem lookup_replaced (entries : List (κ × α)) (key other : κ) (value : α) :
    (entries.map fun entry => if entry.1 = key then (key, value) else entry).lookup other =
      if other = key then (entries.lookup key).map fun _ => value else entries.lookup other := by
  induction entries with
  | nil => simp
  | cons entry rest ih =>
      obtain ⟨name, old⟩ := entry
      by_cases here : name = key
      · subst here
        by_cases same : other = name
        · simp [same]
        · have differ : (other == name) = false := by simpa using same
          simp only [List.map_cons, ↓reduceIte, List.lookup_cons, differ, ih, same]
      · have apart : (key == name) = false := by simpa using fun equal => here equal.symm
        simp only [List.map_cons, here, ↓reduceIte, List.lookup_cons, ih, apart]
        by_cases same : other = key
        · simp only [same, apart, ↓reduceIte]
        · simp only [same, ↓reduceIte]

theorem lookup_kept (entries : List (κ × α)) (key other : κ) :
    (entries.filter fun entry => decide (entry.1 ≠ key)).lookup other =
      if other = key then none else entries.lookup other := by
  induction entries with
  | nil => simp
  | cons entry rest ih =>
      obtain ⟨name, value⟩ := entry
      by_cases here : name = key
      · rw [List.filter_cons_of_neg (by simp [here]), ih, List.lookup_cons]
        by_cases same : other = key
        · simp only [same, ↓reduceIte]
        · have differ : (other == name) = false := by simpa [here] using same
          simp only [same, differ, ↓reduceIte]
      · rw [List.filter_cons_of_pos (by simp [here]), List.lookup_cons, List.lookup_cons, ih]
        by_cases same : other = key
        · subst same
          have apart : (other == name) = false := by simpa using fun equal => here equal.symm
          simp only [apart, ↓reduceIte]
        · simp only [same, ↓reduceIte]

theorem lookup_absent (entries : List (κ × α)) (key : κ) (absent : key ∉ entries.map Prod.fst) :
    entries.lookup key = none := by
  rw [List.lookup_eq_none_iff]
  intro entry member
  simpa using fun equal : key = entry.1 => absent (equal ▸ List.mem_map_of_mem member)

theorem get?_insert (m : Mapping κ α) (key other : κ) (value : α) :
    (m.insert key value).get? other = if other = key then some value else m.get? other := by
  by_cases present : key ∈ m.entries.map Prod.fst
  · have replaced := lookup_replaced m.entries key other value
    have some_value : ((m.entries.lookup key).map fun _ => value) = some value := by
      cases found : m.entries.lookup key with
      | some old => rfl
      | none =>
          obtain ⟨entry, member, rfl⟩ := List.mem_map.mp present
          have differs := List.lookup_eq_none_iff.mp found entry member
          simp at differs
    rw [some_value] at replaced
    simpa only [get?, insert, present, ↓reduceDIte] using replaced
  · have absent := lookup_absent m.entries key present
    simp only [get?, insert, present, ↓reduceDIte, List.lookup_append]
    by_cases same : other = key
    · simp [same, absent]
    · have differ : (other == key) = false := by simpa using same
      simp [same, differ, List.lookup_cons]

/-- Of two values given to one key the second stays. -/
theorem insert_insert (m : Mapping κ α) (key : κ) (first second : α) :
    (m.insert key first).insert key second = m.insert key second := by
  have present : key ∈ (m.insert key first).entries.map Prod.fst := by
    have found := m.get?_insert key key first
    rw [if_pos rfl] at found
    exact List.mem_map_of_mem (mem_of_get? _ key first found)
  rw [insert, dif_pos present, mk.injEq]
  by_cases before : key ∈ m.entries.map Prod.fst
  · simp only [insert, before, ↓reduceDIte, List.map_map]
    apply List.map_congr_left
    intro entry _
    by_cases here : entry.1 = key <;> simp [here]
  · have others : ∀ entry ∈ m.entries, entry.1 ≠ key :=
      fun entry member same => before (same ▸ List.mem_map_of_mem member)
    have kept : (m.entries.map fun entry => if entry.1 = key then (key, second) else entry) =
        m.entries := by
      rw [List.map_congr_left fun entry member => if_neg (others entry member), List.map_id']
    simp only [insert, before, ↓reduceDIte, List.map_append, kept, List.map_cons, List.map_nil,
      ↓reduceIte]

theorem get?_erase (m : Mapping κ α) (key other : κ) :
    (m.erase key).get? other = if other = key then none else m.get? other :=
  lookup_kept m.entries key other

end Hexaglyph.Mapping
