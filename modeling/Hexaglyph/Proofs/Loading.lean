import Hexaglyph.Catalog.Document
set_option autoImplicit false

/-! What a catalog that was loaded is like. -/
namespace Hexaglyph

@[simp] theorem Mapping.get?_map {κ α β : Type} [DecidableEq κ] (f : α → β) (m : Mapping κ α)
    (key : κ) : (m.map f).get? key = (m.get? key).map f := by
  have entries (pairs : List (κ × α)) :
      (pairs.map fun entry => (entry.1, f entry.2)).lookup key = (pairs.lookup key).map f := by
    induction pairs with
    | nil => rfl
    | cons entry rest ih =>
        rw [List.map_cons, List.lookup_cons, List.lookup_cons, ih]
        split <;> rfl
  exact entries m.entries

/-- A step that did not fail has given a value to the next one. -/
theorem bind_ok {ε α β : Type} (first : Except ε α) (next : α → Except ε β) (result : β)
    (succeeded : (first >>= next) = .ok result) :
    ∃ value, first = .ok value ∧ next value = .ok result := by
  cases first with
  | error fault => cases succeeded
  | ok value => exact ⟨value, rfl, succeeded⟩

theorem mapError_ok {ε δ α : Type} (given : Except ε α) (change : ε → δ) (result : α)
    (succeeded : given.mapError change = .ok result) : given = .ok result := by
  cases given with
  | error fault => cases succeeded
  | ok value =>
      cases succeeded
      rfl

theorem requireSection_ok {α : Type} (role : Role) (given : Option (Mapping Text α))
    (m : Mapping Text α) (present : requireSection role given = .ok m) : given = some m := by
  cases given with
  | none => cases present
  | some other =>
      cases present
      rfl

theorem refuse_ok (fault : Option CatalogFault) (u : Unit) (passed : refuse fault = .ok u) :
    fault = none := by
  cases fault with
  | none => rfl
  | some fault => cases passed

namespace Catalog

/-- The catalog of a document that was accepted: all sections are there and without fault. -/
theorem ofDocument_ok (source : Text) (document : CatalogDocument) (c : Catalog)
    (accepted : ofDocument source document = .ok c) :
    ∃ instructions modifiers augmenters,
      document = ⟨some instructions, some modifiers, some augmenters⟩ ∧
      sectionFault? .instruction Instruction.name instructions = none ∧
      sectionFault? .modifier Modifier.name modifiers = none ∧
      sectionFault? .augmenter Augmenter.name augmenters = none ∧
      c = ⟨source, instructions.map Instruction.resolved, modifiers, augmenters⟩ := by
  obtain ⟨givenInstructions, givenModifiers, givenAugmenters⟩ := document
  obtain ⟨instructions, first, accepted⟩ := bind_ok _ _ _ accepted
  obtain ⟨modifiers, second, accepted⟩ := bind_ok _ _ _ accepted
  obtain ⟨augmenters, third, accepted⟩ := bind_ok _ _ _ accepted
  obtain ⟨_, soundInstructions, accepted⟩ := bind_ok _ _ _ accepted
  obtain ⟨_, soundModifiers, accepted⟩ := bind_ok _ _ _ accepted
  obtain ⟨_, soundAugmenters, built⟩ := bind_ok _ _ _ accepted
  cases requireSection_ok _ _ _ first
  cases requireSection_ok _ _ _ second
  cases requireSection_ok _ _ _ third
  cases built
  exact ⟨instructions, modifiers, augmenters, rfl, refuse_ok _ _ soundInstructions,
    refuse_ok _ _ soundModifiers, refuse_ok _ _ soundAugmenters, rfl⟩

theorem load_ok (source : Text) (read : Except Text Text) (c : Catalog)
    (loaded : load source read = .ok c) :
    ∃ contents document, read = .ok contents ∧ parseDocument contents = .ok document ∧
      ofDocument source document = .ok c := by
  obtain ⟨contents, given, loaded⟩ := bind_ok _ _ _ (mapError_ok _ _ _ loaded)
  obtain ⟨document, parsed, accepted⟩ := bind_ok _ _ _ loaded
  exact ⟨contents, document, mapError_ok _ _ _ given, parsed, accepted⟩

theorem lookup_eq_instruction (c : Catalog) (glyph : Text) (i : Instruction) :
    c.lookup glyph = some (.instruction i) ↔ c.instructions.get? glyph = some i := by
  unfold lookup
  cases c.instructions.get? glyph with
  | some j => simp
  | none =>
      cases c.modifiers.get? glyph with
      | some m => simp
      | none => cases c.augmenters.get? glyph <;> simp

/-- In a catalog that was loaded the code of an instruction is what its opcode says. -/
theorem load_code (source : Text) (read : Except Text Text) (c : Catalog)
    (loaded : load source read = .ok c) (glyph : Text) (i : Instruction)
    (found : c.lookup glyph = some (.instruction i)) : i.code = Text.toByte? i.opcode := by
  obtain ⟨contents, document, -, -, accepted⟩ := load_ok source read c loaded
  obtain ⟨instructions, modifiers, augmenters, -, -, -, -, rfl⟩ :=
    ofDocument_ok source document c accepted
  rw [lookup_eq_instruction, Mapping.get?_map, Option.map_eq_some_iff] at found
  obtain ⟨given, -, rfl⟩ := found
  rfl

end Catalog
end Hexaglyph
