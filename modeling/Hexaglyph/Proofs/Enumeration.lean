import Hexaglyph.Proofs.Acceptance
import Hexaglyph.Web.Socket
import Mathlib.Data.Finset.Card
set_option autoImplicit false

/-! The glyphs of a catalog in their order. Each glyph that has a meaning is named once, among those of
its role, and in the same place whatever order the mappings have. -/
namespace Hexaglyph

namespace Text

theorem perm_sort (texts : List Text) : (sort texts).Perm texts :=
  List.mergeSort_perm texts _

theorem pairwise_sort (texts : List Text) : (sort texts).Pairwise (· ≤ ·) := by
  have sorted : (sort texts).Pairwise fun a b => decide (a ≤ b) = true := by
    apply List.pairwise_mergeSort
    · intro a b c first second
      rw [decide_eq_true_eq] at first second ⊢
      exact List.le_trans first second
    · intro a b
      rw [Bool.or_eq_true, decide_eq_true_eq, decide_eq_true_eq]
      exact List.le_total a b
  exact sorted.imp of_decide_eq_true

theorem sort_eq_of_perm (first second : List Text) (perm : first.Perm second) :
    sort first = sort second := by
  refine List.Perm.eq_of_pairwise ?_ (pairwise_sort first) (pairwise_sort second) ?_
  · intro a b _ _ less greater
    exact List.le_antisymm less greater
  · exact (perm_sort first).trans (perm.trans (perm_sort second).symm)

/-- Texts without repetition are sorted into a strictly increasing order. -/
theorem sort_increasing (texts : List Text) (distinct : texts.Nodup) :
    (sort texts).Pairwise (· < ·) := by
  have apart : (sort texts).Nodup := (perm_sort texts).nodup_iff.mpr distinct
  refine (pairwise_sort texts).imp₂ ?_ apart
  intro a b ordered differ
  exact Std.lt_of_le_of_ne ordered differ

end Text

/-- Of texts that differ, those are added that were not there before, and their order stays. -/
theorem Text.foldl_addNew (added texts : List Text) (distinct : texts.Nodup) :
    texts.foldl addNew added = added ++ texts.filter fun text => ! added.contains text := by
  induction texts generalizing added with
  | nil => simp
  | cons text rest ih =>
      obtain ⟨apart, others⟩ := List.nodup_cons.mp distinct
      rw [List.foldl_cons, ih _ others, addNew]
      by_cases present : text ∈ added
      · rw [if_pos (List.contains_iff_mem.mpr present), List.filter_cons_of_neg (by simp [present])]
      · have same : ∀ other ∈ rest, (! (added ++ [text]).contains other) = ! added.contains other := by
          intro other member
          have differ : other ≠ text := fun equal => apart (equal ▸ member)
          simp [differ]
        rw [if_neg (by simp [present]), List.filter_congr same,
          List.filter_cons_of_pos (by simp [present]), List.append_assoc, List.singleton_append]

def Definition.detail : Definition → Text
  | instruction i => i.description
  | modifier m => m.function
  | augmenter a => a.effect

namespace Catalog

variable (c : Catalog)

/-- The glyphs of the mapping of a role, also those that mean something else. -/
def keysOf : Role → List Text
  | .instruction => c.instructions.keys
  | .modifier => c.modifiers.keys
  | .augmenter => c.augmenters.keys

theorem nodup_keysOf (role : Role) : (c.keysOf role).Nodup := by
  cases role with
  | instruction => exact c.instructions.distinct
  | modifier => exact c.modifiers.distinct
  | augmenter => exact c.augmenters.distinct

def role? (glyph : Text) : Option Role :=
  (c.lookup glyph).map Definition.role

/-- A glyph has the first role whose mapping it is in. -/
theorem role?_eq (glyph : Text) :
    c.role? glyph = Role.all.find? fun role => decide (glyph ∈ c.keysOf role) := by
  simp only [role?, lookup, Role.all, List.find?_cons, List.find?_nil, keysOf, Mapping.mem_keys_iff,
    ← Option.isSome_iff_exists, Bool.decide_eq_true]
  cases c.instructions.get? glyph with
  | some i => rfl
  | none =>
      cases c.modifiers.get? glyph with
      | some m => rfl
      | none => cases c.augmenters.get? glyph <;> rfl

theorem mem_keysOf_of_role (glyph : Text) (role : Role) (has : c.role? glyph = some role) :
    glyph ∈ c.keysOf role := by
  rw [role?_eq] at has
  have inside := List.find?_some has
  exact of_decide_eq_true inside

def own (role : Role) : List Text :=
  (Text.sort (c.keysOf role)).filter fun glyph => c.role? glyph == some role

theorem mem_own (role : Role) (glyph : Text) : glyph ∈ c.own role ↔ c.role? glyph = some role := by
  rw [own, List.mem_filter, (Text.perm_sort _).mem_iff, beq_iff_eq]
  exact and_iff_right_of_imp (c.mem_keysOf_of_role glyph role)

theorem own_increasing (role : Role) : (c.own role).Pairwise (· < ·) :=
  (Text.sort_increasing _ (c.nodup_keysOf role)).filter _

/-- A mapping adds the glyphs of its role, if its other glyphs have been added before. -/
theorem foldl_addNew_keysOf (added : List Text) (role : Role)
    (before : ∀ glyph ∈ c.keysOf role, glyph ∈ added ↔ c.role? glyph ≠ some role) :
    (Text.sort (c.keysOf role)).foldl Text.addNew added = added ++ c.own role := by
  rw [Text.foldl_addNew _ _ ((Text.perm_sort _).nodup_iff.mpr (c.nodup_keysOf role)), own]
  congr 1
  apply List.filter_congr
  intro glyph member
  have known := before glyph ((Text.perm_sort _).mem_iff.mp member)
  by_cases has : c.role? glyph = some role <;> simp [known, has]

theorem glyphs_eq : c.glyphs = c.own .instruction ++ c.own .modifier ++ c.own .augmenter := by
  have first := c.foldl_addNew_keysOf [] .instruction fun glyph inside => by
    simp [role?_eq, Role.all, inside]
  have second := c.foldl_addNew_keysOf (c.own .instruction) .modifier fun glyph inside => by
    rw [mem_own]
    by_cases shadowed : glyph ∈ c.keysOf .instruction <;>
      simp [role?_eq, Role.all, inside, shadowed]
  have third := c.foldl_addNew_keysOf (c.own .instruction ++ c.own .modifier) .augmenter
    fun glyph inside => by
      rw [List.mem_append, mem_own, mem_own]
      by_cases shadowed : glyph ∈ c.keysOf .instruction
      · simp [role?_eq, Role.all, shadowed]
      · by_cases hidden : glyph ∈ c.keysOf .modifier <;>
          simp [role?_eq, Role.all, inside, shadowed, hidden]
  rw [← third, ← second, ← List.nil_append (c.own .instruction), ← first]
  rfl

theorem mem_glyphs (glyph : Text) : glyph ∈ c.glyphs ↔ ∃ role, c.role? glyph = some role := by
  rw [glyphs_eq, List.mem_append, List.mem_append, mem_own, mem_own, mem_own]
  constructor
  · rintro ((has | has) | has) <;> exact ⟨_, has⟩
  · rintro ⟨role, has⟩
    cases role with
    | instruction => exact .inl (.inl has)
    | modifier => exact .inl (.inr has)
    | augmenter => exact .inr has

theorem mem_glyphs_iff_lookup (glyph : Text) : glyph ∈ c.glyphs ↔ (c.lookup glyph).isSome = true := by
  rw [mem_glyphs, ← Option.isSome_iff_exists, role?, Option.isSome_map]

theorem nodup_glyphs : c.glyphs.Nodup := by
  have each (role : Role) : (c.own role).Nodup := (c.own_increasing role).imp Std.ne_of_lt
  have apart (first second : Role) (differ : first ≠ second) (glyph : Text)
      (here : glyph ∈ c.own first) (other : Text) (there : other ∈ c.own second) :
      glyph ≠ other := by
    rintro rfl
    rw [mem_own] at here there
    exact differ (Option.some.inj (here.symm.trans there))
  rw [glyphs_eq, List.nodup_append, List.nodup_append]
  refine ⟨⟨each _, each _, apart _ _ (by decide)⟩, each _, ?_⟩
  intro glyph here other there
  rcases List.mem_append.mp here with here | here
  · exact apart .instruction .augmenter (by decide) glyph here other there
  · exact apart .modifier .augmenter (by decide) glyph here other there

def group (role : Role) : List Text :=
  c.glyphs.filter fun glyph => c.role? glyph == some role

theorem group_eq (role : Role) : c.group role = c.own role := by
  have same : (c.own role).filter (fun glyph => c.role? glyph == some role) = c.own role := by
    apply List.filter_eq_self.mpr
    intro glyph member
    rw [beq_iff_eq, ← mem_own]
    exact member
  have other (second : Role) (differ : second ≠ role) :
      (c.own second).filter (fun glyph => c.role? glyph == some role) = [] := by
    apply List.filter_eq_nil_iff.mpr
    intro glyph member equal
    rw [mem_own] at member
    rw [beq_iff_eq, member] at equal
    exact differ (Option.some.inj equal)
  rw [group, glyphs_eq, List.filter_append, List.filter_append]
  cases role with
  | instruction =>
      rw [same, other .modifier (by decide), other .augmenter (by decide), List.append_nil,
        List.append_nil]
  | modifier =>
      rw [same, other .instruction (by decide), other .augmenter (by decide), List.nil_append,
        List.append_nil]
  | augmenter =>
      rw [same, other .instruction (by decide), other .modifier (by decide), List.nil_append,
        List.nil_append]

/-- The number of glyphs is the number of texts that are in some mapping. -/
theorem size_eq_card : c.size = (c.instructions.keys.toFinset ∪ c.modifiers.keys.toFinset ∪
    c.augmenters.keys.toFinset).card := by
  have all : c.glyphs.toFinset = c.instructions.keys.toFinset ∪ c.modifiers.keys.toFinset ∪
      c.augmenters.keys.toFinset := by
    ext glyph
    rw [List.mem_toFinset, mem_glyphs, ← Option.isSome_iff_exists, role?_eq, List.find?_isSome]
    simp only [decide_eq_true_eq]
    simp [Role.all, keysOf]
  rw [size, ← all, List.toFinset_card_of_nodup c.nodup_glyphs]

/-- The same catalog with the entries of each mapping in another order. -/
structure Reorders (other : Catalog) : Prop where
  source : c.source = other.source
  instructions : c.instructions.Reorders other.instructions
  modifiers : c.modifiers.Reorders other.modifiers
  augmenters : c.augmenters.Reorders other.augmenters

variable {c} {other : Catalog}

theorem Reorders.lookup_eq (same : c.Reorders other) : other.lookup = c.lookup := by
  funext glyph
  rw [lookup, same.instructions.get?_eq, same.modifiers.get?_eq, same.augmenters.get?_eq, lookup]

theorem Reorders.own_eq (same : c.Reorders other) (role : Role) : other.own role = c.own role := by
  have keys : (c.keysOf role).Perm (other.keysOf role) := by
    cases role with
    | instruction => exact same.instructions.map Prod.fst
    | modifier => exact same.modifiers.map Prod.fst
    | augmenter => exact same.augmenters.map Prod.fst
  have roles : other.role? = c.role? := by
    funext glyph
    rw [role?, same.lookup_eq, role?]
  rw [own, ← Text.sort_eq_of_perm _ _ keys, roles, own]

theorem Reorders.glyphs_eq (same : c.Reorders other) : other.glyphs = c.glyphs := by
  rw [other.glyphs_eq, same.own_eq, same.own_eq, same.own_eq, c.glyphs_eq]

theorem Reorders.palette_eq (same : c.Reorders other) : other.palette = c.palette := by
  rw [palette, same.glyphs_eq, same.lookup_eq, palette]

end Catalog

/-- An entry of the palette says what the definition of its glyph says. -/
structure PaletteEntry.Shows (e : PaletteEntry) (d : Definition) : Prop where
  role : e.role = some d.role
  name : e.name = d.name
  description : e.description = d.detail

theorem PaletteEntry.shows_ofDefinition (glyph : Text) (d : Definition) :
    (ofDefinition glyph (some d)).Shows d := by
  cases d <;> exact ⟨rfl, rfl, rfl⟩

namespace Catalog

theorem palette_glyphs (c : Catalog) : c.palette.map PaletteEntry.glyph = c.glyphs := by
  have named (glyph : Text) (d : Option Definition) :
      (PaletteEntry.ofDefinition glyph d).glyph = glyph := by
    cases d with
    | none => rfl
    | some d => cases d <;> rfl
  rw [palette, List.map_map]
  exact (List.map_congr_left fun glyph _ => named glyph _).trans (List.map_id _)

theorem shows_of_mem_palette (c : Catalog) (e : PaletteEntry) (member : e ∈ c.palette) :
    ∃ d, c.lookup e.glyph = some d ∧ e.Shows d := by
  obtain ⟨glyph, listed, rfl⟩ := List.mem_map.mp member
  obtain ⟨d, found⟩ := Option.isSome_iff_exists.mp ((c.mem_glyphs_iff_lookup glyph).mp listed)
  rw [found]
  refine ⟨d, ?_, PaletteEntry.shows_ofDefinition glyph d⟩
  cases d <;> exact found

/-- The glyphs of a catalog, in any order of its mappings: those that have a meaning, each once, the
instructions before the modifiers and these before the augmenters, and each group in increasing
order. There are as many as texts in the three mappings together, and the palette shows them in this
order, each with the meaning it has. -/
theorem glyphs_enumerate (c other : Catalog) (same : c.Reorders other) :
    other.glyphs = c.glyphs ∧ c.glyphs.Nodup ∧
      (∀ glyph, glyph ∈ c.glyphs ↔ (c.lookup glyph).isSome = true) ∧
      c.glyphs = c.group .instruction ++ c.group .modifier ++ c.group .augmenter ∧
      (∀ role, (c.group role).Pairwise (· < ·)) ∧
      c.size = c.glyphs.length ∧
      c.size = (c.instructions.keys.toFinset ∪ c.modifiers.keys.toFinset ∪
        c.augmenters.keys.toFinset).card ∧
      other.palette = c.palette ∧ c.palette.map PaletteEntry.glyph = c.glyphs ∧
      ∀ e ∈ c.palette, ∃ d, c.lookup e.glyph = some d ∧ e.Shows d := by
  refine ⟨same.glyphs_eq, c.nodup_glyphs, c.mem_glyphs_iff_lookup, ?_, ?_, rfl, c.size_eq_card,
    same.palette_eq, c.palette_glyphs, c.shows_of_mem_palette⟩
  · rw [group_eq, group_eq, group_eq, ← c.glyphs_eq]
  · intro role
    rw [group_eq]
    exact c.own_increasing role

/-- A catalog in which two glyphs have a second meaning that does not count. -/
def shadedCatalog : Catalog where
  source := utf8 "test"
  instructions := ⟨[(utf8 "A", ⟨utf8 "INP", utf8 "23", [], [], some 0x23⟩),
    (utf8 "X", ⟨utf8 "XOR", utf8 "0a", [], [], some 0x0A⟩)], by decide⟩
  modifiers := ⟨[(utf8 "M", ⟨utf8 "REPEAT", []⟩), (utf8 "X", ⟨utf8 "SHADOW", []⟩)], by decide⟩
  augmenters := ⟨[(utf8 "P", ⟨utf8 "EYE", []⟩), (utf8 "M", ⟨utf8 "SHADOW", []⟩)], by decide⟩

/-- The same catalog with two of its mappings the other way round. -/
def shadedOtherwise : Catalog :=
  { shadedCatalog with
    modifiers := ⟨[(utf8 "X", ⟨utf8 "SHADOW", []⟩), (utf8 "M", ⟨utf8 "REPEAT", []⟩)], by decide⟩
    augmenters := ⟨[(utf8 "M", ⟨utf8 "SHADOW", []⟩), (utf8 "P", ⟨utf8 "EYE", []⟩)], by decide⟩ }

/-- It has four glyphs in its six entries, and names them in the same order either way. -/
theorem shaded_enumerated :
    shadedOtherwise.glyphs = shadedCatalog.glyphs ∧ shadedCatalog.size = 4 ∧
      utf8 "M" ∈ shadedCatalog.glyphs ∧ utf8 "Q" ∉ shadedCatalog.glyphs := by
  have same : shadedCatalog.Reorders shadedOtherwise :=
    ⟨rfl, .refl _, .swap _ _ _, .swap _ _ _⟩
  obtain ⟨glyphs, -, known, -, -, -, card, -⟩ := glyphs_enumerate _ _ same
  have count : (shadedCatalog.instructions.keys.toFinset ∪ shadedCatalog.modifiers.keys.toFinset ∪
      shadedCatalog.augmenters.keys.toFinset).card = 4 := by
    decide +kernel
  rw [known, known]
  exact ⟨glyphs, card.trans count, by decide +kernel, by decide +kernel⟩

end Catalog
end Hexaglyph
