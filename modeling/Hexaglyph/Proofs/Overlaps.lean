import Hexaglyph.Proofs.Enumeration
import Mathlib.Algebra.GroupWithZero.Nat
set_option autoImplicit false

/-! Entries that no lookup reaches. A glyph may stand in several mappings, and then only the entry of
its first role counts. The overlaps of a catalog name all the others: without them every glyph means
what it meant, and each entry that is left can be reached. -/
namespace Hexaglyph

namespace Catalog

section Entries

variable (c : Catalog)

/-- The entry of a role for a glyph, whether or not it is the one that counts. -/
def definedAs? : Role → Text → Option Definition
  | .instruction, glyph => (c.instructions.get? glyph).map .instruction
  | .modifier, glyph => (c.modifiers.get? glyph).map .modifier
  | .augmenter, glyph => (c.augmenters.get? glyph).map .augmenter

theorem lookup_eq_findSome? (glyph : Text) :
    c.lookup glyph = Role.all.findSome? fun role => c.definedAs? role glyph :=
  (Role.findSome?_all fun role => c.definedAs? role glyph).symm

theorem mem_keysOf_iff (role : Role) (glyph : Text) :
    glyph ∈ c.keysOf role ↔ ∃ d, c.definedAs? role glyph = some d := by
  have mapped {α : Type} (found : Option α) (make : α → Definition) :
      (∃ value, found = some value) ↔ ∃ d, found.map make = some d := by
    cases found <;> simp
  cases role with
  | instruction => exact (Mapping.mem_keys_iff _ _).trans (mapped _ _)
  | modifier => exact (Mapping.mem_keys_iff _ _).trans (mapped _ _)
  | augmenter => exact (Mapping.mem_keys_iff _ _).trans (mapped _ _)

theorem role_of_entry (role : Role) (glyph : Text) (d : Definition)
    (found : c.definedAs? role glyph = some d) : d.role = role := by
  cases role with
  | instruction =>
      obtain ⟨i, -, rfl⟩ := Option.map_eq_some_iff.mp found
      rfl
  | modifier =>
      obtain ⟨m, -, rfl⟩ := Option.map_eq_some_iff.mp found
      rfl
  | augmenter =>
      obtain ⟨a, -, rfl⟩ := Option.map_eq_some_iff.mp found
      rfl

/-- A lookup gives an entry of the role that it gives. -/
theorem entry_of_lookup (glyph : Text) (d : Definition) (found : c.lookup glyph = some d) :
    c.definedAs? d.role glyph = some d := by
  rw [lookup_eq_findSome?] at found
  obtain ⟨role, -, entry⟩ := List.exists_of_findSome?_eq_some found
  rwa [c.role_of_entry role glyph d entry]

/-- An entry is reached exactly if its role is the one that the glyph has. -/
theorem lookup_eq_some_iff (role : Role) (glyph : Text) (d : Definition)
    (entry : c.definedAs? role glyph = some d) :
    c.lookup glyph = some d ↔ c.role? glyph = some role := by
  constructor
  · intro found
    rw [role?, found, Option.map_some, c.role_of_entry role glyph d entry]
  · intro has
    obtain ⟨other, found, same⟩ := Option.map_eq_some_iff.mp has
    have reached := c.entry_of_lookup glyph other found
    rw [same, entry] at reached
    rw [found, reached]

theorem roles_eq (glyph : Text) :
    c.roles glyph = Role.all.filter fun role => decide (glyph ∈ c.keysOf role) := by
  by_cases first : glyph ∈ c.instructions.keys <;> by_cases second : glyph ∈ c.modifiers.keys <;>
    by_cases third : glyph ∈ c.augmenters.keys <;>
    simp [roles, Mapping.contains_eq, Role.all, keysOf, first, second, third]

theorem mem_roles (glyph : Text) (role : Role) : role ∈ c.roles glyph ↔ glyph ∈ c.keysOf role := by
  rw [roles_eq, List.mem_filter, decide_eq_true_iff]
  exact and_iff_right role.mem_all

theorem nodup_roles (glyph : Text) : (c.roles glyph).Nodup := by
  rw [roles_eq]
  exact List.Nodup.filter _ (by decide)

theorem head?_roles (glyph : Text) : (c.roles glyph).head? = c.role? glyph := by
  rw [roles_eq, List.head?_filter, role?_eq]

end Entries

section Overlaps

variable (c : Catalog)

theorem overlap?_eq_some_iff (glyph : Text) (o : Overlap) :
    c.overlap? glyph = some o ↔
      o.glyph = glyph ∧ c.roles glyph = o.resolved :: o.shadowed ∧ o.shadowed ≠ [] := by
  obtain ⟨name, resolved, shadowed⟩ := o
  unfold overlap?
  split
  · rename_i first next rest shape
    rw [shape]
    constructor
    · intro same
      cases same
      exact ⟨rfl, rfl, List.cons_ne_nil _ _⟩
    · rintro ⟨rfl, same, -⟩
      cases same
      rfl
  · rename_i short
    constructor
    · intro same
      cases same
    · rintro ⟨-, shape, several⟩
      obtain ⟨next, rest, rfl⟩ := List.exists_cons_of_ne_nil several
      exact absurd shape (short _ _ _)

theorem role_of_overlap (glyph : Text) (o : Overlap) (found : c.overlap? glyph = some o) :
    c.role? glyph = some o.resolved := by
  obtain ⟨-, shape, -⟩ := (c.overlap?_eq_some_iff glyph o).mp found
  rw [← head?_roles, shape, List.head?_cons]

theorem mem_overlaps (o : Overlap) : o ∈ c.overlaps ↔ c.overlap? o.glyph = some o := by
  rw [overlaps, List.mem_filterMap]
  constructor
  · rintro ⟨glyph, -, found⟩
    obtain ⟨rfl, -⟩ := (c.overlap?_eq_some_iff glyph o).mp found
    exact found
  · intro found
    refine ⟨o.glyph, ?_, found⟩
    rw [(Text.perm_sort _).mem_iff, mem_glyphs]
    exact ⟨o.resolved, c.role_of_overlap _ o found⟩

theorem mem_overlaps_iff_roles (o : Overlap) :
    o ∈ c.overlaps ↔ c.roles o.glyph = o.resolved :: o.shadowed ∧ o.shadowed ≠ [] := by
  rw [mem_overlaps, overlap?_eq_some_iff, and_iff_right rfl]

/-- The roles of a glyph that another role of it hides. -/
theorem mem_shadowed (o : Overlap) (member : o ∈ c.overlaps) (role : Role) :
    role ∈ o.shadowed ↔ role ≠ o.resolved ∧ o.glyph ∈ c.keysOf role := by
  obtain ⟨shape, -⟩ := (c.mem_overlaps_iff_roles o).mp member
  have distinct := c.nodup_roles o.glyph
  rw [shape, List.nodup_cons] at distinct
  rw [← mem_roles, shape, List.mem_cons]
  constructor
  · intro hidden
    exact ⟨fun same => distinct.1 (same ▸ hidden), Or.inr hidden⟩
  · rintro ⟨other, same | hidden⟩
    · exact absurd same other
    · exact hidden

theorem shadowed_eq (o : Overlap) (member : o ∈ c.overlaps) :
    o.shadowed =
      Role.all.filter fun role => decide (role ≠ o.resolved ∧ o.glyph ∈ c.keysOf role) := by
  obtain ⟨shape, -⟩ := (c.mem_overlaps_iff_roles o).mp member
  have distinct := c.nodup_roles o.glyph
  rw [shape, List.nodup_cons] at distinct
  have others : (c.roles o.glyph).filter (fun role => decide (role ≠ o.resolved)) = o.shadowed := by
    rw [shape, List.filter_cons_of_neg (by simp), List.filter_eq_self]
    intro role hidden
    exact decide_eq_true fun same => distinct.1 (same ▸ hidden)
  rw [← others, roles_eq, List.filter_filter]
  simp only [Bool.decide_and]

/-- A glyph is reported exactly if it stands in two mappings. -/
theorem reported_iff (glyph : Text) :
    (∃ o ∈ c.overlaps, o.glyph = glyph) ↔
      ∃ first second, first ≠ second ∧ glyph ∈ c.keysOf first ∧ glyph ∈ c.keysOf second := by
  constructor
  · rintro ⟨o, member, rfl⟩
    obtain ⟨shape, several⟩ := (c.mem_overlaps_iff_roles o).mp member
    obtain ⟨hidden, rest, shadowed⟩ := List.exists_cons_of_ne_nil several
    have here : hidden ∈ o.shadowed := by
      rw [shadowed]
      exact List.mem_cons_self
    obtain ⟨differ, inside⟩ := (c.mem_shadowed o member hidden).mp here
    have wins : o.resolved ∈ c.roles o.glyph := by
      rw [shape]
      exact List.mem_cons_self
    exact ⟨hidden, o.resolved, differ, inside, (c.mem_roles _ _).mp wins⟩
  · rintro ⟨first, second, differ, one, two⟩
    rw [← mem_roles] at one two
    cases shape : c.roles glyph with
    | nil =>
        rw [shape] at one
        cases one
    | cons resolved shadowed =>
        have several : shadowed ≠ [] := by
          rintro rfl
          rw [shape, List.mem_singleton] at one two
          exact differ (one.trans two.symm)
        exact ⟨⟨glyph, resolved, shadowed⟩, (c.mem_overlaps_iff_roles _).mpr ⟨shape, several⟩, rfl⟩

theorem overlaps_increasing : (c.overlaps.map Overlap.glyph).Pairwise (· < ·) := by
  rw [overlaps, List.pairwise_map, List.pairwise_filterMap]
  refine (Text.sort_increasing _ c.nodup_glyphs).imp ?_
  intro glyph other less o first p second
  obtain ⟨rfl, -⟩ := (c.overlap?_eq_some_iff glyph o).mp first
  obtain ⟨rfl, -⟩ := (c.overlap?_eq_some_iff other p).mp second
  exact less

theorem nodup_overlaps : c.overlaps.Nodup := by
  have increasing := c.overlaps_increasing
  rw [List.pairwise_map] at increasing
  refine increasing.imp ?_
  rintro o _ less rfl
  exact Std.lt_irrefl less

end Overlaps

/-- A walk over glyphs: those that were met, and the overlaps found among them. -/
structure Walk where
  seen : List Text
  found : List Overlap

section Walks

variable (c : Catalog)

/-- One step of a walk. A glyph that was met before adds nothing. -/
def Walk.visit (w : Walk) (glyph : Text) : Walk :=
  if glyph ∈ w.seen then w else ⟨glyph :: w.seen, w.found ++ (c.overlap? glyph).toList⟩

def walk (visited : List Text) : Walk :=
  visited.foldl (Walk.visit c) ⟨[], []⟩

/-- What is true of a walk at any time: it knows what it has met, and has found each overlap among
that once. -/
structure Walk.Covers (w : Walk) (visited : List Text) : Prop where
  seen : ∀ glyph, glyph ∈ w.seen ↔ glyph ∈ visited
  found : ∀ o, o ∈ w.found ↔ o.glyph ∈ visited ∧ c.overlap? o.glyph = some o
  distinct : w.found.Nodup

variable {c}

theorem Walk.Covers.visit {w : Walk} {visited : List Text} (covers : w.Covers c visited)
    (glyph : Text) : (w.visit c glyph).Covers c (visited ++ [glyph]) := by
  unfold Walk.visit
  split
  · rename_i known
    have met : ∀ other, other ∈ visited ++ [glyph] ↔ other ∈ visited := by
      intro other
      rw [List.mem_append, List.mem_singleton, or_iff_left_iff_imp]
      rintro rfl
      exact (covers.seen other).mp known
    exact ⟨fun other => by rw [covers.seen, met], fun o => by rw [covers.found, met],
      covers.distinct⟩
  · rename_i new
    have own : ∀ o, o ∈ (c.overlap? glyph).toList ↔ o.glyph = glyph ∧ c.overlap? o.glyph = some o := by
      intro o
      rw [Option.mem_toList]
      constructor
      · intro found
        obtain ⟨rfl, -⟩ := (c.overlap?_eq_some_iff glyph o).mp found
        exact ⟨rfl, found⟩
      · rintro ⟨rfl, found⟩
        exact found
    refine ⟨?_, ?_, ?_⟩
    · intro other
      rw [List.mem_cons, covers.seen, List.mem_append, List.mem_singleton, or_comm]
    · intro o
      rw [List.mem_append, covers.found, own, List.mem_append, List.mem_singleton, or_and_right]
    · rw [List.nodup_append]
      refine ⟨covers.distinct, ?_, ?_⟩
      · cases c.overlap? glyph <;> simp
      · rintro o before _ now rfl
        obtain ⟨here, -⟩ := (own o).mp now
        have there := ((covers.found o).mp before).1
        rw [here, ← covers.seen] at there
        exact new there

theorem Walk.Covers.foldl {w : Walk} {before : List Text} (covers : w.Covers c before)
    (visited : List Text) : (visited.foldl (Walk.visit c) w).Covers c (before ++ visited) := by
  induction visited generalizing w before with
  | nil => simpa using covers
  | cons glyph rest ih =>
      have next := ih (covers.visit glyph)
      rwa [List.append_assoc, List.singleton_append] at next

theorem covers_walk (visited : List Text) : (c.walk visited).Covers c visited :=
  Walk.Covers.foldl ⟨fun _ => Iff.rfl, fun _ => by simp, List.nodup_nil⟩ visited

/-- Two of the three mappings are enough: of two roles one is not that of an instruction. -/
theorem mem_found_iff (modifiers augmenters : List Text) (first : modifiers.Perm c.modifiers.keys)
    (second : augmenters.Perm c.augmenters.keys) (o : Overlap) :
    o ∈ (c.walk (modifiers ++ augmenters)).found ↔ o ∈ c.overlaps := by
  rw [(covers_walk _).found, mem_overlaps, and_iff_right_iff_imp]
  intro found
  obtain ⟨one, two, differ, here, there⟩ :=
    (c.reported_iff o.glyph).mp ⟨o, (c.mem_overlaps o).mpr found, rfl⟩
  rw [List.mem_append, first.mem_iff, second.mem_iff]
  cases one with
  | modifier => exact Or.inl here
  | augmenter => exact Or.inr here
  | instruction =>
      cases two with
      | instruction => exact absurd rfl differ
      | modifier => exact Or.inl there
      | augmenter => exact Or.inr there

theorem Reorders.overlap?_eq {other : Catalog} (same : c.Reorders other) :
    other.overlap? = c.overlap? := by
  have keys (role : Role) (glyph : Text) : glyph ∈ other.keysOf role ↔ glyph ∈ c.keysOf role := by
    cases role with
    | instruction => exact (same.instructions.map Prod.fst).mem_iff.symm
    | modifier => exact (same.modifiers.map Prod.fst).mem_iff.symm
    | augmenter => exact (same.augmenters.map Prod.fst).mem_iff.symm
  funext glyph
  have roles : other.roles glyph = c.roles glyph := by
    rw [roles_eq, roles_eq]
    simp only [keys]
  rw [overlap?, roles, overlap?]

theorem Reorders.overlaps_eq {other : Catalog} (same : c.Reorders other) :
    other.overlaps = c.overlaps := by
  rw [overlaps, same.glyphs_eq, same.overlap?_eq, overlaps]

/-- Whatever the order of a walk and of equal elements in a sort, the same list comes out. -/
theorem eq_overlaps_of_walk (modifiers augmenters : List Text)
    (first : modifiers.Perm c.modifiers.keys) (second : augmenters.Perm c.augmenters.keys)
    (sorted : List Overlap) (same : sorted.Perm (c.walk (modifiers ++ augmenters)).found)
    (ordered : sorted.Pairwise fun o p => ¬ p.glyph < o.glyph) : sorted = c.overlaps := by
  have perm : sorted.Perm c.overlaps := by
    refine same.trans ?_
    rw [List.perm_ext_iff_of_nodup (covers_walk _).distinct c.nodup_overlaps]
    exact mem_found_iff modifiers augmenters first second
  have increasing := c.overlaps_increasing
  rw [List.pairwise_map] at increasing
  refine List.Perm.eq_of_pairwise ?_ ordered (increasing.imp Std.not_gt_of_lt) perm
  intro o p here there notLess notGreater
  have glyph : o.glyph = p.glyph := List.le_antisymm notLess notGreater
  have one := (c.mem_overlaps o).mp (perm.mem_iff.mp here)
  have two := (c.mem_overlaps p).mp there
  rw [glyph, two] at one
  exact (Option.some.inj one).symm

end Walks

section Removal

variable (c : Catalog)

/-- The entries that the overlaps of a catalog report, each by its glyph and its role. -/
def dead : List (Text × Role) :=
  c.overlaps.flatMap fun o => o.shadowed.map fun role => (o.glyph, role)

def withoutEntry (entry : Text × Role) : Catalog :=
  match entry.2 with
  | .instruction => { c with instructions := c.instructions.erase entry.1 }
  | .modifier => { c with modifiers := c.modifiers.erase entry.1 }
  | .augmenter => { c with augmenters := c.augmenters.erase entry.1 }

def without (entries : List (Text × Role)) : Catalog :=
  entries.foldl withoutEntry c

/-- An entry is reported exactly if its glyph has another role. -/
theorem mem_dead (glyph : Text) (role : Role) :
    (glyph, role) ∈ c.dead ↔ glyph ∈ c.keysOf role ∧ c.role? glyph ≠ some role := by
  rw [dead, List.mem_flatMap]
  constructor
  · rintro ⟨o, member, hidden⟩
    obtain ⟨other, shadowed, same⟩ := List.mem_map.mp hidden
    cases same
    obtain ⟨differ, inside⟩ := (c.mem_shadowed o member role).mp shadowed
    refine ⟨inside, ?_⟩
    rw [c.role_of_overlap _ o ((c.mem_overlaps o).mp member)]
    exact fun same => differ (Option.some.inj same).symm
  · rintro ⟨inside, other⟩
    have known := (c.mem_roles glyph role).mpr inside
    have first := c.head?_roles glyph
    cases shape : c.roles glyph with
    | nil =>
        rw [shape] at known
        cases known
    | cons resolved shadowed =>
        rw [shape, List.head?_cons] at first
        have differ : role ≠ resolved := by
          rintro rfl
          exact other first.symm
        rw [shape, List.mem_cons] at known
        have hidden := known.resolve_left differ
        exact ⟨⟨glyph, resolved, shadowed⟩,
          (c.mem_overlaps_iff_roles _).mpr ⟨shape, List.ne_nil_of_mem hidden⟩,
          List.mem_map_of_mem hidden⟩

theorem definedAs?_withoutEntry (entry : Text × Role) (role : Role) (glyph : Text) :
    (c.withoutEntry entry).definedAs? role glyph =
      if (glyph, role) = entry then none else c.definedAs? role glyph := by
  obtain ⟨name, gone⟩ := entry
  cases gone <;> cases role <;> by_cases same : glyph = name <;>
    simp [withoutEntry, definedAs?, Mapping.get?_erase, same]

theorem definedAs?_without (entries : List (Text × Role)) (role : Role) (glyph : Text) :
    (c.without entries).definedAs? role glyph =
      if (glyph, role) ∈ entries then none else c.definedAs? role glyph := by
  induction entries generalizing c with
  | nil => simp [without]
  | cons entry rest ih =>
      have next := ih (c.withoutEntry entry)
      rw [definedAs?_withoutEntry] at next
      rw [without, List.foldl_cons]
      refine next.trans ?_
      by_cases gone : (glyph, role) ∈ rest <;> by_cases here : (glyph, role) = entry <;>
        simp [gone, here]

/-- What is left of a mapping are the glyphs that have its role. -/
theorem mem_keysOf_without_dead (role : Role) (glyph : Text) :
    glyph ∈ (c.without c.dead).keysOf role ↔ c.role? glyph = some role := by
  rw [mem_keysOf_iff, definedAs?_without]
  by_cases hidden : (glyph, role) ∈ c.dead
  · have other := ((c.mem_dead glyph role).mp hidden).2
    simp [hidden, other]
  · rw [if_neg hidden, ← mem_keysOf_iff]
    rw [mem_dead, not_and, not_ne_iff] at hidden
    exact ⟨hidden, c.mem_keysOf_of_role glyph role⟩

theorem role?_without_dead (glyph : Text) : (c.without c.dead).role? glyph = c.role? glyph := by
  apply Option.ext
  intro role
  constructor
  · intro has
    exact (c.mem_keysOf_without_dead role glyph).mp (mem_keysOf_of_role _ glyph role has)
  · intro has
    -- The glyph is left in one mapping alone, so a lookup finds it there or not at all.
    have inside := (c.mem_keysOf_without_dead role glyph).mpr has
    cases found : (c.without c.dead).role? glyph with
    | none =>
        rw [role?_eq, List.find?_eq_none] at found
        exact absurd (decide_eq_true inside) (found role role.mem_all)
    | some other =>
        have same := (c.mem_keysOf_without_dead other glyph).mp
          (mem_keysOf_of_role _ glyph other found)
        rw [← has, same]

theorem lookup_without_dead : (c.without c.dead).lookup = c.lookup := by
  funext glyph
  apply Option.ext
  intro d
  have survives : c.role? glyph = some d.role →
      (c.without c.dead).definedAs? d.role glyph = c.definedAs? d.role glyph := by
    intro has
    rw [definedAs?_without, if_neg]
    exact fun hidden => ((c.mem_dead glyph d.role).mp hidden).2 has
  constructor
  · intro found
    have has : c.role? glyph = some d.role := by
      rw [← role?_without_dead, role?, found, Option.map_some]
    have entry := entry_of_lookup _ glyph d found
    rw [survives has] at entry
    exact (c.lookup_eq_some_iff d.role glyph d entry).mpr has
  · intro found
    have has : c.role? glyph = some d.role := by
      rw [role?, found, Option.map_some]
    have entry := c.entry_of_lookup glyph d found
    rw [← survives has] at entry
    rw [lookup_eq_some_iff _ d.role glyph d entry, role?_without_dead]
    exact has

/-- The glyphs of a catalog depend on nothing but what they mean. -/
theorem glyphs_eq_of_lookup (other : Catalog) (same : other.lookup = c.lookup) :
    other.glyphs = c.glyphs := by
  have own (role : Role) : other.own role = c.own role := by
    have perm : (other.own role).Perm (c.own role) := by
      rw [List.perm_ext_iff_of_nodup ((other.own_increasing role).imp Std.ne_of_lt)
        ((c.own_increasing role).imp Std.ne_of_lt)]
      intro glyph
      rw [mem_own, mem_own, role?, same, role?]
    refine perm.eq_of_pairwise ?_ (other.own_increasing role) (c.own_increasing role)
    intro a b _ _ less greater
    exact absurd greater (Std.not_gt_of_lt less)
  rw [other.glyphs_eq, own, own, own, ← c.glyphs_eq]

theorem overlaps_without_dead : (c.without c.dead).overlaps = [] := by
  rw [List.eq_nil_iff_forall_not_mem]
  intro o member
  obtain ⟨first, second, differ, one, two⟩ :=
    (reported_iff _ o.glyph).mp ⟨o, member, rfl⟩
  rw [mem_keysOf_without_dead] at one two
  exact differ (Option.some.inj (one.symm.trans two))

end Removal

section Sizes

variable (c : Catalog)

theorem length_keysOf (role : Role) :
    (c.keysOf role).length =
      (Text.sort c.glyphs).countP fun glyph => decide (glyph ∈ c.keysOf role) := by
  rw [(Text.perm_sort c.glyphs).countP_eq, List.countP_eq_length_filter]
  apply List.Perm.length_eq
  rw [List.perm_ext_iff_of_nodup (c.nodup_keysOf role) (c.nodup_glyphs.filter _)]
  intro glyph
  rw [List.mem_filter, decide_eq_true_iff, mem_glyphs]
  refine ⟨fun inside => ⟨?_, inside⟩, And.right⟩
  rw [← Option.isSome_iff_exists, role?_eq, List.find?_isSome]
  exact ⟨role, role.mem_all, decide_eq_true inside⟩

theorem sum_roles (glyphs : List Text) :
    (glyphs.map fun glyph => (c.roles glyph).length).sum =
      glyphs.countP (fun glyph => decide (glyph ∈ c.keysOf .instruction)) +
        glyphs.countP (fun glyph => decide (glyph ∈ c.keysOf .modifier)) +
        glyphs.countP (fun glyph => decide (glyph ∈ c.keysOf .augmenter)) := by
  induction glyphs with
  | nil => rfl
  | cons glyph rest ih =>
      have here : (c.roles glyph).length =
          (if decide (glyph ∈ c.keysOf .instruction) then 1 else 0) +
            (if decide (glyph ∈ c.keysOf .modifier) then 1 else 0) +
            (if decide (glyph ∈ c.keysOf .augmenter) then 1 else 0) := by
        rw [roles_eq, ← List.countP_eq_length_filter]
        simp only [Role.all, List.countP_cons, List.countP_nil]
        omega
      rw [List.map_cons, List.sum_cons, ih, here, List.countP_cons, List.countP_cons,
        List.countP_cons]
      omega

/-- Of the roles of a glyph one counts, and its overlap names the others. -/
theorem length_roles (glyph : Text) (known : glyph ∈ c.glyphs) :
    (c.roles glyph).length = 1 + (c.overlap? glyph).elim 0 fun o => o.shadowed.length := by
  obtain ⟨role, has⟩ := (c.mem_glyphs glyph).mp known
  rw [← head?_roles] at has
  cases shape : c.roles glyph with
  | nil =>
      rw [shape] at has
      cases has
  | cons resolved shadowed =>
      cases shadowed with
      | nil => simp [overlap?, shape]
      | cons next more =>
          simp only [overlap?, shape, Option.elim_some, List.length_cons]
          omega

theorem sum_shadowed (glyphs : List Text) (known : ∀ glyph ∈ glyphs, glyph ∈ c.glyphs) :
    (glyphs.map fun glyph => (c.roles glyph).length).sum =
      glyphs.length + ((glyphs.filterMap c.overlap?).map fun o => o.shadowed.length).sum := by
  induction glyphs with
  | nil => rfl
  | cons glyph rest ih =>
      have here := c.length_roles glyph (known glyph List.mem_cons_self)
      have others := ih fun g member => known g (List.mem_cons_of_mem _ member)
      rw [List.map_cons, List.sum_cons, here, others, List.length_cons]
      cases found : c.overlap? glyph with
      | none =>
          rw [List.filterMap_cons_none found, Option.elim_none]
          omega
      | some o =>
          rw [List.filterMap_cons_some found, Option.elim_some, List.map_cons, List.sum_cons]
          omega

theorem sizes_eq :
    c.instructions.entries.length + c.modifiers.entries.length + c.augmenters.entries.length =
      c.size + (c.overlaps.map fun o => o.shadowed.length).sum := by
  have known : ∀ glyph ∈ Text.sort c.glyphs, glyph ∈ c.glyphs :=
    fun glyph member => (Text.perm_sort _).mem_iff.mp member
  have counted := c.sum_shadowed (Text.sort c.glyphs) known
  rw [sum_roles, ← length_keysOf, ← length_keysOf, ← length_keysOf,
    (Text.perm_sort c.glyphs).length_eq] at counted
  simpa only [keysOf, Mapping.keys, List.length_map, size, overlaps] using counted

end Sizes

/-- The overlaps of a catalog are what a walk over its modifiers and its augmenters finds, in whatever
order it meets them and however it is sorted by glyph, and do not depend on the order of the mappings.
They come in strictly increasing order, one for each glyph that stands in two mappings or more, with
the role that a lookup gives it, and the other roles that define it in their order. Without the
entries they report, everything means what it meant, the glyphs are the same, and nothing overlaps;
all other entries are reached by looking up their glyph. So the three mappings together are larger than
the catalog by the number of entries that are reported. -/
theorem overlaps_are_dead_entries (c : Catalog) :
    (∀ modifiers augmenters sorted, modifiers.Perm c.modifiers.keys →
      augmenters.Perm c.augmenters.keys →
      sorted.Perm (c.walk (modifiers ++ augmenters)).found →
      sorted.Pairwise (fun o p => ¬ p.glyph < o.glyph) → sorted = c.overlaps) ∧
    (∀ other, c.Reorders other → other.overlaps = c.overlaps) ∧
    (c.overlaps.map Overlap.glyph).Pairwise (· < ·) ∧
    (∀ glyph, (∃ o ∈ c.overlaps, o.glyph = glyph) ↔
      ∃ first second, first ≠ second ∧ glyph ∈ c.keysOf first ∧ glyph ∈ c.keysOf second) ∧
    (∀ o ∈ c.overlaps, c.role? o.glyph = some o.resolved ∧
      o.shadowed =
        Role.all.filter fun role => decide (role ≠ o.resolved ∧ o.glyph ∈ c.keysOf role)) ∧
    (c.without c.dead).lookup = c.lookup ∧ (c.without c.dead).glyphs = c.glyphs ∧
    (c.without c.dead).overlaps = [] ∧
    (∀ role glyph d, c.definedAs? role glyph = some d →
      ((glyph, role) ∉ c.dead ↔ c.lookup glyph = some d)) ∧
    c.instructions.entries.length + c.modifiers.entries.length + c.augmenters.entries.length =
      c.size + (c.overlaps.map fun o => o.shadowed.length).sum := by
  refine ⟨?_, ?_, c.overlaps_increasing, c.reported_iff, ?_, c.lookup_without_dead,
    c.glyphs_eq_of_lookup _ c.lookup_without_dead, c.overlaps_without_dead, ?_, c.sizes_eq⟩
  · intro modifiers augmenters sorted first second same ordered
    exact eq_overlaps_of_walk modifiers augmenters first second sorted same ordered
  · intro other same
    exact same.overlaps_eq
  · intro o member
    exact ⟨c.role_of_overlap _ o ((c.mem_overlaps o).mp member), c.shadowed_eq o member⟩
  · intro role glyph d entry
    have inside := (c.mem_keysOf_iff role glyph).mpr ⟨d, entry⟩
    rw [c.lookup_eq_some_iff role glyph d entry, mem_dead, not_and, not_ne_iff]
    exact ⟨fun reached => reached inside, fun has _ => has⟩

/-- The walk meets the shadowed instruction first, and the list begins with the other glyph. -/
theorem shaded_overlaps :
    (shadedCatalog.walk [utf8 "X", utf8 "M", utf8 "P", utf8 "M"]).found =
        [⟨utf8 "X", .instruction, [.modifier]⟩, ⟨utf8 "M", .modifier, [.augmenter]⟩] ∧
      shadedCatalog.overlaps =
        [⟨utf8 "M", .modifier, [.augmenter]⟩, ⟨utf8 "X", .instruction, [.modifier]⟩] := by
  have found : (shadedCatalog.walk [utf8 "X", utf8 "M", utf8 "P", utf8 "M"]).found =
      [⟨utf8 "X", .instruction, [.modifier]⟩, ⟨utf8 "M", .modifier, [.augmenter]⟩] := by
    decide +kernel
  obtain ⟨walked, -⟩ := overlaps_are_dead_entries shadedCatalog
  refine ⟨found, (walked [utf8 "X", utf8 "M"] [utf8 "P", utf8 "M"] _ (.swap _ _ _) (.refl _) ?_ ?_).symm⟩
  · exact (List.Perm.swap _ _ _).trans (.of_eq found.symm)
  · decide +kernel

end Catalog
end Hexaglyph
