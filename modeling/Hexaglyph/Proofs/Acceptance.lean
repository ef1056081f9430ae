import Hexaglyph.Proofs.Digits
import Hexaglyph.Proofs.Loading
import Hexaglyph.Proofs.Mappings
set_option autoImplicit false

/-! Which documents become catalogs. Whether a document is accepted, what its glyphs mean then, and
which section is blamed otherwise, can be told from the entries it has, in whatever order they are
visited. -/
namespace Hexaglyph

/-- What is asked of an entry: a glyph without blanks that is not empty, and a name. -/
def SoundEntry (glyph name : Text) : Prop :=
  glyph ≠ [] ∧ (∀ s ∈ Text.symbols glyph, s.isBlank = false) ∧ name ≠ []

instance (glyph name : Text) : Decidable (SoundEntry glyph name) :=
  inferInstanceAs (Decidable (_ ∧ _ ∧ _))

def CatalogFault.role? : CatalogFault → Option Role
  | missing role => some role
  | emptyGlyph role => some role
  | blankInGlyph role _ => some role
  | noName role _ => some role
  | _ => none

/-- The message of an error tells which section it was found in, by the name of the section or by
what stands in it. -/
theorem CatalogError.section_in_message (e : CatalogError) (role : Role)
    (own : e.fault.role? = some role) :
    utf8 role.sectionName <:+: e.message ∨ utf8 role.name <:+: e.message := by
  have within (text : Text) (inside : text <:+: e.fault.reason) : text <:+: e.message := by
    have reason : e.fault.reason <:+: withCause e.fault.reason e.fault.cause? := by
      cases e.fault.cause? with
      | none => exact List.infix_rfl
      | some cause =>
          rw [withCause, List.append_assoc]
          exact (List.prefix_append _ _).isInfix
    exact inside.trans (reason.trans (List.suffix_append _ _).isInfix)
  obtain ⟨source, fault⟩ := e
  cases fault with
  | cannotOpen | cannotRead | malformed => cases own
  | missing =>
      cases own
      exact .inl (within _ (List.infix_append _ _ _))
  | emptyGlyph =>
      cases own
      exact .inl (within _ (List.suffix_append _ _).isInfix)
  | blankInGlyph =>
      cases own
      exact .inl (within _ (List.infix_append _ _ _))
  | noName =>
      cases own
      refine .inr (within _ ?_)
      simp only [CatalogFault.reason, List.append_assoc]
      exact (List.prefix_append _ _).isInfix

theorem entryFault?_eq_none_iff (role : Role) (glyph name : Text) :
    entryFault? role glyph name = none ↔ SoundEntry glyph name := by
  unfold entryFault? SoundEntry
  by_cases empty : glyph = []
  · simp [empty]
  · by_cases blank : (Text.symbols glyph).any Symbol.isBlank = true
    · have found : ¬ ∀ s ∈ Text.symbols glyph, s.isBlank = false := by
        obtain ⟨s, member, isBlank⟩ := List.any_eq_true.mp blank
        intro solid
        rw [solid s member] at isBlank
        cases isBlank
      simp [empty, blank, found]
    · have solid : ∀ s ∈ Text.symbols glyph, s.isBlank = false := by
        simpa using blank
      simp only [List.isEmpty_iff, empty, blank, ↓reduceIte, ne_eq, not_false_eq_true, true_and]
      by_cases unnamed : name = []
      · simp [unnamed]
      · simpa [unnamed] using solid

/-- The fault of an entry is one of the section that it stands in, and not that the section is
missing. -/
theorem role_of_entryFault (role : Role) (glyph name : Text) (fault : CatalogFault)
    (found : entryFault? role glyph name = some fault) :
    fault.role? = some role ∧ ∀ other, fault ≠ .missing other := by
  unfold entryFault? at found
  split at found
  · cases found
    exact ⟨rfl, by simp⟩
  · split at found
    · cases found
      exact ⟨rfl, by simp⟩
    · split at found
      · cases found
        exact ⟨rfl, by simp⟩
      · cases found

/-- The roles in the order in which their sections are checked. -/
def Role.all : List Role :=
  [.instruction, .modifier, .augmenter]

theorem Role.mem_all (role : Role) : role ∈ all := by
  cases role <;> decide

theorem Role.findSome?_all {α : Type} (f : Role → Option α) :
    all.findSome? f = (f .instruction).or ((f .modifier).or (f .augmenter)) := by
  simp only [all, List.findSome?_cons, List.findSome?_nil]
  cases f .instruction with
  | some value => rfl
  | none =>
      cases f .modifier with
      | some value => rfl
      | none => cases f .augmenter <;> rfl

def Mapping.named {α : Type} (name : α → Text) (m : Mapping Text α) : List (Text × Text) :=
  m.entries.map fun entry => (entry.1, name entry.2)

theorem sectionFault?_eq {α : Type} (role : Role) (name : α → Text) (m : Mapping Text α) :
    sectionFault? role name m = (m.named name).findSome? fun entry => entryFault? role entry.1 entry.2 := by
  rw [Mapping.named, List.findSome?_map]
  rfl

namespace CatalogDocument

def names? (d : CatalogDocument) : Role → Option (List (Text × Text))
  | .instruction => d.instructions.map (·.named Instruction.name)
  | .modifier => d.modifiers.map (·.named Modifier.name)
  | .augmenter => d.augmenters.map (·.named Augmenter.name)

/-- All sections are there, and every entry of them is sound. -/
def WellFormed (d : CatalogDocument) : Prop :=
  ∀ role, ∃ entries, d.names? role = some entries ∧ ∀ entry ∈ entries, SoundEntry entry.1 entry.2

def lacks (d : CatalogDocument) (role : Role) : Bool :=
  (d.names? role).isNone

def spoils (d : CatalogDocument) (role : Role) : Bool :=
  (d.names? role).any fun entries => entries.any fun entry => ! decide (SoundEntry entry.1 entry.2)

/-- The section to blame: the first that is missing, or else the first that is spoiled. -/
def blamed? (d : CatalogDocument) : Option Role :=
  (Role.all.find? d.lacks).or (Role.all.find? d.spoils)

theorem blamed?_eq_none_iff (d : CatalogDocument) : d.blamed? = none ↔ d.WellFormed := by
  rw [blamed?, Option.or_eq_none_iff, List.find?_eq_none, List.find?_eq_none]
  constructor
  · rintro ⟨present, sound⟩ role
    have here := present role role.mem_all
    have clean := sound role role.mem_all
    rw [lacks] at here
    rw [spoils] at clean
    cases found : d.names? role with
    | none =>
        rw [found] at here
        exact absurd rfl here
    | some entries =>
        rw [found] at clean
        exact ⟨entries, rfl, by simpa using clean⟩
  · intro wellFormed
    constructor
    · intro role _
      obtain ⟨entries, found, -⟩ := wellFormed role
      simp [lacks, found]
    · intro role _
      obtain ⟨entries, found, sound⟩ := wellFormed role
      simpa [spoils, found] using sound

/-- The same document with the entries of each section in another order. -/
structure Reorders (d e : CatalogDocument) : Prop where
  instructions : Option.Rel Mapping.Reorders d.instructions e.instructions
  modifiers : Option.Rel Mapping.Reorders d.modifiers e.modifiers
  augmenters : Option.Rel Mapping.Reorders d.augmenters e.augmenters

theorem perm_named {α : Type} (name : α → Text) {s t : Option (Mapping Text α)}
    (same : Option.Rel Mapping.Reorders s t) :
    Option.Rel List.Perm (s.map (·.named name)) (t.map (·.named name)) := by
  cases same with
  | none => exact .none
  | some same => exact .some (same.map _)

theorem Reorders.names? {d e : CatalogDocument} (same : d.Reorders e) (role : Role) :
    Option.Rel List.Perm (d.names? role) (e.names? role) := by
  cases role with
  | instruction => exact perm_named _ same.instructions
  | modifier => exact perm_named _ same.modifiers
  | augmenter => exact perm_named _ same.augmenters

theorem Reorders.lacks_eq {d e : CatalogDocument} (same : d.Reorders e) : e.lacks = d.lacks := by
  funext role
  have names := same.names? role
  rw [lacks, lacks]
  generalize d.names? role = first at names
  generalize e.names? role = second at names
  cases names <;> rfl

theorem Reorders.spoils_eq {d e : CatalogDocument} (same : d.Reorders e) : e.spoils = d.spoils := by
  funext role
  have names := same.names? role
  rw [spoils, spoils]
  generalize d.names? role = first at names
  generalize e.names? role = second at names
  cases names with
  | none => rfl
  | some perm => exact perm.any_eq.symm

theorem Reorders.blamed?_eq {d e : CatalogDocument} (same : d.Reorders e) : e.blamed? = d.blamed? := by
  rw [blamed?, same.lacks_eq, same.spoils_eq, blamed?]

def HasEntry {α : Type} (s : Option (Mapping Text α)) (glyph : Text) (value : α) : Prop :=
  ∃ m, s = some m ∧ (glyph, value) ∈ m.entries

theorem hasEntry_iff {α : Type} {s : Option (Mapping Text α)} {m : Mapping Text α}
    (same : Option.Rel Mapping.Reorders s (some m)) (glyph : Text) (value : α) :
    HasEntry s glyph value ↔ m.get? glyph = some value := by
  cases same with
  | some reorders =>
      rw [Mapping.get?_eq_some_iff, ← reorders.mem_iff]
      simp [HasEntry]

theorem not_hasEntry_iff {α : Type} {s : Option (Mapping Text α)} {m : Mapping Text α}
    (same : Option.Rel Mapping.Reorders s (some m)) (glyph : Text) :
    (¬ ∃ value, HasEntry s glyph value) ↔ m.get? glyph = none := by
  simp only [hasEntry_iff same, Option.eq_none_iff_forall_ne_some, not_exists, ne_eq]

def absence? (d : CatalogDocument) (role : Role) : Option CatalogFault :=
  if d.lacks role then some (.missing role) else none

/-- What is reported of a section that is there: the fault of the first entry that has one. -/
def fault? (d : CatalogDocument) (role : Role) : Option CatalogFault :=
  (d.names? role).bind fun entries => entries.findSome? fun entry => entryFault? role entry.1 entry.2

def complaint? (d : CatalogDocument) : Option CatalogFault :=
  (Role.all.findSome? d.absence?).or (Role.all.findSome? d.fault?)

theorem isSome_absence? (d : CatalogDocument) (role : Role) :
    (d.absence? role).isSome = d.lacks role := by
  rw [absence?]
  cases d.lacks role <;> rfl

theorem isSome_fault? (d : CatalogDocument) (role : Role) : (d.fault? role).isSome = d.spoils role := by
  rw [fault?, spoils]
  cases d.names? role with
  | none => rfl
  | some entries =>
      rw [Option.bind_some, Option.any_some, List.isSome_findSome?]
      congr 1
      funext entry
      rw [Bool.eq_iff_iff, Bool.not_eq_true', decide_eq_false_iff_not,
        ← entryFault?_eq_none_iff role, Option.isSome_iff_ne_none]

theorem role_of_fault (d : CatalogDocument) (role : Role) (fault : CatalogFault)
    (found : d.fault? role = some fault) :
    fault.role? = some role ∧ ∀ other, fault ≠ .missing other := by
  obtain ⟨entries, -, searched⟩ := Option.bind_eq_some_iff.mp found
  obtain ⟨entry, -, wrong⟩ := List.exists_of_findSome?_eq_some searched
  exact role_of_entryFault role _ _ fault wrong

/-- The first role with something to report is the first of those that have it. -/
theorem find?_of_findSome? (report : Role → Option CatalogFault) (test : Role → Bool)
    (agree : ∀ role, (report role).isSome = test role) (roles : List Role) (fault : CatalogFault)
    (found : roles.findSome? report = some fault) :
    ∃ role, roles.find? test = some role ∧ report role = some fault := by
  obtain ⟨before, role, after, rfl, reported, quiet⟩ := List.findSome?_eq_some_iff.mp found
  refine ⟨role, List.find?_eq_some_iff_append.mpr ⟨?_, before, after, rfl, ?_⟩, reported⟩
  · rw [← agree, reported]
    rfl
  · intro other earlier
    rw [← agree, quiet other earlier]
    rfl

/-- What is reported of a document lies in the section to blame. -/
theorem blamed?_of_complaint (d : CatalogDocument) (fault : CatalogFault)
    (found : d.complaint? = some fault) :
    ∃ role, d.blamed? = some role ∧ fault.role? = some role ∧
      (fault = .missing role ↔ d.lacks role = true) := by
  rw [complaint?, Option.or_eq_some_iff] at found
  rcases found with missing | ⟨complete, wrong⟩
  · obtain ⟨role, first, reported⟩ :=
      find?_of_findSome? d.absence? d.lacks d.isSome_absence? Role.all fault missing
    have lacking : d.lacks role = true := List.find?_some first
    rw [absence?, if_pos lacking] at reported
    cases reported
    refine ⟨role, ?_, rfl, iff_of_true rfl lacking⟩
    rw [blamed?, first, Option.some_or]
  · obtain ⟨role, first, reported⟩ :=
      find?_of_findSome? d.fault? d.spoils d.isSome_fault? Role.all fault wrong
    have present : ∀ other, d.lacks other = false := by
      intro other
      have silent := List.findSome?_eq_none_iff.mp complete other other.mem_all
      rw [← isSome_absence?, silent]
      rfl
    have none : Role.all.find? d.lacks = none :=
      List.find?_eq_none.mpr fun other _ => by simp [present other]
    obtain ⟨own, other⟩ := d.role_of_fault role fault reported
    refine ⟨role, ?_, own, iff_of_false (other role) (by simp [present role])⟩
    rw [blamed?, none, first, Option.none_or]

/-- There is nothing to report exactly if the document is well formed. -/
theorem complaint?_eq_none_iff (d : CatalogDocument) : d.complaint? = none ↔ d.WellFormed := by
  rw [← blamed?_eq_none_iff]
  constructor
  · intro silent
    rw [complaint?, Option.or_eq_none_iff, List.findSome?_eq_none_iff,
      List.findSome?_eq_none_iff] at silent
    rw [blamed?, Option.or_eq_none_iff, List.find?_eq_none, List.find?_eq_none]
    constructor
    · intro role member
      rw [← isSome_absence?, silent.1 role member]
      exact Bool.false_ne_true
    · intro role member
      rw [← isSome_fault?, silent.2 role member]
      exact Bool.false_ne_true
  · intro blameless
    cases found : d.complaint? with
    | none => rfl
    | some fault =>
        obtain ⟨role, blamed, -⟩ := d.blamed?_of_complaint fault found
        rw [blameless] at blamed
        cases blamed

end CatalogDocument

namespace Catalog

/-- The checks of a document, one after another, come to its complaint. -/
theorem ofDocument_eq (source : Text) (d : CatalogDocument) :
    match d.complaint? with
    | some fault => ofDocument source d = .error fault
    | none => ∃ i m a, d = ⟨some i, some m, some a⟩ ∧
        ofDocument source d = .ok ⟨source, i.map Instruction.resolved, m, a⟩ := by
  obtain ⟨i, m, a⟩ := d
  cases i with
  | none => rfl
  | some i =>
      cases m with
      | none => rfl
      | some m =>
          cases a with
          | none => rfl
          | some a =>
              have opened : ofDocument source ⟨some i, some m, some a⟩ = (do
                  refuse (sectionFault? .instruction Instruction.name i)
                  refuse (sectionFault? .modifier Modifier.name m)
                  refuse (sectionFault? .augmenter Augmenter.name a)
                  return ⟨source, i.map Instruction.resolved, m, a⟩) := rfl
              have sections : CatalogDocument.complaint? ⟨some i, some m, some a⟩ =
                  ((sectionFault? .instruction Instruction.name i).or
                    ((sectionFault? .modifier Modifier.name m).or
                      (sectionFault? .augmenter Augmenter.name a))) := by
                rw [sectionFault?_eq, sectionFault?_eq, sectionFault?_eq]
                exact Role.findSome?_all (CatalogDocument.fault? ⟨some i, some m, some a⟩)
              rw [opened, sections]
              cases sectionFault? .instruction Instruction.name i with
              | some fault => rfl
              | none =>
                  cases sectionFault? .modifier Modifier.name m with
                  | some fault => rfl
                  | none =>
                      cases sectionFault? .augmenter Augmenter.name a with
                      | some fault => rfl
                      | none => exact ⟨i, m, a, rfl, rfl⟩

/-- What becomes of a document that was read, its entries visited in the order they have. -/
def accept (source : Text) (d : CatalogDocument) : Except CatalogError Catalog :=
  (ofDocument source d).mapError (CatalogError.mk source)

theorem load_of_parsed (source contents : Text) (d : CatalogDocument)
    (parsed : parseDocument contents = .ok d) : load source (.ok contents) = accept source d := by
  have opened : load source (.ok contents) =
      (parseDocument contents >>= ofDocument source).mapError (CatalogError.mk source) := rfl
  rw [opened, parsed]
  rfl

theorem accept_of_complaint (source : Text) (d : CatalogDocument) (fault : CatalogFault)
    (found : d.complaint? = some fault) : accept source d = .error ⟨source, fault⟩ := by
  have checked := ofDocument_eq source d
  rw [found] at checked
  rw [accept, checked]
  rfl

theorem accept_of_silence (source : Text) (d : CatalogDocument) (silent : d.complaint? = none) :
    ∃ c, accept source d = .ok c := by
  have checked := ofDocument_eq source d
  rw [silent] at checked
  obtain ⟨i, m, a, -, built⟩ := checked
  rw [accept, built]
  exact ⟨_, rfl⟩

theorem accept_error (source : Text) (d : CatalogDocument) (e : CatalogError)
    (refused : accept source d = .error e) : e.source = source ∧ d.complaint? = some e.fault := by
  cases found : d.complaint? with
  | some fault =>
      rw [accept_of_complaint source d fault found] at refused
      cases refused
      exact ⟨rfl, rfl⟩
  | none =>
      obtain ⟨c, built⟩ := accept_of_silence source d found
      rw [built] at refused
      cases refused

theorem accept_ok (source : Text) (d : CatalogDocument) (c : Catalog)
    (accepted : accept source d = .ok c) : ∃ i m a, d = ⟨some i, some m, some a⟩ ∧
      c = ⟨source, i.map Instruction.resolved, m, a⟩ := by
  obtain ⟨i, m, a, present, -, -, -, built⟩ :=
    ofDocument_ok source d c (mapError_ok _ _ _ accepted)
  exact ⟨i, m, a, present, built⟩

theorem exists_accept_iff (source : Text) (d : CatalogDocument) :
    (∃ c, accept source d = .ok c) ↔ d.WellFormed := by
  rw [← d.complaint?_eq_none_iff]
  constructor
  · rintro ⟨c, accepted⟩
    cases found : d.complaint? with
    | none => rfl
    | some fault =>
        rw [accept_of_complaint source d fault found] at accepted
        cases accepted
  · exact accept_of_silence source d

/-- A catalog in which every glyph means what a document says: of a glyph in several sections the
instruction counts, or else the modifier. An instruction is as it was written, with the byte that its
opcode spells, if it spells one. -/
structure Follows (c : Catalog) (d : CatalogDocument) : Prop where
  instruction : ∀ glyph i, CatalogDocument.HasEntry d.instructions glyph i →
    ∃ code, c.lookup glyph = some (.instruction { i with code := code }) ∧
      ∀ byte, code = some byte ↔ i.opcode ∈ Text.spellings byte
  modifier : ∀ glyph m, (¬ ∃ i, CatalogDocument.HasEntry d.instructions glyph i) →
    CatalogDocument.HasEntry d.modifiers glyph m → c.lookup glyph = some (.modifier m)
  augmenter : ∀ glyph a, (¬ ∃ i, CatalogDocument.HasEntry d.instructions glyph i) →
    (¬ ∃ m, CatalogDocument.HasEntry d.modifiers glyph m) →
    CatalogDocument.HasEntry d.augmenters glyph a → c.lookup glyph = some (.augmenter a)
  unknown : ∀ glyph, (¬ ∃ i, CatalogDocument.HasEntry d.instructions glyph i) →
    (¬ ∃ m, CatalogDocument.HasEntry d.modifiers glyph m) →
    (¬ ∃ a, CatalogDocument.HasEntry d.augmenters glyph a) → c.lookup glyph = none

theorem follows_of_accept (source : Text) (d visited : CatalogDocument) (order : d.Reorders visited)
    (c : Catalog) (accepted : accept source visited = .ok c) : c.Follows d := by
  obtain ⟨i, m, a, rfl, rfl⟩ := accept_ok source visited c accepted
  constructor
  · intro glyph given entry
    rw [CatalogDocument.hasEntry_iff order.instructions] at entry
    refine ⟨Text.toByte? given.opcode, ?_, Text.toByte?_eq_some_iff given.opcode⟩
    simp [lookup, entry, Instruction.resolved]
  · intro glyph given noInstruction entry
    rw [CatalogDocument.not_hasEntry_iff order.instructions] at noInstruction
    rw [CatalogDocument.hasEntry_iff order.modifiers] at entry
    simp [lookup, noInstruction, entry]
  · intro glyph given noInstruction noModifier entry
    rw [CatalogDocument.not_hasEntry_iff order.instructions] at noInstruction
    rw [CatalogDocument.not_hasEntry_iff order.modifiers] at noModifier
    rw [CatalogDocument.hasEntry_iff order.augmenters] at entry
    simp [lookup, noInstruction, noModifier, entry]
  · intro glyph noInstruction noModifier noAugmenter
    rw [CatalogDocument.not_hasEntry_iff order.instructions] at noInstruction
    rw [CatalogDocument.not_hasEntry_iff order.modifiers] at noModifier
    rw [CatalogDocument.not_hasEntry_iff order.augmenters] at noAugmenter
    simp [lookup, noInstruction, noModifier, noAugmenter]

/-- Loading in any order. For any document that was read, with the entries of its sections visited in
any order: it becomes a catalog exactly if it is well formed, and then every glyph means what the
document says. Otherwise there is an error with the source it was loaded from, and which section it
blames does not depend on the order. -/
theorem load_in_any_order (source : Text) (document visited : CatalogDocument)
    (order : document.Reorders visited) :
    (∀ contents, parseDocument contents = .ok document →
      load source (.ok contents) = accept source document) ∧
      ((∃ c, accept source visited = .ok c) ↔ document.WellFormed) ∧
      (∀ c, accept source visited = .ok c → c.source = source ∧ c.Follows document) ∧
      ∀ e, accept source visited = .error e → e.source = source ∧
        ∃ role, document.blamed? = some role ∧ e.fault.role? = some role ∧
          (e.fault = .missing role ↔ document.lacks role = true) ∧
          (utf8 role.sectionName <:+: e.message ∨ utf8 role.name <:+: e.message) := by
  refine ⟨fun contents => load_of_parsed source contents document, ?_, ?_, ?_⟩
  · rw [exists_accept_iff, ← visited.blamed?_eq_none_iff, order.blamed?_eq,
      document.blamed?_eq_none_iff]
  · intro c accepted
    refine ⟨?_, follows_of_accept source document visited order c accepted⟩
    obtain ⟨i, m, a, -, rfl⟩ := accept_ok source visited c accepted
    rfl
  · intro e refused
    obtain ⟨named, found⟩ := accept_error source visited e refused
    obtain ⟨role, blamed, own, missing⟩ := visited.blamed?_of_complaint e.fault found
    rw [order.blamed?_eq] at blamed
    rw [order.lacks_eq] at missing
    exact ⟨named, role, blamed, own, missing, e.section_in_message role own⟩

/-- A document with two faults in one section, and another in a section that comes later. -/
def muddledDocument : CatalogDocument where
  instructions := some ⟨[(utf8 "p", ⟨utf8 "P", utf8 "15", [], [], none⟩)], by decide⟩
  modifiers := some ⟨[([], ⟨utf8 "M", []⟩), (utf8 "p", ⟨[], []⟩)], by decide⟩
  augmenters := some ⟨[(utf8 "x y", ⟨utf8 "A", []⟩)], by decide⟩

/-- The same document, its faults met in the other order. -/
def muddledOtherwise : CatalogDocument :=
  { muddledDocument with
    modifiers := some ⟨[(utf8 "p", ⟨[], []⟩), ([], ⟨utf8 "M", []⟩)], by decide⟩ }

/-- In either order the modifiers are blamed, for one fault or the other. -/
theorem muddled_blamed :
    muddledDocument.complaint? = some (.emptyGlyph .modifier) ∧
      accept (utf8 "s") muddledOtherwise = .error ⟨utf8 "s", .noName .modifier (utf8 "p")⟩ ∧
      muddledDocument.blamed? = some .modifier := by
  have order : muddledDocument.Reorders muddledOtherwise :=
    ⟨.some (.refl _), .some (.swap _ _ _), .some (.refl _)⟩
  have refused := accept_of_complaint (utf8 "s") muddledOtherwise
    (.noName .modifier (utf8 "p")) (by decide +kernel)
  obtain ⟨-, -, -, failing⟩ := load_in_any_order (utf8 "s") _ _ order
  obtain ⟨-, role, blamed, own, -⟩ := failing _ refused
  cases own
  exact ⟨by decide +kernel, refused, blamed⟩

end Catalog
end Hexaglyph
