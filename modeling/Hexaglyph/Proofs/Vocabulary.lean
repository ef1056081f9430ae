import Hexaglyph.Proofs.Enumeration
import Hexaglyph.Proofs.Spacing
import Hexaglyph.Proofs.Warnings
set_option autoImplicit false

/-! Glyphs of catalogs and words of programs. A catalog takes for a glyph exactly what a program can
have as a word, so each of its glyphs can be written, and is read with the meaning it was given. -/
namespace Hexaglyph

/-- A glyph and a name make a sound entry if the glyph can stand in a program. -/
theorem soundEntry_iff (glyph name : Text) :
    SoundEntry glyph name ↔ isGlyph glyph = true ∧ name ≠ [] := by
  simp only [SoundEntry, isGlyph, Bool.and_eq_true, Bool.not_eq_true', List.isEmpty_eq_false_iff,
    List.any_eq_false, Bool.not_eq_true, and_assoc]

namespace Catalog

variable (c : Catalog)

/-- The words of programs are the texts that can be glyphs. -/
theorem isGlyph_iff_token (g : Text) :
    isGlyph g = true ↔ ∃ program, ∃ t ∈ c.tokens program, t.glyph = g := by
  constructor
  · intro glyph
    have alone : (c.tokens g).map Token.glyph = [g] := by
      rw [c.tokens_glyphs, Text.words_glyph g glyph]
    have member : g ∈ (c.tokens g).map Token.glyph := by
      rw [alone]
      exact List.mem_singleton.mpr rfl
    exact ⟨g, List.mem_map.mp member⟩
  · rintro ⟨program, t, member, rfl⟩
    apply Text.isGlyph_of_mem_words program
    rw [← c.tokens_glyphs]
    exact List.mem_map_of_mem member

theorem keysOf_of_names (source : Text) (d : CatalogDocument) (c : Catalog)
    (accepted : accept source d = .ok c) (role : Role) (entries : List (Text × Text))
    (named : d.names? role = some entries) : c.keysOf role = entries.map Prod.fst := by
  obtain ⟨i, m, a, rfl, rfl⟩ := accept_ok source d c accepted
  cases role with
  | instruction =>
      cases named
      simp [keysOf, Mapping.keys, Mapping.map, Mapping.named]
  | modifier =>
      cases named
      simp [keysOf, Mapping.keys, Mapping.named]
  | augmenter =>
      cases named
      simp [keysOf, Mapping.keys, Mapping.named]

/-- No glyph of a catalog that was loaded is empty or has a blank in it, not even one that means
something else. -/
theorem isGlyph_of_mem_keysOf (source : Text) (read : Except Text Text) (c : Catalog)
    (loaded : load source read = .ok c) (role : Role) (g : Text) (member : g ∈ c.keysOf role) :
    isGlyph g = true := by
  obtain ⟨contents, document, given, parsed, -⟩ := load_ok source read c loaded
  rw [given, load_of_parsed source contents document parsed] at loaded
  obtain ⟨entries, named, sound⟩ := (exists_accept_iff source document).mp ⟨c, loaded⟩ role
  rw [keysOf_of_names source document c loaded role entries named] at member
  obtain ⟨entry, listed, rfl⟩ := List.mem_map.mp member
  exact ((soundEntry_iff _ _).mp (sound entry listed)).1

theorem isGlyph_of_mem_glyphs (source : Text) (read : Except Text Text) (c : Catalog)
    (loaded : load source read = .ok c) (g : Text) (member : g ∈ c.glyphs) : isGlyph g = true := by
  obtain ⟨role, has⟩ := (c.mem_glyphs g).mp member
  exact isGlyph_of_mem_keysOf source read c loaded role g (c.mem_keysOf_of_role g role has)

/-- Glyphs of a catalog as a program can have them: in any order and number, with blanks between
neighbours, and maybe before the first and after the last. -/
structure Spaced (lead : Text) (parts : List (Text × Text)) : Prop where
  begun : Text.IsGap lead
  glyphs : ∀ part ∈ parts, part.1 ∈ c.glyphs
  gaps : ∀ part ∈ parts, Text.IsGap part.2
  apart : ∀ part ∈ parts.dropLast, part.2 ≠ []

end Catalog

theorem Diagnostic.unresolvedEncoding_ne (glyph opcode other : Text) (range place : Range) :
    unresolvedEncoding glyph opcode range ≠ unrecognizedGlyph other place := by
  have one : (utf8 "No encoding defined for opcode ").head? = some 0x4E := by decide +kernel
  have two : (utf8 "Unrecognized glyph: \"").head? = some 0x55 := by decide +kernel
  intro same
  have first := congrArg (fun d => d.message.head?) same
  simp only [unresolvedEncoding, unrecognizedGlyph, List.head?_append, one, two,
    Option.some_or] at first
  exact absurd first (by decide)

namespace Translator

/-- A glyph that is reported as unknown is one that the catalog does not have. -/
theorem unknown_of_reported (tr : Translator) (program glyph : Text) (range : Range)
    (reported : .unrecognizedGlyph glyph range ∈ (tr.translate program).diagnostics) :
    ∃ t ∈ tr.catalog.tokens program, t.definition = none := by
  rw [tr.translate_diagnostics, List.mem_filterMap] at reported
  obtain ⟨t, member, problem⟩ := reported
  refine ⟨t, member, ?_⟩
  unfold Token.problem? at problem
  split at problem
  · assumption
  · split at problem
    · exact absurd (Option.some.inj problem) (Diagnostic.unresolvedEncoding_ne _ _ _ _ _)
    · cases problem
  · cases problem

end Translator

namespace Catalog

variable (c : Catalog)

theorem words_spaced (source : Text) (read : Except Text Text) (loaded : load source read = .ok c)
    (lead : Text) (parts : List (Text × Text)) (spaced : c.Spaced lead parts) :
    Text.words (Text.spread lead parts) = parts.map Prod.fst := by
  refine Text.words_spread lead parts spaced.begun ?_ spaced.gaps spaced.apart
  intro part member
  exact isGlyph_of_mem_glyphs source read c loaded part.1 (spaced.glyphs part member)

/-- Glyphs and words agree. In any catalog, an entry passes exactly if its glyph is a token of some
program, and it has a name. And the glyphs of a catalog that was loaded, written one after another with
any blanks between and around them, are read as these glyphs, each with its role and definition, and
none is reported as unknown. -/
theorem glyphs_written_and_read :
    (∀ role glyph name, entryFault? role glyph name = none ↔
      (∃ program, ∃ t ∈ c.tokens program, t.glyph = glyph) ∧ name ≠ []) ∧
    ∀ source read, load source read = .ok c → ∀ lead parts, c.Spaced lead parts →
      (c.tokens (Text.spread lead parts)).map (fun t => (t.glyph, t.role, t.definition)) =
        parts.map (fun part => (part.1, c.role? part.1, c.lookup part.1)) ∧
      (∀ part ∈ parts, ∃ d, c.lookup part.1 = some d) ∧
      ∀ rotation glyph range, .unrecognizedGlyph glyph range ∉
        ((⟨c, rotation⟩ : Translator).translate (Text.spread lead parts)).diagnostics := by
  constructor
  · intro role glyph name
    rw [entryFault?_eq_none_iff, soundEntry_iff, c.isGlyph_iff_token]
  · intro source read loaded lead parts spaced
    have words := c.words_spaced source read loaded lead parts spaced
    have known : ∀ part ∈ parts, ∃ d, c.lookup part.1 = some d := by
      intro part member
      have listed := spaced.glyphs part member
      rwa [c.mem_glyphs_iff_lookup, Option.isSome_iff_exists] at listed
    refine ⟨?_, known, ?_⟩
    · calc
        (c.tokens (Text.spread lead parts)).map (fun t => (t.glyph, t.role, t.definition)) =
            ((c.tokens (Text.spread lead parts)).map Token.glyph).map
              fun glyph => (glyph, c.role? glyph, c.lookup glyph) := by
          rw [List.map_map]
          apply List.map_congr_left
          intro t member
          have meaning := c.definition_of_mem_tokens _ t member
          rw [Token.role, meaning]
          rfl
        _ = parts.map (fun part => (part.1, c.role? part.1, c.lookup part.1)) := by
          rw [c.tokens_glyphs, words, List.map_map]
          rfl
    · intro rotation glyph range reported
      obtain ⟨t, member, unknown⟩ :=
        Translator.unknown_of_reported ⟨c, rotation⟩ _ glyph range reported
      have word : t.glyph ∈ parts.map Prod.fst := by
        rw [← words, ← c.tokens_glyphs]
        exact List.mem_map_of_mem member
      obtain ⟨part, listed, same⟩ := List.mem_map.mp word
      obtain ⟨d, found⟩ := known part listed
      rw [c.definition_of_mem_tokens _ t member, ← same, found] at unknown
      cases unknown

/-- Three glyphs, with blanks of one, two and three bytes around them. -/
theorem patchy_written_and_read :
    ∃ c, load (utf8 "patchy") (.ok Translator.patchyDocument) = .ok c ∧
      (c.tokens (utf8 "\u2029q\u2028m\u0085\np\t")).map Token.glyph =
        [utf8 "q", utf8 "m", utf8 "p"] := by
  let parts := [(utf8 "q", utf8 "\u2028"), (utf8 "m", utf8 "\u0085\n"), (utf8 "p", utf8 "\t")]
  have text : Text.spread (utf8 "\u2029") parts = utf8 "\u2029q\u2028m\u0085\np\t" := by
    decide +kernel
  have evaluated : (load (utf8 "patchy") (.ok Translator.patchyDocument)).toOption.any (fun c =>
      parts.all fun part => (c.lookup part.1).isSome) = true := by
    decide +kernel
  cases loaded : load (utf8 "patchy") (.ok Translator.patchyDocument) with
  | error fault =>
      rw [loaded] at evaluated
      cases evaluated
  | ok c =>
      rw [loaded] at evaluated
      have known : ∀ part ∈ parts, (c.lookup part.1).isSome = true := List.all_eq_true.mp evaluated
      have spaced : c.Spaced (utf8 "\u2029") parts := by
        refine ⟨by decide +kernel, ?_, by decide +kernel, by decide +kernel⟩
        intro part member
        exact (c.mem_glyphs_iff_lookup part.1).mpr (known part member)
      have read := (c.glyphs_written_and_read.2 _ _ loaded _ _ spaced).1
      have glyphs := congrArg (List.map Prod.fst) read
      rw [List.map_map, List.map_map, text] at glyphs
      exact ⟨c, rfl, glyphs⟩

end Catalog
end Hexaglyph
