import Hexaglyph.Proofs.Layout
set_option autoImplicit false

/-! Blanks between words. At a blank a text can be cut, and its words are those of both parts, whatever
bytes stand next to the blank. -/
namespace Hexaglyph

theorem Symbol.isBlank_stray (byte : UInt8) : (Symbol.stray byte).isBlank = false := by
  change Hexaglyph.isBlank (Char.ofNat 0xFFFD) = false
  decide

namespace Text

def IsGap (t : Text) : Prop :=
  ∀ s ∈ symbols t, s.isBlank = true

instance (t : Text) : Decidable (IsGap t) :=
  inferInstanceAs (Decidable (∀ s ∈ symbols t, s.isBlank = true))

/-- Where two texts meet and no word goes across: at an end, behind a blank, or before one. -/
inductive Seam : Text → Text → Prop
  | atStart (b : Text) : Seam [] b
  | atEnd (a : Text) : Seam a []
  | behind (a : Text) (c : Char) (b : Text) (blank : isBlank c = true) :
      Seam (a ++ String.utf8EncodeChar c) b
  | ahead (a : Text) (c : Char) (b : Text) (blank : isBlank c = true) :
      Seam a (String.utf8EncodeChar c ++ b)

@[simp] theorem words_nil : words [] = [] := rfl

/-- Everything about words follows from this: a blank separates them. Its bytes cannot be taken for
the end of a character that stands before it. -/
theorem words_append_blank (a : Text) (c : Char) (b : Text) (blank : isBlank c = true) :
    words (a ++ (String.utf8EncodeChar c ++ b)) = words a ++ words b := by
  have first : ∀ byte ∈ (String.utf8EncodeChar c ++ b).head?, byte.IsUTF8FirstByte := by
    intro byte found
    have nonempty : 0 < (String.utf8EncodeChar c).length := by
      rw [String.length_utf8EncodeChar]
      exact c.utf8Size_pos
    rw [List.head?_eq_getElem?, List.getElem?_append_left nonempty,
      List.getElem?_eq_getElem nonempty] at found
    cases found
    exact UInt8.isUTF8FirstByte_getElem_utf8EncodeChar.mpr rfl
  rw [words, symbols_append a _ first, symbols_encodeChar_append,
    pieces_append_cut Symbol.isBlank _ (.char c) _ blank, List.filter_append, List.map_append]
  rfl

theorem Seam.words_append {a b : Text} (seam : Seam a b) : words (a ++ b) = words a ++ words b := by
  cases seam with
  | atStart => rfl
  | atEnd => rw [words_nil, List.append_nil, List.append_nil]
  | behind a c b blank =>
      have alone := words_append_blank a c [] blank
      rw [words_nil, List.append_nil, List.append_nil] at alone
      rw [List.append_assoc, words_append_blank a c b blank, alone]
  | ahead a c b blank =>
      have alone := words_append_blank [] c b blank
      rw [words_nil, List.nil_append, List.nil_append] at alone
      rw [words_append_blank a c b blank, alone]

theorem isGap_char_append (c : Char) (rest : Text) :
    IsGap (String.utf8EncodeChar c ++ rest) ↔ isBlank c = true ∧ IsGap rest := by
  rw [IsGap, symbols_encodeChar_append, List.forall_mem_cons]
  rfl

/-- A stray byte is not blank. -/
theorem not_isGap_stray_cons (byte : UInt8) (rest : Text)
    (stray : ∀ c, ¬ String.utf8EncodeChar c <+: byte :: rest) : ¬ IsGap (byte :: rest) := by
  intro gap
  rw [IsGap, symbols_stray_cons byte rest stray] at gap
  have blank := gap _ List.mem_cons_self
  rw [Symbol.isBlank_stray] at blank
  cases blank

/-- Blanks at the beginning of a text belong to no word. -/
theorem words_gap_append (gap b : Text) (blank : IsGap gap) : words (gap ++ b) = words b := by
  induction gap using symbolInduction with
  | nil => rfl
  | char c rest ih =>
      obtain ⟨first, others⟩ := (isGap_char_append c rest).mp blank
      rw [List.append_assoc, ← ih others]
      exact words_append_blank [] c (rest ++ b) first
  | stray byte rest stray => exact absurd blank (not_isGap_stray_cons byte rest stray)

/-- Blanks between two texts keep their words apart. -/
theorem words_append_gap (a gap b : Text) (blank : IsGap gap) (nonempty : gap ≠ []) :
    words (a ++ (gap ++ b)) = words a ++ words b := by
  induction gap using symbolInduction with
  | nil => exact absurd rfl nonempty
  | char c rest =>
      obtain ⟨first, others⟩ := (isGap_char_append c rest).mp blank
      rw [List.append_assoc, words_append_blank a c _ first, words_gap_append rest b others]
  | stray byte rest stray => exact absurd blank (not_isGap_stray_cons byte rest stray)

theorem words_glyph (g : Text) (glyph : isGlyph g = true) : words g = [g] := by
  have joined := words_join [g] (by simpa using glyph)
  rwa [join_singleton] at joined

/-- Texts one after another, each with what stands between it and the next, behind what comes first. -/
def spread (lead : Text) (parts : List (Text × Text)) : Text :=
  lead ++ parts.flatMap fun part => part.1 ++ part.2

/-- Glyphs with blanks around them are read back as they were, if there is at least one blank
between neighbours. -/
theorem words_spread (lead : Text) (parts : List (Text × Text)) (begun : IsGap lead)
    (glyphs : ∀ part ∈ parts, isGlyph part.1 = true) (gaps : ∀ part ∈ parts, IsGap part.2)
    (apart : ∀ part ∈ parts.dropLast, part.2 ≠ []) :
    words (spread lead parts) = parts.map Prod.fst := by
  rw [spread, words_gap_append lead _ begun]
  induction parts with
  | nil => rfl
  | cons part rest ih =>
      obtain ⟨g, gap⟩ := part
      have alone : words g = [g] := words_glyph g (glyphs _ List.mem_cons_self)
      have blank : IsGap gap := gaps _ List.mem_cons_self
      rw [List.flatMap_cons, List.map_cons, List.append_assoc]
      by_cases last : rest = []
      · subst last
        by_cases tight : gap = []
        · rw [tight]
          simpa using alone
        · rw [words_append_gap g gap _ blank tight, alone]
          rfl
      · have separate : gap ≠ [] := by
          apply apart (g, gap)
          rw [List.dropLast_cons_of_ne_nil last]
          exact List.mem_cons_self
        have others := ih (fun p member => glyphs p (List.mem_cons_of_mem _ member))
          (fun p member => gaps p (List.mem_cons_of_mem _ member)) (by
            intro p member
            apply apart p
            rw [List.dropLast_cons_of_ne_nil last]
            exact List.mem_cons_of_mem _ member)
        rw [words_append_gap g gap _ blank separate, alone, others]
        rfl

end Text
end Hexaglyph
