import Hexaglyph.Proofs.OwnListing
set_option autoImplicit false

/-! What the reader of listings makes of any text. It reads line by line, so it takes joined texts
apart, and the entries that it gives are in a normal form: they are what it leaves as they are. -/
namespace Hexaglyph

namespace Listing

/-- An entry as the reader gives it: one line in upper case, without a comment, and not blank at
either end. -/
structure Normal (entry : Text) : Prop where
  nonempty : entry ≠ []
  uncommented : commentSign ∉ entry
  single : Text.lineFeed ∉ entry
  start : ∀ s ∈ (Text.symbols entry).head?, s.isBlank = false
  stop : ∀ s ∈ (Text.symbols entry).getLast?, s.isBlank = false
  upper : Text.upper entry = entry

/-- The reader leaves a normal entry as it is. -/
theorem parse_normal (entry : Text) (normal : Normal entry) : parse entry = [entry] := by
  have kept : stripComment entry = entry := by
    apply List.takeWhile_eq_self_iff.mpr
    intro byte member
    exact bne_iff_ne.mpr fun same => normal.uncommented (same ▸ member)
  have trimmed := Text.trim_append_blanks entry [] normal.nonempty (by simp) (by simp) normal.start
    normal.stop
  rw [List.append_nil] at trimmed
  rw [parse_line entry normal.single, kept, trimmed, normal.upper,
    if_neg (by simpa using normal.nonempty)]

/-- Whatever the reader gives is normal. Upper case does not undo what cutting and trimming did. -/
theorem normal_of_mem_parse (t entry : Text) (member : entry ∈ parse t) : Normal entry := by
  have firm := not_fragile_of_mem_parse t entry member
  rw [Fragile, not_or, not_or] at firm
  obtain ⟨sign, lineFeed, begins⟩ := firm
  obtain ⟨line, -, filled, rfl⟩ := mem_parse t entry member
  obtain ⟨front, back, -, -, -, -, last⟩ := Text.trim_spec (stripComment line)
  refine ⟨?_, sign, lineFeed, ?_, ?_, Text.upper_upper _⟩
  · rwa [ne_eq, Text.upper_eq_nil_iff]
  · intro s found
    rw [Bool.eq_false_iff]
    exact fun blank => begins ⟨s, found, blank⟩
  · intro s found
    rw [Text.symbols_upper, List.getLast?_map, Option.mem_def, Option.map_eq_some_iff] at found
    obtain ⟨u, final, rfl⟩ := found
    rw [Text.isBlank_upper]
    exact last u final

/-- The lists that the reader gives back as they are: exactly those of normal entries. -/
theorem parse_join_eq_iff (entries : List Text) :
    parse (Text.join [Text.lineFeed] entries) = entries ↔ ∀ entry ∈ entries, Normal entry := by
  constructor
  · intro same entry member
    rw [← same] at member
    exact normal_of_mem_parse _ entry member
  · intro normal
    rw [parse_join, List.flatMap_def,
      List.map_congr_left fun entry member => parse_normal entry (normal entry member),
      ← List.flatMap_def, List.flatMap_singleton']

/-- The reader takes apart what a line feed joins, also in the listing that a test expects, and reading
its own entries again changes nothing. -/
theorem parse_normalizes :
    (∀ a b : Text, parse (a ++ Text.lineFeed :: b) = parse a ++ parse b) ∧
      (∀ texts, parse (Text.join [Text.lineFeed] texts) = texts.flatMap parse) ∧
      (∀ c : TestCase, Grading.expectedLines c = c.expected.flatMap parse) ∧
      (∀ t, ∀ entry ∈ parse t, Normal entry) ∧
      (∀ t, parse (Text.join [Text.lineFeed] (parse t)) = parse t) ∧
      ∀ entries, parse (Text.join [Text.lineFeed] entries) = entries ↔
        ∀ entry ∈ entries, Normal entry := by
  refine ⟨parse_append_lineFeed, parse_join, fun c => parse_join c.expected, normal_of_mem_parse,
    ?_, parse_join_eq_iff⟩
  intro t
  exact (parse_join_eq_iff (parse t)).mpr (normal_of_mem_parse t)

/-- A listing with an invalid byte, blanks of several kinds, and letters that have no upper case or
one far away from them. -/
def mixedListing : Text :=
  utf8 "\u00a0ß0a\r\n\u2003# none\n\n ÿ ff" ++ [0xFF] ++ utf8 " # last"

theorem parse_normalizes_mixedListing :
    parse mixedListing = [utf8 "ß0A", utf8 "Ÿ FF\uFFFD"] ∧ Normal (utf8 "Ÿ FF\uFFFD") ∧
      parse (utf8 "ß0A\nŸ FF\uFFFD") = [utf8 "ß0A", utf8 "Ÿ FF\uFFFD"] := by
  have read : parse mixedListing = [utf8 "ß0A", utf8 "Ÿ FF\uFFFD"] := by decide +kernel
  obtain ⟨-, -, -, normal, again, -⟩ := parse_normalizes
  have joined := again mixedListing
  rw [read] at joined
  exact ⟨read, normal mixedListing _ (by rw [read]; simp), joined⟩

end Listing
end Hexaglyph
