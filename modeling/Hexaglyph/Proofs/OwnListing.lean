import Hexaglyph.Proofs.Grading
import Hexaglyph.Proofs.Listing
import Hexaglyph.Proofs.Mappings
import Mathlib.Data.List.TakeWhile
import Mathlib.Logic.Relation
set_option autoImplicit false

/-! Programs that are graded against their own listings. Such a listing may be cut into lines, and
blank lines and comments may come between them: the reader of listings sees the same entries. -/
namespace Hexaglyph

/-- Printable ASCII that does not begin with a space and has no comment sign. -/
structure Text.Plain (t : Text) : Prop where
  printable : ∀ byte ∈ t, 0x20 ≤ byte ∧ byte ≤ 0x7E
  uncommented : Listing.commentSign ∉ t
  start : t.head? ≠ some 0x20

instance (t : Text) : Decidable (Text.Plain t) :=
  -- The bytes of the text are looked at, not all that there are.
  haveI : Decidable (∀ byte ∈ t, 0x20 ≤ byte ∧ byte ≤ 0x7E) := List.decidableBAll _ t
  decidable_of_iff ((∀ byte ∈ t, 0x20 ≤ byte ∧ byte ≤ 0x7E) ∧ Listing.commentSign ∉ t ∧
      t.head? ≠ some 0x20)
    ⟨fun ⟨printable, uncommented, start⟩ => ⟨printable, uncommented, start⟩,
      fun ⟨printable, uncommented, start⟩ => ⟨printable, uncommented, start⟩⟩

/-- Whether all opcodes of a catalog are plain, the empty one included. -/
def Catalog.HasPlainOpcodes (c : Catalog) : Prop :=
  ∀ entry ∈ c.instructions.entries, Text.Plain entry.2.opcode

instance (c : Catalog) : Decidable c.HasPlainOpcodes :=
  inferInstanceAs (Decidable (∀ entry ∈ c.instructions.entries, Text.Plain entry.2.opcode))

theorem Text.Plain.ascii {t : Text} (plain : Plain t) : ∀ byte ∈ t, byte < 0x80 := by
  intro byte member
  have bound : byte.toNat ≤ 126 := (plain.printable byte member).2
  exact UInt8.lt_iff_toNat_lt.mpr (Nat.lt_of_le_of_lt bound (by decide))

theorem Text.Plain.not_fragile {t : Text} (plain : Plain t) : ¬ Listing.Fragile t := by
  rintro (sign | lineFeed | ⟨s, found, blank⟩)
  · exact plain.uncommented sign
  · exact absurd (plain.printable _ lineFeed).1 (by decide)
  · rw [symbols_ascii t plain.ascii, List.head?_map, Option.mem_def, Option.map_eq_some_iff] at found
    obtain ⟨byte, first, rfl⟩ := found
    have member := List.mem_of_head? first
    have from_space : 32 ≤ byte.toNat := (plain.printable byte member).1
    have other : byte.toNat ≠ 32 := by
      intro same
      exact plain.start (first.trans (congrArg some (UInt8.toNat_inj.mp same)))
    have small : byte.toNat < 128 := plain.ascii byte member
    rw [Symbol.isBlank_visible byte (by omega) small] at blank
    cases blank

namespace Listing

/-- A line without entry: nothing but blanks, or blanks and a comment. -/
def Idle (line : Text) : Prop :=
  Text.lineFeed ∉ line ∧ ∃ blanks comment, line = blanks ++ comment ∧
    (∀ s ∈ Text.symbols blanks, s.isBlank = true) ∧ ∀ byte ∈ comment.head?, byte = commentSign

/-- One way to write the texts of a listing differently. -/
inductive Edit : List Text → List Text → Prop
  | cut (before : List Text) (text : Text) (after : List Text) :
      Edit (before ++ text :: after) (before ++ (Text.lines text ++ after))
  | add (before : List Text) (line : Text) (after : List Text) (idle : Idle line) :
      Edit (before ++ after) (before ++ line :: after)
  | drop (before : List Text) (line : Text) (after : List Text) (idle : Idle line) :
      Edit (before ++ line :: after) (before ++ after)

/-- Texts that are joined line by line are read one after the other. -/
theorem parse_join (texts : List Text) :
    parse (Text.join [Text.lineFeed] texts) = texts.flatMap parse := by
  induction texts with
  | nil => rfl
  | cons first rest ih =>
      by_cases last : rest = []
      · rw [last, Text.join_singleton, List.flatMap_singleton]
      · rw [Text.join_cons _ _ _ last, List.singleton_append, parse_append_lineFeed, ih,
          List.flatMap_cons]

theorem flatMap_parse_lines (t : Text) : (Text.lines t).flatMap parse = parse t := by
  induction t using Text.lineInduction with
  | single line absent => rw [Text.lines_whole line absent, List.flatMap_singleton]
  | next line rest absent ih =>
      rw [Text.lines_append_lineFeed, Text.lines_whole line absent, List.flatMap_append, ih,
        List.flatMap_singleton, parse_append_lineFeed]

theorem parse_idle (line : Text) (idle : Idle line) : parse line = [] := by
  obtain ⟨single, blanks, comment, rfl, blank, begins⟩ := idle
  have sign : ∀ byte ∈ blanks, (byte != commentSign) = true := by
    intro byte member
    rw [bne_iff_ne]
    rintro rfl
    have solid := blank _ ((Text.mem_ascii blanks commentSign (by decide)).mp member)
    rw [Symbol.isBlank_visible commentSign (by decide) (by decide)] at solid
    cases solid
  have rest : stripComment comment = [] := by
    cases comment with
    | nil => rfl
    | cons byte rest =>
        rw [begins byte rfl]
        exact List.takeWhile_cons_of_neg (by decide)
  have kept : stripComment (blanks ++ comment) = blanks := by
    rw [stripComment, List.takeWhile_append_of_pos sign]
    exact (congrArg (blanks ++ ·) rest).trans (List.append_nil blanks)
  have trimmed : Text.trim blanks = [] := by
    rw [Text.trim, List.dropWhile_eq_nil_iff.mpr blank]
    rfl
  rw [parse_line _ single, kept, trimmed]
  rfl

theorem Edit.flatMap_parse {a b : List Text} (edit : Edit a b) :
    b.flatMap parse = a.flatMap parse := by
  cases edit with
  | cut before text after =>
      simp only [List.flatMap_append, List.flatMap_cons, flatMap_parse_lines]
  | add before line after idle =>
      simp only [List.flatMap_append, List.flatMap_cons, parse_idle line idle, List.nil_append]
  | drop before line after idle =>
      simp only [List.flatMap_append, List.flatMap_cons, parse_idle line idle, List.nil_append]

/-- However the texts of a listing are written differently, its entries are the same. -/
theorem flatMap_parse_of_edits {a b : List Text} (edits : Relation.ReflTransGen Edit a b) :
    b.flatMap parse = a.flatMap parse := by
  induction edits with
  | refl => rfl
  | tail _ edit ih => exact edit.flatMap_parse.trans ih

end Listing

/-- Whether texts are the listing of a translation: its lines, or all of it in one text. -/
inductive Translation.Lists (t : Translation) : List Text → Prop
  | lines : Lists t t.hexLines
  | whole (comments : Bool) : Lists t [t.listing comments]

namespace Translator

variable {source : Text} {read : Except Text Text} {tr : Translator}

/-- Every opcode in a listing is one of the catalog. -/
theorem opcode_of_mem_lines (program : Text) (line : EncodedLine)
    (member : line ∈ (tr.translate program).lines) :
    ∃ entry ∈ tr.catalog.instructions.entries, line.opcode = entry.2.opcode := by
  obtain ⟨_, _, t, i, token, defined, encodes⟩ := tr.exists_token_of_mem_lines program line member
  rw [tr.catalog.definition_of_mem_tokens program t token, Catalog.lookup_eq_instruction] at defined
  exact ⟨_, Mapping.mem_of_get? _ _ _ defined, encodes.opcode⟩

theorem plain_of_mem_lines (plain : tr.catalog.HasPlainOpcodes) (program : Text)
    (line : EncodedLine) (member : line ∈ (tr.translate program).lines) :
    Text.Plain line.opcode := by
  obtain ⟨entry, known, same⟩ := opcode_of_mem_lines program line member
  rw [same]
  exact plain entry known

theorem flatMap_parse_lists (loaded : Catalog.load source read = .ok tr.catalog)
    (plain : tr.catalog.HasPlainOpcodes) (program : Text) (own : List Text) (lists : (tr.translate program).Lists own) :
    own.flatMap Listing.parse = (tr.translate program).hexLines.map Text.upper := by
  have whole (comments : Bool) := Listing.parse_of_firm (tr.translate program).lines comments
    (EncodedLine.regular_of_mem_lines source read tr loaded program)
    fun line member => (plain_of_mem_lines plain program line member).not_fragile
  cases lists with
  | lines =>
      rw [Translation.hexLines, ← whole false, Listing.parse_flatMap_listed, List.flatMap_map]
      rfl
  | whole comments =>
      rw [List.flatMap_singleton]
      exact whole comments

/-- Upper case is all that the reader of listings changes, and grading does not look at case. -/
theorem sameLines_upper (plain : tr.catalog.HasPlainOpcodes) (program : Text) :
    Grading.SameLines ((tr.translate program).hexLines.map Text.upper)
      (tr.translate program).hexLines := by
  rw [Grading.SameLines, List.forall₂_map_left_iff, List.forall₂_same]
  intro hex member
  obtain ⟨line, inside, rfl⟩ := List.mem_map.mp member
  apply Text.sameFolded_upper
  intro byte found
  rw [line.hex_eq, List.mem_append] at found
  rcases found with opcode | ending
  · exact (plain_of_mem_lines plain program line inside).ascii byte opcode
  · exact line.ending_ascii byte ending

end Translator

namespace Grading

/-- What a test says when there is nothing but the diagnostics to say. -/
theorem output_of_sameLines (c : TestCase) (t : Translation)
    (same : SameLines (expectedLines c) t.hexLines) :
    (translated c t).entry.output =
      t.diagnostics.flatMap fun d => d.report c.program ++ [Text.lineFeed] := by
  have quiet := (compare_quiet _ _).mp ((compare_passed _ _).mpr same)
  rw [entry_translated, quiet, List.append_nil, GradedTest.judge]
  simp only [GradedTest.printAll_output, List.flatMap_map]
  rfl

/-- A program passes against its own listing, with full points, whatever lines without entries the
listing has been given. -/
theorem grade_own_listing (source : Text) (read : Except Text Text) (tr : Translator)
    (loaded : Catalog.load source read = .ok tr.catalog) (plain : tr.catalog.HasPlainOpcodes)
    (fs : FileSystem) (a : Assignment) (index : Nat) (c : TestCase)
    (placed : a.testCases[index]? = some c) (program : Text)
    (readable : fs.read (a.programPath c) = .ok program) (own : List Text)
    (lists : (tr.translate program).Lists own)
    (edits : Relation.ReflTransGen Listing.Edit own c.expected) :
    ∃ entry, (grade tr fs a).tests[index]? = some entry ∧ entry.passed = some true ∧
      entry.score = c.points ∧ entry.maxScore = c.points ∧
      entry.output = (tr.translate program).diagnostics.flatMap fun d =>
        d.report c.program ++ [Text.lineFeed] := by
  have expected : expectedLines c = (tr.translate program).hexLines.map Text.upper := by
    rw [expectedLines, Listing.parse_join, Listing.flatMap_parse_of_edits edits,
      Translator.flatMap_parse_lists loaded plain program own lists]
  have same : SameLines (expectedLines c) (tr.translate program).hexLines := by
    rw [expected]
    exact Translator.sameLines_upper plain program
  have judged := judged_gradeCase tr c (.ok program)
  obtain ⟨passed, score⟩ := judged.passed ⟨program, rfl, same⟩
  refine ⟨(gradeCase tr c (.ok program)).entry, ?_, passed, score, judged.maxScore,
    output_of_sameLines c _ same⟩
  rw [tests_grade, List.getElem?_append_left (by simpa using (List.getElem?_eq_some_iff.mp placed).1),
    List.getElem?_map, placed, Option.map_some, readable]

/-- A catalog with opcodes of three kinds: digits, nothing, and other text. -/
def plainDocument : Text :=
  utf8 ("\x7b\"glyph_to_opcode\":\x7b\"p\":\x7b\"name\":\"P\",\"opcode\":\"02\"\x7d," ++
    "\"q\":\x7b\"name\":\"Q\",\"opcode\":\"\"\x7d," ++
    "\"r\":\x7b\"name\":\"R\",\"opcode\":\"zz !\"\x7d\x7d," ++
    "\"modifiers\":\x7b\x7d,\"psychic_augmenters\":\x7b\x7d\x7d")

def plainFiles : FileSystem :=
  let blank := FileSystem.blank
  { blank with
    entries := blank.entries.insert (blank.here ++ [utf8 "answer"]) (.file (utf8 "p q x r")) }

/-- The listing of the answer with remarks between its lines. -/
def annotatedCase : TestCase :=
  ⟨1, [], [], 5, utf8 "answer",
    [utf8 "# by hand", utf8 "020001  # p", utf8 "\t", utf8 "??  # q", utf8 "zz !??  # r"]⟩

def annotatedAssignment : Assignment :=
  ⟨utf8 "odd opcodes", [], [], Assignment.defaultResultsPath, [], [annotatedCase], 0⟩

theorem edits_annotatedCase : Relation.ReflTransGen Listing.Edit
    [utf8 "020001  # p\n??  # q\nzz !??  # r\n"] annotatedCase.expected := by
  have remark : Listing.Idle (utf8 "# by hand") :=
    ⟨by decide, [], _, rfl, by decide, fun _ first => (Option.some.inj first).symm⟩
  have tab : Listing.Idle (utf8 "\t") := ⟨by decide, utf8 "\t", [], rfl, by decide, by simp⟩
  have nothing : Listing.Idle [] := ⟨by decide, [], [], rfl, by decide, by simp⟩
  have lines : Text.lines (utf8 "020001  # p\n??  # q\nzz !??  # r\n") =
      [utf8 "020001  # p", utf8 "??  # q", utf8 "zz !??  # r", []] := by
    decide
  have cut := Listing.Edit.cut [] (utf8 "020001  # p\n??  # q\nzz !??  # r\n") []
  rw [lines] at cut
  apply Relation.ReflTransGen.head cut
  apply Relation.ReflTransGen.head
    (.drop [utf8 "020001  # p", utf8 "??  # q", utf8 "zz !??  # r"] [] [] nothing)
  apply Relation.ReflTransGen.head (.add [utf8 "020001  # p"] (utf8 "\t") _ tab)
  exact Relation.ReflTransGen.single (.add [] (utf8 "# by hand") _ remark)

/-- Neither odd opcodes nor remarks nor an unknown glyph keep a program from passing. -/
theorem grade_annotatedCase :
    ∃ tr : Translator, Catalog.load (utf8 "plain") (.ok plainDocument) = .ok tr.catalog ∧
      tr.catalog.HasPlainOpcodes ∧
      ∃ entry, (grade tr plainFiles annotatedAssignment).tests[0]? = some entry ∧
        entry.passed = some true ∧ entry.score = 5 ∧ entry.maxScore = 5 ∧
        entry.output = (tr.translate (utf8 "p q x r")).diagnostics.flatMap fun d =>
          d.report (utf8 "answer") ++ [Text.lineFeed] := by
  have evaluated : (Catalog.load (utf8 "plain") (.ok plainDocument)).toOption.any (fun c =>
      decide c.HasPlainOpcodes &&
        ((Translator.mk c .standard).translate (utf8 "p q x r")).listing true ==
          utf8 "020001  # p\n??  # q\nzz !??  # r\n") = true := by
    decide +kernel
  cases loaded : Catalog.load (utf8 "plain") (.ok plainDocument) with
  | error fault =>
      rw [loaded] at evaluated
      cases evaluated
  | ok c =>
      rw [loaded] at evaluated
      simp only [Except.toOption, Option.any_some, Bool.and_eq_true, decide_eq_true_eq,
        beq_iff_eq] at evaluated
      obtain ⟨plain, listing⟩ := evaluated
      refine ⟨⟨c, .standard⟩, rfl, plain, ?_⟩
      exact grade_own_listing _ _ ⟨c, .standard⟩ loaded plain plainFiles annotatedAssignment 0
        annotatedCase rfl (utf8 "p q x r") (by decide +kernel) _ (.whole true)
        (listing ▸ edits_annotatedCase)

end Grading
end Hexaglyph
