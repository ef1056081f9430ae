import Hexaglyph.Program.Listing
import Hexaglyph.Proofs.Encoding
import Hexaglyph.Proofs.LetterCase
import Hexaglyph.Proofs.Loading
import Hexaglyph.Proofs.Tokens
set_option autoImplicit false

/-! Listings and their reader. The opcode text comes from the catalog as it is, and only some texts
survive: the others are cut, trimmed or split when the listing is read back. -/
namespace Hexaglyph

/-- The bytes from the digit zero on that are characters alone: no blank and no mark of a listing is
among them. -/
def isSturdy (byte : UInt8) : Bool :=
  decide (0x30 ≤ byte) && decide (byte < 0x80)

theorem isSturdy_iff (byte : UInt8) :
    isSturdy byte = true ↔ 48 ≤ byte.toNat ∧ byte.toNat < 128 := by
  simp only [isSturdy, Bool.and_eq_true, decide_eq_true_eq]
  rfl

theorem isSturdy_hexDigit (letters : LetterCase) (value : Nat) :
    isSturdy (hexDigit letters value) = true := by
  have small : value % 16 < 16 := Nat.mod_lt _ (by decide)
  rw [isSturdy_iff]
  unfold hexDigit
  simp only
  split
  · rw [UInt8.toNat_ofNat_of_lt' (by simp only [UInt8.size]; omega)]
    omega
  · cases letters
    · rw [UInt8.toNat_ofNat_of_lt' (by simp only [UInt8.size]; omega)]
      simp only
      omega
    · rw [UInt8.toNat_ofNat_of_lt' (by simp only [UInt8.size]; omega)]
      simp only
      omega

theorem isSturdy_of_hexValue (digit : UInt8) (value : Nat) (found : hexValue? digit = some value) :
    isSturdy digit = true := by
  rw [isSturdy_iff]
  unfold hexValue? at found
  simp only at found
  split at found
  · omega
  · split at found
    · omega
    · split at found
      · omega
      · cases found

theorem Symbol.isBlank_visible (byte : UInt8) (visible : 32 < byte.toNat) (ascii : byte.toNat < 128) :
    (Symbol.ascii byte).isBlank = false := by
  have value : (Char.ofNat byte.toNat).toNat = byte.toNat :=
    Text.toNat_ofNat_char byte.toNat (Or.inl (by omega))
  rw [Bool.eq_false_iff]
  intro blank
  obtain ⟨bounds, member, between⟩ := (isBlank_iff _).mp blank
  change bounds.1 ≤ (Char.ofNat byte.toNat).toNat ∧ (Char.ofNat byte.toNat).toNat ≤ bounds.2 at between
  have apart : ∀ bounds ∈ blankBounds, bounds.2 < 33 ∨ 128 ≤ bounds.1 := by decide
  have outside := apart bounds member
  omega

theorem Symbol.isBlank_ascii (byte : UInt8) (sturdy : isSturdy byte = true) :
    (Symbol.ascii byte).isBlank = false := by
  rw [isSturdy_iff] at sturdy
  exact isBlank_visible byte (by omega) sturdy.2

namespace EncodedLine

def ending (l : EncodedLine) : Text :=
  (if l.opcode.isEmpty then l.bytes else l.bytes.drop 1).flatMap (Text.ofByte .upper) ++
    if l.unresolved then unresolvedMark else []

theorem hex_eq (l : EncodedLine) : l.hex = l.opcode ++ l.ending :=
  List.append_assoc ..

/-- Behind the opcode there are digits and question marks alone. -/
theorem ending_sturdy (l : EncodedLine) : ∀ byte ∈ l.ending, isSturdy byte = true := by
  intro byte member
  rcases List.mem_append.mp member with digit | mark
  · obtain ⟨operand, -, digit⟩ := List.mem_flatMap.mp digit
    simp only [Text.ofByte, Text.ofHex, List.nil_append, List.mem_append, List.mem_singleton] at digit
    rcases digit with rfl | rfl
    · exact isSturdy_hexDigit .upper _
    · exact isSturdy_hexDigit .upper _
  · split at mark
    · rw [show byte = 0x3F by simpa [unresolvedMark] using mark]
      decide
    · cases mark

theorem ending_ascii (l : EncodedLine) : ∀ byte ∈ l.ending, byte < 0x80 := by
  intro byte member
  exact ((isSturdy_iff byte).mp (l.ending_sturdy byte member)).2

theorem symbols_hex (l : EncodedLine) :
    Text.symbols l.hex = Text.symbols l.opcode ++ l.ending.map Symbol.ascii := by
  rw [hex_eq, Text.symbols_append, Text.symbols_ascii _ l.ending_ascii]
  intro byte found
  exact Text.isUTF8FirstByte_ascii byte (l.ending_ascii byte (List.mem_of_head? found))

/-- Any other byte is in a line exactly when its opcode has it. -/
theorem mem_hex (l : EncodedLine) (byte : UInt8) (other : isSturdy byte = false) :
    byte ∈ l.hex ↔ byte ∈ l.opcode := by
  rw [hex_eq, List.mem_append]
  constructor
  · rintro (member | member)
    · exact member
    · rw [l.ending_sturdy byte member] at other
      cases other
  · exact Or.inl

def printed (l : EncodedLine) (comments : Bool) : Text :=
  if comments then l.commented else l.hex

theorem listed_eq (l : EncodedLine) (comments : Bool) :
    l.listed comments = l.printed comments ++ [Text.lineFeed] := rfl

end EncodedLine

namespace Listing

theorem parse_append_lineFeed (a b : Text) : parse (a ++ Text.lineFeed :: b) = parse a ++ parse b := by
  rw [parse, Text.lines_append_lineFeed, List.map_append, List.filter_append, List.map_append]
  rfl

theorem parse_line (line : Text) (single : Text.lineFeed ∉ line) :
    parse line = if (Text.trim (stripComment line)).isEmpty then []
      else [Text.upper (Text.trim (stripComment line))] := by
  rw [parse, Text.lines_whole line single, List.map_cons, List.map_nil, List.filter_cons]
  split <;> simp_all

/-- A listing is read line by line. -/
theorem parse_flatMap_listed (lines : List EncodedLine) (comments : Bool) :
    parse (lines.flatMap (·.listed comments)) = lines.flatMap fun l => parse (l.printed comments) := by
  induction lines with
  | nil => rfl
  | cons l rest ih =>
      rw [List.flatMap_cons, EncodedLine.listed_eq, List.append_assoc, List.singleton_append,
        parse_append_lineFeed, ih, List.flatMap_cons]

theorem lineFeed_mem_upper (t : Text) : Text.lineFeed ∈ Text.upper t ↔ Text.lineFeed ∈ t :=
  Text.mem_upper t Text.lineFeed (by decide) (by decide) (by decide +kernel)

theorem commentSign_mem_upper (t : Text) : commentSign ∈ Text.upper t ↔ commentSign ∈ t :=
  Text.mem_upper t commentSign (by decide) (by decide) (by decide +kernel)

/-- Text that would not stay one entry of a listing as it is: it has a comment sign or a line feed,
or it begins with a blank. -/
def Fragile (t : Text) : Prop :=
  commentSign ∈ t ∨ Text.lineFeed ∈ t ∨ ∃ s ∈ (Text.symbols t).head?, s.isBlank = true

instance (t : Text) : Decidable (Fragile t) :=
  inferInstanceAs (Decidable (_ ∨ _ ∨ _))

theorem fragile_upper (t : Text) : Fragile (Text.upper t) ↔ Fragile t := by
  simp only [Fragile, commentSign_mem_upper, lineFeed_mem_upper, Text.symbols_upper, List.head?_map,
    Option.mem_def, Option.map_eq_some_iff]
  constructor
  · rintro (sign | lineFeed | ⟨_, ⟨s, found, rfl⟩, blank⟩)
    · exact Or.inl sign
    · exact Or.inr (Or.inl lineFeed)
    · exact Or.inr (Or.inr ⟨s, found, (Text.isBlank_upper s).symm.trans blank⟩)
  · rintro (sign | lineFeed | ⟨s, found, blank⟩)
    · exact Or.inl sign
    · exact Or.inr (Or.inl lineFeed)
    · exact Or.inr (Or.inr ⟨_, ⟨s, found, rfl⟩, (Text.isBlank_upper s).trans blank⟩)

theorem fragile_hex (l : EncodedLine) : Fragile l.hex ↔ Fragile l.opcode := by
  have begins : (∃ s ∈ (Text.symbols l.hex).head?, s.isBlank = true) ↔
      ∃ s ∈ (Text.symbols l.opcode).head?, s.isBlank = true := by
    rw [l.symbols_hex, List.head?_append]
    cases (Text.symbols l.opcode).head? with
    | some s => rfl
    | none =>
        simp only [Option.none_or, List.head?_map, Option.mem_def, Option.map_eq_some_iff, reduceCtorEq,
          false_and, exists_false, iff_false]
        rintro ⟨_, ⟨byte, first, rfl⟩, blank⟩
        rw [Symbol.isBlank_ascii byte (l.ending_sturdy byte (List.mem_of_head? first))] at blank
        cases blank
  rw [Fragile, Fragile, l.mem_hex commentSign (by decide), l.mem_hex Text.lineFeed (by decide), begins]

theorem mem_parse (t entry : Text) (member : entry ∈ parse t) :
    ∃ line ∈ Text.lines t, Text.trim (stripComment line) ≠ [] ∧
      entry = Text.upper (Text.trim (stripComment line)) := by
  obtain ⟨kept, filtered, rfl⟩ := List.mem_map.mp member
  obtain ⟨trimmed, filled⟩ := List.mem_filter.mp filtered
  obtain ⟨line, inside, rfl⟩ := List.mem_map.mp trimmed
  exact ⟨line, inside, by simpa using filled, rfl⟩

/-- The reader never gives fragile text. -/
theorem not_fragile_of_mem_parse (t entry : Text) (member : entry ∈ parse t) : ¬ Fragile entry := by
  obtain ⟨line, inside, -, rfl⟩ := mem_parse t entry member
  rw [fragile_upper]
  rintro (sign | lineFeed | ⟨s, found, blank⟩)
  · have kept := List.all_eq_true.mp List.all_takeWhile _ (Text.mem_of_mem_trim _ _ sign)
    simp at kept
  · have taken : Text.lineFeed ∈ line :=
      List.takeWhile_subset _ (Text.mem_of_mem_trim _ _ lineFeed)
    exact Text.lineFeed_not_mem_line t line inside taken
  · obtain ⟨front, back, -, -, -, first, -⟩ := Text.trim_spec (stripComment line)
    rw [first s found] at blank
    cases blank

end Listing

namespace EncodedLine

/-- What the lines of a translation have in common, if the catalog was loaded: the glyph is a word,
and a line that is resolved has the digits of its code as opcode. -/
structure Regular (l : EncodedLine) : Prop where
  glyph : Text.lineFeed ∉ l.glyph
  opcode : l.unresolved = true ∨ (Text.toByte? l.opcode).isSome

theorem last_sturdy_of_toByte (t : Text) (code : UInt8) (spelled : Text.toByte? t = some code) :
    ∃ front byte, t = front ++ [byte] ∧ isSturdy byte = true := by
  unfold Text.toByte? at spelled
  split at spelled
  · rename_i high low
    simp only [Option.bind_eq_bind, Option.bind_eq_some_iff] at spelled
    obtain ⟨_, -, value, found, -⟩ := spelled
    exact ⟨[high], low, rfl, isSturdy_of_hexValue low value found⟩
  · cases spelled

/-- A line always ends with a digit or a question mark. -/
theorem hex_last (l : EncodedLine) (regular : l.Regular) :
    ∃ front byte, l.hex = front ++ [byte] ∧ isSturdy byte = true := by
  rw [hex_eq]
  by_cases nothing : l.ending = []
  · have resolved : l.unresolved ≠ true := by
      intro set
      simp [ending, set, unresolvedMark] at nothing
    obtain ⟨code, spelled⟩ := Option.isSome_iff_exists.mp (regular.opcode.resolve_left resolved)
    rw [nothing, List.append_nil]
    exact last_sturdy_of_toByte l.opcode code spelled
  · refine ⟨l.opcode ++ l.ending.dropLast, l.ending.getLast nothing, ?_, ?_⟩
    · rw [List.append_assoc, List.dropLast_concat_getLast nothing]
    · exact l.ending_sturdy _ (List.getLast_mem nothing)

/-- Only the blanks before a comment are left of it. -/
theorem stripComment_printed (l : EncodedLine) (comments : Bool)
    (sign : Listing.commentSign ∉ l.hex) :
    Listing.stripComment (l.printed comments) = l.hex ++ if comments then [0x20, 0x20] else [] := by
  have kept : ∀ byte ∈ l.hex, (byte != Listing.commentSign) = true := by
    intro byte member
    exact bne_iff_ne.mpr fun same => sign (same ▸ member)
  have appended (rest : Text) :
      Listing.stripComment (l.hex ++ rest) = l.hex ++ Listing.stripComment rest :=
    List.takeWhile_append_of_pos kept
  cases comments with
  | false =>
      have all := appended []
      rw [List.append_nil] at all
      exact all
  | true =>
      have text : utf8 "  # " = [0x20, 0x20, Listing.commentSign, 0x20] := by decide
      simp only [printed, commented, if_true, text, List.append_assoc]
      exact appended _

theorem lineFeed_not_mem_printed (l : EncodedLine) (comments : Bool) (regular : l.Regular)
    (lineFeed : Text.lineFeed ∉ l.hex) : Text.lineFeed ∉ l.printed comments := by
  cases comments with
  | false => exact lineFeed
  | true =>
      have text : Text.lineFeed ∉ utf8 "  # " := by decide
      simp only [printed, commented, if_true, List.mem_append, not_or]
      exact ⟨⟨lineFeed, text⟩, regular.glyph⟩

/-- A line whose opcode is not fragile is read back as it is. -/
theorem parse_printed (l : EncodedLine) (comments : Bool) (regular : l.Regular)
    (firm : ¬ Listing.Fragile l.opcode) :
    Listing.parse (l.printed comments) = [Text.upper l.hex] := by
  rw [← Listing.fragile_hex, Listing.Fragile, not_or, not_or] at firm
  obtain ⟨sign, lineFeed, begins⟩ := firm
  obtain ⟨front, byte, split, sturdy⟩ := l.hex_last regular
  have last : Text.symbols l.hex = Text.symbols front ++ [Symbol.ascii byte] := by
    rw [split, Text.symbols_append_ascii front byte [] ((isSturdy_iff byte).mp sturdy).2]
    rfl
  have trimmed : Text.trim (l.hex ++ if comments then [0x20, 0x20] else []) = l.hex := by
    apply Text.trim_append_blanks
    · simp [split]
    · apply Text.symbols_append
      cases comments <;> simp
      decide
    · cases comments <;> decide
    · intro s found
      rw [Bool.eq_false_iff]
      exact fun blank => begins ⟨s, found, blank⟩
    · intro s found
      rw [last, List.getLast?_concat, Option.mem_some_iff] at found
      rw [← found]
      exact Symbol.isBlank_ascii byte sturdy
  rw [Listing.parse_line _ (l.lineFeed_not_mem_printed comments regular lineFeed),
    l.stripComment_printed comments sign, trimmed]
  simp [split]

end EncodedLine

/-- Lines whose opcodes are not fragile are read back one by one. -/
theorem Listing.parse_of_firm (lines : List EncodedLine) (comments : Bool)
    (regular : ∀ line ∈ lines, line.Regular) (firm : ∀ line ∈ lines, ¬ Fragile line.opcode) :
    parse (lines.flatMap (·.listed comments)) = (lines.map EncodedLine.hex).map Text.upper := by
  have each : ∀ line ∈ lines, parse (line.printed comments) = [Text.upper line.hex] := by
    intro line member
    exact line.parse_printed comments (regular line member) (firm line member)
  rw [parse_flatMap_listed, List.flatMap_def, List.map_congr_left each, ← List.flatMap_def,
    ← List.map_eq_flatMap, List.map_map]
  rfl

/-- A glyph is a word, so it has no line feed. -/
theorem Catalog.lineFeed_not_mem_glyph (c : Catalog) (program : Text) (t : Token)
    (member : t ∈ c.tokens program) : Text.lineFeed ∉ t.glyph := by
  intro inside
  obtain ⟨before, after, run, -⟩ := (c.mem_tokens program t).mp member
  rw [Text.mem_ascii t.glyph Text.lineFeed (by decide), Symbol.ascii_lineFeed] at inside
  have solid := run.longest.solid _ inside
  rw [Symbol.lineFeed_isBlank] at solid
  cases solid

theorem Catalog.definition_of_mem_tokens (c : Catalog) (program : Text) (t : Token)
    (member : t ∈ c.tokens program) : t.definition = c.lookup t.glyph := by
  obtain ⟨before, after, -, -, known⟩ := (c.mem_tokens program t).mp member
  exact known

/-- Every line of a translation encodes an instruction of the program. -/
theorem Translator.exists_token_of_mem_lines (tr : Translator) (program : Text) (line : EncodedLine)
    (member : line ∈ (tr.translate program).lines) :
    ∃ drawn index t i, t ∈ tr.catalog.tokens program ∧ t.definition = some (.instruction i) ∧
      line.Encodes tr.rotation drawn index t i := by
  obtain ⟨n, found⟩ := List.mem_iff_getElem?.mp member
  obtain ⟨offset, t, i, placed, defined, encodes⟩ := Token.encodeFrom_line 0 _ _ n line found
  exact ⟨_, _, t, i, List.mem_of_getElem? placed, defined, encodes⟩

theorem EncodedLine.regular_of_mem_lines (source : Text) (read : Except Text Text) (tr : Translator)
    (loaded : Catalog.load source read = .ok tr.catalog) (program : Text) (line : EncodedLine)
    (member : line ∈ (tr.translate program).lines) : line.Regular := by
  obtain ⟨drawn, index, t, i, token, defined, encodes⟩ :=
    tr.exists_token_of_mem_lines program line member
  have known := tr.catalog.definition_of_mem_tokens program t token
  have code := Catalog.load_code source read tr.catalog loaded t.glyph i (known.symm.trans defined)
  constructor
  · rw [encodes.glyph]
    exact tr.catalog.lineFeed_not_mem_glyph program t token
  · rw [encodes.unresolved, encodes.arity, encodes.opcode, ← code]
    cases i.code with
    | none => exact Or.inl rfl
    | some code => exact Or.inr rfl

/-- A listing reads back as its lines in upper case exactly when no opcode in it is fragile. -/
theorem parse_listing_iff (source : Text) (read : Except Text Text) (tr : Translator)
    (loaded : Catalog.load source read = .ok tr.catalog) (program : Text) (comments : Bool) :
    Listing.parse ((tr.translate program).listing comments) =
        (tr.translate program).hexLines.map Text.upper ↔
      ∀ line ∈ (tr.translate program).lines, ¬ Listing.Fragile line.opcode := by
  rw [Translation.listing, Listing.parse_flatMap_listed, Translation.hexLines, List.map_map]
  constructor
  · intro same line member
    have printed : Text.upper line.hex ∈
        Listing.parse ((tr.translate program).listing comments) := by
      rw [Translation.listing, Listing.parse_flatMap_listed, same]
      exact List.mem_map_of_mem member
    have firm := Listing.not_fragile_of_mem_parse _ _ printed
    rwa [Listing.fragile_upper, Listing.fragile_hex] at firm
  · intro firm
    have each : ∀ line ∈ (tr.translate program).lines,
        Listing.parse (line.printed comments) = [Text.upper line.hex] := by
      intro line member
      have regular := EncodedLine.regular_of_mem_lines source read tr loaded program line member
      exact line.parse_printed comments regular (firm line member)
    rw [List.flatMap_def, List.map_congr_left each, ← List.flatMap_def, ← List.map_eq_flatMap]
    rfl

/-- A catalog whose opcodes are a comment sign and two digits on two lines. -/
def fragileDocument : Text :=
  utf8 ("\x7b\"glyph_to_opcode\":\x7b\"p\":\x7b\"name\":\"P\",\"opcode\":\"#\"\x7d," ++
    "\"q\":\x7b\"name\":\"Q\",\"opcode\":\"4\\n5\"\x7d\x7d," ++
    "\"modifiers\":\x7b\x7d,\"psychic_augmenters\":\x7b\x7d\x7d")

/-- A line that is dropped and one that is split in two do not make up for each other. -/
theorem parse_listing_dropped_and_split :
    ∃ tr : Translator, Catalog.load (utf8 "fragile") (.ok fragileDocument) = .ok tr.catalog ∧
      Listing.parse ((tr.translate (utf8 "p q")).listing false) ≠
        (tr.translate (utf8 "p q")).hexLines.map Text.upper := by
  have evaluated : (Catalog.load (utf8 "fragile") (.ok fragileDocument)).toOption.any (fun c =>
      ((Translator.mk c .standard).translate (utf8 "p q")).lines.any fun line =>
        line.opcode.contains Listing.commentSign) = true := by
    decide +kernel
  cases loaded : Catalog.load (utf8 "fragile") (.ok fragileDocument) with
  | error fault =>
      rw [loaded] at evaluated
      cases evaluated
  | ok c =>
      rw [loaded] at evaluated
      obtain ⟨line, member, sign⟩ := List.any_eq_true.mp evaluated
      refine ⟨⟨c, .standard⟩, rfl, ?_⟩
      rw [ne_eq, parse_listing_iff _ _ ⟨c, .standard⟩ loaded]
      exact fun firm => firm line member (Or.inl (List.contains_iff_mem.mp sign))

end Hexaglyph
