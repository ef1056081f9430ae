import Hexaglyph.Proofs.Acceptance
import Hexaglyph.Proofs.Letters
set_option autoImplicit false

/-! The text of a line against its bytes. The first byte is shown as the catalog wrote the opcode, and
the others as digits; read in pairs, all digits together give the bytes of a line that is resolved. -/
namespace Hexaglyph

theorem lowerByte_hexDigit (letters : LetterCase) (value : Nat) :
    lowerByte (hexDigit letters value) = hexDigit .lower value := by
  have table : ∀ digit < 16, lowerByte (hexDigit letters digit) = hexDigit .lower digit := by
    cases letters <;> decide
  rw [← hexDigit_mod, ← hexDigit_mod .lower]
  exact table (value % 16) (Nat.mod_lt value (by decide))

/-- The hexadecimal digits by their value, with small letters. -/
def hexDigits : Text := utf8 "0123456789abcdef"

theorem idxOf?_hexDigits (digit : UInt8) :
    hexDigits.idxOf? (lowerByte digit) = hexValue? digit :=
  byte_of_table (fun digit => hexDigits.idxOf? (lowerByte digit) = hexValue? digit)
    (by decide +kernel) digit

theorem hexDigit_mem_hexDigits (value : Nat) : hexDigit .lower value ∈ hexDigits := by
  have table : ∀ value < 16, hexDigit .lower value ∈ hexDigits := by decide
  rw [← hexDigit_mod]
  exact table (value % 16) (Nat.mod_lt value (by decide))

namespace Text

/-- The bytes that a text gives when its digits are read in pairs. -/
def toBytes? : Text → Option (List UInt8)
  | [] => some []
  | [_] => none
  | high :: low :: rest => do
    let h ← hexDigits.idxOf? (lowerByte high)
    let l ← hexDigits.idxOf? (lowerByte low)
    let bytes ← toBytes? rest
    return UInt8.ofNat (16 * h + l) :: bytes

theorem toBytes?_pair (high low : UInt8) (rest : Text) :
    toBytes? (high :: low :: rest) =
      (toByte? [high, low]).bind fun byte => (toBytes? rest).map (byte :: ·) := by
  rw [toBytes?, toByte?, idxOf?_hexDigits, idxOf?_hexDigits]
  cases hexValue? high <;> cases hexValue? low <;> cases toBytes? rest <;> rfl

theorem exists_pair_of_toByte? (t : Text) (byte : UInt8) (spelled : toByte? t = some byte) :
    ∃ high low, t = [high, low] := by
  unfold toByte? at spelled
  split at spelled
  · exact ⟨_, _, rfl⟩
  · cases spelled

theorem toBytes?_append (t : Text) (byte : UInt8) (spelled : toByte? t = some byte) (rest : Text) :
    toBytes? (t ++ rest) = (toBytes? rest).map (byte :: ·) := by
  obtain ⟨high, low, rfl⟩ := exists_pair_of_toByte? t byte spelled
  rw [List.cons_append, List.cons_append, List.nil_append, toBytes?_pair, spelled, Option.bind_some]

theorem toByte?_ofByte (letters : LetterCase) (byte : UInt8) :
    toByte? (ofByte letters byte) = some byte :=
  (toByte?_eq_some_iff _ byte).mpr ((mem_spellings _ byte).mpr ⟨letters, letters, rfl⟩)

theorem toBytes?_flatMap (letters : LetterCase) (bytes : List UInt8) :
    toBytes? (bytes.flatMap (ofByte letters)) = some bytes := by
  induction bytes with
  | nil => rfl
  | cons byte rest ih =>
      rw [List.flatMap_cons, toBytes?_append _ byte (toByte?_ofByte letters byte), ih, Option.map_some]

theorem toBytes?_lowered (t : Text) : toBytes? (lowered t) = toBytes? t := by
  induction t using toBytes?.induct with
  | case1 => rfl
  | case2 => rfl
  | case3 high low rest ih =>
      have pair : toByte? [lowerByte high, lowerByte low] = toByte? [high, low] :=
        toByte?_lowered [high, low]
      have split : lowered (high :: low :: rest) = lowerByte high :: lowerByte low :: lowered rest := rfl
      rw [split, toBytes?_pair, toBytes?_pair, pair, ih]

theorem lowered_of_toByte? (t : Text) (byte : UInt8) (spelled : toByte? t = some byte) :
    lowered t = ofByte .lower byte := by
  obtain ⟨first, second, rfl⟩ := (mem_spellings t byte).mp ((toByte?_eq_some_iff t byte).mp spelled)
  simp only [lowered, List.map_cons, List.map_nil, lowerByte_hexDigit]
  rfl

/-- Digits that were read can be told from the bytes, but for the case of letters. -/
theorem lowered_of_toBytes? (t : Text) (bytes : List UInt8) (read : toBytes? t = some bytes) :
    lowered t = bytes.flatMap (ofByte .lower) := by
  induction t using toBytes?.induct generalizing bytes with
  | case1 =>
      cases read
      rfl
  | case2 => cases read
  | case3 high low rest ih =>
      rw [toBytes?_pair, Option.bind_eq_some_iff] at read
      obtain ⟨byte, spelled, others⟩ := read
      obtain ⟨tail, readTail, rfl⟩ := Option.map_eq_some_iff.mp others
      rw [List.flatMap_cons, ← lowered_of_toByte? _ byte spelled, ← ih tail readTail]
      rfl

theorem toBytes?_eq_singleton_iff (t : Text) (byte : UInt8) :
    toBytes? t = some [byte] ↔ toByte? t = some byte := by
  constructor
  · intro read
    have same : lowered t = ofByte .lower byte := by
      rw [lowered_of_toBytes? t [byte] read, List.flatMap_singleton]
    rw [← toByte?_lowered, same, toByte?_ofByte]
  · intro spelled
    have read := toBytes?_append t byte spelled []
    rwa [List.append_nil] at read

theorem length_ofByte (letters : LetterCase) (byte : UInt8) : (ofByte letters byte).length = 2 := rfl

theorem length_of_toBytes? (t : Text) (bytes : List UInt8) (read : toBytes? t = some bytes) :
    t.length = 2 * bytes.length := by
  have size : (lowered t).length = t.length := List.length_map _
  rw [← size, lowered_of_toBytes? t bytes read]
  clear read size
  induction bytes with
  | nil => rfl
  | cons byte rest ih =>
      rw [List.flatMap_cons, List.length_append, length_ofByte, ih, List.length_cons]
      omega

theorem digit_of_toBytes? (t : Text) (bytes : List UInt8) (read : toBytes? t = some bytes) :
    ∀ digit ∈ t, lowerByte digit ∈ hexDigits := by
  intro digit member
  have inside : lowerByte digit ∈ bytes.flatMap (ofByte .lower) := by
    rw [← lowered_of_toBytes? t bytes read]
    exact List.mem_map_of_mem member
  obtain ⟨byte, -, spelled⟩ := List.mem_flatMap.mp inside
  simp only [ofByte, ofHex, List.nil_append, List.mem_append, List.mem_singleton] at spelled
  rcases spelled with same | same
  · rw [same]
    exact hexDigit_mem_hexDigits _
  · rw [same]
    exact hexDigit_mem_hexDigits _

theorem ascii_of_toBytes? (t : Text) (bytes : List UInt8) (read : toBytes? t = some bytes) :
    ∀ byte ∈ t, byte < 0x80 := by
  intro byte member
  apply UInt8.not_le.mp
  intro high
  have digit := digit_of_toBytes? t bytes read byte member
  have low : ∀ digit ∈ hexDigits, digit < 0x80 := by decide +kernel
  rw [lowerByte_high byte high] at digit
  exact absurd (low byte digit) (UInt8.not_lt.mpr high)

theorem sameLetters_iff_toBytes? (a b : Text) (first second : List UInt8)
    (readFirst : toBytes? a = some first) (readSecond : toBytes? b = some second) :
    SameLetters a b ↔ first = second := by
  constructor
  · intro same
    have bytes := same.congr toBytes? toBytes?_lowered
    rw [readFirst, readSecond] at bytes
    exact Option.some.inj bytes
  · rintro rfl
    rw [SameLetters, lowered_of_toBytes? a first readFirst, lowered_of_toBytes? b first readSecond]

end Text

namespace EncodedLine

/-- The text of a line that is resolved, read in pairs. -/
theorem toBytes?_hex (l : EncodedLine) (code : UInt8) (operands : List UInt8)
    (spelled : Text.toByte? l.opcode = some code) (bytes : l.bytes = code :: operands)
    (resolved : l.unresolved = false) : Text.toBytes? l.hex = some l.bytes := by
  obtain ⟨high, low, pair⟩ := Text.exists_pair_of_toByte? l.opcode code spelled
  have text : l.hex = l.opcode ++ operands.flatMap (Text.ofByte .upper) := by
    simp [hex, pair, bytes, resolved]
  rw [text, Text.toBytes?_append l.opcode code spelled, Text.toBytes?_flatMap, Option.map_some, bytes]

section Encodes

variable {line : EncodedLine} {rotation : Rotation} {drawn index : Nat} {t : Token} {i : Instruction}
  (encodes : line.Encodes rotation drawn index t i)

include encodes

theorem Encodes.code_of_resolved (resolved : line.unresolved = false) :
    ∃ code operands, i.code = some code ∧ line.bytes = code :: operands := by
  obtain ⟨registers, -, -, bytes⟩ := encodes.bytes
  cases known : i.code with
  | some code =>
      rw [known, Option.toList_some, List.append_assoc, List.singleton_append] at bytes
      exact ⟨code, _, rfl, bytes⟩
  | none =>
      have arity := encodes.arity
      rw [known] at arity
      rw [encodes.unresolved.mpr arity] at resolved
      cases resolved

theorem Encodes.bytes_of_unresolved (unresolved : line.unresolved = true) :
    line.bytes = i.code.toList := by
  have arity := encodes.unresolved.mp unresolved
  obtain ⟨registers, count, -, bytes⟩ := encodes.bytes
  rw [arity] at count bytes
  have empty : registers = [] := List.eq_nil_of_length_eq_zero count
  simpa [empty] using bytes

theorem Encodes.hex_of_unresolved (unresolved : line.unresolved = true)
    (code : i.code = Text.toByte? i.opcode) : line.hex = i.opcode ++ unresolvedMark := by
  rw [hex, encodes.bytes_of_unresolved unresolved, encodes.opcode, unresolved, code]
  cases spelled : Text.toByte? i.opcode with
  | none => simp
  | some byte =>
      obtain ⟨high, low, pair⟩ := Text.exists_pair_of_toByte? i.opcode byte spelled
      simp [pair]

end Encodes
end EncodedLine

/-- Every line of a translation comes from an entry of the document that was loaded. -/
theorem Translator.exists_entry_of_mem_lines (source : Text) (read : Except Text Text) (tr : Translator)
    (loaded : Catalog.load source read = .ok tr.catalog) (program : Text) (line : EncodedLine)
    (member : line ∈ (tr.translate program).lines) :
    ∃ contents document given, read = .ok contents ∧
      Catalog.parseDocument contents = .ok document ∧
      CatalogDocument.HasEntry document.instructions line.glyph given ∧
      ∃ drawn index t, line.Encodes tr.rotation drawn index t given.resolved := by
  obtain ⟨contents, document, contentsRead, parsed, accepted⟩ :=
    Catalog.load_ok source read tr.catalog loaded
  obtain ⟨instructions, modifiers, augmenters, sections, -, -, -, built⟩ :=
    Catalog.ofDocument_ok source document tr.catalog accepted
  obtain ⟨drawn, index, t, i, token, defined, encodes⟩ :=
    tr.exists_token_of_mem_lines program line member
  have known := tr.catalog.definition_of_mem_tokens program t token
  have found := (tr.catalog.lookup_eq_instruction t.glyph i).mp (known.symm.trans defined)
  rw [built, Mapping.get?_map, Option.map_eq_some_iff] at found
  obtain ⟨given, entry, rfl⟩ := found
  refine ⟨contents, document, given, contentsRead, parsed, ?_, drawn, index, t, encodes⟩
  rw [encodes.glyph, sections]
  exact ⟨instructions, rfl, (Mapping.get?_eq_some_iff _ _ _).mp entry⟩

theorem Translator.toBytes?_of_mem_lines (source : Text) (read : Except Text Text) (tr : Translator)
    (loaded : Catalog.load source read = .ok tr.catalog) (program : Text) (line : EncodedLine)
    (member : line ∈ (tr.translate program).lines) (resolved : line.unresolved = false) :
    Text.toBytes? line.hex = some line.bytes := by
  obtain ⟨_, _, given, -, -, -, _, _, _, encodes⟩ :=
    tr.exists_entry_of_mem_lines source read loaded program line member
  obtain ⟨code, operands, known, bytes⟩ := encodes.code_of_resolved resolved
  have spelled : Text.toByte? line.opcode = some code := by
    rw [encodes.opcode]
    exact known
  exact line.toBytes?_hex code operands spelled bytes resolved

/-- Whether a line is in a translation of some program with some catalog that was loaded. -/
def EncodedLine.Produced (line : EncodedLine) : Prop :=
  ∃ source read tr program, Catalog.load source read = .ok tr.catalog ∧
    line ∈ (Translator.translate tr program).lines

/-- The text of a line that is resolved has two digits for each byte, and they give the bytes. The text
of any other line is the opcode as the document has it and two question marks; it has a byte if the
opcode is the digits of one. No line is empty, and among lines that are resolved, of the same
translation or not, the text without regard to case tells as much as the bytes. -/
theorem hex_tells_bytes (source : Text) (read : Except Text Text) (tr : Translator)
    (loaded : Catalog.load source read = .ok tr.catalog) (program : Text) (line : EncodedLine)
    (member : line ∈ (tr.translate program).lines) :
    (line.unresolved = false →
      line.hex.length = 2 * line.bytes.length ∧
      (∀ digit ∈ line.hex, lowerByte digit ∈ hexDigits) ∧
      Text.toBytes? line.hex = some line.bytes) ∧
    (line.unresolved = true →
      ∃ contents document given, read = .ok contents ∧
        Catalog.parseDocument contents = .ok document ∧
        CatalogDocument.HasEntry document.instructions line.glyph given ∧
        line.opcode = given.opcode ∧ line.hex = given.opcode ++ utf8 "??" ∧
        (∀ byte, Text.toBytes? given.opcode = some [byte] → line.bytes = [byte]) ∧
        ((∀ byte, Text.toBytes? given.opcode ≠ some [byte]) → line.bytes = [])) ∧
    line.hex ≠ [] ∧
    ∀ other : EncodedLine, other.Produced → line.unresolved = false → other.unresolved = false →
      (Text.SameLetters line.hex other.hex ↔ line.bytes = other.bytes) ∧
      (Text.sameFolded line.hex other.hex = true ↔ line.bytes = other.bytes) := by
  have digits := tr.toBytes?_of_mem_lines source read loaded program line member
  refine ⟨?_, ?_, ?_, ?_⟩
  · intro resolved
    exact ⟨Text.length_of_toBytes? _ _ (digits resolved), Text.digit_of_toBytes? _ _ (digits resolved),
      digits resolved⟩
  · intro unresolved
    obtain ⟨contents, document, given, contentsRead, parsed, entry, _, _, _, encodes⟩ :=
      tr.exists_entry_of_mem_lines source read loaded program line member
    have bytes : line.bytes = (Text.toByte? given.opcode).toList :=
      encodes.bytes_of_unresolved unresolved
    refine ⟨contents, document, given, contentsRead, parsed, entry, encodes.opcode,
      encodes.hex_of_unresolved unresolved rfl, ?_, ?_⟩
    · intro byte spelled
      rw [bytes, (Text.toBytes?_eq_singleton_iff _ byte).mp spelled, Option.toList_some]
    · intro other
      simp only [ne_eq, Text.toBytes?_eq_singleton_iff] at other
      rw [bytes, Option.eq_none_iff_forall_ne_some.mpr other, Option.toList_none]
  · obtain ⟨front, byte, split, -⟩ :=
      line.hex_last (EncodedLine.regular_of_mem_lines source read tr loaded program line member)
    simp [split]
  · rintro other ⟨source', read', tr', program', loaded', member'⟩ resolved otherResolved
    have first := digits resolved
    have second := tr'.toBytes?_of_mem_lines source' read' loaded' program' other member' otherResolved
    have same := Text.sameLetters_iff_toBytes? _ _ _ _ first second
    have ascii := Text.sameFolded_iff_sameLetters line.hex other.hex
      (Text.ascii_of_toBytes? _ _ first) (Text.ascii_of_toBytes? _ _ second)
    exact ⟨same, ascii.trans same⟩

/-- A catalog with an opcode of the machine, one that is none, and one that is no digits. -/
def motleyDocument : Text :=
  utf8 ("\x7b\"glyph_to_opcode\":\x7b\"p\":\x7b\"name\":\"P\",\"opcode\":\"13\"\x7d," ++
    "\"q\":\x7b\"name\":\"Q\",\"opcode\":\"fF\"\x7d," ++
    "\"r\":\x7b\"name\":\"R\",\"opcode\":\"xF\"\x7d\x7d," ++
    "\"modifiers\":\x7b\x7d,\"psychic_augmenters\":\x7b\x7d\x7d")

/-- An opcode that the machine does not know still has its byte, and its case in the text. -/
theorem motley_tells_bytes :
    ∃ tr : Translator, Catalog.load (utf8 "motley") (.ok motleyDocument) = .ok tr.catalog ∧
      (∃ line ∈ (tr.translate (utf8 "p q r")).lines, line.hex = utf8 "13000103" ∧
        Text.toBytes? line.hex = some line.bytes) ∧
      (∃ line ∈ (tr.translate (utf8 "p q r")).lines, line.hex = utf8 "fF??" ∧
        line.bytes = [0xFF]) ∧
      ∃ line ∈ (tr.translate (utf8 "p q r")).lines, line.hex = utf8 "xF??" ∧ line.bytes = [] := by
  have evaluated : (Catalog.load (utf8 "motley") (.ok motleyDocument)).toOption.any (fun c =>
      let lines := ((Translator.mk c .standard).translate (utf8 "p q r")).lines
      (lines.any fun l => decide (l.unresolved = false ∧ l.hex = utf8 "13000103")) &&
        (lines.any fun l => decide (l.unresolved = true ∧ l.hex = utf8 "fF??")) &&
        lines.any fun l => decide (l.unresolved = true ∧ l.hex = utf8 "xF??")) = true := by
    decide +kernel
  cases loaded : Catalog.load (utf8 "motley") (.ok motleyDocument) with
  | error fault =>
      rw [loaded] at evaluated
      cases evaluated
  | ok c =>
      rw [loaded, Except.toOption, Option.any_some] at evaluated
      simp only [Bool.and_eq_true, List.any_eq_true, decide_eq_true_eq] at evaluated
      obtain ⟨⟨⟨first, placed, resolved, shown⟩, second, next, unknown, digits⟩,
        third, last, undefined, letters⟩ := evaluated
      have tells := hex_tells_bytes _ _ ⟨c, .standard⟩ loaded (utf8 "p q r")
      obtain ⟨_, _, _, -, -, -, -, text, byte, -⟩ := (tells second next).2.1 unknown
      obtain ⟨_, _, _, -, -, -, -, other, -, nothing⟩ := (tells third last).2.1 undefined
      have opcode := List.append_cancel_right (text.symm.trans digits : _ = utf8 "fF" ++ utf8 "??")
      have otherOpcode :=
        List.append_cancel_right (other.symm.trans letters : _ = utf8 "xF" ++ utf8 "??")
      have unread : Text.toBytes? (utf8 "xF") = none := by decide
      refine ⟨⟨c, .standard⟩, rfl, ⟨first, placed, shown, ((tells first placed).1 resolved).2.2⟩,
        ⟨second, next, digits, byte _ ?_⟩, third, last, letters, nothing ?_⟩
      · rw [opcode]
        decide
      · intro byte
        rw [otherOpcode, unread]
        exact (Option.some_ne_none _).symm

end Hexaglyph
