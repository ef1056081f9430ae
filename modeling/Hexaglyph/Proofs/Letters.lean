import Hexaglyph.Proofs.Listing
set_option autoImplicit false

/-! Texts that differ in the case of ASCII letters. With small letters in place of capital ones a text
has the same symbols but for the letters, and it stands for the same byte and the same listing; so what
is read from a text does not depend on the case. -/
namespace Hexaglyph

/-- A capital ASCII letter as the small one, and every other byte as it is. -/
def lowerByte (byte : UInt8) : UInt8 :=
  if 0x41 ≤ byte ∧ byte ≤ 0x5A then byte + 0x20 else byte

theorem toNat_lowerByte (byte : UInt8) : (lowerByte byte).toNat =
    if 65 ≤ byte.toNat ∧ byte.toNat ≤ 90 then byte.toNat + 32 else byte.toNat := by
  by_cases capital : 65 ≤ byte.toNat ∧ byte.toNat ≤ 90
  · have letter : 0x41 ≤ byte ∧ byte ≤ 0x5A := capital
    have step : (0x20 : UInt8).toNat = 32 := rfl
    rw [lowerByte, if_pos letter, if_pos capital, UInt8.toNat_add]
    omega
  · have other : ¬ (0x41 ≤ byte ∧ byte ≤ 0x5A) := capital
    rw [lowerByte, if_neg other, if_neg capital]

theorem lowerByte_high (byte : UInt8) (high : 0x80 ≤ byte) : lowerByte byte = byte := by
  have large : 128 ≤ byte.toNat := high
  have value := toNat_lowerByte byte
  apply UInt8.toNat_inj.mp
  split at value <;> omega

theorem eq_of_lowerByte_high (byte : UInt8) (high : 0x80 ≤ lowerByte byte) :
    lowerByte byte = byte := by
  have large : 128 ≤ (lowerByte byte).toNat := high
  have value := toNat_lowerByte byte
  apply UInt8.toNat_inj.mp
  split at value <;> omega

/-- The marks of a text are no letters. -/
theorem lowerByte_eq_iff (byte mark : UInt8) (low : mark < 0x41) :
    lowerByte byte = mark ↔ byte = mark := by
  have small : mark.toNat < 65 := low
  have value := toNat_lowerByte byte
  rw [← UInt8.toNat_inj, ← UInt8.toNat_inj]
  split at value <;> omega

theorem lowerByte_lowerByte (byte : UInt8) : lowerByte (lowerByte byte) = lowerByte byte := by
  have value := toNat_lowerByte byte
  have again := toNat_lowerByte (lowerByte byte)
  apply UInt8.toNat_inj.mp
  split at value <;> split at again <;> omega

/-- What holds of all bytes can be looked up. -/
theorem byte_of_table (P : UInt8 → Prop) (table : ∀ code : Fin 256, P (UInt8.ofNat code.val))
    (byte : UInt8) : P byte := by
  have entry := table ⟨byte.toNat, byte.toNat_lt⟩
  rwa [UInt8.ofNat_toNat] at entry

theorem ascii_of_table (P : Char → Prop) (table : ∀ code : Fin 128, P (Char.ofNat code.val)) (c : Char)
    (ascii : c.toNat < 128) : P c := by
  have entry := table ⟨c.toNat, ascii⟩
  rwa [Char.ofNat_toNat] at entry

theorem hexValue?_lowerByte (digit : UInt8) : hexValue? (lowerByte digit) = hexValue? digit :=
  byte_of_table (fun digit => hexValue? (lowerByte digit) = hexValue? digit) (by decide +kernel) digit

theorem toLower_of_high (c : Char) (high : 128 ≤ c.toNat) : c.toLower = c := by
  apply dif_neg
  rintro ⟨-, capital⟩
  have small : c.toNat ≤ 90 := capital
  omega

/-- A table that maps ASCII letters of both cases to the same does so with all characters. -/
theorem CaseRun.map_toLower (run : CaseRun) (others : List CaseRun)
    (apart : ∀ other ∈ others, 128 ≤ other.first)
    (same : ∀ code : Fin 128,
      map [run] (Char.ofNat code.val).toLower = map [run] (Char.ofNat code.val)) (c : Char) :
    map (run :: others) c.toLower = map (run :: others) c := by
  by_cases ascii : c.toNat < 128
  · have small : c.toLower.toNat < 128 :=
      ascii_of_table (fun c => c.toLower.toNat < 128) (by decide +kernel) c ascii
    have mapped := ascii_of_table (fun c => map [run] c.toLower = map [run] c) same c ascii
    rw [map_ascii run others apart _ small, map_ascii run others apart c ascii, mapped]
  · rw [toLower_of_high c (Nat.not_lt.mp ascii)]

theorem upperChar_toLower (c : Char) : upperChar c.toLower = upperChar c :=
  CaseRun.map_toLower _ upperRuns.tail (by decide +kernel) (by decide +kernel) c

theorem foldChar_toLower (c : Char) : foldChar c.toLower = foldChar c :=
  CaseRun.map_toLower _ foldRuns.tail (by decide +kernel) (by decide +kernel) c

theorem isBlank_toLower (c : Char) : isBlank c.toLower = isBlank c := by
  rw [← isBlank_upperChar c.toLower, upperChar_toLower, isBlank_upperChar]

namespace Symbol

def lowered : Symbol → Symbol
  | char c => char c.toLower
  | stray byte => stray (lowerByte byte)

/-- What looks at characters without regard to their case looks so at symbols. -/
theorem lowered_shown {α : Type} (f : Char → α) (caseless : ∀ c, f c.toLower = f c) (s : Symbol) :
    f s.lowered.shown = f s.shown := by
  cases s with
  | char c => exact caseless c
  | stray byte => rfl

theorem isBlank_lowered (s : Symbol) : s.lowered.isBlank = s.isBlank :=
  lowered_shown Hexaglyph.isBlank isBlank_toLower s

end Symbol

namespace Text

def lowered (t : Text) : Text :=
  t.map lowerByte

/-- Whether texts differ in nothing but the case of ASCII letters. -/
def SameLetters (a b : Text) : Prop :=
  lowered a = lowered b

instance (a b : Text) : Decidable (SameLetters a b) :=
  inferInstanceAs (Decidable (_ = _))

@[simp] theorem lowered_append (a b : Text) : lowered (a ++ b) = lowered a ++ lowered b :=
  List.map_append

theorem lowered_lowered (t : Text) : lowered (lowered t) = lowered t := by
  rw [lowered, lowered, List.map_map]
  apply List.map_congr_left
  intro byte _
  exact lowerByte_lowerByte byte

@[simp] theorem isEmpty_lowered (t : Text) : (lowered t).isEmpty = t.isEmpty := by
  cases t <;> rfl

/-- A reader that takes small letters as it takes capital ones does not tell texts with the same letters
apart. -/
theorem SameLetters.congr {α : Type} {a b : Text} (same : SameLetters a b) (read : Text → α)
    (caseless : ∀ t, read (lowered t) = read t) : read a = read b := by
  rw [← caseless a, ← caseless b, same]

/-- Beyond ASCII the bytes of a character have no case. -/
theorem lowered_of_high (t : Text) (high : ∀ byte ∈ t, 0x80 ≤ byte) : lowered t = t := by
  have each : ∀ byte ∈ t, lowerByte byte = id byte := fun byte member =>
    lowerByte_high byte (high byte member)
  rw [lowered, List.map_congr_left each, List.map_id]

theorem lowered_cons_high (byte : UInt8) (rest : Text) (high : 0x80 ≤ byte) :
    lowered (byte :: rest) = byte :: lowered rest := by
  rw [lowered, List.map_cons, lowerByte_high byte high, lowered]

theorem high_of_mem_encodeChar (c : Char) (high : 128 ≤ c.toNat) :
    ∀ byte ∈ String.utf8EncodeChar c, 0x80 ≤ byte := by
  intro byte member
  apply UInt8.not_lt.mp
  intro ascii
  have code := congrArg Char.toNat ((mem_encodeChar_ascii c byte ascii).mp member)
  have small : byte.toNat < 128 := ascii
  rw [toNat_ofNat_char byte.toNat (Or.inl (by omega))] at code
  omega

theorem lowered_encodeChar (c : Char) :
    lowered (String.utf8EncodeChar c) = String.utf8EncodeChar c.toLower := by
  by_cases ascii : c.toNat < 128
  · exact ascii_of_table (fun c => lowered (String.utf8EncodeChar c) = String.utf8EncodeChar c.toLower)
      (by decide +kernel) c ascii
  · have high : 128 ≤ c.toNat := Nat.not_lt.mp ascii
    rw [toLower_of_high c high, lowered_of_high _ (high_of_mem_encodeChar c high)]

/-- No character beyond ASCII is made of small letters. -/
theorem prefix_of_lowered (c : Char) (high : 128 ≤ c.toNat) (t : Text)
    (begins : String.utf8EncodeChar c <+: lowered t) : String.utf8EncodeChar c <+: t := by
  rw [List.prefix_iff_eq_take] at begins ⊢
  rw [lowered, ← List.map_take] at begins
  have each : ∀ byte ∈ t.take (String.utf8EncodeChar c).length, lowerByte byte = id byte := by
    intro byte member
    apply eq_of_lowerByte_high
    apply high_of_mem_encodeChar c high
    rw [begins]
    exact List.mem_map_of_mem member
  rwa [List.map_congr_left each, List.map_id] at begins

theorem stray_high (byte : UInt8) (rest : Text)
    (stray : ∀ c, ¬ String.utf8EncodeChar c <+: byte :: rest) : 0x80 ≤ byte := by
  apply UInt8.not_lt.mp
  intro ascii
  apply stray (Char.ofNat byte.toNat)
  rw [encodeChar_ascii byte ascii]
  exact ⟨rest, rfl⟩

theorem stray_lowered (byte : UInt8) (rest : Text)
    (stray : ∀ c, ¬ String.utf8EncodeChar c <+: byte :: rest) (c : Char) :
    ¬ String.utf8EncodeChar c <+: byte :: lowered rest := by
  have high := stray_high byte rest stray
  intro begins
  by_cases ascii : c.toNat < 128
  · -- An ASCII character is one byte, and the first byte is none.
    have encoded := ascii_of_table (fun c => String.utf8EncodeChar c = [UInt8.ofNat c.toNat])
      (by decide +kernel) c ascii
    rw [encoded, List.cons_prefix_cons] at begins
    have large : 128 ≤ byte.toNat := high
    rw [← begins.1, UInt8.toNat_ofNat'] at large
    omega
  · rw [← lowered_cons_high byte rest high] at begins
    exact stray c (prefix_of_lowered c (Nat.not_lt.mp ascii) _ begins)

/-- A text with small letters is read as the same symbols with small letters. -/
theorem symbols_lowered (t : Text) : symbols (lowered t) = (symbols t).map Symbol.lowered := by
  induction t using symbolInduction with
  | nil => rfl
  | char c rest ih =>
      rw [lowered_append, lowered_encodeChar, symbols_encodeChar_append, symbols_encodeChar_append, ih,
        List.map_cons, Symbol.lowered]
  | stray byte rest stray ih =>
      have high := stray_high byte rest stray
      rw [lowered_cons_high byte rest high, symbols_stray_cons _ _ (stray_lowered byte rest stray),
        symbols_stray_cons byte rest stray, ih, List.map_cons, Symbol.lowered, lowerByte_high byte high]

theorem ofSymbols_lowered (symbols : List Symbol) :
    ofSymbols (symbols.map Symbol.lowered) = lowered (ofSymbols symbols) := by
  induction symbols with
  | nil => rfl
  | cons s rest ih =>
      have first : s.lowered.bytes = lowered s.bytes := by
        cases s with
        | char c => exact (lowered_encodeChar c).symm
        | stray byte => rfl
      rw [List.map_cons, ofSymbols_cons, ofSymbols_cons, lowered_append, ih, first]

theorem upper_lowered (t : Text) : upper (lowered t) = upper t := by
  have each : (fun s : Symbol => String.utf8EncodeChar (upperChar s.lowered.shown)) =
      fun s => String.utf8EncodeChar (upperChar s.shown) := by
    funext s
    rw [Symbol.lowered_shown upperChar upperChar_toLower]
  rw [upper, symbols_lowered, List.flatMap_map, each, upper]

theorem folded_lowered (t : Text) : folded (lowered t) = folded t := by
  rw [folded, symbols_lowered, List.map_map]
  apply List.map_congr_left
  intro s _
  exact Symbol.lowered_shown foldChar foldChar_toLower s

theorem foldChar_ascii (c : Char) (ascii : c.toNat < 128) : foldChar c = c.toLower := by
  have fold : foldChar c = CaseRun.map [⟨0x41, 0x5A, 1, 0x61⟩] c :=
    CaseRun.map_ascii _ foldRuns.tail (by decide +kernel) c ascii
  rw [fold]
  exact ascii_of_table (fun c => CaseRun.map [⟨0x41, 0x5A, 1, 0x61⟩] c = c.toLower)
    (by decide +kernel) c ascii

theorem folded_ascii (t : Text) (ascii : ∀ byte ∈ t, byte < 0x80) :
    folded t = (lowered t).map fun byte => Char.ofNat byte.toNat := by
  rw [folded, symbols_ascii t ascii, lowered, List.map_map, List.map_map]
  apply List.map_congr_left
  intro byte member
  have small : byte.toNat < 128 := ascii byte member
  have low : (Char.ofNat byte.toNat).toNat < 128 := by
    rwa [toNat_ofNat_char byte.toNat (Or.inl (by omega))]
  have letter := byte_of_table
    (fun byte => (Char.ofNat byte.toNat).toLower = Char.ofNat (lowerByte byte).toNat)
    (by decide +kernel) byte
  exact (foldChar_ascii _ low).trans letter

/-- In ASCII there is no other case than that of letters. -/
theorem sameFolded_iff_sameLetters (a b : Text) (asciiA : ∀ byte ∈ a, byte < 0x80)
    (asciiB : ∀ byte ∈ b, byte < 0x80) : sameFolded a b = true ↔ SameLetters a b := by
  have injective : ∀ x y : UInt8, Char.ofNat x.toNat = Char.ofNat y.toNat → x = y := by
    intro x y same
    have code := congrArg Char.toNat same
    have boundX := x.toNat_lt
    have boundY := y.toNat_lt
    rw [toNat_ofNat_char _ (Or.inl (by omega)), toNat_ofNat_char _ (Or.inl (by omega))] at code
    exact UInt8.toNat_inj.mp code
  rw [sameFolded, beq_iff_eq, folded_ascii a asciiA, folded_ascii b asciiB, SameLetters]
  exact List.map_inj_right injective

theorem trim_lowered (t : Text) : trim (lowered t) = lowered (trim t) := by
  have blank : Symbol.isBlank ∘ Symbol.lowered = Symbol.isBlank := funext Symbol.isBlank_lowered
  rw [trim, symbols_lowered, List.dropWhile_map, blank, ← List.map_reverse, List.dropWhile_map, blank,
    ← List.map_reverse, ofSymbols_lowered, trim]

theorem mem_lowered (t : Text) (mark : UInt8) (low : mark < 0x41) : mark ∈ lowered t ↔ mark ∈ t := by
  simp only [lowered, List.mem_map, lowerByte_eq_iff _ mark low, exists_eq_right]

theorem toByte?_lowered (t : Text) : toByte? (lowered t) = toByte? t := by
  match t with
  | [] | [_] => rfl
  | [high, low] =>
      simp only [lowered, List.map_cons, List.map_nil, toByte?, hexValue?_lowerByte]
  | _ :: _ :: _ :: _ => rfl

end Text

namespace Listing

theorem stripComment_lowered (line : Text) :
    stripComment (Text.lowered line) = Text.lowered (stripComment line) := by
  have kept : (fun byte => byte != commentSign) ∘ lowerByte = fun byte => byte != commentSign := by
    funext byte
    rw [Function.comp_apply, Bool.eq_iff_iff, bne_iff_ne, bne_iff_ne, ne_eq, ne_eq,
      lowerByte_eq_iff byte commentSign (by decide)]
  rw [stripComment, Text.lowered, List.takeWhile_map, kept, Text.lowered, stripComment]

theorem parse_line_lowered (line : Text) (single : Text.lineFeed ∉ line) :
    parse (Text.lowered line) = parse line := by
  have still : Text.lineFeed ∉ Text.lowered line := by
    rwa [Text.mem_lowered line Text.lineFeed (by decide)]
  rw [parse_line _ still, parse_line line single, stripComment_lowered, Text.trim_lowered,
    Text.isEmpty_lowered, Text.upper_lowered]

/-- A listing is read without regard to case. -/
theorem parse_lowered (t : Text) : parse (Text.lowered t) = parse t := by
  induction t using Text.lineInduction with
  | single line single => exact parse_line_lowered line single
  | next line rest single ih =>
      have lines : Text.lowered (line ++ Text.lineFeed :: rest) =
          Text.lowered line ++ Text.lineFeed :: Text.lowered rest := Text.lowered_append _ _
      rw [lines, parse_append_lineFeed, parse_append_lineFeed, parse_line_lowered line single, ih]

end Listing
end Hexaglyph
