import Hexaglyph.Text.Symbol
set_option autoImplicit false

/-! Reading a text as symbols. No byte is lost, and a text may be read in parts as long as no part
begins in the middle of a character. -/
namespace Hexaglyph

namespace Text

/-- A text begins with a character exactly when the bytes of the character come first. -/
theorem firstChar?_eq_some_iff (t : Text) (c : Char) :
    firstChar? t = some c ↔ String.utf8EncodeChar c <+: t := by
  constructor
  · intro decoded
    obtain ⟨rest, split⟩ := ByteArray.exists_of_utf8DecodeChar?_eq_some decoded
    have bytes := congrArg (fun b => b.data.toList) split
    simp only [List.data_toByteArray, ByteArray.data_append, Array.toList_append] at bytes
    exact List.IsPrefix.trans ⟨_, bytes.symm⟩ (List.take_prefix 4 t)
  · rintro ⟨rest, rfl⟩
    have size : (String.utf8EncodeChar c).length ≤ 4 := by
      rw [String.length_utf8EncodeChar]
      exact c.utf8Size_le_four
    rw [firstChar?, List.take_append, List.take_of_length_le size, List.toByteArray_append]
    exact ByteArray.utf8DecodeChar?_utf8EncodeChar_append

/-- No text begins with two characters. -/
theorem encodeChar_unique (t : Text) (c d : Char) (first : String.utf8EncodeChar c <+: t)
    (second : String.utf8EncodeChar d <+: t) : c = d := by
  rw [← firstChar?_eq_some_iff] at first second
  exact Option.some.inj (first.symm.trans second)

theorem symbolsAfter_eq (skip : Nat) (t : Text) : symbolsAfter skip t = symbols (t.drop skip) := by
  induction skip generalizing t with
  | zero => rfl
  | succ skip ih =>
      cases t with
      | nil => rfl
      | cons byte rest => exact ih rest

@[simp] theorem symbols_nil : symbols [] = [] := rfl

/-- A text that begins with a character is read on after it. -/
@[simp] theorem symbols_encodeChar_append (c : Char) (rest : Text) :
    symbols (String.utf8EncodeChar c ++ rest) = .char c :: symbols rest := by
  have found := (firstChar?_eq_some_iff _ c).mpr (List.prefix_append (String.utf8EncodeChar c) rest)
  have size := String.length_utf8EncodeChar c
  have positive := c.utf8Size_pos
  cases bytes : String.utf8EncodeChar c with
  | nil =>
      rw [bytes, List.length_nil] at size
      omega
  | cons byte others =>
      rw [bytes, List.cons_append] at found
      rw [bytes, List.length_cons] at size
      rw [List.cons_append, symbols, symbolsAfter, found]
      simp only
      rw [symbolsAfter_eq, List.drop_left' (by omega)]

/-- A byte that begins no character is read alone. -/
theorem symbols_stray_cons (byte : UInt8) (rest : Text)
    (stray : ∀ c, ¬ String.utf8EncodeChar c <+: byte :: rest) :
    symbols (byte :: rest) = .stray byte :: symbols rest := by
  have missing : firstChar? (byte :: rest) = none := by
    cases decoded : firstChar? (byte :: rest) with
    | none => rfl
    | some c => exact absurd ((firstChar?_eq_some_iff _ c).mp decoded) (stray c)
  rw [symbols, symbolsAfter, missing]
  rfl

/-- Induction along the symbols of a text. -/
@[elab_as_elim]
theorem symbolInduction {motive : Text → Prop} (nil : motive [])
    (char : ∀ c rest, motive rest → motive (String.utf8EncodeChar c ++ rest))
    (stray : ∀ byte rest, (∀ c, ¬ String.utf8EncodeChar c <+: byte :: rest) → motive rest →
      motive (byte :: rest))
    (t : Text) : motive t := by
  induction size : t.length using Nat.strongRecOn generalizing t with
  | _ n ih =>
      subst size
      cases t with
      | nil => exact nil
      | cons byte rest =>
          by_cases begins : ∃ c, String.utf8EncodeChar c <+: byte :: rest
          · obtain ⟨c, others, split⟩ := begins
            rw [← split]
            refine char c others (ih others.length ?_ others rfl)
            rw [← split, List.length_append, String.length_utf8EncodeChar]
            have positive := c.utf8Size_pos
            omega
          · refine stray byte rest (fun c found => begins ⟨c, found⟩) (ih rest.length ?_ rest rfl)
            exact Nat.lt_succ_self rest.length

@[simp] theorem ofSymbols_nil : ofSymbols [] = [] := rfl

@[simp] theorem ofSymbols_cons (s : Symbol) (rest : List Symbol) :
    ofSymbols (s :: rest) = s.bytes ++ ofSymbols rest := rfl

@[simp] theorem ofSymbols_append (first second : List Symbol) :
    ofSymbols (first ++ second) = ofSymbols first ++ ofSymbols second :=
  List.flatMap_append

/-- No byte is lost. -/
@[simp] theorem ofSymbols_symbols (t : Text) : ofSymbols (symbols t) = t := by
  induction t using symbolInduction with
  | nil => rfl
  | char c rest ih => rw [symbols_encodeChar_append, ofSymbols_cons, ih, Symbol.bytes]
  | stray byte rest stray ih =>
      rw [symbols_stray_cons byte rest stray, ofSymbols_cons, ih, Symbol.bytes]
      rfl

/-- The symbols of a text read the same when the text is cut between two of them. -/
theorem symbols_of_append (t : Text) (first second : List Symbol)
    (cut : symbols t = first ++ second) :
    symbols (ofSymbols first) = first ∧ symbols (ofSymbols second) = second := by
  induction t using symbolInduction generalizing first with
  | nil =>
      obtain ⟨rfl, rfl⟩ := List.append_eq_nil_iff.mp cut.symm
      exact ⟨rfl, rfl⟩
  | char c rest ih =>
      cases first with
      | nil =>
          rw [List.nil_append] at cut
          rw [← cut, ofSymbols_symbols]
          exact ⟨rfl, rfl⟩
      | cons s others =>
          rw [symbols_encodeChar_append, List.cons_append, List.cons.injEq] at cut
          obtain ⟨rfl, cut⟩ := cut
          obtain ⟨front, back⟩ := ih others cut
          rw [ofSymbols_cons, Symbol.bytes, symbols_encodeChar_append, front]
          exact ⟨rfl, back⟩
  | stray byte rest stray ih =>
      cases first with
      | nil =>
          rw [List.nil_append] at cut
          rw [← cut, ofSymbols_symbols]
          exact ⟨rfl, rfl⟩
      | cons s others =>
          rw [symbols_stray_cons byte rest stray, List.cons_append, List.cons.injEq] at cut
          obtain ⟨rfl, cut⟩ := cut
          obtain ⟨front, back⟩ := ih others cut
          -- What is left of the text is shorter, so the byte begins no character there either.
          have shorter : byte :: ofSymbols others <+: byte :: rest := by
            refine List.cons_prefix_cons.mpr ⟨rfl, ofSymbols second, ?_⟩
            rw [← ofSymbols_append, ← cut, ofSymbols_symbols]
          have alone := symbols_stray_cons byte (ofSymbols others)
            (fun c found => stray c (found.trans shorter))
          exact ⟨by rw [ofSymbols_cons, Symbol.bytes, List.singleton_append, alone, front], back⟩

/-- Two texts read the same together as apart, unless the second begins in the middle of a
character that the first may have left open. -/
theorem symbols_append (a b : Text) (whole : ∀ byte ∈ b.head?, byte.IsUTF8FirstByte) :
    symbols (a ++ b) = symbols a ++ symbols b := by
  induction a using symbolInduction with
  | nil => rfl
  | char c rest ih =>
      rw [List.append_assoc, symbols_encodeChar_append, ih, symbols_encodeChar_append,
        List.cons_append]
  | stray byte rest stray ih =>
      have alone : ∀ c, ¬ String.utf8EncodeChar c <+: byte :: (rest ++ b) := by
        intro c found
        rw [← List.cons_append] at found
        rcases Nat.lt_or_ge (byte :: rest).length (String.utf8EncodeChar c).length with long | short
        · -- The character would reach into the second text, whose first byte it would have inside.
          have shared : b.head? = (String.utf8EncodeChar c)[(byte :: rest).length]? := by
            obtain ⟨others, split⟩ := found
            rw [List.head?_eq_getElem?, ← List.getElem?_append_left long, split,
              List.getElem?_append_right (Nat.le_refl _), Nat.sub_self]
          rw [List.getElem?_eq_getElem long] at shared
          have first := whole _ shared
          rw [UInt8.isUTF8FirstByte_getElem_utf8EncodeChar] at first
          exact absurd first (Nat.succ_ne_zero _)
        · exact stray c (List.prefix_of_prefix_length_le found (List.prefix_append _ b) short)
      rw [List.cons_append, symbols_stray_cons byte (rest ++ b) alone, ih,
        symbols_stray_cons byte rest stray, List.cons_append]

theorem toNat_ofNat_char (n : Nat) (valid : n.isValidChar) : (Char.ofNat n).toNat = n := by
  rw [Char.ofNat, dif_pos valid]
  rfl

/-- A byte below 128 is a character of its own. -/
theorem encodeChar_ascii (byte : UInt8) (ascii : byte < 0x80) :
    String.utf8EncodeChar (Char.ofNat byte.toNat) = [byte] := by
  have small : byte.toNat < 128 := ascii
  have value : (Char.ofNat byte.toNat).toNat = byte.toNat :=
    toNat_ofNat_char byte.toNat (Or.inl (by omega))
  have size : (Char.ofNat byte.toNat).utf8Size = 1 := by
    rw [Char.utf8Size_eq_one_iff, UInt32.le_iff_toNat_le]
    change (Char.ofNat byte.toNat).toNat ≤ 127
    omega
  rw [String.utf8EncodeChar_eq_singleton size]
  congr 1
  apply UInt8.toNat_inj.mp
  rw [UInt32.toNat_toUInt8]
  change (Char.ofNat byte.toNat).toNat % 256 = byte.toNat
  omega

theorem isUTF8FirstByte_ascii (byte : UInt8) (ascii : byte < 0x80) : byte.IsUTF8FirstByte := by
  have inside : 0 < (String.utf8EncodeChar (Char.ofNat byte.toNat)).length := by
    rw [encodeChar_ascii byte ascii]
    exact Nat.one_pos
  have first := (@UInt8.isUTF8FirstByte_getElem_utf8EncodeChar _ 0 inside).mpr rfl
  simpa only [encodeChar_ascii byte ascii, List.getElem_cons_zero] using first

theorem mem_encodeChar_ascii (c : Char) (byte : UInt8) (ascii : byte < 0x80) :
    byte ∈ String.utf8EncodeChar c ↔ c = Char.ofNat byte.toNat := by
  constructor
  · intro member
    obtain ⟨index, inside, found⟩ := List.getElem_of_mem member
    have first := isUTF8FirstByte_ascii byte ascii
    rw [← found, UInt8.isUTF8FirstByte_getElem_utf8EncodeChar] at first
    subst first
    apply encodeChar_unique (String.utf8EncodeChar c) c _ List.prefix_rfl
    rw [encodeChar_ascii byte ascii, List.singleton_prefix_iff_head?_eq_some,
      List.head?_eq_getElem?, List.getElem?_eq_getElem inside, found]
  · rintro rfl
    rw [encodeChar_ascii byte ascii]
    exact List.mem_singleton.mpr rfl

end Text

def Symbol.unitsOf : List Symbol → Nat
  | [] => 0
  | s :: rest => s.units + unitsOf rest

theorem Symbol.length_bytes_pos (s : Symbol) : 0 < s.bytes.length := by
  cases s with
  | char c =>
      rw [bytes, String.length_utf8EncodeChar]
      exact c.utf8Size_pos
  | stray byte => exact Nat.one_pos

def Symbol.ascii (byte : UInt8) : Symbol :=
  .char (Char.ofNat byte.toNat)

namespace Text

theorem symbols_ascii_cons (byte : UInt8) (rest : Text) (ascii : byte < 0x80) :
    symbols (byte :: rest) = .ascii byte :: symbols rest := by
  have encoded := symbols_encodeChar_append (Char.ofNat byte.toNat) rest
  rwa [encodeChar_ascii byte ascii] at encoded

/-- A text can be cut at every byte below 128. -/
theorem symbols_append_ascii (a : Text) (byte : UInt8) (b : Text) (ascii : byte < 0x80) :
    symbols (a ++ byte :: b) = symbols a ++ .ascii byte :: symbols b := by
  rw [symbols_append, symbols_ascii_cons byte b ascii]
  intro first found
  cases found
  exact isUTF8FirstByte_ascii byte ascii

/-- The bytes below 128 in a text are the symbols that they spell. -/
theorem count_ascii (t : Text) (byte : UInt8) (ascii : byte < 0x80) :
    t.count byte = (symbols t).count (.ascii byte) := by
  induction t using symbolInduction with
  | nil => rfl
  | char c rest ih =>
      rw [symbols_encodeChar_append, List.count_append, List.count_cons, ih]
      by_cases same : c = Char.ofNat byte.toNat
      · subst same
        rw [encodeChar_ascii byte ascii]
        simp [Symbol.ascii, Nat.add_comm]
      · rw [List.count_eq_zero.mpr (fun member => same ((mem_encodeChar_ascii c byte ascii).mp member))]
        simp [Symbol.ascii, same]
  | stray first rest stray ih =>
      have other : first ≠ byte := by
        rintro rfl
        apply stray (Char.ofNat first.toNat)
        rw [encodeChar_ascii first ascii]
        exact List.prefix_append [first] rest
      rw [symbols_stray_cons first rest stray, List.count_cons_of_ne other, ih,
        List.count_cons_of_ne (by simp [Symbol.ascii])]

theorem mem_ascii (t : Text) (byte : UInt8) (ascii : byte < 0x80) :
    byte ∈ t ↔ .ascii byte ∈ symbols t := by
  rw [← List.count_pos_iff, count_ascii t byte ascii, List.count_pos_iff]

theorem symbols_ascii (t : Text) (ascii : ∀ byte ∈ t, byte < 0x80) :
    symbols t = t.map Symbol.ascii := by
  induction t with
  | nil => rfl
  | cons byte rest ih =>
      rw [symbols_ascii_cons byte rest (ascii byte (by simp)),
        ih fun other member => ascii other (List.mem_cons_of_mem byte member), List.map_cons]

theorem units_eq (t : Text) : units t = Symbol.unitsOf (symbols t) := by
  rw [units]
  induction symbols t with
  | nil => rfl
  | cons s rest ih => rw [List.foldr_cons, ih, Symbol.unitsOf]

/-- Trimming takes the blanks at both ends and nothing else. -/
theorem trim_spec (t : Text) :
    ∃ front back, symbols t = front ++ (symbols (trim t) ++ back) ∧
      (∀ s ∈ front, s.isBlank = true) ∧ (∀ s ∈ back, s.isBlank = true) ∧
      (∀ s ∈ (symbols (trim t)).head?, s.isBlank = false) ∧
      (∀ s ∈ (symbols (trim t)).getLast?, s.isBlank = false) := by
  let front := (symbols t).takeWhile Symbol.isBlank
  let rest := (symbols t).dropWhile Symbol.isBlank
  let back := (rest.reverse.takeWhile Symbol.isBlank).reverse
  let core := (rest.reverse.dropWhile Symbol.isBlank).reverse
  have first : front ++ rest = symbols t := List.takeWhile_append_dropWhile
  have second : core ++ back = rest := by
    rw [← List.reverse_append, List.takeWhile_append_dropWhile, List.reverse_reverse]
  have split : symbols t = front ++ (core ++ back) := by rw [second, first]
  have kept : symbols (trim t) = core :=
    (symbols_of_append _ core back (symbols_of_append t front _ split).2).1
  refine ⟨front, back, by rw [kept, split], ?_, ?_, ?_, ?_⟩
  · exact List.all_eq_true.mp List.all_takeWhile
  · intro s member
    exact List.all_eq_true.mp List.all_takeWhile s (List.mem_reverse.mp member)
  · intro s found
    have stopped := List.head?_dropWhile_not Symbol.isBlank (symbols t)
    have head : rest.head? = some s := by
      rw [kept] at found
      rw [← second, List.head?_append, Option.mem_def.mp found, Option.some_or]
    rw [head] at stopped
    simpa using stopped
  · intro s found
    have stopped := List.head?_dropWhile_not Symbol.isBlank rest.reverse
    have last : (rest.reverse.dropWhile Symbol.isBlank).head? = some s := by
      rwa [kept, List.getLast?_reverse] at found
    rw [last] at stopped
    simpa using stopped

theorem mem_of_mem_trim (t : Text) (byte : UInt8) (member : byte ∈ trim t) : byte ∈ t := by
  obtain ⟨front, back, split, -⟩ := trim_spec t
  rw [← ofSymbols_symbols t, split, ofSymbols_append, ofSymbols_append, ofSymbols_symbols]
  exact List.mem_append_right _ (List.mem_append_left _ member)

/-- Between blanks a text that neither begins nor ends with one is what trimming leaves. -/
theorem trim_append_blanks (core spaces : Text) (nonempty : core ≠ [])
    (whole : symbols (core ++ spaces) = symbols core ++ symbols spaces)
    (blank : ∀ s ∈ symbols spaces, s.isBlank = true)
    (left : ∀ s ∈ (symbols core).head?, s.isBlank = false)
    (right : ∀ s ∈ (symbols core).getLast?, s.isBlank = false) :
    trim (core ++ spaces) = core := by
  have begun : (symbols core ++ symbols spaces).dropWhile Symbol.isBlank =
      symbols core ++ symbols spaces := by
    cases read : symbols core with
    | nil =>
        rw [← ofSymbols_symbols core, read] at nonempty
        exact absurd rfl nonempty
    | cons s rest =>
        have first := left s (by rw [read]; rfl)
        simp [first]
  have ended : (symbols core).reverse.dropWhile Symbol.isBlank = (symbols core).reverse := by
    cases read : (symbols core).reverse with
    | nil => rfl
    | cons s rest =>
        have last := right s (by rw [List.getLast?_eq_head?_reverse, read]; rfl)
        simp [last]
  have dropped : ∀ s ∈ (symbols spaces).reverse, s.isBlank = true :=
    fun s member => blank s (List.mem_reverse.mp member)
  rw [trim, whole, begun, List.reverse_append, List.dropWhile_append_of_pos dropped, ended,
    List.reverse_reverse, ofSymbols_symbols]

end Text
end Hexaglyph
