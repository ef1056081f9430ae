import Hexaglyph.Proofs.Symbols
import Hexaglyph.Text.LetterCase
set_option autoImplicit false

/-! What upper case leaves alone. No letter turns into a blank or into a mark of a listing, none of
them turns into a letter, and no letter turns into one that would change again. -/
namespace Hexaglyph

namespace CaseRun

/-- Whether a run has nothing between two bounds, neither before nor after it is mapped. -/
def avoids (low high : Nat) (run : CaseRun) : Bool :=
  (decide (run.last < low) || decide (high < run.first)) &&
    (decide (run.target + (run.last - run.first) < low) || decide (high < run.target))

theorem image?_bounds (run : CaseRun) (code image : Nat) (found : run.image? code = some image) :
    (run.first ≤ code ∧ code ≤ run.last) ∧
      run.target ≤ image ∧ image ≤ run.target + (run.last - run.first) := by
  unfold image? at found
  split at found
  · rename_i inside
    simp only [Option.some.injEq] at found
    omega
  · cases found

theorem map_of_between (runs : List CaseRun) (low high : Nat)
    (apart : ∀ run ∈ runs, run.avoids low high = true) (c : Char)
    (between : low ≤ c.toNat ∧ c.toNat ≤ high) : map runs c = c := by
  have missing : runs.findSome? (·.image? c.toNat) = none := by
    rw [List.findSome?_eq_none_iff]
    intro run member
    cases found : run.image? c.toNat with
    | none => rfl
    | some image =>
        have bounds := run.image?_bounds c.toNat image found
        have avoided := apart run member
        simp only [avoids, Bool.and_eq_true, Bool.or_eq_true, decide_eq_true_eq] at avoided
        omega
  rw [map, missing]

/-- What the runs avoid is neither moved nor reached. -/
theorem map_between_iff (runs : List CaseRun) (low high : Nat) (positive : 0 < low)
    (apart : ∀ run ∈ runs, run.avoids low high = true) (c : Char) :
    (low ≤ (map runs c).toNat ∧ (map runs c).toNat ≤ high) ↔ (low ≤ c.toNat ∧ c.toNat ≤ high) := by
  constructor
  · intro between
    rw [map] at between
    split at between
    · rename_i code found
      obtain ⟨run, member, image⟩ := List.exists_of_findSome?_eq_some found
      have bounds := run.image?_bounds c.toNat code image
      have avoided := apart run member
      simp only [avoids, Bool.and_eq_true, Bool.or_eq_true, decide_eq_true_eq] at avoided
      by_cases valid : code.isValidChar
      · rw [Text.toNat_ofNat_char code valid] at between
        omega
      · have zero : (Char.ofNat code).toNat = 0 := by
          rw [Char.ofNat, dif_neg valid]
          rfl
        omega
    · exact between
  · intro between
    rw [map_of_between runs low high apart c between]
    exact between

/-- Whether nothing that a run is mapped to is in another run. They lie apart, or both take every
second place and never the same. -/
def misses (run other : CaseRun) : Bool :=
  Nat.blt other.last run.target || Nat.blt (run.target + (run.last - run.first)) other.first ||
    ((run.step == 2 || run.first == run.last) && other.step == 2 &&
      (run.target + other.first) % 2 == 1)

theorem image?_of_misses (run other : CaseRun) (apart : run.misses other = true) (code image : Nat)
    (found : run.image? code = some image) : other.image? image = none := by
  have bounds := run.image?_bounds code image found
  simp only [misses, Bool.or_eq_true, Bool.and_eq_true, Nat.blt_eq, beq_iff_eq] at apart
  apply if_neg
  rintro ⟨from_first, to_last, places⟩
  rcases apart with (below | above) | ⟨⟨every, second⟩, odd⟩
  · omega
  · omega
  · rw [second] at places
    unfold image? at found
    split at found
    · rename_i inside
      rw [Option.some.injEq] at found
      rcases every with two | alone
      · rw [two] at inside
        omega
      · omega
    · cases found

/-- Runs that miss each other map a character once and for all. -/
theorem map_map (runs : List CaseRun) (positive : ∀ run ∈ runs, 0 < run.first)
    (apart : (runs.all fun run => runs.all run.misses) = true) (c : Char) :
    map runs (map runs c) = map runs c := by
  cases found : runs.findSome? (·.image? c.toNat) with
  | none => simp only [map, found]
  | some code =>
      obtain ⟨run, member, image⟩ := List.exists_of_findSome?_eq_some found
      have missing : runs.findSome? (·.image? (Char.ofNat code).toNat) = none := by
        rw [List.findSome?_eq_none_iff]
        intro other inside
        by_cases valid : code.isValidChar
        · rw [Text.toNat_ofNat_char code valid]
          have missed := List.all_eq_true.mp (List.all_eq_true.mp apart run member) other inside
          exact run.image?_of_misses other missed c.toNat code image
        · -- What is no character becomes the one with code zero, where no run begins.
          have above := positive other inside
          have zero : (Char.ofNat code).toNat = 0 := by
            rw [Char.ofNat, dif_neg valid]
            rfl
          exact if_neg (by omega)
      have once : map runs c = Char.ofNat code := by simp only [map, found]
      rw [once]
      simp only [map, missing]

/-- Of tables with one run below 128 no other run matters there. -/
theorem map_ascii (run : CaseRun) (others : List CaseRun)
    (apart : ∀ other ∈ others, 128 ≤ other.first) (c : Char) (ascii : c.toNat < 128) :
    map (run :: others) c = map [run] c := by
  have missing : others.findSome? (·.image? c.toNat) = none := by
    rw [List.findSome?_eq_none_iff]
    intro other member
    have above := apart other member
    exact if_neg (by omega)
  rw [map, map, List.findSome?_cons, List.findSome?_cons, missing, List.findSome?_nil]

end CaseRun

/-- Folding makes up for upper case. Beyond ASCII there are letters of which this is not true. -/
theorem foldChar_upperChar (c : Char) (ascii : c.toNat < 128) :
    foldChar (upperChar c) = foldChar c := by
  have upper : ∀ d : Char, d.toNat < 128 → upperChar d = CaseRun.map [⟨0x61, 0x7A, 1, 0x41⟩] d :=
    CaseRun.map_ascii _ upperRuns.tail (by decide +kernel)
  have fold : ∀ d : Char, d.toNat < 128 → foldChar d = CaseRun.map [⟨0x41, 0x5A, 1, 0x61⟩] d :=
    CaseRun.map_ascii _ foldRuns.tail (by decide +kernel)
  have all : ∀ code : Fin 128,
      let raised := CaseRun.map [⟨0x61, 0x7A, 1, 0x41⟩] (Char.ofNat code.val)
      raised.toNat < 128 ∧ CaseRun.map [⟨0x41, 0x5A, 1, 0x61⟩] raised =
        CaseRun.map [⟨0x41, 0x5A, 1, 0x61⟩] (Char.ofNat code.val) := by
    decide +kernel
  obtain ⟨small, same⟩ := all ⟨c.toNat, ascii⟩
  rw [Char.ofNat_toNat] at small same
  rw [upper c ascii, fold _ small, fold c ascii, same]

/-- No letter has an upper case that is again a lower case. -/
theorem upperChar_upperChar (c : Char) : upperChar (upperChar c) = upperChar c :=
  CaseRun.map_map upperRuns (by decide +kernel) (by decide +kernel) c

/-- The blanks by the bounds of their code points. -/
def blankBounds : List (Nat × Nat) :=
  [(9, 13), (0x20, 0x20), (0x85, 0x85), (0xA0, 0xA0), (0x1680, 0x1680), (0x2000, 0x200A),
    (0x2028, 0x2029), (0x202F, 0x202F), (0x205F, 0x205F), (0x3000, 0x3000)]

theorem isBlank_iff (c : Char) :
    isBlank c = true ↔ ∃ bounds ∈ blankBounds, bounds.1 ≤ c.toNat ∧ c.toNat ≤ bounds.2 := by
  simp only [isBlank, blankBounds, Bool.or_eq_true, decide_eq_true_eq, beq_iff_eq,
    List.mem_cons, List.not_mem_nil, or_false, exists_eq_or_imp, exists_eq_left]
  omega

theorem blankBounds_pos : ∀ bounds ∈ blankBounds, 0 < bounds.1 := by decide

theorem upperRuns_avoid_blanks :
    ∀ bounds ∈ blankBounds, ∀ run ∈ upperRuns, run.avoids bounds.1 bounds.2 = true := by
  decide +kernel

theorem isBlank_upperChar (c : Char) : isBlank (upperChar c) = isBlank c := by
  rw [Bool.eq_iff_iff, isBlank_iff, isBlank_iff]
  constructor
  · rintro ⟨bounds, member, between⟩
    exact ⟨bounds, member, (CaseRun.map_between_iff _ _ _ (blankBounds_pos bounds member)
      (upperRuns_avoid_blanks bounds member) c).mp between⟩
  · rintro ⟨bounds, member, between⟩
    exact ⟨bounds, member, (CaseRun.map_between_iff _ _ _ (blankBounds_pos bounds member)
      (upperRuns_avoid_blanks bounds member) c).mpr between⟩

/-- A character that no run touches has itself alone as its lower case. -/
theorem upperChar_eq_iff (c d : Char) (positive : 0 < d.toNat)
    (apart : ∀ run ∈ upperRuns, run.avoids d.toNat d.toNat = true) : upperChar c = d ↔ c = d := by
  have moved := CaseRun.map_between_iff upperRuns d.toNat d.toNat positive apart c
  rw [← Char.toNat_inj, ← Char.toNat_inj, upperChar]
  omega

namespace Text

theorem symbols_flatMap_encodeChar {α : Type} (f : α → Char) (xs : List α) :
    symbols (xs.flatMap fun x => String.utf8EncodeChar (f x)) = xs.map fun x => .char (f x) := by
  induction xs with
  | nil => rfl
  | cons x rest ih => rw [List.flatMap_cons, symbols_encodeChar_append, ih, List.map_cons]

theorem symbols_upper (t : Text) :
    symbols (upper t) = (symbols t).map fun s => .char (upperChar s.shown) :=
  symbols_flatMap_encodeChar (fun s : Symbol => upperChar s.shown) (symbols t)

theorem upper_upper (t : Text) : upper (upper t) = upper t := by
  have each : ∀ s : Symbol, upperChar (Symbol.char (upperChar s.shown)).shown = upperChar s.shown :=
    fun s => upperChar_upperChar s.shown
  rw [upper, symbols_upper, List.flatMap_map, upper]
  simp only [each]

theorem upper_eq_nil_iff (t : Text) : upper t = [] ↔ t = [] := by
  constructor
  · intro nothing
    have unread := congrArg symbols nothing
    rw [symbols_upper, symbols_nil, List.map_eq_nil_iff] at unread
    rw [← ofSymbols_symbols t, unread, ofSymbols_nil]
  · rintro rfl
    rfl

theorem sameFolded_upper (t : Text) (ascii : ∀ byte ∈ t, byte < 0x80) :
    sameFolded (upper t) t = true := by
  rw [sameFolded, beq_iff_eq, folded, folded, symbols_upper, symbols_ascii t ascii, List.map_map,
    List.map_map, List.map_map]
  apply List.map_congr_left
  intro byte member
  have small : byte.toNat < 128 := ascii byte member
  have low : (Char.ofNat byte.toNat).toNat < 128 := by
    rw [toNat_ofNat_char byte.toNat (Or.inl (by omega))]
    exact small
  exact foldChar_upperChar _ low

theorem isBlank_upper (s : Symbol) : (Symbol.char (upperChar s.shown)).isBlank = s.isBlank :=
  isBlank_upperChar s.shown

/-- A byte below 128 that no run touches is in a text exactly when it is in its upper case. -/
theorem mem_upper (t : Text) (byte : UInt8) (ascii : byte < 0x80) (positive : 0 < byte)
    (apart : ∀ run ∈ upperRuns, run.avoids byte.toNat byte.toNat = true) :
    byte ∈ upper t ↔ byte ∈ t := by
  have value : (Char.ofNat byte.toNat).toNat = byte.toNat :=
    toNat_ofNat_char byte.toNat (Or.inl (by have small : byte.toNat < 128 := ascii; omega))
  have fixed : ∀ c, upperChar c = Char.ofNat byte.toNat ↔ c = Char.ofNat byte.toNat := by
    intro c
    apply upperChar_eq_iff
    · rw [value]
      exact positive
    · rw [value]
      exact apart
  rw [mem_ascii _ byte ascii, mem_ascii t byte ascii, symbols_upper, List.mem_map]
  constructor
  · rintro ⟨s, member, same⟩
    rw [Symbol.ascii, Symbol.char.injEq, fixed] at same
    cases s with
    | char c =>
        rw [Symbol.shown] at same
        rwa [Symbol.ascii, ← same]
    | stray other =>
        -- The replacement character is far above the bytes in question.
        have code := congrArg Char.toNat same
        rw [value] at code
        have small : byte.toNat < 128 := ascii
        have large : (Symbol.stray other).shown.toNat = 0xFFFD := rfl
        omega
  · intro member
    refine ⟨_, member, ?_⟩
    rw [Symbol.ascii, Symbol.char.injEq]
    exact (fixed _).mpr rfl

end Text
end Hexaglyph
