import Hexaglyph.Program.Position
import Hexaglyph.Proofs.Pieces
import Hexaglyph.Proofs.Symbols
set_option autoImplicit false

/-! Positions as a cursor that moves over symbols, and what it has counted when it stops. -/
namespace Hexaglyph

theorem Symbol.units_pos (s : Symbol) : 0 < s.units := by
  unfold units
  split <;> omega

theorem Symbol.ascii_lineFeed : Symbol.ascii Text.lineFeed = .char '\n' := rfl

namespace Position

/-- Positions are ordered by line, and within a line by column. -/
instance : LT Position where
  lt p q := p.line < q.line ∨ p.line = q.line ∧ p.char < q.char

theorem lt_iff (p q : Position) :
    p < q ↔ p.line < q.line ∨ p.line = q.line ∧ p.char < q.char := Iff.rfl

theorem lt_trans (p q r : Position) (first : p < q) (second : q < r) : p < r := by
  rw [lt_iff] at *
  omega

theorem after_lineFeed (p : Position) : p.after (.char '\n') = ⟨p.line + 1, 0⟩ := by
  rw [after, if_pos rfl]

theorem after_other (p : Position) (s : Symbol) (other : s ≠ .char '\n') :
    p.after s = ⟨p.line, p.char + s.units⟩ := by
  rw [after, if_neg other]

/-- Every symbol moves the cursor on. -/
theorem lt_after (p : Position) (s : Symbol) : p < p.after s := by
  rw [lt_iff]
  by_cases lineFeed : s = .char '\n'
  · subst lineFeed
    rw [after_lineFeed]
    exact Or.inl (Int.lt_succ p.line)
  · have positive := s.units_pos
    rw [after_other p s lineFeed]
    refine Or.inr ⟨rfl, ?_⟩
    change p.char < p.char + s.units
    omega

@[simp] theorem afterAll_nil (p : Position) : p.afterAll [] = p := rfl

@[simp] theorem afterAll_cons (p : Position) (s : Symbol) (rest : List Symbol) :
    p.afterAll (s :: rest) = (p.after s).afterAll rest := rfl

theorem afterAll_append (p : Position) (first second : List Symbol) :
    p.afterAll (first ++ second) = (p.afterAll first).afterAll second :=
  List.foldl_append

theorem lt_afterAll (p : Position) (symbols : List Symbol) (nonempty : symbols ≠ []) :
    p < p.afterAll symbols := by
  induction symbols generalizing p with
  | nil => exact absurd rfl nonempty
  | cons s rest ih =>
      rw [afterAll_cons]
      cases rest with
      | nil => exact lt_after p s
      | cons next others =>
          exact lt_trans _ _ _ (lt_after p s) (ih (p.after s) (List.cons_ne_nil next others))

/-- Without a line feed the cursor stays on its line. -/
theorem afterAll_single (p : Position) (symbols : List Symbol) (single : .char '\n' ∉ symbols) :
    p.afterAll symbols = ⟨p.line, p.char + (Symbol.unitsOf symbols : Nat)⟩ := by
  induction symbols generalizing p with
  | nil => simp [Symbol.unitsOf]
  | cons s rest ih =>
      rw [List.mem_cons, not_or] at single
      rw [afterAll_cons, after_other p s (Ne.symm single.1), ih _ single.2]
      simp only [Symbol.unitsOf, mk.injEq, true_and]
      omega

/-- The lines that the cursor has left are the line feeds behind it. -/
theorem afterAll_line (p : Position) (symbols : List Symbol) :
    (p.afterAll symbols).line = p.line + (symbols.count (.char '\n') : Nat) := by
  induction symbols generalizing p with
  | nil => simp
  | cons s rest ih =>
      rw [afterAll_cons, ih, List.count_cons]
      by_cases lineFeed : s = .char '\n'
      · subst lineFeed
        rw [after_lineFeed]
        simp only [beq_self_eq_true, if_true]
        omega
      · rw [after_other p s lineFeed]
        simp [lineFeed]

/-- The cursor behind a text that was read from the origin. -/
theorem afterAll_symbols (t : Text) :
    origin.afterAll (Text.symbols t) =
      ⟨(t.count Text.lineFeed : Nat), (Text.units (Text.lastLine t) : Nat)⟩ := by
  by_cases member : Text.lineFeed ∈ t
  · obtain ⟨a, b, rfl, absent⟩ := Text.last_lineFeed t member
    have single : .char '\n' ∉ Text.symbols b := by
      rw [← Symbol.ascii_lineFeed, ← Text.mem_ascii b Text.lineFeed (by decide)]
      exact absent
    rw [Text.symbols_append_ascii a _ b (by decide), afterAll_append, afterAll_cons,
      Symbol.ascii_lineFeed, after_lineFeed, afterAll_single _ _ single, afterAll_line,
      Text.lastLine_append_lineFeed, Text.lastLine_whole b absent, Text.units_eq,
      ← Symbol.ascii_lineFeed, ← Text.count_ascii a Text.lineFeed (by decide), List.count_append,
      List.count_cons_self, List.count_eq_zero.mpr absent]
    simp [origin]
  · have single : .char '\n' ∉ Text.symbols t := by
      rw [← Symbol.ascii_lineFeed, ← Text.mem_ascii t Text.lineFeed (by decide)]
      exact member
    rw [afterAll_single _ _ single, Text.lastLine_whole t member, Text.units_eq,
      List.count_eq_zero.mpr member]
    simp [origin]

theorem after_down (p : Position) (lines : Int) (s : Symbol) :
    (p.down lines).after s = (p.after s).down lines := by
  by_cases lineFeed : s = .char '\n'
  · subst lineFeed
    rw [after_lineFeed, after_lineFeed]
    simp only [down, mk.injEq, and_true]
    omega
  · rw [after_other _ s lineFeed, after_other _ s lineFeed]
    rfl

end Position

/-- A range that ends before another begins shares no position with it. -/
theorem Range.disjoint_of_lt (r s : Range) (single : r.start.line = r.stop.line)
    (apart : r.stop < s.start) (p : Position) : ¬ (r.covers p = true ∧ s.covers p = true) := by
  rw [Position.lt_iff] at apart
  simp only [covers, Bool.and_eq_true, beq_iff_eq, decide_eq_true_eq]
  omega

end Hexaglyph
