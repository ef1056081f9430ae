import Hexaglyph.Text.Basic
set_option autoImplicit false

/-! Cutting lists into pieces, and texts into lines. -/
namespace Hexaglyph.Text

section Pieces

variable {α : Type} (cut : α → Bool)

@[simp] theorem pieces_nil : pieces cut [] = [[]] := rfl

theorem pieces_cut_cons (a : α) (rest : List α) (cuts : cut a = true) :
    pieces cut (a :: rest) = [] :: pieces cut rest := by
  rw [pieces, if_pos cuts]

theorem pieces_ne_nil (xs : List α) : pieces cut xs ≠ [] := by
  cases xs with
  | nil => simp
  | cons a rest =>
      rw [pieces]
      split
      · simp
      · split <;> simp

theorem pieces_keep_cons (a : α) (rest first : List α) (others : List (List α))
    (keeps : cut a = false) (split : pieces cut rest = first :: others) :
    pieces cut (a :: rest) = (a :: first) :: others := by
  rw [pieces, if_neg (by simp [keeps]), split]

/-- Everything about pieces follows from this: a cut separates them. -/
theorem pieces_append_cut (xs : List α) (a : α) (ys : List α) (cuts : cut a = true) :
    pieces cut (xs ++ a :: ys) = pieces cut xs ++ pieces cut ys := by
  induction xs with
  | nil => exact pieces_cut_cons cut a ys cuts
  | cons x rest ih =>
      by_cases first : cut x = true
      · rw [List.cons_append, pieces_cut_cons cut x _ first, ih, pieces_cut_cons cut x rest first,
          List.cons_append]
      · have keeps : cut x = false := by simpa using first
        obtain ⟨piece, others, split⟩ := List.exists_cons_of_ne_nil (pieces_ne_nil cut rest)
        rw [split, List.cons_append] at ih
        rw [List.cons_append, pieces_keep_cons cut x _ piece _ keeps ih,
          pieces_keep_cons cut x rest piece others keeps split, List.cons_append]

theorem pieces_whole (xs : List α) (keeps : ∀ x ∈ xs, cut x = false) : pieces cut xs = [xs] := by
  induction xs with
  | nil => rfl
  | cons x rest ih =>
      have others := ih fun y member => keeps y (List.mem_cons_of_mem x member)
      exact pieces_keep_cons cut x rest rest [] (keeps x (by simp)) others

theorem keeps_of_mem_pieces (xs piece : List α) (member : piece ∈ pieces cut xs) :
    ∀ x ∈ piece, cut x = false := by
  induction xs generalizing piece with
  | nil =>
      rw [pieces_nil, List.mem_singleton] at member
      simp [member]
  | cons a rest ih =>
      by_cases cuts : cut a = true
      · rw [pieces_cut_cons cut a rest cuts, List.mem_cons] at member
        rcases member with rfl | member
        · simp
        · exact ih piece member
      · have keeps : cut a = false := by simpa using cuts
        obtain ⟨first, others, split⟩ := List.exists_cons_of_ne_nil (pieces_ne_nil cut rest)
        rw [pieces_keep_cons cut a rest first others keeps split, List.mem_cons] at member
        rcases member with rfl | member
        · intro x inside
          rcases List.mem_cons.mp inside with rfl | inside
          · exact keeps
          · exact ih first (by simp [split]) x inside
        · exact ih piece (by simp [split, member])

end Pieces

/-- The lines of two texts with a line feed between them. -/
theorem lines_append_lineFeed (a b : Text) : lines (a ++ lineFeed :: b) = lines a ++ lines b :=
  pieces_append_cut _ a lineFeed b (beq_self_eq_true lineFeed)

theorem lines_whole (t : Text) (single : lineFeed ∉ t) : lines t = [t] := by
  apply pieces_whole
  intro byte member
  exact beq_false_of_ne fun same => single (same ▸ member)

theorem lineFeed_not_mem_line (t line : Text) (member : line ∈ lines t) : lineFeed ∉ line := by
  intro inside
  have keeps := keeps_of_mem_pieces _ t line member lineFeed inside
  simp at keeps

/-- Induction along the lines of a text. -/
@[elab_as_elim]
theorem lineInduction {motive : Text → Prop} (single : ∀ line, lineFeed ∉ line → motive line)
    (next : ∀ line rest, lineFeed ∉ line → motive rest → motive (line ++ lineFeed :: rest))
    (t : Text) : motive t := by
  induction size : t.length using Nat.strongRecOn generalizing t with
  | _ n ih =>
      subst size
      by_cases member : lineFeed ∈ t
      · obtain ⟨line, rest, rfl, absent⟩ := List.eq_append_cons_of_mem member
        refine next line rest absent (ih rest.length ?_ rest rfl)
        rw [List.length_append, List.length_cons]
        omega
      · exact single t member

@[simp] theorem join_nil (separator : Text) : join separator [] = [] := List.intercalate_nil

@[simp] theorem join_singleton (separator part : Text) : join separator [part] = part :=
  List.intercalate_singleton

theorem join_cons (separator first : Text) (rest : List Text) (more : rest ≠ []) :
    join separator (first :: rest) = first ++ (separator ++ join separator rest) := by
  obtain ⟨next, others, rfl⟩ := List.exists_cons_of_ne_nil more
  exact List.intercalate_cons_cons.trans (List.append_assoc ..)

theorem lines_ne_nil (t : Text) : lines t ≠ [] := pieces_ne_nil _ t

/-- The lines of a text are all there is to it. -/
theorem join_lines (t : Text) : join [lineFeed] (lines t) = t := by
  induction t using lineInduction with
  | single line absent => rw [lines_whole line absent, join_singleton]
  | next line rest absent ih =>
      rw [lines_append_lineFeed, lines_whole line absent, List.singleton_append,
        join_cons _ _ _ (lines_ne_nil rest), ih, List.singleton_append]

theorem length_lines (t : Text) : (lines t).length = t.count lineFeed + 1 := by
  induction t using lineInduction with
  | single line absent =>
      rw [lines_whole line absent, List.count_eq_zero.mpr absent]
      rfl
  | next line rest absent ih =>
      rw [lines_append_lineFeed, lines_whole line absent, List.length_append, ih,
        List.count_append, List.count_cons_self, List.count_eq_zero.mpr absent]
      simp only [List.length_singleton]
      omega

def lastLine (t : Text) : Text :=
  (lines t).getLastD []

theorem lastLine_whole (t : Text) (single : lineFeed ∉ t) : lastLine t = t := by
  rw [lastLine, lines_whole t single]
  rfl

theorem lastLine_append_lineFeed (a b : Text) : lastLine (a ++ lineFeed :: b) = lastLine b := by
  obtain ⟨first, others, split⟩ := List.exists_cons_of_ne_nil (pieces_ne_nil (· == lineFeed) b)
  have separate : lines b = first :: others := split
  rw [lastLine, lastLine, lines_append_lineFeed, separate, List.getLastD_eq_getLast?,
    List.getLastD_eq_getLast?, List.getLast?_append, List.getLast?_cons, Option.some_or]

/-- A text has one line, or a last line behind a line feed. -/
theorem last_lineFeed (t : Text) (member : lineFeed ∈ t) :
    ∃ a b, t = a ++ lineFeed :: b ∧ lineFeed ∉ b := by
  obtain ⟨b, a, split, absent⟩ := List.eq_append_cons_of_mem (List.mem_reverse.mpr member)
  refine ⟨a.reverse, b.reverse, ?_, by simpa using absent⟩
  rw [← List.reverse_reverse t, split]
  simp

end Hexaglyph.Text
