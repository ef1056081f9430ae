import Hexaglyph.Catalog.Document
import Hexaglyph.Program.Layout
import Hexaglyph.Program.Workshop
import Hexaglyph.Proofs.Composition
import Hexaglyph.Proofs.Hover
import Mathlib.Algebra.GroupWithZero.Nat
import Mathlib.Data.List.Chain
set_option autoImplicit false

/-! Tidying a program. The layout cuts lines at bytes and words at symbols, and puts them together
with other blanks than before; the tokens are the same all the same, on the same lines, and only
their columns change. -/
namespace Hexaglyph

theorem isGlyph_iff (t : Text) :
    isGlyph t = true ↔ Text.symbols t ≠ [] ∧ ∀ s ∈ Text.symbols t, s.isBlank = false := by
  have empty : t = [] ↔ Text.symbols t = [] := by
    constructor
    · rintro rfl
      rfl
    · intro nothing
      rw [← Text.ofSymbols_symbols t, nothing]
      rfl
  simp only [isGlyph, Bool.and_eq_true, Bool.not_eq_true', List.isEmpty_eq_false_iff, ne_eq, empty,
    List.any_eq_false, Bool.not_eq_true]

namespace Text

theorem words_eq_scan (here : Position) (t : Text) :
    words t = (Word.scan here none (symbols t)).map fun w => ofSymbols w.symbols := by
  rw [words, ← Word.scan_symbols here, List.map_map]
  rfl

/-- Every word of a text could be a glyph. -/
theorem isGlyph_of_mem_words (t w : Text) (member : w ∈ words t) : isGlyph w = true := by
  rw [words_eq_scan .origin, List.mem_map] at member
  obtain ⟨word, scanned, rfl⟩ := member
  obtain ⟨before, after, split, longest, -⟩ := (Word.mem_scan _ _ word).mp scanned
  obtain ⟨-, read, -⟩ := symbols_of_split t before word.symbols after split
  rw [isGlyph_iff, read]
  exact ⟨longest.nonempty, longest.solid⟩

theorem lineFeed_not_mem_glyph (w : Text) (glyph : isGlyph w = true) : lineFeed ∉ w := by
  intro inside
  rw [mem_ascii w lineFeed (by decide), Symbol.ascii_lineFeed] at inside
  have solid := ((isGlyph_iff w).mp glyph).2 _ inside
  rw [Symbol.lineFeed_isBlank] at solid
  cases solid

def space : UInt8 := 0x20

theorem symbols_join_cons (first : Text) (rest : List Text) (more : rest ≠ []) :
    symbols (join [space] (first :: rest)) =
      symbols first ++ .ascii space :: symbols (join [space] rest) := by
  rw [join_cons [space] first rest more, List.singleton_append]
  exact symbols_append_ascii first space _ (by decide)

theorem symbols_join_last (ws : List Text) (some : ws ≠ []) (glyphs : ∀ w ∈ ws, isGlyph w = true) :
    ∃ front last, symbols (join [space] ws) = front ++ [last] ∧ last.isBlank = false := by
  induction ws with
  | nil => exact absurd rfl some
  | cons w rest ih =>
      by_cases more : rest = []
      · subst more
        obtain ⟨nonempty, solid⟩ := (isGlyph_iff w).mp (glyphs w List.mem_cons_self)
        refine ⟨(symbols w).dropLast, (symbols w).getLast nonempty, ?_, ?_⟩
        · rw [join_singleton, List.dropLast_concat_getLast nonempty]
        · exact solid _ (List.getLast_mem nonempty)
      · obtain ⟨front, last, split, solid⟩ :=
          ih more fun v member => glyphs v (List.mem_cons_of_mem w member)
        refine ⟨symbols w ++ .ascii space :: front, last, ?_, solid⟩
        rw [symbols_join_cons w rest more, split, List.append_assoc, List.cons_append]

theorem length_join (ws : List Text) (some : ws ≠ []) :
    (join [space] ws).length + 1 = (ws.map List.length).sum + ws.length := by
  induction ws with
  | nil => exact absurd rfl some
  | cons w rest ih =>
      by_cases more : rest = []
      · subst more
        simp
      · have others := ih more
        rw [join_cons [space] w rest more]
        simp only [List.length_append, List.length_cons, List.length_nil, List.map_cons,
          List.sum_cons]
        omega

end Text

namespace Word

/-- Words on a line, the first one at a position and every other one a column behind the last. -/
def inRow : Position → List Text → List Word
  | _, [] => []
  | here, w :: rest =>
    let stop := here.afterAll (Text.symbols w)
    ⟨Text.symbols w, ⟨here, stop⟩⟩ :: inRow (stop.after (.ascii Text.space)) rest

theorem scan_join (here : Position) (ws : List Text) (glyphs : ∀ w ∈ ws, isGlyph w = true) :
    scan here none (Text.symbols (Text.join [Text.space] ws)) = inRow here ws := by
  induction ws generalizing here with
  | nil => rfl
  | cons w rest ih =>
      obtain ⟨nonempty, solid⟩ := (isGlyph_iff w).mp (glyphs w List.mem_cons_self)
      have others := fun here => ih here fun v member => glyphs v (List.mem_cons_of_mem w member)
      by_cases more : rest = []
      · subst more
        have alone : IsRun [] (Text.symbols w) [] := ⟨nonempty, solid, by simp, by simp⟩
        have scanned := scan_run here (Text.symbols w) [] alone
        rw [List.append_nil] at scanned
        rw [Text.join_singleton, scanned]
        rfl
      · have blank : (Symbol.ascii Text.space).isBlank = true := by decide
        have longest : IsRun [] (Text.symbols w)
            (.ascii Text.space :: Text.symbols (Text.join [Text.space] rest)) :=
          ⟨nonempty, solid, by simp, by simpa using blank⟩
        rw [Text.symbols_join_cons w rest more, scan_run here _ _ longest,
          scan_blank_cons _ _ _ blank, others]
        rfl

theorem inRow_symbols (here : Position) (ws : List Text) :
    (inRow here ws).map (fun w => Text.ofSymbols w.symbols) = ws := by
  induction ws generalizing here with
  | nil => rfl
  | cons w rest ih => rw [inRow, List.map_cons, ih, Text.ofSymbols_symbols]

end Word

theorem Text.words_join (ws : List Text) (glyphs : ∀ w ∈ ws, isGlyph w = true) :
    words (join [space] ws) = ws := by
  rw [words_eq_scan .origin, Word.scan_join _ ws glyphs, Word.inRow_symbols]

namespace Layout

theorem words_tidyLine (line : Text) : Text.words (tidyLine line) = Text.words line :=
  Text.words_join _ (Text.isGlyph_of_mem_words line)

theorem tidyLine_tidyLine (line : Text) : tidyLine (tidyLine line) = tidyLine line := by
  rw [tidyLine, words_tidyLine, tidyLine]

theorem lineFeed_not_mem_tidyLine (line : Text) : Text.lineFeed ∉ tidyLine line := by
  have glyphs := Text.isGlyph_of_mem_words line
  rw [tidyLine]
  generalize Text.words line = ws at glyphs
  induction ws with
  | nil => simp
  | cons w rest ih =>
      have first := Text.lineFeed_not_mem_glyph w (glyphs w List.mem_cons_self)
      have others := ih fun v member => glyphs v (List.mem_cons_of_mem w member)
      by_cases more : rest = []
      · subst more
        rwa [Text.join_singleton]
      · rw [Text.join_cons _ w rest more]
        simp only [List.mem_append, not_or]
        exact ⟨first, by decide, others⟩

theorem tidy_single (line : Text) (single : Text.lineFeed ∉ line) : tidy line = tidyLine line := by
  rw [tidy, Text.lines_whole line single, List.map_cons, List.map_nil, Text.join_singleton]

theorem tidy_append_lineFeed (line rest : Text) (single : Text.lineFeed ∉ line) :
    tidy (line ++ Text.lineFeed :: rest) = tidyLine line ++ Text.lineFeed :: tidy rest := by
  have more : (Text.lines rest).map tidyLine ≠ [] := by
    simpa using Text.lines_ne_nil rest
  rw [tidy, Text.lines_append_lineFeed, Text.lines_whole line single, List.singleton_append,
    List.map_cons, Text.join_cons _ _ _ more]
  rfl

/-- Lines are tidied one by one. -/
theorem lines_tidy (program : Text) : Text.lines (tidy program) = (Text.lines program).map tidyLine := by
  induction program using Text.lineInduction with
  | single line single =>
      rw [tidy_single line single, Text.lines_whole _ (lineFeed_not_mem_tidyLine line),
        Text.lines_whole line single]
      rfl
  | next line rest single ih =>
      rw [tidy_append_lineFeed line rest single, Text.lines_append_lineFeed, ih,
        Text.lines_append_lineFeed, List.map_append, Text.lines_whole line single,
        Text.lines_whole _ (lineFeed_not_mem_tidyLine line)]
      rfl

theorem tidy_tidy (program : Text) : tidy (tidy program) = tidy program := by
  have again : tidyLine ∘ tidyLine = tidyLine := funext tidyLine_tidyLine
  rw [tidy, lines_tidy, List.map_map, again, tidy]

theorem count_lineFeed_tidy (program : Text) :
    (tidy program).count Text.lineFeed = program.count Text.lineFeed := by
  induction program using Text.lineInduction with
  | single line single =>
      rw [tidy_single line single, List.count_eq_zero.mpr (lineFeed_not_mem_tidyLine line),
        List.count_eq_zero.mpr single]
  | next line rest single ih =>
      rw [tidy_append_lineFeed line rest single, List.count_append, List.count_append,
        List.count_cons_self, List.count_cons_self, ih,
        List.count_eq_zero.mpr (lineFeed_not_mem_tidyLine line), List.count_eq_zero.mpr single]

/-- A word needs a byte behind it for the blank that follows, unless it ends the line. -/
theorem length_words_le (here : Position) (symbols : List Symbol) :
    let ws := (Word.scan here none symbols).map fun w => Text.ofSymbols w.symbols
    let size := (ws.map List.length).sum + ws.length
    size ≤ (Text.ofSymbols symbols).length + 1 ∧
      ((∀ s ∈ symbols.head?, s.isBlank = true) → size ≤ (Text.ofSymbols symbols).length) := by
  induction symbols using runInduction generalizing here with
  | nil => simp
  | blank s rest blank ih =>
      have positive : 0 < s.bytes.length := s.length_bytes_pos
      have others := (ih (here.after s)).1
      rw [Word.scan_blank_cons here s rest blank, Text.ofSymbols_cons, List.length_append]
      constructor
      · omega
      · intro _
        omega
  | run run rest longest ih =>
      have others := (ih (here.afterAll run)).2 longest.right
      have start : ¬ ∀ s ∈ (run ++ rest).head?, s.isBlank = true := by
        intro ended
        exact longest.before_ne_nil ended rfl
      rw [Word.scan_run here run rest longest, Text.ofSymbols_append, List.length_append]
      simp only [List.map_cons, List.sum_cons, List.length_cons]
      refine ⟨?_, fun ended => absurd ended start⟩
      omega

theorem length_tidyLine_le (line : Text) : (tidyLine line).length ≤ line.length := by
  have bound := (length_words_le .origin (Text.symbols line)).1
  rw [← Text.words_eq_scan, Text.ofSymbols_symbols] at bound
  by_cases nothing : Text.words line = []
  · rw [tidyLine, nothing]
    exact Nat.zero_le _
  · have size := Text.length_join (Text.words line) nothing
    change (Text.join [Text.space] (Text.words line)).length ≤ line.length
    omega

theorem length_tidy_le (program : Text) : (tidy program).length ≤ program.length := by
  induction program using Text.lineInduction with
  | single line single =>
      rw [tidy_single line single]
      exact length_tidyLine_le line
  | next line rest single ih =>
      have first := length_tidyLine_le line
      rw [tidy_append_lineFeed line rest single]
      simp only [List.length_append, List.length_cons]
      omega

/-- A tidy line does not end with a blank. -/
theorem getLast?_tidyLine (line : Text) :
    ∀ s ∈ (Text.symbols (tidyLine line)).getLast?, s.isBlank = false := by
  change ∀ s ∈ (Text.symbols (Text.join [Text.space] (Text.words line))).getLast?, s.isBlank = false
  by_cases nothing : Text.words line = []
  · rw [nothing]
    simp
  · obtain ⟨front, last, split, solid⟩ :=
      Text.symbols_join_last (Text.words line) nothing (Text.isGlyph_of_mem_words line)
    rw [split, List.getLast?_concat]
    rintro s ⟨⟩
    exact solid

end Layout

def Range.rows (r : Range) : Range :=
  ⟨⟨r.start.line, 0⟩, ⟨r.stop.line, 0⟩⟩

namespace Catalog

variable (c : Catalog)

theorem line_of_mem_tokens (program : Text) (t : Token) (member : t ∈ c.tokens program) :
    ∃ before, List.Sublist before program ∧ t.range.start.line = (before.count Text.lineFeed : Nat) := by
  obtain ⟨before, after, run, placed, -⟩ := (c.mem_tokens program t).mp member
  refine ⟨before, ?_, by rw [placed]; rfl⟩
  rw [run.bytes, List.append_assoc]
  exact List.sublist_append_left before _

theorem line_nonneg (program : Text) (t : Token) (member : t ∈ c.tokens program) :
    0 ≤ t.range.start.line := by
  obtain ⟨before, -, counted⟩ := c.line_of_mem_tokens program t member
  omega

theorem line_of_single (line : Text) (single : Text.lineFeed ∉ line) (t : Token)
    (member : t ∈ c.tokens line) : t.range.start.line = 0 := by
  obtain ⟨before, part, counted⟩ := c.line_of_mem_tokens line t member
  have absent : before.count Text.lineFeed = 0 :=
    List.count_eq_zero.mpr fun inside => single (part.subset inside)
  omega

/-- Without columns, the tokens of a line are its words. -/
theorem tokens_rows_single (line : Text) (single : Text.lineFeed ∉ line) :
    (c.tokens line).map (·.moved Range.rows) =
      (Text.words line).map fun glyph => ⟨glyph, .zero, c.lookup glyph⟩ := by
  rw [← c.tokens_glyphs line, List.map_map]
  apply List.map_congr_left
  intro t member
  obtain ⟨before, after, -, -, known⟩ := (c.mem_tokens line t).mp member
  have start := c.line_of_single line single t member
  have stop := c.single_of_mem_tokens line t member
  rw [start] at stop
  simp only [Token.moved, Range.rows, start, ← stop, known, Function.comp_apply]
  rfl

/-- Without columns, a program has the same tokens as before. -/
theorem tokens_rows_tidy (program : Text) :
    (c.tokens (Layout.tidy program)).map (·.moved Range.rows) =
      (c.tokens program).map (·.moved Range.rows) := by
  induction program using Text.lineInduction with
  | single line single =>
      rw [Layout.tidy_single line single, c.tokens_rows_single line single,
        c.tokens_rows_single _ (Layout.lineFeed_not_mem_tidyLine line), Layout.words_tidyLine]
  | next line rest single ih =>
      have absent := Layout.lineFeed_not_mem_tidyLine line
      have lower (text : Text) (lines : Int) :
          ((c.tokens text).map (·.down lines)).map (·.moved Range.rows) =
            ((c.tokens text).map (·.moved Range.rows)).map (·.down lines) := by
        rw [List.map_map, List.map_map]
        rfl
      rw [Layout.tidy_append_lineFeed line rest single, c.tokens_append_lineFeed,
        c.tokens_append_lineFeed, List.map_append, List.map_append, lower, lower, ih,
        c.tokens_rows_single line single, c.tokens_rows_single _ absent, Layout.words_tidyLine,
        List.count_eq_zero.mpr single, List.count_eq_zero.mpr absent]

end Catalog

/-- A token that comes next: a column behind the one before it, or first on a line of its own. -/
def Token.Next (t u : Token) : Prop :=
  if t.range.stop.line = u.range.start.line then u.range.start.char = t.range.stop.char + 1
  else u.range.start.char = 0

theorem Token.next_of_space (t u : Token)
    (gap : u.range.start = t.range.stop.after (.ascii Text.space)) : t.Next u := by
  rw [Next, gap, Position.after_other _ _ (by decide), if_pos rfl]
  rfl

/-- Tokens that stand as far to the left as they can. -/
structure Token.Compact (tokens : List Token) : Prop where
  first : ∀ t ∈ tokens.head?, t.range.start.char = 0
  next : tokens.IsChain Token.Next

namespace Catalog

variable (c : Catalog)

theorem head?_inRow (here : Position) (ws : List Text) :
    ∀ t ∈ ((Word.inRow here ws).map c.token).head?, t.range.start = here := by
  cases ws with
  | nil => simp [Word.inRow]
  | cons w rest =>
      rintro t ⟨⟩
      rfl

theorem isChain_inRow (here : Position) (ws : List Text) :
    ((Word.inRow here ws).map c.token).IsChain Token.Next := by
  induction ws generalizing here with
  | nil => exact .nil
  | cons w rest ih =>
      cases rest with
      | nil => exact .singleton _
      | cons v others =>
          exact .cons_cons (Token.next_of_space _ _ rfl) (ih _)

theorem compact_tokens_tidyLine (line : Text) : Token.Compact (c.tokens (Layout.tidyLine line)) := by
  have row : c.tokens (Layout.tidyLine line) =
      (Word.inRow .origin (Text.words line)).map c.token :=
    congrArg (List.map c.token)
      (Word.scan_join .origin (Text.words line) (Text.isGlyph_of_mem_words line))
  rw [row]
  refine ⟨?_, c.isChain_inRow .origin _⟩
  intro t found
  rw [c.head?_inRow .origin _ t found]
  rfl

/-- Compact lines below each other are compact. -/
theorem compact_below (upper lower : Text) (single : Text.lineFeed ∉ upper)
    (above : Token.Compact (c.tokens upper)) (below : Token.Compact (c.tokens lower)) :
    Token.Compact (c.tokens (upper ++ Text.lineFeed :: lower)) := by
  rw [c.tokens_append_lineFeed, List.count_eq_zero.mpr single]
  have first : ∀ u ∈ ((c.tokens lower).map (·.down (0 + 1 : Nat))).head?,
      u.range.start.char = 0 ∧ 0 < u.range.start.line := by
    intro u found
    rw [List.head?_map] at found
    obtain ⟨t, head, rfl⟩ := Option.map_eq_some_iff.mp found
    have positive := c.line_nonneg lower t (List.mem_of_head? head)
    refine ⟨below.first t head, ?_⟩
    change 0 < t.range.start.line + (0 + 1 : Nat)
    omega
  constructor
  · intro t found
    rw [List.head?_append] at found
    cases head : (c.tokens upper).head? with
    | none =>
        rw [head, Option.none_or] at found
        exact (first t found).1
    | some u =>
        rw [head, Option.some_or] at found
        cases found
        exact above.first t head
  · apply List.isChain_append.mpr
    refine ⟨above.next, ?_, ?_⟩
    · rw [List.isChain_map]
      refine below.next.imp ?_
      intro t u next
      simp only [Token.Next, Token.down, Range.down, Position.down, Int.add_left_inj]
      exact next
    · intro t last u head
      have member := List.mem_of_getLast? last
      have line := c.line_of_single upper single t member
      have stop := c.single_of_mem_tokens upper t member
      obtain ⟨begins, later⟩ := first u head
      rw [Token.Next, if_neg (by omega)]
      exact begins

theorem compact_tokens_tidy (program : Text) : Token.Compact (c.tokens (Layout.tidy program)) := by
  induction program using Text.lineInduction with
  | single line single =>
      rw [Layout.tidy_single line single]
      exact c.compact_tokens_tidyLine line
  | next line rest single ih =>
      rw [Layout.tidy_append_lineFeed line rest single]
      exact c.compact_below _ _ (Layout.lineFeed_not_mem_tidyLine line)
        (c.compact_tokens_tidyLine line) ih

end Catalog

/-- Two translations that say the same about the same tokens, which stand on the same lines but maybe
in other columns. -/
structure Translation.Agree (before after : Translation) : Prop where
  tokens : after.tokens.map (·.moved Range.rows) = before.tokens.map (·.moved Range.rows)
  hexLines : after.hexLines = before.hexLines
  gloss : after.gloss = before.gloss
  messages : after.diagnostics.map Diagnostic.message = before.diagnostics.map Diagnostic.message
  hover : ∀ (index : Nat) (t u : Token),
    before.tokens[index]? = some t → after.tokens[index]? = some u →
      ∃ text, before.hover t.range.start = some text ∧ after.hover u.range.start = some text ∧
        (∀ p, t.range.covers p = true → before.hover p = some text) ∧
        (∀ p, u.range.covers p = true → after.hover p = some text)

namespace Translation

variable (move : Range → Range)

theorem hexLines_moved (t : Translation) :
    t.hexLines = (t.lines.map (·.moved 0 move)).map EncodedLine.hex := by
  rw [hexLines, List.map_map]
  rfl

theorem lineFor_moved (t : Translation) (index : Int) :
    (t.lineFor index).map (·.moved 0 move) =
      (t.lines.map (·.moved 0 move)).find? (·.token == index) := by
  have same : (fun l : EncodedLine => l.token == index) ∘ (EncodedLine.moved 0 move) =
      fun l : EncodedLine => l.token == index := by
    funext l
    simp [EncodedLine.moved]
  rw [List.find?_map, same]
  rfl

/-- What is said about a token does not depend on where it stands. -/
theorem describe_moved (t : Token) (line : Option EncodedLine) :
    describe (t.moved move) (line.map (·.moved 0 move)) = describe t line := by
  cases line <;> rfl

end Translation

/-- Programs whose tokens differ in their columns alone. -/
theorem Translator.agree_of_rows (tr : Translator) (a b : Text)
    (same : (tr.translate b).tokens.map (·.moved Range.rows) =
      (tr.translate a).tokens.map (·.moved Range.rows)) :
    Translation.Agree (tr.translate a) (tr.translate b) := by
  have lines : (tr.translate b).lines.map (·.moved 0 Range.rows) =
      (tr.translate a).lines.map (·.moved 0 Range.rows) := by
    rw [lines_moved, lines_moved, same]
  constructor
  · exact same
  · rw [Translation.hexLines_moved Range.rows, lines, ← Translation.hexLines_moved Range.rows]
  · rw [tr.gloss_moved b Range.rows, same, ← tr.gloss_moved a Range.rows]
  · have problems : (tr.translate b).diagnostics.map (·.moved Range.rows) =
        (tr.translate a).diagnostics.map (·.moved Range.rows) := by
      rw [diagnostics_moved, diagnostics_moved, same]
    have messages := congrArg (List.map Diagnostic.message) problems
    rw [List.map_map, List.map_map] at messages
    exact messages
  · intro index t u before after
    have token : u.moved Range.rows = t.moved Range.rows := by
      have found := congrArg (·[index]?) same
      simp only [List.getElem?_map, before, after, Option.map_some, Option.some.injEq] at found
      exact found
    have line : ((tr.translate b).lineFor index).map (·.moved 0 Range.rows) =
        ((tr.translate a).lineFor index).map (·.moved 0 Range.rows) := by
      rw [Translation.lineFor_moved, Translation.lineFor_moved, lines]
    have described : Translation.describe u ((tr.translate b).lineFor index) =
        Translation.describe t ((tr.translate a).lineFor index) := by
      rw [← Translation.describe_moved Range.rows u, token, line, Translation.describe_moved]
    have first := fun p => tr.hover_of_covers a index t p before
    have second := fun p => tr.hover_of_covers b index u p after
    rw [described] at second
    exact ⟨_, first _ (tr.catalog.covers_start a t (List.mem_of_getElem? before)),
      second _ (tr.catalog.covers_start b u (List.mem_of_getElem? after)), first, second⟩

/-- Tidying a program changes nothing that it means. The tokens stay on their lines and move to the
left as far as they can, no blank is left at the end of a line, the program does not grow, and it
is tidy from then on. -/
theorem Translator.translate_tidy (tr : Translator) (program : Text) :
    let tidied := Layout.tidy program
    (tr.translate program).Agree (tr.translate tidied) ∧
      tidied.count Text.lineFeed = program.count Text.lineFeed ∧
      Token.Compact (tr.translate tidied).tokens ∧
      (∀ line ∈ Text.lines tidied, ∀ s ∈ (Text.symbols line).getLast?, s.isBlank = false) ∧
      tidied.length ≤ program.length ∧
      (∀ w : Workshop, w.tooLarge program = false → w.tooLarge tidied = false) ∧
      Layout.tidy tidied = tidied := by
  intro tidied
  have shorter : tidied.length ≤ program.length := Layout.length_tidy_le program
  refine ⟨tr.agree_of_rows program tidied (tr.catalog.tokens_rows_tidy program),
    Layout.count_lineFeed_tidy program, tr.catalog.compact_tokens_tidy program, ?_, shorter, ?_,
    Layout.tidy_tidy program⟩
  · intro line member
    rw [Layout.lines_tidy, List.mem_map] at member
    obtain ⟨untidy, -, rfl⟩ := member
    exact Layout.getLast?_tidyLine untidy
  · intro w accepted
    simp only [Workshop.tooLarge, Bool.and_eq_false_iff, decide_eq_false_iff_not] at accepted ⊢
    omega

end Hexaglyph
