import Hexaglyph.Catalog.Builtin
import Hexaglyph.Program.Hover
import Hexaglyph.Proofs.Encoding
import Hexaglyph.Proofs.Tokens
set_option autoImplicit false

/-! What an editor shows under a position. No two tokens share a position, so what is shown belongs
to the one token that covers it, with the line that this token produced. Nothing is shown exactly
where the text has a blank or has ended. -/
namespace Hexaglyph

theorem Catalog.single_of_mem_tokens (c : Catalog) (program : Text) (t : Token)
    (member : t ∈ c.tokens program) : t.range.start.line = t.range.stop.line := by
  obtain ⟨before, after, -, placed, -⟩ := (c.mem_tokens program t).mp member
  rw [placed]
  rfl

theorem Catalog.covers_start (c : Catalog) (program : Text) (t : Token)
    (member : t ∈ c.tokens program) : t.range.covers t.range.start = true := by
  obtain ⟨before, after, found, placed, -⟩ := (c.mem_tokens program t).mp member
  have positive := found.units_pos
  rw [placed, Range.covers, Bool.and_eq_true, Bool.and_eq_true, beq_iff_eq, decide_eq_true_iff,
    decide_eq_true_iff]
  refine ⟨⟨rfl, Int.le_refl _⟩, ?_⟩
  simp only [Range.ofRun]
  omega

theorem Catalog.tokens_disjoint (c : Catalog) (program : Text) :
    (c.tokens program).Pairwise fun t u =>
      ∀ p, ¬ (t.range.covers p = true ∧ u.range.covers p = true) := by
  refine (c.tokens_pairwise program).imp_of_mem ?_
  intro t u member _ apart
  exact t.range.disjoint_of_lt u.range (c.single_of_mem_tokens program t member) apart

namespace Translator

variable (tr : Translator) (program : Text) (index : Nat) (t : Token) (p : Position)

theorem tokenAt_of_covers (placed : (tr.translate program).tokens[index]? = some t)
    (covered : t.range.covers p = true) : (tr.translate program).tokenAt p = some index := by
  obtain ⟨inside, rfl⟩ := List.getElem?_eq_some_iff.mp placed
  apply List.findIdx?_eq_some_iff_getElem.mpr
  refine ⟨inside, covered, ?_⟩
  intro earlier before also
  have apart := List.pairwise_iff_getElem.mp (tr.catalog.tokens_disjoint program)
    earlier index (Nat.lt_trans before inside) inside before
  exact apart p ⟨also, covered⟩

/-- At a position of a token its own description is shown, with the line that it produced. -/
theorem hover_of_covers (placed : (tr.translate program).tokens[index]? = some t)
    (covered : t.range.covers p = true) :
    (tr.translate program).hover p = some (Text.trimFinalLineFeeds
      (Translation.describe t ((tr.translate program).lineFor index))) := by
  rw [Translation.hover, tr.tokenAt_of_covers program index t p placed covered]
  simp only [Option.bind_eq_bind, Option.bind_some, placed, Option.pure_def]

end Translator

/-- Whether a position is on the line of a range and between its columns. -/
def Range.Contains (r : Range) (p : Position) : Prop :=
  p.line = r.start.line ∧ p.line = r.stop.line ∧ r.start.char ≤ p.char ∧ p.char < r.stop.char

theorem Range.covers_iff (r : Range) (p : Position) :
    r.covers p = true ↔ r.start.line = p.line ∧ r.start.char ≤ p.char ∧ p.char < r.stop.char := by
  simp only [covers, Bool.and_eq_true, beq_iff_eq, decide_eq_true_eq, and_assoc]

theorem Range.contains_iff (r : Range) (p : Position) (single : r.start.line = r.stop.line) :
    r.Contains p ↔ r.covers p = true := by
  rw [covers_iff, Contains]
  omega

/-- The place of a symbol that stands at a position: as many columns as it has units. -/
def Range.ofSymbol (here : Position) (s : Symbol) : Range :=
  ⟨here, ⟨here.line, here.char + s.units⟩⟩

/-- The symbol under a position, among symbols over which a cursor moves from another one. -/
def Symbol.under? (p : Position) : Position → List Symbol → Option Symbol
  | _, [] => none
  | here, s :: rest =>
    if (Range.ofSymbol here s).covers p then some s else under? p (here.after s) rest

/-- The symbol of a text under a position; there is none where the text has no units. -/
def Text.symbolAt? (t : Text) (p : Position) : Option Symbol :=
  Symbol.under? p .origin (symbols t)

namespace Symbol

variable (p here : Position)

theorem under?_append (first second : List Symbol) :
    under? p here (first ++ second) =
      (under? p here first).or (under? p (here.afterAll first) second) := by
  induction first generalizing here with
  | nil => rfl
  | cons s rest ih =>
      rw [List.cons_append, under?, under?, ih, Position.afterAll_cons]
      split <;> rfl

theorem mem_of_under? (symbols : List Symbol) (s : Symbol) (found : under? p here symbols = some s) :
    s ∈ symbols := by
  induction symbols generalizing here with
  | nil => cases found
  | cons u rest ih =>
      rw [under?] at found
      split at found
      · cases found
        exact List.mem_cons_self
      · exact List.mem_cons_of_mem u (ih _ found)

/-- On a line without a break the symbols leave no gaps between them. -/
theorem isSome_under? (symbols : List Symbol) (single : .char '\n' ∉ symbols) :
    (under? p here symbols).isSome = (Range.mk here (here.afterAll symbols)).covers p := by
  induction symbols generalizing here with
  | nil =>
      rw [under?, Option.isSome_none, Position.afterAll_nil, Eq.comm, Bool.eq_false_iff, ne_eq,
        Range.covers_iff]
      rintro ⟨-, lower, upper⟩
      exact Int.not_lt.mpr lower upper
  | cons s rest ih =>
      rw [List.mem_cons, not_or] at single
      have rest_eq := ih (here.after s) single.2
      rw [Position.after_other here s (Ne.symm single.1)] at rest_eq
      rw [under?, Position.afterAll_cons, Position.after_other here s (Ne.symm single.1)]
      have width := s.units_pos
      have ends : (Position.mk here.line (here.char + s.units)).afterAll rest =
          ⟨here.line, here.char + s.units + (unitsOf rest : Nat)⟩ :=
        Position.afterAll_single _ rest single.2
      rw [ends] at rest_eq ⊢
      by_cases first : (Range.ofSymbol here s).covers p = true
      · rw [if_pos first, Option.isSome_some, Eq.comm, Range.covers_iff]
        rw [Range.covers_iff] at first
        simp only [Range.ofSymbol] at first ⊢
        omega
      · rw [if_neg first, rest_eq, Bool.eq_iff_iff, Range.covers_iff, Range.covers_iff]
        rw [Range.covers_iff] at first
        simp only [Range.ofSymbol] at first ⊢
        omega

theorem lt_after_of_covers (s : Symbol) (covered : (Range.ofSymbol here s).covers p = true) :
    p < here.after s := by
  obtain ⟨line, -, before⟩ := (Range.covers_iff _ p).mp covered
  rw [Position.lt_iff, ← line]
  by_cases lineFeed : s = .char '\n'
  · rw [lineFeed, Position.after_lineFeed]
    exact Or.inl (Int.lt_succ here.line)
  · rw [Position.after_other here s lineFeed]
    exact Or.inr ⟨rfl, before⟩

end Symbol

namespace Word

theorem not_lt_of_covers (here p : Position) (symbols : List Symbol) (w : Word)
    (member : w ∈ scan here none symbols) (covered : w.range.covers p = true) : ¬ p < here := by
  obtain ⟨before, after, -, -, placed⟩ := (mem_scan here symbols w).mp member
  have reached : here = w.range.start ∨ here < w.range.start := by
    rw [placed]
    by_cases empty : before = []
    · exact Or.inl (by rw [empty, Position.afterAll_nil])
    · exact Or.inr (Position.lt_afterAll here before empty)
  rw [Range.covers_iff] at covered
  rw [Position.lt_iff]
  rcases reached with same | before
  · rw [same]
    omega
  · rw [Position.lt_iff] at before
    omega

/-- A word covers exactly the positions of symbols that are no blanks. -/
theorem covers_iff_under? (p here : Position) (symbols : List Symbol) :
    (∃ w ∈ scan here none symbols, w.range.covers p = true) ↔
      ∃ s, Symbol.under? p here symbols = some s ∧ s.isBlank = false := by
  induction symbols using runInduction generalizing here with
  | nil => simp [Symbol.under?]
  | blank s rest blank ih =>
      rw [scan_blank_cons here s rest blank, Symbol.under?]
      split
      · -- Under a blank there is no word: all that follow begin behind it.
        rename_i covered
        have behind := Symbol.lt_after_of_covers p here s covered
        constructor
        · rintro ⟨w, member, also⟩
          exact absurd behind (not_lt_of_covers _ p rest w member also)
        · rintro ⟨u, found, solid⟩
          cases found
          rw [blank] at solid
          cases solid
      · exact ih (here.after s)
  | run run rest longest ih =>
      have single : .char '\n' ∉ run := by
        intro member
        have solid := longest.solid _ member
        rw [Symbol.lineFeed_isBlank] at solid
        cases solid
      have whole := Symbol.isSome_under? p here run single
      rw [scan_run here run rest longest, Symbol.under?_append]
      cases found : Symbol.under? p here run with
      | some s =>
          rw [found, Option.isSome_some] at whole
          have solid := longest.solid s (Symbol.mem_of_under? p here run s found)
          exact iff_of_true ⟨_, List.mem_cons_self, whole.symm⟩ ⟨s, rfl, solid⟩
      | none =>
          rw [found, Option.isSome_none] at whole
          rw [Option.none_or, ← ih]
          simp [← whole]

end Word

theorem Text.trimFinalLineFeeds_of_last (front : Text) (byte : UInt8) (other : byte ≠ lineFeed) :
    trimFinalLineFeeds (front ++ [byte]) = front ++ [byte] := by
  rw [trimFinalLineFeeds, List.reverse_concat, List.dropWhile_cons_of_neg (by simpa using other),
    ← List.reverse_concat, List.reverse_reverse]

namespace Translation

theorem encodingNote_eq (line : EncodedLine) :
    encodingNote line = utf8 line.arity.name ++ utf8 ": `" ++ line.hex ++ utf8 "`" := by
  have colon : utf8 ": `" = utf8 ": " ++ utf8 "`" := by decide +kernel
  rw [encodingNote, codeSpan, colon]
  simp only [List.append_assoc]

/-- The description of an instruction ends with the note on the line it is given. -/
theorem note_suffix_describe (t : Token) (i : Instruction) (line : EncodedLine)
    (defined : t.definition = some (.instruction i)) :
    encodingNote line <:+ Text.trimFinalLineFeeds (describe t (some line)) := by
  obtain ⟨front, shape⟩ : ∃ front, describe t (some line) = front ++ encodingNote line := by
    rw [describe, defined]
    exact ⟨_, rfl⟩
  have quote : utf8 "`" = [0x60] := by decide +kernel
  have last : front ++ encodingNote line =
      front ++ (utf8 line.arity.name ++ utf8 ": `" ++ line.hex) ++ [0x60] := by
    rw [encodingNote_eq, quote, List.append_assoc front]
  rw [shape, last, Text.trimFinalLineFeeds_of_last _ _ (by decide), ← last]
  exact List.suffix_append _ _

end Translation

namespace Translator

section

variable (tr : Translator) (program : Text)

theorem tokenAt_eq_some_iff (p : Position) (index : Nat) :
    (tr.translate program).tokenAt p = some index ↔
      ∃ t, (tr.translate program).tokens[index]? = some t ∧ t.range.Contains p := by
  constructor
  · intro found
    obtain ⟨inside, covered, -⟩ := List.findIdx?_eq_some_iff_getElem.mp found
    have member := List.getElem_mem inside
    refine ⟨_, List.getElem?_eq_getElem inside, ?_⟩
    rwa [Range.contains_iff _ p (tr.catalog.single_of_mem_tokens program _ member)]
  · rintro ⟨t, placed, contains⟩
    have single := tr.catalog.single_of_mem_tokens program t (List.mem_of_getElem? placed)
    exact tr.tokenAt_of_covers program index t p placed ((t.range.contains_iff p single).mp contains)

theorem tokenAt_eq_none_iff (p : Position) :
    (tr.translate program).tokenAt p = none ↔
      ∀ t ∈ (tr.translate program).tokens, ¬ t.range.Contains p := by
  rw [Translation.tokenAt, List.findIdx?_eq_none_iff]
  refine forall₂_congr fun t member => ?_
  rw [t.range.contains_iff p (tr.catalog.single_of_mem_tokens program t member), Bool.not_eq_true]

theorem hover_eq_none_iff (p : Position) :
    (tr.translate program).hover p = none ↔ (tr.translate program).tokenAt p = none := by
  constructor
  · intro nothing
    cases found : (tr.translate program).tokenAt p with
    | none => rfl
    | some index =>
        obtain ⟨inside, -⟩ := List.findIdx?_eq_some_iff_getElem.mp found
        rw [Translation.hover, found] at nothing
        simp [List.getElem?_eq_getElem inside] at nothing
  · intro nothing
    rw [Translation.hover, nothing]
    rfl

theorem tokenAt_eq_none_iff_symbolAt? (p : Position) :
    (tr.translate program).tokenAt p = none ↔
      Text.symbolAt? program p = none ∨
        ∃ s, Text.symbolAt? program p = some s ∧ s.isBlank = true := by
  have covered := Word.covers_iff_under? p .origin (Text.symbols program)
  have words : (tr.translate program).tokenAt p = none ↔
      ¬ ∃ w ∈ Word.scan .origin none (Text.symbols program), w.range.covers p = true := by
    rw [Translation.tokenAt, List.findIdx?_eq_none_iff]
    change (∀ t ∈ (Word.scan .origin none (Text.symbols program)).map tr.catalog.token, _) ↔ _
    rw [List.forall_mem_map]
    simp only [not_exists, not_and, Bool.not_eq_true]
    rfl
  rw [words, covered, Text.symbolAt?]
  cases Symbol.under? p .origin (Text.symbols program) with
  | none => simp
  | some s => simp

/-- The line of a token is the one that the encoder made for it. -/
theorem lineFor_instruction (front : List Token) (t : Token) (back : List Token) (i : Instruction)
    (split : (tr.translate program).tokens = front ++ t :: back)
    (defined : t.definition = some (.instruction i)) :
    (tr.translate program).lineFor front.length = some (EncodedLine.encode
      (encodeTokens (.fresh tr.rotation) front).2 front.length t i).1 := by
  have lines : (tr.translate program).lines =
      (encodeTokens (.fresh tr.rotation) (front ++ t :: back)).1 := by
    rw [← split]
    rfl
  rw [Translation.lineFor, lines, encodeTokens, Token.encodeFrom_append]
  simp only [Nat.zero_add, Token.encodeFrom_instruction _ _ t back i defined]
  have earlier : ∀ line ∈ (Token.encodeFrom 0 (.fresh tr.rotation) front).1,
      ¬ (line.token == (front.length : Int)) = true := by
    intro line member
    obtain ⟨n, found⟩ := List.mem_iff_getElem?.mp member
    obtain ⟨offset, u, j, placed, -, encodes⟩ := Token.encodeFrom_line 0 _ front n line found
    have inside := (List.getElem?_eq_some_iff.mp placed).1
    rw [beq_iff_eq, encodes.token]
    omega
  rw [List.find?_append, List.find?_eq_none.mpr earlier, Option.none_or,
    List.find?_cons_of_pos (by rw [beq_iff_eq]; rfl)]
  rfl

theorem exists_lineFor_iff (index : Int) :
    (∃ line, (tr.translate program).lineFor index = some line) ↔
      ∃ (n : Nat) (t : Token), index = n ∧ (tr.translate program).tokens[n]? = some t ∧
        t.role = some .instruction := by
  constructor
  · rintro ⟨line, found⟩
    have member := List.mem_of_find?_eq_some found
    have same := List.find?_some found
    obtain ⟨n, placed⟩ := List.mem_iff_getElem?.mp member
    obtain ⟨offset, t, i, token, defined, encodes⟩ := Token.encodeFrom_line 0 _ _ n line placed
    rw [beq_iff_eq, encodes.token, Nat.zero_add] at same
    exact ⟨offset, t, same.symm, token, t.role_instruction i defined⟩
  · rintro ⟨n, t, rfl, placed, instruction⟩
    obtain ⟨i, defined⟩ := t.instruction_of_role instruction
    obtain ⟨inside, same⟩ := List.getElem?_eq_some_iff.mp placed
    have split : (tr.translate program).tokens =
        (tr.translate program).tokens.take n ++ t :: (tr.translate program).tokens.drop (n + 1) := by
      rw [← same, List.getElem_cons_drop, List.take_append_drop]
    have found := tr.lineFor_instruction program _ t _ i split defined
    rw [List.length_take, Nat.min_eq_left (Nat.le_of_lt inside)] at found
    exact ⟨_, found⟩

end

/-- Under any position of any program, wherever it is: a token is found exactly if it is the one whose
line and columns hold the position, and none if no token does. An index has a line exactly if it is
that of an instruction, and the line is the one made for this token, with the registers that were
next when its turn came. So anywhere on an instruction the text shown ends with the class and the
bytes of its own line; and nothing is shown exactly where the text has a blank or has ended. -/
theorem hover_shows_own_line (tr : Translator) (program : Text) :
    let result := tr.translate program
    (∀ p index, result.tokenAt p = some index ↔
      ∃ t, result.tokens[index]? = some t ∧ t.range.Contains p) ∧
    (∀ p, result.tokenAt p = none ↔ ∀ t ∈ result.tokens, ¬ t.range.Contains p) ∧
    (∀ index, (∃ line, result.lineFor index = some line) ↔
      ∃ (n : Nat) (t : Token), index = n ∧ result.tokens[n]? = some t ∧
        t.role = some .instruction) ∧
    (∀ front t back i, result.tokens = front ++ t :: back → t.definition = some (.instruction i) →
      let line := (EncodedLine.encode (encodeTokens (.fresh tr.rotation) front).2 front.length t i).1
      result.lineFor front.length = some line ∧
        ∀ p, t.range.Contains p → ∃ text, result.hover p = some text ∧
          utf8 line.arity.name ++ utf8 ": `" ++ line.hex ++ utf8 "`" <:+ text) ∧
    ∀ p, result.hover p = none ↔ Text.symbolAt? program p = none ∨
      ∃ s, Text.symbolAt? program p = some s ∧ s.isBlank = true := by
  intro result
  refine ⟨tr.tokenAt_eq_some_iff program, tr.tokenAt_eq_none_iff program,
    tr.exists_lineFor_iff program, ?_, ?_⟩
  · intro front t back i split defined line
    have own := tr.lineFor_instruction program front t back i split defined
    refine ⟨own, ?_⟩
    intro p contains
    have placed : result.tokens[front.length]? = some t := by
      rw [split, List.getElem?_append_right (Nat.le_refl _), Nat.sub_self, List.getElem?_cons_zero]
    have single := tr.catalog.single_of_mem_tokens program t (List.mem_of_getElem? placed)
    have shown := tr.hover_of_covers program front.length t p placed
      ((t.range.contains_iff p single).mp contains)
    rw [own] at shown
    rw [← Translation.encodingNote_eq]
    exact ⟨_, shown, Translation.note_suffix_describe t i line defined⟩
  · intro p
    rw [tr.hover_eq_none_iff, tr.tokenAt_eq_none_iff_symbolAt?]

-- The same glyph twice, three columns wide: each has its own register, and the blank between has none.
example :
    let result := (Translator.mk .builtin .standard).translate (utf8 "覗𓆣 覗𓆣")
    [2, 3, 4, 7].map (fun column => (result.hover ⟨0, column⟩).map fun text =>
        text.drop (text.length - 6)) =
      [some (utf8 "`2300`"), none, some (utf8 "`2301`"), none] := by
  decide +kernel

end Translator
end Hexaglyph
