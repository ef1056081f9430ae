import Hexaglyph.Program.Token
import Hexaglyph.Proofs.Positions
set_option autoImplicit false

/-! The tokens of a program are its longest runs without a blank, each at the place where it stands. -/
namespace Hexaglyph

/-- A longest run of symbols without a blank, with what stands before and after it. -/
structure IsRun (before run after : List Symbol) : Prop where
  nonempty : run ≠ []
  solid : ∀ s ∈ run, s.isBlank = false
  left : ∀ s ∈ before.getLast?, s.isBlank = true
  right : ∀ s ∈ after.head?, s.isBlank = true

namespace IsRun

variable {before run after : List Symbol}

theorem strip (front : List Symbol) (longest : IsRun (front ++ before) run after) :
    IsRun before run after where
  nonempty := longest.nonempty
  solid := longest.solid
  left := by
    intro s found
    apply longest.left s
    rw [List.getLast?_append, Option.mem_def.mp found]
    rfl
  right := longest.right

theorem prepend (front : List Symbol) (longest : IsRun before run after)
    (ends : before = [] → ∀ s ∈ front.getLast?, s.isBlank = true) :
    IsRun (front ++ before) run after where
  nonempty := longest.nonempty
  solid := longest.solid
  left := by
    cases before with
    | nil => simpa using ends rfl
    | cons first rest =>
        rw [List.getLast?_append, List.getLast?_cons, Option.some_or, ← List.getLast?_cons]
        exact longest.left
  right := longest.right

/-- A run is all that stands between its beginning and the next blank. -/
theorem takeWhile_eq (longest : IsRun before run after) :
    (run ++ after).takeWhile (fun s => ! s.isBlank) = run := by
  have inside : ∀ s ∈ run, (! s.isBlank) = true := by
    intro s member
    rw [longest.solid s member]
    rfl
  rw [List.takeWhile_append_of_pos inside]
  cases after with
  | nil => simp
  | cons s rest =>
      have blank := longest.right s rfl
      simp [blank]

/-- Behind a blank no run begins at once. -/
theorem before_ne_nil (longest : IsRun before run after)
    (ended : ∀ s ∈ (before ++ (run ++ after)).head?, s.isBlank = true) : before ≠ [] := by
  rintro rfl
  obtain ⟨s, rest, rfl⟩ := List.exists_cons_of_ne_nil longest.nonempty
  have blank := ended s rfl
  rw [longest.solid s (by simp)] at blank
  cases blank

end IsRun

/-- Induction along the blanks and the runs of a text. -/
@[elab_as_elim]
theorem runInduction {motive : List Symbol → Prop} (nil : motive [])
    (blank : ∀ s rest, s.isBlank = true → motive rest → motive (s :: rest))
    (run : ∀ run rest, IsRun [] run rest → motive rest → motive (run ++ rest))
    (symbols : List Symbol) : motive symbols := by
  induction size : symbols.length using Nat.strongRecOn generalizing symbols with
  | _ n ih =>
      subst size
      cases symbols with
      | nil => exact nil
      | cons s rest =>
          by_cases first : s.isBlank = true
          · exact blank s rest first (ih rest.length (Nat.lt_succ_self _) rest rfl)
          · let others := rest.takeWhile fun s => ! s.isBlank
            let behind := rest.dropWhile fun s => ! s.isBlank
            have split : others ++ behind = rest := List.takeWhile_append_dropWhile
            have longest : IsRun [] (s :: others) behind := by
              refine ⟨List.cons_ne_nil s others, ?_, by simp, ?_⟩
              · intro u member
                rcases List.mem_cons.mp member with rfl | member
                · simpa using first
                · simpa using List.all_eq_true.mp List.all_takeWhile u member
              · intro u found
                have stopped := List.head?_dropWhile_not (fun s : Symbol => ! s.isBlank) rest
                rw [found] at stopped
                simpa using stopped
            have shorter : behind.length < (s :: rest).length := by
              rw [← split, List.length_cons, List.length_append]
              omega
            rw [← split, ← List.cons_append]
            exact run (s :: others) behind longest (ih behind.length shorter behind rfl)

namespace Word

@[simp] theorem scan_nil (here : Position) : scan here none [] = [] := rfl

theorem scan_blank_cons (here : Position) (s : Symbol) (rest : List Symbol)
    (blank : s.isBlank = true) : scan here none (s :: rest) = scan (here.after s) none rest := by
  rw [scan, if_pos blank]

theorem scan_open_blank (here : Position) (o : Open) (s : Symbol) (rest : List Symbol)
    (blank : s.isBlank = true) :
    scan here (some o) (s :: rest) = o.close here :: scan (here.after s) none rest := by
  rw [scan, if_pos blank]

/-- An open word takes in symbols up to the next blank. -/
theorem scan_open_append (here : Position) (o : Open) (run rest : List Symbol)
    (solid : ∀ s ∈ run, s.isBlank = false) :
    scan here (some o) (run ++ rest) =
      scan (here.afterAll run) (some ⟨o.start, run.reverse ++ o.soFar⟩) rest := by
  induction run generalizing here o with
  | nil => rfl
  | cons s others ih =>
      have first : s.isBlank = false := solid s (by simp)
      rw [List.cons_append, scan, if_neg (by simp [first]),
        ih _ _ fun u member => solid u (List.mem_cons_of_mem s member)]
      simp

/-- A run is scanned as one word, which spans exactly the run. -/
theorem scan_run (here : Position) (run rest : List Symbol) (longest : IsRun [] run rest) :
    scan here none (run ++ rest) =
      ⟨run, ⟨here, here.afterAll run⟩⟩ :: scan (here.afterAll run) none rest := by
  obtain ⟨s, others, rfl⟩ := List.exists_cons_of_ne_nil longest.nonempty
  have first : s.isBlank = false := longest.solid s (by simp)
  have inside : ∀ u ∈ others, u.isBlank = false :=
    fun u member => longest.solid u (List.mem_cons_of_mem s member)
  rw [List.cons_append, scan, if_neg (by simp [first]), scan_open_append _ _ _ _ inside]
  cases rest with
  | nil => simp [scan, Open.close]
  | cons b rest =>
      have blank : b.isBlank = true := longest.right b rfl
      rw [scan_open_blank _ _ b rest blank, scan_blank_cons _ b rest blank]
      simp [Open.close]

/-- A blank ends what comes before it, so both sides can be scanned apart. -/
theorem scan_append_blank (here : Position) (o : Option Open) (first : List Symbol) (s : Symbol)
    (second : List Symbol) (blank : s.isBlank = true) :
    scan here o (first ++ s :: second) =
      scan here o first ++ scan ((here.afterAll first).after s) none second := by
  induction first generalizing here o with
  | nil =>
      cases o with
      | none => exact scan_blank_cons here s second blank
      | some o => exact scan_open_blank here o s second blank
  | cons u rest ih =>
      cases o with
      | none =>
          rw [List.cons_append, scan, scan]
          split <;> exact ih _ _
      | some o =>
          rw [List.cons_append, scan, scan]
          split
          · rw [ih, List.cons_append, Position.afterAll_cons]
          · exact ih _ _

/-- The words are the pieces between blanks, without the empty ones. -/
theorem scan_symbols (here : Position) (symbols : List Symbol) :
    (scan here none symbols).map Word.symbols =
      (Text.pieces Symbol.isBlank symbols).filter (! ·.isEmpty) := by
  induction symbols using runInduction generalizing here with
  | nil => rfl
  | blank s rest blank ih =>
      rw [scan_blank_cons here s rest blank, ih, Text.pieces_cut_cons _ s rest blank]
      rfl
  | run run rest longest ih =>
      rw [scan_run here run rest longest, List.map_cons, ih]
      cases rest with
      | nil =>
          rw [List.append_nil, Text.pieces_whole _ run longest.solid]
          simp [longest.nonempty]
      | cons b rest =>
          have blank : b.isBlank = true := longest.right b rfl
          rw [Text.pieces_append_cut _ run b rest blank, Text.pieces_cut_cons _ b rest blank,
            Text.pieces_whole _ run longest.solid]
          simp [longest.nonempty]

/-- The words are exactly the longest runs without a blank, at the places that a cursor finds them. -/
theorem mem_scan (here : Position) (symbols : List Symbol) (w : Word) :
    w ∈ scan here none symbols ↔ ∃ before after, symbols = before ++ (w.symbols ++ after) ∧
      IsRun before w.symbols after ∧
      w.range = ⟨here.afterAll before, (here.afterAll before).afterAll w.symbols⟩ := by
  induction symbols using runInduction generalizing here with
  | nil =>
      constructor
      · intro member
        simp at member
      · rintro ⟨before, after, split, longest, -⟩
        have empty := List.append_eq_nil_iff.mp (List.append_eq_nil_iff.mp split.symm).2
        exact absurd empty.1 longest.nonempty
  | blank s rest blank ih =>
      rw [scan_blank_cons here s rest blank, ih]
      constructor
      · rintro ⟨before, after, rfl, longest, placed⟩
        exact ⟨s :: before, after, rfl, longest.prepend [s] (fun _ => by simpa using blank), placed⟩
      · rintro ⟨before, after, split, longest, placed⟩
        have behind : before ≠ [] := longest.before_ne_nil (by rw [← split]; simpa using blank)
        obtain ⟨u, others, rfl⟩ := List.exists_cons_of_ne_nil behind
        rw [List.cons_append, List.cons.injEq] at split
        obtain ⟨rfl, split⟩ := split
        exact ⟨others, after, split, longest.strip [s], placed⟩
  | run run rest first ih =>
      rw [scan_run here run rest first, List.mem_cons, ih]
      constructor
      · rintro (rfl | ⟨before, after, rfl, longest, placed⟩)
        · exact ⟨[], rest, rfl, first, rfl⟩
        · have behind := longest.before_ne_nil first.right
          refine ⟨run ++ before, after, (List.append_assoc ..).symm, ?_, ?_⟩
          · exact longest.prepend run fun empty => absurd empty behind
          · rw [placed, Position.afterAll_append]
      · rintro ⟨before, after, split, longest, placed⟩
        rcases List.append_eq_append_iff.mp split with ⟨gap, rfl, behind⟩ | ⟨part, rfl, inside⟩
        · rw [Position.afterAll_append] at placed
          exact Or.inr ⟨gap, after, behind, longest.strip run, placed⟩
        · -- The run would begin inside the first one, behind a symbol that is no blank.
          have start : before = [] := by
            cases last : before.getLast? with
            | none => exact List.getLast?_eq_none_iff.mp last
            | some s =>
                have blank := longest.left s last
                rw [first.solid s (List.mem_append_left _ (List.mem_of_getLast? last))] at blank
                cases blank
          subst start
          have same : w.symbols = part := by
            rw [← longest.takeWhile_eq, inside]
            exact first.takeWhile_eq
          refine Or.inl ?_
          rw [List.nil_append, ← same]
          cases w
          exact congrArg (Word.mk _) placed

/-- A word ends before the next one begins. -/
theorem scan_pairwise (here : Position) (symbols : List Symbol) :
    (scan here none symbols).Pairwise fun v w => v.range.stop < w.range.start := by
  induction symbols using runInduction generalizing here with
  | nil => exact List.Pairwise.nil
  | blank s rest blank ih =>
      rw [scan_blank_cons here s rest blank]
      exact ih _
  | run run rest first ih =>
      rw [scan_run here run rest first, List.pairwise_cons]
      refine ⟨?_, ih _⟩
      intro w member
      obtain ⟨before, after, rfl, longest, placed⟩ := (mem_scan _ rest w).mp member
      rw [placed]
      exact Position.lt_afterAll _ before (longest.before_ne_nil first.right)

end Word

/-- A longest run of a text without a blank, cut out between symbols of the text. -/
structure Text.HasRun (t before run after : Text) : Prop where
  bytes : t = before ++ run ++ after
  symbols : Text.symbols t = Text.symbols before ++ Text.symbols run ++ Text.symbols after
  longest : IsRun (Text.symbols before) (Text.symbols run) (Text.symbols after)

def Range.ofRun (before run : Text) : Range :=
  let line : Int := (before.count Text.lineFeed : Nat)
  let char : Int := (Text.units (Text.lastLine before) : Nat)
  ⟨⟨line, char⟩, ⟨line, char + (Text.units run : Nat)⟩⟩

theorem Symbol.lineFeed_isBlank : (Symbol.char '\n').isBlank = true := by decide

/-- The cursor of the scanner counts the same. -/
theorem Range.ofRun_eq (before run : Text)
    (solid : ∀ s ∈ Text.symbols run, s.isBlank = false) :
    ofRun before run = ⟨Position.origin.afterAll (Text.symbols before),
      (Position.origin.afterAll (Text.symbols before)).afterAll (Text.symbols run)⟩ := by
  have single : .char '\n' ∉ Text.symbols run := by
    intro member
    have blank := solid _ member
    rw [Symbol.lineFeed_isBlank] at blank
    cases blank
  rw [Position.afterAll_single _ _ single, Position.afterAll_symbols, ← Text.units_eq]
  rfl

theorem Text.symbols_of_split (t : Text) (before run after : List Symbol)
    (split : Text.symbols t = before ++ (run ++ after)) :
    Text.symbols (ofSymbols before) = before ∧ Text.symbols (ofSymbols run) = run ∧
      Text.symbols (ofSymbols after) = after := by
  obtain ⟨front, rest⟩ := symbols_of_append t before (run ++ after) split
  exact ⟨front, symbols_of_append (ofSymbols (run ++ after)) run after rest⟩

/-- A run of the symbols is a run of the text. -/
theorem Text.hasRun_of_symbols (t : Text) (before run after : List Symbol)
    (split : Text.symbols t = before ++ (run ++ after)) (longest : IsRun before run after) :
    HasRun t (ofSymbols before) (ofSymbols run) (ofSymbols after) := by
  obtain ⟨front, middle, back⟩ := symbols_of_split t before run after split
  constructor
  · rw [← ofSymbols_append, ← ofSymbols_append, List.append_assoc, ← split, ofSymbols_symbols]
  · rw [front, middle, back, split, List.append_assoc]
  · rw [front, middle, back]
    exact longest

/-- The tokens are exactly the runs of the program, each with its own place. -/
theorem Catalog.mem_tokens (c : Catalog) (program : Text) (t : Token) :
    t ∈ c.tokens program ↔ ∃ before after, Text.HasRun program before t.glyph after ∧
      t.range = Range.ofRun before t.glyph ∧ t.definition = c.lookup t.glyph := by
  rw [tokens, List.mem_map]
  constructor
  · rintro ⟨w, member, rfl⟩
    obtain ⟨before, after, split, longest, placed⟩ := (Word.mem_scan _ _ w).mp member
    obtain ⟨front, middle, -⟩ := Text.symbols_of_split program before w.symbols after split
    have run := Text.hasRun_of_symbols program before w.symbols after split longest
    refine ⟨Text.ofSymbols before, Text.ofSymbols after, run, ?_, rfl⟩
    change w.range = Range.ofRun (Text.ofSymbols before) (Text.ofSymbols w.symbols)
    rw [Range.ofRun_eq _ _ run.longest.solid, front, middle, placed]
  · rintro ⟨before, after, run, placed, known⟩
    refine ⟨⟨Text.symbols t.glyph, t.range⟩, ?_, ?_⟩
    · rw [Word.mem_scan]
      refine ⟨Text.symbols before, Text.symbols after, ?_, run.longest, ?_⟩
      · rw [run.symbols, List.append_assoc]
      · rw [placed]
        exact Range.ofRun_eq before t.glyph run.longest.solid
    · rw [token, Text.ofSymbols_symbols, ← known]

theorem Catalog.tokens_glyphs (c : Catalog) (program : Text) :
    (c.tokens program).map Token.glyph = Text.words program := by
  rw [tokens, Text.words, ← Word.scan_symbols .origin, List.map_map, List.map_map]
  rfl

theorem Catalog.tokens_pairwise (c : Catalog) (program : Text) :
    (c.tokens program).Pairwise fun t u => t.range.stop < u.range.start := by
  rw [tokens, List.pairwise_map]
  exact Word.scan_pairwise .origin (Text.symbols program)

theorem Text.HasRun.units_pos {t before run after : Text} (found : HasRun t before run after) :
    0 < Text.units run := by
  obtain ⟨s, rest, split⟩ := List.exists_cons_of_ne_nil found.longest.nonempty
  have positive := s.units_pos
  rw [Text.units_eq, split, Symbol.unitsOf]
  omega

/-- The tokens of any program in any catalog: the words of the text in order, which are its longest
runs without a blank, each at the place where it stands. So no range is empty, and each ends before
the next one begins. -/
theorem Catalog.tokens_faithful (c : Catalog) (program : Text) :
    (c.tokens program).map Token.glyph = Text.words program ∧
      (∀ t, t ∈ c.tokens program ↔ ∃ before after, Text.HasRun program before t.glyph after ∧
        t.range = Range.ofRun before t.glyph ∧ t.definition = c.lookup t.glyph) ∧
      (∀ t ∈ c.tokens program, t.range.start < t.range.stop) ∧
      (c.tokens program).Pairwise (fun t u => t.range.stop < u.range.start ∧
        ∀ p, ¬ (t.range.covers p = true ∧ u.range.covers p = true)) := by
  refine ⟨c.tokens_glyphs program, c.mem_tokens program, ?_, ?_⟩
  · intro t member
    obtain ⟨before, after, found, placed, -⟩ := (c.mem_tokens program t).mp member
    have positive := found.units_pos
    rw [placed]
    refine Or.inr ⟨rfl, ?_⟩
    simp only [Range.ofRun]
    omega
  · refine (c.tokens_pairwise program).imp_of_mem ?_
    intro t u member _ apart
    obtain ⟨before, after, -, placed, -⟩ := (c.mem_tokens program t).mp member
    have single : t.range.start.line = t.range.stop.line := by
      rw [placed]
      rfl
    exact ⟨apart, t.range.disjoint_of_lt u.range single apart⟩

end Hexaglyph
