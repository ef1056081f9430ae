import Hexaglyph.Proofs.Placement
import Hexaglyph.Proofs.Tokens
set_option autoImplicit false

/-! Programs below each other. The translation of the lower one is the translation it has alone,
moved down, except that its registers come after those of the upper one. -/
namespace Hexaglyph

/-- The line of the same instruction with more tokens and lines of the program before it. -/
def EncodedLine.down (l : EncodedLine) (tokens lines : Int) : EncodedLine :=
  { l with token := l.token + tokens, range := l.range.down lines }

namespace Word

def down (w : Word) (lines : Int) : Word :=
  { w with range := w.range.down lines }

def Open.down (o : Open) (lines : Int) : Open :=
  { o with start := o.start.down lines }

/-- The scanner keeps no line number but the one of its cursor. -/
theorem scan_down (here : Position) (o : Option Open) (symbols : List Symbol) (lines : Int) :
    scan (here.down lines) (o.map (·.down lines)) symbols =
      (scan here o symbols).map (·.down lines) := by
  induction symbols generalizing here o with
  | nil => cases o <;> rfl
  | cons s rest ih =>
      cases o with
      | none =>
          simp only [Option.map_none, scan, Position.after_down]
          split
          · exact ih (here.after s) none
          · exact ih (here.after s) (some ⟨here, [s]⟩)
      | some o =>
          simp only [Option.map_some, scan, Position.after_down]
          split
          · rw [List.map_cons]
            exact congrArg _ (ih (here.after s) none)
          · exact ih (here.after s) (some ⟨o.start, s :: o.soFar⟩)

end Word

/-- The tokens of two programs below each other. -/
theorem Catalog.tokens_append_lineFeed (c : Catalog) (a b : Text) :
    c.tokens (a ++ Text.lineFeed :: b) =
      c.tokens a ++ (c.tokens b).map (·.down (a.count Text.lineFeed + 1 : Nat)) := by
  have seam : (Position.origin.afterAll (Text.symbols a)).after (.char '\n') =
      Position.origin.down (a.count Text.lineFeed + 1 : Nat) := by
    rw [Position.after_lineFeed, Position.afterAll_symbols]
    simp [Position.down, Position.origin]
  have below := Word.scan_down .origin none (Text.symbols b) (a.count Text.lineFeed + 1 : Nat)
  rw [Option.map_none] at below
  rw [tokens, Text.symbols_append_ascii a _ b (by decide), Symbol.ascii_lineFeed,
    Word.scan_append_blank _ _ _ _ _ Symbol.lineFeed_isBlank, seam, below, List.map_append,
    List.map_map, tokens, tokens, List.map_map]
  rfl

namespace Token

theorem problem?_down (t : Token) (lines : Int) :
    (t.down lines).problem? = t.problem?.map (·.down lines) :=
  t.problem?_moved (·.down lines)

/-- Moving down is one way of standing elsewhere. -/
theorem encodeFrom_down (index : Nat) (a : Allocator) (program : List Token) (tokens : Nat)
    (lines : Int) :
    encodeFrom (index + tokens) a (program.map (·.down lines)) =
      ((encodeFrom index a program).1.map (·.down tokens lines), (encodeFrom index a program).2) :=
  encodeFrom_moved (·.down lines) index a program tokens

end Token

/-- The lines of two programs below each other. -/
theorem encodeTokens_append_down (a : Allocator) (upper lower : List Token) (lines : Int) :
    (encodeTokens a (upper ++ lower.map (·.down lines))).1 = (encodeTokens a upper).1 ++
      (encodeTokens ⟨a.rotation, a.drawn + EncodedLine.registersOf (encodeTokens a upper).1⟩ lower).1.map
        (·.down upper.length lines) := by
  simp only [encodeTokens]
  rw [Token.encodeFrom_append]
  simp only [Token.encodeFrom_allocator, Token.encodeFrom_down]

/-- The translation of two programs with a line feed between them. -/
theorem Translator.translate_append_lineFeed (tr : Translator) (a b : Text) :
    let upper := tr.translate a
    let lower := tr.translate b
    let whole := tr.translate (a ++ Text.lineFeed :: b)
    let lines : Int := (a.count Text.lineFeed + 1 : Nat)
    whole.tokens = upper.tokens ++ lower.tokens.map (·.down lines) ∧
      whole.gloss = upper.gloss ++ lower.gloss ∧
      whole.diagnostics = upper.diagnostics ++ lower.diagnostics.map (·.down lines) ∧
      whole.lines = upper.lines ++
        (encodeTokens ⟨tr.rotation, EncodedLine.registersOf upper.lines⟩ lower.tokens).1.map
          (·.down upper.tokens.length lines) := by
  have joined := tr.catalog.tokens_append_lineFeed a b
  refine ⟨joined, ?_, ?_, ?_⟩
  · change glossTokens _ = glossTokens _ ++ glossTokens _
    rw [joined, glossTokens, List.map_append, List.map_map]
    rfl
  · have moved := funext fun t : Token => t.problem?_down (a.count Text.lineFeed + 1 : Nat)
    simp only [translate_diagnostics]
    rw [joined, List.filterMap_append, List.filterMap_map, List.map_filterMap]
    exact congrArg (fun problem => _ ++ List.filterMap problem (tr.catalog.tokens b)) moved
  · change (encodeTokens _ _).1 = _
    rw [joined, encodeTokens_append_down, Allocator.fresh, Nat.zero_add]
    rfl

end Hexaglyph
