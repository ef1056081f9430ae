import Hexaglyph.Proofs.Diagnostics
set_option autoImplicit false

/-! Places. A range says where a token stands, and nothing is made to depend on it: tokens that stand
elsewhere have the same encoding and the same problems, reported elsewhere. -/
namespace Hexaglyph

def Diagnostic.moved (move : Range → Range) (d : Diagnostic) : Diagnostic :=
  { d with range := move d.range }

/-- The line of a token that stands elsewhere, behind more tokens than before. -/
def EncodedLine.moved (tokens : Int) (move : Range → Range) (l : EncodedLine) : EncodedLine :=
  { l with token := l.token + tokens, range := move l.range }

namespace Token

def moved (move : Range → Range) (t : Token) : Token :=
  { t with range := move t.range }

variable (move : Range → Range)

theorem problem?_moved (t : Token) : (t.moved move).problem? = t.problem?.map (·.moved move) := by
  simp only [problem?, moved]
  split
  · rfl
  · split <;> rfl
  · rfl

/-- A run of the encoder over tokens that stand elsewhere. -/
theorem encodeFrom_moved (index : Nat) (a : Allocator) (program : List Token) (tokens : Nat) :
    encodeFrom (index + tokens) a (program.map (·.moved move)) =
      ((encodeFrom index a program).1.map (·.moved tokens move),
        (encodeFrom index a program).2) := by
  apply encodeFrom_map
  · intro t _
    rfl
  · intro t _ i defined
    refine ⟨i, defined, ?_⟩
    intro a index
    simp only [EncodedLine.encode, EncodedLine.moved, moved, Int.natCast_add]

end Token

namespace Translator

variable (tr : Translator) (program : Text) (move : Range → Range)

theorem lines_moved : (tr.translate program).lines.map (·.moved 0 move) =
    (encodeTokens (.fresh tr.rotation) ((tr.translate program).tokens.map (·.moved move))).1 := by
  have elsewhere := Token.encodeFrom_moved move 0 (.fresh tr.rotation) (tr.catalog.tokens program) 0
  exact (congrArg Prod.fst elsewhere).symm

theorem gloss_moved :
    (tr.translate program).gloss = glossTokens ((tr.translate program).tokens.map (·.moved move)) := by
  rw [glossTokens, List.map_map]
  rfl

theorem diagnostics_moved : (tr.translate program).diagnostics.map (·.moved move) =
    ((tr.translate program).tokens.map (·.moved move)).filterMap Token.problem? := by
  have each := funext fun t : Token => t.problem?_moved move
  rw [translate_diagnostics, List.map_filterMap, List.filterMap_map]
  exact congrArg (fun problem => List.filterMap problem (tr.catalog.tokens program)) each.symm

end Translator
end Hexaglyph
