import Hexaglyph.Catalog.Basic
import Hexaglyph.Program.Position
set_option autoImplicit false

/-! Programs as tokens: each word of the text with its place and its meaning in a catalog. -/
namespace Hexaglyph

/-- A word of a text, by its symbols, with its place. -/
structure Word where
  symbols : List Symbol
  range : Range
deriving DecidableEq

namespace Word

/-- A word that is being read: where it began and its symbols so far, the last one first. -/
structure Open where
  start : Position
  soFar : List Symbol

def Open.close (o : Open) (stop : Position) : Word :=
  ⟨o.soFar.reverse, ⟨o.start, stop⟩⟩

/-- The words of the symbols that stand at a position, with the word that is open there. -/
def scan : Position → Option Open → List Symbol → List Word
  | _, none, [] => []
  | here, some o, [] => [o.close here]
  | here, none, s :: rest =>
    if s.isBlank then scan (here.after s) none rest
    else scan (here.after s) (some ⟨here, [s]⟩) rest
  | here, some o, s :: rest =>
    if s.isBlank then o.close here :: scan (here.after s) none rest
    else scan (here.after s) (some ⟨o.start, s :: o.soFar⟩) rest

end Word

/-- A word of a program with what the catalog says about it. -/
structure Token where
  glyph : Text
  range : Range
  definition : Option Definition
deriving DecidableEq

namespace Token

def role (t : Token) : Option Role :=
  t.definition.map Definition.role

/-- The same token a number of lines further down. -/
def down (t : Token) (lines : Int) : Token :=
  { t with range := t.range.down lines }

end Token

def Catalog.token (c : Catalog) (w : Word) : Token :=
  let glyph := Text.ofSymbols w.symbols
  ⟨glyph, w.range, c.lookup glyph⟩

/-- The tokens of a program. Words the catalog does not know are tokens without a definition. -/
def Catalog.tokens (c : Catalog) (program : Text) : List Token :=
  (Word.scan .origin none (Text.symbols program)).map c.token

end Hexaglyph
