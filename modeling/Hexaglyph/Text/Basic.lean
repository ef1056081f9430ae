set_option autoImplicit false

/-! Byte text. Programs, listings, messages and files are byte lists: most of them hold UTF-8, but
nothing promises it, and every byte that comes in has to be able to go out again. -/
namespace Hexaglyph

/-- A text as the bytes it is stored in. -/
abbrev Text := List UInt8

/-- The UTF-8 bytes of a string. -/
def utf8 (s : String) : Text :=
  s.toUTF8.data.toList

namespace Text

/-- The line feed, the only byte that ends a line. -/
def lineFeed : UInt8 := 0x0A

/-- Cuts a list at every element the test accepts. The cuts are dropped, so a list with `n` of them
has `n + 1` pieces, some of which may be empty. -/
def pieces {α : Type} (cut : α → Bool) : List α → List (List α)
  | [] => [[]]
  | a :: rest =>
    if cut a then [] :: pieces cut rest
    else
      match pieces cut rest with
      | [] => [[a]]
      | first :: others => (a :: first) :: others

/-- The lines of a text, without the line feeds between them. -/
def lines (t : Text) : List Text :=
  pieces (· == lineFeed) t

/-- The texts in order with a separator between neighbours. -/
def join (separator : Text) (parts : List Text) : Text :=
  separator.intercalate parts

/-- A text without the line feeds at its end. -/
def trimFinalLineFeeds (t : Text) : Text :=
  (t.reverse.dropWhile (· == lineFeed)).reverse

/-- Reads bytes as UTF-8 if they are valid. -/
def toString? (t : Text) : Option String :=
  String.fromUTF8? ⟨t.toArray⟩

end Text
end Hexaglyph
