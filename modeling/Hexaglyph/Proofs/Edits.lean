import Hexaglyph.Catalog.Builtin
import Hexaglyph.Proofs.Conversation
import Hexaglyph.Proofs.Tokens
set_option autoImplicit false

/-! Edits of a text. An editor finds a position by its line, counted in line feeds, and by the UTF-16
units before it in that line. The scanner counts with a cursor that moves over one symbol after the
other. Both mean the same place, so the edit that tidies a document replaces exactly all of it. -/
namespace Hexaglyph

namespace Text

/-- The first line of a text ends with the text or before a line feed. -/
theorem lines_first (t : Text) :
    ∃ first others rest, lines t = first :: others ∧ symbols t = symbols first ++ rest ∧
      ∀ s ∈ rest.head?, s = .char '\n' := by
  by_cases member : lineFeed ∈ t
  · obtain ⟨first, rest, rfl, absent⟩ := List.eq_append_cons_of_mem member
    refine ⟨first, lines rest, .char '\n' :: symbols rest, ?_, ?_, ?_⟩
    · rw [lines_append_lineFeed, lines_whole first absent, List.singleton_append]
    · rw [symbols_append_ascii first _ rest (by decide), Symbol.ascii_lineFeed]
    · exact fun s found => (Option.some.inj found).symm
  · exact ⟨t, [], [], lines_whole t member, (List.append_nil _).symm, by simp⟩

end Text

/-- The beginning of a line that has so many units. There is none if the line is shorter, or if the
number ends within a symbol. -/
def Symbol.front? : Nat → List Symbol → Option (List Symbol)
  | 0, _ => some []
  | _, [] => none
  | units, s :: rest =>
    if s.units ≤ units then (front? (units - s.units) rest).map (s :: ·) else none

theorem Symbol.front?_unitsOf (front back : List Symbol) :
    front? (unitsOf front) (front ++ back) = some front := by
  induction front with
  | nil => simp [unitsOf, front?]
  | cons s rest ih =>
      have positive := s.units_pos
      obtain ⟨n, total⟩ : ∃ n, unitsOf (s :: rest) = n + 1 :=
        ⟨s.units + unitsOf rest - 1, by rw [unitsOf]; omega⟩
      have left : n + 1 - s.units = unitsOf rest := by
        rw [← total, unitsOf]
        omega
      have enough : s.units ≤ n + 1 := by
        rw [← total, unitsOf]
        omega
      rw [total, List.cons_append, front?, if_pos enough, left, ih, Option.map_some]
      · simp

namespace Text

def upTo? (t : Text) (p : Position) : Option Text :=
  if p.line < 0 ∨ p.char < 0 then none
  else do
    let line ← (lines t)[p.line.toNat]?
    let front ← Symbol.front? p.char.toNat (symbols line)
    return join [lineFeed] ((lines t).take p.line.toNat ++ [ofSymbols front])

theorem upTo?_of_lines (t : Text) (before : List Text) (line : Text) (others : List Text)
    (cut : lines t = before ++ line :: others) (front back : List Symbol)
    (split : symbols line = front ++ back) :
    t.upTo? ⟨(before.length : Nat), (Symbol.unitsOf front : Nat)⟩ =
      some (join [lineFeed] (before ++ [ofSymbols front])) := by
  have counted :
      ¬ (((before.length : Nat) : Int) < 0 ∨ ((Symbol.unitsOf front : Nat) : Int) < 0) := by
    omega
  have found : (before ++ line :: others)[before.length]? = some line := by simp
  rw [upTo?, if_neg counted, cut, Int.toNat_natCast, Int.toNat_natCast, found, List.take_left,
    Option.bind_eq_bind, Option.bind_some, split, Symbol.front?_unitsOf]
  rfl

/-- What is read before the first line feed begins the first line. -/
theorem symbols_first_line (t : Text) (front back : List Symbol) (cut : symbols t = front ++ back)
    (single : .char '\n' ∉ front) :
    ∃ first others more, lines t = first :: others ∧ symbols first = front ++ more := by
  obtain ⟨first, others, rest, split, read, ends⟩ := lines_first t
  rw [read] at cut
  rcases List.append_eq_append_iff.mp cut with ⟨more, longer, shorter⟩ | ⟨more, longer, -⟩
  · cases more with
    | nil => exact ⟨first, others, [], split, by rw [longer, List.append_nil, List.append_nil]⟩
    | cons s more =>
        have lineFeed : s = .char '\n' := ends s (by rw [shorter]; rfl)
        exact absurd (by rw [longer, lineFeed]; simp) single
  · exact ⟨first, others, more, split, longer⟩

/-- The text up to a position in the first of the lines that follow others. -/
theorem upTo?_below (above t : Text) (front back : List Symbol) (cut : symbols t = front ++ back)
    (single : .char '\n' ∉ front) :
    (above ++ lineFeed :: t).upTo?
        ⟨(above.count lineFeed + 1 : Nat), (Symbol.unitsOf front : Nat)⟩ =
      some (above ++ lineFeed :: ofSymbols front) := by
  obtain ⟨first, others, more, split, begins⟩ := symbols_first_line t front back cut single
  have lined : lines (above ++ lineFeed :: t) = lines above ++ first :: others := by
    rw [lines_append_lineFeed, split]
  have absent : lineFeed ∉ ofSymbols front := by
    rwa [mem_ascii _ _ (by decide), (symbols_of_append t front back cut).1]
  rw [← length_lines, upTo?_of_lines _ _ first others lined front more begins,
    ← lines_whole _ absent, ← lines_append_lineFeed, join_lines]

/-- Where the cursor stands after some of the symbols, there an editor finds their end. -/
theorem upTo?_afterAll (t : Text) (front back : List Symbol) (cut : symbols t = front ++ back) :
    t.upTo? (Position.origin.afterAll front) = some (ofSymbols front) := by
  obtain ⟨read, -⟩ := symbols_of_append t front back cut
  by_cases single : lineFeed ∈ ofSymbols front
  · -- The cursor stands on the line that follows the last line feed it has passed.
    obtain ⟨above, last, passed, absent⟩ := last_lineFeed _ single
    have whole : t = above ++ lineFeed :: (last ++ ofSymbols back) := by
      rw [← List.cons_append, ← List.append_assoc, ← passed, ← ofSymbols_append, ← cut,
        ofSymbols_symbols]
    have rest : symbols (last ++ ofSymbols back) = symbols last ++ back := by
      rw [← read, passed, whole, symbols_append_ascii _ _ _ (by decide),
        symbols_append_ascii _ _ _ (by decide), List.append_assoc, List.cons_append,
        List.append_cancel_left_eq, List.cons.injEq] at cut
      exact cut.2
    have below := upTo?_below above _ (symbols last) back rest
      (by rwa [← Symbol.ascii_lineFeed, ← mem_ascii last lineFeed (by decide)])
    rw [← whole, ofSymbols_symbols, ← passed, ← units_eq] at below
    rw [← read, Position.afterAll_symbols, read, passed, lastLine_append_lineFeed,
      lastLine_whole last absent, List.count_append, List.count_cons_self,
      List.count_eq_zero.mpr absent, ← passed]
    exact below
  · rw [mem_ascii _ _ (by decide), read, Symbol.ascii_lineFeed] at single
    obtain ⟨first, others, more, split, begins⟩ := symbols_first_line t front back cut single
    have here := upTo?_of_lines t [] first others split front more begins
    rw [List.nil_append, join_singleton] at here
    rw [Position.afterAll_single _ _ single, ← here]
    simp [Position.origin]

end Text

/-- A range of a text and what is to stand there instead. -/
structure TextEdit where
  range : Range
  newText : Text

namespace TextEdit

def toJson (e : TextEdit) : Json :=
  .record [("range", e.range.toJson), ("newText", .string e.newText)]

/-- The text after an edit, if both ends of its range are positions in the text. -/
def applied? (e : TextEdit) (t : Text) : Option Text := do
  let kept ← t.upTo? e.range.start
  let passed ← t.upTo? e.range.stop
  return kept ++ e.newText ++ t.drop passed.length

/-- An edit replaces the symbols that the cursor passes from its start to its stop. -/
theorem applied?_afterAll (t : Text) (before old after : List Symbol)
    (cut : Text.symbols t = before ++ old ++ after) (newText : Text) :
    applied?
        ⟨⟨Position.origin.afterAll before, Position.origin.afterAll (before ++ old)⟩, newText⟩ t =
      some (Text.ofSymbols before ++ newText ++ Text.ofSymbols after) := by
  have whole : t = Text.ofSymbols (before ++ old) ++ Text.ofSymbols after := by
    rw [← Text.ofSymbols_append, ← cut, Text.ofSymbols_symbols]
  have rest : t.drop (Text.ofSymbols (before ++ old)).length = Text.ofSymbols after := by
    rw [whole, List.drop_left]
  rw [applied?, t.upTo?_afterAll before (old ++ after) (by rw [cut, List.append_assoc]),
    t.upTo?_afterAll (before ++ old) after cut]
  simp only [Option.bind_eq_bind, Option.bind_some, rest]
  rfl

end TextEdit

namespace Position

instance : LE Position where
  le p q := p.line < q.line ∨ p.line = q.line ∧ p.char ≤ q.char

theorem le_iff (p q : Position) :
    p ≤ q ↔ p.line < q.line ∨ p.line = q.line ∧ p.char ≤ q.char := Iff.rfl

theorem le_afterAll (p : Position) (symbols : List Symbol) : p ≤ p.afterAll symbols := by
  by_cases nothing : symbols = []
  · rw [nothing, afterAll_nil, le_iff]
    omega
  · have passed := lt_afterAll p symbols nothing
    rw [lt_iff] at passed
    rw [le_iff]
    omega

end Position

/-- A range that does not reach beyond another one at either end. -/
def Range.Within (inner outer : Range) : Prop :=
  outer.start ≤ inner.start ∧ inner.stop ≤ outer.stop

/-- No token reaches beyond the cursor behind the whole program. -/
theorem Catalog.within_of_mem_tokens (c : Catalog) (program : Text) (t : Token)
    (member : t ∈ c.tokens program) :
    t.range.Within ⟨.origin, Position.origin.afterAll (Text.symbols program)⟩ := by
  obtain ⟨before, after, found, placed, -⟩ := (c.mem_tokens program t).mp member
  rw [placed, Range.ofRun_eq _ _ found.longest.solid]
  constructor
  · exact Position.le_afterAll _ _
  · rw [found.symbols, Position.afterAll_append, Position.afterAll_append]
    exact Position.le_afterAll _ _

/-- The extent of a text, counted in lines, ends where the cursor does. -/
theorem Layout.extent_eq (program : Text) :
    extent program = ⟨.origin, Position.origin.afterAll (Text.symbols program)⟩ := by
  rw [Position.afterAll_symbols, extent, Text.length_lines]
  rfl

/-- Before a document is saved, one edit replaces all of it, no more and no less, by the tidy text. It
ends where the scanner stands after the document and goes on if a blank and more text follow. -/
theorem Service.tidy_replaces_document (w : Workshop) (desk : Desk) (message : Json)
    (id : RequestId) (uri : Uri) (asked : Task.ofMessage message = .tidy id uri) :
    let text := ((desk.documents.get? uri).map Document.text).getD []
    ∃ edit : TextEdit,
      (react w desk message).sent = [.result id (.array [edit.toJson])] ∧
      edit.range.start = ⟨0, 0⟩ ∧
      edit.range.stop =
        ⟨(text.count Text.lineFeed : Nat), (Text.units (Text.lastLine text) : Nat)⟩ ∧
      (∀ blank more, blank.isBlank = true →
        Word.scan .origin none (Text.symbols text ++ blank :: more) =
          Word.scan .origin none (Text.symbols text) ++
            Word.scan (edit.range.stop.after blank) none more) ∧
      (∀ c : Catalog, ∀ t ∈ c.tokens text, t.range.Within edit.range) ∧
      edit.newText = Layout.tidy text ∧
      edit.applied? text = some (Layout.tidy text) := by
  intro text
  have extent := Layout.extent_eq text
  refine ⟨⟨Layout.extent text, Layout.tidy text⟩, ?_, rfl, ?_, ?_, ?_, rfl, ?_⟩
  · rw [sent_of_task w desk message _ asked]
    rfl
  · rw [extent, Position.afterAll_symbols]
  · intro blank more ends
    rw [extent]
    exact Word.scan_append_blank .origin none _ blank more ends
  · intro c t member
    rw [extent]
    exact c.within_of_mem_tokens text t member
  · have all := TextEdit.applied?_afterAll text [] (Text.symbols text) [] (by simp)
      (Layout.tidy text)
    rw [extent]
    simpa using all

/-- A text with wide characters, a carriage return, a stray byte, and blanks at its end. -/
def crowdedText : Text :=
  utf8 "𓆣  a\r\n\t" ++ [0xFF] ++ utf8 "𓆣 "

def saving : Json :=
  Method.message .willSaveWaitUntil (some 7) [("textDocument", .record [("uri", .ofString "a")])]

/-- The edit of the crowded text ends behind its last blank, with the wide character counted twice. -/
theorem Service.tidy_replaces_crowdedText :
    let w : Workshop := ⟨⟨.builtin, .standard⟩, 0⟩
    let desk := (opened w .empty ⟨utf8 "a", 1, crowdedText⟩).desk
    ∃ edit : TextEdit, (react w desk saving).sent = [.result (.number 7) (.array [edit.toJson])] ∧
      edit.range = ⟨⟨0, 0⟩, ⟨1, 5⟩⟩ ∧
      edit.applied? crowdedText = some (utf8 "𓆣 a\n" ++ [0xFF] ++ utf8 "𓆣") := by
  intro w desk
  obtain ⟨edit, sent, start, stop, -, -, -, applied⟩ :=
    tidy_replaces_document w desk saving (.number 7) (utf8 "a") (by decide +kernel)
  have kept : ((desk.documents.get? (utf8 "a")).map Document.text).getD [] = crowdedText := rfl
  have tidied : Layout.tidy crowdedText = utf8 "𓆣 a\n" ++ [0xFF] ++ utf8 "𓆣" := by decide +kernel
  have counted : (⟨(crowdedText.count Text.lineFeed : Nat),
      (Text.units (Text.lastLine crowdedText) : Nat)⟩ : Position) = ⟨1, 5⟩ := by
    decide +kernel
  rw [kept] at stop applied
  refine ⟨edit, sent, ?_, applied.trans (congrArg some tidied)⟩
  calc edit.range = ⟨edit.range.start, edit.range.stop⟩ := rfl
    _ = ⟨⟨0, 0⟩, ⟨1, 5⟩⟩ := by rw [start, stop, counted]

end Hexaglyph
