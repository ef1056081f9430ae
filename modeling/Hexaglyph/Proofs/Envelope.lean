import Hexaglyph.Proofs.Digits
import Hexaglyph.Proofs.Hosts
import Hexaglyph.Proofs.LetterCase
import Mathlib.Algebra.GroupWithZero.Nat
set_option autoImplicit false

/-! Programs in the frames of a socket. A frame holds a program as a JSON string, in which some
characters take more bytes than in the program. The frame has room for what stands around the string,
but not for all that escaping may add. -/
namespace Hexaglyph

theorem utf8_eq (s : String) : utf8 s = s.toList.flatMap String.utf8EncodeChar := by
  rw [utf8, String.toUTF8, ← String.utf8Encode_toList, List.utf8Encode, List.data_toByteArray]

theorem Text.mend_utf8 (s : String) : Text.mend (utf8 s) = utf8 s := by
  have read : Text.symbols (utf8 s) = s.toList.map .char := by
    rw [utf8_eq]
    exact Text.symbols_flatMap_encodeChar id s.toList
  rw [Text.mend, read, List.flatMap_map, utf8_eq]
  rfl

namespace Json

/-- Whether a character cannot stand for itself in a string: a quote, a backslash, or a control. -/
def mustEscape (c : Char) : Bool :=
  c.toNat == 0x22 || c.toNat == 0x5C || decide (c.toNat < 0x20)

/-- A character in a string that escapes nothing without need. -/
def plainChar (c : Char) : Text :=
  if mustEscape c then escapedChar c else String.utf8EncodeChar c

/-- The bytes that escaping adds to a character. -/
def escapeCost (c : Char) : Nat :=
  if c.toNat ∈ [0x22, 0x5C, 0x08, 0x09, 0x0A, 0x0C, 0x0D] then 1
  else if c.toNat < 0x20 then 5
  else 0

/-- A character is escaped by a letter of its own, or by its number. -/
theorem escapedChar_forms (c : Char) (must : mustEscape c = true) :
    (escapeCost c = 1 ∧ ∃ letter byte, escapedChar c = [0x5C, letter] ∧ letter ≠ 0x75 ∧
      escapeByte? letter = some byte ∧ String.utf8EncodeChar c = [byte]) ∨
    (escapeCost c = 5 ∧ c.toNat < 0x20 ∧
      escapedChar c = [0x5C, 0x75] ++ Text.ofHex .lower 4 c.toNat) := by
  have code : c = Char.ofNat c.toNat := (Char.ofNat_toNat c).symm
  by_cases short : c.toNat ∈ [0x22, 0x5C, 0x08, 0x09, 0x0A, 0x0C, 0x0D]
  · refine Or.inl ⟨if_pos short, ?_⟩
    simp only [List.mem_cons, List.not_mem_nil, or_false] at short
    rcases short with h | h | h | h | h | h | h
    all_goals
      rw [h] at code
      subst code
      exact ⟨_, _, rfl, by decide, rfl, rfl⟩
  · have control : c.toNat < 0x20 := by
      simp only [mustEscape, Bool.or_eq_true, beq_iff_eq, decide_eq_true_eq] at must
      simp only [List.mem_cons, not_or] at short
      omega
    refine Or.inr ⟨?_, control, ?_⟩
    · rw [escapeCost, if_neg short, if_pos control]
    · simp only [List.mem_cons, not_or] at short
      rw [escapedChar]
      split
      case h_8 =>
        rw [if_pos (Or.inl control)]
        rfl
      all_goals omega

theorem escapeCost_of_plain (c : Char) (plain : mustEscape c = false) : escapeCost c = 0 := by
  simp only [mustEscape, Bool.or_eq_false_iff, beq_eq_false_iff_ne, decide_eq_false_iff_not] at plain
  have long : c.toNat ∉ [0x22, 0x5C, 0x08, 0x09, 0x0A, 0x0C, 0x0D] := by
    simp only [List.mem_cons, List.not_mem_nil, or_false, not_or]
    omega
  rw [escapeCost, if_neg long, if_neg plain.2]

theorem length_plainChar (c : Char) :
    (plainChar c).length = (String.utf8EncodeChar c).length + escapeCost c := by
  by_cases must : mustEscape c = true
  · rw [plainChar, if_pos must]
    obtain ⟨cost, letter, byte, escaped, -, -, encoded⟩ | ⟨cost, control, escaped⟩ :=
      escapedChar_forms c must
    · rw [escaped, encoded, cost]
      rfl
    · have ascii : c.utf8Size = 1 := by
        rw [Char.utf8Size_eq_one_iff, UInt32.le_iff_toNat_le]
        change c.toNat ≤ 127
        omega
      rw [escaped, String.length_utf8EncodeChar, ascii, cost]
      rfl
  · rw [plainChar, if_neg must, escapeCost_of_plain c (by simpa using must), Nat.add_zero]

theorem assemble_bytes (bytes : Text) (rest : List Piece) :
    assemble (bytes.map .byte ++ rest) = bytes ++ assemble rest := by
  induction bytes with
  | nil => rfl
  | cons b others ih => rw [List.map_cons, List.cons_append, assemble, ih, List.cons_append]

/-- A unit below the surrogates is a character of its own, whatever follows it. -/
theorem assemble_unit (u : Nat) (rest : List Piece) (low : u < 0xD800) :
    assemble (.unit u :: rest) = String.utf8EncodeChar (Char.ofNat u) ++ assemble rest := by
  have high : isHighSurrogate u = false := by
    simp only [isHighSurrogate, Bool.and_eq_false_iff, decide_eq_false_iff_not]
    omega
  have alone : unitChar u = Char.ofNat u := by
    have lower : isLowSurrogate u = false := by
      simp only [isLowSurrogate, Bool.and_eq_false_iff, decide_eq_false_iff_not]
      omega
    rw [unitChar, high, lower]
    rfl
  rw [← alone]
  cases rest with
  | nil => rfl
  | cons piece others =>
      cases piece with
      | byte b => rfl
      | unit next =>
          rw [assemble, high]
          rfl

/-- Bytes that mean nothing else inside a string stand for themselves. -/
theorem scan_bytes (bytes : Text) (plain : ∀ b ∈ bytes, b ≠ 0x22 ∧ b ≠ 0x5C ∧ ¬ b < 0x20)
    (soFar : List Piece) (done : List Lexeme) :
    bytes.foldlM Scan.step ⟨.inString soFar, done⟩ =
      some ⟨.inString ((bytes.map .byte).reverse ++ soFar), done⟩ := by
  induction bytes generalizing soFar with
  | nil => rfl
  | cons b rest ih =>
      obtain ⟨quote, backslash, control⟩ := plain b List.mem_cons_self
      have step : Scan.step ⟨.inString soFar, done⟩ b = some ⟨.inString (.byte b :: soFar), done⟩ := by
        simp only [Scan.step, beq_iff_eq, quote, backslash, control, ↓reduceIte]
      rw [List.foldlM_cons, step]
      simp only [Option.bind_eq_bind, Option.bind_some]
      rw [ih fun other member => plain other (List.mem_cons_of_mem b member)]
      simp

theorem scan_letter (letter byte : UInt8) (other : letter ≠ 0x75)
    (known : escapeByte? letter = some byte) (soFar : List Piece) (done : List Lexeme) :
    List.foldlM Scan.step ⟨.inString soFar, done⟩ [0x5C, letter] =
      some ⟨.inString (.byte byte :: soFar), done⟩ := by
  have second : Scan.step ⟨.inEscape soFar, done⟩ letter =
      some ⟨.inString (.byte byte :: soFar), done⟩ := by
    simp only [Scan.step, beq_iff_eq, other, known, ↓reduceIte, Option.map_some]
  have first : Scan.step ⟨.inString soFar, done⟩ 0x5C = some ⟨.inEscape soFar, done⟩ := rfl
  simp only [List.foldlM_cons, List.foldlM_nil, first, second, Option.bind_eq_bind,
    Option.bind_some, Option.pure_def]

theorem scan_number (u : Nat) (small : u < 0x10000) (soFar : List Piece) (done : List Lexeme) :
    List.foldlM Scan.step ⟨.inString soFar, done⟩ ([0x5C, 0x75] ++ Text.ofHex .lower 4 u) =
      some ⟨.inString (.unit u :: soFar), done⟩ := by
  have begun : List.foldlM Scan.step ⟨.inString soFar, done⟩ [0x5C, 0x75] =
      some ⟨.inUnit soFar 3 0, done⟩ := rfl
  have digit (missing value part : Nat) :
      Scan.step ⟨.inUnit soFar missing value, done⟩ (hexDigit .lower part) =
        some (match missing with
          | 0 => ⟨.inString (.unit (16 * value + part % 16) :: soFar), done⟩
          | more + 1 => ⟨.inUnit soFar more (16 * value + part % 16), done⟩) := by
    rw [Scan.step, hexValue?_hexDigit]
    cases missing <;> rfl
  have sum : 16 * (16 * (16 * (16 * 0 + u / 16 / 16 / 16 % 16) + u / 16 / 16 % 16) + u / 16 % 16) +
      u % 16 = u := by omega
  rw [List.foldlM_append, begun]
  simp only [Text.ofHex, List.nil_append, List.cons_append, Option.bind_eq_bind, Option.bind_some,
    List.foldlM_cons, List.foldlM_nil, digit, Option.pure_def, sum]

/-- Each character of a string is read as what it was written for. -/
theorem scan_plainChar (c : Char) :
    ∃ pieces : List Piece,
      (∀ soFar done, (plainChar c).foldlM Scan.step ⟨.inString soFar, done⟩ =
        some ⟨.inString (pieces.reverse ++ soFar), done⟩) ∧
      ∀ rest, assemble (pieces ++ rest) = String.utf8EncodeChar c ++ assemble rest := by
  by_cases must : mustEscape c = true
  · rw [plainChar, if_pos must]
    obtain ⟨-, letter, byte, escaped, other, known, encoded⟩ | ⟨-, control, escaped⟩ :=
      escapedChar_forms c must
    · refine ⟨[.byte byte], ?_, ?_⟩
      · rw [escaped]
        exact scan_letter letter byte other known
      · intro rest
        rw [encoded]
        rfl
    · refine ⟨[.unit c.toNat], ?_, ?_⟩
      · rw [escaped]
        exact scan_number c.toNat (by omega)
      · intro rest
        have read := assemble_unit c.toNat rest (by omega)
        rwa [Char.ofNat_toNat] at read
  · rw [plainChar, if_neg must]
    refine ⟨(String.utf8EncodeChar c).map .byte, scan_bytes _ ?_, assemble_bytes _⟩
    -- A byte below 128 is the whole character, and that one needs no escape.
    intro b member
    have whole (ascii : b < 0x80) : c.toNat = b.toNat := by
      have small : b.toNat < 128 := ascii
      rw [(Text.mem_encodeChar_ascii c b ascii).mp member]
      exact Text.toNat_ofNat_char b.toNat (Or.inl (by omega))
    simp only [mustEscape, Bool.or_eq_true, beq_iff_eq, decide_eq_true_eq, not_or] at must
    refine ⟨?_, ?_, ?_⟩
    · rintro rfl
      exact must.1.1 (whole (by decide))
    · rintro rfl
      exact must.1.2 (whole (by decide))
    · intro control
      have low : b.toNat < 32 := control
      have same := whole (UInt8.lt_trans control (by decide))
      omega

theorem scan_plainChars (cs : List Char) :
    ∃ pieces : List Piece,
      (∀ soFar done, (cs.flatMap plainChar).foldlM Scan.step ⟨.inString soFar, done⟩ =
        some ⟨.inString (pieces.reverse ++ soFar), done⟩) ∧
      ∀ rest, assemble (pieces ++ rest) = cs.flatMap String.utf8EncodeChar ++ assemble rest := by
  induction cs with
  | nil => exact ⟨[], fun _ _ => rfl, fun _ => rfl⟩
  | cons c others ih =>
      obtain ⟨first, scanned, spelled⟩ := scan_plainChar c
      obtain ⟨pieces, scannedOthers, spelledOthers⟩ := ih
      refine ⟨first ++ pieces, ?_, ?_⟩
      · intro soFar done
        rw [List.flatMap_cons, List.foldlM_append, scanned]
        simp only [Option.bind_eq_bind, Option.bind_some, scannedOthers, List.reverse_append,
          List.append_assoc]
      · intro rest
        rw [List.append_assoc, spelled, spelledOthers, List.flatMap_cons, List.append_assoc]

end Json

namespace Socket

/-- The frame that asks for the translation of a program, in the shortest JSON for it. -/
def request (program : String) : Text :=
  utf8 "\x7b\"type\":\"translate\",\"text\":\"" ++ program.toList.flatMap Json.plainChar ++
    utf8 "\"\x7d"

def escapeCosts (program : String) : Nat :=
  (program.toList.map Json.escapeCost).sum

theorem length_request (program : String) :
    (request program).length = (utf8 program).length + escapeCosts program + 30 := by
  have chars : (program.toList.flatMap Json.plainChar).length =
      (utf8 program).length + escapeCosts program := by
    rw [utf8_eq, escapeCosts]
    induction program.toList with
    | nil => rfl
    | cons c rest ih =>
        simp only [List.flatMap_cons, List.length_append, List.map_cons, List.sum_cons,
          Json.length_plainChar, ih]
        omega
  have front : (utf8 "\x7b\"type\":\"translate\",\"text\":\"").length = 28 := by decide
  have back : (utf8 "\"\x7d").length = 2 := by decide
  rw [request, List.length_append, List.length_append, front, back, chars]
  omega

theorem lexemes?_request (program : String) :
    Json.lexemes? (request program) = some [.mark .openObject, .scalar (.string (utf8 "type")),
      .mark .colon, .scalar (.string (utf8 "translate")), .mark .comma,
      .scalar (.string (utf8 "text")), .mark .colon, .scalar (.string (utf8 program)),
      .mark .closeObject] := by
  obtain ⟨pieces, scanned, spelled⟩ := Json.scan_plainChars program.toList
  have text : Json.stringText pieces = utf8 program := by
    have all := spelled []
    rw [List.append_nil, ← utf8_eq] at all
    rw [Json.stringText, all]
    exact (congrArg Text.mend (List.append_nil _)).trans (Text.mend_utf8 program)
  have front : (utf8 "\x7b\"type\":\"translate\",\"text\":\"").foldlM Json.Scan.step
      ⟨.between, []⟩ = some ⟨.inString [], [.mark .colon, .scalar (.string (utf8 "text")),
        .mark .comma, .scalar (.string (utf8 "translate")), .mark .colon,
        .scalar (.string (utf8 "type")), .mark .openObject]⟩ := rfl
  have back (soFar : List Json.Piece) (done : List Json.Lexeme) :
      (utf8 "\"\x7d").foldlM Json.Scan.step ⟨.inString soFar, done⟩ = some ⟨.between,
        .mark .closeObject :: .scalar (.string (Json.stringText soFar.reverse)) :: done⟩ := rfl
  rw [Json.lexemes?, request, List.foldlM_append, List.foldlM_append, front]
  simp only [Option.bind_eq_bind, Option.bind_some, scanned, List.append_nil, back,
    List.reverse_reverse, text]
  rfl

/-- The frame is read as the question that it was written for. -/
theorem question?_request (program : String) :
    question? (request program) = some ⟨utf8 "translate", utf8 program⟩ := by
  rw [question?, Json.parse?, lexemes?_request]
  rfl

theorem frameTooLong_of_exceeds {w : Workshop} {frame : Text} (limited : 0 < w.maxInputBytes)
    (exceeds : w.maxInputBytes + envelope < frame.length) : frameTooLong w frame = true := by
  simp [frameTooLong, limited, exceeds]

/-- The answer to a program, or the end of the connection when too much had to be escaped. -/
theorem respond_request (w : Workshop) (limited : 0 < w.maxInputBytes) (program : String)
    (fits : (utf8 program).length ≤ w.maxInputBytes) :
    respond w (request program) =
      if (utf8 program).length + escapeCosts program ≤ w.maxInputBytes + 994 then
        .ok ((Answer.translation (w.translator.translate (utf8 program)).summary).toJson.render ++
          [Text.lineFeed])
      else .error messageTooBig := by
  have size := length_request program
  by_cases room : (utf8 program).length + escapeCosts program ≤ w.maxInputBytes + 994
  · have enough : (request program).length ≤ w.maxInputBytes + envelope := by
      rw [envelope]
      omega
    rw [if_pos room, respond_of_fits enough, question?_request, answer,
      Workshop.tooLarge_of_fits fits]
    rfl
  · have excess : w.maxInputBytes + envelope < (request program).length := by
      rw [envelope]
      omega
    rw [if_neg room, respond, frameTooLong_of_exceeds limited excess]
    rfl

/-- A program within the limit is translated and the connection stays open, as long as escaping does
not add more to it than is left of the envelope. Otherwise the connection is closed. -/
theorem converse_request (w : Workshop) (limited : 0 < w.maxInputBytes) (program : String)
    (fits : (utf8 program).length ≤ w.maxInputBytes) (earlier later : List Text)
    (short : ∀ f ∈ earlier, f.length ≤ w.maxInputBytes + 1024) :
    converse w (earlier ++ request program :: later) = converse w earlier ++
      if (utf8 program).length + escapeCosts program ≤ w.maxInputBytes + 994 then
        .ok ((Json.record [("type", .ofString "translation"),
          ("result", (w.translator.translate (utf8 program)).summary.toJson)]).render ++
            [Text.lineFeed]) :: converse w later
      else [.error 1009] := by
  have answered : converse w earlier = earlier.map (respond w) := by
    have alone := converse_append w earlier [] short
    rwa [List.append_nil, converse, List.append_nil] at alone
  have reply := respond_request w limited program fits
  rw [converse_append w earlier _ short, answered, converse]
  by_cases room : (utf8 program).length + escapeCosts program ≤ w.maxInputBytes + 994
  · rw [if_pos room] at reply ⊢
    rw [reply]
    rfl
  · rw [if_neg room] at reply ⊢
    rw [reply]
    rfl

/-- A program of nothing but line feeds, each of which has to be escaped. -/
def lineFeeds (count : Nat) : String :=
  String.ofList (List.replicate count (Char.ofNat 0x0A))

theorem utf8_lineFeeds (count : Nat) : utf8 (lineFeeds count) = List.replicate count Text.lineFeed := by
  have single : String.utf8EncodeChar (Char.ofNat 0x0A) = [Text.lineFeed] := by decide
  rw [utf8_eq, lineFeeds, String.toList_ofList]
  induction count with
  | zero => rfl
  | succ count ih =>
      rw [List.replicate_succ, List.flatMap_cons, ih, single, List.singleton_append,
        List.replicate_succ]

theorem escapeCosts_lineFeeds (count : Nat) : escapeCosts (lineFeeds count) = count := by
  have single : Json.escapeCost (Char.ofNat 0x0A) = 1 := by decide
  rw [escapeCosts, lineFeeds, String.toList_ofList, List.map_replicate, single,
    List.sum_replicate_nat, Nat.mul_one]

/-- A program that fills the limit without exceeding it is translated on request, but not over a
socket. -/
theorem converse_lineFeeds :
    let w : Workshop := ⟨⟨.builtin, .standard⟩, 995⟩
    (utf8 (lineFeeds 995)).length = 995 ∧
      (Web.respond w (.posting (utf8 (lineFeeds 995)))).status = 200 ∧
      converse w [request (lineFeeds 995)] = [.error 1009] := by
  intro w
  have size : (utf8 (lineFeeds 995)).length = 995 := by rw [utf8_lineFeeds, List.length_replicate]
  have fits : (utf8 (lineFeeds 995)).length ≤ w.maxInputBytes := by
    rw [size]
    exact Int.le_refl 995
  refine ⟨size, ?_, ?_⟩
  · rw [Web.respond_posting, Workshop.tooLarge_of_fits fits]
    rfl
  · have closed := converse_request w (by decide) (lineFeeds 995) fits [] [] (by simp)
    rw [size, escapeCosts_lineFeeds, if_neg (by decide)] at closed
    exact closed

end Socket
end Hexaglyph
