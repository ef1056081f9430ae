import Hexaglyph.Proofs.OwnListing
set_option autoImplicit false

/-! Listings whose writing is interrupted. A line and its line feed are one write, so a writer that
fails has got whole lines, and what it has can be read like any other listing. -/
namespace Hexaglyph

namespace Writer

variable {ε σ : Type}

/-- Whether a writer takes the next `k` texts, whatever they are, and fails on the one after them. A
text that is taken is added to what is stored, and a failed write stores nothing. -/
def Accepts (w : Writer ε σ) (stored : σ → Text) : Nat → σ → Prop
  | 0, s => ∀ text, ∃ e after, w text s = .error e after ∧ stored after = stored s
  | k + 1, s => ∀ text, ∃ after, w text s = .ok () after ∧ stored after = stored s ++ text ∧
      Accepts w stored k after

end Writer

theorem Quota.accepts_write (left : Nat) (taken : List Text) :
    Writer.Accepts Quota.write Quota.written left ⟨left, taken⟩ := by
  induction left generalizing taken with
  | zero =>
      intro text
      exact ⟨(), _, rfl, rfl⟩
  | succ left ih =>
      intro text
      refine ⟨_, rfl, ?_, ih (text :: taken)⟩
      simp [Quota.written]

namespace Translation

variable {ε σ : Type} (w : Writer ε σ) (comments : Bool)

@[simp] theorem writeTo_nil (s : σ) : writeTo w comments [] s = .ok () s := rfl

theorem writeTo_of_taken (line : EncodedLine) (rest : List EncodedLine) (s after : σ)
    (taken : w (line.listed comments) s = .ok () after) :
    writeTo w comments (line :: rest) s = writeTo w comments rest after := by
  simp only [writeTo, List.forM_eq_forM, List.forM_cons, bind, EStateM.bind, taken]

theorem writeTo_of_refused (line : EncodedLine) (rest : List EncodedLine) (s after : σ) (e : ε)
    (refused : w (line.listed comments) s = .error e after) :
    writeTo w comments (line :: rest) s = .error e after := by
  simp only [writeTo, List.forM_eq_forM, List.forM_cons, bind, EStateM.bind, refused]

/-- Lines are written until the writer fails or there are no more. -/
theorem writeTo_of_accepts (stored : σ → Text) (lines : List EncodedLine) (k : Nat) (s : σ)
    (accepts : w.Accepts stored k s) :
    (Writer.failed (writeTo w comments lines s) = true ↔ k < lines.length) ∧
      stored (Writer.reached (writeTo w comments lines s)) =
        stored s ++ (lines.take k).flatMap (·.listed comments) := by
  -- Each line uses up one of the writes that are left, so the count goes down with the lines.
  induction lines generalizing k s with
  | nil => simp [Writer.failed, Writer.reached]
  | cons line rest ih =>
      cases k with
      | zero =>
          obtain ⟨e, after, refused, kept⟩ := accepts (line.listed comments)
          rw [writeTo_of_refused w comments line rest s after e refused]
          simp [Writer.failed, Writer.reached, kept]
      | succ k =>
          obtain ⟨after, taken, added, later⟩ := accepts (line.listed comments)
          obtain ⟨failed, reached⟩ := ih k after later
          rw [writeTo_of_taken w comments line rest s after taken, failed, reached, added]
          simp

/-- As many lines are written as writes succeed, and the listing is complete if that is all of them. -/
theorem writeListing_eq (writes : Nat) (lines : List EncodedLine) :
    writeListing comments writes lines =
      ((lines.take writes).flatMap (·.listed comments), decide (lines.length ≤ writes)) := by
  obtain ⟨failed, reached⟩ := writeTo_of_accepts Quota.write comments Quota.written lines writes
    ⟨writes, []⟩ (Quota.accepts_write writes [])
  refine Prod.ext reached ?_
  rw [Bool.eq_iff_iff, decide_eq_true_iff, ← Nat.not_lt, ← failed, Bool.not_eq_true]
  exact iff_of_eq (Bool.not_eq_true' _)

end Translation

/-- Whether no opcode of a catalog is fragile. -/
def Catalog.HasFirmOpcodes (c : Catalog) : Prop :=
  ∀ entry ∈ c.instructions.entries, ¬ Listing.Fragile entry.2.opcode

instance (c : Catalog) : Decidable c.HasFirmOpcodes :=
  inferInstanceAs (Decidable (∀ entry ∈ c.instructions.entries, ¬ Listing.Fragile entry.2.opcode))

/-- With such a catalog, the first lines of a listing are read back one by one. -/
theorem Translator.parse_first_lines (source : Text) (read : Except Text Text) (tr : Translator)
    (loaded : Catalog.load source read = .ok tr.catalog) (firm : tr.catalog.HasFirmOpcodes)
    (program : Text) (comments : Bool) (k : Nat) :
    Listing.parse (((tr.translate program).lines.take k).flatMap (·.listed comments)) =
      ((tr.translate program).hexLines.take k).map Text.upper := by
  rw [Translation.hexLines, ← List.map_take]
  apply Listing.parse_of_firm
  · intro line member
    exact EncodedLine.regular_of_mem_lines source read tr loaded program line
      (List.mem_of_mem_take member)
  · intro line member
    obtain ⟨entry, known, same⟩ := opcode_of_mem_lines program line (List.mem_of_mem_take member)
    rw [same]
    exact firm entry known

namespace Translation

/-- Writing fails exactly when there are more lines than the writer accepts. It has then got the first
lines of the listing and nothing else, and they read back as the first entries. -/
theorem writeTo_first_lines {ε σ : Type} (w : Writer ε σ) (stored : σ → Text) (k : Nat) (s : σ)
    (accepts : w.Accepts stored k s) (t : Translation) (comments : Bool) :
    (Writer.failed (writeTo w comments t.lines s) = true ↔ k < t.lines.length) ∧
      ∃ written, stored (Writer.reached (writeTo w comments t.lines s)) = stored s ++ written ∧
        written = (t.lines.take (min k t.lines.length)).flatMap (·.listed comments) ∧
        written <+: t.listing comments ∧
        (Writer.failed (writeTo w comments t.lines s) = false → written = t.listing comments) ∧
        ∀ source read tr program, Catalog.load source read = .ok tr.catalog →
          tr.catalog.HasFirmOpcodes → t = Translator.translate tr program →
          Listing.parse written = (t.hexLines.take (min k t.lines.length)).map Text.upper := by
  obtain ⟨failed, reached⟩ := writeTo_of_accepts w comments stored t.lines k s accepts
  rw [List.take_eq_take_min] at reached
  refine ⟨failed, _, reached, rfl, ?_, ?_, ?_⟩
  · refine ⟨(t.lines.drop (min k t.lines.length)).flatMap (·.listed comments), ?_⟩
    rw [← List.flatMap_append, List.take_append_drop]
    rfl
  · intro complete
    have enough : t.lines.length ≤ k := by
      rw [← Nat.not_lt, ← failed, complete]
      exact Bool.false_ne_true
    rw [Nat.min_eq_right enough, List.take_length]
    rfl
  · intro source read tr program loaded firm same
    rw [same]
    exact tr.parse_first_lines source read loaded firm program comments _

/-- A catalog where a glyph is a comment sign, and an opcode has a blank inside and a letter that is no
digit. -/
def firmDocument : Text :=
  utf8 ("\x7b\"glyph_to_opcode\":\x7b\"#\":\x7b\"name\":\"P\",\"opcode\":\"02\"\x7d," ++
    "\"ß\":\x7b\"name\":\"Q\",\"opcode\":\"é f\"\x7d," ++
    "\"r\":\x7b\"name\":\"R\",\"opcode\":\"\"\x7d\x7d," ++
    "\"modifiers\":\x7b\x7d,\"psychic_augmenters\":\x7b\x7d\x7d")

/-- Three lines where there is room for two. -/
theorem writeTo_two_of_three :
    ∃ tr : Translator, Catalog.load (utf8 "firm") (.ok firmDocument) = .ok tr.catalog ∧
      tr.catalog.HasFirmOpcodes ∧
      let outcome := writeTo Quota.write true (tr.translate (utf8 "# ß r")).lines ⟨2, []⟩
      Writer.failed outcome = true ∧
        (Writer.reached outcome).written = utf8 "020001  # #\né f??  # ß\n" ∧
        Listing.parse (Writer.reached outcome).written = [utf8 "020001", utf8 "É F??"] := by
  have evaluated : (Catalog.load (utf8 "firm") (.ok firmDocument)).toOption.any (fun c =>
      let t := (Translator.mk c .standard).translate (utf8 "# ß r")
      decide c.HasFirmOpcodes && t.lines.length == 3 &&
        (t.lines.take 2).flatMap (·.listed true) == utf8 "020001  # #\né f??  # ß\n" &&
        (t.hexLines.take 2).map Text.upper == [utf8 "020001", utf8 "É F??"]) = true := by
    decide +kernel
  cases loaded : Catalog.load (utf8 "firm") (.ok firmDocument) with
  | error fault =>
      rw [loaded] at evaluated
      cases evaluated
  | ok c =>
      rw [loaded] at evaluated
      simp only [Except.toOption, Option.any_some, Bool.and_eq_true, decide_eq_true_eq,
        beq_iff_eq] at evaluated
      obtain ⟨⟨⟨firm, three⟩, first⟩, entries⟩ := evaluated
      obtain ⟨failed, written, stored, text, -, -, read⟩ :=
        writeTo_first_lines Quota.write Quota.written 2 ⟨2, []⟩ (Quota.accepts_write 2 [])
          ((Translator.mk c .standard).translate (utf8 "# ß r")) true
      have parsed := read _ _ ⟨c, .standard⟩ _ loaded firm rfl
      rw [three] at failed text parsed
      refine ⟨⟨c, .standard⟩, rfl, firm, failed.mpr (by decide), ?_, ?_⟩
      · exact stored.trans (text.trans first)
      · exact (congrArg Listing.parse stored).trans (parsed.trans entries)

end Translation
end Hexaglyph
