import Hexaglyph.Catalog.Builtin
import Hexaglyph.Proofs.Conversation
import Mathlib.Data.List.DropRight
set_option autoImplicit false

/-! The documents that the editor service keeps. Each has a translation beside its text, and both
have to be those of what the editor said last. -/
namespace Hexaglyph

namespace Task

def closes (uri : Uri) : Task → Bool
  | close other => decide (other = uri)
  | _ => false

def written? (uri : Uri) : Task → Option (Int × Text)
  | write other version text => if other = uri then some (version, text) else none
  | _ => none

end Task

def Outgoing.published? (uri : Uri) : Outgoing → Option Json
  | notification method params =>
    if method = "textDocument/publishDiagnostics" then
      match params.get? (utf8 "uri") with
      | some (.string other) => if other = uri then params.get? (utf8 "diagnostics") else none
      | _ => none
    else none
  | _ => none

theorem Outgoing.published?_publish (uri other : Uri) (version : Int) (t : Translation) :
    (Service.publish other version t.diagnostics).published? uri =
      if other = uri then some (Task.problems t) else none := rfl

/-- Only what is written is published. -/
theorem Task.published_sent (w : Workshop) (before : Desk) (t : Task) (uri : Uri) :
    (t.sent w before).filterMap (Outgoing.published? uri) =
      ((t.written? uri).map fun entry => problems (w.translate entry.2)).toList := by
  cases t with
  | write other version text =>
      simp only [sent, written?, List.filterMap_cons, List.filterMap_nil,
        Outgoing.published?_publish]
      by_cases same : other = uri <;> simp [same]
  | translate id other =>
      simp only [sent]
      cases Service.translationAt? before other <;> rfl
  | refuse id code message => cases id <;> rfl
  | close other => rfl
  | diagnose id other => rfl
  | tidy id other => rfl
  | hover id other position => rfl
  | start id => rfl
  | confirm id => rfl
  | ignore => rfl
  | leave => rfl

namespace Task

variable (w : Workshop) (uri : Uri) (before : Option Document) (t : Task)

theorem kept_of_closes (closing : t.closes uri = true) : t.kept w uri before = none := by
  cases t with
  | close other => exact if_pos (of_decide_eq_true closing).symm
  | _ => cases closing

theorem kept_of_written (version : Int) (text : Text)
    (writing : t.written? uri = some (version, text)) :
    t.kept w uri before = some (.translated w version text) := by
  cases t with
  | write other _ _ =>
      rw [written?, Option.ite_none_right_eq_some] at writing
      obtain ⟨rfl, equal⟩ := writing
      cases equal
      exact if_pos rfl
  | _ => cases writing

/-- Without a new text and unless it is closed, a document is at most translated again. -/
theorem kept_otherwise (opened : t.closes uri = false) (silent : t.written? uri = none) :
    t.kept w uri before = before ∨ t.kept w uri before = some (Service.refreshed w before) := by
  cases t with
  | write other _ _ =>
      have apart : ¬ uri = other := by
        rintro rfl
        simp [written?] at silent
      exact Or.inl (if_neg apart)
  | close other =>
      have apart : ¬ uri = other := fun same => of_decide_eq_false opened same.symm
      exact Or.inl (if_neg apart)
  | diagnose id other =>
      by_cases same : uri = other
      · exact Or.inr (if_pos same)
      · exact Or.inl (if_neg same)
  | _ => exact Or.inl rfl

end Task

namespace Service

def sinceClose (uri : Uri) (past : List (Json × Reaction)) : List (Json × Reaction) :=
  past.rtakeWhile fun exchange => ! (Task.ofMessage exchange.1).closes uri

/-- The version and the text that were given to a name last, and not before it was closed. -/
def lastWritten (uri : Uri) (past : List (Json × Reaction)) : Option (Int × Text) :=
  ((sinceClose uri past).filterMap fun exchange =>
    (Task.ofMessage exchange.1).written? uri).getLast?

/-- The diagnostics that were published for a name last, and not before it was closed. -/
def lastPublished (uri : Uri) (past : List (Json × Reaction)) : Option Json :=
  ((sinceClose uri past).flatMap fun exchange =>
    exchange.2.sent.filterMap (Outgoing.published? uri)).getLast?

section

variable (uri : Uri) (past : List (Json × Reaction)) (exchange : Json × Reaction)

theorem lastWritten_append :
    lastWritten uri (past ++ [exchange]) =
      if (Task.ofMessage exchange.1).closes uri then none
      else ((Task.ofMessage exchange.1).written? uri).or (lastWritten uri past) := by
  cases closed : (Task.ofMessage exchange.1).closes uri with
  | true => simp [lastWritten, sinceClose, closed]
  | false =>
      cases written : (Task.ofMessage exchange.1).written? uri <;>
        simp [lastWritten, sinceClose, closed, written]

theorem lastPublished_append :
    lastPublished uri (past ++ [exchange]) =
      if (Task.ofMessage exchange.1).closes uri then none
      else (exchange.2.sent.filterMap (Outgoing.published? uri)).getLast?.or
        (lastPublished uri past) := by
  cases closed : (Task.ofMessage exchange.1).closes uri with
  | true => simp [lastPublished, sinceClose, closed]
  | false =>
      simp [lastPublished, sinceClose, closed, List.getLast?_append]

end

/-- What is kept under a name is what was said about it last. A name that nothing was said about may
have an empty document. -/
structure Coherent (w : Workshop) (uri : Uri) (past : List (Json × Reaction)) (desk : Desk) :
    Prop where
  written : ∀ version text, lastWritten uri past = some (version, text) →
    desk.documents.get? uri = some (.translated w version text)
  unwritten : lastWritten uri past = none →
    ∀ document, desk.documents.get? uri = some document → document = .translated w 0 []
  published : lastPublished uri past =
    (lastWritten uri past).map fun entry => Task.problems (w.translate entry.2)

theorem coherent_empty (w : Workshop) (uri : Uri) : Coherent w uri [] .empty where
  written _ _ absurd := by cases absurd
  unwritten _ _ absurd := by cases absurd
  published := rfl

/-- Translating a document again leaves it as it is. -/
theorem Coherent.refreshed_eq {w : Workshop} {uri : Uri} {past : List (Json × Reaction)} {desk : Desk}
    (now : Coherent w uri past desk) (document : Document)
    (found : desk.documents.get? uri = some document) :
    refreshed w (some document) = document := by
  cases last : lastWritten uri past with
  | none => rw [now.unwritten last document found]; rfl
  | some entry =>
      have same := now.written entry.1 entry.2 last
      rw [found, Option.some.injEq] at same
      rw [same]
      rfl

theorem coherent_step (w : Workshop) (uri : Uri) (past : List (Json × Reaction)) (desk : Desk)
    (message : Json) (now : Coherent w uri past desk) :
    Coherent w uri (past ++ [(message, react w desk message)]) (react w desk message).desk := by
  have performs := react_performs w desk message
  have written := lastWritten_append uri past (message, react w desk message)
  have published := lastPublished_append uri past (message, react w desk message)
  have kept := (Task.ofMessage message).get?_desk w desk uri
  rw [← performs.desk] at kept
  simp only [performs.sent, Task.published_sent] at published
  generalize Task.ofMessage message = t at written published kept
  cases closing : t.closes uri with
  | true =>
      rw [t.kept_of_closes w uri _ closing] at kept
      rw [if_pos closing] at written published
      refine ⟨?_, ?_, ?_⟩
      · intro version text last
        rw [written] at last
        cases last
      · intro _ document found
        rw [kept] at found
        cases found
      · rw [written, published]
        rfl
  | false =>
      simp only [closing, Bool.false_eq_true, ↓reduceIte] at written published
      cases writing : t.written? uri with
      | some entry =>
          rw [t.kept_of_written w uri _ entry.1 entry.2 writing] at kept
          rw [writing] at written published
          refine ⟨?_, ?_, ?_⟩
          · intro version text last
            rw [written] at last
            cases last
            exact kept
          · intro last
            rw [written] at last
            cases last
          · rw [written, published]
            rfl
      | none =>
          rw [writing] at written published
          have otherwise := t.kept_otherwise w uri (desk.documents.get? uri) closing writing
          rw [← kept] at otherwise
          have same : ∀ document, desk.documents.get? uri = some document →
              (react w desk message).desk.documents.get? uri = some document := by
            intro document found
            rcases otherwise with unchanged | again
            · rw [unchanged, found]
            · rw [again, found, now.refreshed_eq document found]
          refine ⟨?_, ?_, ?_⟩
          · intro version text last
            rw [written] at last
            exact same _ (now.written version text last)
          · intro last document found
            rw [written] at last
            cases before : desk.documents.get? uri with
            | some old =>
                rw [same old before, Option.some.injEq] at found
                exact found ▸ now.unwritten last old before
            | none =>
                rw [before, found] at otherwise
                rcases otherwise with absent | blank
                · cases absent
                · exact Option.some.inj blank
          · rw [written, published]
            exact now.published

/-- After any messages, every name is coherent with what has been said. -/
theorem coherent_after (w : Workshop) (messages : List Json) (uri : Uri) :
    Coherent w uri (dialogue w .empty messages) (deskAfter w .empty messages) :=
  dialogue_invariant w (Coherent w uri) (coherent_empty w uri) (coherent_step w uri) messages

/-- What a name has is the translation of its text, and its text is what was said last. -/
theorem Coherent.document_eq {w : Workshop} {uri : Uri} {past : List (Json × Reaction)} {desk : Desk}
    (now : Coherent w uri past desk) (document : Document)
    (found : desk.documents.get? uri = some document) :
    document.translation = some (w.translate document.text) ∧
      (document.version, document.text) = (lastWritten uri past).getD (0, []) := by
  cases last : lastWritten uri past with
  | none => simp [now.unwritten last document found, Document.translated]
  | some entry =>
      have same := now.written entry.1 entry.2 last
      rw [found, Option.some.injEq] at same
      simp [same, Document.translated]

/-- After any messages: whatever is published, asked for or shown about a document comes from its
text, and its text is the one that was written last. -/
theorem documents_current (w : Workshop) (messages : List Json) (uri : Uri) :
    let past := dialogue w .empty messages
    let desk := deskAfter w .empty messages
    lastPublished uri past =
      (lastWritten uri past).map (fun entry => Task.problems (w.translate entry.2)) ∧
    ((lastWritten uri past).isSome → (desk.documents.get? uri).isSome) ∧
      ∀ document, desk.documents.get? uri = some document →
        document.translation = some (w.translate document.text) ∧
        (document.version, document.text) = (lastWritten uri past).getD (0, []) ∧
        lastPublished uri past =
          (lastWritten uri past).map (fun _ => Task.problems (w.translate document.text)) ∧
        (∀ message id, Task.ofMessage message = .diagnose id uri →
          (react w desk message).sent = [.result id (.record [("kind", .ofString "full"),
            ("items", Task.problems (w.translate document.text))])]) ∧
        (∀ message id, Task.ofMessage message = .translate id uri →
          ∃ summary : Json, (react w desk message).sent = [.result id summary] ∧
            summary = (w.translate document.text).summary.toJson ∧
            summary.get? (utf8 "diagnostics") = some (Task.problems (w.translate document.text))) ∧
        (∀ message id position, Task.ofMessage message = .hover id uri position →
          (react w desk message).sent =
            [.result id (Task.shown ((w.translate document.text).hover position))]) := by
  intro past desk
  have now : Coherent w uri past desk := coherent_after w messages uri
  refine ⟨now.published, ?_, ?_⟩
  · intro written
    obtain ⟨entry, last⟩ := Option.isSome_iff_exists.mp written
    rw [now.written entry.1 entry.2 last]
    rfl
  · intro document found
    obtain ⟨translated, current⟩ := now.document_eq document found
    have cached : translationAt? desk uri = some (w.translate document.text) := by
      rw [translationAt?_of_found found, translated]
    refine ⟨translated, current, ?_, ?_, ?_, ?_⟩
    · rw [now.published]
      cases written : lastWritten uri past with
      | none => rfl
      | some entry =>
          rw [written] at current
          cases current
          rfl
    · intro message id asked
      rw [sent_of_task w desk message _ asked, Task.sent, Task.textAt, found]
      rfl
    · intro message id asked
      refine ⟨_, ?_, rfl, rfl⟩
      rw [sent_of_task w desk message _ asked, Task.sent, cached]
    · intro message id position asked
      rw [sent_of_task w desk message _ asked, Task.sent, cached]
      rfl

def revision : List Json := [
  Method.message .didOpen none [("textDocument", .record [("uri", .ofString "a"),
    ("version", .ofNat 1), ("text", .ofString "b")])],
  Method.message .didChange none [("textDocument", .record [("uri", .ofString "a"),
    ("version", .ofNat 2)]), ("contentChanges", .array [.record [("text", .ofString "c")],
    .record [("text", .ofString "d")]])]]

/-- The last of the changes is what the document has and what is published about it. -/
theorem revision_current :
    let w : Workshop := ⟨⟨.builtin, .standard⟩, 16⟩
    lastPublished (utf8 "a") (dialogue w .empty revision) =
        some (Task.problems (w.translate (utf8 "d"))) ∧
      ∃ document, (deskAfter w .empty revision).documents.get? (utf8 "a") = some document ∧
        document.version = 2 ∧ document.text = utf8 "d" ∧
        document.translation = some (w.translate (utf8 "d")) := by
  intro w
  obtain ⟨published, present, current⟩ := documents_current w revision (utf8 "a")
  have last : lastWritten (utf8 "a") (dialogue w .empty revision) = some (2, utf8 "d") := by
    decide +kernel
  rw [last] at published present
  refine ⟨published, ?_⟩
  obtain ⟨document, found⟩ := Option.isSome_iff_exists.mp (present rfl)
  obtain ⟨translated, latest, -⟩ := current document found
  rw [last] at latest
  obtain ⟨version, text⟩ := Prod.mk.inj latest
  exact ⟨document, found, version, text, text ▸ translated⟩

end Service
end Hexaglyph
