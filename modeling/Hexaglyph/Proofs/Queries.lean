import Hexaglyph.Proofs.Coherence
set_option autoImplicit false

/-! Requests that only ask. Two conversations are compared that differ in one such request. They can
be told apart in one way: a name that has no document gets an empty one when its diagnostics are
asked for, and a later request for its translation finds it. -/
namespace Hexaglyph

def Method.isQuery : Method → Bool
  | hover => true
  | diagnostic => true
  | willSaveWaitUntil => true
  | translate => true
  | _ => false

namespace Task

def asksFor (uri : Uri) : Task → Bool
  | translate _ other => decide (other = uri)
  | _ => false

/-- Whether what is kept under a name does not matter any more after a task. -/
def settles (uri : Uri) : Task → Bool
  | write other _ _ => decide (other = uri)
  | close other => decide (other = uri)
  | diagnose _ other => decide (other = uri)
  | leave => true
  | _ => false

/-- Whether a name may have a document only because of a task. -/
def creates (uri : Uri) : Task → Bool
  | write other _ _ => decide (other = uri)
  | diagnose _ other => decide (other = uri)
  | _ => false

end Task

namespace Service

def isQuery (message : Json) : Bool :=
  match Incoming.ofJson message with
  | .request request => (Method.ofName? request.method).any Method.isQuery
  | _ => false

/-- Whether the translation of a name is asked for before anything is said about the name or its
diagnostics are asked for, and before the connection ends. -/
def asksFirst (uri : Uri) : List Json → Bool
  | [] => false
  | message :: rest =>
    (Task.ofMessage message).asksFor uri ||
      (! (Task.ofMessage message).settles uri && asksFirst uri rest)

variable (w : Workshop)

/-- A conversation without the answer to one of its messages, which does not end it. -/
theorem seen_eraseIdx (desk : Desk) (before after : List Json) (query : Json)
    (stays : (Task.ofMessage query).leaves = false) :
    (seen w desk (before ++ query :: after)).eraseIdx before.length =
      seen w desk before ++ if lasts before then
        seen w ((Task.ofMessage query).desk w (deskAfter w desk before)) after else [] := by
  rw [seen_append]
  by_cases lasting : lasts before
  · have length := length_seen w desk before lasting
    rw [if_pos lasting, if_pos lasting, seen_cons, stays,
      List.eraseIdx_append_of_length_le (Nat.le_of_eq length), length, Nat.sub_self]
    rfl
  · rw [if_neg lasting, if_neg lasting, List.append_nil,
      List.eraseIdx_of_length_le (length_seen_le w desk before)]

end Service

theorem Workshop.translate_nil_tokens (w : Workshop) : (w.translate []).tokens = [] := by
  have small : w.tooLarge [] = false := by
    simp only [tooLarge, List.length_nil, Bool.and_eq_false_iff, decide_eq_false_iff_not]
    omega
  rw [translate, small]
  rfl

/-- There is nothing to show about an empty document. -/
theorem Workshop.hover_translate_nil (w : Workshop) (position : Position) :
    (w.translate []).hover position = none := by
  rw [Translation.hover, Translation.tokenAt, translate_nil_tokens]
  rfl

/-- Desks that are the same but for one name, under which the second may have an empty document where
the first has none. -/
structure Desk.Near (w : Workshop) (uri : Uri) (first second : Desk) : Prop where
  calls : first.calls = second.calls
  others : ∀ other, other ≠ uri → first.documents.get? other = second.documents.get? other
  here : first.documents.get? uri = second.documents.get? uri ∨
    first.documents.get? uri = none ∧ second.documents.get? uri = some (.translated w 0 [])

namespace Task

variable {w : Workshop} {uri : Uri} {first second : Desk}

theorem calls_desk (t : Task) (same : first.calls = second.calls) :
    (t.desk w first).calls = (t.desk w second).calls := by
  cases t with
  | start id => exact congrArg (· + 1) same
  | diagnose id other => simpa only [desk, Service.refresh_desk, Service.put] using same
  | _ => exact same

theorem kept_settled (t : Task) (settled : t.settles uri = true) (stays : t.leaves = false) :
    t.kept w uri none = t.kept w uri (some (.translated w 0 [])) := by
  cases t with
  | write other version text =>
      have same := of_decide_eq_true settled
      simp only [kept, same, ↓reduceIte]
  | close other =>
      have same := of_decide_eq_true settled
      simp only [kept, same, ↓reduceIte]
  | diagnose id other =>
      have same := of_decide_eq_true settled
      simp only [kept, same, ↓reduceIte, Service.refreshed, Document.translated]
  | leave => cases stays
  | _ => cases settled

theorem kept_unsettled (t : Task) (unsettled : t.settles uri = false) (before : Option Document) :
    t.kept w uri before = before := by
  cases t with
  | write other version text =>
      exact if_neg fun same => of_decide_eq_false unsettled same.symm
  | close other => exact if_neg fun same => of_decide_eq_false unsettled same.symm
  | diagnose id other => exact if_neg fun same => of_decide_eq_false unsettled same.symm
  | _ => rfl

theorem kept_none (t : Task) (idle : t.creates uri = false) : t.kept w uri none = none := by
  cases t with
  | write other version text => exact if_neg fun same => of_decide_eq_false idle same.symm
  | diagnose id other => exact if_neg fun same => of_decide_eq_false idle same.symm
  | close other => exact ite_self none
  | _ => rfl

/-- A task keeps desks near. -/
theorem near_desk (t : Task) (stays : t.leaves = false) (near : first.Near w uri second) :
    (t.desk w first).Near w uri (t.desk w second) where
  calls := t.calls_desk near.calls
  others other apart := by rw [get?_desk, get?_desk, near.others other apart]
  here := by
    rw [get?_desk, get?_desk]
    rcases near.here with same | ⟨absent, blank⟩
    · exact Or.inl (by rw [same])
    · rw [absent, blank]
      cases settled : t.settles uri with
      | true => exact Or.inl (t.kept_settled settled stays)
      | false =>
          rw [t.kept_unsettled settled, t.kept_unsettled settled]
          exact Or.inr ⟨rfl, rfl⟩

/-- Near desks answer alike, except that an empty document can be translated and a missing one
cannot. -/
theorem sent_near (t : Task) (near : first.Near w uri second)
    (alike : t.asksFor uri = true → first.documents.get? uri = second.documents.get? uri) :
    t.sent w first = t.sent w second := by
  have either : ∀ other, first.documents.get? other = second.documents.get? other ∨
      first.documents.get? other = none ∧
        second.documents.get? other = some (.translated w 0 []) := by
    intro other
    by_cases same : other = uri
    · exact same ▸ near.here
    · exact Or.inl (near.others other same)
  cases t with
  | diagnose id other =>
      simp only [sent, textAt]
      rcases either other with same | ⟨absent, blank⟩
      · rw [same]
      · rw [absent, blank]
        rfl
  | tidy id other =>
      simp only [sent, textAt]
      rcases either other with same | ⟨absent, blank⟩
      · rw [same]
      · rw [absent, blank]
        rfl
  | hover id other position =>
      simp only [sent, Service.translationAt?]
      rcases either other with same | ⟨absent, blank⟩
      · rw [same]
      · simp only [absent, blank, Document.translated, Option.bind_eq_bind, Option.bind_none,
          Option.bind_some, w.hover_translate_nil]
  | translate id other =>
      have same : first.documents.get? other = second.documents.get? other := by
        by_cases here : other = uri
        · exact here ▸ alike (decide_eq_true here)
        · exact near.others other here
      simp only [sent, Service.translationAt?, same]
  | start id => simp only [sent, near.calls]
  | _ => rfl

theorem sent_apart (t : Task) (asks : t.asksFor uri = true)
    (absent : first.documents.get? uri = none)
    (blank : second.documents.get? uri = some (.translated w 0 [])) :
    t.sent w first ≠ t.sent w second := by
  cases t with
  | translate id other =>
      have here : other = uri := of_decide_eq_true asks
      subst here
      simp [sent, Service.translationAt?, absent, blank, Document.translated]
  | _ => cases asks

def inquires : Task → Bool
  | diagnose .. => true
  | tidy .. => true
  | hover .. => true
  | translate .. => true
  | refuse .. => true
  | _ => false

theorem given_inquires {α : Type} (request : Request) (next : α → Task) (params : Option α)
    (each : ∀ given, (next given).inquires = true) :
    (given request next params).inquires = true := by
  cases params with
  | some given => exact each given
  | none => rfl

theorem leaves_of_inquires (t : Task) (asks : t.inquires = true) : t.leaves = false := by
  cases t with
  | leave => cases asks
  | _ => rfl

theorem desk_of_inquires (t : Task) (asks : t.inquires = true) (before : Desk)
    (other : ∀ id uri, t ≠ diagnose id uri) : t.desk w before = before := by
  cases t with
  | write _ _ _ => cases asks
  | close _ => cases asks
  | start _ => cases asks
  | diagnose id uri => exact absurd rfl (other id uri)
  | _ => rfl

theorem settles_of_leaves (t : Task) (leaving : t.leaves = true) : t.settles uri = true := by
  cases t with
  | leave => rfl
  | _ => cases leaving

end Task

namespace Service

variable {w : Workshop} {uri : Uri} {first second : Desk}

theorem seen_eq_of_same (near : first.Near w uri second) (messages : List Json)
    (same : first.documents.get? uri = second.documents.get? uri) :
    seen w first messages = seen w second messages := by
  induction messages generalizing first second with
  | nil => rfl
  | cons message rest ih =>
      rw [seen_cons, seen_cons]
      generalize Task.ofMessage message = t
      rw [t.sent_near near fun _ => same]
      cases leaving : t.leaves with
      | true => rfl
      | false =>
          have next : (t.desk w first).documents.get? uri =
              (t.desk w second).documents.get? uri := by
            rw [Task.get?_desk, Task.get?_desk, same]
          simp only [Bool.false_eq_true, ↓reduceIte, ih (t.near_desk leaving near) next]

/-- Near desks can be told apart exactly if a translation is asked for while they differ. -/
theorem seen_eq_iff (near : first.Near w uri second) (messages : List Json) :
    seen w first messages = seen w second messages ↔
      first.documents.get? uri = second.documents.get? uri ∨ asksFirst uri messages = false := by
  by_cases same : first.documents.get? uri = second.documents.get? uri
  · exact iff_of_true (seen_eq_of_same near messages same) (Or.inl same)
  obtain ⟨absent, blank⟩ := near.here.resolve_left same
  rw [or_iff_right same]
  induction messages generalizing first second with
  | nil => simp [asksFirst]
  | cons message rest ih =>
      rw [seen_cons, seen_cons, asksFirst]
      generalize Task.ofMessage message = t
      cases asks : t.asksFor uri with
      | true =>
          refine iff_of_false ?_ (by simp)
          intro equal
          have heads := (List.cons.inj equal).1
          exact t.sent_apart asks absent blank (Prod.mk.inj heads).1
      | false =>
          rw [t.sent_near near fun asking => absurd asking (by simp [asks])]
          cases leaving : t.leaves with
          | true => simp [t.settles_of_leaves leaving]
          | false =>
              have next := t.near_desk leaving near
              have absentNext := t.get?_desk w first uri
              have blankNext := t.get?_desk w second uri
              rw [absent] at absentNext
              rw [blank] at blankNext
              simp only [Bool.false_eq_true, ↓reduceIte, List.cons.injEq, true_and, Bool.false_or]
              cases settled : t.settles uri with
              | true =>
                  have again := absentNext.trans
                    ((t.kept_settled settled leaving).trans blankNext.symm)
                  exact iff_of_true (seen_eq_of_same next rest again) rfl
              | false =>
                  rw [t.kept_unsettled settled] at absentNext blankNext
                  simpa using ih next (by simp [absentNext, blankNext]) absentNext blankNext

/-- Near desks answer a message alike unless it asks for the translation of the one name. -/
theorem getElem?_seen_near (near : first.Near w uri second) (messages : List Json) (n : Nat)
    (message : Json) (found : messages[n]? = some message)
    (other : (Task.ofMessage message).asksFor uri = false) :
    (seen w first messages)[n]? = (seen w second messages)[n]? := by
  induction messages generalizing first second n with
  | nil => rfl
  | cons head rest ih =>
      rw [seen_cons, seen_cons]
      cases n with
      | zero =>
          rw [List.getElem?_cons_zero, Option.some.injEq] at found
          subst found
          have sent := (Task.ofMessage head).sent_near near (by simp [other])
          rw [List.getElem?_cons_zero, List.getElem?_cons_zero, sent]
      | succ n =>
          rw [List.getElem?_cons_succ] at found ⊢
          rw [List.getElem?_cons_succ]
          cases leaving : (Task.ofMessage head).leaves with
          | true => rfl
          | false => exact ih ((Task.ofMessage head).near_desk leaving near) n found

/-- A name has no document before something creates one. -/
theorem absent_after (w : Workshop) (uri : Uri) (desk : Desk) (messages : List Json)
    (absent : desk.documents.get? uri = none)
    (idle : ∀ message ∈ messages, (Task.ofMessage message).creates uri = false) :
    (deskAfter w desk messages).documents.get? uri = none := by
  induction messages generalizing desk with
  | nil => exact absent
  | cons message rest ih =>
      have next : (react w desk message).desk.documents.get? uri = none := by
        rw [(react_performs w desk message).desk, Task.get?_desk, absent]
        exact (Task.ofMessage message).kept_none (idle message List.mem_cons_self)
      rw [deskAfter_cons]
      split
      · exact next
      · exact ih _ next fun later member => idle later (List.mem_cons_of_mem _ member)

/-- A query asks, or cannot be understood. -/
theorem inquires_of_isQuery (query : Json) (asks : isQuery query = true) :
    (Task.ofMessage query).inquires = true := by
  unfold isQuery at asks
  unfold Task.ofMessage Task.ofIncoming
  cases read : Incoming.ofJson query with
  | response =>
      rw [read] at asks
      cases asks
  | unreadable =>
      rw [read] at asks
      cases asks
  | request request =>
      simp only [read] at asks
      simp only [Task.ofRequest]
      cases named : Method.ofName? request.method with
      | none =>
          rw [named] at asks
          cases asks
      | some method =>
          rw [named] at asks
          cases method with
          | diagnostic => exact Task.given_inquires _ _ _ fun _ => rfl
          | willSaveWaitUntil => exact Task.given_inquires _ _ _ fun _ => rfl
          | hover => exact Task.given_inquires _ _ _ fun _ => rfl
          | translate => exact Task.given_inquires _ _ _ fun _ => rfl
          | _ => cases asks

/-- Asking for the diagnostics of a name changes nothing, unless the name has no document. -/
theorem near_diagnosed (w : Workshop) (messages : List Json) (id : RequestId) (uri : Uri) :
    let desk := deskAfter w .empty messages
    desk.Near w uri ((Task.diagnose id uri).desk w desk) ∧
      (desk.documents.get? uri = ((Task.diagnose id uri).desk w desk).documents.get? uri ↔
        desk.documents.get? uri ≠ none) := by
  intro desk
  have now : Coherent w uri _ desk := coherent_after w messages uri
  have calls : desk.calls = ((Task.diagnose id uri).desk w desk).calls := by
    rw [Task.desk, refresh_desk, put]
  have others : ∀ other, other ≠ uri →
      desk.documents.get? other = ((Task.diagnose id uri).desk w desk).documents.get? other := by
    intro other apart
    rw [Task.get?_desk, Task.kept, if_neg apart]
  have here : ((Task.diagnose id uri).desk w desk).documents.get? uri =
      some (refreshed w (desk.documents.get? uri)) := by
    rw [Task.get?_desk, Task.kept, if_pos rfl]
  cases found : desk.documents.get? uri with
  | none =>
      rw [found] at here
      exact ⟨⟨calls, others, Or.inr ⟨found, here⟩⟩, by simp [here]⟩
  | some document =>
      rw [found, now.refreshed_eq document found] at here
      exact ⟨⟨calls, others, Or.inl (found.trans here.symm)⟩, by simp [here]⟩

/-- What the answers to other messages can show of a query: it has asked for the diagnostics of a name
without a document, and the translation of that name is asked for next. -/
def Noticed (w : Workshop) (before : List Json) (query : Json) (after : List Json) : Prop :=
  ∃ id uri, Task.ofMessage query = .diagnose id uri ∧ lasts before ∧
    (deskAfter w .empty before).documents.get? uri = none ∧ asksFirst uri after

theorem seen_without_query_iff (w : Workshop) (before after : List Json) (query : Json)
    (inquires : (Task.ofMessage query).inquires = true) :
    (seen w .empty (before ++ query :: after)).eraseIdx before.length =
        seen w .empty (before ++ after) ↔
      ¬ Noticed w before query after := by
  rw [seen_eraseIdx w .empty before after query (Task.leaves_of_inquires _ inquires), seen_append]
  by_cases lasting : lasts before
  · rw [if_pos lasting, if_pos lasting, List.append_right_inj]
    by_cases diagnosing : ∃ id uri, Task.ofMessage query = .diagnose id uri
    · obtain ⟨id, uri, task⟩ := diagnosing
      obtain ⟨near, same⟩ := near_diagnosed w before id uri
      rw [task, eq_comm, seen_eq_iff near after, same]
      constructor
      · rintro unnoticed ⟨id', uri', task', -, absent, first⟩
        rw [task] at task'
        cases task'
        rcases unnoticed with present | never
        · exact present absent
        · rw [never] at first
          cases first
      · intro unnoticed
        by_cases absent : (deskAfter w .empty before).documents.get? uri = none
        · refine Or.inr (Bool.eq_false_iff.mpr fun first => unnoticed ?_)
          exact ⟨id, uri, task, lasting, absent, first⟩
        · exact Or.inl absent
    · rw [Task.desk_of_inquires _ inquires _ fun id uri task => diagnosing ⟨id, uri, task⟩]
      refine iff_of_true rfl ?_
      rintro ⟨id, uri, task, -⟩
      exact diagnosing ⟨id, uri, task⟩
  · rw [if_neg lasting, if_neg lasting]
    refine iff_of_true rfl ?_
    rintro ⟨_, _, _, lasted, -⟩
    exact lasting lasted

theorem getElem?_seen_without_query (w : Workshop) (before after : List Json) (query : Json)
    (inquires : (Task.ofMessage query).inquires = true) (n : Nat) (message : Json)
    (found : (before ++ after)[n]? = some message)
    (other : ∀ id uri, Task.ofMessage query = .diagnose id uri →
      (Task.ofMessage message).asksFor uri = false) :
    ((seen w .empty (before ++ query :: after)).eraseIdx before.length)[n]? =
      (seen w .empty (before ++ after))[n]? := by
  by_cases noticed : Noticed w before query after
  · obtain ⟨id, uri, task, lasting, -⟩ := noticed
    have length := length_seen w .empty before lasting
    rw [seen_eraseIdx w .empty before after query (Task.leaves_of_inquires _ inquires), seen_append,
      if_pos lasting, if_pos lasting]
    by_cases early : n < before.length
    · rw [List.getElem?_append_left (by omega), List.getElem?_append_left (by omega)]
    · rw [List.getElem?_append_right (by omega)] at found
      rw [List.getElem?_append_right (by omega), List.getElem?_append_right (by omega), length, task]
      have near := (near_diagnosed w before id uri).1
      exact (getElem?_seen_near near after _ message found (other id uri task)).symm
  · rw [(seen_without_query_iff w before after query inquires).mpr noticed]

/-- A query at any place of a conversation. The other messages are answered as they would be without
it, unless it asks for the diagnostics of a name without a document and the translation of that name
is asked for next. In any case only requests for that translation can notice, and a name has no
translation before something is written under it or its diagnostics are asked for. -/
theorem query_unnoticed_iff (w : Workshop) (before after : List Json) (query : Json)
    (asks : isQuery query = true) :
    let quiet := seen w .empty (before ++ after)
    let asked := (seen w .empty (before ++ query :: after)).eraseIdx before.length
    (asked = quiet ↔ ¬ Noticed w before query after) ∧
    (∀ (n : Nat) (message : Json), (before ++ after)[n]? = some message →
      (∀ id uri, Task.ofMessage query = .diagnose id uri →
        (Task.ofMessage message).asksFor uri = false) → asked[n]? = quiet[n]?) ∧
    ∀ (uri : Uri) (message : Json) (id : RequestId), Task.ofMessage message = .translate id uri →
      (∀ earlier ∈ before, (Task.ofMessage earlier).creates uri = false) →
      (react w (deskAfter w .empty before) message).sent =
        [.failure id invalidParams (utf8 "document is not open: " ++ uri)] := by
  have inquires := inquires_of_isQuery query asks
  refine ⟨seen_without_query_iff w before after query inquires,
    getElem?_seen_without_query w before after query inquires, ?_⟩
  intro uri message id task idle
  have absent := absent_after w uri .empty before (Mapping.get?_empty uri) idle
  rw [sent_of_task w _ message _ task, Task.sent, translationAt?, absent]
  rfl

def inquiry : Json :=
  Method.message .diagnostic (some 1) [("textDocument", .record [("uri", .ofString "a")])]

def discovery : Json :=
  Method.message .translate (some 2) [("textDocument", .record [("uri", .ofString "a")])]

/-- A name that was never opened cannot be translated, but it can once its diagnostics have been asked
for. -/
theorem inquiry_noticed :
    let w : Workshop := ⟨⟨.builtin, .standard⟩, 16⟩
    isQuery inquiry = true ∧
      (seen w .empty [inquiry, discovery]).eraseIdx 0 ≠ seen w .empty [discovery] := by
  intro w
  have asks : isQuery inquiry = true := by decide +kernel
  have task : Task.ofMessage inquiry = .diagnose (.number 1) (utf8 "a") := by decide +kernel
  have first : asksFirst (utf8 "a") [discovery] = true := by decide +kernel
  refine ⟨asks, fun unnoticed => ?_⟩
  exact (query_unnoticed_iff w [] [discovery] inquiry asks).1.mp unnoticed
    ⟨_, _, task, rfl, rfl, first⟩

end Service
end Hexaglyph
