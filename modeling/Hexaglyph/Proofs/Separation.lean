import Hexaglyph.Proofs.Queries
set_option autoImplicit false

/-! Documents apart from each other. All documents of a connection are kept on one desk, and still a
conversation about one of them goes on as if nothing were said about the others. -/
namespace Hexaglyph

namespace Method

def hasDocument : Method → Bool
  | start => false
  | started => false
  | shutdown => false
  | exit => false
  | _ => true

def document? (method : Method) (params : Json) : Option Uri :=
  match method with
  | didOpen => (Params.opened? params).map Params.Opened.uri
  | didClose => Params.uri? params
  | didChange => (Params.changed? params).map Params.Changed.uri
  | diagnostic => Params.uri? params
  | willSaveWaitUntil => Params.saved? params
  | hover => (Params.located? params).map Params.Located.uri
  | translate => Params.uri? params
  | _ => none

end Method

namespace Task

def document? : Task → Option Uri
  | write uri _ _ => some uri
  | close uri => some uri
  | diagnose _ uri => some uri
  | tidy _ uri => some uri
  | hover _ uri _ => some uri
  | translate _ uri => some uri
  | _ => none

/-- Whether a task is a matter of one document at most, and not of the connection. -/
def isLocal : Task → Bool
  | start _ => false
  | confirm _ => false
  | leave => false
  | _ => true

theorem leaves_of_isLocal (t : Task) (contained : t.isLocal = true) : t.leaves = false := by
  cases t with
  | leave => cases contained
  | _ => rfl

theorem calls_of_isLocal (w : Workshop) (before : Desk) (t : Task) (contained : t.isLocal = true) :
    (t.desk w before).calls = before.calls := by
  cases t with
  | start id => cases contained
  | diagnose id uri => rw [desk, Service.refresh_desk, Service.put]
  | _ => rfl

/-- A task does nothing to the documents it is not about. -/
theorem kept_elsewhere (w : Workshop) (uri : Uri) (before : Option Document) (t : Task)
    (elsewhere : t.document? ≠ some uri) : t.kept w uri before = before := by
  cases t with
  | write other version text => exact if_neg fun same => elsewhere (congrArg some same.symm)
  | close other => exact if_neg fun same => elsewhere (congrArg some same.symm)
  | diagnose id other => exact if_neg fun same => elsewhere (congrArg some same.symm)
  | _ => rfl

/-- What is sent depends on the document that the task is about, and on no other. -/
theorem sent_congr (w : Workshop) (first second : Desk) (t : Task)
    (calls : first.calls = second.calls)
    (same : ∀ uri, t.document? = some uri →
      first.documents.get? uri = second.documents.get? uri) :
    t.sent w first = t.sent w second := by
  cases t with
  | diagnose id uri => simp only [sent, textAt, same uri rfl]
  | tidy id uri => simp only [sent, textAt, same uri rfl]
  | hover id uri position => simp only [sent, Service.translationAt?, same uri rfl]
  | translate id uri => simp only [sent, Service.translationAt?, same uri rfl]
  | start id => simp only [sent, calls]
  | _ => rfl

/-- What a request about a document can lead to, given the document that it names: a task about that
document, or none where nothing has changed. Parameters that cannot be read are refused. -/
def Follows (t : Task) (request : Request) : Option Uri → Prop
  | some uri => (t.document? = some uri ∨ t = ignore) ∧ t.isLocal = true
  | none => t = refuse request.id Service.invalidParams (utf8 "invalid parameters")

theorem given_follows {α : Type} (request : Request) (next : α → Task) (uri : α → Uri)
    (params : Option α) (each : ∀ p, (next p).Follows request (some (uri p))) :
    (given request next params).Follows request (params.map uri) := by
  cases params with
  | some p => exact each p
  | none => rfl

theorem ofChange_follows (request : Request) (params : Params.Changed) :
    (ofChange params).Follows request (some params.uri) := by
  unfold ofChange
  cases params.texts.getLast? with
  | some text => exact ⟨Or.inl rfl, rfl⟩
  | none => exact ⟨Or.inr rfl, rfl⟩

theorem ofRequest_follows (request : Request) (method : Method)
    (named : Method.ofName? request.method = some method) (about : method.hasDocument = true) :
    (ofRequest request).Follows request (method.document? request.params) := by
  -- Where the parameters are the name alone, it is what they name.
  have whole : ∀ (next : Uri → Task) (params : Option Uri),
      (∀ uri, (next uri).document? = some uri ∧ (next uri).isLocal = true) →
      (given request next params).Follows request params := by
    intro next params each
    have follows := given_follows request next id params fun uri =>
      ⟨Or.inl (each uri).1, (each uri).2⟩
    rwa [Option.map_id] at follows
  simp only [ofRequest, named]
  cases method with
  | didOpen => exact given_follows request _ _ _ fun _ => ⟨Or.inl rfl, rfl⟩
  | didChange => exact given_follows request _ _ _ (ofChange_follows request)
  | hover => exact given_follows request _ _ _ fun _ => ⟨Or.inl rfl, rfl⟩
  | didClose => exact whole _ _ fun _ => ⟨rfl, rfl⟩
  | diagnostic => exact whole _ _ fun _ => ⟨rfl, rfl⟩
  | willSaveWaitUntil => exact whole _ _ fun _ => ⟨rfl, rfl⟩
  | translate => exact whole _ _ fun _ => ⟨rfl, rfl⟩
  | _ => cases about

theorem ofRequest_without_document (request : Request)
    (other : ∀ method, Method.ofName? request.method = some method → method.hasDocument = false) :
    (ofRequest request).document? = none := by
  unfold ofRequest
  cases named : Method.ofName? request.method with
  | none => rfl
  | some method =>
      have about := other method named
      cases method with
      | start => cases read : Params.start? request.params <;> simp only [given, document?]
      | started => rfl
      | shutdown => rfl
      | exit => rfl
      | _ => cases about

end Task

namespace Service

/-- The request that a message is, with its method, if the service has such a method. -/
def recognized? (message : Json) : Option (Request × Method) :=
  match Incoming.ofJson message with
  | .request request => (Method.ofName? request.method).map fun method => (request, method)
  | _ => none

theorem recognized?_eq_some (message : Json) (request : Request) (method : Method) :
    recognized? message = some (request, method) ↔
      Incoming.ofJson message = .request request ∧
        Method.ofName? request.method = some method := by
  unfold recognized?
  cases Incoming.ofJson message with
  | request given =>
      simp only [Option.map_eq_some_iff, Prod.mk.injEq, Incoming.request.injEq]
      constructor
      · rintro ⟨_, named, rfl, rfl⟩
        exact ⟨rfl, named⟩
      · rintro ⟨rfl, named⟩
        exact ⟨method, named, rfl, rfl⟩
  | response => simp
  | unreadable => simp

theorem task_of_recognized (message : Json) (request : Request) (method : Method)
    (known : recognized? message = some (request, method)) :
    Task.ofMessage message = Task.ofRequest request ∧
      Method.ofName? request.method = some method := by
  obtain ⟨read, named⟩ := (recognized?_eq_some message request method).mp known
  refine ⟨?_, named⟩
  rw [Task.ofMessage, read, Task.ofIncoming]

theorem document_of_unrecognized (message : Json) (unknown : recognized? message = none) :
    (Task.ofMessage message).document? = none := by
  unfold recognized? at unknown
  unfold Task.ofMessage Task.ofIncoming
  cases read : Incoming.ofJson message with
  | request request =>
      simp only [read, Option.map_eq_none_iff] at unknown
      apply Task.ofRequest_without_document
      intro method named
      rw [unknown] at named
      cases named
  | response => rfl
  | unreadable => rfl

/-- Whether a message is about the document of a name: its parameters can be read and name this
one. -/
def isAbout (uri : Uri) (message : Json) : Bool :=
  (recognized? message).any fun (request, method) =>
    method.document? request.params == some uri

/-- Whether a message is for a method about documents, but is not about the document of a name: it
names another one, or its parameters cannot be read. -/
def isElsewhere (uri : Uri) (message : Json) : Bool :=
  (recognized? message).any fun (request, method) =>
    method.hasDocument && method.document? request.params != some uri

theorem isElsewhere_of_isAbout (uri : Uri) (message : Json) (about : isAbout uri message = true) :
    isElsewhere uri message = false := by
  unfold isAbout at about
  unfold isElsewhere
  cases known : recognized? message with
  | none => rfl
  | some found =>
      rw [known, Option.any_some, beq_iff_eq] at about
      simp [about]

/-- A message that is elsewhere does nothing to the document, nor to the connection. -/
theorem task_of_isElsewhere (uri : Uri) (message : Json)
    (elsewhere : isElsewhere uri message = true) :
    (Task.ofMessage message).document? ≠ some uri ∧ (Task.ofMessage message).isLocal = true := by
  unfold isElsewhere at elsewhere
  obtain ⟨⟨request, method⟩, known, apart⟩ := (Option.any_eq_true _ _).mp elsewhere
  rw [Bool.and_eq_true, bne_iff_ne] at apart
  obtain ⟨task, named⟩ := task_of_recognized message request method known
  have follows := Task.ofRequest_follows request method named apart.1
  rw [← task] at follows
  cases found : method.document? request.params with
  | none =>
      rw [found] at follows
      rw [show Task.ofMessage message = _ from follows]
      exact ⟨nofun, rfl⟩
  | some name =>
      rw [found] at follows
      obtain ⟨subject | idle, contained⟩ := follows
      · refine ⟨?_, contained⟩
        rw [subject, ← found]
        exact apart.2
      · refine ⟨?_, contained⟩
        rw [idle]
        exact nofun

/-- Any other message that has to do with a document has to do with this one. -/
theorem document_of_not_isElsewhere (uri other : Uri) (message : Json)
    (here : isElsewhere uri message = false)
    (subject : (Task.ofMessage message).document? = some other) : other = uri := by
  unfold isElsewhere at here
  cases known : recognized? message with
  | none =>
      rw [document_of_unrecognized message known] at subject
      cases subject
  | some found =>
      obtain ⟨request, method⟩ := found
      obtain ⟨task, named⟩ := task_of_recognized message request method known
      rw [task] at subject
      cases about : method.hasDocument with
      | false =>
          -- Such a method has no document to name, whatever its parameters are.
          have absent := Task.ofRequest_without_document request fun again renamed => by
            rw [named] at renamed
            cases renamed
            exact about
          rw [absent] at subject
          cases subject
      | true =>
          simp only [known, Option.any_some, about, Bool.true_and, bne_eq_false_iff_eq] at here
          have follows := Task.ofRequest_follows request method named about
          rw [here] at follows
          obtain ⟨same | idle, -⟩ := follows
          · rw [same] at subject
            exact (Option.some.inj subject).symm
          · rw [idle] at subject
            cases subject

end Service

structure Desk.Alike (uri : Uri) (first second : Desk) : Prop where
  calls : first.calls = second.calls
  document : first.documents.get? uri = second.documents.get? uri

namespace Task

variable (w : Workshop) {uri : Uri} {first second : Desk}

theorem alike_elsewhere (t : Task) (elsewhere : t.document? ≠ some uri)
    (contained : t.isLocal = true) (alike : first.Alike uri second) :
    (t.desk w first).Alike uri second where
  calls := (t.calls_of_isLocal w first contained).trans alike.calls
  document := by rw [get?_desk, t.kept_elsewhere w uri _ elsewhere, alike.document]

theorem alike_desk (t : Task) (alike : first.Alike uri second) :
    (t.desk w first).Alike uri (t.desk w second) where
  calls := t.calls_desk alike.calls
  document := by rw [get?_desk, get?_desk, alike.document]

end Task

namespace Service

def transcript (past : List (Json × Reaction)) : List (Json × List Outgoing) :=
  past.map fun exchange => (exchange.1, exchange.2.sent)

theorem transcript_cons (w : Workshop) (desk : Desk) (message : Json) (rest : List Json) :
    transcript (dialogue w desk (message :: rest)) =
      (message, (Task.ofMessage message).sent w desk) ::
        if (Task.ofMessage message).leaves then []
        else transcript (dialogue w ((Task.ofMessage message).desk w desk) rest) := by
  have performs := react_performs w desk message
  rw [dialogue_cons, transcript, List.map_cons, performs.sent, performs.closed, performs.desk]
  split <;> rfl

/-- A conversation and the same one without the messages that are elsewhere: what is said in both is
answered in the same way. -/
theorem transcript_filter (w : Workshop) (uri : Uri) (messages : List Json) (first second : Desk)
    (alike : first.Alike uri second) :
    (transcript (dialogue w first messages)).filter (fun entry => ! isElsewhere uri entry.1) =
      transcript (dialogue w second (messages.filter fun message => ! isElsewhere uri message)) := by
  -- Only one of the two desks moves on at a message that is elsewhere, and they stay alike.
  induction messages generalizing first second with
  | nil => rfl
  | cons message rest ih =>
      rw [transcript_cons]
      cases elsewhere : isElsewhere uri message with
      | true =>
          obtain ⟨other, contained⟩ := task_of_isElsewhere uri message elsewhere
          have stays := (Task.ofMessage message).leaves_of_isLocal contained
          have next := (Task.ofMessage message).alike_elsewhere w other contained alike
          rw [List.filter_cons_of_neg (by simp [elsewhere]),
            List.filter_cons_of_neg (by simp [elsewhere]), stays]
          exact ih _ _ next
      | false =>
          have same := (Task.ofMessage message).sent_congr w first second alike.calls
            fun name subject => by
              rw [document_of_not_isElsewhere uri name message elsewhere subject]
              exact alike.document
          rw [List.filter_cons_of_pos (by simp [elsewhere]),
            List.filter_cons_of_pos (by simp [elsewhere]), transcript_cons, same]
          cases (Task.ofMessage message).leaves with
          | true => rfl
          | false => exact congrArg _ (ih _ _ ((Task.ofMessage message).alike_desk w alike))

/-- For any messages and any document: what is sent because of the messages about the document is the
same, in the same order, in the conversation without all the messages that are elsewhere. -/
theorem transcript_about_alone (w : Workshop) (messages : List Json) (uri : Uri) :
    let alone := messages.filter fun message => ! isElsewhere uri message
    (transcript (dialogue w .empty messages)).filter (fun entry => isAbout uri entry.1) =
      (transcript (dialogue w .empty alone)).filter (fun entry => isAbout uri entry.1) := by
  intro alone
  rw [← transcript_filter w uri messages .empty .empty ⟨rfl, rfl⟩, List.filter_filter]
  apply List.filter_congr
  intro entry _
  cases about : isAbout uri entry.1 with
  | false => rfl
  | true =>
      rw [isElsewhere_of_isAbout uri entry.1 about]
      rfl

end Service
end Hexaglyph
