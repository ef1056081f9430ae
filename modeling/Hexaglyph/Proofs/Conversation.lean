import Hexaglyph.Editor.Service
import Hexaglyph.Proofs.Mappings
set_option autoImplicit false

/-! Conversations with an editor. What a message asks for can be told without a look at the desk, and
doing it is then a matter of a few cases. What holds of whole conversations follows from what holds
of one exchange. -/
namespace Hexaglyph

/-- A message for a method, as an editor writes it. Without an id it is a notification. -/
def Method.message (method : Method) (id : Option Nat) (params : List (String × Json)) : Json :=
  .record ((id.toList.map fun number => ("id", .ofNat number)) ++
    [("method", .ofString method.name), ("params", .record params)])

def Document.translated (w : Workshop) (version : Int) (text : Text) : Document :=
  ⟨version, text, some (w.translate text)⟩

/-- What a message asks of the service. -/
inductive Task where
  /-- Keep a text. A document was opened, or changed by some whole texts, of which the last counts. -/
  | write (uri : Uri) (version : Int) (text : Text)
  | close (uri : Uri)
  | diagnose (id : RequestId) (uri : Uri)
  | tidy (id : RequestId) (uri : Uri)
  | hover (id : RequestId) (uri : Uri) (position : Position)
  | translate (id : RequestId) (uri : Uri)
  | start (id : RequestId)
  /-- Report a failure, unless nobody waits for an answer. -/
  | refuse (id : Option RequestId) (code : Int) (message : Text)
  /-- Answer without saying anything. -/
  | confirm (id : RequestId)
  | ignore
  /-- End the connection. -/
  | leave
deriving DecidableEq

namespace Task

/-- The task of a request whose parameters have been read, if they could be. -/
def given {α : Type} (request : Request) (next : α → Task) : Option α → Task
  | some params => next params
  | none => refuse request.id Service.invalidParams (utf8 "invalid parameters")

def ofChange (params : Params.Changed) : Task :=
  match params.texts.getLast? with
  | some text => write params.uri params.version text
  | none => ignore

def ofRequest (request : Request) : Task :=
  let id := Service.replyId request
  match Method.ofName? request.method with
  | some .didOpen =>
    given request (fun p => write p.uri p.version p.text) (Params.opened? request.params)
  | some .didClose => given request close (Params.uri? request.params)
  | some .didChange => given request ofChange (Params.changed? request.params)
  | some .start => given request (fun _ => start id) (Params.start? request.params)
  | some .started => ignore
  | some .diagnostic => given request (diagnose id) (Params.uri? request.params)
  | some .willSaveWaitUntil => given request (tidy id) (Params.saved? request.params)
  | some .hover => given request (fun p => hover id p.uri p.position) (Params.located? request.params)
  | some .translate => given request (translate id) (Params.uri? request.params)
  | some .shutdown => confirm id
  | some .exit => leave
  | none =>
    refuse request.id Service.methodNotFound (utf8 "method not supported: " ++ request.method)

def ofIncoming : Incoming → Task
  | .request request => ofRequest request
  | .response => ignore
  | .unreadable => leave

def ofMessage (message : Json) : Task :=
  ofIncoming (Incoming.ofJson message)

def desk (w : Workshop) (before : Desk) : Task → Desk
  | write uri version text => Service.put before uri (.translated w version text)
  | close uri => { before with documents := before.documents.erase uri }
  | diagnose _ uri => (Service.refresh w before uri).1
  | start _ => { before with calls := before.calls + 1 }
  | _ => before

def problems (t : Translation) : Json :=
  .array (t.diagnostics.map Diagnostic.toJson)

def shown : Option Text → Json
  | some value =>
    .record [("contents", .record [("kind", .ofString "markdown"), ("value", .string value)])]
  | none => .null

/-- The text of a name, which is empty where nothing is kept. -/
def textAt (before : Desk) (uri : Uri) : Text :=
  ((before.documents.get? uri).map Document.text).getD []

def sent (w : Workshop) (before : Desk) : Task → List Outgoing
  | write uri version text => [Service.publish uri version (w.translate text).diagnostics]
  | diagnose id uri =>
    [.result id (.record [("kind", .ofString "full"),
      ("items", problems (w.translate (textAt before uri)))])]
  | tidy id uri => [.result id (.array [Service.tidyEdit (textAt before uri)])]
  | hover id uri position =>
    [.result id (shown (Service.translationAt? before uri >>= fun translation =>
      translation.hover position))]
  | translate id uri =>
    match Service.translationAt? before uri with
    | some translation => [.result id translation.summary.toJson]
    | none => [.failure id Service.invalidParams (utf8 "document is not open: " ++ uri)]
  | start id =>
    [.result id Service.capabilities,
      .call before.calls "client/registerCapability" Service.registrations]
  | refuse id code message => id.toList.map fun id => .failure id code message
  | confirm id => [.result id .null]
  | _ => []

def leaves : Task → Bool
  | leave => true
  | _ => false

end Task

/-- A reaction that does what a task asks for. What it traces does not matter. -/
structure Reaction.Performs (r : Reaction) (w : Workshop) (before : Desk) (t : Task) : Prop where
  desk : r.desk = t.desk w before
  sent : r.sent = t.sent w before
  closed : r.closed = t.leaves

namespace Service

variable (w : Workshop) (desk : Desk)

theorem fail_performs (request : Request) (code : Int) (message : Text) :
    (fail desk request code message).Performs w desk (.refuse request.id code message) := by
  unfold fail
  cases request.id with
  | some id => exact ⟨rfl, rfl, rfl⟩
  | none => exact ⟨rfl, rfl, rfl⟩

/-- Parameters are read first; nothing is done if they cannot be. -/
theorem withParams_performs {α : Type} (request : Request) (read : Json → Option α)
    (next : α → Reaction) (task : α → Task)
    (performs : ∀ params, (next params).Performs w desk (task params)) :
    (withParams desk request read next).Performs w desk
      (Task.given request task (read request.params)) := by
  unfold withParams
  cases read request.params with
  | some params => exact performs params
  | none =>
      have refused := fail_performs w desk request invalidParams (utf8 "invalid parameters")
      exact ⟨refused.desk, refused.sent, refused.closed⟩

@[simp] theorem documentAt_put (uri : Uri) (document : Document) :
    documentAt (put desk uri document) uri = document := by
  rw [documentAt, put, Mapping.get?_insert, if_pos rfl, Option.getD_some]

@[simp] theorem put_put (uri : Uri) (first second : Document) :
    put (put desk uri first) uri second = put desk uri second := by
  rw [put, put, Mapping.insert_insert, put]

theorem translationAt?_of_found {desk : Desk} {uri : Uri} {document : Document}
    (found : desk.documents.get? uri = some document) :
    translationAt? desk uri = document.translation := by
  rw [translationAt?, found]
  rfl

theorem text_documentAt (uri : Uri) : (documentAt desk uri).text = Task.textAt desk uri := by
  unfold documentAt Task.textAt
  cases desk.documents.get? uri <;> rfl

/-- Whatever translation a document comes with, the one that is kept is of its own text. -/
theorem report_performs (uri : Uri) (document : Document) :
    (report w (put desk uri document) uri).Performs w desk
      (.write uri document.version document.text) := by
  refine ⟨?_, ?_, rfl⟩
  · simp only [report, refresh, Reaction.send, documentAt_put, put_put, Task.desk, Document.translated]
  · simp only [report, refresh, Reaction.send, documentAt_put, Task.sent]

theorem change_performs (params : Params.Changed) :
    (change w desk params).Performs w desk (Task.ofChange params) := by
  unfold change Task.ofChange
  cases params.texts.getLast? with
  | some text => exact report_performs w desk params.uri _
  | none => exact ⟨rfl, rfl, rfl⟩

theorem diagnose_performs (request : Request) (uri : Uri) :
    (diagnose w desk request uri).Performs w desk (.diagnose (replyId request) uri) := by
  refine ⟨rfl, ?_, rfl⟩
  simp only [diagnose, reply, refresh, Reaction.send, text_documentAt, Task.sent, Task.problems]

theorem tidyBeforeSave_performs (request : Request) (uri : Uri) :
    (tidyBeforeSave desk request uri).Performs w desk (.tidy (replyId request) uri) := by
  refine ⟨rfl, ?_, rfl⟩
  simp only [tidyBeforeSave, reply, Reaction.send, Reaction.traced, text_documentAt, Task.sent]

theorem translate_performs (request : Request) (uri : Uri) :
    (translate desk request uri).Performs w desk (.translate (replyId request) uri) := by
  constructor <;> simp only [translate, Task.desk, Task.sent, Task.leaves] <;>
    cases translationAt? desk uri <;> rfl

theorem hover_eq (request : Request) (params : Params.Located) :
    hover desk request params = reply desk request (Task.shown
      (translationAt? desk params.uri >>= fun translation => translation.hover params.position)) := by
  unfold hover
  cases translationAt? desk params.uri with
  | none => rfl
  | some translation =>
      simp only [Option.bind_eq_bind, Option.bind_some]
      cases translation.hover params.position <;> rfl

theorem hover_performs (request : Request) (params : Params.Located) :
    (hover desk request params).Performs w desk
      (.hover (replyId request) params.uri params.position) := by
  rw [hover_eq]
  exact ⟨rfl, rfl, rfl⟩

theorem handle_performs (request : Request) :
    (handle w desk request).Performs w desk (Task.ofRequest request) := by
  unfold handle Task.ofRequest
  cases Method.ofName? request.method with
  | none => exact fail_performs w desk request _ _
  | some method =>
      cases method with
      | didOpen =>
          exact withParams_performs w desk request _ _ _ fun p =>
            report_performs w desk p.uri ⟨p.version, p.text, none⟩
      | didClose => exact withParams_performs w desk request _ _ _ fun _ => ⟨rfl, rfl, rfl⟩
      | didChange => exact withParams_performs w desk request _ _ _ (change_performs w desk)
      | start => exact withParams_performs w desk request _ _ _ fun _ => ⟨rfl, rfl, rfl⟩
      | started => exact ⟨rfl, rfl, rfl⟩
      | diagnostic => exact withParams_performs w desk request _ _ _ (diagnose_performs w desk request)
      | willSaveWaitUntil =>
          exact withParams_performs w desk request _ _ _ (tidyBeforeSave_performs w desk request)
      | hover => exact withParams_performs w desk request _ _ _ (hover_performs w desk request)
      | translate => exact withParams_performs w desk request _ _ _ (translate_performs w desk request)
      | shutdown => exact ⟨rfl, rfl, rfl⟩
      | exit => exact ⟨rfl, rfl, rfl⟩

/-- Everything that can follow from what has been read. -/
theorem receive_performs (incoming : Incoming) :
    (receive w desk incoming).Performs w desk (Task.ofIncoming incoming) := by
  cases incoming with
  | request request =>
      have handled := handle_performs w desk request
      exact ⟨handled.desk, handled.sent, handled.closed⟩
  | response => exact ⟨rfl, rfl, rfl⟩
  | unreadable => exact ⟨rfl, rfl, rfl⟩

theorem react_performs (message : Json) :
    (react w desk message).Performs w desk (Task.ofMessage message) :=
  receive_performs w desk (Incoming.ofJson message)

theorem sent_of_task (message : Json) (t : Task) (asked : Task.ofMessage message = t) :
    (react w desk message).sent = t.sent w desk := by
  rw [(react_performs w desk message).sent, asked]

def refreshed : Option Document → Document
  | some document => Document.translated w document.version document.text
  | none => Document.translated w 0 []

theorem refresh_desk (uri : Uri) :
    (refresh w desk uri).1 = put desk uri (refreshed w (desk.documents.get? uri)) := by
  unfold refresh documentAt
  cases desk.documents.get? uri <;> rfl

end Service

namespace Task

/-- What is kept under a name after a task. It depends on nothing but what was kept there before. -/
def kept (w : Workshop) (uri : Uri) (before : Option Document) : Task → Option Document
  | write other version text =>
    if uri = other then some (.translated w version text) else before
  | close other => if uri = other then none else before
  | diagnose _ other => if uri = other then some (Service.refreshed w before) else before
  | _ => before

theorem get?_desk (w : Workshop) (before : Desk) (t : Task) (uri : Uri) :
    (t.desk w before).documents.get? uri = t.kept w uri (before.documents.get? uri) := by
  cases t with
  | write other version text => exact Mapping.get?_insert _ _ _ _
  | close other => exact Mapping.get?_erase _ _ _
  | diagnose id other =>
      simp only [desk, Service.refresh_desk, Service.put, Mapping.get?_insert, kept]
      by_cases same : uri = other <;> simp only [same, ↓reduceIte]
  | tidy id other => rfl
  | hover id other position => rfl
  | translate id other => rfl
  | start id => rfl
  | refuse id code message => rfl
  | confirm id => rfl
  | ignore => rfl
  | leave => rfl

end Task

/-- What an editor can see of a reaction: what is sent, and whether the connection ends. -/
def Reaction.visible (r : Reaction) : List Outgoing × Bool :=
  (r.sent, r.closed)

namespace Service

variable (w : Workshop)

def deskAfter (desk : Desk) (messages : List Json) : Desk :=
  ((converse w desk messages).getLast?.map Reaction.desk).getD desk

def dialogue (desk : Desk) (messages : List Json) : List (Json × Reaction) :=
  messages.zip (converse w desk messages)

@[simp] theorem converse_nil (desk : Desk) : converse w desk [] = [] := rfl

theorem converse_cons (desk : Desk) (message : Json) (rest : List Json) :
    converse w desk (message :: rest) = react w desk message ::
      if (react w desk message).closed then [] else converse w (react w desk message).desk rest := by
  rw [converse]
  split <;> rfl

theorem deskAfter_cons (desk : Desk) (message : Json) (rest : List Json) :
    deskAfter w desk (message :: rest) =
      if (react w desk message).closed then (react w desk message).desk
      else deskAfter w (react w desk message).desk rest := by
  rw [deskAfter, converse_cons]
  split
  · rfl
  · rw [List.getLast?_cons, deskAfter]
    cases (converse w (react w desk message).desk rest).getLast? <;> rfl

theorem dialogue_cons (desk : Desk) (message : Json) (rest : List Json) :
    dialogue w desk (message :: rest) = (message, react w desk message) ::
      if (react w desk message).closed then [] else dialogue w (react w desk message).desk rest := by
  rw [dialogue, converse_cons, List.zip_cons_cons]
  split
  · rw [List.zip_nil_right]
  · rfl

/-- What holds of a new desk and is kept by every exchange holds after every conversation. -/
theorem dialogue_invariant (holds : List (Json × Reaction) → Desk → Prop) (begins : holds [] .empty)
    (step : ∀ past desk message, holds past desk →
      holds (past ++ [(message, react w desk message)]) (react w desk message).desk)
    (messages : List Json) : holds (dialogue w .empty messages) (deskAfter w .empty messages) := by
  -- The induction takes messages from the front, so it carries what has been said before them.
  suffices general : ∀ past desk, holds past desk →
      holds (past ++ dialogue w desk messages) (deskAfter w desk messages) from
    general [] .empty begins
  induction messages with
  | nil =>
      intro past desk now
      simpa [dialogue, deskAfter] using now
  | cons message rest ih =>
      intro past desk now
      have next := step past desk message now
      rw [dialogue_cons, deskAfter_cons]
      by_cases closed : (react w desk message).closed
      · rwa [if_pos closed, if_pos closed]
      · rw [if_neg closed, if_neg closed]
        simpa only [List.append_assoc, List.singleton_append] using ih _ _ next

def seen (w : Workshop) (desk : Desk) (messages : List Json) : List (List Outgoing × Bool) :=
  (converse w desk messages).map Reaction.visible

def lasts (messages : List Json) : Bool :=
  messages.all fun message => ! (Task.ofMessage message).leaves

@[simp] theorem seen_nil (desk : Desk) : seen w desk [] = [] := rfl

theorem seen_cons (desk : Desk) (message : Json) (rest : List Json) :
    seen w desk (message :: rest) =
      ((Task.ofMessage message).sent w desk, (Task.ofMessage message).leaves) ::
        if (Task.ofMessage message).leaves then []
        else seen w ((Task.ofMessage message).desk w desk) rest := by
  have performs := react_performs w desk message
  rw [seen, converse_cons, List.map_cons, Reaction.visible, performs.sent, performs.closed,
    performs.desk]
  split <;> rfl

theorem seen_append (desk : Desk) (first second : List Json) :
    seen w desk (first ++ second) =
      seen w desk first ++ if lasts first then seen w (deskAfter w desk first) second else [] := by
  induction first generalizing desk with
  | nil => rfl
  | cons message rest ih =>
      have performs := react_performs w desk message
      have later := deskAfter_cons w desk message rest
      rw [performs.closed, performs.desk] at later
      rw [List.cons_append, seen_cons, seen_cons, later, lasts, List.all_cons]
      cases (Task.ofMessage message).leaves with
      | true => rfl
      | false => simpa [lasts] using ih _

theorem length_seen (desk : Desk) (messages : List Json) (lasting : lasts messages) :
    (seen w desk messages).length = messages.length := by
  induction messages generalizing desk with
  | nil => rfl
  | cons message rest ih =>
      simp only [lasts, List.all_cons, Bool.and_eq_true, Bool.not_eq_true'] at lasting
      rw [seen_cons, lasting.1, List.length_cons, List.length_cons]
      exact congrArg (· + 1) (ih _ lasting.2)

theorem length_seen_le (desk : Desk) (messages : List Json) :
    (seen w desk messages).length ≤ messages.length := by
  induction messages generalizing desk with
  | nil => exact Nat.le_refl 0
  | cons message rest ih =>
      rw [seen_cons, List.length_cons, List.length_cons]
      split
      · simp
      · exact Nat.succ_le_succ (ih _)

end Service
end Hexaglyph
