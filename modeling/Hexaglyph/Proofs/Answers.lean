import Hexaglyph.Proofs.Separation
import Hexaglyph.Proofs.Transport
set_option autoImplicit false

/-! Answers: which messages are answered, how often, and with which id. What a message asks for settles
this, whatever documents are open. -/
namespace Hexaglyph

namespace Request

theorem ofJson?_of_read (message : Json) (request : Request)
    (read : Incoming.ofJson message = .request request) : ofJson? message = some request := by
  cases message with
  | object members =>
      simp only [Incoming.ofJson] at read
      split at read
      · cases read
      · split at read
        · cases made : ofJson? (.object members) with
          | none =>
              rw [made] at read
              cases read
          | some given =>
              rw [made] at read
              cases read
              rfl
        · split at read <;> cases read
        · cases read
  | _ => cases read

/-- The id of a request is what the message has under that name. -/
theorem id?_of_read (message : Json) (request : Request)
    (read : Incoming.ofJson message = .request request) : id? message = some request.id := by
  have made := ofJson?_of_read message request read
  unfold ofJson? at made
  split at made
  · obtain ⟨id, found, rfl⟩ := Option.map_eq_some_iff.mp made
    exact found
  · cases made

theorem id_of_absent (message : Json) (request : Request)
    (read : Incoming.ofJson message = .request request)
    (unnumbered : ∀ value, message.get? (utf8 "id") = some value → value = .null) :
    request.id = none := by
  have found := id?_of_read message request read
  unfold id? at found
  cases numbered : message.get? (utf8 "id") with
  | none =>
      rw [numbered] at found
      exact (Option.some.inj found).symm
  | some value =>
      rw [numbered, unnumbered value numbered] at found
      exact (Option.some.inj found).symm

end Request

namespace Outgoing

def answers? (o : Outgoing) : Option Json :=
  if o.isResponse then o.toJson.get? (utf8 "id") else none

def answered? : Outgoing → Option RequestId
  | result id _ => some id
  | failure id _ _ => some id
  | _ => none

def isPublication : Outgoing → Bool
  | notification method _ => method == "textDocument/publishDiagnostics"
  | _ => false

def Publishes (uri : Uri) (version : Int) : Outgoing → Prop
  | notification method params => method = "textDocument/publishDiagnostics" ∧
    params.get? (utf8 "uri") = some (.string uri) ∧
    params.get? (utf8 "version") = some (.ofInt version)
  | _ => False

def isRegistration : Outgoing → Bool
  | call _ method _ => method == "client/registerCapability"
  | _ => false

end Outgoing

theorem Service.publishes_publish (uri : Uri) (version : Int) (diagnostics : List Diagnostic) :
    (publish uri version diagnostics).Publishes uri version :=
  ⟨rfl, rfl, rfl⟩

def Transport.carried? (transport : Transport) (o : Outgoing) : Option Json :=
  o.answered?.map transport.writeId

theorem Transport.carried?_standard : standard.carried? = Outgoing.answers? := by
  funext o
  cases o <;> rfl

namespace Method

/-- Whether requests for a method have an answer. The others are notifications by their nature. -/
def isAnswered : Method → Bool
  | didOpen => false
  | didClose => false
  | didChange => false
  | started => false
  | exit => false
  | _ => true

/-- Whether the parameters of a method can be read. Some methods do not look at them. -/
def understands (method : Method) (params : Json) : Bool :=
  match method with
  | start => (Params.start? params).isSome
  | started => true
  | shutdown => true
  | exit => true
  | _ => (method.document? params).isSome

theorem understands_of_hasDocument (method : Method) (params : Json)
    (about : method.hasDocument = true) :
    method.understands params = (method.document? params).isSome := by
  cases method with
  | start => cases about
  | started => cases about
  | shutdown => cases about
  | exit => cases about
  | _ => rfl

end Method

/-- Whether a request has an answer other than a failure that comes of the request itself. -/
def Request.isServed (request : Request) : Bool :=
  (Method.ofName? request.method).any fun method =>
    method.isAnswered && method.understands request.params

namespace Task

def answered? : Task → Option RequestId
  | diagnose id _ => some id
  | tidy id _ => some id
  | hover id _ _ => some id
  | translate id _ => some id
  | start id => some id
  | refuse id _ _ => id
  | confirm id => some id
  | _ => none

variable (w : Workshop) (before : Desk)

/-- A task is answered once or not at all. -/
theorem carried_sent (transport : Transport) (t : Task) :
    (t.sent w before).filterMap transport.carried? =
      (t.answered?.map transport.writeId).toList := by
  cases t with
  | translate id uri =>
      simp only [sent]
      cases Service.translationAt? before uri <;> rfl
  | refuse id code message => cases id <;> rfl
  | _ => rfl

/-- Whether a task is one that is answered, if anyone waits for an answer. -/
def responds : Task → Bool
  | write .. => false
  | close _ => false
  | ignore => false
  | leave => false
  | _ => true

theorem isPublication_of_responds (t : Task) (responds : t.responds = true) :
    ∀ o ∈ t.sent w before, o.isPublication = false := by
  cases t with
  | translate id uri =>
      simp only [sent]
      cases Service.translationAt? before uri <;> simp [Outgoing.isPublication]
  | refuse id code message => cases id <;> simp [sent, Outgoing.isPublication]
  | write uri version text => cases responds
  | close uri => cases responds
  | ignore => cases responds
  | leave => cases responds
  | _ => simp [sent, Outgoing.isPublication]

theorem leaves_of_responds (t : Task) (responds : t.responds = true) : t.leaves = false := by
  cases t with
  | leave => cases responds
  | _ => rfl

/-- All that is ever sent. -/
theorem kinds_sent (t : Task) : ∀ o ∈ t.sent w before,
    o.isResponse = true ∨ o.isPublication = true ∨ o.isRegistration = true := by
  cases t with
  | translate id uri =>
      simp only [sent]
      cases Service.translationAt? before uri <;> simp [Outgoing.isResponse]
  | refuse id code message => cases id <;> simp [sent, Outgoing.isResponse]
  | write uri version text => simp [sent, Service.publish, Outgoing.isPublication]
  | start id => simp [sent, Outgoing.isResponse, Outgoing.isRegistration]
  | _ => simp [sent, Outgoing.isResponse]

theorem given_answered {α : Type} (request : Request) (next : α → Task) (params : Option α)
    (answer : Option RequestId) (each : ∀ p, (next p).answered? = answer) :
    (given request next params).answered? = if params.isSome then answer else request.id := by
  cases params with
  | some p => exact each p
  | none => rfl

theorem ofChange_answered (params : Params.Changed) : (ofChange params).answered? = none := by
  unfold ofChange
  cases params.texts.getLast? <;> rfl

/-- A request that is understood is answered as its method says, any other one if it has an id. -/
theorem ofRequest_answered (request : Request) (method : Method)
    (named : Method.ofName? request.method = some method) :
    (ofRequest request).answered? =
      if method.understands request.params then
        if method.isAnswered then some (Service.replyId request) else none
      else request.id := by
  simp only [ofRequest, named]
  cases method with
  | didOpen =>
      simp only [Method.understands, Method.document?, Option.isSome_map]
      exact given_answered request _ _ _ fun _ => rfl
  | didChange =>
      simp only [Method.understands, Method.document?, Option.isSome_map]
      exact given_answered request _ _ _ ofChange_answered
  | hover =>
      simp only [Method.understands, Method.document?, Option.isSome_map]
      exact given_answered request _ _ _ fun _ => rfl
  | didClose => exact given_answered request _ _ _ fun _ => rfl
  | start => exact given_answered request _ _ _ fun _ => rfl
  | diagnostic => exact given_answered request _ _ _ fun _ => rfl
  | willSaveWaitUntil => exact given_answered request _ _ _ fun _ => rfl
  | translate => exact given_answered request _ _ _ fun _ => rfl
  | started => rfl
  | shutdown => rfl
  | exit => rfl

theorem given_responds {α : Type} (request : Request) (next : α → Task) (params : Option α)
    (each : ∀ p, (next p).responds = true) : (given request next params).responds = true := by
  cases params with
  | some p => exact each p
  | none => rfl

/-- Requests for anything but the notifications of the protocol are answered. -/
theorem ofRequest_responds (request : Request)
    (answers : ∀ method, Method.ofName? request.method = some method → method.isAnswered = true) :
    (ofRequest request).responds = true := by
  unfold ofRequest
  cases named : Method.ofName? request.method with
  | none => rfl
  | some method =>
      have answered := answers method named
      cases method with
      | start => exact given_responds _ _ _ fun _ => rfl
      | diagnostic => exact given_responds _ _ _ fun _ => rfl
      | willSaveWaitUntil => exact given_responds _ _ _ fun _ => rfl
      | hover => exact given_responds _ _ _ fun _ => rfl
      | translate => exact given_responds _ _ _ fun _ => rfl
      | shutdown => rfl
      | _ => cases answered

/-- A request with an id has that id answered, be its parameters understood or not. -/
theorem ofRequest_answered_of_id (request : Request) (id : RequestId)
    (given : request.id = some id)
    (answers : ∀ method, Method.ofName? request.method = some method → method.isAnswered = true) :
    (ofRequest request).answered? = some id := by
  cases named : Method.ofName? request.method with
  | none => simpa only [ofRequest, named, answered?] using given
  | some method =>
      rw [ofRequest_answered request method named, answers method named, Service.replyId, given]
      split <;> rfl

/-- Without an id the refusals stay silent, and the answers take the id that stands in for it. -/
theorem ofRequest_answered_of_silent (request : Request) (silent : request.id = none) :
    (ofRequest request).answered? = if request.isServed then some .absent else none := by
  unfold Request.isServed
  cases named : Method.ofName? request.method with
  | none => simp [ofRequest, named, answered?, silent]
  | some method =>
      rw [ofRequest_answered request method named, Service.replyId, silent, Option.any_some]
      cases method.understands request.params <;> cases method.isAnswered <;> rfl

theorem sent_ofChange (params : Params.Changed) :
    if params.texts = [] then (ofChange params).sent w before = []
    else ∃ o, (ofChange params).sent w before = [o] ∧ o.Publishes params.uri params.version := by
  unfold ofChange
  cases last : params.texts.getLast? with
  | none =>
      rw [if_pos (List.getLast?_eq_none_iff.mp last)]
      rfl
  | some text =>
      have nonempty : params.texts ≠ [] := by
        intro empty
        rw [empty] at last
        cases last
      rw [if_neg nonempty]
      exact ⟨_, rfl, Service.publishes_publish params.uri params.version _⟩

/-- Parameters that cannot be read are all that matters about a request. -/
theorem ofRequest_refused (request : Request) (method : Method)
    (named : Method.ofName? request.method = some method)
    (garbled : method.understands request.params = false) :
    ofRequest request =
      refuse request.id Service.invalidParams (utf8 "invalid parameters") := by
  cases about : method.hasDocument with
  | true =>
      have follows := ofRequest_follows request method named about
      rw [method.understands_of_hasDocument request.params about] at garbled
      rw [Option.isNone_iff_eq_none.mp (Option.isSome_eq_false_iff.mp garbled)] at follows
      exact follows
  | false =>
      cases method with
      | start =>
          have unread := Option.isNone_iff_eq_none.mp (Option.isSome_eq_false_iff.mp garbled)
          simp only [ofRequest, named, unread, given]
      | started => cases garbled
      | shutdown => cases garbled
      | exit => cases garbled
      | _ => cases about

end Task

namespace Service

variable (w : Workshop)

/-- Whether a message is answered even though nobody waits for it. -/
def repliesAnyway (message : Json) : Bool :=
  (recognized? message).any fun (request, method) =>
    method.isAnswered && method.understands request.params

theorem exists_desk_of_mem_dialogue (desk : Desk) (messages : List Json)
    (exchange : Json × Reaction) (happened : exchange ∈ dialogue w desk messages) :
    ∃ before, exchange.2 = react w before exchange.1 := by
  induction messages generalizing desk with
  | nil => cases happened
  | cons message rest ih =>
      rw [dialogue_cons, List.mem_cons] at happened
      rcases happened with rfl | later
      · exact ⟨desk, rfl⟩
      · split at later
        · cases later
        · exact ih _ later

/-- The answers to a message without an id: none, or one to the id that stands in for it. -/
theorem answered_of_unnumbered (message : Json)
    (unnumbered : ∀ id, message.get? (utf8 "id") = some id → id = .null) :
    (Task.ofMessage message).answered? = if repliesAnyway message then some .absent else none := by
  unfold repliesAnyway recognized? Task.ofMessage
  cases read : Incoming.ofJson message with
  | response => rfl
  | unreadable => rfl
  | request request =>
      have silent := request.id_of_absent message read unnumbered
      rw [Task.ofIncoming, Task.ofRequest_answered_of_silent request silent, Request.isServed,
        Option.any_map]

/-- In any conversation a message without an id is answered exactly if its method has answers and its
parameters can be read, and then with the id zero. Everything else that is sent because of it
publishes diagnostics or announces what the service can do. -/
theorem notification_answered_iff (messages : List Json) (exchange : Json × Reaction)
    (happened : exchange ∈ dialogue w .empty messages)
    (unnumbered : ∀ id, exchange.1.get? (utf8 "id") = some id → id = .null) :
    exchange.2.sent.filterMap Outgoing.answers? =
        (if repliesAnyway exchange.1 then [.ofInt 0] else []) ∧
      ∀ o ∈ exchange.2.sent,
        o.isResponse = true ∨ o.isPublication = true ∨ o.isRegistration = true := by
  obtain ⟨before, reaction⟩ := exists_desk_of_mem_dialogue w .empty messages exchange happened
  rw [reaction, (react_performs w before exchange.1).sent]
  refine ⟨?_, (Task.ofMessage exchange.1).kinds_sent w before⟩
  rw [← Transport.carried?_standard, Task.carried_sent,
    answered_of_unnumbered exchange.1 unnumbered]
  split <;> rfl

/-- The connection is to be shut down, but nobody asks for an answer. -/
def quietShutdown : Json :=
  .record [("method", .ofString Method.shutdown.name)]

/-- All the same there is one. -/
theorem quietShutdown_answered :
    let w : Workshop := ⟨⟨.builtin, .standard⟩, 16⟩
    (quietShutdown.get? (utf8 "id")).isNone ∧
      ∃ reaction, dialogue w .empty [quietShutdown] = [(quietShutdown, reaction)] ∧
        reaction.sent.filterMap Outgoing.answers? = [.ofInt 0] := by
  intro w
  have unnumbered : quietShutdown.get? (utf8 "id") = none := by rfl
  have replies : repliesAnyway quietShutdown = true := by decide +kernel
  have said : dialogue w .empty [quietShutdown] =
      [(quietShutdown, react w .empty quietShutdown)] := by
    rw [dialogue_cons]
    split <;> rfl
  refine ⟨by rw [unnumbered]; rfl, _, said, ?_⟩
  have answered := notification_answered_iff w [quietShutdown]
    (quietShutdown, react w .empty quietShutdown) (by rw [said]; exact List.mem_singleton_self _)
    (fun id numbered => by rw [unnumbered] at numbered; cases numbered)
  rw [replies] at answered
  exact answered.1

end Service

/-- A reaction that answers with some ids, publishes nothing and keeps the connection. -/
structure Reaction.Answers (r : Reaction) (transport : Transport) (ids : List Json) : Prop where
  carried : r.sent.filterMap transport.carried? = ids
  unpublished : ∀ o ∈ r.sent, o.isPublication = false
  stays : r.closed = false

namespace Service

section

variable (w : Workshop) (desk : Desk) (transport : Transport) (request : Request)
  (answers : ∀ method, Method.ofName? request.method = some method → method.isAnswered = true)

include answers

/-- What is sent because of a request follows from the id that its task is answered with. -/
theorem answers_of_answered :
    (receive w desk (.request request)).Answers transport
      ((Task.ofRequest request).answered?.map transport.writeId).toList := by
  have performs := receive_performs w desk (.request request)
  have responds := Task.ofRequest_responds request answers
  refine ⟨?_, ?_, ?_⟩
  · rw [performs.sent]
    exact (Task.ofRequest request).carried_sent w desk transport
  · rw [performs.sent]
    exact (Task.ofRequest request).isPublication_of_responds w desk responds
  · rw [performs.closed]
    exact (Task.ofRequest request).leaves_of_responds responds

theorem answers_of_numbered (id : RequestId) (numbered : request.id = some id) :
    (receive w desk (.request request)).Answers transport [transport.writeId id] := by
  have result := answers_of_answered w desk transport request answers
  rw [Task.ofRequest_answered_of_id request id numbered answers] at result
  exact result

theorem answers_of_silent (silent : request.id = none) :
    (receive w desk (.request request)).Answers transport
      (if request.isServed then [transport.writeId .absent] else []) := by
  have result := answers_of_answered w desk transport request answers
  rw [Task.ofRequest_answered_of_silent request silent] at result
  cases served : request.isServed with
  | true =>
      rw [served] at result
      exact result
  | false =>
      rw [served] at result
      exact result

end

/-- In any state and over any lawful transport: what calls a method that has answers, or no method of the
service, is answered exactly once and nothing is published, if its id is a text or a whole number of 64
bits. The id comes back as it was, except that a negative number comes back as the word with its bits.
An id that is null is as good as none, and any other id ends the connection. What is not handed over as
a request has no answer.

Parameters that cannot be read change nothing, and are reported to a request only. Whoever opens or
changes a document is told its diagnostics, once and with the version that came with it; nothing
follows from an empty change or from closing. -/
theorem request_answered_once (w : Workshop) (transport : Transport) (lawful : transport.Lawful)
    (desk : Desk) (message : Json) :
    let r := receive w desk (transport.read message)
    (∀ name value, message.Calls name value →
      (∀ method, Method.ofName? name = some method → method.isAnswered = true) →
      (∀ carried, RequestId.Echoes value carried → r.Answers transport [carried]) ∧
      (value = .null → ∃ request, transport.read message = .request request ∧
        r.Answers transport (if request.isServed then [transport.writeId .absent] else [])) ∧
      (value ≠ .null → (∀ carried, ¬ RequestId.Echoes value carried) →
        r.desk = desk ∧ r.sent = [] ∧ r.closed = true)) ∧
    (∀ request, transport.read message = .request request →
      (∀ id, request.id = some id →
        (∀ method, Method.ofName? request.method = some method → method.isAnswered = true) →
        r.Answers transport [transport.writeId id]) ∧
      (∀ method, Method.ofName? request.method = some method →
        method.understands request.params = false →
        r.desk = desk ∧ r.sent = request.id.toList.map fun id =>
          .failure id invalidParams (utf8 "invalid parameters")) ∧
      (∀ p, Method.ofName? request.method = some .didOpen →
        Params.opened? request.params = some p →
        ∃ o, r.sent = [o] ∧ o.Publishes p.uri p.version) ∧
      (∀ p, Method.ofName? request.method = some .didChange →
        Params.changed? request.params = some p →
        if p.texts = [] then r.sent = [] else ∃ o, r.sent = [o] ∧ o.Publishes p.uri p.version) ∧
      (∀ uri, Method.ofName? request.method = some .didClose →
        Params.uri? request.params = some uri → r.sent = [])) ∧
    ((∀ request, transport.read message ≠ .request request) → r.desk = desk ∧ r.sent = []) := by
  intro r
  have reading : ∀ incoming, transport.read message = incoming → r = receive w desk incoming :=
    fun _ read => congrArg (receive w desk) read
  refine ⟨?_, ?_, ?_⟩
  · intro name value calls answers
    refine ⟨?_, ?_, ?_⟩
    · intro carried echo
      obtain ⟨request, id, read, rfl, numbered, rfl⟩ :=
        lawful.held message name value carried calls echo
      rw [reading _ read]
      exact answers_of_numbered w desk transport request answers id numbered
    · rintro rfl
      obtain ⟨request, read, rfl, silent⟩ := lawful.null message name calls
      refine ⟨request, read, ?_⟩
      rw [reading _ read]
      exact answers_of_silent w desk transport request answers silent
    · intro present mute
      rw [reading _ (lawful.refused message name value calls present mute)]
      exact ⟨rfl, rfl, rfl⟩
  · intro request read
    rw [reading _ read]
    have performs := receive_performs w desk (.request request)
    rw [Task.ofIncoming] at performs
    refine ⟨?_, ?_, ?_, ?_, ?_⟩
    · intro id numbered answers
      exact answers_of_numbered w desk transport request answers id numbered
    · intro method named garbled
      rw [performs.desk, performs.sent, Task.ofRequest_refused request method named garbled]
      exact ⟨rfl, rfl⟩
    · intro p named opened
      rw [performs.sent]
      simp only [Task.ofRequest, named, opened, Task.given, Task.sent]
      exact ⟨_, rfl, publishes_publish p.uri p.version _⟩
    · intro p named changed
      rw [performs.sent]
      simp only [Task.ofRequest, named, changed, Task.given]
      exact Task.sent_ofChange w desk p
    · intro uri named closed
      rw [performs.sent]
      simp only [Task.ofRequest, named, closed, Task.given, Task.sent]
  · intro other
    cases read : transport.read message with
    | request request => exact absurd read (other request)
    | response =>
        rw [reading _ read]
        exact ⟨rfl, rfl⟩
    | unreadable =>
        rw [reading _ read]
        exact ⟨rfl, rfl⟩

def numberedShutdown (id : Json) : Json :=
  .record [("id", id), ("method", .ofString Method.shutdown.name)]

theorem calls_numberedShutdown (id : Json) :
    (numberedShutdown id).Calls (utf8 Method.shutdown.name) id := by
  have apart : Text.sameFolded (utf8 "id") (utf8 "method") = false ∧
      Text.sameFolded (utf8 "method") (utf8 "id") = false ∧
      Text.sameFolded (utf8 "id") (utf8 "result") = false ∧
      Text.sameFolded (utf8 "method") (utf8 "result") = false ∧
      Text.sameFolded (utf8 "id") (utf8 "error") = false ∧
      Text.sameFolded (utf8 "method") (utf8 "error") = false := by
    decide +kernel
  have same : ∀ t, Text.sameFolded t t = true := fun t => beq_self_eq_true _
  constructor <;> simp [Json.membersOf, apart, same, Json.ofString]

/-- A request about a document with parameters that are none. -/
def garbledHover : Json :=
  .record [("id", .ofString "a"), ("method", .ofString Method.hover.name), ("params", .ofNat 7)]

/-- Below zero the one answer carries another id, a word too large for a signed one has no answer, and
garbled parameters are answered by the failure alone. -/
theorem belowZero_answered_otherwise :
    let w : Workshop := ⟨⟨.builtin, .standard⟩, 16⟩
    (react w .empty (numberedShutdown (.ofInt (-1)))).Answers .standard
        [.ofInt 18446744073709551615] ∧
      Json.ofInt 18446744073709551615 ≠ .ofInt (-1) ∧
      (react w .empty (numberedShutdown (.ofInt 9223372036854775808))).sent = [] ∧
      (react w .empty (numberedShutdown (.ofInt 9223372036854775808))).closed = true ∧
      (react w .empty garbledHover).sent =
        [.failure (.text (utf8 "a")) invalidParams (utf8 "invalid parameters")] := by
  intro w
  have answers : ∀ method, Method.ofName? (utf8 Method.shutdown.name) = some method →
      method.isAnswered = true := by
    intro method named
    have known : Method.ofName? (utf8 Method.shutdown.name) = some .shutdown := by decide +kernel
    rw [known] at named
    cases named
    rfl
  have once := fun id => (request_answered_once w .standard Transport.standard_lawful .empty
    (numberedShutdown id)).1 _ id (calls_numberedShutdown id) answers
  have below : RequestId.Echoes (.ofInt (-1)) (.ofInt 18446744073709551615) := by
    rw [show (18446744073709551615 : Int) = -1 + 18446744073709551616 by decide]
    exact .negative (Text.ofInt (-1)) (-1) (by decide +kernel) (by decide)
  have above : ∀ carried, ¬ RequestId.Echoes (.ofInt 9223372036854775808) carried := by
    have unread : Json.integer? (Text.ofInt 9223372036854775808) = none := by decide +kernel
    rintro carried (⟨⟩ | ⟨_, n, written, -⟩ | ⟨_, n, written, -⟩) <;>
      · rw [unread] at written
        cases written
  obtain ⟨-, silent, closed⟩ := (once (.ofInt 9223372036854775808)).2.2 nofun above
  refine ⟨(once _).1 _ below, ?_, silent, closed, ?_⟩
  · intro same
    exact absurd (Json.number.inj same) (by decide +kernel)
  · -- The message is evaluated once, for all that the hypotheses ask about it.
    have evaluated : (recognized? garbledHover).any (fun (request, method) =>
        decide (method = .hover) && ! method.understands request.params &&
          decide (request.id = some (.text (utf8 "a")))) = true := by
      decide +kernel
    obtain ⟨⟨request, method⟩, known, facts⟩ := (Option.any_eq_true _ _).mp evaluated
    simp only [Bool.and_eq_true, decide_eq_true_eq, Bool.not_eq_true'] at facts
    obtain ⟨⟨rfl, garbled⟩, numbered⟩ := facts
    obtain ⟨read, named⟩ := (recognized?_eq_some _ _ _).mp known
    obtain ⟨-, refused, -⟩ := (request_answered_once w .standard Transport.standard_lawful .empty
      garbledHover).2.1 request read
    obtain ⟨-, failure⟩ := refused .hover named garbled
    rw [numbered] at failure
    exact failure

end Service
end Hexaglyph
