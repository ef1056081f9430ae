import Hexaglyph.Proofs.Coherence
import Hexaglyph.Proofs.Commands
import Hexaglyph.Web.Http
import Hexaglyph.Web.Socket
set_option autoImplicit false

/-! The ways to have a program translated: by a web request, over a socket, in an editor, and on the
command line. Each has a limit of its own to check and an answer of its own to build, and all of them
agree on both. -/
namespace Hexaglyph

namespace Workshop

variable {w : Workshop} {program : Text}

theorem tooLarge_of_fits (fits : program.length ≤ w.maxInputBytes) :
    w.tooLarge program = false := by
  simp [tooLarge, fits]

theorem tooLarge_of_exceeds (limited : 0 < w.maxInputBytes)
    (exceeds : w.maxInputBytes < program.length) : w.tooLarge program = true := by
  simp [tooLarge, limited, exceeds]

theorem translate_of_fits (fits : program.length ≤ w.maxInputBytes) :
    w.translate program = w.translator.translate program := by
  rw [translate, tooLarge_of_fits fits]
  rfl

theorem translate_of_exceeds (limited : 0 < w.maxInputBytes)
    (exceeds : w.maxInputBytes < program.length) :
    w.translate program =
      ⟨[], [], [], [Diagnostic.inputTooLarge program.length w.maxInputBytes]⟩ := by
  rw [translate, tooLarge_of_exceeds limited exceeds]
  rfl

end Workshop

def HttpRequest.posting (program : Text) : HttpRequest :=
  ⟨utf8 "POST", utf8 "/translate", program, none⟩

namespace HttpRequest

theorem takeWithin_eq (room : Nat) (taken : List UInt8) (left : Text) :
    takeWithin room taken left =
      if room < left.length then .error .tooLarge else .ok (left.reverse ++ taken) := by
  fun_induction takeWithin room taken left with
  | case1 => simp
  | case2 => simp
  | case3 room taken byte rest ih => simp [ih]

/-- Bytes are counted as they come, and the count is exact. -/
theorem readWithin_eq (request : HttpRequest) (room : Nat) :
    request.readWithin room =
      if room < request.body.length then .error .tooLarge else request.readAll := by
  rw [readWithin, takeWithin_eq, readAll]
  split
  · rfl
  · cases request.broken <;> simp [bind, Except.bind]

end HttpRequest

/-- The path leads to the translation, whatever the body is, and what cannot be read of the body is
what is too large elsewhere. -/
theorem Web.respond_posting (w : Workshop) (program : Text) :
    respond w (.posting program) =
      if w.tooLarge program then .plain 413 w.tooLargeMessage
      else ⟨200, utf8 "application/json", [],
        (w.translator.translate program).summary.toJson.render ++ [Text.lineFeed]⟩ := by
  have found : respond w (.posting program) = translate w (.posting program) := rfl
  have posted : ((HttpRequest.posting program).verb != utf8 "POST") = false := rfl
  rw [found, translate, posted, HttpRequest.readWithin_eq, Workshop.tooLarge]
  by_cases limited : 0 < w.maxInputBytes
  · have same : (w.maxInputBytes.toNat < (HttpRequest.posting program).body.length) =
        (w.maxInputBytes < program.length) := by
      simp only [eq_iff_iff, HttpRequest.posting]
      omega
    by_cases exceeds : w.maxInputBytes < program.length
    · simp [limited, same, exceeds]
    · simp only [limited, same, exceeds, decide_true, decide_false, Bool.and_false]
      rfl
  · simp only [limited, decide_false, Bool.false_and]
    rfl

namespace Socket

theorem frameTooLong_of_fits {w : Workshop} {frame : Text}
    (fits : frame.length ≤ w.maxInputBytes + envelope) : frameTooLong w frame = false := by
  simp [frameTooLong, fits]

theorem respond_of_fits {w : Workshop} {frame : Text}
    (fits : frame.length ≤ w.maxInputBytes + envelope) :
    respond w frame = .ok ((answer w (question? frame)).toJson.render ++ [Text.lineFeed]) := by
  rw [respond, frameTooLong_of_fits fits]
  rfl

/-- As long as no frame is too long, each is answered by itself and the connection stays open. -/
theorem converse_append (w : Workshop) (earlier later : List Text)
    (short : ∀ f ∈ earlier, f.length ≤ w.maxInputBytes + envelope) :
    converse w (earlier ++ later) = earlier.map (respond w) ++ converse w later := by
  induction earlier with
  | nil => rfl
  | cons f rest ih =>
      have others := ih fun g member => short g (List.mem_cons_of_mem f member)
      rw [List.cons_append, converse, List.map_cons, respond_of_fits (short f List.mem_cons_self)]
      exact congrArg _ others

theorem getElem?_converse (w : Workshop) (earlier later : List Text) (frame : Text)
    (short : ∀ f ∈ earlier, f.length ≤ w.maxInputBytes + envelope) :
    (converse w (earlier ++ frame :: later))[earlier.length]? = some (respond w frame) := by
  rw [converse_append w earlier _ short,
    List.getElem?_append_right (by rw [List.length_map]), List.length_map, Nat.sub_self, converse]
  cases respond w frame <;> rfl

/-- A frame that carries a program is answered by its summary or by a refusal. -/
theorem reply_carrying (w : Workshop) (earlier later : List Text) (frame program : Text)
    (short : ∀ f ∈ earlier ++ [frame], f.length ≤ w.maxInputBytes + envelope)
    (carries : question? frame = some ⟨utf8 "translate", program⟩) :
    (converse w (earlier ++ frame :: later))[earlier.length]? = some (.ok
      ((if w.tooLarge program then Answer.error w.tooLargeMessage
        else Answer.translation (w.translator.translate program).summary).toJson.render ++
      [Text.lineFeed])) := by
  have before : ∀ f ∈ earlier, f.length ≤ w.maxInputBytes + envelope :=
    fun f member => short f (List.mem_append_left _ member)
  have fits : frame.length ≤ w.maxInputBytes + envelope :=
    short frame (List.mem_append_right _ List.mem_cons_self)
  rw [getElem?_converse w earlier later frame before, respond, frameTooLong_of_fits fits, carries]
  rfl

end Socket

/-- A message asks for the summary of a document. It is that of the text which was written last. -/
theorem Service.sent_of_written (w : Workshop) (messages : List Json) (uri : Uri) (version : Int)
    (program : Text) (last : lastWritten uri (dialogue w .empty messages) = some (version, program))
    (message : Json) (id : RequestId) (asked : Task.ofMessage message = .translate id uri) :
    (react w (deskAfter w .empty messages) message).sent =
      [.result id (w.translate program).summary.toJson] := by
  have kept := (coherent_after w messages uri).written version program last
  rw [sent_of_task w _ message _ asked, Task.sent, translationAt?_of_found kept]
  rfl

/-- A command line that asks for the listing of a program and nothing beside it. The files give it the
translator and the limit, and the files or the input the program. -/
structure Command.Lists (w : Workshop) (program : Text) (files : FileSystem) (input : Text)
    (words : List Text) (path : Text) : Prop where
  asked : ∃ options b, Invocation.parse words = .ok (.run .translate options [path]) ∧
    options.gloss = false ∧ options.noComments = false ∧
    benchAt files options = .ok b ∧ b.workshop = w
  found : (Sandbox.start files input).program path = .ok program

namespace Command.Lists

variable {w : Workshop} {program input path : Text} {files : FileSystem} {words : List Text}

theorem outcome_of_fits (lists : Lists w program files input words path)
    (fits : program.length ≤ w.maxInputBytes) :
    let outcome := Outcome.ofCommand files input words
    outcome.failure = none ∧
      outcome.world.output = (w.translator.translate program).summary.listing := by
  obtain ⟨⟨options, b, parsed, plain, commented, ready, rfl⟩, found⟩ := lists
  have done : translated b path ((Sandbox.start files input).program path) =
      .ok (b.translator.translate program) := by
    rw [found]
    exact if_neg (Int.not_lt.mpr fits)
  have text : printed options (b.translator.translate program) =
      (b.translator.translate program).summary.listing := by
    rw [printed, plain, commented]
    exact List.append_nil _
  have printing := output_of_translated parsed ready done
  rw [text] at printing
  exact printing

theorem outcome_of_exceeds (lists : Lists w program files input words path)
    (exceeds : w.maxInputBytes < program.length) :
    let outcome := Outcome.ofCommand files input words
    outcome.failure = some (.tooLarge path program.length w.maxInputBytes) ∧
      outcome.world.output = [] := by
  obtain ⟨⟨options, b, parsed, -, -, ready, rfl⟩, found⟩ := lists
  have gives : Gives (run words) (.start files input) []
      (.error (.tooLarge path program.length b.settings.maxInputBytes)) := by
    refine run_gives parsed ready fun s grown => ?_
    have failed : translated b path (s.program path) =
        .error (.tooLarge path program.length b.settings.maxInputBytes) := by
      rw [grown.program_eq, found]
      exact if_pos exceeds
    exact (printListing_fails b options path s _ failed).stop
  have ended := Outcome.ofCommand_ends gives fun _ absurd => by cases absurd
  exact ⟨ended.1, ended.2.2⟩

end Command.Lists

/-- Every way to have a program translated leads to the same summary. -/
structure Workshop.Serves (w : Workshop) (program : Text) (summary : Summary) : Prop where
  posted : Web.respond w (.posting program) =
    ⟨200, utf8 "application/json", [], summary.toJson.render ++ [Text.lineFeed]⟩
  framed : ∀ earlier frame later,
    (∀ f ∈ earlier ++ [frame], f.length ≤ w.maxInputBytes + 1024) →
    Socket.question? frame = some ⟨utf8 "translate", program⟩ →
    (Socket.converse w (earlier ++ frame :: later))[earlier.length]? =
      some (.ok ((Json.record [("type", .ofString "translation"),
        ("result", summary.toJson)]).render ++ [Text.lineFeed]))
  edited : ∀ messages uri version,
    Service.lastWritten uri (Service.dialogue w .empty messages) = some (version, program) →
    ∀ message id, Task.ofMessage message = .translate id uri →
      (Service.react w (Service.deskAfter w .empty messages) message).sent =
        [.result id summary.toJson]
  listed : ∀ files input words path, Command.Lists w program files input words path →
    (Outcome.ofCommand files input words).failure = none ∧
      (Outcome.ofCommand files input words).world.output = summary.listing

/-- Every way to have a program translated is closed to it. An editor is told so by one diagnostic,
and by a summary that has nothing else in it. -/
structure Workshop.Refuses (w : Workshop) (program : Text) (excess : Diagnostic) : Prop where
  posted : Web.respond w (.posting program) = .plain 413 w.tooLargeMessage
  framed : ∀ earlier frame later,
    (∀ f ∈ earlier ++ [frame], f.length ≤ w.maxInputBytes + 1024) →
    Socket.question? frame = some ⟨utf8 "translate", program⟩ →
    (Socket.converse w (earlier ++ frame :: later))[earlier.length]? =
      some (.ok ((Json.record [("type", .ofString "error"),
        ("message", .string w.tooLargeMessage)]).render ++ [Text.lineFeed]))
  published : ∀ desk message uri version, Task.ofMessage message = .write uri version program →
    (Service.react w desk message).sent =
      [.notification "textDocument/publishDiagnostics" (.record [("uri", .string uri),
        ("version", .ofInt version), ("diagnostics", .array [excess.toJson])])]
  edited : ∀ messages uri version,
    Service.lastWritten uri (Service.dialogue w .empty messages) = some (version, program) →
    ∀ message id, Task.ofMessage message = .translate id uri →
      (Service.react w (Service.deskAfter w .empty messages) message).sent =
        [.result id (.record [("lines", .array []), ("listing", .string []), ("gloss", .array []),
          ("tokens", .ofNat 0), ("diagnostics", .array [excess.toJson])])]
  listed : ∀ files input words path, Command.Lists w program files input words path →
    (Outcome.ofCommand files input words).failure =
        some (.tooLarge path program.length w.maxInputBytes) ∧
      (Outcome.ofCommand files input words).world.output = []

/-- The limit is at the same byte everywhere, and so is what is given up to it. -/
theorem Workshop.hosts_agree (w : Workshop) (limited : 0 < w.maxInputBytes) (program : Text) :
    (program.length ≤ w.maxInputBytes →
      w.Serves program (w.translator.translate program).summary) ∧
    (w.maxInputBytes < program.length →
      ∃ excess : Diagnostic, excess.severity = .error ∧ excess.range = ⟨⟨0, 0⟩, ⟨0, 0⟩⟩ ∧
        w.Refuses program excess) := by
  constructor
  · intro fits
    have small := tooLarge_of_fits fits
    refine ⟨?_, ?_, ?_, ?_⟩
    · rw [Web.respond_posting, small]
      rfl
    · intro earlier frame later short carries
      rw [Socket.reply_carrying w earlier later frame program short carries, small]
      rfl
    · intro messages uri version last message id asked
      rw [Service.sent_of_written w messages uri version program last message id asked,
        translate_of_fits fits]
    · intro files input words path lists
      exact lists.outcome_of_fits fits
  · intro exceeds
    have large := tooLarge_of_exceeds limited exceeds
    have nothing := translate_of_exceeds limited exceeds
    refine ⟨.inputTooLarge program.length w.maxInputBytes, rfl, rfl, ?_, ?_, ?_, ?_, ?_⟩
    · rw [Web.respond_posting, large]
      rfl
    · intro earlier frame later short carries
      rw [Socket.reply_carrying w earlier later frame program short carries, large]
      rfl
    · intro desk message uri version asked
      rw [Service.sent_of_task w desk message _ asked, Task.sent, nothing]
      rfl
    · intro messages uri version last message id asked
      rw [Service.sent_of_written w messages uri version program last message id asked, nothing]
      rfl
    · intro files input words path lists
      exact lists.outcome_of_exceeds exceeds

/-- A working directory whose settings leave room for six bytes, with a program of seven. -/
def crampedFiles : FileSystem :=
  let blank := FileSystem.blank
  { blank with
    entries := (blank.entries.insert (blank.here ++ [Settings.defaultPath])
      (.file (utf8 "\x7b\"maxInputBytes\": 6\x7d"))).insert (blank.here ++ [utf8 "long"])
      (.file (utf8 "口⿰\n")) }

def crampedBench : Bench :=
  ⟨{ Settings.defaults with maxInputBytes := 6 }, .builtin, ⟨false, []⟩⟩

theorem benchAt_crampedFiles : Command.benchAt crampedFiles .defaults = .ok crampedBench := by
  have loaded : Settings.load crampedFiles [] = .ok crampedBench.settings := by decide +kernel
  rw [Command.benchAt, show Options.defaults.config = [] from rfl, loaded]
  rfl

theorem lists_crampedFiles {program input path : Text}
    (parsed : Invocation.parse [utf8 "translate", path] = .ok (.run .translate .defaults [path]))
    (found : (Sandbox.start crampedFiles input).program path = .ok program) :
    Command.Lists crampedBench.workshop program crampedFiles input [utf8 "translate", path] path :=
  ⟨⟨.defaults, crampedBench, parsed, rfl, rfl, benchAt_crampedFiles, rfl⟩, found⟩

def opening (program : Text) : List Json := [
  Method.message .didOpen none [("textDocument", .record [("uri", .ofString "a"),
    ("version", .ofNat 1), ("text", .string program)])]]

def changing (program : Text) : Json :=
  Method.message .didChange none [
    ("textDocument", .record [("uri", .ofString "a"), ("version", .ofNat 2)]),
    ("contentChanges", .array [.record [("text", .string program)]])]

def asking : Json :=
  Method.message .translate (some 7) [("textDocument", .record [("uri", .ofString "a")])]

/-- A program that takes up all the room is translated, be it opened or the result of a change, and with
one more byte it is not. -/
theorem Workshop.hosts_agree_at_limit :
    let w := crampedBench.workshop
    let summary := (w.translator.translate (utf8 "口⿰")).summary
    (summary.listing = utf8 "020001  # 口⿰\n" ∧
      Web.respond w (.posting (utf8 "口⿰")) =
        ⟨200, utf8 "application/json", [], summary.toJson.render ++ [Text.lineFeed]⟩ ∧
      (Socket.converse w [utf8 "\x7b\"type\":\"translate\",\"text\":\"口⿰\"\x7d"])[0]? =
        some (.ok ((Json.record [("type", .ofString "translation"),
          ("result", summary.toJson)]).render ++ [Text.lineFeed])) ∧
      (Service.react w (Service.deskAfter w .empty (opening (utf8 "口⿰"))) asking).sent =
        [.result (.number 7) summary.toJson] ∧
      (Service.react w (Service.deskAfter w .empty (opening (utf8 "口") ++ [changing (utf8 "口⿰")]))
        asking).sent = [.result (.number 7) summary.toJson] ∧
      (Outcome.ofCommand crampedFiles (utf8 "口⿰")
        [utf8 "translate", utf8 "-"]).world.output = summary.listing) ∧
    (Web.respond w (.posting (utf8 "口⿰\n"))).status = 413 ∧
      (∃ excess : Diagnostic, excess.severity = .error ∧
        (Service.react w (Service.deskAfter w .empty (opening (utf8 "口⿰")))
          (changing (utf8 "口⿰\n"))).sent =
          [.notification "textDocument/publishDiagnostics" (.record [("uri", .ofString "a"),
            ("version", .ofInt 2), ("diagnostics", .array [excess.toJson])])]) ∧
      (Outcome.ofCommand crampedFiles [] [utf8 "translate", utf8 "long"]).failure =
        some (.tooLarge (utf8 "long") 7 6) := by
  intro w summary
  have served := (hosts_agree w (by decide) (utf8 "口⿰")).1 (by decide)
  obtain ⟨excess, severe, -, refused⟩ := (hosts_agree w (by decide) (utf8 "口⿰\n")).2 (by decide)
  refine ⟨⟨by decide +kernel, served.posted, ?_, ?_, ?_, ?_⟩, ?_, ⟨excess, severe, ?_⟩, ?_⟩
  · exact served.framed [] _ [] (by decide) rfl
  · exact served.edited (opening (utf8 "口⿰")) (utf8 "a") 1 (by decide +kernel) asking _
      (by decide +kernel)
  · exact served.edited (opening (utf8 "口") ++ [changing (utf8 "口⿰")]) (utf8 "a") 2
      (by decide +kernel) asking _ (by decide +kernel)
  · exact (served.listed _ _ _ _ (lists_crampedFiles (by decide +kernel) (by decide +kernel))).2
  · rw [refused.posted]
    rfl
  · exact refused.published _ (changing (utf8 "口⿰\n")) (utf8 "a") 2 (by decide +kernel)
  · exact (refused.listed _ _ _ _ (lists_crampedFiles (by decide +kernel) (by decide +kernel))).1

end Hexaglyph
