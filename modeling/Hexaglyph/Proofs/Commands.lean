import Hexaglyph.Command.Run
set_option autoImplicit false

/-! Commands in a world that is a value. What a command gives and prints is told by functions of the
files and the input alone. On the way it may report, but reports never change what follows. -/
namespace Hexaglyph

/-- A text has been printed, and at most reports have been made beside it: to the error output, the
log or the trace. -/
structure Sandbox.Grown (before : Sandbox) (text : Text) (after : Sandbox) : Prop where
  files : after.files = before.files
  input : after.input = before.input
  output : after.output = before.output ++ text

namespace Sandbox

/-- Nothing has been printed. -/
theorem Grown.quiet {before after : Sandbox} (files : after.files = before.files)
    (input : after.input = before.input) (output : after.output = before.output) :
    before.Grown [] after :=
  ⟨files, input, output.trans (List.append_nil _).symm⟩

theorem Grown.refl (s : Sandbox) : s.Grown [] s := .quiet rfl rfl rfl

theorem Grown.trans {a b c : Sandbox} {t u : Text} (first : a.Grown t b) (second : b.Grown u c) :
    a.Grown (t ++ u) c where
  files := second.files.trans first.files
  input := second.input.trans first.input
  output := by rw [second.output, first.output, List.append_assoc]

/-- The program at a path; a dash stands for the input. -/
def program (s : Sandbox) (path : Text) : Except FileError Text :=
  if path == [Usage.dash] then .ok s.input else s.files.read path

theorem Grown.program_eq {before after : Sandbox} {text : Text} (grown : before.Grown text after)
    (path : Text) : after.program path = before.program path := by
  rw [program, program, grown.files, grown.input]

end Sandbox

namespace Command

abbrev Step (α : Type) := ExceptT Failure (StateM Sandbox) α

/-- A step that prints a text, gives a result, and does nothing else but report. -/
def Gives {α : Type} (x : Step α) (s : Sandbox) (text : Text) (result : Except Failure α) : Prop :=
  ∃ after, s.Grown text after ∧ x.run s = (result, after)

section

variable {α β : Type} {x : Step α} {f : α → Step β} {s : Sandbox} {t u : Text}

theorem gives_pure (a : α) (s : Sandbox) : Gives (pure a) s [] (.ok a) :=
  ⟨s, .refl s, rfl⟩

theorem gives_throw (e : Failure) (s : Sandbox) : Gives (throw e : Step α) s [] (.error e) :=
  ⟨s, .refl s, rfl⟩

theorem gives_lift (x : StateM Sandbox α) (s : Sandbox) (text : Text)
    (grown : s.Grown text (x s).2) : Gives (liftM x) s text (.ok (x s).1) :=
  ⟨(x s).2, grown, rfl⟩

theorem gives_print (text : Text) (s : Sandbox) :
    Gives (liftM (Host.print (m := StateM Sandbox) text)) s text (.ok ()) :=
  gives_lift _ s text ⟨rfl, rfl, rfl⟩

theorem gives_orFail {ε : Type} (wrap : ε → Failure) (r : Except ε α) (s : Sandbox) :
    Gives (orFail wrap r) s [] (r.mapError wrap) := by
  cases r with
  | ok a => exact gives_pure a s
  | error e => exact gives_throw (wrap e) s

theorem run_bind (x : Step α) (f : α → Step β) (s : Sandbox) :
    (x >>= f).run s = match (x.run s).1 with
      | .ok a => (f a).run (x.run s).2
      | .error e => (.error e, (x.run s).2) := by
  change ExceptT.bindCont f (x.run s).1 (x.run s).2 = _
  cases (x.run s).1 <;> rfl

theorem Gives.andThen {a : α} {r : Except Failure β} (first : Gives x s t (.ok a))
    (second : ∀ after, s.Grown t after → Gives (f a) after u r) :
    Gives (x >>= f) s (t ++ u) r := by
  obtain ⟨middle, grown, ran⟩ := first
  obtain ⟨after, grownToo, ranToo⟩ := second middle grown
  refine ⟨after, grown.trans grownToo, ?_⟩
  rw [run_bind, ran]
  exact ranToo

theorem Gives.returning {a : α} (first : Gives x s t (.ok a)) (b : β) :
    Gives (x >>= fun _ => pure b) s t (.ok b) := by
  rw [← List.append_nil t]
  exact first.andThen fun after _ => gives_pure b after

theorem Gives.stop {e : Failure} (first : Gives x s t (.error e)) :
    Gives (x >>= f) s t (.error e) := by
  obtain ⟨after, grown, ran⟩ := first
  refine ⟨after, grown, ?_⟩
  rw [run_bind, ran]

/-- As long as nothing is printed, results combine as they do without a world. -/
theorem Gives.bind {r : Except Failure α} {next : α → Except Failure β} (first : Gives x s [] r)
    (second : ∀ a after, s.Grown [] after → Gives (f a) after [] (next a)) :
    Gives (x >>= f) s [] (r >>= next) := by
  cases r with
  | error e => exact first.stop
  | ok a => exact first.andThen (second a)

theorem gives_forM (f : α → Step PUnit) (text : α → Text)
    (gives : ∀ a s, Gives (f a) s (text a) (.ok ())) (xs : List α) (s : Sandbox) :
    Gives (xs.forM f) s (xs.flatMap text) (.ok ()) := by
  induction xs generalizing s with
  | nil => exact gives_pure _ s
  | cons a rest ih => exact (gives a s).andThen fun after _ => ih after

/-- Reports, one for each element. -/
theorem gives_reports (report : α → StateM Sandbox PUnit)
    (grown : ∀ a (s : Sandbox), s.Grown [] (report a s).2) (xs : List α) (s : Sandbox) :
    Gives (xs.forM fun a => liftM (report a)) s [] (.ok ()) := by
  have all := gives_forM (fun a => liftM (report a)) (fun _ => [])
    (fun a s => gives_lift (report a) s [] (grown a s)) xs s
  rwa [List.flatMap_eq_nil_iff.mpr fun _ _ => rfl] at all

end

/-- The catalog at a path; without a path, the built-in one. -/
def catalogAt (files : FileSystem) (path : Text) : Except Failure Catalog :=
  if path.isEmpty then .ok .builtin
  else (catalogOfRead path (files.read path)).mapError .catalog

def benchAt (files : FileSystem) (options : Options) : Except Failure Bench := do
  let settings ← (Settings.load files options.config).mapError .settings
  let catalog ← catalogAt files
    (if options.catalog.isEmpty then settings.catalogPath else options.catalog)
  return ⟨settings, catalog, ⟨options.debug, settings.logEndpoint⟩⟩

/-- The translation of a program, unless it could not be read or is too large. -/
def translated (b : Bench) (path : Text) (read : Except FileError Text) :
    Except Failure Translation := do
  let program ← read.mapError (.cannotRead path)
  if b.settings.maxInputBytes < program.length then
    .error (.tooLarge path program.length b.settings.maxInputBytes)
  else .ok (b.translator.translate program)

def printed (options : Options) (t : Translation) : Text :=
  t.listing (! options.noComments) ++
    if options.gloss then Text.lineFeed :: t.gloss.flatMap (· ++ [Text.lineFeed]) else []

/-- Overlaps are reported, and nothing else shows that a catalog was loaded. -/
theorem loadCatalog_gives (path : Text) (s : Sandbox) :
    Gives (loadCatalog path) s [] (catalogAt s.files path) := by
  unfold loadCatalog catalogAt
  split
  · exact gives_pure _ s
  · refine (gives_lift _ s [] (.refl s)).andThen fun middle _ => ?_
    rw [← bind_pure (Except.mapError _ _)]
    refine (gives_orFail _ _ middle).bind fun catalog after _ => ?_
    -- What is reported is left open: no report touches the files, the input or the output.
    exact (gives_reports _ (by exact fun _ _ => .quiet rfl rfl rfl) _ after).returning catalog

theorem setUp_gives (options : Options) (s : Sandbox) :
    Gives (setUp options) s [] (benchAt s.files options) := by
  refine (gives_lift _ s [] (.refl s)).andThen fun middle grown => ?_
  refine (gives_orFail _ _ middle).bind fun settings after unchanged => ?_
  have same : after.files = s.files := (grown.trans unchanged).files
  rw [← same]
  refine (loadCatalog_gives _ after).bind fun catalog last _ => ?_
  exact (gives_lift _ last [] (by exact .quiet rfl rfl rfl)).returning _

theorem readProgram_eq (path : Text) (s : Sandbox) :
    (readProgram path : StateM Sandbox _) s = (s.program path, s) := by
  unfold readProgram Sandbox.program
  split <;> rfl

theorem translateFile_gives (b : Bench) (path : Text) (s : Sandbox) :
    Gives (translateFile b path) s [] (translated b path (s.program path)) := by
  have read := gives_lift (readProgram path) s [] (by rw [readProgram_eq]; exact .refl s)
  rw [readProgram_eq] at read
  refine read.andThen fun middle _ => ?_
  refine (gives_orFail _ _ middle).bind fun program after _ => ?_
  dsimp only
  split
  · exact (gives_throw _ after).stop
  · exact (gives_reports _ (by exact fun _ _ => .quiet rfl rfl rfl) _ after).returning _

theorem printListing_gives (b : Bench) (options : Options) (path : Text) (s : Sandbox)
    (t : Translation) (done : translated b path (s.program path) = .ok t) :
    Gives (printListing b options path) s (printed options t) (.ok ()) := by
  have first := translateFile_gives b path s
  rw [done] at first
  refine first.andThen fun after _ => (gives_print _ after).andThen fun last _ => ?_
  split
  · refine (gives_print _ last).andThen fun _ _ => ?_
    exact gives_forM _ _ (fun line => gives_print (line ++ [Text.lineFeed])) t.gloss _
  · exact gives_pure _ last

theorem printListing_fails (b : Bench) (options : Options) (path : Text) (s : Sandbox)
    (e : Failure) (failed : translated b path (s.program path) = .error e) :
    Gives (printListing b options path) s [] (.error e) := by
  have first := translateFile_gives b path s
  rw [failed] at first
  exact first.stop

/-- A command line is understood, then the command is set up, then it is performed. -/
theorem run_gives {words : List Text} {command : Command} {options : Options}
    {arguments : List Text} {b : Bench} {s : Sandbox} {text : Text}
    {result : Except Failure Remaining}
    (parsed : Invocation.parse words = .ok (.run command options arguments))
    (ready : benchAt s.files options = .ok b)
    (performed : ∀ after, s.Grown [] after →
      Gives (perform command options arguments b) after text result) :
    Gives (run words) s text result := by
  unfold run
  rw [parsed]
  refine (gives_pure _ s).andThen fun middle unchanged => ?_
  have prepared := setUp_gives options middle
  rw [unchanged.files, ready] at prepared
  exact prepared.andThen fun after grown => performed after (unchanged.trans grown)

end Command

/-- What a command that ends by itself leaves behind. -/
theorem Outcome.ofCommand_ends {files : FileSystem} {input text : Text} {words : List Text}
    {result : Except Failure Remaining}
    (gives : Command.Gives (Command.run words) (.start files input) text result)
    (ends : ∀ remaining, result = .ok remaining → remaining = .nothing) :
    let outcome := Outcome.ofCommand files input words
    outcome.failure = (match result with | .ok _ => none | .error e => some e) ∧
      outcome.world.files = files ∧ outcome.world.output = text := by
  obtain ⟨after, grown, ran⟩ := gives
  simp only [ofCommand, ran]
  cases result with
  | error e => exact ⟨rfl, grown.files, grown.output⟩
  | ok remaining =>
      cases ends remaining rfl
      exact ⟨rfl, grown.files, grown.output⟩

/-- What is printed by a command line that asks for a listing. -/
theorem Command.output_of_translated {files : FileSystem} {input source : Text} {words : List Text}
    {options : Options} {b : Bench} {t : Translation}
    (parsed : Invocation.parse words = .ok (.run .translate options [source]))
    (ready : benchAt files options = .ok b)
    (done : translated b source ((Sandbox.start files input).program source) = .ok t) :
    (Outcome.ofCommand files input words).failure = none ∧
      (Outcome.ofCommand files input words).world.output = printed options t := by
  have gives : Gives (run words) (.start files input) (printed options t) (.ok .nothing) := by
    refine run_gives parsed ready fun s grown => ?_
    rw [← grown.program_eq] at done
    exact (printListing_gives b options source s t done).returning Remaining.nothing
  have ended := Outcome.ofCommand_ends gives fun _ same => (Except.ok.inj same).symm
  exact ⟨ended.1, ended.2.2⟩

end Hexaglyph
