import Hexaglyph.Proofs.Commands
import Hexaglyph.Proofs.Files
import Mathlib.Data.List.Basic
set_option autoImplicit false

/-! Commands and the files of their user. Whatever can go wrong goes wrong before a file is written,
so a command that fails leaves all files as they were. -/
namespace Hexaglyph
namespace Command

section

variable {α β : Type} {x : Step α} {f : α → Step β}

/-- A step after which all files are as before. -/
def Harmless (x : Step α) : Prop :=
  ∀ s, (x.run s).2.files.contents? = s.files.contents?

/-- A step after which all files are as before, unless it has succeeded. -/
def Cautious (x : Step α) : Prop :=
  ∀ s e, (x.run s).1 = .error e → (x.run s).2.files.contents? = s.files.contents?

def Certain (x : Step α) : Prop :=
  ∀ s, ∃ a, (x.run s).1 = .ok a

theorem harmless_of_gives (gives : ∀ s, ∃ text result, Gives x s text result) : Harmless x := by
  intro s
  obtain ⟨text, result, after, grown, ran⟩ := gives s
  rw [ran, grown.files]

theorem Harmless.cautious (harmless : Harmless x) : Cautious x :=
  fun s _ _ => harmless s

theorem Harmless.bind (first : Harmless x) (second : ∀ a, Harmless (f a)) : Harmless (x >>= f) := by
  intro s
  rw [run_bind]
  split
  · rename_i a _
    exact (second a _).trans (first s)
  · exact first s

/-- What a step leaves alone before a cautious one, both leave alone if they fail. -/
theorem Harmless.bind_cautious (first : Harmless x) (second : ∀ a, Cautious (f a)) :
    Cautious (x >>= f) := by
  intro s e failed
  rw [run_bind] at failed ⊢
  split at failed
  · rename_i a _
    exact (second a _ e failed).trans (first s)
  · exact first s

/-- The same for a step that is done in one of two ways. -/
theorem Harmless.either_cautious {y : Step α} {condition : Prop} [Decidable condition]
    (first : Harmless x) (second : Harmless y) (next : ∀ a, Cautious (f a)) :
    Cautious (if condition then x >>= f else y >>= f) := by
  split
  · exact first.bind_cautious next
  · exact second.bind_cautious next

/-- What follows a cautious step may change files if it cannot fail any more. -/
theorem Cautious.bind_certain (first : Cautious x) (second : ∀ a, Certain (f a)) :
    Cautious (x >>= f) := by
  intro s e failed
  rw [run_bind] at failed ⊢
  split at failed
  · rename_i a _
    obtain ⟨b, succeeded⟩ := second a (x.run s).2
    rw [succeeded] at failed
    cases failed
  · rename_i reason found
    exact first s reason found

theorem harmless_pure (a : α) : Harmless (pure a : Step α) :=
  fun _ => rfl

theorem certain_pure (a : α) : Certain (pure a : Step α) :=
  fun _ => ⟨a, rfl⟩

theorem harmless_throw (e : Failure) : Harmless (throw e : Step α) :=
  fun _ => rfl

theorem cautious_throw (e : Failure) (f : α → Step β) : Cautious (throw e >>= f) :=
  fun _ _ _ => rfl

theorem harmless_orFail {ε : Type} (wrap : ε → Failure) (r : Except ε α) :
    Harmless (orFail wrap r : Step α) :=
  harmless_of_gives fun s => ⟨_, _, gives_orFail wrap r s⟩

theorem harmless_print (text : Text) :
    Harmless (liftM (Host.print (m := StateM Sandbox) text) : Step Unit) :=
  fun _ => rfl

theorem certain_print (text : Text) :
    Certain (liftM (Host.print (m := StateM Sandbox) text) : Step Unit) :=
  fun _ => ⟨(), rfl⟩

end

theorem harmless_readFile (path : Text) :
    Harmless (liftM (Host.readFile (m := StateM Sandbox) path) : Step (Except FileError Text)) :=
  fun _ => rfl

theorem harmless_makeDirectories (path : Text) :
    Harmless (liftM (Host.makeDirectories (m := StateM Sandbox) path) :
      Step (Except FileError Unit)) :=
  fun s => s.files.contents?_makePath path

/-- Writing a file is all or nothing. -/
theorem run_writeFile (path contents : Text) (s : Sandbox) :
    (liftM (Host.writeFile (m := StateM Sandbox) path contents) >>= orFail .file : Step Unit).run s =
      match s.files.write path contents with
      | .ok files => (.ok (), { s with files := files })
      | .error e => (.error (.file e), s) := by
  rw [run_bind]
  change (orFail .file (Sandbox.update (s.files.write path contents) s).1 : Step Unit).run
    (Sandbox.update (s.files.write path contents) s).2 = _
  cases s.files.write path contents with
  | ok files => rfl
  | error e => rfl

theorem cautious_writeFile (path contents : Text) :
    Cautious (liftM (Host.writeFile (m := StateM Sandbox) path contents) >>= orFail .file :
      Step Unit) := by
  intro s e failed
  rw [run_writeFile] at failed ⊢
  split at failed
  · cases failed
  · rfl

theorem harmless_translateFile (b : Bench) (path : Text) :
    Harmless (translateFile b path : Step Translation) :=
  harmless_of_gives fun s => ⟨_, _, translateFile_gives b path s⟩

theorem harmless_loadCatalog (path : Text) : Harmless (loadCatalog path : Step Catalog) :=
  harmless_of_gives fun s => ⟨_, _, loadCatalog_gives path s⟩

theorem harmless_setUp (options : Options) : Harmless (setUp options : Step Bench) :=
  harmless_of_gives fun s => ⟨_, _, setUp_gives options s⟩

theorem harmless_printListing (b : Bench) (options : Options) (path : Text) :
    Harmless (printListing b options path : Step Unit) := by
  apply harmless_of_gives
  intro s
  cases done : translated b path (s.program path) with
  | ok t => exact ⟨_, _, printListing_gives b options path s t done⟩
  | error e => exact ⟨_, _, printListing_fails b options path s e done⟩

theorem cautious_saveListing (b : Bench) (path target : Text) :
    Cautious (saveListing b path target : Step Unit) := by
  refine (harmless_translateFile b path).bind_cautious fun t => ?_
  dsimp only
  split
  · exact cautious_throw _ _
  · -- All that follows the file is a line about it.
    rw [← bind_assoc]
    exact (cautious_writeFile _ _).bind_certain fun _ => certain_print _

theorem files_traces (tracer : Tracer) (messages : List Text) (s : Sandbox) :
    ((messages.forM (Host.trace tracer) : StateM Sandbox PUnit) s).2.files = s.files := by
  induction messages generalizing s with
  | nil => rfl
  | cons message rest ih => exact ih _

/-- Grading reads programs and reports. -/
theorem files_gradeCases (tr : Translator) (tracer : Tracer) (a : Assignment) (cases : List TestCase)
    (s : Sandbox) :
    ((gradeCases tr tracer a cases : StateM Sandbox (List CaseResult)) s).2.files = s.files := by
  induction cases generalizing s with
  | nil => rfl
  | cons c rest ih => exact (ih _).trans (files_traces tracer _ s)

theorem harmless_gradeCases (tr : Translator) (tracer : Tracer) (a : Assignment)
    (cases : List TestCase) :
    Harmless (liftM (gradeCases (m := StateM Sandbox) tr tracer a cases) :
      Step (List CaseResult)) :=
  fun s => congrArg FileSystem.contents? (files_gradeCases tr tracer a cases s)

theorem cautious_saveDocument (path document : Text) :
    Cautious (saveDocument path document : Step Unit) := by
  refine (harmless_makeDirectories _).bind_cautious fun made => ?_
  exact (harmless_orFail _ made).bind_cautious fun _ => cautious_writeFile path document

theorem cautious_printGrade (b : Bench) (path : Text) :
    Cautious (printGrade b path : Step Unit) := by
  refine (harmless_readFile path).bind_cautious fun read => ?_
  refine (harmless_orFail _ _).bind_cautious fun a => ?_
  refine (harmless_pure _).either_cautious (harmless_loadCatalog _) fun catalog => ?_
  refine (harmless_gradeCases _ _ _ _).bind_cautious fun results => ?_
  exact (cautious_saveDocument _ _).bind_certain fun _ => certain_print _

theorem harmless_listen (address : Text) : Harmless (listen address : Step Remaining) := by
  unfold listen
  split
  · exact harmless_pure _
  · exact harmless_throw _

theorem harmless_openPage (b : Bench) (options : Options) :
    Harmless (openPage b options : Step Remaining) :=
  Harmless.bind (fun _ => rfl) fun _ => harmless_listen _

theorem cautious_perform (command : Command) (options : Options) (arguments : List Text)
    (b : Bench) :
    Cautious (perform command options arguments b : Step Remaining) := by
  unfold perform
  split
  · exact (harmless_printListing b options _).cautious.bind_certain fun _ => certain_pure _
  · exact (cautious_saveListing b _ _).bind_certain fun _ => certain_pure _
  · exact (harmless_print _).cautious.bind_certain fun _ => certain_pure _
  · exact (cautious_printGrade b _).bind_certain fun _ => certain_pure _
  · split
    · exact (harmless_listen _).cautious
    · exact (harmless_pure _).cautious
  · exact (harmless_openPage b options).cautious
  · exact (harmless_pure _).cautious

/-- No command line that fails changes a file. -/
theorem cautious_run (words : List Text) : Cautious (run words : Step Remaining) := by
  refine (harmless_orFail _ _).bind_cautious fun invocation => ?_
  cases invocation with
  | help => exact (harmless_print _).cautious.bind_certain fun _ => certain_pure _
  | run command options arguments =>
      exact (harmless_setUp options).bind_cautious (cautious_perform command options arguments)

section

variable {α β : Type} {x : Step α} {f : α → Step β} {s : Sandbox} {text : Text}

/-- Two steps have succeeded if the first one has, and the second one after it. -/
theorem run_bind_ok {b : β} (succeeded : ((x >>= f).run s).1 = .ok b) :
    ∃ a, (x.run s).1 = .ok a ∧ (x >>= f).run s = (f a).run (x.run s).2 := by
  rw [run_bind] at succeeded ⊢
  cases first : (x.run s).1 with
  | ok a => exact ⟨a, rfl, rfl⟩
  | error e =>
      rw [first] at succeeded
      cases succeeded

theorem Gives.of_ok {a : α} {result : Except Failure α} (gives : Gives x s text result)
    (succeeded : (x.run s).1 = .ok a) : result = .ok a ∧ s.Grown text (x.run s).2 := by
  obtain ⟨after, grown, ran⟩ := gives
  rw [ran] at succeeded ⊢
  exact ⟨succeeded, grown⟩

end

/-- What was saved when a listing was: the whole listing of a program with instructions. -/
theorem saveListing_ok (b : Bench) (path target : Text) (s : Sandbox)
    (succeeded : ((saveListing b path target : Step Unit).run s).1 = .ok ()) :
    ∃ t files, translated b path (s.program path) = .ok t ∧ t.lines ≠ [] ∧
      s.files.write (listingPath target) (t.listing true) = .ok files ∧
      ((saveListing b path target : Step Unit).run s).2.files = files := by
  unfold saveListing at succeeded ⊢
  obtain ⟨t, translation, ran⟩ := run_bind_ok succeeded
  obtain ⟨done, grown⟩ := (translateFile_gives b path s).of_ok translation
  rw [ran] at succeeded ⊢
  dsimp only at succeeded ⊢
  split at succeeded
  · cases succeeded
  · rename_i filled
    rw [if_neg filled]
    rw [← bind_assoc] at succeeded ⊢
    obtain ⟨_, written, ran⟩ := run_bind_ok succeeded
    rw [run_writeFile, grown.files] at written
    cases saved : s.files.write (listingPath target) (t.listing true) with
    | error e =>
        rw [saved] at written
        cases written
    | ok files =>
        refine ⟨t, files, done, by simpa using filled, saved, ?_⟩
        rw [ran, run_writeFile, grown.files, saved]
        rfl

/-- Two of the options decide what a command works with, tracing apart. -/
theorem benchAt_congr {files : FileSystem} {options others : Options} {b : Bench}
    (ready : benchAt files options = .ok b) (config : others.config = options.config)
    (catalog : others.catalog = options.catalog) :
    benchAt files others = .ok { b with tracer := ⟨others.debug, b.settings.logEndpoint⟩ } := by
  obtain ⟨settings, loaded, ready⟩ := bind_ok _ _ _ ready
  obtain ⟨chosen, found, built⟩ := bind_ok _ _ _ ready
  cases built
  rw [benchAt, config, catalog, loaded]
  change (catalogAt files _ >>= _) = _
  rw [found]
  rfl

/-- A command line that asks for a listing to be saved, and succeeded. -/
theorem exported {s : Sandbox} {source target : Text} {words : List Text} {options : Options}
    {r : Remaining}
    (parsed : Invocation.parse words = .ok (.run .exportListing options [source, target]))
    (succeeded : ((run words : Step Remaining).run s).1 = .ok r) :
    r = .nothing ∧ ∃ b t files, benchAt s.files options = .ok b ∧
      translated b source (s.program source) = .ok t ∧ t.lines ≠ [] ∧
      s.files.write (listingPath target) (t.listing true) = .ok files ∧
      ((run words : Step Remaining).run s).2.files = files := by
  unfold run at succeeded ⊢
  rw [parsed] at succeeded ⊢
  -- Of the branches for all commands only this one is left.
  change ((setUp options >>= fun b => saveListing b source target >>= fun _ => pure .nothing :
    Step Remaining).run s).1 = .ok r at succeeded
  change r = .nothing ∧ ∃ b t files, _ ∧ _ ∧ _ ∧ _ ∧
    ((setUp options >>= fun b => saveListing b source target >>= fun _ => pure .nothing :
      Step Remaining).run s).2.files = files
  obtain ⟨b, prepared, ran⟩ := run_bind_ok succeeded
  obtain ⟨ready, grown⟩ := (setUp_gives options s).of_ok prepared
  rw [ran] at succeeded ⊢
  obtain ⟨_, saved, ran⟩ := run_bind_ok succeeded
  obtain ⟨t, files, done, filled, written, left⟩ := saveListing_ok b source target _ saved
  rw [grown.program_eq] at done
  rw [grown.files] at written
  rw [ran] at succeeded ⊢
  cases succeeded
  exact ⟨rfl, b, t, files, ready, done, filled, written, left⟩

end Command

namespace Usage

def flagWord (flag : Flag) (value : Text) : Text :=
  dashes ++ (utf8 flag.name ++ equalsSign :: value)

theorem read_flagWord (known : List Flag) (flag : Flag) (value : Text) (rest : List Text)
    (o : Options) (found : flagNamed? known (utf8 flag.name) = some flag)
    (takes : flag.isSwitch = false) :
    read known o (flagWord flag value :: rest) = read known (o.setText flag value) rest := by
  have plain : equalsSign ∉ utf8 flag.name := by cases flag <;> decide
  have named : (utf8 flag.name ++ equalsSign :: value).takeWhile (· != equalsSign) =
      utf8 flag.name := by
    rw [List.takeWhile_append_of_pos, List.takeWhile_cons_of_neg (by simp), List.append_nil]
    intro byte member
    exact bne_iff_ne.mpr fun same => plain (same ▸ member)
  have start : ((utf8 flag.name ++ equalsSign :: value).head? == some dash ||
      (utf8 flag.name ++ equalsSign :: value).head? == some equalsSign) = false := by
    cases flag <;> rfl
  have dropped : (utf8 flag.name ++ equalsSign :: value).drop ((utf8 flag.name).length + 1) =
      value := by
    rw [← List.drop_drop, List.drop_left]
    rfl
  have set : o.set flag value = .ok (o.setText flag value) := by
    rw [Options.set, takes]
    rfl
  have inside : (utf8 flag.name ++ equalsSign :: value).contains equalsSign = true := by simp
  have long : (decide ((flagWord flag value).length < 2) ||
      (flagWord flag value).head? != some dash) = false := by
    simp [flagWord, dashes]
  have more : (flagWord flag value == dashes) = false := by
    simp [flagWord, dashes]
  have dashed : dashes.isPrefixOf (flagWord flag value) = true := by simp [flagWord]
  have body : (flagWord flag value).drop 2 = utf8 flag.name ++ equalsSign :: value := rfl
  rw [read, long, more, dashed]
  simp only [body, start, named, found, inside, dropped, set, Bool.false_eq_true, if_false, if_true]
  rfl

end Usage

/-- Options for a listing as it is, with the settings and the catalog of other options. -/
structure Options.Bare (plain options : Options) : Prop where
  config : plain.config = options.config
  catalog : plain.catalog = options.catalog
  gloss : plain.gloss = false
  noComments : plain.noComments = false

/-- A command line that asks for a listing as it is. -/
def Command.listingLine (config catalog source : Text) : List Text :=
  [utf8 translate.name, Usage.flagWord .config config, Usage.flagWord .catalog catalog,
    Usage.dashes, source]

theorem Command.parse_listingLine (config catalog source : Text) :
    Invocation.parse (listingLine config catalog source) =
      .ok (.run .translate { Options.defaults with config := config, catalog := catalog }
        [source]) := by
  have first : Usage.firstWord? globalFlags (listingLine config catalog source) =
      some (utf8 translate.name) := by
    rw [listingLine, Usage.firstWord?]
    rfl
  have others : Usage.without globalFlags (utf8 translate.name) (listingLine config catalog source) =
      (listingLine config catalog source).tail := by
    rw [listingLine, Usage.without]
    rfl
  have read : Usage.read (.help :: globalFlags ++ translate.ownFlags) .defaults
      (listingLine config catalog source).tail =
        .ok ({ Options.defaults with config := config, catalog := catalog }, [source]) := by
    rw [listingLine, List.tail_cons, Usage.read_flagWord _ _ _ _ _ (by decide) rfl,
      Usage.read_flagWord _ _ _ _ _ (by decide) rfl, Usage.read]
    rfl
  have known : ofName? (utf8 translate.name) = some .translate := by decide
  rw [Invocation.parse, first]
  simp only [known, others, read]
  rfl

namespace Outcome

variable {files : FileSystem} {input : Text} {words : List Text}

/-- The world after a failure is the one in which it happened. -/
theorem of_failure (failed : (ofCommand files input words).failure ≠ none) :
    ∃ e, ((Command.run words : Command.Step Remaining).run (.start files input)).1 = .error e ∧
      (ofCommand files input words).world =
        ((Command.run words : Command.Step Remaining).run (.start files input)).2 := by
  unfold ofCommand at failed ⊢
  split at failed
  · rename_i e s ran
    rw [ran]
    exact ⟨e, rfl, rfl⟩
  · exact absurd rfl failed
  · exact absurd rfl failed

theorem of_success (succeeded : (ofCommand files input words).failure = none) :
    ∃ r, ((Command.run words : Command.Step Remaining).run (.start files input)).1 = .ok r ∧
      (r = .nothing → (ofCommand files input words).world =
        ((Command.run words : Command.Step Remaining).run (.start files input)).2) := by
  unfold ofCommand at succeeded ⊢
  split at succeeded
  · cases succeeded
  · rename_i w tracer s ran
    rw [ran]
    exact ⟨.converse w tracer, rfl, fun other => by cases other⟩
  · rename_i r s _ ran
    rw [ran]
    exact ⟨r, rfl, fun nothing => by rw [nothing]⟩

end Outcome

theorem Translation.listing_of_filled (t : Translation) (filled : t.lines ≠ []) (comments : Bool) :
    ∃ (first : EncodedLine) (rest : Text), t.listing comments = first.listed comments ++ rest := by
  obtain ⟨first, others, split⟩ := List.exists_cons_of_ne_nil filled
  exact ⟨first, others.flatMap (·.listed comments), by rw [listing, split, List.flatMap_cons]⟩

/-- A command that fails leaves all files as they were. Saving a listing that succeeds gives one file
the text that is printed when the same program is translated with the same settings, and leaves all
else as it was. -/
theorem Outcome.files_kept (files : FileSystem) (input : Text) (words : List Text) :
    let outcome := ofCommand files input words
    (outcome.failure ≠ none → outcome.world.files.contents? = files.contents?) ∧
    ∀ options source target,
      Invocation.parse words = .ok (.run .exportListing options [source, target]) →
      outcome.failure = none →
      let path := if 0x2E ∈ Path.lastPart target then target else target ++ utf8 ".sk6"
      ∃ location contents, files.locateNew path = .ok location ∧
        (∀ other, outcome.world.files.entry other =
          if other = location then some (.file contents) else files.entry other) ∧
        outcome.world.files.read path = .ok contents ∧
        (∃ (first : EncodedLine) (rest : Text), contents = first.listed true ++ rest) ∧
        (∃ others plain, Invocation.parse others = .ok (.run .translate plain [source]) ∧
          plain.Bare options) ∧
        ∀ others plain, Invocation.parse others = .ok (.run .translate plain [source]) →
          plain.Bare options →
          (ofCommand files input others).failure = none ∧
            (ofCommand files input others).world.output = contents := by
  intro outcome
  constructor
  · intro failed
    obtain ⟨e, stopped, world⟩ := of_failure failed
    rw [world]
    exact Command.cautious_run words _ e stopped
  · intro options source target parsed succeeded path
    obtain ⟨r, done, world⟩ := of_success succeeded
    obtain ⟨rfl, b, t, after, ready, translation, filled, written, left⟩ :=
      Command.exported parsed done
    have named : Command.listingPath target = path := by
      simp only [Command.listingPath, Path.hasExtension, List.contains_iff_mem, path]
    rw [named] at written
    obtain ⟨location, located, rfl⟩ := FileSystem.write_ok _ _ _ _ written
    have admits := FileSystem.admits_of_locateNew _ _ _ located
    have below := FileSystem.below_root _ _ admits.free
    refine ⟨location, t.listing true, located, ?_, ?_, t.listing_of_filled filled true, ?_, ?_⟩
    · intro other
      rw [world rfl, left]
      exact FileSystem.entry_put files location _ below other
    · rw [world rfl, left]
      exact FileSystem.read_put files path _ location admits
    · exact ⟨_, _, Command.parse_listingLine options.config options.catalog source,
        ⟨rfl, rfl, rfl, rfl⟩⟩
    · intro others plain asked bare
      have prepared : Command.benchAt files options = .ok b := ready
      have printed := Command.output_of_translated asked
        (Command.benchAt_congr prepared bare.config bare.catalog) translation
      rw [Command.printed, bare.gloss, bare.noComments] at printed
      simpa using printed

/-- A working directory with a program, an empty one, and a listing that was saved before. -/
def savedFiles : FileSystem :=
  let blank := FileSystem.blank
  ((blank.put (blank.here ++ [utf8 "glyphs"]) (.file (utf8 "口⿰"))).put
    (blank.here ++ [utf8 "none"]) (.file [])).put
    (blank.here ++ [utf8 "out.sk6"]) (.file (utf8 "old"))

/-- The listing that was saved before is replaced, but not if there is nothing to replace it by. -/
theorem Outcome.files_kept_savedFiles :
    let saving (source : String) := ofCommand savedFiles [] [utf8 "export", utf8 source, utf8 "out"]
    ((saving "glyphs").failure = none ∧
      (saving "glyphs").world.files.read (utf8 "out.sk6") = .ok (utf8 "020001  # 口⿰\n")) ∧
    ((saving "none").failure = some (.nothingToSave (utf8 "none")) ∧
      (saving "none").world.files.contents? = savedFiles.contents? ∧
      savedFiles.read (utf8 "out.sk6") = .ok (utf8 "old")) := by
  intro saving
  have saved : (saving "glyphs").failure = none := by decide +kernel
  have refused : (saving "none").failure = some (.nothingToSave (utf8 "none")) := by decide +kernel
  have printed : (ofCommand savedFiles [] [utf8 "translate", utf8 "glyphs"]).world.output =
      utf8 "020001  # 口⿰\n" := by
    decide +kernel
  obtain ⟨location, contents, -, -, read, -, -, same⟩ := (files_kept savedFiles []
    [utf8 "export", utf8 "glyphs", utf8 "out"]).2 .defaults (utf8 "glyphs") (utf8 "out")
    (by decide +kernel) saved
  have output := (same [utf8 "translate", utf8 "glyphs"] .defaults (by decide +kernel)
    ⟨rfl, rfl, rfl, rfl⟩).2
  refine ⟨⟨saved, ?_⟩, refused, ?_, by decide +kernel⟩
  · rw [← printed, output]
    exact read
  · refine (files_kept savedFiles [] [utf8 "export", utf8 "none", utf8 "out"]).1 ?_
    rw [refused]
    simp

end Hexaglyph
