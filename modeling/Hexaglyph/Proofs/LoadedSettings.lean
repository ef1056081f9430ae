import Hexaglyph.Proofs.Files
import Hexaglyph.Settings
import Mathlib.Data.List.Basic
set_option autoImplicit false

/-! Settings that were loaded. A document is read over the defaults and checked afterwards, so what it
leaves open is as it was, and what is loaded can be used. -/
namespace Hexaglyph

namespace Json

section

variable {α : Type} (read : Json → α → Option α)

theorem readOver_cons (start : α) (value : Json) (rest : List Json) :
    readOver read start (value :: rest) =
      (read value start >>= fun next => readOver read next rest) :=
  List.foldlM_cons

theorem readOver_append (start : α) (first second : List Json) :
    readOver read start (first ++ second) =
      (readOver read start first >>= fun middle => readOver read middle second) :=
  List.foldlM_append

theorem readOver_nulls (keeps : ∀ a, read null a = some a) (start : α) (values : List Json)
    (nulls : ∀ value ∈ values, value = null) : readOver read start values = some start := by
  induction values with
  | nil => rfl
  | cons value rest ih =>
      rw [readOver_cons, nulls value List.mem_cons_self, keeps]
      exact ih fun other member => nulls other (List.mem_cons_of_mem value member)

/-- What the values given for a field leave of it: the last that is not null, and without any such
value what was there before. -/
structure Leaves (value? : Json → Option α) (values : List Json) (before after : α) : Prop where
  unset : (∀ value ∈ values, value = null) → after = before
  set : ∀ earlier value later, values = earlier ++ value :: later → value ≠ null →
    (∀ other ∈ later, other = null) → value? value = some after

theorem leaves_of_readOver (value? : Json → Option α) (keeps : ∀ a, read null a = some a)
    (sets : ∀ json a, json ≠ null → read json a = value? json) (start result : α)
    (values : List Json) (done : readOver read start values = some result) :
    Leaves value? values start result := by
  constructor
  · intro nulls
    rw [readOver_nulls read keeps start values nulls] at done
    exact (Option.some.inj done).symm
  · rintro earlier value later rfl given nulls
    rw [readOver_append] at done
    obtain ⟨middle, -, done⟩ := Option.bind_eq_some_iff.mp done
    rw [readOver_cons] at done
    obtain ⟨next, taken, done⟩ := Option.bind_eq_some_iff.mp done
    rw [readOver_nulls read keeps next later nulls] at done
    cases done
    rw [← sets value middle given, taken]

end

def text? : Json → Option Text
  | string value => some value
  | _ => none

def int? : Json → Option Int
  | number literal => integer? literal
  | _ => none

theorem leaves_of_textField (name : String) (members : List (Text × Json)) (start result : Text)
    (done : textField name members start = some result) :
    Leaves text? (valuesOf name members) start result := by
  refine leaves_of_readOver readText text? (fun _ => rfl) ?_ start result _ done
  intro json before given
  cases json with
  | null => exact absurd rfl given
  | _ => rfl

theorem leaves_of_integerField (name : String) (members : List (Text × Json)) (start result : Int)
    (done : integerField name members start = some result) :
    Leaves int? (valuesOf name members) start result := by
  refine leaves_of_readOver readInteger int? (fun _ => rfl) ?_ start result _ done
  intro json before given
  cases json with
  | null => exact absurd rfl given
  | _ => rfl

def byte? : Json → Option UInt8
  | number literal => ((Text.toNat? literal).filter (· < 256)).map UInt8.ofNat
  | _ => none

/-- The bytes that a value is: a list of them, or a text that spells them; a null has none. -/
def bytes? : Json → Option (List UInt8)
  | null => some []
  | string value => Base64.decode? value
  | array items => items.mapM byte?
  | _ => none

/-- What the values given for a list of bytes leave of it: the last one, and without any value what was
there before. A null inside a list is left out here, for it stands for the byte that was there. -/
structure LeavesBytes (values : List Json) (before after : List UInt8) : Prop where
  unset : values = [] → after = before
  set : ∀ earlier value, values = earlier ++ [value] →
    (∀ items, value = array items → null ∉ items) → bytes? value = some after

/-- Only a null leaves the byte that was there. -/
theorem readByte_eq (value : Json) (given : value ≠ null) (before : UInt8) :
    readByte value before = byte? value := by
  cases value with
  | null => exact absurd rfl given
  | _ => rfl

/-- Without a null among them, items do not depend on what stood in their places. -/
theorem readItems_eq (values : List Json) (whole : null ∉ values) (before : List UInt8) :
    readItems readByte 0 values before = values.mapM byte? := by
  induction values generalizing before with
  | nil => rfl
  | cons value rest ih =>
      rw [List.mem_cons, not_or] at whole
      have given := Ne.symm whole.1
      cases before with
      | nil => rw [readItems, readByte_eq value given, ih whole.2, List.mapM_cons]
      | cons old stood => rw [readItems, readByte_eq value given, ih whole.2, List.mapM_cons]

theorem items_readBytes (value : Json) (before after : Shelf UInt8)
    (whole : ∀ items, value = array items → null ∉ items)
    (done : readBytes value before = some after) : bytes? value = some after.items := by
  cases value with
  | null =>
      cases done
      rfl
  | string text =>
      obtain ⟨⟨items, spare⟩, decoded, done⟩ := Option.bind_eq_some_iff.mp done
      obtain ⟨bytes, found, decoded⟩ := Option.bind_eq_some_iff.mp decoded
      cases decoded
      cases done
      exact found
  | array items =>
      cases items with
      | nil =>
          cases done
          rfl
      | cons item rest =>
          obtain ⟨items, taken, rfl⟩ := Option.map_eq_some_iff.mp done
          rw [readItems_eq _ (whole _ rfl)] at taken
          exact taken
  | bool _ => cases done
  | number _ => cases done
  | object _ => cases done

theorem leaves_of_bytesField (name : String) (members : List (Text × Json))
    (start result : List UInt8) (done : bytesField name members start = some result) :
    LeavesBytes (valuesOf name members) start result := by
  obtain ⟨shelf, read, rfl⟩ := Option.map_eq_some_iff.mp done
  constructor
  · intro nothing
    rw [nothing] at read
    cases read
    rfl
  · -- What was read before the last value is still in spare places, where only a null shows it.
    intro earlier value last whole
    rw [last, readOver_append] at read
    obtain ⟨middle, -, read⟩ := Option.bind_eq_some_iff.mp read
    rw [readOver_cons] at read
    obtain ⟨next, taken, read⟩ := Option.bind_eq_some_iff.mp read
    cases read
    exact items_readBytes value middle shelf whole taken

end Json

namespace Settings

/-- Settings as the members of a document give them. -/
structure GivenBy (s : Settings) (members : List (Text × Json)) : Prop where
  catalogPath : Json.Leaves Json.text? (Json.valuesOf "catalogPath" members)
    defaults.catalogPath s.catalogPath
  registerQueue : Json.LeavesBytes (Json.valuesOf "registerQueue" members)
    defaults.registerQueue s.registerQueue
  maxInputBytes : Json.Leaves Json.int? (Json.valuesOf "maxInputBytes" members)
    defaults.maxInputBytes s.maxInputBytes
  languageServerAddr : Json.Leaves Json.text? (Json.valuesOf "languageServerAddr" members)
    defaults.languageServerAddr s.languageServerAddr
  webAddr : Json.Leaves Json.text? (Json.valuesOf "webAddr" members) defaults.webAddr s.webAddr
  logEndpoint : Json.Leaves Json.text? (Json.valuesOf "logEndpoint" members)
    defaults.logEndpoint s.logEndpoint

theorem givenBy_of_ofJson? (json : Json) (s : Settings) (read : ofJson? json = some s) :
    ∃ members, Json.members? [json] = some members ∧ s.GivenBy members := by
  obtain ⟨members, found, read⟩ := Option.bind_eq_some_iff.mp read
  obtain ⟨catalogPath, first, read⟩ := Option.bind_eq_some_iff.mp read
  obtain ⟨registerQueue, second, read⟩ := Option.bind_eq_some_iff.mp read
  obtain ⟨maxInputBytes, third, read⟩ := Option.bind_eq_some_iff.mp read
  obtain ⟨languageServerAddr, fourth, read⟩ := Option.bind_eq_some_iff.mp read
  obtain ⟨webAddr, fifth, read⟩ := Option.bind_eq_some_iff.mp read
  obtain ⟨logEndpoint, sixth, read⟩ := Option.bind_eq_some_iff.mp read
  cases read
  exact ⟨members, found, {
    catalogPath := Json.leaves_of_textField _ _ _ _ first
    registerQueue := Json.leaves_of_bytesField _ _ _ _ second
    maxInputBytes := Json.leaves_of_integerField _ _ _ _ third
    languageServerAddr := Json.leaves_of_textField _ _ _ _ fourth
    webAddr := Json.leaves_of_textField _ _ _ _ fifth
    logEndpoint := Json.leaves_of_textField _ _ _ _ sixth }⟩

theorem validate_ok (s result : Settings) (passed : s.validate = .ok result) :
    result = s ∧ s.registerQueue ≠ [] ∧ 0 < s.maxInputBytes := by
  unfold validate at passed
  split at passed
  · cases passed
  · split at passed
    · cases passed
    · rename_i filled positive
      cases passed
      exact ⟨rfl, by simpa using filled, by omega⟩

end Settings

/-- Why the document at a path gives no settings. -/
inductive SettingsFault.Arises (fs : FileSystem) (path : Text) : SettingsFault → Prop
  | cannotRead (cause : FileError) (failed : fs.read path = .error cause)
      (needed : ¬ (cause.fault = .notFound ∧ path = Settings.defaultPath)) :
      Arises fs path (.cannotRead cause)
  | malformed (contents : Text) (read : fs.read path = .ok contents)
      (undecided : (Json.parse? contents >>= Settings.ofJson?) = none) :
      Arises fs path .malformed
  | emptyQueue (contents : Text) (s : Settings) (read : fs.read path = .ok contents)
      (decoded : (Json.parse? contents >>= Settings.ofJson?) = some s)
      (empty : s.registerQueue = []) : Arises fs path .emptyQueue
  | limitNotPositive (contents : Text) (s : Settings) (read : fs.read path = .ok contents)
      (decoded : (Json.parse? contents >>= Settings.ofJson?) = some s)
      (small : s.maxInputBytes ≤ 0) : Arises fs path .limitNotPositive

namespace Settings

theorem arises_of_ofContents (fs : FileSystem) (path contents : Text)
    (read : fs.read path = .ok contents) (fault : SettingsFault)
    (failed : ofContents contents = .error fault) : fault.Arises fs path := by
  unfold ofContents at failed
  split at failed
  · rename_i s decoded
    unfold validate at failed
    split at failed
    · rename_i empty
      cases failed
      exact .emptyQueue contents s read decoded (by simpa using empty)
    · split at failed
      · rename_i small
        cases failed
        exact .limitNotPositive contents s read decoded small
      · cases failed
  · rename_i undecided
    cases failed
    exact .malformed contents read undecided

/-- A document that was accepted. -/
theorem givenBy_of_ofContents (contents : Text) (s : Settings)
    (accepted : ofContents contents = .ok s) :
    s.registerQueue ≠ [] ∧ 0 < s.maxInputBytes ∧
      ∃ json members, Json.parse? contents = some json ∧ Json.members? [json] = some members ∧
        s.GivenBy members := by
  unfold ofContents at accepted
  split at accepted
  · rename_i decoded found
    obtain ⟨rfl, filled, positive⟩ := validate_ok _ _ accepted
    obtain ⟨json, parsed, read⟩ := Option.bind_eq_some_iff.mp found
    obtain ⟨members, given, byDocument⟩ := givenBy_of_ofJson? json s read
    exact ⟨filled, positive, json, members, parsed, given, byDocument⟩
  · cases accepted

end Settings

def FileSystem.Lacks (fs : FileSystem) (path : Text) : Prop :=
  ∃ cause, fs.read path = .error cause ∧ cause.fault = .notFound

namespace Settings

theorem locate_defaultPath (fs : FileSystem) (home : fs.entry fs.here = some .directory) :
    fs.locate defaultPath = .ok (fs.here ++ [defaultPath]) := by
  have parts : Path.parts defaultPath = [defaultPath] := by decide
  have start : fs.start defaultPath = fs.here := if_neg (by decide)
  have valid : FileSystem.checkPath defaultPath = .ok () := by decide
  have stepped : FileSystem.step fs.here defaultPath = .ok (fs.here ++ [defaultPath]) := rfl
  rw [FileSystem.locate, valid, parts, start]
  change (fs.enter fs.here >>= fun _ => FileSystem.step fs.here defaultPath >>= _) = _
  rw [(fs.enter_eq_ok_iff fs.here).mpr home, stepped]
  rfl

/-- In a working directory that exists, the usual document is missing if its name has no entry. -/
theorem lacks_defaultPath_iff (fs : FileSystem) (home : fs.entry fs.here = some .directory) :
    fs.Lacks defaultPath ↔ fs.entry (fs.here ++ [defaultPath]) = none := by
  simp only [FileSystem.Lacks, FileSystem.read, locate_defaultPath fs home]
  cases found : fs.entry (fs.here ++ [defaultPath]) with
  | none => simp
  | some entry => cases entry <;> simp

theorem pathFor_eq (asked : Text) :
    pathFor asked = if asked = [] then utf8 "skreeConfig.json" else asked := by
  simp only [pathFor, defaultPath, List.isEmpty_iff]

theorem pathFor_eq_defaultPath_iff (asked : Text) :
    pathFor asked = defaultPath ↔ asked = [] ∨ asked = defaultPath := by
  unfold pathFor
  split
  · rename_i empty
    simp [List.isEmpty_iff.mp empty]
  · rename_i filled
    simp [List.isEmpty_iff.not.mp filled]

section

variable {fs : FileSystem} {asked contents : Text} {cause : FileError}

/-- A document that was read decides what is loaded. -/
theorem load_of_read (read : fs.read (pathFor asked) = .ok contents) :
    load fs asked = (ofContents contents).mapError (⟨pathFor asked, ·⟩) := by
  rw [load, read]
  rfl

/-- Without a document only the usual one may be missing. -/
theorem load_of_unread (unread : fs.read (pathFor asked) = .error cause) :
    load fs asked = if cause.fault = .notFound ∧ pathFor asked = defaultPath then .ok defaults
      else .error ⟨pathFor asked, .cannotRead cause⟩ := by
  rw [load, unread]
  rfl

/-- The defaults are loaded in place of a document exactly where the usual one is missing. -/
theorem load_defaults_iff :
    (load fs asked = .ok defaults ∧ ∀ contents, fs.read (pathFor asked) ≠ .ok contents) ↔
      (asked = [] ∨ asked = defaultPath) ∧ fs.Lacks defaultPath := by
  rw [← pathFor_eq_defaultPath_iff]
  constructor
  · rintro ⟨loaded, unread⟩
    cases read : fs.read (pathFor asked) with
    | ok contents => exact absurd read (unread contents)
    | error cause =>
        rw [load_of_unread read] at loaded
        split at loaded
        · rename_i missing
          refine ⟨missing.2, cause, ?_, missing.1⟩
          rw [← missing.2, read]
        · cases loaded
  · rintro ⟨usual, cause, unread, missing⟩
    rw [← usual] at unread
    refine ⟨?_, ?_⟩
    · rw [load_of_unread unread, if_pos ⟨missing, usual⟩]
    · intro contents read
      rw [unread] at read
      cases read

end

/-- Loading gives settings that can be used: those of the document that was read, or the defaults where
no document needs to be. Or it gives a fault with the path that was tried. -/
theorem load_usable (fs : FileSystem) (asked : Text) :
    let path := if asked = [] then utf8 "skreeConfig.json" else asked
    ((∃ s, load fs asked = .ok s ∧ s.registerQueue ≠ [] ∧ 0 < s.maxInputBytes ∧
        ((∃ contents json members, fs.read path = .ok contents ∧ Json.parse? contents = some json ∧
            Json.members? [json] = some members ∧ s.GivenBy members) ∨
          s = defaults ∧ ∀ contents, fs.read path ≠ .ok contents)) ∨
      ∃ e, load fs asked = .error e ∧ e.path = path ∧ e.fault.Arises fs path) ∧
    ((load fs asked = .ok defaults ∧ ∀ contents, fs.read path ≠ .ok contents) ↔
      (asked = [] ∨ asked = utf8 "skreeConfig.json") ∧ fs.Lacks (utf8 "skreeConfig.json")) ∧
    (fs.entry fs.here = some .directory →
      (fs.Lacks (utf8 "skreeConfig.json") ↔
        fs.entry (fs.here ++ [utf8 "skreeConfig.json"]) = none)) := by
  rw [← pathFor_eq]
  intro path
  refine ⟨?_, load_defaults_iff, lacks_defaultPath_iff fs⟩
  cases read : fs.read path with
  | ok contents =>
      rw [load_of_read read]
      cases result : ofContents contents with
      | ok s =>
          obtain ⟨filled, positive, json, members, parsed, given, byDocument⟩ :=
            givenBy_of_ofContents contents s result
          exact Or.inl ⟨s, rfl, filled, positive,
            Or.inl ⟨contents, json, members, rfl, parsed, given, byDocument⟩⟩
      | error fault =>
          exact Or.inr ⟨⟨path, fault⟩, rfl, rfl,
            arises_of_ofContents fs path contents read fault result⟩
  | error cause =>
      rw [load_of_unread read]
      split
      · exact Or.inl ⟨defaults, rfl, by decide, by decide, Or.inr ⟨rfl, by simp⟩⟩
      · rename_i needed
        exact Or.inr ⟨⟨path, .cannotRead cause⟩, rfl, rfl, .cannotRead cause read needed⟩

/-- A working directory with a document that gives one field twice, its name in different case, and
leaves the others open. -/
def repeatedFiles : FileSystem :=
  let blank := FileSystem.blank
  blank.put (blank.here ++ [defaultPath]) (.file (utf8
    "\x7b\"registerQueue\": null, \"RegisterQueue\": [7, null], \"webAddr\": null\x7d"))

/-- The document decides where it is, and the defaults do where it is missing. -/
theorem load_usable_repeatedFiles :
    load repeatedFiles [] = .ok { defaults with registerQueue := [7, 0] } ∧
      load FileSystem.blank [] = .ok defaults ∧
      ∃ e, load FileSystem.blank (utf8 "other.json") = .error e ∧ e.path = utf8 "other.json" := by
  obtain ⟨-, usual, missing⟩ := load_usable FileSystem.blank []
  have lacks := (missing (by decide)).mpr (by decide)
  have refused : (load FileSystem.blank (utf8 "other.json")).toBool = false := by decide +kernel
  refine ⟨by decide +kernel, (usual.mpr ⟨Or.inl rfl, lacks⟩).1, ?_⟩
  rcases (load_usable FileSystem.blank (utf8 "other.json")).1 with
    ⟨s, loaded, -⟩ | ⟨e, failed, path, -⟩
  · rw [loaded] at refused
    cases refused
  · exact ⟨e, failed, path⟩

end Settings
end Hexaglyph
