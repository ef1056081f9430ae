import Hexaglyph.Files.Tree
import Hexaglyph.Proofs.Loading
import Hexaglyph.Proofs.Mappings
set_option autoImplicit false

/-! What changes in a file system when a file is written or directories are made, and what can be
read there afterwards. -/
namespace Hexaglyph.FileSystem

def contents? (fs : FileSystem) (location : Location) : Option Text :=
  match fs.entry location with
  | some (.file contents) => some contents
  | _ => none

def put (fs : FileSystem) (location : Location) (entry : Entry) : FileSystem :=
  { fs with entries := fs.entries.insert location entry }

theorem entry_put (fs : FileSystem) (location : Location) (entry : Entry) (below : location ≠ [])
    (other : Location) :
    (fs.put location entry).entry other = if other = location then some entry else fs.entry other := by
  by_cases root : other = []
  · have apart : other ≠ location := fun same => below (same ▸ root)
    rw [FileSystem.entry, if_pos root, if_neg apart, FileSystem.entry, if_pos root]
  · rw [FileSystem.entry, if_neg root, put, Mapping.get?_insert, FileSystem.entry, if_neg root]

theorem below_root (fs : FileSystem) (location : Location)
    (other : fs.entry location ≠ some .directory) : location ≠ [] := by
  rintro rfl
  exact other rfl

/-- A directory where nothing was changes no file. -/
theorem contents?_put_directory (fs : FileSystem) (location : Location)
    (missing : fs.entry location = none) :
    (fs.put location .directory).contents? = fs.contents? := by
  funext other
  have below := fs.below_root location (by rw [missing]; simp)
  rw [contents?, contents?, entry_put fs location .directory below]
  by_cases same : other = location
  · rw [if_pos same, same, missing]
  · rw [if_neg same]

theorem contents?_makeParts (rooted : Bool) (fs : FileSystem) (location : Location)
    (done parts : List Text) :
    (makeParts rooted fs location done parts).1.contents? = fs.contents? := by
  induction parts generalizing fs location done with
  | nil => rfl
  | cons part rest ih =>
      simp only [makeParts]
      split
      · rfl
      · split
        · exact ih _ _ _
        · rfl
        · rename_i missing
          exact (ih _ _ _).trans (fs.contents?_put_directory _ missing)

/-- Directories are made without a change to any file, be it all of them or only some. -/
theorem contents?_makePath (fs : FileSystem) (path : Text) :
    (fs.makePath path).1.contents? = fs.contents? :=
  contents?_makeParts _ fs _ _ _

theorem enter_eq_ok_iff (fs : FileSystem) (location : Location) :
    fs.enter location = .ok () ↔ fs.entry location = some .directory := by
  unfold enter
  split <;> simp_all

theorem walk_append (fs : FileSystem) (location : Location) (first second : List Text) :
    fs.walk location (first ++ second) =
      (fs.walk location first >>= fun middle => fs.walk middle second) := by
  induction first generalizing location with
  | nil => rfl
  | cons part rest ih =>
      rw [List.cons_append, walk, walk, bind_assoc]
      refine bind_congr fun _ => ?_
      rw [bind_assoc]
      exact bind_congr fun next => ih next

/-- The same way can be gone as long as all directories are still there. -/
theorem walk_mono (fs after : FileSystem)
    (kept : ∀ location, fs.enter location = .ok () → after.enter location = .ok ())
    (location stop : Location) (parts : List Text) (walked : fs.walk location parts = .ok stop) :
    after.walk location parts = .ok stop := by
  induction parts generalizing location with
  | nil => exact walked
  | cons part rest ih =>
      obtain ⟨_, entered, walked⟩ := bind_ok _ _ _ walked
      obtain ⟨next, stepped, walked⟩ := bind_ok _ _ _ walked
      rw [walk, kept location entered, stepped]
      exact ih next walked

/-- Where a file can be written: at a name in a directory that can be walked to. -/
structure Admits (fs : FileSystem) (path : Text) (location : Location) : Prop where
  valid : checkPath path = .ok ()
  way : ∃ before last parent, Path.parts path = before ++ [last] ∧
    fs.walk (fs.start path) before = .ok parent ∧ fs.enter parent = .ok () ∧
    step parent last = .ok location
  free : fs.entry location ≠ some .directory

theorem admits_of_locateNew (fs : FileSystem) (path : Text) (location : Location)
    (found : fs.locateNew path = .ok location) : fs.Admits path location := by
  obtain ⟨_, valid, found⟩ := bind_ok _ _ _ found
  dsimp only at found
  split at found
  · cases found
  · rename_i last before named
    obtain ⟨parent, walked, found⟩ := bind_ok _ _ _ found
    obtain ⟨_, entered, found⟩ := bind_ok _ _ _ found
    split at found
    · cases found
    · rename_i plain
      obtain ⟨place, stepped, found⟩ := bind_ok _ _ _ found
      split at found
      · cases found
      · rename_i free
        cases found
        refine ⟨valid, ⟨before.reverse, last, parent, ?_, walked, entered, stepped⟩, free⟩
        -- No slash at the end was dropped, or the path would have been a directory's.
        have whole : (Path.parts path).reverse.dropWhile List.isEmpty = (Path.parts path).reverse := by
          apply (List.dropWhile_suffix _).eq_of_length_le
          simp only [Bool.or_eq_true, decide_eq_true_eq, not_or] at plain
          omega
        rw [whole] at named
        rw [← List.reverse_reverse (Path.parts path), named, List.reverse_cons]

theorem write_ok (fs after : FileSystem) (path contents : Text)
    (written : fs.write path contents = .ok after) :
    ∃ location, fs.locateNew path = .ok location ∧ after = fs.put location (.file contents) := by
  unfold write at written
  split at written
  · cases written
  · rename_i location found
    cases written
    exact ⟨location, found, rfl⟩

/-- A file that was written can be read at the same path. -/
theorem read_put (fs : FileSystem) (path contents : Text) (location : Location)
    (admits : fs.Admits path location) :
    (fs.put location (.file contents)).read path = .ok contents := by
  obtain ⟨before, last, parent, parts, walked, entered, stepped⟩ := admits.way
  have below := fs.below_root location admits.free
  have kept : ∀ other, fs.enter other = .ok () →
      (fs.put location (.file contents)).enter other = .ok () := by
    intro other directory
    rw [enter_eq_ok_iff] at directory ⊢
    rw [entry_put fs location _ below, if_neg, directory]
    rintro rfl
    exact admits.free directory
  have located : (fs.put location (.file contents)).locate path = .ok location := by
    have walkedToo := walk_mono fs _ kept _ parent before walked
    rw [locate, admits.valid, parts, walk_append]
    change ((fs.put location (.file contents)).walk (fs.start path) before >>= _) = _
    rw [walkedToo]
    change ((fs.put location (.file contents)).enter parent >>= _) = _
    rw [kept parent entered]
    change (step parent last >>= _) = _
    rw [stepped]
    rfl
  rw [read, located]
  simp only
  rw [entry_put fs location _ below, if_pos rfl]

end Hexaglyph.FileSystem
