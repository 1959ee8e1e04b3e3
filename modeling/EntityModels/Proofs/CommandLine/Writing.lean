import EntityModels.CommandLine.FileTree
import EntityModels.Proofs.CommandLine.Reading

/-!
Writing a text to a path: the directories around it are made, and then the file is written. In a
tree of files, a file that is written makes directories of the locations above it and of no others,
so every path that led somewhere leads there still, and the file is read as it was written.
-/
namespace EntityModels.CommandLine

section Output

variable {σ α β ε : Type} {files : Files (StateM σ)} {s s' : σ} {path text : String}

/-- Two steps that may change the files succeed when each does, the second on the files that the
first has left. -/
theorem run_bind_eq_ok_iff {x : ExceptT ε (StateM σ) α} {f : α → ExceptT ε (StateM σ) β} {b : β} :
    (x >>= f).run s = (.ok b, s') ↔ ∃ a s₁, x.run s = (.ok a, s₁) ∧ (f a).run s₁ = (.ok b, s') := by
  have hrun : (x >>= f).run s = ExceptT.bindCont f (x.run s).1 (x.run s).2 := rfl
  rw [hrun]
  obtain ⟨result, s₁⟩ := x.run s
  cases result with
  | error fault =>
    refine iff_of_false (fun h => ?_) (fun ⟨a, _, h, _⟩ => ?_)
    · cases congrArg Prod.fst h
    · cases congrArg Prod.fst h
  | ok a =>
    constructor
    · exact fun h => ⟨a, s₁, rfl, h⟩
    · rintro ⟨_, _, heq, h⟩
      cases heq
      exact h

/-- Makes the directory that holds the file at a path. -/
def makeAround (files : Files (StateM σ)) (path : String) : ExceptT RunError (StateM σ) Unit := do
  match Path.parent? path with
  | none => return
  | some directory =>
    match ← files.makeDirectories directory with
    | .error fault => throw (.notMade directory fault)
    | .ok () => return

/-- Writes a file in a directory that is there. -/
def writeFile (files : Files (StateM σ)) (path text : String) :
    ExceptT RunError (StateM σ) Unit := do
  match ← files.write path text with
  | .error fault => throw (.notWritten path fault)
  | .ok () => return

/-- Writing a file is the last step of writing a text out. -/
theorem writeFile_eq (files : Files (StateM σ)) (path text : String) :
    writeFile files path text = (do
      if let .error fault ← files.write path text then
        throw (RunError.notWritten path fault)) := by
  refine congrArg (liftM (files.write path text) >>= ·) (funext fun written => ?_)
  cases written <;> rfl

/-- A text is written out by making the directories around the path and then writing the file. -/
theorem writeOut_eq :
    writeOut files path text = makeAround files path >>= fun _ => writeFile files path text := by
  have hfile := (writeFile_eq files path text).symm
  unfold writeOut makeAround
  cases Path.parent? path with
  | none => exact hfile
  | some directory =>
    rw [bind_assoc]
    refine congrArg (liftM (files.makeDirectories directory) >>= ·) (funext fun made => ?_)
    cases made with
    | ok => exact hfile
    | error fault => rfl

theorem writeFile_run_eq_ok_iff : (writeFile files path text).run s = (.ok (), s') ↔
    files.write path text s = (.ok (), s') := by
  change (match (files.write path text s).1 with
    | .error fault => throw (.notWritten path fault)
    | .ok () => pure () : ExceptT RunError (StateM σ) Unit).run (files.write path text s).2 = _ ↔ _
  obtain ⟨written, s₁⟩ := files.write path text s
  cases written with
  | error fault =>
    refine iff_of_false (fun h => ?_) (fun h => ?_)
    · cases congrArg Prod.fst h
    · cases congrArg Prod.fst h
  | ok =>
    constructor
    · intro h
      cases h
      rfl
    · intro h
      cases h
      rfl

/-- The file is written last, after its directory has been made for whatever text. -/
theorem writeOut_run_eq_ok_iff : (writeOut files path text).run s = (.ok (), s') ↔
    ∃ s₁, (makeAround files path).run s = (.ok (), s₁) ∧
      files.write path text s₁ = (.ok (), s') := by
  rw [writeOut_eq, run_bind_eq_ok_iff]
  simp only [writeFile_run_eq_ok_iff]
  exact ⟨fun ⟨(), h⟩ => h, fun h => ⟨(), h⟩⟩

/-- Texts can be written to a path, whatever they are, and a text that is written there is read as
it was written. -/
structure Files.Writable (files : Files (StateM σ)) (path : String) (s : σ) : Prop where
  succeeds : ∀ text, seen (writeOut files path text) s = .ok ()
  reads_written : ∀ {text s₁ s₂}, files.write path text s₁ = (.ok (), s₂) →
    (files.read path s₂).1 = .ok text

/-- After a text has been written out, it is what the file holds. -/
theorem Files.Writable.read_writeOut (h : files.Writable path s) (text : String) :
    (files.read path ((writeOut files path text).run s).2).1 = .ok text := by
  have hrun : (writeOut files path text).run s = (.ok (), ((writeOut files path text).run s).2) :=
    Prod.ext (h.succeeds text) rfl
  obtain ⟨s₁, -, hwrite⟩ := writeOut_run_eq_ok_iff.mp hrun
  exact h.reads_written hwrite

end Output

namespace FileTree

variable {t t' : FileTree} {place other : Location} {path text : String}

/-- Looking at a tree of files does not change it. -/
theorem readsSafely_operations : operations.ReadsSafely where
  kind? _ _ := rfl
  names _ _ := rfl
  read _ _ := rfl

/-- The tree with a file at a location that holds these bytes and no others. -/
def put (t : FileTree) (place : Location) (bytes : ByteArray) : FileTree :=
  { t with files := t.files.filter (·.1 ≠ place) ++ [(place, bytes)] }

/-- A file that is written makes directories of the locations above it. -/
theorem isDirectory_put (bytes : ByteArray) : (t.put place bytes).isDirectory other =
    (t.isDirectory other || (other.isPrefixOf place && other ≠ place)) := by
  have hfiles : ((t.put place bytes).files.any fun entry =>
        other.isPrefixOf entry.1 && other ≠ entry.1) =
      ((t.files.any fun entry => other.isPrefixOf entry.1 && other ≠ entry.1) ||
        (other.isPrefixOf place && other ≠ place)) := by
    rw [Bool.eq_iff_iff]
    simp only [put, List.any_append, List.any_filter, List.any_cons, List.any_nil, Bool.or_false,
      Bool.or_eq_true, List.any_eq_true]
    constructor
    · rintro (⟨entry, hmem, habove⟩ | habove)
      · exact .inl ⟨entry, hmem, (Bool.and_eq_true_iff.mp habove).2⟩
      · exact .inr habove
    · rintro (⟨entry, hmem, habove⟩ | habove)
      · by_cases hplace : entry.1 = place
        · exact .inr (hplace ▸ habove)
        · refine .inl ⟨entry, hmem, ?_⟩
          simp only [decide_eq_true hplace, habove, ne_eq, Bool.and_self]
      · exact .inr habove
  unfold isDirectory
  rw [hfiles, ← Bool.or_assoc]
  rfl

theorem file?_put (bytes : ByteArray) : (t.put place bytes).file? place = some bytes := by
  have hrest : (t.files.filter (·.1 ≠ place)).find? (·.1 = place) = none := by
    simp
  rw [file?, put, List.find?_append, hrest]
  simp

/-- A path that leads somewhere leads there too when there are more directories. -/
theorem follow_eq_ok_of_directories
    (hmore : ∀ place, t.isDirectory place = true → t'.isDirectory place = true)
    {parts : List String} (h : t.follow place parts = .ok other) :
    t'.follow place parts = .ok other := by
  induction parts generalizing place with
  | nil => exact h
  | cons part rest ih =>
    rw [follow] at h ⊢
    by_cases hplace : t.isDirectory place = true
    · rw [kindAt?, if_pos hplace] at h
      rw [kindAt?, if_pos (hmore place hplace)]
      dsimp only at h ⊢
      split_ifs at h ⊢ with hstay hup hlong
      · exact ih h
      · exact ih h
      · exact ih h
    · -- nothing is found in a file, or where there is nothing
      rw [kindAt?, if_neg hplace] at h
      by_cases hfile : (t.file? place).isSome = true
      · rw [if_pos hfile] at h
        cases h
      · rw [if_neg hfile] at h
        cases h

theorem write_eq_ok_iff : t.write path text = .ok t' ↔
    ∃ place, t.locateToWrite path = .ok place ∧ t' = t.put place text.toUTF8 := by
  rw [write, bind_eq_ok_iff]
  refine exists_congr fun place => and_congr_right fun _ => ?_
  exact ⟨fun h => (Except.ok.inj h).symm, fun h => congrArg Except.ok h.symm⟩

/-- A file can be written where the path leads, if no directory is there. -/
theorem locate_of_locateToWrite (h : t.locateToWrite path = .ok place) :
    t.locate path = .ok place ∧ t.isDirectory place = false := by
  rw [locateToWrite, bind_eq_ok_iff] at h
  obtain ⟨-, -, h⟩ := h
  by_cases hend : path.endsWith "/" = true
  · rw [if_pos hend, bind_eq_ok_iff] at h
    obtain ⟨_, _, h⟩ := h
    cases h
  · rw [if_neg hend] at h
    obtain ⟨found, hlocate, h⟩ := bind_eq_ok_iff.mp h
    by_cases hdir : t.isDirectory found = true
    · rw [if_pos hdir] at h
      cases h
    · rw [if_neg hdir] at h
      obtain rfl := Except.ok.inj h
      exact ⟨hlocate, Bool.eq_false_iff.mpr hdir⟩

theorem change_eq_ok_iff {operation : FileTree → Except FileFault FileTree} :
    change operation t = (.ok (), t') ↔ operation t = .ok t' := by
  unfold change
  cases operation t with
  | error fault =>
    refine iff_of_false (fun h => ?_) (fun h => ?_)
    · cases h
    · cases h
  | ok changed =>
    constructor
    · intro h
      cases h
      rfl
    · intro h
      cases h
      rfl

theorem operations_write_eq_ok_iff :
    operations.write path text t = (.ok (), t') ↔ t.write path text = .ok t' := by
  change change (·.write path text) t = _ ↔ _
  exact change_eq_ok_iff

/-- A file that has been written is read as it was written. -/
theorem read_of_write (h : t.write path text = .ok t') : t'.read path = .ok text := by
  obtain ⟨place, hwrite, rfl⟩ := write_eq_ok_iff.mp h
  obtain ⟨hlocate, hdir⟩ := locate_of_locateToWrite hwrite
  have hlocate' : (t.put place text.toUTF8).locate path = .ok place := by
    obtain ⟨_, hcheck, hfollow⟩ := bind_eq_ok_iff.mp hlocate
    refine bind_eq_ok_iff.mpr
      ⟨_, hcheck, follow_eq_ok_of_directories (fun above habove => ?_) hfollow⟩
    rw [isDirectory_put, habove, Bool.true_or]
  have hkind : (t.put place text.toUTF8).kindAt? place = some .file := by
    have hdir' : (t.put place text.toUTF8).isDirectory place = false := by
      rw [isDirectory_put, hdir]
      simp
    rw [kindAt?, hdir', file?_put]
    rfl
  have htext : String.fromUTF8? text.toUTF8 = some text := dif_pos text.isValidUTF8
  refine bind_eq_ok_iff.mpr ⟨place, hlocate', ?_⟩
  rw [hkind, file?_put]
  dsimp only
  rw [htext]
  rfl

/-- Whether a text can be written to a path of a tree does not depend on the text. -/
theorem writable_of_writeOut (h : seen (writeOut operations path "") t = .ok ()) :
    operations.Writable path t where
  succeeds text := by
    have hrun : (writeOut operations path "").run t =
        (.ok (), ((writeOut operations path "").run t).2) :=
      Prod.ext h rfl
    obtain ⟨t₁, haround, hwrite⟩ := writeOut_run_eq_ok_iff.mp hrun
    obtain ⟨place, hplace, -⟩ := write_eq_ok_iff.mp (operations_write_eq_ok_iff.mp hwrite)
    have htext : operations.write path text t₁ = (.ok (), t₁.put place text.toUTF8) :=
      operations_write_eq_ok_iff.mpr (write_eq_ok_iff.mpr ⟨place, hplace, rfl⟩)
    exact congrArg Prod.fst (writeOut_run_eq_ok_iff.mpr ⟨t₁, haround, htext⟩)
  reads_written hwrite := read_of_write (operations_write_eq_ok_iff.mp hwrite)

end FileTree

end EntityModels.CommandLine
