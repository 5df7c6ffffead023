import GpuLedger.Admission.Directory

/-!
# Writing Files

Only files that are there are written, so writing changes the contents of one file and nothing
else: which files and folders there are stays the same, every path leads where it led, and what
is read through a path that leads to another file is what was read before. Which file is written
is decided by where the path leads and not by how it is spelled.

Directories that differ in what one file contains are said to agree but for that file
(`Directory.AgreesBut`). A directory agrees in this way with what becomes of it by writing that
file, however often it is written (`Directory.AgreesBut.trans`).

## Main results

* `Directory.AgreesBut.resolve_eq`, `Directory.AgreesBut.read_eq` — paths, and texts of other
  files;
* `Directory.agreesBut_write`, `Directory.get?_write` — what writing does.
-/

namespace GpuLedger.Admission

namespace Directory

variable {d e : Directory} {file : String}

/-- Both directories have the same files, and all but the one at a path contain the same. -/
structure AgreesBut (file : String) (e d : Directory) : Prop where
  isSome_eq : ∀ path, (e.files.get? path).isSome = (d.files.get? path).isSome
  get?_eq : ∀ path, path ≠ file → e.files.get? path = d.files.get? path

namespace AgreesBut

/-- A directory agrees with itself in all but one file. -/
theorem refl (file : String) (d : Directory) : AgreesBut file d d :=
  ⟨fun _ => rfl, fun _ _ => rfl⟩

/-- Agreement in all but one file goes on from one directory to the next. -/
theorem trans {f : Directory} (h₁ : AgreesBut file f e) (h₂ : AgreesBut file e d) :
    AgreesBut file f d where
  isSome_eq path := (h₁.isSome_eq path).trans (h₂.isSome_eq path)
  get?_eq path hpath := (h₁.get?_eq path hpath).trans (h₂.get?_eq path hpath)

/-- The same paths lead to files. -/
theorem isFile_iff (h : AgreesBut file e d) (parts : Parts) :
    e.IsFile parts ↔ d.IsFile parts := by
  rw [IsFile, IsFile, h.isSome_eq]

/-- The same paths lead to folders. -/
theorem isFolder_iff (h : AgreesBut file e d) (parts : Parts) :
    e.IsFolder parts ↔ d.IsFolder parts := by
  simp only [IsFolder, SortedMap.mem_keys_iff, h.isSome_eq]

/-- A walk along a path ends where it ended. -/
theorem walk_eq (h : AgreesBut file e d) (here parts : Parts) :
    e.walk here parts = d.walk here parts := by
  induction parts generalizing here with
  | nil => rfl
  | cons part rest ih => simp only [walk, h.isFile_iff, h.isFolder_iff, ih]

/-- **A path** leads where it led. -/
theorem resolve_eq (h : AgreesBut file e d) (path : String) :
    e.resolve path = d.resolve path := by
  simp only [resolve, h.walk_eq, h.isFile_iff, h.isFolder_iff]

/-- **What is read** through a path that does not lead to the file. -/
theorem read_eq (h : AgreesBut file e d) {path : String} (hpath : d.resolve path ≠ .ok file) :
    e.read path = d.read path := by
  rw [read, read, h.resolve_eq]
  cases hother : d.resolve path with
  | error u => rfl
  | ok other =>
      have hne : other ≠ file := fun heq => hpath (by rw [hother, heq])
      simp only [h.get?_eq other hne]

end AgreesBut

/-- A path that leads to a file leads to one that is there. -/
theorem isSome_of_resolve {path : String} (h : d.resolve path = .ok file) :
    (d.files.get? file).isSome := by
  rw [resolve] at h
  split at h
  · cases h
  · split at h
    · cases h
    · split at h
      · next hfile =>
        rw [← Except.ok.inj h]
        exact hfile
      · split at h <;> cases h

/-- What is read at a path that leads to a text. -/
theorem read_of_resolve {path text : String} (h : d.resolve path = .ok file)
    (htext : d.files.get? file = some (.text text)) : d.read path = .ok text := by
  simp only [read, h, htext]

/-- **The file that is written** contains the text. -/
theorem get?_write {path : String} (h : d.resolve path = .ok file) (text : String) :
    (d.write path text).files.get? file = some (.text text) := by
  simp only [write, h, SortedMap.get?_insert, if_true]

/-- **All other files** are as they were. -/
theorem agreesBut_write {path : String} (h : d.resolve path = .ok file) (text : String) :
    AgreesBut file (d.write path text) d where
  isSome_eq other := by
    simp only [write, h, SortedMap.get?_insert]
    split
    · next heq => rw [← heq, isSome_of_resolve h, Option.isSome_some]
    · rfl
  get?_eq other hother := by
    simp only [write, h, SortedMap.get?_insert, if_neg hother.symm]

end Directory

end GpuLedger.Admission
