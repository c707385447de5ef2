/-
File systems, as a compilation sees them: the answer to a path is the canonical path and the content
of the file there, or the reason why there is none, and nothing else is ever asked.
-/
import SchemaHints.Location.Path
import SchemaHints.Xml.Document

namespace SchemaHints

/-- What is found behind a path: the path that names it, and the content of the file there. -/
structure Found where
  path : Path
  content : Except FileFault Bytes

/-- A file system, by its answers to paths; what is found is named by its canonical path. -/
abbrev Files := Path → Except FileFault Found

namespace Found

/-- The bytes of a file, if it can be read and is small enough. -/
def bytes (limits : Limits) (f : Found) : Result Bytes :=
  match f.content with
  | .error reason => fail (.unreadableFile f.path.text reason)
  | .ok content => do
    limits.checkSize content.length
    .ok content

/-- The root element of the document in a file. -/
def root (limits : Limits) (f : Found) : Result (Option Xml.Element) := do
  Xml.rootOf limits (← f.bytes limits)

end Found

/-- A file system by what it does: it says which canonical path a path leads to, links and all, and it
reads what is there. -/
structure FileSystem where
  canonicalize : Path → Except FileFault Path
  read : Path → Except FileFault Bytes

namespace FileSystem

/-- The answers of a file system. -/
def files (fs : FileSystem) : Files := fun path => do
  let canonical ← fs.canonicalize path
  .ok ⟨canonical, fs.read canonical⟩

theorem files_of_error {fs : FileSystem} {path : Path} {reason : FileFault}
    (h : fs.canonicalize path = .error reason) : fs.files path = .error reason := by
  rw [files, h]
  rfl

theorem files_of_ok {fs : FileSystem} {path canonical : Path} (h : fs.canonicalize path = .ok canonical) :
    fs.files path = .ok ⟨canonical, fs.read canonical⟩ := by
  rw [files, h]
  rfl

/-- What is found behind a path is named by the canonical path. -/
theorem canonicalize_of_files {fs : FileSystem} {path : Path} {found : Found} (h : fs.files path = .ok found) :
    fs.canonicalize path = .ok found.path := by
  rcases hc : fs.canonicalize path with reason | canonical
  · rw [files_of_error hc] at h
    cases h
  · rw [files_of_ok hc] at h
    cases h
    rfl

/-- The file that a path leads to, if it can be read. -/
def readable? (fs : FileSystem) (path : Path) : Option Path :=
  match fs.canonicalize path with
  | .error _ => none
  | .ok canonical => match fs.read canonical with
    | .error _ => none
    | .ok _ => some canonical

theorem readable?_eq_some_iff {fs : FileSystem} {path canonical : Path} :
    fs.readable? path = some canonical ↔
      fs.canonicalize path = .ok canonical ∧ ∃ content, fs.read canonical = .ok content := by
  unfold readable?
  rcases fs.canonicalize path with reason | c
  · simp
  · simp only [Except.ok.injEq]
    split
    · rename_i reason hc
      refine ⟨nofun, ?_⟩
      rintro ⟨rfl, content, h⟩
      rw [hc] at h
      cases h
    · rename_i content hc
      refine ⟨?_, fun h => congrArg some h.1⟩
      rintro ⟨⟩
      exact ⟨rfl, content, hc⟩

end FileSystem

end SchemaHints
