import CrossShell.Proofs.Machine.Action
import CrossShell.Proofs.Machine.Files
import CrossShell.Proofs.Text.Utf8

/-!
Storing a text in a file of a directory that need not be there.

The directory is made first and the file is written then; each of the two may be refused. `Stores`
and `StoreFails` say what the files are afterwards, and one of them always holds.
-/

set_option autoImplicit false

namespace CrossShell.Machine

/-- What the file at a path holds. -/
def content (m : Machine) (path : String) : Except Fault ByteArray :=
  m.files.read m.directory (Route.ofText path)

/-- The directory and the file can be had, and the files are then these. -/
def Stores (m : Machine) (directory path text : String) (files : FileTree) : Prop :=
  ∃ between, m.files.makeDirectories m.directory (Route.ofText directory) = (none, between) ∧
    between.write m.directory (Route.ofText path) (Text.encode text) = .ok files

/-- The directory or the file cannot be had, and the files are then these. -/
inductive StoreFails (m : Machine) (directory path text : String) : Fault → FileTree → Prop where
  | directory {fault : Fault} {files : FileTree}
      (hmake : m.files.makeDirectories m.directory (Route.ofText directory) = (some fault, files)) :
      StoreFails m directory path text fault files
  | file {fault : Fault} {between : FileTree}
      (hmake : m.files.makeDirectories m.directory (Route.ofText directory) = (none, between))
      (hwrite : between.write m.directory (Route.ofText path) (Text.encode text) = .error fault) :
      StoreFails m directory path text fault between

variable {m : Machine} {directory path text : String} {files : FileTree}

/-- A file that holds the bytes of a text is read as that text. -/
theorem readText_of_content (h : m.content path = .ok (Text.encode text)) :
    readText path m = .ok text m := by
  have hread : m.files.readText m.directory (Route.ofText path) = .ok text := by
    unfold content at h
    simp only [FileTree.readText, h, bind, Except.bind, Text.decode?_encode, pure, Except.pure]
  simp only [readText, look, hread]

theorem stores_or_storeFails (m : Machine) (directory path text : String) :
    (∃ files, m.Stores directory path text files) ∨
      ∃ fault files, m.StoreFails directory path text fault files := by
  cases hmake : m.files.makeDirectories m.directory (Route.ofText directory) with
  | mk fault? between =>
    cases fault? with
    | some fault => exact .inr ⟨fault, between, .directory hmake⟩
    | none =>
      cases hwrite : between.write m.directory (Route.ofText path) (Text.encode text) with
      | ok files => exact .inl ⟨files, between, hmake, hwrite⟩
      | error fault => exact .inr ⟨fault, between, .file hmake hwrite⟩

theorem Stores.content (h : m.Stores directory path text files) :
    { m with files := files }.content path = .ok (Text.encode text) := by
  obtain ⟨between, _, hwrite⟩ := h
  exact FileTree.read_write hwrite

theorem Stores.not_storeFails {fault : Fault} {files' : FileTree}
    (h : m.Stores directory path text files) :
    ¬ m.StoreFails directory path text fault files' := by
  obtain ⟨between, hmade, hwritten⟩ := h
  intro hfails
  cases hfails with
  | directory hmake =>
    rw [hmade] at hmake
    cases hmake
  | file hmake hwrite =>
    rw [hmade] at hmake
    cases hmake
    rw [hwritten] at hwrite
    cases hwrite

theorem makeDirectories_of_none
    (h : m.files.makeDirectories m.directory (Route.ofText directory) = (none, files)) :
    makeDirectories directory m = .ok () { m with files := files } := by
  unfold makeDirectories
  rw [h]

theorem makeDirectories_of_some {fault : Fault}
    (h : m.files.makeDirectories m.directory (Route.ofText directory) = (some fault, files)) :
    makeDirectories directory m = .error fault { m with files := files } := by
  unfold makeDirectories
  rw [h]

theorem writeText_of_ok
    (h : m.files.write m.directory (Route.ofText path) (Text.encode text) = .ok files) :
    writeText path text m = .ok () { m with files := files } := by
  unfold writeText
  rw [h]

theorem writeText_of_error {fault : Fault}
    (h : m.files.write m.directory (Route.ofText path) (Text.encode text) = .error fault) :
    writeText path text m = .error fault m := by
  unfold writeText
  rw [h]

end CrossShell.Machine
