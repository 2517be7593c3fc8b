import Mathlib.Data.List.Nodup
import Mathlib.Tactic.Common

/-!
# A small disk

Files with their contents, and directories, both named by the list of path
components.  Only the calls an upload needs are here: make a directory, create a
file exclusively, append to a file, unlink, `rmdir` (which refuses a directory
that still has something in it) and `rmtree` (which does not).
-/

/-- A path, as the list of its components from the root. -/
abbrev PosixPath := List String

namespace PosixPath

/-- `PosixPath.name`: the last component. -/
def name (p : PosixPath) : String := p.getLast?.getD ""

/-- `PosixPath.parent`. -/
def parent (p : PosixPath) : PosixPath := p.dropLast

/-- `os.path.join(directory, name)`. -/
def join (d : PosixPath) (name : String) : PosixPath := d ++ [name]

@[simp] theorem name_join (d : PosixPath) (n : String) : (d.join n).name = n := by
  simp [join, name]

@[simp] theorem parent_join (d : PosixPath) (n : String) : (d.join n).parent = d := by
  simp [join, parent]

end PosixPath

/-- What is on the disk. -/
structure Disk where
  /-- The files, with their contents. -/
  files : List (PosixPath × List UInt8)
  /-- The directories. -/
  dirs : List PosixPath
  deriving DecidableEq

namespace Disk

/-- Nothing on it. -/
def empty : Disk := ⟨[], []⟩

/-- There is a file at `p`. -/
def HasFile (d : Disk) (p : PosixPath) : Prop := p ∈ d.files.map Prod.fst

/-- There is a directory at `p`. -/
def HasDir (d : Disk) (p : PosixPath) : Prop := p ∈ d.dirs

instance (d : Disk) (p : PosixPath) : Decidable (d.HasFile p) :=
  inferInstanceAs (Decidable (p ∈ d.files.map Prod.fst))

instance (d : Disk) (p : PosixPath) : Decidable (d.HasDir p) :=
  inferInstanceAs (Decidable (p ∈ d.dirs))

/-- `os.mkdir`. -/
def mkdir (d : Disk) (p : PosixPath) : Disk := { d with dirs := d.dirs ++ [p] }

/-- Create a file that is not there. -/
def create (d : Disk) (p : PosixPath) (content : List UInt8) : Disk :=
  { d with files := d.files ++ [(p, content)] }

/-- Append to a file. -/
def append (d : Disk) (p : PosixPath) (content : List UInt8) : Disk :=
  { d with files := d.files.map fun f => if f.1 = p then (p, f.2 ++ content) else f }

/-- `os.unlink`. -/
def unlink (d : Disk) (p : PosixPath) : Disk :=
  { d with files := d.files.filter fun f => f.1 ≠ p }

/-- Something is left in the directory. -/
def Occupied (d : Disk) (p : PosixPath) : Prop :=
  (∃ f ∈ d.files, f.1.parent = p) ∨ ∃ q ∈ d.dirs, q ≠ p ∧ q.parent = p

instance (d : Disk) (p : PosixPath) : Decidable (d.Occupied p) :=
  inferInstanceAs (Decidable (_ ∨ _))

/-- `os.rmdir`, with its error suppressed: an occupied directory stays. -/
def rmdir (d : Disk) (p : PosixPath) : Disk :=
  if d.Occupied p then d else { d with dirs := d.dirs.filter fun q => q ≠ p }

/-- `shutil.rmtree`: the directory and everything below it. -/
def rmtree (d : Disk) (p : PosixPath) : Disk :=
  { files := d.files.filter fun f => ¬ p <+: f.1
    dirs := d.dirs.filter fun q => ¬ p <+: q }

variable {d : Disk} {p q : PosixPath}

@[simp] theorem dirs_unlink : (d.unlink p).dirs = d.dirs := rfl

@[simp] theorem files_rmdir : (d.rmdir p).files = d.files := by
  unfold rmdir
  split <;> rfl

@[simp] theorem hasFile_rmdir : (d.rmdir p).HasFile q ↔ d.HasFile q := by
  simp [HasFile]

@[simp] theorem hasFile_mkdir : (d.mkdir p).HasFile q ↔ d.HasFile q := Iff.rfl

@[simp] theorem hasFile_create {c : List UInt8} :
    (d.create p c).HasFile q ↔ d.HasFile q ∨ q = p := by
  simp [HasFile, create]

theorem hasFile_unlink : (d.unlink p).HasFile q ↔ d.HasFile q ∧ q ≠ p := by
  simp only [HasFile, unlink, List.mem_map, List.mem_filter]
  constructor
  · rintro ⟨f, ⟨hf, hfp⟩, rfl⟩
    exact ⟨⟨f, hf, rfl⟩, by simpa using hfp⟩
  · rintro ⟨⟨f, hf, rfl⟩, hqp⟩
    exact ⟨f, ⟨hf, by simpa using hqp⟩, rfl⟩

theorem files_unlink_subset : (d.unlink p).files ⊆ d.files := List.filter_subset_self _

theorem dirs_rmdir_subset : (d.rmdir p).dirs ⊆ d.dirs := by
  unfold rmdir
  split
  · exact List.Subset.refl _
  · exact List.filter_subset_self _

/-- Removing an unoccupied directory removes it, and nothing else. -/
theorem hasDir_rmdir (h : ¬ d.Occupied p) : (d.rmdir p).HasDir q ↔ d.HasDir q ∧ q ≠ p := by
  rw [rmdir, if_neg h]
  simp [HasDir]

/-! ## Below a directory -/

/-- The content of a file. -/
def content (d : Disk) (p : PosixPath) : List UInt8 :=
  ((d.files.find? fun f => f.1 = p).map Prod.snd).getD []

/-- There is nothing at `p` or below it. -/
def Free (d : Disk) (p : PosixPath) : Prop :=
  (∀ f ∈ d.files, ¬ p <+: f.1) ∧ ∀ q ∈ d.dirs, ¬ p <+: q

instance (d : Disk) (p : PosixPath) : Decidable (d.Free p) :=
  inferInstanceAs (Decidable (_ ∧ _))

/-- There is nothing at `p` or below it but the directory itself and the file `q`. -/
def Holds (d : Disk) (p q : PosixPath) : Prop :=
  (∀ f ∈ d.files, p <+: f.1 → f.1 = q) ∧ ∀ r ∈ d.dirs, p <+: r → r = p

variable {d d' : Disk} {p q : PosixPath}

/-- Taking things away frees nothing that was not free, and leaves free what was. -/
theorem Free.subset (h : d.Free p) (hfiles : d'.files ⊆ d.files) (hdirs : d'.dirs ⊆ d.dirs) :
    d'.Free p :=
  ⟨fun f hf => h.1 f (hfiles hf), fun r hr => h.2 r (hdirs hr)⟩

theorem Holds.subset (h : d.Holds p q) (hfiles : d'.files ⊆ d.files) (hdirs : d'.dirs ⊆ d.dirs) :
    d'.Holds p q :=
  ⟨fun f hf => h.1 f (hfiles hf), fun r hr => h.2 r (hdirs hr)⟩

/-- `rmtree` leaves nothing. -/
theorem free_rmtree (d : Disk) (p : PosixPath) : (d.rmtree p).Free p :=
  ⟨fun f hf => by simpa using (List.mem_filter.mp hf).2,
    fun r hr => by simpa using (List.mem_filter.mp hr).2⟩

/-- There is no file in a directory that is not there. -/
theorem Free.not_hasFile (h : d.Free p) (name : String) : ¬ d.HasFile (p.join name) := by
  intro hfile
  obtain ⟨f, hf, heq⟩ := List.mem_map.mp hfile
  exact h.1 f hf (heq ▸ List.prefix_append p [name])

/-- A directory is above what is in it. -/
theorem not_prefix_parent (h : ¬ p <+: q) : ¬ p <+: q.parent := fun hp =>
  h (hp.trans (List.dropLast_prefix q))

/-- A file made elsewhere. -/
theorem Free.create_elsewhere (h : d.Free p) (hq : ¬ p <+: q) (c : List UInt8) :
    ((d.mkdir q.parent).create q c).Free p := by
  refine ⟨fun f hf => ?_, fun r hr => ?_⟩
  · rcases List.mem_append.mp hf with hf | hf
    · exact h.1 f hf
    · rw [List.mem_singleton.mp hf]
      exact hq
  · rcases List.mem_append.mp hr with hr | hr
    · exact h.2 r hr
    · rw [List.mem_singleton.mp hr]
      exact not_prefix_parent hq

theorem Holds.create_elsewhere {r : PosixPath} (h : d.Holds p r) (hq : ¬ p <+: q) (c : List UInt8) :
    ((d.mkdir q.parent).create q c).Holds p r := by
  refine ⟨fun f hf hpf => ?_, fun t ht hpt => ?_⟩
  · rcases List.mem_append.mp hf with hf | hf
    · exact h.1 f hf hpf
    · rw [List.mem_singleton.mp hf] at hpf
      exact absurd hpf hq
  · rcases List.mem_append.mp ht with ht | ht
    · exact h.2 t ht hpt
    · rw [List.mem_singleton.mp ht] at hpt
      exact absurd hpt (not_prefix_parent hq)

/-- A file made in a new directory is all there is below it. -/
theorem Free.create (h : d.Free p) (name : String) (c : List UInt8) :
    ((d.mkdir (p.join name).parent).create (p.join name) c).Holds p (p.join name) := by
  refine ⟨fun f hf hpf => ?_, fun r hr hpr => ?_⟩
  · rcases List.mem_append.mp hf with hf | hf
    · exact absurd hpf (h.1 f hf)
    · rw [List.mem_singleton.mp hf]
  · rcases List.mem_append.mp hr with hr | hr
    · exact absurd hpr (h.2 r hr)
    · rw [List.mem_singleton.mp hr, PosixPath.parent_join]

/-- With its one file gone, the directory can be removed, and then nothing is left. -/
theorem Holds.free_rmdir (h : d.Holds p q) : ((d.unlink q).rmdir p).Free p := by
  have hfiles : ∀ f ∈ (d.unlink q).files, ¬ p <+: f.1 := by
    intro f hf hpf
    obtain ⟨hf, hne⟩ := List.mem_filter.mp hf
    exact absurd (h.1 f hf hpf) (by simpa using hne)
  have hunoccupied : ¬ (d.unlink q).Occupied p := by
    rintro (⟨f, hf, hparent⟩ | ⟨r, hr, hne, hparent⟩)
    · exact hfiles f hf (hparent ▸ List.dropLast_prefix f.1)
    · exact hne (h.2 r hr (hparent ▸ List.dropLast_prefix r))
  refine ⟨?_, fun r hr hpr => ?_⟩
  · rw [files_rmdir]
    exact hfiles
  · obtain ⟨hr, hne⟩ := (hasDir_rmdir hunoccupied).mp hr
    exact hne (h.2 r hr hpr)

/-! ## Contents -/

theorem find?_eq_none (h : ¬ d.HasFile p) : (d.files.find? fun f => f.1 = p) = none :=
  List.find?_eq_none.mpr fun f hf hfp => h (List.mem_map.mpr ⟨f, hf, of_decide_eq_true hfp⟩)

/-- A file that is not there has no content. -/
theorem content_of_not_hasFile (h : ¬ d.HasFile p) : d.content p = [] := by
  rw [content, find?_eq_none h]
  rfl

/-- A new file has what it was made with. -/
theorem content_create (h : ¬ d.HasFile p) (c : List UInt8) : (d.create p c).content p = c := by
  simp only [content, create]
  rw [List.find?_append, find?_eq_none h]
  simp

@[simp] theorem content_rmdir : (d.rmdir q).content p = d.content p := by
  rw [content, files_rmdir, content]

/-- The other files keep theirs. -/
theorem content_unlink_of_ne (h : q ≠ p) : (d.unlink q).content p = d.content p := by
  have hfind : (d.unlink q).files.find? (fun f => f.1 = p) = d.files.find? fun f => f.1 = p := by
    rw [unlink, List.find?_filter]
    refine congrArg (List.find? · d.files) (funext fun f => ?_)
    by_cases hf : f.1 = p <;> simp [hf, Ne.symm h]
  rw [content, hfind, content]

theorem content_create_of_ne (h : q ≠ p) (c : List UInt8) :
    (d.create q c).content p = d.content p := by
  simp [content, create, List.find?_append, h]

@[simp] theorem hasFile_append {c : List UInt8} : (d.append p c).HasFile q ↔ d.HasFile q := by
  have hnames : ((d.append p c).files.map Prod.fst) = d.files.map Prod.fst := by
    rw [append, List.map_map]
    refine List.map_congr_left fun f _ => ?_
    by_cases h : f.1 = p <;> simp [h]
  rw [HasFile, hnames]
  rfl

/-- What is appended comes after what was there. -/
theorem content_append (h : d.HasFile p) (c : List UInt8) :
    (d.append p c).content p = d.content p ++ c := by
  obtain ⟨f, hf, hfp⟩ := List.mem_map.mp h
  unfold content append
  generalize d.files = files at hf
  induction files with
  | nil => exact absurd hf List.not_mem_nil
  | cons g files ih =>
    by_cases hg : g.1 = p
    · simp [hg]
    · rcases List.mem_cons.mp hf with rfl | hf
      · exact absurd hfp hg
      · have ih := ih hf
        simpa [hg] using ih

end Disk
