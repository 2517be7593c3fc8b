import Mathlib.Logic.Function.Basic
import VibeVoice.Semantics.Disk
import VibeVoice.Semantics.Effect

/-!
# A file tree with modes

What is at a path: a directory, a file, a symbolic link, or nothing.  Directories and
files have modes, and these are what some programs look at.

The calls are those of `pathlib` and `os` that make directories with their parents, create
files exclusively, change modes, and ask what is there.  No path goes through a link, and a
link leads to what is none.

## What goes wrong

A call fails because of what is there: a file in the way, a directory that is missing.
It may also fail for reasons that are not in the tree, for want of permission or of space.
Those are `Faults`, and every path has its own.  They befall the calls that change
something; a question is always answered.

The dangerous one is the write.  A file is opened first, and then it is there with nothing
in it; its content comes after that, and where this breaks off the file stays with a part
of it (`write_cases`).  What was there before is changed by none of these calls, whatever
fails (`Extends`).
-/

/-- What is at a path.  `B` is what a file has in it. -/
inductive Node (B : Type) where
  | dir (mode : ℕ) : Node B
  | file (mode : ℕ) (content : B) : Node B
  | symlink (target : PosixPath) : Node B

/-- What is at a path, with another mode. -/
def Node.withMode {B : Type} (mode : ℕ) : Node B → Node B
  | .dir _ => .dir mode
  | .file _ content => .file mode content
  | .symlink target => .symlink target

/-- A file tree. -/
abbrev FileTree (B : Type) := PosixPath → Option (Node B)

/-- The calls that can fail, by their exceptions. -/
inductive OsError where
  | fileNotFound (path : PosixPath) : OsError
  | fileExists (path : PosixPath) : OsError
  | notADirectory (path : PosixPath) : OsError
  | isADirectory (path : PosixPath) : OsError
  | permission (path : PosixPath) : OsError
  /-- Any other, with its text. -/
  | failed (text : String) : OsError
  deriving DecidableEq

/-- What goes wrong at a path, whatever is there: the calls that fail, and how. -/
structure Faults (B : Type) where
  mkdir : Option OsError := none
  creat : Option OsError := none
  /-- With the error, what the write leaves in the file. -/
  write : Option (OsError × B) := none
  chmod : Option OsError := none

namespace FileTree

variable {B : Type}

/-! ## Questions -/

/-- What a path leads to. -/
def follow (t : FileTree B) (p : PosixPath) : Option (Node B) :=
  match t p with
  | some (.symlink target) => t target
  | node => node

/-- `path.exists()` -/
def isThere (t : FileTree B) (p : PosixPath) : Bool := (t.follow p).isSome

/-- `path.is_symlink()` -/
def isSymlink (t : FileTree B) (p : PosixPath) : Bool :=
  match t p with
  | some (.symlink _) => true
  | _ => false

/-- `path.is_dir()` -/
def isDir (t : FileTree B) (p : PosixPath) : Bool :=
  match t.follow p with
  | some (.dir _) => true
  | _ => false

/-- `path.is_file()` -/
def isFile (t : FileTree B) (p : PosixPath) : Bool :=
  match t.follow p with
  | some (.file _ _) => true
  | _ => false

/-- `stat.S_IMODE(path.stat(follow_symlinks=False).st_mode)` -/
def mode (t : FileTree B) (p : PosixPath) : Except OsError ℕ :=
  match t p with
  | none => .error (.fileNotFound p)
  | some (.dir mode) => .ok mode
  | some (.file mode _) => .ok mode
  | some (.symlink _) => .ok 0o777

/-- `path.read_bytes()` -/
def read (t : FileTree B) (p : PosixPath) : Except OsError B :=
  match t.follow p with
  | some (.file _ content) => .ok content
  | some (.dir _) => .error (.isADirectory p)
  | _ => .error (.fileNotFound p)

/-! ## Changes -/

/-- Nothing goes wrong. -/
def Works (fails : PosixPath → Faults B) : Prop := ∀ p, fails p = {}

/-- The bits of a mode that the mask lets through. -/
def masked (umask mode : ℕ) : ℕ := mode &&& (0o777 ^^^ (umask &&& 0o777))

/-- Whether something can be made at a path: there is nothing, and a directory to make it in. -/
def makeable (t : FileTree B) (p : PosixPath) : Except OsError Unit :=
  match t p, t p.parent with
  | some _, _ => .error (.fileExists p)
  | none, some (.dir _) => .ok ()
  | none, some _ => .error (.notADirectory p)
  | none, none => .error (.fileNotFound p)

section

variable (fails : PosixPath → Faults B) (umask : ℕ)

/-- `os.mkdir(path)` -/
def osMkdir (p : PosixPath) : Effect OsError (FileTree B) Unit := fun t =>
  match (fails p).mkdir, t.makeable p with
  | some e, _ => (.error e, t)
  | none, .error e => (.error e, t)
  | none, .ok () => (.ok (), Function.update t p (some (.dir (masked umask 0o777))))

/-- `os.mkdir`, and the exceptions that `path.mkdir` does not mind. -/
def mkdirOnce (existOk : Bool) (p : PosixPath) : Effect OsError (FileTree B) Unit :=
  fun t =>
    match osMkdir fails umask p t with
    | (.error (.fileExists q), t) =>
      if existOk && t.isDir p then (.ok (), t) else (.error (.fileExists q), t)
    | r => r

/-- `path.mkdir(parents=True, exist_ok=existOk)`, of a path that is given from its end. -/
def mkdirParents (existOk : Bool) : List String → Effect OsError (FileTree B) Unit
  | [] => mkdirOnce fails umask existOk []
  | name :: up => fun t =>
    match mkdirOnce fails umask existOk (name :: up).reverse t with
    | (.error (.fileNotFound _), t) =>
      (mkdirParents true up >>= fun () => mkdirOnce fails umask existOk (name :: up).reverse) t
    | r => r

/-- `path.mkdir(parents=True)` -/
def mkdir (p : PosixPath) : Effect OsError (FileTree B) Unit :=
  mkdirParents fails umask false p.reverse

/-- `path.chmod(mode)` -/
def chmod (mode : ℕ) (p : PosixPath) : Effect OsError (FileTree B) Unit := fun t =>
  match (fails p).chmod, t p with
  | some e, _ => (.error e, t)
  | none, none => (.error (.fileNotFound p), t)
  | none, some node => (.ok (), Function.update t p (some (node.withMode mode)))

/-- `os.open(path, os.O_WRONLY | os.O_CREAT | os.O_EXCL | os.O_NOFOLLOW, mode)` -/
def openNew [EmptyCollection B] (mode : ℕ) (p : PosixPath) : Effect OsError (FileTree B) Unit :=
  fun t =>
    match (fails p).creat, t.makeable p with
    | some e, _ => (.error e, t)
    | none, .error e => (.error e, t)
    | none, .ok () => (.ok (), Function.update t p (some (.file (masked umask mode) ∅)))

/-- `f.write(content)` and the end of its `with` block, of a file that is open. -/
def write (p : PosixPath) (content : B) : Effect OsError (FileTree B) Unit := fun t =>
  match t p, (fails p).write with
  | some (.file mode _), some (e, left) => (.error e, Function.update t p (some (.file mode left)))
  | some (.file mode _), none => (.ok (), Function.update t p (some (.file mode content)))
  | _, _ => (.error (.fileNotFound p), t)

end

/-! ## What they do where nothing is in the way -/

variable {fails : PosixPath → Faults B} {t : FileTree B} {p : PosixPath} {m : ℕ} (umask : ℕ)

theorem makeable_eq_ok (hp : t p = none) (hparent : t p.parent = some (.dir m)) :
    t.makeable p = .ok () := by
  rw [makeable, hp, hparent]

theorem mkdirOnce_eq_ok {existOk : Bool} (hworks : Works fails) (hp : t p = none)
    (hparent : t p.parent = some (.dir m)) :
    mkdirOnce fails umask existOk p t =
      (.ok (), Function.update t p (some (.dir (masked umask 0o777)))) := by
  rw [mkdirOnce, osMkdir, hworks, makeable_eq_ok hp hparent]

theorem mkdirOnce_eq_notFound {existOk : Bool} (hworks : Works fails) (hp : t p = none)
    (hparent : t p.parent = none) :
    mkdirOnce fails umask existOk p t = (.error (.fileNotFound p), t) := by
  rw [mkdirOnce, osMkdir, hworks, makeable, hp, hparent]

/-- **A path that is free for a directory**: nothing is there, and above it there is nothing but
directories, one at the root. -/
structure Open (t : FileTree B) (p : PosixPath) : Prop where
  root : ∃ m, t [] = some (.dir m)
  above : ∀ q, q <+: p → q ≠ p → t q = none ∨ ∃ m, t q = some (.dir m)

/-- **What has been made for a directory**: it and those above it, and nothing else. -/
structure MadeFor (p : PosixPath) (t u : FileTree B) : Prop where
  above : ∀ q, q <+: p → q ≠ p → u q = t q ∨ (t q = none ∧ ∃ m, u q = some (.dir m))
  other : ∀ q, ¬ q <+: p → u q = t q

/-- A path is not above the one it is made of. -/
theorem not_prefix_concat (p : PosixPath) (name : String) : ¬ p ++ [name] <+: p := fun h => by
  have hle := h.length_le
  rw [List.length_append, List.length_singleton] at hle
  omega

theorem Open.parent {name : String} (h : t.Open (p ++ [name])) : t.Open p := by
  refine ⟨h.root, fun q hq hne => h.above q (hq.trans (List.prefix_append p [name])) ?_⟩
  rintro rfl
  exact not_prefix_concat p name hq

theorem MadeFor.refl (p : PosixPath) (t : FileTree B) : MadeFor p t t :=
  ⟨fun _ _ _ => Or.inl rfl, fun _ _ => rfl⟩

/-- What is at the path itself does not matter. -/
theorem MadeFor.update_self {u : FileTree B} (h : MadeFor p t u) (node : Option (Node B)) :
    MadeFor p t (Function.update u p node) where
  above q hq hne := by
    rw [Function.update_of_ne hne]
    exact h.above q hq hne
  other q hq := by
    have hne : q ≠ p := by
      rintro rfl
      exact hq (List.prefix_refl q)
    rw [Function.update_of_ne hne]
    exact h.other q hq

/-- One directory more. -/
theorem MadeFor.update {u : FileTree B} {name : String} (h : MadeFor p t u) (ht : t p = none)
    (hu : u p = some (.dir m)) (node : Option (Node B)) :
    MadeFor (p ++ [name]) t (Function.update u (p ++ [name]) node) where
  above q hq hne := by
    rw [Function.update_of_ne hne]
    have hup := (List.prefix_concat_iff.mp hq).resolve_left hne
    by_cases heq : q = p
    · rw [heq]
      exact Or.inr ⟨ht, m, hu⟩
    · exact h.above q hup heq
  other q hq := by
    have hne : q ≠ p ++ [name] := by
      rintro rfl
      exact hq (List.prefix_refl _)
    rw [Function.update_of_ne hne]
    exact h.other q fun hup => hq (hup.trans (List.prefix_append p [name]))

/-- **Directories are made with those above them.** -/
theorem mkdirParents_eq_ok (hworks : Works fails) (existOk : Bool) {rev : List String}
    (h : t.Open rev.reverse) (hp : t rev.reverse = none) :
    ∃ u, mkdirParents fails umask existOk rev t = (.ok (), u) ∧ MadeFor rev.reverse t u ∧
      u rev.reverse = some (.dir (masked umask 0o777)) := by
  induction rev generalizing existOk with
  | nil =>
    obtain ⟨m, hm⟩ := h.root
    rw [List.reverse_nil, hm] at hp
    cases hp
  | cons name up ih =>
    have hrev : (name :: up).reverse = up.reverse ++ [name] := List.reverse_cons
    have hparent : PosixPath.parent (up.reverse ++ [name]) = up.reverse := List.dropLast_concat
    have hne : up.reverse ≠ up.reverse ++ [name] := fun heq =>
      List.cons_ne_nil _ _ (List.append_right_eq_self.mp heq.symm)
    rw [hrev] at h hp
    rw [mkdirParents, hrev]
    dsimp only
    rcases h.above _ (List.prefix_append _ _) hne with hnone | ⟨m, hm⟩
    · obtain ⟨u, hu, hmade, hdir⟩ := ih true h.parent hnone
      have hfree : u (up.reverse ++ [name]) = none := by
        rw [hmade.other _ (not_prefix_concat _ name), hp]
      refine ⟨_, ?_, hmade.update hnone hdir _, Function.update_self ..⟩
      rw [mkdirOnce_eq_notFound umask hworks hp (by rwa [hparent])]
      exact (Effect.bind_of_ok hu).trans (mkdirOnce_eq_ok umask hworks hfree (by rwa [hparent]))
    · refine ⟨Function.update t (up.reverse ++ [name]) _, ?_, .update_self (.refl _ t) _,
        Function.update_self ..⟩
      rw [mkdirOnce_eq_ok umask hworks hp (by rwa [hparent])]

theorem mkdir_eq_ok (hworks : Works fails) (h : t.Open p) (hp : t p = none) :
    ∃ u, mkdir fails umask p t = (.ok (), u) ∧
      MadeFor p t u ∧ u p = some (.dir (masked umask 0o777)) := by
  rw [← List.reverse_reverse p] at h hp
  have hmade := mkdirParents_eq_ok umask hworks false h hp
  rwa [List.reverse_reverse] at hmade

theorem openNew_eq_ok [EmptyCollection B] (m : ℕ) {m' : ℕ} (hcreat : (fails p).creat = none)
    (hp : t p = none) (hparent : t p.parent = some (.dir m')) :
    openNew fails umask m p t =
      (.ok (), Function.update t p (some (.file (masked umask m) ∅))) := by
  rw [openNew, hcreat, makeable_eq_ok hp hparent]

theorem write_eq_ok {content old : B} (hwrite : (fails p).write = none)
    (hp : t p = some (.file m old)) :
    write fails p content t = (.ok (), Function.update t p (some (.file m content))) := by
  rw [write, hwrite, hp]

theorem chmod_eq_ok {node : Node B} (hchmod : (fails p).chmod = none) (hp : t p = some node) :
    chmod fails m p t = (.ok (), Function.update t p (some (node.withMode m))) := by
  rw [chmod, hchmod, hp]

/-! ## What is there stays -/

/-- **Nothing that is there is changed.** -/
def Extends (t u : FileTree B) : Prop := ∀ p node, t p = some node → u p = some node

theorem Extends.refl (t : FileTree B) : t.Extends t := fun _ _ h => h

theorem Extends.trans (t u v : FileTree B) (h : t.Extends u) (h' : u.Extends v) : t.Extends v :=
  fun p node hp => h' p node (h p node hp)

/-- Something new, where nothing was. -/
theorem Extends.update {u : FileTree B} (h : t.Extends u) (hp : t p = none)
    (node : Option (Node B)) : t.Extends (Function.update u p node) := by
  intro q other hq
  have hne : q ≠ p := by
    rintro rfl
    exact absurd (hp.symm.trans hq) nofun
  rw [Function.update_of_ne hne]
  exact h q other hq

/-- Where something can be made there is nothing. -/
theorem eq_none_of_makeable (h : t.makeable p = .ok ()) : t p = none := by
  unfold makeable at h
  cases hp : t p with
  | none => rfl
  | some node =>
    rw [hp] at h
    exact absurd h nofun

variable (fails)

/-- A file is opened where there was nothing, or nothing is done. -/
theorem openNew_cases [EmptyCollection B] (m : ℕ) (p : PosixPath) (t : FileTree B) :
    (∃ e, openNew fails umask m p t = (.error e, t)) ∨
      (t p = none ∧ openNew fails umask m p t =
        (.ok (), Function.update t p (some (.file (masked umask m) ∅)))) := by
  unfold openNew
  cases hcreat : (fails p).creat with
  | some e => exact Or.inl ⟨e, rfl⟩
  | none =>
    cases hmake : t.makeable p with
    | error e => exact Or.inl ⟨e, rfl⟩
    | ok _ => exact Or.inr ⟨eq_none_of_makeable hmake, rfl⟩

/-- **An open file gets its content**, or what a failing write leaves. -/
theorem write_cases (content : B) {old : B} (hp : t p = some (.file m old)) :
    (∃ e left, (fails p).write = some (e, left) ∧
        write fails p content t = (.error e, Function.update t p (some (.file m left)))) ∨
      ((fails p).write = none ∧
        write fails p content t = (.ok (), Function.update t p (some (.file m content)))) := by
  cases hwrite : (fails p).write with
  | some fault =>
    refine Or.inl ⟨fault.1, fault.2, rfl, ?_⟩
    rw [write, hp, hwrite]
  | none => exact Or.inr ⟨rfl, write_eq_ok hwrite hp⟩

/-- A mode is changed, or nothing is done. -/
theorem chmod_cases {node : Node B} (m : ℕ) (hp : t p = some node) :
    (∃ e, (fails p).chmod = some e ∧ chmod fails m p t = (.error e, t)) ∨
      ((fails p).chmod = none ∧
        chmod fails m p t = (.ok (), Function.update t p (some (node.withMode m)))) := by
  cases hchmod : (fails p).chmod with
  | some e =>
    refine Or.inl ⟨e, rfl, ?_⟩
    rw [chmod, hchmod]
  | none => exact Or.inr ⟨rfl, chmod_eq_ok hchmod hp⟩

/-- A directory is made where there was nothing, or nothing is done; and that may be as good, if
it is there. -/
theorem mkdirOnce_cases (existOk : Bool) (p : PosixPath) (t : FileTree B) :
    (∃ x, mkdirOnce fails umask existOk p t = (x, t) ∧ (x = .ok () → existOk = true)) ∨
      (t p = none ∧ mkdirOnce fails umask existOk p t =
        (.ok (), Function.update t p (some (.dir (masked umask 0o777))))) := by
  have hfailed (e : OsError) (h : osMkdir fails umask p t = (.error e, t)) :
      ∃ x, mkdirOnce fails umask existOk p t = (x, t) ∧ (x = .ok () → existOk = true) := by
    unfold mkdirOnce
    rw [h]
    cases e with
    | fileExists q =>
      dsimp only
      split
      · rename_i hgood
        exact ⟨_, rfl, fun _ => (Bool.and_eq_true _ _ ▸ hgood).1⟩
      · exact ⟨_, rfl, nofun⟩
    | fileNotFound q | notADirectory q | isADirectory q | permission q | failed text =>
      exact ⟨_, rfl, nofun⟩
  cases hmkdir : (fails p).mkdir with
  | some e =>
    refine Or.inl (hfailed e ?_)
    rw [osMkdir, hmkdir]
  | none =>
    cases hmake : t.makeable p with
    | error e =>
      refine Or.inl (hfailed e ?_)
      rw [osMkdir, hmkdir, hmake]
    | ok _ =>
      refine Or.inr ⟨eq_none_of_makeable hmake, ?_⟩
      rw [mkdirOnce, osMkdir, hmkdir, hmake]

/-- **Directories are made where there was nothing**, and so is the last of them if it must
not be there. -/
theorem mkdirParents_spec (existOk : Bool) (rev : List String) (t : FileTree B) :
    t.Extends (mkdirParents fails umask existOk rev t).2 ∧
      ((mkdirParents fails umask existOk rev t).1 = .ok () → existOk = false →
        t rev.reverse = none ∧
          ∃ m, (mkdirParents fails umask existOk rev t).2 rev.reverse = some (.dir m)) := by
  have once (existOk : Bool) (p : PosixPath) (t : FileTree B) :
      t.Extends (mkdirOnce fails umask existOk p t).2 ∧
        ((mkdirOnce fails umask existOk p t).1 = .ok () → existOk = false → t p = none ∧
          ∃ m, (mkdirOnce fails umask existOk p t).2 p = some (.dir m)) := by
    rcases mkdirOnce_cases fails umask existOk p t with ⟨x, h, hgood⟩ | ⟨hp, h⟩ <;> rw [h]
    · exact ⟨.refl t, fun hok hno => absurd ((hgood hok).symm.trans hno) nofun⟩
    · exact ⟨(Extends.refl t).update hp _, fun _ _ => ⟨hp, _, Function.update_self ..⟩⟩
  induction rev generalizing existOk t with
  | nil => exact once existOk [] t
  | cons name up ih =>
    have hfirst := once existOk (name :: up).reverse t
    unfold mkdirParents
    split
    · rename_i q u hmissing
      rw [hmissing] at hfirst
      have hup := ih true u
      rcases hparents : mkdirParents fails umask true up u with ⟨e | ⟨⟩, v⟩
      · rw [hparents] at hup
        rw [Effect.bind_of_error hparents]
        exact ⟨.trans t u v hfirst.1 hup.1, nofun⟩
      · rw [hparents] at hup
        rw [Effect.bind_of_ok hparents]
        have hlast := once existOk (name :: up).reverse v
        refine ⟨.trans t v _ (.trans t u v hfirst.1 hup.1) hlast.1, fun hok hno => ?_⟩
        obtain ⟨hnone, hdir⟩ := hlast.2 hok hno
        refine ⟨?_, hdir⟩
        cases hp : t (name :: up).reverse with
        | none => rfl
        | some node =>
          have hthere := hup.1 _ _ (hfirst.1 _ _ hp)
          exact absurd (hnone.symm.trans hthere) nofun
    · exact hfirst

theorem mkdir_spec (p : PosixPath) (t : FileTree B) :
    t.Extends (mkdir fails umask p t).2 ∧ ((mkdir fails umask p t).1 = .ok () →
      t p = none ∧ ∃ m, (mkdir fails umask p t).2 p = some (.dir m)) := by
  have hspec := mkdirParents_spec fails umask false p.reverse t
  rw [List.reverse_reverse] at hspec
  exact ⟨hspec.1, fun hok => hspec.2 hok rfl⟩

end FileTree
