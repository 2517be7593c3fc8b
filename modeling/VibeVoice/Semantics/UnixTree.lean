import Mathlib.Logic.Function.Basic
import VibeVoice.Semantics.Disk
import VibeVoice.Semantics.Interference
import VibeVoice.Semantics.Utf8

/-!
# Users of one system

What is at a path has an owner and a mode, and so what a process can do to it depends on
whom it runs as.  The calls are the ones with which a program makes a directory of its own,
binds a socket in it, and connects to one.

Other users act in between, and what they can do is a relation (`Meddles`): they make
things where they may write, remove and rename what they may remove, change what is theirs.
It says no less than what the system lets them do; whether they can get to a directory is
not asked.

A path is *guarded* if what is on it belongs to trusted users and no directory on it lets
others replace what is in it: they cannot write there, or it is sticky.  What is on a
guarded path stays (`Meddles.tree_eq`), and in a directory at its end that others cannot
write nothing appears (`Meddles.tree_eq_none`).

No path goes through a link: a call that meets one fails with `ELOOP`.
-/

/-- Whom a process runs as. -/
structure Credentials where
  uid : ℕ
  gid : ℕ
  /-- The other groups. -/
  groups : List ℕ
  deriving DecidableEq

inductive NodeKind where
  | dir : NodeKind
  | file : NodeKind
  | symlink (target : PosixPath) : NodeKind
  | socket (fd : ℕ) : NodeKind
  deriving DecidableEq

/-- What is at a path. -/
structure Inode where
  uid : ℕ
  gid : ℕ
  /-- The mode, without the type. -/
  mode : ℕ
  kind : NodeKind
  deriving DecidableEq

abbrev UnixTree := PosixPath → Option Inode

inductive Errno where
  | EACCES | EADDRINUSE | EBADF | ECONNREFUSED | EEXIST | EISDIR | ELOOP | ENAMETOOLONG | ENOENT
  | ENOTDIR | EPERM
  deriving DecidableEq

/-- Whether a process may do something: 2 is to read, 1 to write, 0 to search. -/
def Inode.permits (node : Inode) (cred : Credentials) (bit : ℕ) : Bool :=
  cred.uid == 0 ||
    node.mode.testBit (if node.uid = cred.uid then bit + 6
      else if node.gid ∈ cred.gid :: cred.groups then bit + 3 else bit)

theorem Inode.permits_of_owner {node : Inode} {cred : Credentials} {bit : ℕ}
    (howner : node.uid = cred.uid) (hbit : node.mode.testBit (bit + 6) = true) :
    node.permits cred bit = true := by
  rw [permits, if_pos howner, hbit, Bool.or_true]

/-- What is in the directory is removed only by its owner or that of the directory. -/
def Inode.sticky (node : Inode) : Bool := node.mode.testBit 9

namespace UnixTree

variable (t : UnixTree) (cred : Credentials)

/-! ## Permissions -/

/-- A directory on the way. -/
def search (dir : PosixPath) : Except Errno Unit :=
  match t dir with
  | none => .error .ENOENT
  | some node =>
    match node.kind with
    | .dir => if node.permits cred 0 then .ok () else .error .EACCES
    | .symlink _ => .error .ELOOP
    | _ => .error .ENOTDIR

def walkFrom (dir : PosixPath) : List String → Except Errno Unit
  | [] => .ok ()
  | name :: names =>
    match t.search cred dir with
    | .error e => .error e
    | .ok () => walkFrom (dir.join name) names

/-- The way to a path, from the root. -/
def walk (p : PosixPath) : Except Errno Unit := t.walkFrom cred [] p

/-- What is at a path. -/
def lookup (p : PosixPath) : Except Errno Inode :=
  match t.walk cred p, t p with
  | .error e, _ => .error e
  | .ok (), none => .error .ENOENT
  | .ok (), some node => .ok node

/-- Whether something can be made at a path: the directory, if so. -/
def enter (p : PosixPath) (taken : Errno) : Except Errno Inode :=
  match t.walk cred p, t p, t p.parent with
  | .error e, _, _ => .error e
  | .ok (), some _, _ => .error taken
  | .ok (), none, none => .error .ENOENT
  | .ok (), none, some dir => if dir.permits cred 1 then .ok dir else .error .EACCES

/-- Whether what is at a path can be removed: it, if so. -/
def leave (p : PosixPath) : Except Errno Inode :=
  match t.walk cred p, t p, t p.parent with
  | .error e, _, _ => .error e
  | .ok (), some node, some dir =>
    if !dir.permits cred 1 then .error .EACCES
    else if dir.sticky && cred.uid != 0 && dir.uid != cred.uid && node.uid != cred.uid then
      .error .EPERM
    else .ok node
  | .ok (), _, _ => .error .ENOENT

end UnixTree

/-- What is made in a directory: with its group if it is `setgid`. -/
def Inode.within (dir : Inode) (cred : Credentials) (mode : ℕ) (kind : NodeKind) : Inode where
  uid := cred.uid
  gid := if dir.mode.testBit 10 then dir.gid else cred.gid
  mode := mode
  kind := kind

/-! ## Calls -/

/-- A socket that a process has made. -/
structure Socket where
  owner : Credentials
  listening : Bool
  deriving DecidableEq

structure Host where
  tree : UnixTree
  sockets : ℕ → Option Socket
  nextFd : ℕ

/-- A connection to a listening socket, with `SO_PEERCRED`. -/
structure UnixStream where
  fd : ℕ
  peer : Credentials
  deriving DecidableEq

inductive UnixCall where
  | mkdir (p : PosixPath) (mode : ℕ) : UnixCall
  | stat (p : PosixPath) : UnixCall
  | lstat (p : PosixPath) : UnixCall
  | chmod (p : PosixPath) (mode : ℕ) : UnixCall
  | unlink (p : PosixPath) : UnixCall
  | socket : UnixCall
  | bind (fd : ℕ) (p : PosixPath) : UnixCall
  | listen (fd : ℕ) : UnixCall
  | close (fd : ℕ) : UnixCall
  | connect (p : PosixPath) : UnixCall

/-- What a call returns if it does not fail. -/
def UnixCall.Value : UnixCall → Type
  | .stat _ => Inode
  | .lstat _ => Inode
  | .socket => ℕ
  | .connect _ => UnixStream
  | _ => Unit

abbrev UnixCall.Reply (c : UnixCall) : Type := Except Errno c.Value

namespace Host

def put (w : Host) (p : PosixPath) (node : Option Inode) : Host :=
  { w with tree := Function.update w.tree p node }

def putSocket (w : Host) (fd : ℕ) (socket : Option Socket) : Host :=
  { w with sockets := Function.update w.sockets fd socket }

/-- `sizeof(sun_path)`, without the last byte. -/
def MAX_SUN_PATH : ℕ := 107

def pathBytes (p : PosixPath) : ℕ :=
  p.foldr (fun name n => (Utf8.encode name.toList).length + 1 + n) 0

section Calls

variable (cred : Credentials) (umask : ℕ)

/-- `mkdir(2)` -/
def mkdir (p : PosixPath) (mode : ℕ) (w : Host) : Except Errno Unit × Host :=
  match w.tree.enter cred p .EEXIST with
  | .error e => (.error e, w)
  | .ok dir => (.ok (), w.put p (some (dir.within cred
      ((mode &&& (0o777 ^^^ (umask &&& 0o777))) ||| (dir.mode &&& 0o2000)) .dir)))

/-- `stat(2)` -/
def stat (p : PosixPath) (w : Host) : Except Errno Inode :=
  match w.tree.lookup cred p with
  | .error e => .error e
  | .ok node =>
    match node.kind with
    | .symlink _ => .error .ELOOP
    | _ => .ok node

/-- `chmod(2)` -/
def chmod (p : PosixPath) (mode : ℕ) (w : Host) : Except Errno Unit × Host :=
  match w.stat cred p with
  | .error e => (.error e, w)
  | .ok node =>
    if cred.uid = 0 ∨ node.uid = cred.uid then (.ok (), w.put p (some { node with mode := mode }))
    else (.error .EPERM, w)

/-- `unlink(2)` -/
def unlink (p : PosixPath) (w : Host) : Except Errno Unit × Host :=
  match w.tree.leave cred p with
  | .error e => (.error e, w)
  | .ok node => if node.kind = .dir then (.error .EISDIR, w) else (.ok (), w.put p none)

/-- `socket(2)` -/
def socket (w : Host) : ℕ × Host :=
  (w.nextFd, { w.putSocket w.nextFd (some ⟨cred, false⟩) with nextFd := w.nextFd + 1 })

/-- `bind(2)` -/
def bind (fd : ℕ) (p : PosixPath) (w : Host) : Except Errno Unit × Host :=
  if MAX_SUN_PATH < pathBytes p then (.error .ENAMETOOLONG, w)
  else
    match w.tree.enter cred p .EADDRINUSE with
    | .error e => (.error e, w)
    | .ok dir => (.ok (), w.put p (some (dir.within cred
        (0o777 &&& (0o777 ^^^ (umask &&& 0o777))) (.socket fd))))

/-- `listen(2)` -/
def listen (fd : ℕ) (w : Host) : Except Errno Unit × Host :=
  match w.sockets fd with
  | none => (.error .EBADF, w)
  | some socket => (.ok (), w.putSocket fd (some { socket with listening := true }))

/-- `connect(2)` -/
def connect (p : PosixPath) (w : Host) : Except Errno UnixStream :=
  match w.tree.lookup cred p with
  | .error e => .error e
  | .ok node =>
    if !node.permits cred 1 then .error .EACCES
    else
      match node.kind with
      | .symlink _ => .error .ELOOP
      | .socket fd =>
        match w.sockets fd with
        | some socket =>
          if socket.listening then .ok ⟨fd, socket.owner⟩ else .error .ECONNREFUSED
        | none => .error .ECONNREFUSED
      | _ => .error .ECONNREFUSED

/-- What a call does for a process. -/
def exec : (c : UnixCall) → Host → c.Reply × Host
  | .mkdir p mode, w => w.mkdir cred umask p mode
  | .stat p, w => (w.stat cred p, w)
  | .lstat p, w => (w.tree.lookup cred p, w)
  | .chmod p mode, w => w.chmod cred p mode
  | .unlink p, w => w.unlink cred p
  | .socket, w => (.ok (w.socket cred).1, (w.socket cred).2)
  | .bind fd p, w => w.bind cred umask fd p
  | .listen fd, w => w.listen fd
  | .close fd, w => (.ok (), w.putSocket fd none)
  | .connect p, w => (w.connect cred p, w)

end Calls

end Host

/-! ## Other users -/

/-- A process may remove what is at `dir/name`. -/
def UnixTree.MayRemove (t : UnixTree) (cred : Credentials) (dir : PosixPath) (name : String) :
    Prop :=
  ∃ node entry, t dir = some node ∧ t (dir.join name) = some entry ∧ node.permits cred 1 = true ∧
    (node.sticky = true → node.uid = cred.uid ∨ entry.uid = cred.uid)

/-- A process may make something at `dir/name`. -/
def UnixTree.MayMake (t : UnixTree) (cred : Credentials) (dir : PosixPath) (name : String) :
    Prop :=
  ∃ node, t dir = some node ∧ t (dir.join name) = none ∧ node.permits cred 1 = true

/-- **What a process of a user who is not trusted can do**, in one call. -/
inductive Meddles (trusted : ℕ → Prop) (w : Host) : Host → Prop where
  /-- It makes something of its own, or a link to what there is. -/
  | make (cred : Credentials) (dir : PosixPath) (name : String) (entry : Inode)
      (huser : ¬ trusted cred.uid) (hmay : w.tree.MayMake cred dir name)
      (hentry : entry.uid = cred.uid ∨ ∃ q, w.tree q = some entry) :
      Meddles trusted w (w.put (dir.join name) (some entry))
  | remove (cred : Credentials) (dir : PosixPath) (name : String)
      (huser : ¬ trusted cred.uid) (hmay : w.tree.MayRemove cred dir name) :
      Meddles trusted w { w with tree := fun q => if dir.join name <+: q then none else w.tree q }
  /-- It renames something, which may be a directory. -/
  | rename (cred : Credentials) (dir dir' : PosixPath) (name name' : String)
      (huser : ¬ trusted cred.uid) (hmay : w.tree.MayRemove cred dir name)
      (hinto : w.tree.MayMake cred dir' name' ∨ w.tree.MayRemove cred dir' name') :
      Meddles trusted w { w with
        tree := fun q =>
          if dir'.join name' <+: q then w.tree (dir.join name ++ q.drop (dir'.length + 1))
          else if dir.join name <+: q then none
          else w.tree q }
  /-- It changes the mode or the group of what is its own. -/
  | change (cred : Credentials) (p : PosixPath) (node : Inode) (mode gid : ℕ)
      (huser : ¬ trusted cred.uid) (hnode : w.tree p = some node) (howner : node.uid = cred.uid) :
      Meddles trusted w (w.put p (some { node with mode := mode, gid := gid }))
  /-- It does something with sockets of its own. -/
  | sockets (sockets : ℕ → Option Socket) (nextFd : ℕ)
      (hkept : ∀ fd socket, w.sockets fd = some socket → trusted socket.owner.uid →
        sockets fd = some socket)
      (hown : ∀ fd socket, sockets fd = some socket → trusted socket.owner.uid →
        w.sockets fd = some socket) :
      Meddles trusted w { w with sockets := sockets, nextFd := nextFd }

/-! ## Guarded paths -/

/-- Only its owner can write in it. -/
def Inode.Closed (node : Inode) : Prop := node.mode.testBit 4 = false ∧ node.mode.testBit 1 = false

/-- **What is on the path stays**: it belongs to trusted users, and no directory on the way lets
others replace what is in it. -/
def UnixTree.Guarded (t : UnixTree) (trusted : ℕ → Prop) (p : PosixPath) : Prop :=
  ∀ q, q <+: p → ∃ node, t q = some node ∧ trusted node.uid ∧
    (q ≠ p → node.sticky = true ∨ node.Closed)

variable {trusted : ℕ → Prop} {t t' : UnixTree} {cred : Credentials} {p q dir : PosixPath}
  {name : String} {node : Inode} {w w' : Host}

namespace UnixTree

theorem Guarded.congr (h : t.Guarded trusted p) (heq : ∀ q, q <+: p → t' q = t q) :
    t'.Guarded trusted p := by
  intro q hq
  rw [heq q hq]
  exact h q hq

/-- What is said of something on the path holds of what is there. -/
theorem Guarded.of_eq_some (h : t.Guarded trusted p) (hq : q <+: p) (hnode : t q = some node) :
    trusted node.uid ∧ (q ≠ p → node.sticky = true ∨ node.Closed) := by
  obtain ⟨node', hnode', hkept⟩ := h q hq
  rw [hnode] at hnode'
  obtain rfl := Option.some.inj hnode'
  exact hkept

/-- Others cannot write where only the owner can. -/
theorem not_permits_write (hroot : trusted 0) (huser : ¬ trusted cred.uid)
    (hnode : trusted node.uid) (hclosed : node.Closed) : node.permits cred 1 = false := by
  have hzero : (cred.uid == 0) = false :=
    beq_eq_false_iff_ne.mpr fun h => huser (h ▸ hroot)
  have howner : node.uid ≠ cred.uid := fun h => huser (h ▸ hnode)
  rw [Inode.permits, hzero, Bool.false_or, if_neg howner]
  split
  · exact hclosed.1
  · exact hclosed.2

theorem not_prefix_of_mayRemove (hroot : trusted 0) (huser : ¬ trusted cred.uid)
    (hmay : t.MayRemove cred dir name) (h : t.Guarded trusted p) : ¬ dir.join name <+: p := by
  intro hp
  obtain ⟨node, entry, hdir, hentry, hwrite, hsticky⟩ := hmay
  have hne : dir ≠ p := fun heq => by
    have hle := hp.length_le
    rw [← heq, PosixPath.join, List.length_append, List.length_singleton] at hle
    omega
  obtain ⟨hnode, hkeeps⟩ := h.of_eq_some ((List.prefix_append dir [name]).trans hp) hdir
  obtain ⟨htrusted, -⟩ := h.of_eq_some hp hentry
  rcases hkeeps hne with hstick | hclosed
  · rcases hsticky hstick with h | h
    · exact huser (h ▸ hnode)
    · exact huser (h ▸ htrusted)
  · rw [not_permits_write hroot huser hnode hclosed] at hwrite
    exact Bool.false_ne_true hwrite

theorem not_prefix_of_mayMake (hmay : t.MayMake cred dir name) (h : t.Guarded trusted p) :
    ¬ dir.join name <+: p := by
  intro hp
  obtain ⟨-, -, hnone, -⟩ := hmay
  obtain ⟨entry, hentry, -⟩ := h _ hp
  rw [hnone] at hentry
  exact absurd hentry nofun

end UnixTree

open UnixTree

/-- **What is on a guarded path stays.** -/
theorem Meddles.tree_eq (hroot : trusted 0) (h : Meddles trusted w w')
    (hguard : w.tree.Guarded trusted p) (hq : q <+: p) : w'.tree q = w.tree q := by
  cases h with
  | make cred dir name entry huser hmay hentry =>
    refine Function.update_of_ne (fun heq => ?_) ..
    exact not_prefix_of_mayMake hmay hguard (heq ▸ hq)
  | remove cred dir name huser hmay =>
    exact if_neg fun h => not_prefix_of_mayRemove hroot huser hmay hguard (h.trans hq)
  | rename cred dir dir' name name' huser hmay hinto =>
    have hnot : ¬ dir'.join name' <+: p := by
      rcases hinto with hmake | hremove
      · exact not_prefix_of_mayMake hmake hguard
      · exact not_prefix_of_mayRemove hroot huser hremove hguard
    refine (if_neg fun h => hnot (h.trans hq)).trans ?_
    exact if_neg fun h => not_prefix_of_mayRemove hroot huser hmay hguard (h.trans hq)
  | change cred p' node mode gid huser hnode howner =>
    refine Function.update_of_ne (fun heq => ?_) ..
    obtain ⟨htrusted, -⟩ := hguard.of_eq_some (heq ▸ hq) hnode
    exact huser (howner ▸ htrusted)
  | sockets => rfl

theorem Meddles.guarded (hroot : trusted 0) (h : Meddles trusted w w')
    (hguard : w.tree.Guarded trusted p) : w'.tree.Guarded trusted p :=
  hguard.congr fun _ hq => h.tree_eq hroot hguard hq

/-- **Nothing appears in a directory that others cannot write.** -/
theorem Meddles.tree_eq_none (hroot : trusted 0) (h : Meddles trusted w w')
    (hguard : w.tree.Guarded trusted dir) (hnode : w.tree dir = some node) (hclosed : node.Closed)
    (hnone : w.tree (dir.join name) = none) : w'.tree (dir.join name) = none := by
  have htrusted : trusted node.uid := (hguard.of_eq_some (List.prefix_refl dir) hnode).1
  have hmake {cred : Credentials} {dir' : PosixPath} {name' : String} (huser : ¬ trusted cred.uid)
      (hmay : w.tree.MayMake cred dir' name') : ¬ dir'.join name' <+: dir.join name := by
    intro hp
    rcases List.prefix_concat_iff.mp hp with heq | hp
    · obtain ⟨rfl, -⟩ := List.append_inj' heq rfl
      obtain ⟨node', hnode', -, hwrite⟩ := hmay
      rw [hnode] at hnode'
      obtain rfl := Option.some.inj hnode'
      rw [not_permits_write hroot huser htrusted hclosed] at hwrite
      exact Bool.false_ne_true hwrite
    · exact not_prefix_of_mayMake hmay hguard hp
  have hremove {cred : Credentials} {dir' : PosixPath} {name' : String}
      (huser : ¬ trusted cred.uid) (hmay : w.tree.MayRemove cred dir' name') :
      ¬ dir'.join name' <+: dir.join name := by
    intro hp
    rcases List.prefix_concat_iff.mp hp with heq | hp
    · obtain ⟨_, _, -, hentry, -⟩ := hmay
      rw [show dir'.join name' = dir.join name from heq, hnone] at hentry
      exact absurd hentry nofun
    · exact not_prefix_of_mayRemove hroot huser hmay hguard hp
  cases h with
  | make cred dir' name' entry huser hmay hentry =>
    have hne : dir.join name ≠ dir'.join name' := fun heq =>
      hmake huser hmay (heq ▸ List.prefix_refl _)
    exact (Function.update_of_ne hne ..).trans hnone
  | remove cred dir' name' huser hmay =>
    exact (if_neg (hremove huser hmay)).trans hnone
  | rename cred dir₁ dir₂ name₁ name₂ huser hmay hinto =>
    have hnot : ¬ dir₂.join name₂ <+: dir.join name := by
      rcases hinto with h | h
      · exact hmake huser h
      · exact hremove huser h
    exact (if_neg hnot).trans ((if_neg (hremove huser hmay)).trans hnone)
  | change cred p' node' mode gid huser hnode' howner =>
    refine (Function.update_of_ne (fun heq => ?_) ..).trans hnone
    rw [← heq, hnone] at hnode'
    exact absurd hnode' nofun
  | sockets => exact hnone

/-- A socket of a trusted user is left alone. -/
theorem Meddles.sockets_eq (h : Meddles trusted w w') {fd : ℕ} {socket : Socket}
    (hsocket : w.sockets fd = some socket) (htrusted : trusted socket.owner.uid) :
    w'.sockets fd = some socket := by
  cases h with
  | sockets sockets nextFd hkept => exact hkept fd socket hsocket htrusted
  | _ => exact hsocket

/-! ## The way to a path -/

namespace UnixTree

theorem walkFrom_eq_ok {names : List String} (h : ∀ q, dir <+: q → q <+: dir ++ names →
    q ≠ dir ++ names → t.search cred q = .ok ()) : t.walkFrom cred dir names = .ok () := by
  induction names generalizing dir with
  | nil => rfl
  | cons name names ih =>
    have hself : t.search cred dir = .ok () :=
      h dir (List.prefix_refl _) (List.prefix_append _ _) (by simp)
    rw [walkFrom, hself]
    refine ih fun q hq hle hne => ?_
    rw [PosixPath.join, List.append_assoc, List.singleton_append] at hle hne
    exact h q ((List.prefix_append dir [name]).trans hq) hle hne

/-- A path can be reached if what is on the way can be searched. -/
theorem walk_eq_ok (h : ∀ q, q <+: p → q ≠ p → t.search cred q = .ok ()) :
    t.walk cred p = .ok () :=
  walkFrom_eq_ok fun q _ hle hne => h q hle hne

theorem walkFrom_eq_enoent {names : List String} (h : t.walkFrom cred dir names = .error .ENOENT) :
    ∃ q, q <+: dir ++ names ∧ q ≠ dir ++ names ∧ t q = none := by
  induction names generalizing dir with
  | nil => exact absurd h nofun
  | cons name names ih =>
    rw [walkFrom] at h
    cases hsearch : t.search cred dir with
    | ok =>
      rw [hsearch] at h
      obtain ⟨q, hle, hne, hnone⟩ := ih h
      rw [PosixPath.join, List.append_assoc, List.singleton_append] at hle hne
      exact ⟨q, hle, hne, hnone⟩
    | error e =>
      rw [hsearch] at h
      obtain rfl := Except.error.inj h
      refine ⟨dir, List.prefix_append _ _, by simp, ?_⟩
      unfold search at hsearch
      split at hsearch
      · assumption
      · split at hsearch
        · split at hsearch <;> exact absurd hsearch (by simp)
        · exact absurd hsearch (by simp)
        · exact absurd hsearch (by simp)

/-- If something is not found on the way, something is missing there. -/
theorem walk_eq_enoent (h : t.walk cred p = .error .ENOENT) :
    ∃ q, q <+: p ∧ q ≠ p ∧ t q = none := walkFrom_eq_enoent h

/-- Whether a directory can be searched is asked of it alone. -/
theorem search_congr (h : t' p = t p) : t'.search cred p = t.search cred p := by
  rw [search, search, h]

theorem search_eq_ok (hnode : t p = some node) (hkind : node.kind = .dir)
    (hmay : node.permits cred 0 = true) : t.search cred p = .ok () := by
  rw [search, hnode]
  dsimp only
  rw [hkind]
  exact if_pos hmay

theorem lookup_eq_ok (hwalk : t.walk cred p = .ok ()) (hnode : t p = some node) :
    t.lookup cred p = .ok node := by
  rw [lookup, hwalk, hnode]

theorem lookup_eq_enoent (hwalk : t.walk cred p = .ok ()) (hnone : t p = none) :
    t.lookup cred p = .error .ENOENT := by
  rw [lookup, hwalk, hnone]

theorem eq_some_of_lookup (h : t.lookup cred p = .ok node) : t p = some node := by
  unfold lookup at h
  split at h
  · exact absurd h nofun
  · exact absurd h nofun
  · rename_i hnode
    rw [hnode, Except.ok.inj h]

/-- Something is made where there is nothing, in a directory. -/
theorem of_enter {taken : Errno} (h : t.enter cred p taken = .ok node) :
    t p = none ∧ t p.parent = some node := by
  unfold enter at h
  split at h
  · exact absurd h nofun
  · exact absurd h nofun
  · exact absurd h nofun
  · rename_i hnone hdir
    split at h
    · exact ⟨hnone, by rw [hdir, Except.ok.inj h]⟩
    · exact absurd h nofun

/-- If there is nothing to remove, then there is nothing, or something is missing on the way. -/
theorem leave_eq_enoent (habove : ∀ q, q <+: p → q ≠ p → t q ≠ none)
    (h : t.leave cred p = .error .ENOENT) : t p = none := by
  unfold leave at h
  split at h
  · rename_i hwalk
    rw [Except.error.inj h] at hwalk
    obtain ⟨q, hle, hne, hnone⟩ := walk_eq_enoent hwalk
    exact absurd hnone (habove q hle hne)
  · split at h
    · exact absurd h (by simp)
    · split at h
      · exact absurd h (by simp)
      · exact absurd h nofun
  · rename_i hnot
    cases hp : t p with
    | none => rfl
    | some node =>
      cases hdir : t p.parent with
      | some dir => exact (hnot node dir hp hdir).elim
      | none =>
        by_cases hself : p.parent = p
        · rw [hself, hp] at hdir
          exact absurd hdir nofun
        · exact absurd hdir (habove _ (List.dropLast_prefix p) hself)

end UnixTree

/-! ## What the calls do -/

namespace Host

variable {umask mode fd : ℕ}

/-- What is there is still there when a directory has been made. -/
theorem tree_mkdir (hnode : w.tree q = some node) :
    (w.mkdir cred umask p mode).2.tree q = some node := by
  unfold mkdir
  split
  · exact hnode
  · rename_i henter
    obtain ⟨hnone, -⟩ := of_enter henter
    refine (Function.update_of_ne (fun heq => ?_) ..).trans hnode
    rw [heq, hnone] at hnode
    exact absurd hnode nofun

theorem eq_some_of_stat (h : w.stat cred p = .ok node) : w.tree p = some node := by
  unfold stat at h
  split at h
  · exact absurd h nofun
  · rename_i hlookup
    split at h
    · exact absurd h nofun
    · rw [← Except.ok.inj h]
      exact eq_some_of_lookup hlookup

/-- A mode is changed, and nothing else. -/
theorem chmod_eq_ok (hnode : w.tree p = some node) (h : (w.chmod cred p mode).1 = .ok ()) :
    (w.chmod cred p mode).2 = w.put p (some { node with mode := mode }) := by
  unfold chmod at h ⊢
  cases hstat : w.stat cred p with
  | error e =>
    rw [hstat] at h
    exact absurd h nofun
  | ok node' =>
    have hnode' := eq_some_of_stat hstat
    rw [hnode] at hnode'
    obtain rfl := Option.some.inj hnode'
    simp only [hstat] at h ⊢
    split at h
    · rename_i howner
      rw [if_pos howner]
    · exact absurd h nofun

/-- What was removed, or was not there, is not there. -/
theorem unlink_snd (habove : ∀ q, q <+: p → q ≠ p → w.tree q ≠ none)
    (h : (w.unlink cred p).1 = .ok () ∨ (w.unlink cred p).1 = .error .ENOENT) :
    (w.unlink cred p).2 = w.put p none := by
  unfold unlink at h ⊢
  cases hleave : w.tree.leave cred p with
  | error e =>
    simp only [hleave] at h ⊢
    have he : e = .ENOENT := by
      rcases h with h | h
      · exact absurd h nofun
      · exact Except.error.inj h
    rw [he] at hleave
    rw [put, Function.update_eq_self_iff.mpr (leave_eq_enoent habove hleave).symm]
  | ok node' =>
    simp only [hleave] at h ⊢
    split at h
    · rcases h with h | h
      · exact absurd h nofun
      · exact absurd h (by simp)
    · rename_i hkind
      rw [if_neg hkind]

/-- A socket is bound where there was nothing. -/
theorem bind_eq_ok (hdir : w.tree p.parent = some node) (hgroup : node.mode.testBit 10 = false)
    (h : (w.bind cred umask fd p).1 = .ok ()) :
    w.tree p = none ∧ ∃ m, (w.bind cred umask fd p).2 =
      w.put p (some ⟨cred.uid, cred.gid, m, .socket fd⟩) := by
  unfold bind at h ⊢
  split at h
  · exact absurd h nofun
  · rename_i hshort
    rw [if_neg hshort]
    cases henter : w.tree.enter cred p .EADDRINUSE with
    | error e =>
      rw [henter] at h
      exact absurd h nofun
    | ok dir =>
      obtain ⟨hnone, hdir'⟩ := of_enter henter
      rw [hdir] at hdir'
      obtain rfl := Option.some.inj hdir'
      refine ⟨hnone, 0o777 &&& (0o777 ^^^ (umask &&& 0o777)), ?_⟩
      simp only [Inode.within, hgroup, Bool.false_eq_true, if_false]

theorem listen_eq_ok {socket : Socket} (hsocket : w.sockets fd = some socket) :
    w.listen fd = (.ok (), w.putSocket fd (some { socket with listening := true })) := by
  rw [listen, hsocket]

/-- A socket that listens is connected to by who may write to it. -/
theorem connect_eq_ok {owner : Credentials} (hwalk : w.tree.walk cred p = .ok ())
    (hnode : w.tree p = some node) (hkind : node.kind = .socket fd)
    (hmay : node.permits cred 1 = true) (hsocket : w.sockets fd = some ⟨owner, true⟩) :
    w.connect cred p = .ok ⟨fd, owner⟩ := by
  simp only [connect, lookup_eq_ok hwalk hnode, hmay, Bool.not_true, Bool.false_eq_true, if_false,
    hkind, hsocket, if_true]

end Host
