import VibeVoice.Semantics.UnixTree

/-!
# The socket between the proxy and the server

The proxy trusts what is at the other end of a socket in the file system, and hands it
requests with the identities of clients.  So it looks at the directory and at the socket
before it connects, and at the credentials of the peer after that; and the server makes the
directory private before it binds.  Each of these is a call of its own, and other users of
the system may act between any two of them.

Whatever they do, there is no connection but to a process with the credentials that are
expected: the last check sees to that alone, whoever interferes, and even if nothing
on the way to the socket can be trusted.

What the others must not do is to put themselves in between, or keep the proxy from its
server.  They cannot, if the directory belongs to the server's user and the way to it is
guarded, as `/tmp` is: then the start of the server goes through a chain of assertions each of
which is stable (`Placed`, `Emptied`, `Bound`), and ends in one from which the proxy's checks
have a single outcome (`triple_connect_bound`).

One thing these checks ask of the directory the server does not see to: its group.  And two
things they rest on are those of the deployment, that the proxy runs as the user of the server
and that it may search the directories above (`CanReach`).  The errors of a call are those that
come of the tree and of who calls; `EMFILE` and `EAGAIN` are not among them.
-/

namespace VibeVoice

open Program

/-- A program that makes system calls. -/
abbrev Unix (ε α : Type) : Type := Fallible UnixCall UnixCall.Reply ε α

/-- A call that raises its `OSError`. -/
def sys (c : UnixCall) : Unix Errno c.Value := Fallible.attempt c id

/-! ## `_bind_private_uds` -/

/-- `path.is_dir()`, of a path for which `mkdir` raised `e` and which may exist. -/
def unlessDir (e : Errno) (p : PosixPath) : Unix Errno Unit :=
  Fallible.attempt (.stat p) fun
    | .ok (node : Inode) => if node.kind = .dir then .ok () else .error e
    | .error .EACCES => .error .EACCES
    | .error _ => .error e

/-- `path.mkdir(mode, parents=False, exist_ok=existOk)` -/
def mkdirOnce (existOk : Bool) (p : PosixPath) : Unix Errno Unit :=
  (sys (.mkdir p 0o777)).recover fun e =>
    if existOk && e ≠ .ENOENT then unlessDir e p else Fallible.fail e

/-- `path.mkdir(parents=True, exist_ok=existOk)`, of a path that is given from its end. -/
def mkdirParents (existOk : Bool) : List String → Unix Errno Unit
  | [] => mkdirOnce existOk []
  | name :: up =>
    (sys (.mkdir (name :: up).reverse 0o777)).recover fun e =>
      if e = .ENOENT then
        (mkdirParents true up).andThen fun () => mkdirOnce existOk (name :: up).reverse
      else if existOk then unlessDir e (name :: up).reverse
      else Fallible.fail e

/-- `with contextlib.suppress(FileNotFoundError)` -/
def ifThere (r : Except Errno Unit) : Except Errno Unit :=
  if r = .error .ENOENT then .ok () else r

/-- `with contextlib.suppress(FileNotFoundError): path.unlink()` -/
def unlinkIfThere (p : PosixPath) : Unix Errno Unit := Fallible.attempt (.unlink p) ifThere

/-- The `try` block of `_bind_private_uds`.  `setblocking` calls nothing that can fail. -/
def bindAndListen (sock : ℕ) (path : PosixPath) : Unix Errno Unit := do
  sys (.bind sock path)
  sys (.chmod path 0o600)
  sys (.listen sock)

/-- `_bind_private_uds` -/
def bindPrivateUds (path : PosixPath) : Unix Errno ℕ := do
  mkdirParents true path.parent.reverse
  sys (.chmod path.parent 0o700)
  unlinkIfThere path
  let sock : ℕ ← sys .socket
  (bindAndListen sock path).recover fun e => do
    sys (.close sock)
    unlinkIfThere path
    Fallible.fail e
  return sock

/-- The `finally` block of `main`. -/
def closeUds (sock : ℕ) (path : PosixPath) : Unix Errno Unit := do
  sys (.close sock)
  unlinkIfThere path

/-! ## `connect_upstream_uds` -/

namespace Proxy

/-- `UpstreamTarget`, without the header. -/
structure UpstreamTarget where
  socketPath : PosixPath
  /-- `socket_path.is_absolute()` -/
  isAbsolute : Bool
  expectedPeerUid : ℕ
  expectedPeerGid : ℕ

/-- `io::Error` -/
inductive IoError where
  | os (e : Errno) : IoError
  | invalidInput (text : String) : IoError
  | permissionDenied (text : String) : IoError
  deriving DecidableEq

/-- A call with `?`. -/
def io (c : UnixCall) : Unix IoError c.Value := Fallible.attempt c (Except.mapError .os)

variable (upstream : UpstreamTarget)

/-- The owner is the expected one. -/
def UpstreamTarget.isExpected (uid gid : ℕ) : Bool :=
  uid == upstream.expectedPeerUid && gid == upstream.expectedPeerGid

/-- The lowest nine bits, `mode & 0o777`. -/
def permissionBits (mode : ℕ) : ℕ := mode &&& 0o777

/-- A socket. -/
def isSocket : NodeKind → Bool
  | .socket _ => true
  | _ => false

/-- The end of `validate_upstream_socket_path`, which is about the socket. -/
def validateSocket : Unix IoError Unit := do
  let socketMeta : Inode ← io (.lstat upstream.socketPath)
  Fallible.require (isSocket socketMeta.kind)
    (.permissionDenied "upstream UDS path must be a real socket, not a symlink")
  Fallible.require (upstream.isExpected socketMeta.uid socketMeta.gid)
    (.permissionDenied "upstream UDS owner does not match expected peer")
  Fallible.require (permissionBits socketMeta.mode = 0o600)
    (.permissionDenied "upstream UDS must have mode 0600")

/-- `validate_upstream_socket_path` -/
def validateUpstreamSocketPath : Unix IoError Unit := do
  Fallible.require upstream.isAbsolute (.invalidInput "upstream UDS path must be absolute")
  Fallible.require (upstream.socketPath ≠ [])
    (.invalidInput "upstream UDS path must have a parent directory")
  let parentMeta : Inode ← io (.lstat upstream.socketPath.parent)
  Fallible.require (parentMeta.kind = .dir)
    (.permissionDenied "upstream UDS parent must be a real directory, not a symlink")
  Fallible.require (upstream.isExpected parentMeta.uid parentMeta.gid)
    (.permissionDenied "upstream UDS parent owner does not match expected peer")
  Fallible.require (permissionBits parentMeta.mode = 0o700)
    (.permissionDenied "upstream UDS parent must have mode 0700")
  validateSocket upstream

/-- `verify_upstream_peer` -/
def verifyUpstreamPeer (stream : UnixStream) : Unix IoError Unit :=
  Fallible.require (upstream.isExpected stream.peer.uid stream.peer.gid)
    (.permissionDenied "upstream UDS peer credentials do not match expected server identity")

/-- `connect_upstream_uds` -/
def connectUpstreamUds : Unix IoError UnixStream := do
  validateUpstreamSocketPath upstream
  let stream : UnixStream ← io (.connect upstream.socketPath)
  verifyUpstreamPeer upstream stream
  return stream

end Proxy

/-! ## What is known between the calls -/

section Start

variable {trusted : ℕ → Prop} {server : Credentials} {umask : ℕ} {w₀ w : Host} {dir : PosixPath}
  {name : String} {node : Inode} {sock : ℕ}

/-- **The directory is where it was**, and the way to it. -/
structure Placed (trusted : ℕ → Prop) (w₀ : Host) (dir : PosixPath) (node : Inode) (w : Host) :
    Prop where
  guarded : w.tree.Guarded trusted dir
  above : ∀ q, q <+: dir → q ≠ dir → w.tree q = w₀.tree q
  self : w.tree dir = some node

/-- **Nothing is in it** under the name. -/
structure Emptied (trusted : ℕ → Prop) (w₀ : Host) (dir : PosixPath) (name : String)
    (node : Inode) (w : Host) : Prop where
  placed : Placed trusted w₀ dir node w
  empty : w.tree (dir.join name) = none

/-- **A socket of the server is in it** under the name. -/
structure Bound (trusted : ℕ → Prop) (w₀ : Host) (dir : PosixPath) (name : String) (node : Inode)
    (server : Credentials) (sock mode : ℕ) (listening : Bool) (w : Host) : Prop where
  placed : Placed trusted w₀ dir node w
  entry : w.tree (dir.join name) = some ⟨server.uid, server.gid, mode, .socket sock⟩
  socket : w.sockets sock = some ⟨server, listening⟩

/-- Whom the server trusts. -/
structure Trusts (trusted : ℕ → Prop) (server : Credentials) : Prop where
  root : trusted 0
  self : trusted server.uid

theorem Placed.stable (h : Trusts trusted server) :
    Stable (Meddles trusted) (Placed trusted w₀ dir node) := by
  intro w w' hw hp
  refine ⟨hw.guarded h.root hp.guarded, fun q hq hne => ?_, ?_⟩
  · rw [hw.tree_eq h.root hp.guarded hq]
    exact hp.above q hq hne
  · rw [hw.tree_eq h.root hp.guarded (List.prefix_refl dir)]
    exact hp.self

theorem Emptied.stable (h : Trusts trusted server) (hclosed : node.Closed) :
    Stable (Meddles trusted) (Emptied trusted w₀ dir name node) := fun w w' hw he =>
  ⟨Placed.stable h w w' hw he.placed,
    hw.tree_eq_none h.root he.placed.guarded he.placed.self hclosed he.empty⟩

variable {mode : ℕ} {listening : Bool}

/-- The socket is on a guarded path. -/
theorem Bound.guarded (h : Trusts trusted server) (hclosed : node.Closed)
    (hb : Bound trusted w₀ dir name node server sock mode listening w) :
    w.tree.Guarded trusted (dir.join name) := by
  intro q hq
  rcases List.prefix_concat_iff.mp hq with rfl | hq
  · exact ⟨_, hb.entry, h.self, fun hne => absurd rfl hne⟩
  obtain ⟨node', hnode', htrusted, hkeeps⟩ := hb.placed.guarded q hq
  refine ⟨node', hnode', htrusted, fun _ => ?_⟩
  by_cases hself : q = dir
  · rw [hself, hb.placed.self] at hnode'
    exact Or.inr (Option.some.inj hnode' ▸ hclosed)
  · exact hkeeps hself

theorem Bound.stable (h : Trusts trusted server) (hclosed : node.Closed) :
    Stable (Meddles trusted)
      (Bound trusted w₀ dir name node server sock mode listening) := by
  intro w w' hw hb
  refine ⟨Placed.stable h w w' hw hb.placed, ?_, hw.sockets_eq hb.socket h.self⟩
  rw [hw.tree_eq h.root (hb.guarded h hclosed) (List.prefix_refl _)]
  exact hb.entry

/-! ## The start of the server -/

/-- A directory whose owner alone can do anything with it. -/
theorem closed_private (node : Inode) : ({ node with mode := 0o700 } : Inode).Closed :=
  ⟨(by decide : Nat.testBit 0o700 4 = false), (by decide : Nat.testBit 0o700 1 = false)⟩

/-- Making directories leaves alone those that are there. -/
theorem uses_mkdirOnce (existOk : Bool) (p : PosixPath) :
    Program.Uses (fun c => (∃ p mode, c = .mkdir p mode) ∨ ∃ p, c = .stat p)
      (mkdirOnce existOk p) := by
  refine Uses.recover ⟨Or.inl ⟨_, _, rfl⟩, fun _ => trivial⟩ fun e => ?_
  exact Uses.ite _ ⟨Or.inr ⟨_, rfl⟩, fun _ => trivial⟩ trivial

theorem uses_mkdirParents (existOk : Bool) (names : List String) :
    Program.Uses (fun c => (∃ p mode, c = .mkdir p mode) ∨ ∃ p, c = .stat p)
      (mkdirParents existOk names) := by
  induction names generalizing existOk with
  | nil => exact uses_mkdirOnce existOk []
  | cons name up ih =>
    refine Uses.recover ⟨Or.inl ⟨_, _, rfl⟩, fun _ => trivial⟩ fun e => ?_
    refine Uses.ite _ ((ih true).andThen fun _ => uses_mkdirOnce existOk _) ?_
    exact Uses.ite _ ⟨Or.inr ⟨_, rfl⟩, fun _ => trivial⟩ trivial

theorem triple_mkdirParents (h : Trusts trusted server) :
    Triple (Host.exec server umask) (Meddles trusted) (Placed trusted w₀ dir node)
      (mkdirParents true dir.reverse) (Triple.IfOk fun _ => Placed trusted w₀ dir node) := by
  refine (Triple.keeps (Placed.stable h) ?_ (uses_mkdirParents true _)).mono (fun _ hs => hs)
    fun _ _ hs _ _ => hs
  rintro c (⟨p, mode, rfl⟩ | ⟨p, rfl⟩) w hw
  · have hsome {q : PosixPath} (hq : q <+: dir) :
        (w.mkdir server umask p mode).2.tree q = w.tree q := by
      obtain ⟨node', hnode', -⟩ := hw.guarded q hq
      rw [Host.tree_mkdir hnode', hnode']
    exact ⟨hw.guarded.congr fun q hq => hsome hq,
      fun q hq hne => (hsome hq).trans (hw.above q hq hne),
      (hsome (List.prefix_refl dir)).trans hw.self⟩
  · exact hw

/-- The directory with another mode is where the directory was. -/
theorem Placed.put_self {node' : Inode} (hp : Placed trusted w₀ dir node w)
    (howner : node'.uid = node.uid) : Placed trusted w₀ dir node' (w.put dir (some node')) := by
  have hother {q : PosixPath} (hne : q ≠ dir) : (w.put dir (some node')).tree q = w.tree q :=
    Function.update_of_ne hne ..
  have hself : (w.put dir (some node')).tree dir = some node' := Function.update_self ..
  refine ⟨fun q hq => ?_, fun q hq hne => (hother hne).trans (hp.above q hq hne), hself⟩
  obtain ⟨old, hold, htrusted, hkeeps⟩ := hp.guarded q hq
  by_cases hne : q = dir
  · rw [hne, hp.self] at hold
    refine ⟨node', by rw [hne, hself], ?_, fun h => absurd hne h⟩
    rw [howner, Option.some.inj hold]
    exact htrusted
  · exact ⟨old, (hother hne).trans hold, htrusted, hkeeps⟩

/-- What is in the directory is not on the way to it. -/
theorem Placed.put_entry {entry : Option Inode} (hp : Placed trusted w₀ dir node w) :
    Placed trusted w₀ dir node (w.put (dir.join name) entry) := by
  have hother {q : PosixPath} (hq : q <+: dir) :
      (w.put (dir.join name) entry).tree q = w.tree q := by
    refine Function.update_of_ne (fun heq => ?_) ..
    have hle := hq.length_le
    rw [heq, PosixPath.join, List.length_append, List.length_singleton] at hle
    omega
  exact ⟨hp.guarded.congr fun q hq => hother hq,
    fun q hq hne => (hother hq).trans (hp.above q hq hne),
    (hother (List.prefix_refl dir)).trans hp.self⟩

theorem triple_chmod_dir (h : Trusts trusted server) :
    Triple (Host.exec server umask) (Meddles trusted) (Placed trusted w₀ dir node)
      (sys (.chmod dir 0o700))
      (Triple.IfOk fun _ => Placed trusted w₀ dir { node with mode := 0o700 }) := by
  refine Triple.attempt (Placed.stable h) (fun _ => Placed.stable h) fun w hw a ha => ?_
  show Placed trusted w₀ dir { node with mode := 0o700 } (w.chmod server dir 0o700).2
  rw [Host.chmod_eq_ok hw.self ha]
  exact hw.put_self rfl

theorem triple_unlink (h : Trusts trusted server) (hclosed : node.Closed) :
    Triple (Host.exec server umask) (Meddles trusted) (Placed trusted w₀ dir node)
      (unlinkIfThere (dir.join name))
      (Triple.IfOk fun _ => Emptied trusted w₀ dir name node) := by
  refine Triple.attempt (Placed.stable h) (fun _ => Emptied.stable h hclosed) fun w hw a ha => ?_
  have habove (q : PosixPath) (hq : q <+: dir.join name) (hne : q ≠ dir.join name) :
      w.tree q ≠ none := by
    obtain ⟨entry, hentry, -⟩ :=
      hw.guarded q ((List.prefix_concat_iff.mp hq).resolve_left hne)
    rw [hentry]
    exact Option.some_ne_none entry
  have hunlinked : (w.unlink server (dir.join name)).2 = w.put (dir.join name) none := by
    refine Host.unlink_snd habove ?_
    change ifThere (w.unlink server (dir.join name)).1 = .ok a at ha
    rw [ifThere] at ha
    split at ha
    · rename_i herror
      exact Or.inr herror
    · exact Or.inl ha
  show Emptied trusted w₀ dir name node (w.unlink server (dir.join name)).2
  rw [hunlinked]
  exact ⟨hw.put_entry, Function.update_self ..⟩

theorem stable_socket (h : Trusts trusted server) :
    Stable (Meddles trusted) fun w => w.sockets sock = some ⟨server, listening⟩ :=
  fun _ _ hw hsocket => hw.sockets_eq hsocket h.self

theorem triple_socket (h : Trusts trusted server) (hclosed : node.Closed) :
    Triple (Host.exec server umask) (Meddles trusted) (Emptied trusted w₀ dir name node)
      (sys .socket) (Triple.IfOk fun (fd : ℕ) w =>
        Emptied trusted w₀ dir name node w ∧ w.sockets fd = some ⟨server, false⟩) := by
  refine Triple.attempt (Emptied.stable h hclosed)
    (fun _ => (Emptied.stable h hclosed).and (stable_socket h)) fun w hw fd hfd => ?_
  obtain rfl : w.nextFd = fd := Except.ok.inj hfd
  exact ⟨⟨⟨hw.placed.guarded, hw.placed.above, hw.placed.self⟩, hw.empty⟩,
    Function.update_self ..⟩

/-- **The socket is bound**, made private, and listens. -/
theorem triple_bindAndListen (h : Trusts trusted server) (hclosed : node.Closed)
    (hgroup : node.mode.testBit 10 = false) :
    Triple (Host.exec server umask) (Meddles trusted)
      (fun w => Emptied trusted w₀ dir name node w ∧ w.sockets sock = some ⟨server, false⟩)
      (bindAndListen sock (dir.join name))
      (Triple.IfOk fun _ => Bound trusted w₀ dir name node server sock 0o600 true) := by
  have hbound (mode : ℕ) (listening : Bool) : Stable (Meddles trusted)
      (Bound trusted w₀ dir name node server sock mode listening) := Bound.stable h hclosed
  have hsome : Stable (Meddles trusted) fun w =>
      ∃ mode, Bound trusted w₀ dir name node server sock mode false w :=
    fun w w' hw ⟨mode, hb⟩ => ⟨mode, hbound mode false w w' hw hb⟩
  refine Triple.andThen (Triple.attempt ((Emptied.stable h hclosed).and (stable_socket h))
    (fun _ => hsome) fun w hw a ha => ?_) fun _ => ?_
  · have hdir : w.tree (dir.join name).parent = some node := by
      rw [PosixPath.parent_join]
      exact hw.1.placed.self
    obtain ⟨-, mode, hbind⟩ := Host.bind_eq_ok hdir hgroup ha
    refine ⟨mode, ?_⟩
    show Bound trusted w₀ dir name node server sock mode false
      (w.bind server umask sock (dir.join name)).2
    rw [hbind]
    exact ⟨hw.1.placed.put_entry, Function.update_self .., hw.2⟩
  refine Triple.andThen (Triple.attempt hsome (fun _ => hbound 0o600 false)
    fun w hw a ha => ?_) fun _ => ?_
  · obtain ⟨mode, hb⟩ := hw
    show Bound trusted w₀ dir name node server sock 0o600 false
      (w.chmod server (dir.join name) 0o600).2
    rw [Host.chmod_eq_ok hb.entry ha]
    exact ⟨hb.placed.put_entry, Function.update_self .., hb.socket⟩
  · refine Triple.attempt (hbound 0o600 false) (fun _ => hbound 0o600 true) fun w hw a ha => ?_
    show Bound trusted w₀ dir name node server sock 0o600 true (w.listen sock).2
    rw [Host.listen_eq_ok hw.socket]
    exact ⟨⟨hw.placed.guarded, hw.placed.above, hw.placed.self⟩, hw.entry,
      Function.update_self ..⟩

/-- **The server has started**: its socket listens at its path, and stays there. -/
theorem triple_bindPrivateUds (h : Trusts trusted server) :
    Triple (Host.exec server umask) (Meddles trusted) (Placed trusted w₀ dir node)
      (bindPrivateUds (dir.join name))
      (Triple.IfOk fun sock =>
        Bound trusted w₀ dir name { node with mode := 0o700 } server sock 0o600 true) := by
  have hclosed := closed_private node
  have hgroup : Nat.testBit 0o700 10 = false := by decide
  rw [bindPrivateUds, PosixPath.parent_join]
  refine Triple.andThen (triple_mkdirParents h) fun _ => ?_
  refine Triple.andThen (triple_chmod_dir h) fun _ => ?_
  refine Triple.andThen (triple_unlink h hclosed) fun _ => ?_
  refine Triple.andThen (triple_socket h hclosed) fun sock => ?_
  refine Triple.andThen (Triple.recover (fun _ => Bound.stable h hclosed)
    (triple_bindAndListen h hclosed hgroup) fun e => ?_) fun _ => ?_
  · refine Triple.andThen Triple.ifOk_true fun _ => ?_
    exact Triple.andThen Triple.ifOk_true fun _ => Triple.fail e
  · exact Triple.done (Bound.stable h hclosed) fun w hw a ha => Except.ok.inj ha ▸ hw

/-- The server has stopped: nothing is at the path. -/
theorem triple_closeUds (h : Trusts trusted server) (hclosed : node.Closed) :
    Triple (Host.exec server umask) (Meddles trusted)
      (Bound trusted w₀ dir name node server sock mode listening)
      (closeUds sock (dir.join name))
      (Triple.IfOk fun _ => Emptied trusted w₀ dir name node) := by
  refine Triple.andThen (Triple.attempt (Bound.stable h hclosed) (fun _ => Placed.stable h)
    fun w hw _ _ => ?_) fun _ => triple_unlink h hclosed
  exact ⟨hw.placed.guarded, hw.placed.above, hw.placed.self⟩

end Start

/-! ## The proxy -/

section Connect

open Proxy

variable {trusted : ℕ → Prop} {server proxy : Credentials} {umask : ℕ} {w₀ w : Host}
  {dir : PosixPath} {name : String} {node : Inode} {sock : ℕ}

/-- **Whoever interferes, the peer is the expected one.** -/
theorem triple_connectUpstreamUds (others : Host → Host → Prop) (upstream : UpstreamTarget) :
    Triple (Host.exec proxy umask) others (fun _ => True) (connectUpstreamUds upstream)
      (Triple.IfOk fun stream _ =>
        upstream.isExpected stream.peer.uid stream.peer.gid = true) := by
  have htrue : Stable others fun _ => True := fun _ _ _ _ => trivial
  refine Triple.andThen Triple.ifOk_true fun _ => ?_
  refine Triple.andThen Triple.ifOk_true fun stream => ?_
  cases hexpected : upstream.isExpected stream.peer.uid stream.peer.gid with
  | true =>
    exact Triple.requireThen hexpected
      (Triple.done htrue fun _ _ a ha => Except.ok.inj ha ▸ hexpected)
  | false => exact Triple.requireFails htrue hexpected fun _ _ _ ha => absurd ha nofun

/-- What the proxy looks for. -/
def serverTarget (server : Credentials) (path : PosixPath) : UpstreamTarget where
  socketPath := path
  isAbsolute := true
  expectedPeerUid := server.uid
  expectedPeerGid := server.gid

/-- The directory of the server, as the proxy wants it. -/
structure PrivateDir (node : Inode) (server : Credentials) : Prop where
  kind : node.kind = .dir
  owner : node.uid = server.uid
  mode : node.mode = 0o700

theorem PrivateDir.closed (h : PrivateDir node server) : node.Closed := by
  rw [Inode.Closed, h.mode]
  exact ⟨by decide, by decide⟩

/-- The proxy can reach the directory, and what is in it. -/
structure CanReach (proxy server : Credentials) (w₀ : Host) (dir : PosixPath) : Prop where
  user : proxy.uid = server.uid
  above : ∀ q, q <+: dir → q ≠ dir → w₀.tree.search proxy q = .ok ()

theorem Placed.walk_dir (hp : Placed trusted w₀ dir node w)
    (hreach : CanReach proxy server w₀ dir) : w.tree.walk proxy dir = .ok () :=
  UnixTree.walk_eq_ok fun q hq hne => by
    rw [UnixTree.search_congr (hp.above q hq hne)]
    exact hreach.above q hq hne

theorem Placed.walk_entry (hp : Placed trusted w₀ dir node w) (hprivate : PrivateDir node server)
    (hreach : CanReach proxy server w₀ dir) : w.tree.walk proxy (dir.join name) = .ok () := by
  refine UnixTree.walk_eq_ok fun q hq hne => ?_
  have hq := (List.prefix_concat_iff.mp hq).resolve_left hne
  by_cases hself : q = dir
  · rw [hself]
    refine UnixTree.search_eq_ok hp.self hprivate.kind (Inode.permits_of_owner ?_ ?_)
    · rw [hprivate.owner, hreach.user]
    · rw [hprivate.mode]
      decide
  · rw [UnixTree.search_congr (hp.above q hq hself)]
    exact hreach.above q hq hself

/-- What the proxy says of the directory of another group. -/
def wrongOwner : IoError :=
  .permissionDenied "upstream UDS parent owner does not match expected peer"

/-- **The proxy looks at the directory**, and what it says next depends on its group. -/
theorem triple_validate (hprivate : PrivateDir node server) (hreach : CanReach proxy server w₀ dir)
    {P : Host → Prop} (hP : Stable (Meddles trusted) P)
    (hplaced : ∀ w, P w → Placed trusted w₀ dir node w) {r : Except IoError Unit}
    (hsocket : Triple (Host.exec proxy umask) (Meddles trusted) P
      (validateSocket (serverTarget server (dir.join name))) fun r' w => r' = r ∧ P w) :
    Triple (Host.exec proxy umask) (Meddles trusted) P
      (validateUpstreamSocketPath (serverTarget server (dir.join name)))
      fun r' w => r' = (if node.gid = server.gid then r else .error wrongOwner) ∧ P w := by
  have hlook (w : Host) (hw : P w) :
      Host.exec proxy umask (.lstat (dir.join name).parent) w = (.ok node, w) := by
    rw [PosixPath.parent_join]
    exact congrArg (·, w)
      (UnixTree.lookup_eq_ok ((hplaced w hw).walk_dir hreach) (hplaced w hw).self)
  refine Triple.requireThen rfl (Triple.requireThen ?_ (Triple.lookThen hP hlook rfl ?_))
  · exact decide_eq_true (List.append_ne_nil_of_right_ne_nil dir (List.cons_ne_nil name []))
  refine Triple.requireThen (decide_eq_true hprivate.kind) ?_
  have huser : (node.uid == server.uid) = true := beq_iff_eq.mpr hprivate.owner
  by_cases hgroup : node.gid = server.gid
  · rw [if_pos hgroup]
    refine Triple.requireThen ?_ (Triple.requireThen ?_ hsocket)
    · exact Bool.and_eq_true_iff.mpr ⟨huser, beq_iff_eq.mpr hgroup⟩
    · rw [hprivate.mode]
      decide
  · rw [if_neg hgroup]
    refine Triple.requireFails hP ?_ fun w hw => ⟨rfl, hw⟩
    exact Bool.and_eq_false_iff.mpr (Or.inr (beq_eq_false_iff_ne.mpr hgroup))

/-- **The proxy gets to the server**, if the directory has its group. -/
theorem triple_connect_bound (h : Trusts trusted server) (hprivate : PrivateDir node server)
    (hreach : CanReach proxy server w₀ dir) :
    Triple (Host.exec proxy umask) (Meddles trusted)
      (Bound trusted w₀ dir name node server sock 0o600 true)
      (connectUpstreamUds (serverTarget server (dir.join name)))
      fun r _ => r = if node.gid = server.gid then .ok ⟨sock, server⟩ else .error wrongOwner := by
  have hstable : Stable (Meddles trusted) (Bound trusted w₀ dir name node server sock 0o600 true) :=
    Bound.stable h hprivate.closed
  have hself : (serverTarget server (dir.join name)).isExpected server.uid server.gid = true :=
    Bool.and_eq_true_iff.mpr ⟨beq_self_eq_true _, beq_self_eq_true _⟩
  have hlstat (w : Host) (hw : Bound trusted w₀ dir name node server sock 0o600 true w) :
      Host.exec proxy umask (.lstat (dir.join name)) w =
        (.ok ⟨server.uid, server.gid, 0o600, .socket sock⟩, w) :=
    congrArg (·, w) (UnixTree.lookup_eq_ok (hw.placed.walk_entry hprivate hreach) hw.entry)
  have hconnect (w : Host) (hw : Bound trusted w₀ dir name node server sock 0o600 true w) :
      Host.exec proxy umask (.connect (dir.join name)) w = (.ok ⟨sock, server⟩, w) :=
    congrArg (·, w) (Host.connect_eq_ok (hw.placed.walk_entry hprivate hreach) hw.entry rfl
      (Inode.permits_of_owner hreach.user.symm (by decide : Nat.testBit 0o600 7 = true)) hw.socket)
  have hsocket : Triple (Host.exec proxy umask) (Meddles trusted)
      (Bound trusted w₀ dir name node server sock 0o600 true)
      (validateSocket (serverTarget server (dir.join name)))
      fun r w => r = .ok () ∧ Bound trusted w₀ dir name node server sock 0o600 true w := by
    refine Triple.lookThen hstable hlstat rfl (Triple.requireThen rfl (Triple.requireThen hself ?_))
    exact Triple.required hstable (by decide : decide (permissionBits 0o600 = 0o600) = true)
      fun w hw => ⟨rfl, hw⟩
  refine Triple.andThen_of_eq
    (triple_validate hprivate hreach hstable (fun w hw => hw.placed) hsocket) ?_
  split
  · exact Triple.lookThen hstable hconnect rfl
      (Triple.requireThen hself (Triple.done hstable fun w hw => rfl))
  · exact Triple.done hstable fun w hw => rfl

/-- **The proxy gets to nobody** when the server has stopped. -/
theorem triple_connect_emptied (h : Trusts trusted server) (hprivate : PrivateDir node server)
    (hreach : CanReach proxy server w₀ dir) :
    Triple (Host.exec proxy umask) (Meddles trusted) (Emptied trusted w₀ dir name node)
      (connectUpstreamUds (serverTarget server (dir.join name)))
      fun r _ => r = .error (if node.gid = server.gid then .os .ENOENT else wrongOwner) := by
  have hstable : Stable (Meddles trusted) (Emptied trusted w₀ dir name node) :=
    Emptied.stable h hprivate.closed
  have hlstat (w : Host) (hw : Emptied trusted w₀ dir name node w) :
      Host.exec proxy umask (.lstat (dir.join name)) w = (.error .ENOENT, w) :=
    congrArg (·, w) (UnixTree.lookup_eq_enoent (hw.placed.walk_entry hprivate hreach) hw.empty)
  have hsocket : Triple (Host.exec proxy umask) (Meddles trusted)
      (Emptied trusted w₀ dir name node) (validateSocket (serverTarget server (dir.join name)))
      fun r w => r = .error (.os .ENOENT) ∧ Emptied trusted w₀ dir name node w :=
    Triple.lookFails hstable hlstat rfl fun w hw => ⟨rfl, hw⟩
  refine Triple.andThen_of_eq
    (triple_validate hprivate hreach hstable (fun w hw => hw.placed) hsocket) ?_
  split
  · exact Triple.done hstable fun w hw => rfl
  · exact Triple.done hstable fun w hw => rfl

/-! ## The two together -/

/-- **The socket is the server's own.**  Its directory belongs to the user of the server, the way
to it is guarded, and it has been started.  The proxy runs as that user and can search the way
(`CanReach`).  Then, whatever other users do, between any two calls and after that: as long as
the server runs, the proxy gets a connection to it, if the directory has the group of the
server, and otherwise none; and when it has stopped the proxy gets none.  And whatever anybody
does, there is no connection but to the expected user.

What the kernel runs out of, descriptors or room in the queue of the socket, is not in it. -/
theorem private_socket (h : Trusts trusted server) (hguard : w.tree.Guarded trusted dir)
    (hnode : w.tree dir = some node) (hkind : node.kind = .dir) (howner : node.uid = server.uid)
    (hreach : CanReach proxy server w dir) {started : Host}
    (hstart : Runs (Host.exec server umask) (Meddles trusted) (bindPrivateUds (dir.join name)) w
      (.ok sock) started) (umask' : ℕ) :
    (∀ r after, Runs (Host.exec proxy umask') (Meddles trusted)
        (connectUpstreamUds (serverTarget server (dir.join name))) started r after →
      r = if node.gid = server.gid then .ok ⟨sock, server⟩ else .error wrongOwner) ∧
    (∀ stopped, Runs (Host.exec server umask) (Meddles trusted) (closeUds sock (dir.join name))
        started (.ok ()) stopped →
      ∀ r after, Runs (Host.exec proxy umask') (Meddles trusted)
          (connectUpstreamUds (serverTarget server (dir.join name))) stopped r after →
        ∃ e, r = .error e) ∧
    ∀ (others : Host → Host → Prop) (upstream : UpstreamTarget) (before after : Host)
        (stream : UnixStream), Runs (Host.exec proxy umask') others (connectUpstreamUds upstream)
          before (.ok stream) after →
      stream.peer.uid = upstream.expectedPeerUid ∧ stream.peer.gid = upstream.expectedPeerGid := by
  have hplaced : Placed trusted w dir node w := ⟨hguard, fun _ _ _ => rfl, hnode⟩
  have hbound := triple_bindPrivateUds h w _ started hplaced hstart sock rfl
  have hprivate : PrivateDir { node with mode := 0o700 } server := ⟨hkind, howner, rfl⟩
  refine ⟨fun r after hrun => ?_, fun stopped hstop r after hrun => ?_,
    fun others upstream before after stream hrun => ?_⟩
  · exact triple_connect_bound h hprivate hreach started r after hbound hrun
  · have hemptied := triple_closeUds h hprivate.closed started _ stopped hbound hstop () rfl
    exact ⟨_, triple_connect_emptied h hprivate hreach stopped r after hemptied hrun⟩
  · have hexpected : upstream.isExpected stream.peer.uid stream.peer.gid = true :=
      triple_connectUpstreamUds others upstream before _ after trivial hrun stream rfl
    rw [UpstreamTarget.isExpected, Bool.and_eq_true, beq_iff_eq, beq_iff_eq] at hexpected
    exact hexpected

end Connect

/-! ### A server in `/tmp` -/

/-- A user of the system, and the server and the proxy, which run as that user. -/
def vibevoiceUser : Credentials := ⟨1000, 1000, []⟩

/-- What is there at first: a directory of the user in `/tmp`, with the socket of a server that
was killed. -/
def tmpTree : UnixTree := fun p =>
  if p = [] then some ⟨0, 0, 0o755, .dir⟩
  else if p = ["tmp"] then some ⟨0, 0, 0o1777, .dir⟩
  else if p = ["tmp", "vibevoice-vendor-1000"] then some ⟨1000, 1000, 0o755, .dir⟩
  else if p = ["tmp", "vibevoice-vendor-1000", "server.sock"] then
    some ⟨1000, 1000, 0o600, .socket 0⟩
  else none

def tmpHost : Host := ⟨tmpTree, fun _ => none, 1⟩

theorem guarded_tmpTree : tmpTree.Guarded (· ∈ [0, 1000]) ["tmp", "vibevoice-vendor-1000"] := by
  intro q hq
  rcases List.prefix_cons_iff.mp hq with rfl | ⟨rest, rfl, hrest⟩
  · exact ⟨_, rfl, by decide, fun _ => Or.inr ⟨by decide, by decide⟩⟩
  rcases List.prefix_cons_iff.mp hrest with rfl | ⟨last, rfl, hlast⟩
  · exact ⟨_, rfl, by decide, fun _ => Or.inl (by decide)⟩
  rw [List.prefix_nil.mp hlast]
  exact ⟨_, rfl, by decide, fun h => absurd rfl h⟩

theorem canReach_tmpHost :
    CanReach vibevoiceUser vibevoiceUser tmpHost ["tmp", "vibevoice-vendor-1000"] where
  user := rfl
  above q hq hne := by
    rcases List.prefix_cons_iff.mp hq with rfl | ⟨rest, rfl, hrest⟩
    · rfl
    rcases List.prefix_cons_iff.mp hrest with rfl | ⟨last, rfl, hlast⟩
    · rfl
    · rw [List.prefix_nil.mp hlast] at hne
      exact absurd rfl hne

/-- The server starts there, and the proxy gets to it. -/
theorem private_socket_tmp : ∃ started,
    Runs (Host.exec vibevoiceUser 0o077) (Meddles (· ∈ [0, 1000]))
      (bindPrivateUds ["tmp", "vibevoice-vendor-1000", "server.sock"]) tmpHost (.ok 1) started ∧
    ∀ r after, Runs (Host.exec vibevoiceUser 0o077) (Meddles (· ∈ [0, 1000]))
        (Proxy.connectUpstreamUds
          (serverTarget vibevoiceUser ["tmp", "vibevoice-vendor-1000", "server.sock"]))
        started r after →
      r = .ok ⟨1, vibevoiceUser⟩ := by
  have hrun : Runs (Host.exec vibevoiceUser 0o077) (Meddles (· ∈ [0, 1000])) _ tmpHost _ _ :=
    runs_alone (bindPrivateUds ["tmp", "vibevoice-vendor-1000", "server.sock"]) tmpHost
  have hok : (alone (Host.exec vibevoiceUser 0o077)
      (bindPrivateUds ["tmp", "vibevoice-vendor-1000", "server.sock"]) tmpHost).1 = .ok 1 := by
    decide +kernel
  have htrusts : Trusts (· ∈ [0, 1000]) vibevoiceUser := ⟨by decide, by decide⟩
  rw [hok] at hrun
  refine ⟨_, hrun, fun r after hconnect => ?_⟩
  exact (private_socket htrusts guarded_tmpTree rfl rfl rfl canReach_tmpHost hrun 0o077).1 r after
    hconnect

end VibeVoice
