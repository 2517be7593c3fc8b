import Mathlib.Data.List.Perm.Basic
import VibeVoice.Client.Pin
import VibeVoice.Proxy.Gateway
import VibeVoice.Proxy.Renewal

/-!
# The connections of the proxy

`serve_public` and the tasks it spawns, next to the renewal of the certificate and with
everything interleaved: a connection is accepted, reads the configuration of the moment,
shakes hands, is served, and ends in whatever way; the loop drops the results of tasks
that have ended; a signal ends the loop, and ten seconds later at most all is over.

A connection holds a permit for as long as its task runs and not longer, however it
ends.  So permits and running tasks are together always as many as there were permits at
first (`Accounted`), which is why none can be lost and why a connection is turned away
only if so many others are being served.  The set of tasks can be larger than the number
of running tasks, since results stay in it until they are looked at; but the loop looks
at them each time around, so it is never larger than that number can be.

What a task is doing depends on no other task, so what holds of every connection follows
from what one step of one connection does (`mem_tasks_of_move`).  One such property is
that the configuration it was given has the key of the server: it may be an old
configuration when the handshake begins, but never one with another key.
-/

namespace VibeVoice

namespace Proxy

/-- `MAX_PUBLIC_CONNECTIONS` -/
def MAX_PUBLIC_CONNECTIONS : ℕ := 128

/-! ## A connection -/

/-- How far `serve_public_connection` is. -/
inductive Stage where
  | spawned : Stage
  | handshaking (config : TlsConfig) : Stage
  | serving (config : TlsConfig) (peerCerts : Option (List (List UInt8)))
      (clientIdentity : String) : Stage
  | finished : Stage
  deriving DecidableEq

/-- A task of `serve_public`. -/
structure Connection where
  clientIp : String
  stage : Stage := .spawned
  deriving DecidableEq

/-- What a task comes upon. -/
inductive ConnectionInput where
  /-- `current_tls_config` -/
  | load : ConnectionInput
  /-- The handshake has succeeded. -/
  | shaken (peerCerts : Option (List (List UInt8))) : ConnectionInput
  /-- The lock was poisoned, the handshake failed or took too long, the connection was
  closed, or the task panicked. -/
  | finishes : ConnectionInput

namespace Connection

/-- The task still runs, and so it holds its permit. -/
def isRunning (c : Connection) : Bool := c.stage ≠ .finished

/-- The configuration it was given. -/
def config (c : Connection) : Option TlsConfig :=
  match c.stage with
  | .handshaking config | .serving config _ _ => some config
  | .spawned | .finished => none

/-- `serve_public_connection`, step by step. -/
def step (crates : Crates) (server : Renewal.State) (c : Connection) :
    ConnectionInput → Option Connection
  | .load =>
    match c.stage, server.phase with
    | .spawned, .running shared => some { c with stage := .handshaking shared }
    | _, _ => none
  | .shaken peerCerts =>
    match c.stage with
    | .handshaking config =>
      match crates.clientIdentityFromPeerCerts peerCerts with
      | .ok identity => some { c with stage := .serving config peerCerts identity }
      | .error _ => some { c with stage := .finished }
    | _ => none
  | .finishes => if c.isRunning then some { c with stage := .finished } else none

end Connection

/-! ## The loop -/

/-- Where `serve_public` is. -/
inductive ListenerPoint where
  | starting : ListenerPoint
  | selecting : ListenerPoint
  /-- After a failed `accept`. -/
  | sleeping : ListenerPoint
  | draining : ListenerPoint
  | returned : ListenerPoint
  deriving DecidableEq

/-- `serve_public`, with its `Semaphore` and its `JoinSet`. -/
structure Listener where
  point : ListenerPoint := .starting
  permits : ℕ := MAX_PUBLIC_CONNECTIONS
  tasks : List Connection := []
  deriving DecidableEq

/-- What the loop comes upon. -/
inductive ListenerInput where
  /-- `main` has come to `serve_public`. -/
  | listen : ListenerInput
  | accepted (clientIp : String) : ListenerInput
  | acceptFailed : ListenerInput
  | woken : ListenerInput
  /-- `join_next`, in the loop. -/
  | joined : ListenerInput
  | shutdown : ListenerInput
  /-- `join_next`, in the drain. -/
  | drained (i : ℕ) : ListenerInput
  | allDrained : ListenerInput
  | drainTimeout : ListenerInput
  | task (i : ℕ) (input : ConnectionInput) : ListenerInput

namespace Listener

/-- How many tasks run. -/
def running (l : Listener) : ℕ := l.tasks.countP (·.isRunning)

/-- `drain_finished_public_tasks` -/
def drainFinishedPublicTasks (l : Listener) : Listener :=
  { l with tasks := l.tasks.filter (·.isRunning) }

/-- `try_public_connection_permit`, and the task if there is a permit. -/
def spawn (l : Listener) (clientIp : String) : Listener :=
  match l.permits with
  | 0 => l
  | permits + 1 => { l with permits := permits, tasks := l.tasks ++ [{ clientIp := clientIp }] }

/-- A task has done something.  A permit is given back when its task ends. -/
def put (l : Listener) (i : ℕ) (c : Connection) : Listener :=
  { l with permits := if c.isRunning then l.permits else l.permits + 1, tasks := l.tasks.set i c }

/-- `serve_public`, step by step.  The loop begins with
`drain_finished_public_tasks`, so what goes on with it does that. -/
def step (crates : Crates) (server : Renewal.State) (l : Listener) :
    ListenerInput → Option Listener
  | .listen =>
    match l.point, server.phase with
    | .starting, .running _ => some { l with point := .selecting }
    | _, _ => none
  | .accepted clientIp =>
    if l.point = .selecting then some (l.spawn clientIp).drainFinishedPublicTasks else none
  | .acceptFailed => if l.point = .selecting then some { l with point := .sleeping } else none
  | .woken =>
    if l.point = .sleeping then
      some { l with point := .selecting }.drainFinishedPublicTasks
    else none
  | .joined =>
    if l.point = .selecting ∧ l.tasks.any (!·.isRunning) then some l.drainFinishedPublicTasks
    else none
  | .shutdown => if l.point = .selecting then some { l with point := .draining } else none
  | .drained i =>
    match l.point, l.tasks[i]? with
    | .draining, some c =>
      if c.isRunning then none else some { l with tasks := l.tasks.eraseIdx i }
    | _, _ => none
  | .allDrained =>
    if l.point = .draining ∧ l.tasks = [] then some { l with point := .returned } else none
  | .drainTimeout =>
    -- the `JoinSet` is dropped, and the tasks in it with their permits
    if l.point = .draining then
      some { point := .returned, permits := l.permits + l.running, tasks := [] }
    else none
  | .task i input =>
    match l.tasks[i]? with
    | none => none
    | some c => (c.step crates server input).map (l.put i)

end Listener

/-- The loop as a party next to the server.  `main` ends with it. -/
def publicListener (crates : Crates) :
    TransitionSystem.Party Renewal.State Renewal.Action where
  State := Listener
  Label := ListenerInput
  init l := l = {}
  allows l _ := l.point ≠ .returned
  step server l i := (l.step crates server i).map fun l' => (server, l')

/-- **The proxy**: the certificate is renewed while connections come and go. -/
def proxySystem (certCrates : CertCrates) (validityDays : ℕ) (crates : Crates) :
    TransitionSystem (Renewal.State × Listener) (Renewal.Action ⊕ ListenerInput) :=
  (Renewal.system certCrates validityDays).joined (publicListener crates)

/-! ## One step -/

section Step

variable {crates : Crates} {server : Renewal.State} {c c' : Connection} {l l' : Listener}

namespace Connection

/-- Only a task that runs does something. -/
theorem isRunning_of_step {input : ConnectionInput} (h : c.step crates server input = some c') :
    c.isRunning = true := by
  cases hstage : c.stage with
  | finished =>
    cases input with
    | load | shaken => simp [step, hstage] at h
    | finishes => simp [step, isRunning, hstage] at h
  | spawned | handshaking | serving => simp [isRunning, hstage]

/-- **A configuration is read once**, and it is the one of the moment. -/
theorem config_of_step {input : ConnectionInput} {config : TlsConfig}
    (h : c.step crates server input = some c') (hconfig : c'.config = some config) :
    c.config = some config ∨ server.phase = .running config := by
  cases input with
  | load =>
    simp only [step] at h
    split at h
    · rename_i shared hstage hphase
      right
      obtain rfl := Option.some_inj.mp h
      rw [hphase, Option.some_inj.mp hconfig]
    · cases h
  | shaken peerCerts =>
    simp only [step] at h
    split at h
    · rename_i old hstage
      left
      split at h
      · obtain rfl := Option.some_inj.mp h
        rw [Connection.config, hstage]
        exact hconfig
      · obtain rfl := Option.some_inj.mp h
        cases hconfig
    · cases h
  | finishes =>
    simp only [step] at h
    split at h
    · obtain rfl := Option.some_inj.mp h
      cases hconfig
    · cases h

/-- Nobody is served without an identity of his own. -/
theorem identity_of_step {input : ConnectionInput} {config : TlsConfig}
    {peerCerts : Option (List (List UInt8))} {identity : String}
    (h : c.step crates server input = some c')
    (hserving : c'.stage = .serving config peerCerts identity) :
    crates.clientIdentityFromPeerCerts peerCerts = .ok identity := by
  cases input with
  | load =>
    simp only [step] at h
    split at h
    · obtain rfl := Option.some_inj.mp h
      cases hserving
    · cases h
  | shaken certs =>
    simp only [step] at h
    split at h
    · split at h
      · rename_i identity' hidentity
        obtain rfl := Option.some_inj.mp h
        obtain ⟨-, rfl, rfl⟩ := Stage.serving.inj hserving
        exact hidentity
      · obtain rfl := Option.some_inj.mp h
        cases hserving
    · cases h
  | finishes =>
    simp only [step] at h
    split at h
    · obtain rfl := Option.some_inj.mp h
      cases hserving
    · cases h

end Connection

namespace Listener

theorem mem_spawn {clientIp : String} (h : c ∈ (l.spawn clientIp).tasks) :
    c ∈ l.tasks ∨ c.stage = .spawned := by
  unfold spawn at h
  split at h
  · exact Or.inl h
  · rcases List.mem_append.mp h with h | h
    · exact Or.inl h
    · rw [List.mem_singleton.mp h]
      exact Or.inr rfl

theorem point_spawn (l : Listener) (clientIp : String) : (l.spawn clientIp).point = l.point := by
  unfold spawn
  split
  · rfl
  · rfl

/-- **What can happen.** -/
inductive Move (crates : Crates) (server : Renewal.State) (l : Listener) : Listener → Prop where
  | listen (shared : TlsConfig) (hpoint : l.point = .starting)
      (hphase : server.phase = .running shared) :
      Move crates server l { l with point := .selecting }
  | accepted (clientIp : String) (hpoint : l.point = .selecting) :
      Move crates server l (l.spawn clientIp).drainFinishedPublicTasks
  | failed (hpoint : l.point = .selecting) : Move crates server l { l with point := .sleeping }
  | woken (hpoint : l.point = .sleeping) :
      Move crates server l { l with point := .selecting }.drainFinishedPublicTasks
  | joined (hpoint : l.point = .selecting) : Move crates server l l.drainFinishedPublicTasks
  | shutdown (hpoint : l.point = .selecting) : Move crates server l { l with point := .draining }
  | drained (i : ℕ) (c : Connection) (hpoint : l.point = .draining) (hi : l.tasks[i]? = some c)
      (hover : c.isRunning = false) : Move crates server l { l with tasks := l.tasks.eraseIdx i }
  | allDrained (hpoint : l.point = .draining) (hnil : l.tasks = []) :
      Move crates server l { l with point := .returned }
  | drainTimeout (hpoint : l.point = .draining) :
      Move crates server l { point := .returned, permits := l.permits + l.running, tasks := [] }
  | task (i : ℕ) (c c' : Connection) (input : ConnectionInput) (hi : l.tasks[i]? = some c)
      (hstep : c.step crates server input = some c') : Move crates server l (l.put i c')

theorem move_of_step {input : ListenerInput} (h : l.step crates server input = some l') :
    Move crates server l l' := by
  cases input with
  | listen =>
    simp only [step] at h
    split at h
    · rename_i shared hpoint hphase
      exact Option.some_inj.mp h ▸ .listen shared hpoint hphase
    · cases h
  | accepted clientIp =>
    obtain ⟨hpoint, h⟩ := Option.ite_none_right_eq_some.mp h
    exact Option.some_inj.mp h ▸ .accepted clientIp hpoint
  | acceptFailed =>
    obtain ⟨hpoint, h⟩ := Option.ite_none_right_eq_some.mp h
    exact Option.some_inj.mp h ▸ .failed hpoint
  | woken =>
    obtain ⟨hpoint, h⟩ := Option.ite_none_right_eq_some.mp h
    exact Option.some_inj.mp h ▸ .woken hpoint
  | joined =>
    obtain ⟨⟨hpoint, -⟩, h⟩ := Option.ite_none_right_eq_some.mp h
    exact Option.some_inj.mp h ▸ .joined hpoint
  | shutdown =>
    obtain ⟨hpoint, h⟩ := Option.ite_none_right_eq_some.mp h
    exact Option.some_inj.mp h ▸ .shutdown hpoint
  | drained i =>
    simp only [step] at h
    split at h
    · rename_i c hpoint hi
      obtain ⟨hover, h⟩ := Option.ite_none_left_eq_some.mp h
      exact Option.some_inj.mp h ▸ .drained i c hpoint hi (Bool.eq_false_iff.mpr hover)
    · cases h
  | allDrained =>
    obtain ⟨⟨hpoint, hnil⟩, h⟩ := Option.ite_none_right_eq_some.mp h
    exact Option.some_inj.mp h ▸ .allDrained hpoint hnil
  | drainTimeout =>
    obtain ⟨hpoint, h⟩ := Option.ite_none_right_eq_some.mp h
    exact Option.some_inj.mp h ▸ .drainTimeout hpoint
  | task i input =>
    simp only [step] at h
    split at h
    · cases h
    · rename_i c hi
      obtain ⟨c', hstep, rfl⟩ := Option.map_eq_some_iff.mp h
      exact .task i c c' input hi hstep

/-- **Where a task comes from**: it was there, it was spawned, or it has moved. -/
theorem mem_tasks_of_move (h : Move crates server l l') (hc : c' ∈ l'.tasks) :
    c' ∈ l.tasks ∨ c'.stage = .spawned ∨
      ∃ c ∈ l.tasks, ∃ input, c.step crates server input = some c' := by
  cases h with
  | listen | failed | shutdown | allDrained => exact Or.inl hc
  | accepted clientIp =>
    rcases mem_spawn (List.mem_filter.mp hc).1 with hold | hnew
    · exact Or.inl hold
    · exact Or.inr (Or.inl hnew)
  | woken | joined => exact Or.inl (List.mem_filter.mp hc).1
  | drained i => exact Or.inl (List.mem_of_mem_eraseIdx hc)
  | drainTimeout => exact absurd hc List.not_mem_nil
  | task i c c'' input hi hstep =>
    rcases List.mem_or_eq_of_mem_set hc with hold | rfl
    · exact Or.inl hold
    · exact Or.inr (Or.inr ⟨c, List.mem_of_getElem? hi, input, hstep⟩)

/-! ## The permits -/

/-- **The books are right**: a permit is there, or a running task has it. -/
structure Accounted (l : Listener) : Prop where
  permits : l.permits + l.running = MAX_PUBLIC_CONNECTIONS
  tasks : l.tasks.length ≤ MAX_PUBLIC_CONNECTIONS

theorem running_drainFinishedPublicTasks (l : Listener) :
    l.drainFinishedPublicTasks.running = l.running := by
  simp only [running, drainFinishedPublicTasks, List.countP_filter, Bool.and_self]

theorem length_drainFinishedPublicTasks (l : Listener) :
    l.drainFinishedPublicTasks.tasks.length = l.running :=
  List.countP_eq_length_filter.symm

/-- After a look at the tasks all of them run. -/
theorem accounted_drainFinishedPublicTasks
    (h : l.permits + l.running = MAX_PUBLIC_CONNECTIONS) :
    l.drainFinishedPublicTasks.Accounted where
  permits := by
    rw [running_drainFinishedPublicTasks]
    exact h
  tasks := by
    rw [length_drainFinishedPublicTasks]
    omega

/-- **A connection is turned away** only if there is no permit. -/
theorem running_spawn (l : Listener) (clientIp : String) :
    (l.permits = 0 ∧ l.spawn clientIp = l) ∨
      ((l.spawn clientIp).permits + 1 = l.permits ∧
        (l.spawn clientIp).running = l.running + 1) := by
  unfold spawn
  split
  · rename_i hzero
    exact Or.inl ⟨hzero, rfl⟩
  · rename_i permits hpermits
    right
    simp only [running, List.countP_append]
    exact ⟨hpermits.symm, rfl⟩

theorem running_eraseIdx {i : ℕ} (hi : l.tasks[i]? = some c) (hover : c.isRunning = false) :
    (l.tasks.eraseIdx i).countP (·.isRunning) = l.running := by
  obtain ⟨hlt, rfl⟩ := List.getElem?_eq_some_iff.mp hi
  have hperm := (List.getElem_cons_eraseIdx_perm hlt).countP_eq (·.isRunning)
  rw [List.countP_cons_of_neg (by rw [hover]; exact Bool.false_ne_true)] at hperm
  exact hperm

/-- **A permit is given back when its task ends**, and only then. -/
theorem permits_put {i : ℕ} (hi : l.tasks[i]? = some c) (hrunning : c.isRunning = true) :
    (l.put i c').permits + (l.put i c').running = l.permits + l.running := by
  obtain ⟨hlt, rfl⟩ := List.getElem?_eq_some_iff.mp hi
  have hpos : 0 < l.tasks.countP (·.isRunning) :=
    List.countP_pos_iff.mpr ⟨_, List.getElem_mem hlt, hrunning⟩
  simp only [put, running, List.countP_set hlt, hrunning, if_true]
  split
  · omega
  · omega

/-- One step. -/
theorem Accounted.move (hl : l.Accounted) (h : Move crates server l l') : l'.Accounted := by
  have hpermits := hl.permits
  cases h with
  | listen | failed | shutdown | allDrained => exact ⟨hl.permits, hl.tasks⟩
  | accepted clientIp =>
    refine accounted_drainFinishedPublicTasks ?_
    rcases running_spawn l clientIp with ⟨-, hsame⟩ | ⟨htaken, hspawned⟩
    · rw [hsame]
      exact hpermits
    · omega
  | woken => exact accounted_drainFinishedPublicTasks hpermits
  | joined => exact accounted_drainFinishedPublicTasks hpermits
  | drained i c hpoint hi hover =>
    refine ⟨?_, (List.length_eraseIdx_le _ _).trans hl.tasks⟩
    simp only [running, running_eraseIdx hi hover]
    exact hpermits
  | drainTimeout => exact ⟨hpermits, Nat.zero_le _⟩
  | task i c c' input hi hstep =>
    refine ⟨(permits_put hi (Connection.isRunning_of_step hstep)).trans hpermits, ?_⟩
    simp only [put, List.length_set]
    exact hl.tasks

/-! ## After the signal -/

/-- The loop is over. -/
def Closing (l : Listener) : Prop := l.point = .draining ∨ l.point = .returned

/-- **Nothing is accepted any more.** -/
theorem closing_of_move (h : Move crates server l l') (hclosing : l.Closing) :
    l'.Closing ∧ l'.running ≤ l.running ∧ l'.tasks.length ≤ l.tasks.length := by
  have hnot {point : ListenerPoint} (hpoint : l.point = point) (hd : point ≠ .draining)
      (hr : point ≠ .returned) : False := by
    rcases hclosing with hclosing | hclosing
    · exact hd (hpoint.symm.trans hclosing)
    · exact hr (hpoint.symm.trans hclosing)
  cases h with
  | listen shared hpoint => exact (hnot hpoint nofun nofun).elim
  | accepted clientIp hpoint => exact (hnot hpoint nofun nofun).elim
  | failed hpoint => exact (hnot hpoint nofun nofun).elim
  | woken hpoint => exact (hnot hpoint nofun nofun).elim
  | joined hpoint => exact (hnot hpoint nofun nofun).elim
  | shutdown hpoint => exact (hnot hpoint nofun nofun).elim
  | drained i c hpoint hi hover =>
    exact ⟨hclosing, (running_eraseIdx hi hover).le, List.length_eraseIdx_le _ _⟩
  | allDrained => exact ⟨Or.inr rfl, le_rfl, le_rfl⟩
  | drainTimeout => exact ⟨Or.inr rfl, Nat.zero_le _, Nat.zero_le _⟩
  | task i c c' input hi hstep =>
    have hput := @permits_put c c' l i hi (Connection.isRunning_of_step hstep)
    refine ⟨hclosing, ?_, (List.length_set ..).le⟩
    have hgiven : l.permits ≤ (l.put i c').permits := by
      simp only [put]
      split
      · exact le_rfl
      · exact Nat.le_succ _
    omega

end Listener

end Step

/-! ## All runs -/

section Runs

open Client TransitionSystem Listener

variable {certCrates : CertCrates} {validityDays : ℕ} {crates : Crates}
  {server server' : Renewal.State} {l l' : Listener} {c c' : Renewal.State × Listener}

/-- **What one step of the proxy is**: one of the server, or one of the loop. -/
theorem proxySystem_step {a : Renewal.Action ⊕ ListenerInput}
    (h : (proxySystem certCrates validityDays crates).step c a = some c') :
    (∃ action, (Renewal.system certCrates validityDays).step c.1 action = some c'.1 ∧
        c'.2 = c.2) ∨
      (Move crates c.1 c.2 c'.2 ∧ c'.1 = c.1) := by
  obtain ⟨server, l⟩ := c
  cases a with
  | inl action =>
    obtain ⟨-, server', hstep, rfl⟩ := joined_step_inl h
    exact Or.inl ⟨action, hstep, rfl⟩
  | inr input =>
    obtain ⟨l', hstep, rfl⟩ := Option.map_eq_some_iff.mp h
    exact Or.inr ⟨move_of_step hstep, rfl⟩

/-- The server runs as if there were no connections. -/
theorem server_of_proxySystem (h : (proxySystem certCrates validityDays crates).Reachable c) :
    (Renewal.system certCrates validityDays).Reachable c.1 := by
  refine ReachableWhen.of_joined (fun _ _ _ _ => trivial) ?_ h
  intro server l input server' l' _ _ hstep
  obtain ⟨l'', -, heq⟩ := Option.map_eq_some_iff.mp hstep
  rw [(Prod.mk.inj heq).1]
  exact Relation.ReflTransGen.refl

theorem accounted_of_proxySystem
    (h : (proxySystem certCrates validityDays crates).Reachable c) : c.2.Accounted := by
  refine h.induction (fun c => c.2.Accounted) ?_ ?_
  · rintro ⟨server, l⟩ ⟨-, rfl⟩
    exact ⟨rfl, Nat.zero_le _⟩
  · intro c a c' _ ih _ hst
    rcases proxySystem_step hst with ⟨action, -, hsame⟩ | ⟨hmove, -⟩
    · rw [hsame]
      exact ih
    · exact ih.move hmove

/-- The loop begins when the server runs, and there are no tasks before. -/
def Begun (c : Renewal.State × Listener) : Prop :=
  (∃ shared, c.1.phase = .running shared) ∨ (c.2.point = .starting ∧ c.2.tasks = [])

theorem begun_of_proxySystem
    (h : (proxySystem certCrates validityDays crates).Reachable c) : Begun c := by
  refine h.induction Begun ?_ ?_
  · rintro ⟨server, l⟩ ⟨-, rfl⟩
    exact Or.inr ⟨rfl, rfl⟩
  · rintro ⟨server, l⟩ a ⟨server', l'⟩ _ ih _ hst
    rcases proxySystem_step hst with ⟨action, hstep, hsame⟩ | ⟨hmove, hsame⟩
    · rcases ih with ⟨shared, hphase⟩ | hnone
      · obtain ⟨shared', hphase', -⟩ := Renewal.running_of_step hstep hphase
        exact Or.inl ⟨shared', hphase'⟩
      · exact Or.inr (hsame ▸ hnone)
    · rcases ih with hphase | ⟨hpoint, hnil⟩
      · exact Or.inl (hsame ▸ hphase)
      · dsimp only at hmove hpoint hnil hsame
        cases hmove with
        | listen shared _ hphase => exact Or.inl ⟨shared, hsame ▸ hphase⟩
        | task i k k' input hi => simp [hnil] at hi
        | accepted _ hother => cases hpoint.symm.trans hother
        | failed hother => cases hpoint.symm.trans hother
        | woken hother => cases hpoint.symm.trans hother
        | joined hother => cases hpoint.symm.trans hother
        | shutdown hother => cases hpoint.symm.trans hother
        | drained _ _ hother => cases hpoint.symm.trans hother
        | allDrained hother => cases hpoint.symm.trans hother
        | drainTimeout hother => cases hpoint.symm.trans hother

/-- **What holds of a connection** while it lasts. -/
structure Sound (certCrates : CertCrates) (crates : Crates) (server : Renewal.State)
    (k : Connection) : Prop where
  serves : ∀ config ∈ k.config, Serves certCrates server.files config
  identity : ∀ config peerCerts identity, k.stage = .serving config peerCerts identity →
    crates.clientIdentityFromPeerCerts peerCerts = .ok identity

theorem sound_of_proxySystem (h : (proxySystem certCrates validityDays crates).Reachable c) :
    ∀ k ∈ c.2.tasks, Sound certCrates crates c.1 k := by
  refine h.induction (fun c => ∀ k ∈ c.2.tasks, Sound certCrates crates c.1 k) ?_ ?_
  · rintro ⟨server, l⟩ ⟨-, rfl⟩ k hk
    exact absurd hk List.not_mem_nil
  · intro c a c' hc ih _ hst k hk
    rcases proxySystem_step hst with ⟨action, hstep, hsame⟩ | ⟨hmove, hsame⟩
    · rw [hsame] at hk
      rcases begun_of_proxySystem hc with ⟨shared, hphase⟩ | ⟨-, hnil⟩
      · have hkey := Renewal.sameKey_of_running hstep hphase
        exact ⟨fun config hconfig => ((ih k hk).serves config hconfig).of_sameKey hkey,
          (ih k hk).identity⟩
      · rw [hnil] at hk
        exact absurd hk List.not_mem_nil
    · rw [hsame]
      rcases mem_tasks_of_move hmove hk with hold | hspawned | ⟨old, hold, input, hstep⟩
      · exact ih k hold
      · exact ⟨by simp [Connection.config, hspawned], by simp [hspawned]⟩
      · refine ⟨fun config hconfig => ?_, fun config peerCerts identity hserving =>
          Connection.identity_of_step hstep hserving⟩
        rcases Connection.config_of_step hstep hconfig with hsame | hphase
        · exact (ih old hold).serves config hsame
        · exact Renewal.serves_of_reachable (server_of_proxySystem hc) hphase

/-- While the server runs nobody writes over its key. -/
theorem sameKey_of_proxySystem {shared : TlsConfig}
    (hc : (proxySystem certCrates validityDays crates).Reachable c)
    (hphase : c.1.phase = .running shared)
    (h : (proxySystem certCrates validityDays crates).Run c c') :
    SameKey c.1.files c'.1.files := by
  have hkept : SameKey c.1.files c'.1.files ∧ ∃ shared', c'.1.phase = .running shared' := by
    refine h.stable (fun d => SameKey c.1.files d.1.files ∧
      ∃ shared', d.1.phase = .running shared') ?_ hc ⟨fun _ hfile => hfile, shared, hphase⟩
    rintro d a d' - ⟨hkey, shared', hphase'⟩ - hst
    rcases proxySystem_step hst with ⟨action, hstep, -⟩ | ⟨-, hsame⟩
    · obtain ⟨shared'', hphase'', -⟩ := Renewal.running_of_step hstep hphase'
      exact ⟨.trans _ _ _ hkey (Renewal.sameKey_of_running hstep hphase'), shared'', hphase''⟩
    · rw [hsame]
      exact ⟨hkey, shared', hphase'⟩
  exact hkept.1

/-- After the signal there are fewer and fewer tasks. -/
theorem closing_of_run (hc : (proxySystem certCrates validityDays crates).Reachable c)
    (hclosing : c.2.Closing) (h : (proxySystem certCrates validityDays crates).Run c c') :
    c'.2.Closing ∧ c'.2.running ≤ c.2.running := by
  refine h.stable (fun d => d.2.Closing ∧ d.2.running ≤ c.2.running) ?_ hc ⟨hclosing, le_rfl⟩
  rintro d a d' - ⟨hd, hle⟩ - hst
  rcases proxySystem_step hst with ⟨action, -, hsame⟩ | ⟨hmove, -⟩
  · rw [hsame]
    exact ⟨hd, hle⟩
  · obtain ⟨hd', hle', -⟩ := closing_of_move hmove hd
    exact ⟨hd', hle'.trans hle⟩

/-- When `serve_public` has returned, no connection is left. -/
theorem tasks_of_returned (h : (proxySystem certCrates validityDays crates).Reachable c) :
    c.2.point = .returned → c.2.tasks = [] := by
  refine h.induction (fun c => c.2.point = .returned → c.2.tasks = []) ?_ ?_
  · rintro ⟨server, l⟩ ⟨-, rfl⟩ hpoint
    rfl
  · rintro ⟨server, l⟩ a ⟨server', l'⟩ _ ih _ hst hpoint
    rcases proxySystem_step hst with ⟨action, -, hsame⟩ | ⟨hmove, -⟩
    · rw [hsame] at hpoint ⊢
      exact ih hpoint
    · dsimp only at hmove hpoint ih ⊢
      by_cases hbefore : l.point = .returned
      · have hnone := (closing_of_move hmove (Or.inr hbefore)).2.2
        rw [ih hbefore] at hnone
        exact List.length_eq_zero_iff.mp (Nat.le_zero.mp hnone)
      · cases hmove with
        | listen => cases hpoint
        | accepted clientIp hother =>
          exact absurd ((point_spawn l clientIp).symm.trans hpoint) hbefore
        | failed => cases hpoint
        | woken => cases hpoint
        | joined => exact absurd hpoint hbefore
        | shutdown => cases hpoint
        | drained => exact absurd hpoint hbefore
        | allDrained _ hnil => exact hnil
        | drainTimeout => rfl
        | task => exact absurd hpoint hbefore

/-! ## The bound -/

/-- **No permit is lost, and no connection too many is served.**  In every state that is
reached, whatever becomes of the connections: the permits that are left and the tasks that
run are together as many as there are permits; the set of tasks is not larger than that; a
connection is turned away exactly if so many tasks run; what is served is served to a
client with an identity; and after the signal no connection is accepted, and none is left
in the end. -/
theorem connections_bounded (h : (proxySystem certCrates validityDays crates).Reachable c) :
    c.2.permits + c.2.running = MAX_PUBLIC_CONNECTIONS ∧
      c.2.tasks.length ≤ MAX_PUBLIC_CONNECTIONS ∧
      (∀ clientIp c', (proxySystem certCrates validityDays crates).step c
          (.inr (.accepted clientIp)) = some c' →
        c'.2.running = if c.2.running = MAX_PUBLIC_CONNECTIONS then c.2.running
          else c.2.running + 1) ∧
      (∀ k ∈ c.2.tasks, ∀ config peerCerts identity,
        k.stage = .serving config peerCerts identity → ∀ state req upstream,
          servePublicRequest crates state k.clientIp peerCerts req upstream =
            some (proxyHandlerInner crates state k.clientIp identity req upstream)) ∧
      (c.2.Closing → ∀ c', (proxySystem certCrates validityDays crates).Run c c' →
        c'.2.Closing ∧ c'.2.running ≤ c.2.running ∧
          (c'.2.point = .returned → c'.2.tasks = [])) := by
  have haccounted := accounted_of_proxySystem h
  have hpermits := haccounted.permits
  refine ⟨hpermits, haccounted.tasks, fun clientIp c' hst => ?_,
    fun k hk config peerCerts identity hserving state req upstream => ?_,
    fun hclosing c' hrun => ?_⟩
  · obtain ⟨l', hstep, rfl⟩ := Option.map_eq_some_iff.mp hst
    obtain ⟨-, hl'⟩ := Option.ite_none_right_eq_some.mp hstep
    rw [← Option.some_inj.mp hl', running_drainFinishedPublicTasks]
    rcases running_spawn c.2 clientIp with ⟨hzero, hsame⟩ | ⟨htaken, hspawned⟩
    · rw [hsame, if_pos (by omega)]
    · rw [if_neg (by omega), hspawned]
  · rw [servePublicRequest, (sound_of_proxySystem h k hk).identity _ _ _ hserving]
  · obtain ⟨hclosing', hrunning⟩ := closing_of_run h hclosing hrun
    exact ⟨hclosing', hrunning, tasks_of_returned (h.run hrun)⟩

/-- The crates, for clients whose key is not looked at. -/
def unlimited : Crates where
  subjectPki der := .ok der
  sha256 _ := Vector.replicate 32 0
  limited body _ := body
  parseUri s := .ok { path := s, pathAndQuery := some s }

open Renewal.Sample in
/-- A client is served when the signal comes, and the drain takes too long. -/
theorem connections_bounded_shutdown :
    ∃ c c', (proxySystem sampleCrates 3650 unlimited).exec (initial, {})
        [.inl (.start noFaults []), .inr .listen, .inr (.accepted "192.0.2.7"),
          .inr (.task 0 .load), .inr (.task 0 (.shaken (some [[1]]))), .inr .shutdown] = some c ∧
      (proxySystem sampleCrates 3650 unlimited).exec c [.inr .drainTimeout] = some c' ∧
      c.2.permits = 127 ∧ c.2.running = 1 ∧ c'.2.tasks = [] := by
  let files : Files := { initial.files with pin := some (pinLine samplePin) }
  let serving : Connection := ⟨"192.0.2.7", .serving firstConfig (some [[1]])
    "0000000000000000000000000000000000000000000000000000000000000000"⟩
  have hserve : (proxySystem sampleCrates 3650 unlimited).exec (initial, {})
      [.inl (.start noFaults []), .inr .listen, .inr (.accepted "192.0.2.7"),
        .inr (.task 0 .load), .inr (.task 0 (.shaken (some [[1]]))), .inr .shutdown] =
      some ({ now := day, phase := .running firstConfig, files := files },
        { point := .draining, permits := 127, tasks := [serving] }) := by
    decide +kernel
  have hreturn : (proxySystem sampleCrates 3650 unlimited).exec
      ({ now := day, phase := .running firstConfig, files := files },
        { point := .draining, permits := 127, tasks := [serving] }) [.inr .drainTimeout] =
      some ({ now := day, phase := .running firstConfig, files := files },
        { point := .returned, permits := 128, tasks := [] }) := by
    decide +kernel
  have hinit : (proxySystem sampleCrates 3650 unlimited).init (initial, {}) :=
    ⟨rfl, rfl⟩
  obtain ⟨hpermits, -, -, -, hclosing⟩ := connections_bounded (reachable_of_exec _ hinit hserve)
  obtain ⟨-, -, hnone⟩ := hclosing (Or.inl rfl) _ (run_of_exec _ hreturn)
  refine ⟨_, _, hserve, hreturn, rfl, ?_, hnone rfl⟩
  exact Nat.add_left_cancel hpermits

/-- **A client that knows the key of the server is never turned away for it**, and one that
knows another key always is: on every connection, accepted before or after any renewal, the
handshake is made with the key the server runs with. -/
theorem connections_pinned {publicKey : List UInt8 → List UInt8}
    (hcrates : Renewal.RefusesMismatch certCrates publicKey) {client : PinCrates}
    (hclient : ∀ der x509, certCrates.parseX509 der = .ok x509 →
      der ≠ [] ∧ client.spki der = .ok x509.subjectPki)
    (h : (proxySystem certCrates validityDays crates).Reachable c) {shared : TlsConfig}
    (hphase : c.1.phase = .running shared) :
    ∃ spki, Renewal.servedSpki certCrates shared = some spki ∧
      ∀ c', (proxySystem certCrates validityDays crates).Run c c' →
        ∀ k ∈ c'.2.tasks, ∀ config ∈ k.config, ∀ p pin digest, IsPinOf p digest →
          normalizeServerPin p = .ok pin →
            (pinnedConnect client pin (.ok (some config.certChain.head?)) = .ok () ↔
              client.sha256 spki = digest) := by
  have hserves := Renewal.serves_of_reachable (server_of_proxySystem h) hphase
  refine ⟨_, Renewal.servedSpki_of_serves hcrates hserves, fun c' hrun k hk config hconfig p pin
    digest hp hpin => ?_⟩
  have hserves' := (sound_of_proxySystem (h.run hrun) k hk).serves config hconfig
  have hkey := (hserves.of_sameKey (sameKey_of_proxySystem h hphase hrun)).key_eq hserves'
  obtain ⟨leaf, rest, x509, hchain, hparse, hspki⟩ := hcrates _ _ hserves'.pair
  obtain ⟨hne, hread⟩ := hclient leaf x509 hparse
  rw [hchain, List.head?_cons, hkey, ← hspki]
  exact pinnedConnect_eq_ok_iff hp hpin hne hread

open Renewal.Sample in
/-- The client of the sample certificates. -/
def sampleClient : PinCrates where
  spki der := match sampleCrates.parseX509 der with
    | .ok x509 => .ok x509.subjectPki
    | .error e => .error (valueError e)
  sha256 := sampleCrates.sha256

open Renewal.Sample in
/-- Two connections, one of before the renewal and one of after it. -/
theorem connections_pinned_renewed :
    ∃ c, (proxySystem sampleCrates 3650 unlimited).exec
        ({ now := day, phase := .running firstConfig,
           files := { initial.files with pin := some (pinLine samplePin) } },
          { point := .selecting })
        [.inr (.accepted "192.0.2.7"), .inr (.task 0 .load), .inl (.tick 90000000000000),
          .inl (.renew noFaults []), .inr (.accepted "192.0.2.8"), .inr (.task 1 .load)] = some c ∧
      c.2.tasks = [⟨"192.0.2.7", .handshaking firstConfig⟩,
        ⟨"192.0.2.8", .handshaking secondConfig⟩] ∧
      ∀ k ∈ c.2.tasks, ∀ config ∈ k.config,
        pinnedConnect sampleClient samplePin (.ok (some config.certChain.head?)) = .ok () := by
  have hstart : (proxySystem sampleCrates 3650 unlimited).exec (initial, {})
      [.inl (.start noFaults []), .inr .listen] =
      some ({ now := day, phase := .running firstConfig,
              files := { initial.files with pin := some (pinLine samplePin) } },
        { point := .selecting }) := by
    decide +kernel
  have hrenew : (proxySystem sampleCrates 3650 unlimited).exec
      ({ now := day, phase := .running firstConfig,
         files := { initial.files with pin := some (pinLine samplePin) } },
        { point := .selecting })
      [.inr (.accepted "192.0.2.7"), .inr (.task 0 .load), .inl (.tick 90000000000000),
        .inl (.renew noFaults []), .inr (.accepted "192.0.2.8"), .inr (.task 1 .load)] =
      some ({ now := renewalTime, phase := .running secondConfig,
              files := { initial.files with
                cert := some secondPem, pin := some (pinLine samplePin) } },
        { point := .selecting, permits := 126,
          tasks := [⟨"192.0.2.7", .handshaking firstConfig⟩,
            ⟨"192.0.2.8", .handshaking secondConfig⟩] }) := by
    decide +kernel
  have hinit : (proxySystem sampleCrates 3650 unlimited).init (initial, {}) :=
    ⟨rfl, rfl⟩
  have hclient (der : List UInt8) (x509 : X509)
      (hparse : sampleCrates.parseX509 der = .ok x509) :
      der ≠ [] ∧ sampleClient.spki der = .ok x509.subjectPki := by
    refine ⟨?_, by rw [sampleClient]; simp only [hparse]⟩
    rintro rfl
    have hnone : (sampleCrates.parseX509 []).toOption.isSome = false := by
      decide +kernel
    rw [hparse] at hnone
    cases hnone
  obtain ⟨spki, hspki, hpinned⟩ := connections_pinned refusesMismatch_sampleCrates hclient
    (reachable_of_exec _ hinit hstart) rfl
  have hpin : samplePin = serverPin (sampleClient.sha256 spki).toList :=
    (by decide +kernel : samplePin = serverPin (sampleClient.sha256 []).toList)
  refine ⟨_, hrenew, rfl, fun k hk config hconfig => ?_⟩
  have hof := isPinOf_serverPin_self (sampleClient.sha256 spki)
  exact (hpinned _ (run_of_exec _ hrenew) k hk config hconfig samplePin samplePin _ (hpin ▸ hof)
    (normalizeServerPin_eq_ok_iff.mpr ⟨_, hpin ▸ hof, hpin⟩)).mpr rfl

end Runs

end Proxy

end VibeVoice
