import GvSwitch.Foundation.Runs
import GvSwitch.VhostUser.Control
import GvSwitch.VhostUser.Socket

/-!
# The descriptors of a session

A session reads messages in two parts and handles them one by one; any goroutine
may close it.  The descriptors received and those closed so far are kept beside
the state.  A descriptor stands for the file it was received as, so that a number
used again is not taken for the file closed before.
-/

namespace GvSwitch.VhostUser

open Foundation

/-! ## No message loses a descriptor -/

section Files

variable {device after : NetDevice} {effects : List Effect} {fds rest : List Nat}
  {message : Message} {runtime : Runtime} {answer : Answer}

theorem Controlled.files (h : Controlled device after effects fds rest) :
    (after.held ++ (closing effects ++ rest)).Perm (device.held ++ fds) := by
  obtain ⟨middle, first, second, hcalm, hevaluated, rfl⟩ := h
  obtain ⟨hh, -, hsnd⟩ := hevaluated.files
  rw [hh, closing_append, hsnd, List.append_nil]
  exact hcalm.files

theorem files_evalRing (device : NetDevice) (index : RingIndex) (rest : List Nat) :
    ((device.evalRing index).1.held ++ (closing (device.evalRing index).2 ++ rest)).Perm
      (device.held ++ rest) := by
  match index with
  | 0 => exact (calm_evalRing_zero device rest).files
  | 1 =>
    have hfiles : (device.evalRing 1).1.held = device.held ∧
        ((device.evalRing 1).1.rings txQueue).kick = (device.rings txQueue).kick ∧
        closing (device.evalRing 1).2 = [] := (evaluated_evalRing device).files
    rw [hfiles.1, hfiles.2.2]
    exact .refl _

theorem files_setRing_of_files {index : RingIndex} {ring : Vring}
    (hkick : ring.kick = (device.rings index).kick)
    (hc : ring.call = (device.rings index).call) (fds : List Nat) :
    ((device.setRing index ring).held ++ fds).Perm (device.held ++ fds) := by
  refine .of_eq (congrArg (· ++ fds) (held_setRing ?_))
  rw [Vring.files, Vring.files, hkick, hc]

theorem files_process (h : device.process message runtime = some answer) :
    (answer.device.held ++ (closing answer.effects ++ answer.fds)).Perm
      (device.held ++ message.fds) := by
  cases NetDevice.processed_process h with
  | refused reason regions _ => exact (calm_unmapAll device regions message.fds).files
  | kept after reply hrings hm => exact (Calm.of_rings hrings hm message.fds).files
  | reset => exact (calm_stopRings device device.mem message.fds).files
  | installed table => exact (controlled_installMemTable table message.fds).files
  | resized code num index _ _ _ _ | rebased code base index _ _ _ | paused index enabled =>
    exact files_setRing_of_files (by rfl) (by rfl) _
  | stopped index reply =>
    exact files_setRing index (ringCalm_stopRingLocked _ message.fds).files
  | misplaced addr index mem ring reason _ _ hmap =>
    obtain ⟨hkick, hc, -, -⟩ := mapRing_frame hmap
    exact files_setRing_of_files hkick hc _
  | mapped addr index mem ring _ _ hmap =>
    obtain ⟨hkick, hc, -, -⟩ := mapRing_frame hmap
    exact (files_evalRing _ index _).trans (files_setRing_of_files hkick hc _)
  | wired isKick index fd rest hfds =>
    rw [hfds]
    exact files_trans (files_setRing index (ringCalm_replaceFD isKick _ fd rest).files)
      (files_evalRing _ index rest)
  | enabled index enabled =>
    exact (files_evalRing _ index _).trans (files_setRing_of_files (by rfl) (by rfl) _)

/-- What a message brings is held by a ring or closed afterwards, also when the
call fails. -/
theorem files_handle {err : Option HandleError}
    (h : device.handle message runtime = some (after, effects, err)) :
    (after.held ++ closing effects).Perm (device.held ++ message.fds) := by
  unfold NetDevice.handle at h
  split at h
  · cases h
  rename_i answer hanswer
  cases h
  rw [closing_append, closing_append, (respond_effects message runtime answer).1,
    List.append_nil, closing_map_closeFd]
  exact files_process hanswer

end Files

/-! ## Sessions -/

/-- Where `serve` is: before a message, with part of a header, with a message to
handle, in its deferred function, or returned. -/
inductive Serving where
  | idle
  | header (head : Chunk)
  | request (message : Message)
  | leaving
  | ended
  deriving DecidableEq, Repr

def Serving.fds : Serving → List Nat
  | .header head => head.fds
  | .request message => message.fds
  | _ => []

def Serving.Complete (socket : List Chunk) : Serving → Prop
  | .header head => head.fds ≠ [] → Whole head socket
  | _ => True

instance (socket : List Chunk) : (serving : Serving) → Decidable (serving.Complete socket)
  | .header head => inferInstanceAs (Decidable (head.fds ≠ [] → Whole head socket))
  | .idle | .request _ | .leaving | .ended => .isTrue trivial

/-- How far `Close` has come: the connection is closed before the lock is taken. -/
inductive Closing where
  | open
  | hungUp
  | done
  deriving DecidableEq, Repr

structure Connection where
  device : NetDevice
  socket : List Chunk
  serving : Serving := .idle
  closing : Closing := .open
  received : List Nat := []
  closed : List Nat := []

namespace Connection

inductive Move where
  | receive
  | complete
  | handle (runtime : Runtime)
  | hangUp
  | tearDown
  | finish

def step (connection : Connection) : Move → Option Connection
  | .receive =>
    if connection.serving = .idle then
      match readHeader connection.socket with
      | none => some { connection with serving := .leaving }
      | some (head, rest) =>
        some { connection with
          serving := .header head
          socket := rest
          received := connection.received ++ head.fds }
    else none
  | .complete =>
    match connection.serving with
    | .header head =>
      match readRest head connection.socket with
      | .error _ => some { connection with serving := .leaving }
      | .ok (message, rest) =>
        some { connection with serving := .request message, socket := rest }
    | _ => none
  | .handle runtime =>
    match connection.serving with
    | .request message =>
      match connection.device.handle message runtime with
      | none => none
      | some (device, effects, err) =>
        some { connection with
          device := device
          closed := connection.closed ++ VhostUser.closing effects
          serving := if err.isSome then .leaving else .idle }
    | _ => none
  | .hangUp =>
    if connection.closing = .open then
      some { connection with closing := .hungUp, socket := [] }
    else none
  | .tearDown =>
    if connection.closing = .hungUp then
      some { connection with
        closing := .done
        device := connection.device.close.1
        closed := connection.closed ++ VhostUser.closing connection.device.close.2 }
    else none
  -- The deferred `Close` of `serve` waits for the one that is under way.
  | .finish =>
    if connection.serving = .leaving ∧ connection.closing = .done then
      some { connection with serving := .ended }
    else none

def Step (connection : Connection) (move : Move) (after : Connection) : Prop :=
  connection.step move = some after

def Initial (connection : Connection) : Prop :=
  ∃ accessPlatform socket,
    connection = { device := .newNetDevice accessPlatform, socket := socket }

/-- Messages that carry descriptors arrive whole, and `Close` takes the lock
between messages. -/
def Careful (connection : Connection) : Move → Prop
  | .complete => connection.serving.Complete connection.socket
  | .tearDown => connection.serving.fds = []
  | _ => True

instance (connection : Connection) : (move : Move) → Decidable (connection.Careful move)
  | .complete => inferInstanceAs (Decidable (connection.serving.Complete connection.socket))
  | .tearDown => inferInstanceAs (Decidable (connection.serving.fds = []))
  | .receive | .handle _ | .hangUp | .finish => .isTrue trivial

/-! ## The ledger -/

structure Accounted (connection : Connection) : Prop where
  balance : (connection.closed ++ (connection.device.held ++ connection.serving.fds)).Perm
    connection.received
  silent : connection.closing ≠ .open → connection.socket = []
  released : connection.closing = .done →
    connection.device.held = [] ∧ connection.serving.fds = []
  ended : connection.serving = .ended → connection.closing = .done

variable {connection after : Connection}

theorem accounted_initial (h : connection.Initial) : connection.Accounted := by
  obtain ⟨accessPlatform, socket, rfl⟩ := h
  exact ⟨.refl _, fun hcl => absurd rfl hcl, nofun, nofun⟩

theorem Accounted.receive (h : connection.Accounted)
    (hstep : connection.Step .receive after) : after.Accounted := by
  simp only [Step, step] at hstep
  split at hstep
  · rename_i hidle
    have hbalance := h.balance
    rw [hidle] at hbalance
    split at hstep
    · cases hstep
      exact ⟨hbalance, h.silent, fun hd => ⟨(h.released hd).1, rfl⟩, nofun⟩
    rename_i head rest hread
    cases hstep
    -- Nothing is read from a connection that is closed.
    have hopen : connection.closing = .open := by
      by_contra hcl
      rw [h.silent hcl] at hread
      cases hread
    refine ⟨?_, fun hcl => absurd hopen hcl, ?_, nofun⟩
    · refine List.perm_iff_count.mpr fun fd => ?_
      have hcount := hbalance.count_eq fd
      simp only [Serving.fds, List.count_append, List.count_nil] at hcount ⊢
      omega
    · intro hd
      cases hopen.symm.trans hd
  · cases hstep

theorem Accounted.complete (h : connection.Accounted)
    (hcareful : connection.Careful .complete)
    (hstep : connection.Step .complete after) : after.Accounted := by
  simp only [Step, step] at hstep
  split at hstep
  · rename_i head hhead
    have hbalance := h.balance
    have hreleased := h.released
    rw [hhead] at hbalance hreleased
    rw [Careful, hhead] at hcareful
    split at hstep
    · rename_i reason hfailed
      cases hstep
      have hnone : head.fds = [] := by
        by_contra hfds
        obtain ⟨result, hread⟩ := readRest_of_whole (hcareful hfds)
        cases hread.symm.trans hfailed
      rw [Serving.fds, hnone] at hbalance
      exact ⟨hbalance, h.silent, fun hd => ⟨(hreleased hd).1, rfl⟩, nofun⟩
    · rename_i message rest hread
      cases hstep
      obtain ⟨hfds, hrest⟩ := readRest_ok hread
      rw [Serving.fds, ← hfds] at hbalance hreleased
      exact ⟨hbalance, fun hcl => hrest (h.silent hcl), hreleased, nofun⟩
  · cases hstep

theorem Accounted.handle (h : connection.Accounted) {runtime : Runtime}
    (hstep : connection.Step (.handle runtime) after) : after.Accounted := by
  simp only [Step, step] at hstep
  split at hstep
  · rename_i message hmsg
    have hbalance := h.balance
    have hreleased := h.released
    rw [hmsg, Serving.fds] at hbalance hreleased
    split at hstep
    · cases hstep
    rename_i device effects err hhandle
    cases hstep
    have hfiles := files_handle hhandle
    have hfds : (if err.isSome = true then Serving.leaving else Serving.idle).fds = [] := by
      split <;> rfl
    refine ⟨?_, h.silent, ?_, ?_⟩
    · refine List.perm_iff_count.mpr fun fd => ?_
      have hcount := hbalance.count_eq fd
      have hmoved := hfiles.count_eq fd
      simp only [hfds, List.count_append, List.count_nil] at hcount hmoved ⊢
      omega
    · intro hd
      obtain ⟨hh, hnone⟩ := hreleased hd
      rw [hh, hnone] at hfiles
      exact ⟨(List.append_eq_nil_iff.mp hfiles.eq_nil).1, hfds⟩
    · intro hended
      split at hended <;> cases hended
  · cases hstep

theorem Accounted.tearDown (h : connection.Accounted)
    (hcareful : connection.Careful .tearDown)
    (hstep : connection.Step .tearDown after) : after.Accounted := by
  simp only [Step, step] at hstep
  split at hstep
  · rename_i hhungUp
    cases hstep
    have hfiles := (handled_close connection.device).files
    have hh : connection.device.close.1.held = [] := rfl
    refine ⟨?_, fun _ => h.silent (by simp [hhungUp]), fun _ => ⟨hh, hcareful⟩,
      fun _ => rfl⟩
    refine List.perm_iff_count.mpr fun fd => ?_
    have hcount := h.balance.count_eq fd
    have hmoved := hfiles.count_eq fd
    simp only [hh, List.count_append, List.count_nil] at hcount hmoved ⊢
    omega
  · cases hstep

theorem Accounted.step (h : connection.Accounted) {move : Move}
    (hstep : Guarded Careful Step connection move after) : after.Accounted := by
  obtain ⟨hcareful, hstep⟩ := hstep
  cases move with
  | receive => exact h.receive hstep
  | complete => exact h.complete hcareful hstep
  | handle runtime => exact h.handle hstep
  | tearDown => exact h.tearDown hcareful hstep
  | hangUp =>
    simp only [Step, Connection.step] at hstep
    split at hstep
    · rename_i hopen
      cases hstep
      refine ⟨h.balance, fun _ => rfl, nofun, fun hended => ?_⟩
      cases hopen.symm.trans (h.ended hended)
    · cases hstep
  | finish =>
    simp only [Step, Connection.step] at hstep
    split at hstep
    · rename_i hleaving
      cases hstep
      have hbalance := h.balance
      rw [hleaving.1] at hbalance
      exact ⟨hbalance, h.silent, fun hd => ⟨(h.released hd).1, rfl⟩, fun _ => hleaving.2⟩
    · cases hstep

/-- In a careful session the descriptors closed are those received once the
session has ended; before that, the rings hold the others between messages. -/
theorem descriptors_closed_once (h : Reachable Initial (Guarded Careful Step) connection) :
    (connection.serving = .ended → connection.closed.Perm connection.received) ∧
      (connection.serving = .idle →
        (connection.closed ++ connection.device.held).Perm connection.received) := by
  have haccounted : connection.Accounted :=
    Reachable.induct (motive := Accounted) (fun _ => accounted_initial)
      (fun _ _ _ _ ih hstep => ih.step hstep) h
  have hbalance := haccounted.balance
  constructor
  · intro hended
    obtain ⟨hh, hfds⟩ := haccounted.released (haccounted.ended hended)
    rw [hh, hfds] at hbalance
    simpa using hbalance
  · intro hidle
    rw [hidle] at hbalance
    simpa [Serving.fds] using hbalance

/-! ## Two sessions -/

def steadyRuntime : Runtime := ⟨fun _ => 0, ⟨4096, fun _ _ _ => none⟩, true⟩

def callHeader (size : Nat) : Bytes := putLE32 13 ++ putLE32 1 ++ putLE32 size

/-- The call descriptor of the first ring arrives with a stray one, is replaced,
and the session ends. -/
def replacedCall : Connection where
  device := .newNetDevice false
  socket := [⟨callHeader 8 ++ putLE64 0, [7, 8], true⟩,
    ⟨callHeader 8, [9], true⟩, ⟨putLE64 0, [], true⟩]

theorem descriptors_closed_once_replaced :
    ∃ connection, Reachable Initial (Guarded Careful Step) connection ∧
      connection.serving = .ended ∧ connection.received = [7, 8, 9] ∧
      connection.closed.Perm [7, 8, 9] := by
  have hrun : (replay Connection.step Careful replacedCall
      [.receive, .complete, .handle steadyRuntime, .receive, .complete,
        .handle steadyRuntime, .receive, .hangUp, .tearDown, .finish]).map
      (fun connection => (connection.serving, connection.received)) =
        some (.ended, [7, 8, 9]) := by
    decide
  obtain ⟨connection, hrun, hend⟩ := Option.map_eq_some_iff.mp hrun
  obtain ⟨hended, hreceived⟩ := Prod.mk.inj hend
  have hreach : Reachable Initial (Guarded Careful Step) connection :=
    Reachable.replay (.start ⟨false, _, rfl⟩) hrun
  refine ⟨connection, hreach, hended, hreceived, ?_⟩
  have hcl := (descriptors_closed_once hreach).1 hended
  rwa [hreceived] at hcl

/-- A header that announces 5000 bytes ends the session; the descriptor that came
with it stays open. -/
theorem oversized_message_leaks :
    ∃ connection, Reachable Initial Step connection ∧ connection.serving = .ended ∧
      connection.received = [7] ∧ connection.closed = [] := by
  have hrun : (replay Connection.step (fun _ _ => True)
      { device := .newNetDevice false, socket := [⟨callHeader 5000, [7], true⟩] }
      [.receive, .complete, .hangUp, .tearDown, .finish]).map
      (fun connection => (connection.serving, connection.received, connection.closed)) =
        some (.ended, [7], []) := by
    decide
  obtain ⟨connection, hrun, hend⟩ := Option.map_eq_some_iff.mp hrun
  obtain ⟨hended, hlogs⟩ := Prod.mk.inj hend
  obtain ⟨hreceived, hcl⟩ := Prod.mk.inj hlogs
  exact ⟨connection, reachable_of_replay ⟨false, _, rfl⟩ hrun, hended, hreceived, hcl⟩

end Connection

end GvSwitch.VhostUser
