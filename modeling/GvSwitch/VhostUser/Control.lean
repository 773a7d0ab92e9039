import GvSwitch.VhostUser.Device
import Mathlib.Data.List.Perm.Basic

/-!
# What a control message does

Every request first changes rings without starting one, closing the files it
lets go of, and then at most starts the transmit ring.  No file is lost: those of
the message are held by a ring afterwards, or closed.
-/

namespace GvSwitch.VhostUser

open Foundation NetDevice

/-! ## Files and effects -/

def closing (effects : List Effect) : List Nat :=
  effects.filterMap fun
    | .closeFd fd => some fd
    | _ => none

def starting (effects : List Effect) : List Nat :=
  effects.filterMap fun
    | .startPump kick => some kick
    | _ => none

@[simp] theorem closing_append (first second : List Effect) :
    closing (first ++ second) = closing first ++ closing second :=
  List.filterMap_append

@[simp] theorem starting_append (first second : List Effect) :
    starting (first ++ second) = starting first ++ starting second :=
  List.filterMap_append

@[simp] theorem closing_map_closeFd (fds : List Nat) : closing (fds.map .closeFd) = fds := by
  simp [closing, List.filterMap_map]

@[simp] theorem closing_unmapAll (regions : List MemRegion) :
    closing (unmapAll regions) = [] := by
  simp [closing, unmapAll, List.filterMap_map]

def Quiet (effects : List Effect) : Prop := starting effects = [] ∧ .up ∉ effects

theorem quiet_nil : Quiet [] := ⟨rfl, List.not_mem_nil⟩

theorem quiet_map_closeFd (fds : List Nat) : Quiet (fds.map .closeFd) := by
  constructor
  · simp [starting, List.filterMap_map]
  · simp

theorem quiet_unmapAll (regions : List MemRegion) : Quiet (unmapAll regions) := by
  constructor
  · simp [starting, unmapAll, List.filterMap_map]
  · simp [unmapAll]

theorem Quiet.append {first second : List Effect} (h : Quiet first) (h' : Quiet second) :
    Quiet (first ++ second) := by
  constructor
  · rw [starting_append, h.1, h'.1]
    rfl
  · exact fun hm => (List.mem_append.mp hm).elim h.2 h'.2

/-! ## Changes that start nothing -/

structure Undisturbed (ring after : Vring) : Prop where
  started : ring.started = true
  kick : after.kick = ring.kick
  avail : after.avail = ring.avail
  lastAvail : after.lastAvail = ring.lastAvail

structure RingCalm (ring after : Vring) (effects : List Effect) (fds rest : List Nat) :
    Prop where
  files : (after.files ++ (closing effects ++ rest)).Perm (ring.files ++ fds)
  quiet : Quiet effects
  pump : after.pumpRunning = ring.pumpRunning
  kick : after.kick = ring.kick ∨ ∀ fd, ring.kick = some fd → fd ∈ closing effects

/-- Changes to a device that do not start the transmit ring; of `fds` only `rest`
is left. -/
structure Calm (device after : NetDevice) (effects : List Effect) (fds rest : List Nat) :
    Prop where
  files : (after.held ++ (closing effects ++ rest)).Perm (device.held ++ fds)
  quiet : Quiet effects
  pump : (after.rings txQueue).pumpRunning = (device.rings txQueue).pumpRunning
  kick : (after.rings txQueue).kick = (device.rings txQueue).kick ∨
    ∀ fd, (device.rings txQueue).kick = some fd → fd ∈ closing effects
  started : (after.rings txQueue).started = true →
    Undisturbed (device.rings txQueue) (after.rings txQueue) ∧
      (device.mem.isSome = true → after.mem.isSome = true)

variable {device middle after : NetDevice} {first second effects : List Effect}
  {fds more rest : List Nat}

variable {ring : Vring}

theorem held_setRing {index : RingIndex} (hfiles : ring.files = (device.rings index).files) :
    (device.setRing index ring).held = device.held := by
  match index with
  | 0 => exact congrArg (· ++ (device.rings 1).files) hfiles
  | 1 => exact congrArg ((device.rings 0).files ++ ·) hfiles

theorem Undisturbed.refl (h : ring.started = true) : Undisturbed ring ring :=
  ⟨h, rfl, rfl, rfl⟩

theorem Undisturbed.trans {between later : Vring} (h : Undisturbed ring between)
    (h' : Undisturbed between later) : Undisturbed ring later :=
  ⟨h.started, h'.kick.trans h.kick, h'.avail.trans h.avail, h'.lastAvail.trans h.lastAvail⟩

theorem Calm.of_rings (hrings : after.rings = device.rings) (hm : after.mem = device.mem)
    (fds : List Nat) : Calm device after [] fds fds := by
  refine ⟨?_, quiet_nil, by rw [hrings], by rw [hrings]; exact .inl rfl, ?_⟩
  · rw [held, held, hrings]
    exact .refl _
  · rw [hrings, hm]
    exact fun hstart => ⟨.refl hstart, id⟩

theorem files_trans (h : (middle.held ++ (closing first ++ more)).Perm (device.held ++ fds))
    (h' : (after.held ++ (closing second ++ rest)).Perm (middle.held ++ more)) :
    (after.held ++ (closing (first ++ second) ++ rest)).Perm (device.held ++ fds) := by
  refine List.perm_iff_count.mpr fun fd => ?_
  have hfst := h.count_eq fd
  have hsnd := h'.count_eq fd
  simp only [closing_append, List.count_append] at hfst hsnd ⊢
  omega

theorem Calm.trans (h : Calm device middle first fds more)
    (h' : Calm middle after second more rest) :
    Calm device after (first ++ second) fds rest := by
  constructor
  · exact files_trans h.files h'.files
  · exact h.quiet.append h'.quiet
  · exact h'.pump.trans h.pump
  · rw [closing_append]
    rcases h.kick with hkept | hcl
    · rcases h'.kick with hkept' | hcl'
      · exact .inl (hkept'.trans hkept)
      · exact .inr fun fd hfd =>
          List.mem_append_right _ (hcl' fd (hkept.trans hfd))
    · exact .inr fun fd hfd => List.mem_append_left _ (hcl fd hfd)
  · intro hstart
    obtain ⟨hlater, hm'⟩ := h'.started hstart
    obtain ⟨hearlier, hm⟩ := h.started hlater.started
    exact ⟨hearlier.trans hlater, hm' ∘ hm⟩

/-! ## Changing one ring -/

theorem RingCalm.of_files {after : Vring} (hkick : after.kick = ring.kick)
    (hc : after.call = ring.call) (hpump : after.pumpRunning = ring.pumpRunning)
    (fds : List Nat) : RingCalm ring after [] fds fds := by
  refine ⟨?_, quiet_nil, hpump, .inl hkick⟩
  rw [Vring.files, Vring.files, hkick, hc]
  exact .refl _

theorem ringCalm_stopRingLocked (ring : Vring) (fds : List Nat) :
    RingCalm ring (stopRingLocked ring).1 (stopRingLocked ring).2
      fds fds := by
  refine ⟨?_, quiet_map_closeFd _, rfl, .inr fun fd hfd => ?_⟩
  · rw [stopRingLocked, closing_map_closeFd]
    exact .refl _
  · rw [stopRingLocked, closing_map_closeFd, hfd]
    exact .head _

theorem ringCalm_replaceFD (isKick : Bool) (ring : Vring) (fd : Option Nat)
    (rest : List Nat) :
    RingCalm ring (replaceFD isKick ring fd).1
      (replaceFD isKick ring fd).2 (fd.toList ++ rest) rest := by
  cases isKick with
  | true =>
    refine ⟨?_, quiet_map_closeFd _, rfl, .inr fun old hold => ?_⟩
    · refine List.perm_iff_count.mpr fun other => ?_
      simp only [replaceFD, if_true, closing_map_closeFd, Vring.files, List.count_append]
      omega
    · simp only [replaceFD, if_true, closing_map_closeFd, hold]
      exact .head _
  | false =>
    refine ⟨?_, quiet_map_closeFd _, rfl, .inl rfl⟩
    refine List.perm_iff_count.mpr fun other => ?_
    have hclosing : closing (replaceFD false ring fd).2 = ring.call.toList :=
      closing_map_closeFd _
    have hc : (replaceFD false ring fd).1.files = ring.kick.toList ++ fd.toList := rfl
    rw [hclosing, hc, Vring.files]
    simp only [List.count_append]
    omega

theorem files_setRing (index : RingIndex)
    (h : (ring.files ++ (closing effects ++ rest)).Perm ((device.rings index).files ++ fds)) :
    ((device.setRing index ring).held ++ (closing effects ++ rest)).Perm
      (device.held ++ fds) := by
  refine List.perm_iff_count.mpr fun fd => ?_
  have hfiles := h.count_eq fd
  match index with
  | 0 =>
    have hrings : (device.setRing 0 ring).held = ring.files ++ (device.rings 1).files := rfl
    rw [hrings, held]
    simp only [List.count_append] at hfiles ⊢
    omega
  | 1 =>
    have hrings : (device.setRing 1 ring).held = (device.rings 0).files ++ ring.files := rfl
    rw [hrings, held]
    simp only [List.count_append] at hfiles ⊢
    omega

theorem calm_setRing (index : RingIndex)
    (h : RingCalm (device.rings index) ring effects fds rest)
    (hstart : index = txQueue → ring.started = true → Undisturbed (device.rings index) ring) :
    Calm device (device.setRing index ring) effects fds rest := by
  have hfiles := files_setRing index h.files
  match index with
  | 0 => exact ⟨hfiles, h.quiet, rfl, .inl rfl, fun hs => ⟨.refl hs, id⟩⟩
  | 1 => exact ⟨hfiles, h.quiet, h.pump, h.kick, fun hs => ⟨hstart rfl hs, id⟩⟩

theorem calm_evalRing_zero (device : NetDevice) (fds : List Nat) :
    Calm device (device.evalRing 0).1 (device.evalRing 0).2 fds fds := by
  have hring : ∃ started, device.evalRingLocked 0 (device.rings 0) =
      ({ device.rings 0 with started := started }, []) := by
    rcases device.evalRingLocked_cases 0 (device.rings 0) with hs | ⟨kick, -, -, -, heval⟩
    · exact ⟨_, hs⟩
    · exact ⟨true, heval⟩
  obtain ⟨started, hring⟩ := hring
  have hcalm : RingCalm (device.rings 0) { device.rings 0 with started := started } []
      fds fds := .of_files (by rfl) (by rfl) (by rfl) fds
  rw [evalRing, hring]
  exact calm_setRing 0 hcalm fun habsurd => nomatch habsurd

theorem calm_stopRings (device : NetDevice) (mem : Option MemTable) (fds : List Nat) :
    Calm device { device.stopRings.1 with mem := mem } device.stopRings.2 fds fds := by
  have hclosing : closing device.stopRings.2 = device.held := by
    simp only [stopRings, stopRingLocked, closing_append, closing_map_closeFd]
    rfl
  refine ⟨?_, ?_, rfl, .inr fun fd hfd => ?_, fun hstart => nomatch hstart⟩
  · rw [hclosing]
    exact .refl _
  · exact (quiet_map_closeFd _).append (quiet_map_closeFd _)
  rw [hclosing]
  refine List.mem_append_right _ (List.mem_append_left _ ?_)
  exact Option.mem_toList.mpr hfd

theorem calm_unmapAll (device : NetDevice) (regions : List MemRegion) (fds : List Nat) :
    Calm device device (unmapAll regions) fds fds := by
  refine ⟨?_, quiet_unmapAll _, rfl, .inl rfl, fun hstart => ⟨.refl hstart, id⟩⟩
  rw [closing_unmapAll]
  exact .refl _

/-! ## Starting the transmit ring -/

inductive Evaluated (device : NetDevice) : NetDevice × List Effect → Prop
  | unready : Evaluated device (device, [])
  | poked (kick : Nat) : (device.rings txQueue).kick = some kick →
      device.mem.isSome = true → (device.rings txQueue).pumpRunning = true →
      Evaluated device (device.setRing txQueue
        { device.rings txQueue with started := true }, [.poke kick, .up])
  | spawned (kick : Nat) : (device.rings txQueue).kick = some kick →
      device.mem.isSome = true → (device.rings txQueue).pumpRunning = false →
      Evaluated device (device.setRing txQueue
        { device.rings txQueue with started := true, pumpRunning := true },
        [.startPump kick, .up])

theorem evaluated_evalRing (device : NetDevice) :
    Evaluated device (device.evalRing txQueue) := by
  dsimp only [evalRing]
  rcases device.evalRingLocked_cases txQueue (device.rings txQueue) with
    hs | ⟨kick, hm, -, hkick, heval⟩
  · have hring : device.setRing txQueue (device.rings txQueue) = device := by
      unfold setRing
      rw [Function.update_eq_self]
    rw [hs, hring]
    exact .unready
  · rw [heval, if_pos rfl]
    split
    · rename_i hpump
      exact .poked kick hkick hm hpump
    · rename_i hpump
      exact .spawned kick hkick hm (by simpa using hpump)

theorem Evaluated.files (h : Evaluated device (after, effects)) :
    after.held = device.held ∧
      (after.rings txQueue).kick = (device.rings txQueue).kick ∧ closing effects = [] := by
  cases h with
  | unready | poked kick hkick hm hpump | spawned kick hkick hm hpump =>
    exact ⟨rfl, rfl, rfl⟩

/-- A call as a whole: calm changes, and then the transmit ring at most starts. -/
def Controlled (device after : NetDevice) (effects : List Effect) (fds rest : List Nat) :
    Prop :=
  ∃ middle first second, Calm device middle first fds rest ∧
    Evaluated middle (after, second) ∧ effects = first ++ second

theorem Calm.controlled (h : Calm device after effects fds rest) :
    Controlled device after effects fds rest :=
  ⟨after, effects, [], h, .unready, (List.append_nil _).symm⟩

theorem Calm.evalRing (h : Calm device middle effects fds rest) (index : RingIndex) :
    Controlled device (middle.evalRing index).1 (effects ++ (middle.evalRing index).2)
      fds rest := by
  match index with
  | 0 => exact (h.trans (calm_evalRing_zero middle rest)).controlled
  | 1 => exact ⟨middle, effects, _, h, evaluated_evalRing middle, rfl⟩

/-! ## Every request -/

variable {err : Option HandleError}

section Requests

variable {message : Message} {runtime : Runtime} {answer : Answer}

def Answer.Sound (device : NetDevice) (message : Message) (answer : Answer) : Prop :=
  Controlled device answer.device answer.effects message.fds answer.fds

theorem controlled_installMemTable (table : MemTable) (fds : List Nat) :
    Controlled device (device.installMemTable table).1 (device.installMemTable table).2
      fds fds := by
  have hinstall : ∃ middle effects, Calm device middle effects fds fds ∧
      device.installMemTable table =
        (((middle.evalRing 0).1.evalRing 1).1,
          effects ++ (middle.evalRing 0).2 ++ ((middle.evalRing 0).1.evalRing 1).2) := by
    unfold installMemTable
    cases hm : device.mem with
    | none =>
      refine ⟨{ device with mem := some table }, [], ?_, rfl⟩
      exact ⟨.refl _, quiet_nil, rfl, .inl rfl, fun hstart => ⟨.refl hstart, fun _ => rfl⟩⟩
    | some old =>
      exact ⟨_, _, (calm_stopRings device (some table) fds).trans
        (calm_unmapAll _ old.regions fds), rfl⟩
  obtain ⟨middle, effects, hcalm, hinstall⟩ := hinstall
  rw [hinstall]
  exact (hcalm.trans (calm_evalRing_zero middle fds)).evalRing 1

theorem mapRing_frame {host : Host} {mem : MemTable} {after : Vring} {addr : VringAddr}
    (h : mapRing host mem ring addr = some (after, err)) :
    after.kick = ring.kick ∧ after.call = ring.call ∧
      after.pumpRunning = ring.pumpRunning ∧ after.started = ring.started := by
  rcases mapRing_cases h with
    ⟨reason, -, rfl, -⟩ | ⟨desc, -, ⟨reason, -, rfl, -⟩ | ⟨avail, -,
      ⟨reason, -, rfl, -⟩ | ⟨used, -, rfl, -⟩⟩⟩
  all_goals exact ⟨rfl, rfl, rfl, rfl⟩

theorem Undisturbed.replaceFD (hkick : ring.started = true → ring.kick.isSome = true)
    (isKick : Bool) (fd : Option Nat) (hstart : (replaceFD isKick ring fd).1.started = true) :
    Undisturbed ring (replaceFD isKick ring fd).1 := by
  cases isKick with
  | false => exact ⟨hstart, rfl, rfl, rfl⟩
  | true =>
    -- Without an old kick the ring was not started, with one it is not now.
    simp only [NetDevice.replaceFD, if_true] at hstart
    split at hstart
    · cases hstart
    · rename_i hnone
      exact absurd (hkick hstart) hnone

/-- The ring whose addresses or base index a message sets. -/
def NetDevice.relocates (device : NetDevice) (message : Message) : Option RingIndex :=
  match Request.ofCode message.req with
  | some .setVringAddr => (parseVringAddr message.payload).toOption.bind (device.ring ·.index)
  | some .setVringBase => (vringStatePayload message.payload).toOption.bind (device.ring ·.1)
  | _ => none

structure Admissible (device : NetDevice) (message : Message) : Prop where
  kick : (device.rings txQueue).started = true → (device.rings txQueue).kick.isSome = true
  idle : device.relocates message = some txQueue → (device.rings txQueue).started = false

theorem calm_mapRing {addr : VringAddr} {index : RingIndex} {mem : MemTable}
    (hadm : Admissible device message)
    (hreq : Request.ofCode message.req = some .setVringAddr)
    (haddrs : device.Addresses message.payload addr index mem)
    (hmap : mapRing runtime.host mem (device.rings index) addr = some (ring, err)) :
    Calm device (device.setRing index ring) [] message.fds message.fds := by
  obtain ⟨hkick, hc, hpump, hs⟩ := mapRing_frame hmap
  refine calm_setRing index (.of_files hkick hc hpump message.fds) ?_
  rintro rfl hstart
  have hstop := hadm.idle (by
    simp [relocates, hreq, haddrs.parsed, Except.toOption, haddrs.ring])
  cases (hstop.symm.trans hs.symm).trans hstart

theorem sound_process (hadm : Admissible device message)
    (h : device.process message runtime = some answer) : answer.Sound device message := by
  cases processed_process h with
  | refused reason regions _ => exact (calm_unmapAll device regions message.fds).controlled
  | kept after reply hrings hm => exact (Calm.of_rings hrings hm message.fds).controlled
  | reset => exact (calm_stopRings device device.mem message.fds).controlled
  | installed table => exact controlled_installMemTable table message.fds
  | resized code num index _ _ _ _ =>
    refine (calm_setRing index (.of_files ?_ ?_ ?_ message.fds) ?_).controlled
    · rfl
    · rfl
    · rfl
    · exact fun _ hstart => ⟨hstart, rfl, rfl, rfl⟩
  | rebased code base index hreq hpay hidx =>
    refine (calm_setRing index (.of_files ?_ ?_ ?_ message.fds) ?_).controlled
    · rfl
    · rfl
    · rfl
    rintro rfl hstart
    have hstop := hadm.idle (by
      simp [relocates, hreq, hpay, Except.toOption, hidx])
    cases hstop.symm.trans hstart
  | stopped index reply =>
    refine (calm_setRing index (ringCalm_stopRingLocked _ message.fds) ?_).controlled
    exact fun _ hstart => nomatch hstart
  | misplaced addr index mem ring reason hreq haddrs hmap =>
    exact (calm_mapRing hadm hreq haddrs hmap).controlled
  | mapped addr index mem ring hreq haddrs hmap =>
    exact (calm_mapRing hadm hreq haddrs hmap).evalRing index
  | wired isKick index fd rest hfds =>
    have hcalm := ringCalm_replaceFD isKick (device.rings index) fd rest
    unfold Answer.Sound
    rw [hfds]
    refine (calm_setRing index hcalm ?_).evalRing index
    rintro rfl hstart
    exact .replaceFD hadm.kick isKick fd hstart
  | paused index enabled =>
    refine (calm_setRing index (.of_files ?_ ?_ ?_ message.fds) ?_).controlled
    · rfl
    · rfl
    · rfl
    · exact fun _ hstart => nomatch hstart
  | enabled index enabled =>
    refine (calm_setRing index (.of_files ?_ ?_ ?_ message.fds) ?_).evalRing index
    · rfl
    · rfl
    · rfl
    · exact fun _ hstart => ⟨hstart, rfl, rfl, rfl⟩

end Requests

/-! ## Whole calls -/

inductive Change (device after : NetDevice) (effects : List Effect) : Prop
  | calm : (after.rings txQueue).pumpRunning = (device.rings txQueue).pumpRunning →
      Quiet effects →
      ((after.rings txQueue).started = true →
        Undisturbed (device.rings txQueue) (after.rings txQueue) ∧
          (device.mem.isSome = true → after.mem.isSome = true)) →
      Change device after effects
  | poked (kick : Nat) : (device.rings txQueue).pumpRunning = true →
      (after.rings txQueue).pumpRunning = true →
      (after.rings txQueue).kick = some kick → after.mem.isSome = true →
      starting effects = [] → .poke kick ∈ effects → .up ∈ effects →
      Change device after effects
  | spawned (kick : Nat) : (device.rings txQueue).pumpRunning = false →
      (after.rings txQueue).pumpRunning = true →
      (after.rings txQueue).kick = some kick → after.mem.isSome = true →
      starting effects = [kick] → .up ∈ effects → Change device after effects

structure Handled (device after : NetDevice) (effects : List Effect) (fds : List Nat) :
    Prop where
  files : (after.held ++ closing effects).Perm (device.held ++ fds)
  kick : (after.rings txQueue).kick = (device.rings txQueue).kick ∨
    ∀ fd, (device.rings txQueue).kick = some fd → fd ∈ closing effects
  change : Change device after effects

theorem Controlled.handled (h : Controlled device after effects fds rest)
    {tail : List Effect} (hclosing : closing tail = rest) (hq : Quiet tail) :
    Handled device after (effects ++ tail) fds := by
  obtain ⟨middle, first, second, hcalm, hevaluated, rfl⟩ := h
  obtain ⟨hh, hkick, hsnd⟩ := hevaluated.files
  constructor
  · rw [hh, closing_append, closing_append, hsnd, hclosing, List.append_nil]
    exact hcalm.files
  · rw [hkick, closing_append, closing_append]
    refine hcalm.kick.imp id fun hcl fd hfd => ?_
    exact List.mem_append_left _ (List.mem_append_left _ (hcl fd hfd))
  have hstarts : starting (first ++ second ++ tail) = starting second := by
    rw [starting_append, starting_append, hcalm.quiet.1, hq.1, List.nil_append,
      List.append_nil]
  have hm (effect : Effect) (h : effect ∈ second) : effect ∈ first ++ second ++ tail :=
    List.mem_append_left _ (List.mem_append_right _ h)
  cases hevaluated with
  | unready =>
    exact .calm hcalm.pump ((hcalm.quiet.append quiet_nil).append hq) hcalm.started
  | poked kick hset hpres hpump =>
    exact .poked kick (hcalm.pump.symm.trans hpump) hpump hset hpres hstarts
      (hm _ (.head _)) (hm _ (.tail _ (.head _)))
  | spawned kick hset hpres hpump =>
    exact .spawned kick (hcalm.pump.symm.trans hpump) rfl hset hpres hstarts
      (hm _ (.tail _ (.head _)))

theorem respond_effects (message : Message) (runtime : Runtime) (answer : Answer) :
    closing (respond message runtime answer).1 = [] ∧
      Quiet (respond message runtime answer).1 := by
  have hreply (payload : Bytes) : Quiet [.reply message.req payload] :=
    ⟨rfl, fun hm => nomatch List.mem_singleton.mp hm⟩
  dsimp only [respond]
  split
  · exact ⟨rfl, hreply _⟩
  split
  · exact ⟨rfl, hreply _⟩
  · exact ⟨rfl, quiet_nil⟩

theorem handled_handle {message : Message} {runtime : Runtime}
    (hadm : Admissible device message)
    (h : device.handle message runtime = some (after, effects, err)) :
    Handled device after effects message.fds := by
  unfold handle at h
  split at h
  · cases h
  rename_i answer hanswer
  cases h
  rw [List.append_assoc]
  obtain ⟨hclosing, hq⟩ := respond_effects message runtime answer
  refine (sound_process hadm hanswer).handled ?_ ?_
  · rw [closing_append, hclosing, closing_map_closeFd]
    rfl
  · exact hq.append (quiet_map_closeFd _)

theorem handled_close (device : NetDevice) :
    Handled device device.close.1 device.close.2 [] := by
  refine (calm_stopRings device none []).controlled.handled ?_ ?_
  · exact closing_unmapAll _
  · exact quiet_unmapAll _

end GvSwitch.VhostUser
