import GvSwitch.VhostUser.Conservation
import GvSwitch.VhostUser.Control
import GvSwitch.VhostUser.Session

/-!
# The pump never sleeps on work

A pump that blocks on an open eventfd with nothing to read has drained whatever
was available when the ring was last started, resumed or kicked.  The pump of a
file that was closed ends, and hands over to a fresh one when the ring is live.
-/

namespace GvSwitch.VhostUser

open Foundation Vring

/-! ## Draining -/

namespace Vring

/-- The device's writes do not reach the index of the available ring. -/
def Separate (ring : Vring) : Prop :=
  ∀ avail used, ring.avail = some avail → ring.used = some used →
    Apart ⟨used.base, max 4 used.len⟩ ⟨avail.base, 4⟩

variable {ring : Vring} {host after : Host}

theorem available_congr {other : Vring} (havail : other.avail = ring.avail)
    (hlast : other.lastAvail = ring.lastAvail) (host : Host) :
    other.available host = ring.available host := by
  unfold available availIdx
  rw [havail, hlast]

theorem availIdx_setUsed {ε δ : Type} (hseparate : ring.Separate) {middle : Host}
    {slot head count : UInt16} {written : UInt32} {result : Vring × Host}
    (hset : (ring.setUsedElem host slot head written : Outcome ε Host) = .ok middle)
    (hpub : (ring.publishUsed middle count : Outcome ε (Vring × Host)) = .ok result) :
    (ring.availIdx result.2 : Outcome δ _) = ring.availIdx host := by
  obtain ⟨used, hu⟩ := used_of_publishUsed hpub
  refine availIdx_congr fun avail havail => ?_
  have hapart := hseparate avail used havail hu
  have hinner : Apart used ⟨avail.base, 4⟩ := by
    unfold Apart at hapart ⊢
    dsimp only at hapart ⊢
    omega
  exact (sameBytes_setUsedElem hu hinner hset).2.trans
    (sameBytes_publishUsed hu hapart hpub)

end Vring

variable {pump : Pump} {after : Session} {position count : Nat}

namespace Session

/-- Of the entries that were owed at the start of a call, those not taken yet are
still available, and none is left when the call returns. -/
structure Draining (owed : Nat) (start plane : Dataplane) : Prop where
  ring : plane.ring = { start.ring with
    lastAvail := plane.ring.lastAvail, usedIdx := plane.ring.usedIdx }
  left : owed - plane.consumed.length ≤ plane.ring.available plane.host
  returned : ∀ result, plane.call = .returned result → owed ≤ plane.consumed.length
  call : ∀ filling, plane.call ≠ .writing filling

variable {owed : Nat} {start plane : Dataplane}

theorem Draining.drainTurn (hseparate : start.ring.Separate) (h : Draining owed start plane)
    {frames : List Bytes} {after : Dataplane}
    (hturn : plane.drainTurn frames count = .ok after) : Draining owed start after := by
  have hleft := h.left
  rcases Dataplane.drainTurn_cases hturn with
    ⟨hpop, signals, rfl⟩ | ⟨head, ring, host, result, frames', hpop, hset, hpub, rfl⟩
  · rw [available_of_ok (popAvail_none hpop), UInt16.sub_self] at hleft
    refine ⟨h.ring, h.left, fun _ _ => ?_, fun _ hc => nomatch hc⟩
    have hzero : (0 : UInt16).toNat = 0 := rfl
    dsimp only
    omega
  · obtain ⟨hring, -, index, hidx, hne⟩ := popAvail_some hpop
    have hapart : ring.Separate := by
      rw [hring, h.ring]
      exact hseparate
    have hkept : (ring.availIdx result.2 : Outcome Empty _) = .ok index := by
      rw [availIdx_setUsed hapart hset hpub, hring]
      exact hidx
    have hres : result.1 = { ring with usedIdx := ring.usedIdx + 1 } := by
      obtain ⟨slice, -, hpub⟩ := Outcome.bind_eq_ok_iff.mp hpub
      cases hpub
      rfl
    have hs : result.1.available result.2 = ring.available result.2 :=
      available_congr (by rw [hres]) (by rw [hres]) _
    have hnext : result.1.available result.2 = (index - (plane.ring.lastAvail + 1)).toNat := by
      rw [hs, available_of_ok hkept, hring]
    have hstep := sub_succ_toNat hne
    rw [available_of_ok hidx] at hleft
    refine ⟨?_, ?_, fun _ hc => (nomatch hc), fun _ hc => nomatch hc⟩
    · rw [hres, hring, h.ring]
    · simp only [List.length_append, List.length_singleton, hnext]
      omega

theorem Draining.step (hseparate : start.ring.Separate) (h : Draining owed start plane)
    {move : Dataplane.Move} {after : Dataplane}
    (hstep : Guarded Adding Dataplane.Step plane move after) : Draining owed start after := by
  obtain ⟨hadding, hstep⟩ := hstep
  cases move with
  | guest host =>
    cases hstep
    exact ⟨h.ring, Nat.le_trans h.left hadding, h.returned, h.call⟩
  | drainTXLocked | writeFrame frame => cases hadding
  | turn =>
    simp only [Dataplane.Step, Dataplane.apply] at hstep
    split at hstep
    · cases hstep
    · exact h.drainTurn hseparate (Dataplane.value?_eq_some hstep)
    · rename_i filling hc
      exact absurd hc (h.call filling)

/-- A call that returns has taken everything that was owed. -/
theorem draining_of_reachable (hseparate : start.ring.Separate)
    (howed : owed ≤ start.ring.available start.host) {frames : List Bytes}
    (hc : start.call = .draining frames count) (hconsumed : start.consumed = [])
    (h : Reachable (fun first => first = start) (Guarded Adding Dataplane.Step) plane) :
    Draining owed start plane := by
  refine Reachable.induct ?_ ?_ h
  · rintro first rfl
    refine ⟨rfl, ?_, ?_, ?_⟩
    · rw [hconsumed]
      exact howed
    · intro result hreturned
      cases hc.symm.trans hreturned
    · intro filling hwriting
      cases hc.symm.trans hwriting
  · intro state move after _ ih hstep
    exact ih.step hseparate hstep

/-! ## Effects -/

variable {eventOf : Nat → Nat} {session : Session} {device : NetDevice}
  {effects : List Effect} {fds : List Nat}

structure Performed (eventOf : Nat → Nat) (session : Session) (effects : List Effect)
    (after : Session) : Prop where
  device : after.device = session.device
  host : after.host = session.host
  received : after.received = session.received
  closed : ∀ fd, fd ∈ after.closed ↔ fd ∈ closing effects ∨ fd ∈ session.closed
  pumps : after.pumps = session.pumps ++ (starting effects).map (Pump.mk · .draining)
  pending : ∀ event, session.pending event = true → after.pending event = true
  poked : ∀ kick, .poke kick ∈ effects → kick ∉ session.closed → kick ∉ closing effects →
    after.pending (eventOf kick) = true
  up : .up ∈ effects → after.owed = session.available
  calm : .up ∉ effects → after.owed = session.owed

theorem Performed.available (h : Performed eventOf session effects after) :
    after.available = session.available := by
  unfold Session.available tx
  rw [h.device, h.host]

theorem Performed.trans {first second : List Effect} {middle : Session}
    (h : Performed eventOf session first middle)
    (h' : Performed eventOf middle second after) :
    Performed eventOf session (first ++ second) after := by
  constructor
  · exact h'.device.trans h.device
  · exact h'.host.trans h.host
  · exact h'.received.trans h.received
  · intro fd
    rw [h'.closed, h.closed, closing_append, List.mem_append]
    tauto
  · rw [h'.pumps, h.pumps, starting_append, List.map_append, List.append_assoc]
  · exact fun event hpend => h'.pending event (h.pending event hpend)
  · intro kick hpoke hopen hkept
    rw [closing_append, List.mem_append, not_or] at hkept
    rcases List.mem_append.mp hpoke with hfst | hsnd
    · exact h'.pending _ (h.poked kick hfst hopen hkept.1)
    · refine h'.poked kick hsnd (fun hcl => ?_) hkept.2
      exact ((h.closed kick).mp hcl).elim hkept.1 hopen
  · intro hup
    by_cases hsnd : .up ∈ second
    · rw [h'.up hsnd, h.available]
    · rw [h'.calm hsnd, h.up ((List.mem_append.mp hup).resolve_right hsnd)]
  · intro hcalm
    rw [List.mem_append, not_or] at hcalm
    rw [h'.calm hcalm.2, h.calm hcalm.1]

theorem performed_perform (session : Session) (effect : Effect) :
    Performed eventOf session [effect] (perform eventOf session effect) := by
  cases effect with
  | closeFd fd | unmap raw | startPump kick | up | reply req payload =>
    constructor
    all_goals simp [perform, closing, starting]
  | poke kick =>
    by_cases hcl : kick ∈ session.closed
    · constructor
      all_goals simp [perform, hcl, closing, starting]
    constructor
    all_goals simp [perform, hcl, closing, starting, Function.update_apply]
    exact fun _ hpend => .inr hpend

theorem performed_foldl (eventOf : Nat → Nat) (session : Session) (effects : List Effect) :
    Performed eventOf session effects (effects.foldl (perform eventOf) session) := by
  induction effects generalizing session with
  | nil =>
    refine ⟨rfl, rfl, rfl, by simp [closing], by simp [starting], fun _ => id, ?_, ?_, ?_⟩
    · simp
    · simp
    · exact fun _ => rfl
  | cons effect rest ih =>
    exact (performed_perform session effect).trans (ih (perform eventOf session effect))

/-! ## The condition on the environment -/

/-- Files are new ones, the transmit ring is moved only while it is not started,
and the guest takes no entry back and keeps its rings apart. -/
def Orderly (session : Session) : Move → Prop
  | .message _ _ message =>
    message.fds.Nodup ∧ (∀ fd ∈ message.fds, fd ∉ session.received) ∧
      (session.device.relocates message = some txQueue → session.tx.started = false)
  | .guest host =>
    session.tx.started = true → session.available ≤ session.tx.available host
  | .drain _ => session.tx.Separate
  | _ => True

/-! ## The invariant -/

/-- The pump reads the current kick, or a file that was closed; past its drain it
owes nothing unless something wakes it up. -/
structure OnDuty (eventOf : Nat → Nat) (session : Session) (pump : Pump) : Prop where
  kick : session.tx.kick = some pump.kick ∨ pump.kick ∈ session.closed
  drained : pump.phase = .delivering ∨ pump.phase = .reading →
    session.tx.started = true → pump.kick ∉ session.closed →
      session.pending (eventOf pump.kick) = false → session.owed = 0

def Crew (eventOf : Nat → Nat) (session : Session) : Prop :=
  session.tx.pumpRunning = false ∧ session.pumps = [] ∨
    session.tx.pumpRunning = true ∧
      ∃ pump, session.pumps = [pump] ∧ OnDuty eventOf session pump

structure Manned (eventOf : Nat → Nat) (session : Session) : Prop where
  distinct : session.device.held.Nodup
  known : ∀ fd ∈ session.device.held, fd ∈ session.received ∧ fd ∉ session.closed
  closed : ∀ fd ∈ session.closed, fd ∈ session.received
  started : session.tx.started = true → session.tx.kick.isSome = true ∧
    session.device.mem.isSome = true ∧ session.tx.pumpRunning = true
  owed : session.tx.started = true → session.owed ≤ session.available
  crew : Crew eventOf session

theorem manned_initial (h : Initial session) : Manned eventOf session := by
  obtain ⟨accessPlatform, host, pending, rfl⟩ := h
  refine ⟨List.nodup_nil, fun _ habsurd => (nomatch habsurd), fun _ habsurd => (nomatch habsurd),
    fun habsurd => (nomatch habsurd), fun habsurd => (nomatch habsurd), .inl ⟨rfl, rfl⟩⟩

theorem mem_held_of_kick {kick : Nat} (h : (device.rings txQueue).kick = some kick) :
    kick ∈ device.held := by
  refine List.mem_append_right _ (List.mem_append_left _ ?_)
  exact Option.mem_toList.mpr h

theorem Manned.files (h : Manned eventOf session) (hnodup : fds.Nodup)
    (hfresh : ∀ fd ∈ fds, fd ∉ session.received)
    (hfiles : (device.held ++ closing effects).Perm (session.device.held ++ fds)) :
    (device.held ++ closing effects).Nodup ∧
      ∀ fd ∈ device.held ++ closing effects,
        fd ∈ fds ++ session.received ∧ fd ∉ session.closed := by
  constructor
  · rw [hfiles.nodup_iff, List.nodup_append']
    exact ⟨h.distinct, hnodup, fun fd hh hfd => hfresh fd hfd (h.known fd hh).1⟩
  intro fd hfd
  rcases List.mem_append.mp (hfiles.mem_iff.mp hfd) with hh | hnew
  · obtain ⟨hknown, hopen⟩ := h.known fd hh
    exact ⟨List.mem_append_right _ hknown, hopen⟩
  · exact ⟨List.mem_append_left _ hnew, fun hcl => hfresh fd hnew (h.closed fd hcl)⟩

theorem Manned.kick_open (h : Manned eventOf session) (hnodup : fds.Nodup)
    (hfresh : ∀ fd ∈ fds, fd ∉ session.received)
    (hfiles : (device.held ++ closing effects).Perm (session.device.held ++ fds)) {kick : Nat}
    (hkick : (device.rings txQueue).kick = some kick) :
    kick ∉ session.closed ∧ kick ∉ closing effects := by
  obtain ⟨hdistinct, hknown⟩ := h.files hnodup hfresh hfiles
  have hh := mem_held_of_kick hkick
  refine ⟨(hknown kick (List.mem_append_left _ hh)).2, fun hclosing => ?_⟩
  exact List.disjoint_of_nodup_append hdistinct hh hclosing

/-- The pump's file is still the kick, or closed by now. -/
theorem OnDuty.kick_after (h : OnDuty eventOf session pump)
    (hcl : ∀ fd, fd ∈ after.closed ↔ fd ∈ closing effects ∨ fd ∈ session.closed)
    (hkick : after.tx.kick = session.tx.kick ∨
      ∀ fd, session.tx.kick = some fd → fd ∈ closing effects) :
    after.tx.kick = some pump.kick ∨ pump.kick ∈ after.closed := by
  rcases h.kick with hcur | hold
  · rcases hkick with hs | hlost
    · exact .inl (hs.trans hcur)
    · exact .inr ((hcl _).mpr (.inl (hlost _ hcur)))
  · exact .inr ((hcl _).mpr (.inr hold))

structure Answered (eventOf : Nat → Nat) (session : Session) (device : NetDevice)
    (effects : List Effect) (fds : List Nat) (after : Session) : Prop where
  performed : Performed eventOf
    { session with device := device, received := fds ++ session.received } effects after
  handled : Handled session.device device effects fds
  nodup : fds.Nodup
  fresh : ∀ fd ∈ fds, fd ∉ session.received

section Answered

variable {after : Session}

theorem Answered.tx (h : Answered eventOf session device effects fds after) :
    after.tx = device.rings txQueue := by
  rw [Session.tx, h.performed.device]

theorem Answered.kick_after (h : Answered eventOf session device effects fds after)
    (hpump : OnDuty eventOf session pump) :
    after.tx.kick = some pump.kick ∨ pump.kick ∈ after.closed := by
  have hkick := h.handled.kick
  rw [← h.tx] at hkick
  exact hpump.kick_after h.performed.closed hkick

section Answered

variable (h : Answered eventOf session device effects fds after)
  (hmanned : Manned eventOf session)

include h hmanned

theorem Answered.files :
    after.device.held.Nodup ∧
      (∀ fd ∈ after.device.held, fd ∈ after.received ∧ fd ∉ after.closed) ∧
      ∀ fd ∈ after.closed, fd ∈ after.received := by
  obtain ⟨hdistinct, hknown⟩ := hmanned.files h.nodup h.fresh h.handled.files
  have hcl := h.performed.closed
  rw [h.performed.device, h.performed.received]
  refine ⟨hdistinct.of_append_left, fun fd hh => ?_, fun fd hfd => ?_⟩
  · obtain ⟨hreceived, hopen⟩ := hknown fd (List.mem_append_left _ hh)
    refine ⟨hreceived, fun hfd => ?_⟩
    rcases (hcl fd).mp hfd with hclosing | hearlier
    · exact List.disjoint_of_nodup_append hdistinct hh hclosing
    · exact hopen hearlier
  · rcases (hcl fd).mp hfd with hclosing | hearlier
    · exact (hknown fd (List.mem_append_right _ hclosing)).1
    · exact List.mem_append_right _ (hmanned.closed fd hearlier)

theorem Answered.calm (hpump : (device.rings txQueue).pumpRunning = session.tx.pumpRunning)
    (hq : Quiet effects)
    (hstart : (device.rings txQueue).started = true →
      Undisturbed session.tx (device.rings txQueue) ∧
        (session.device.mem.isSome = true → device.mem.isSome = true)) :
    Manned eventOf after := by
  obtain ⟨hh, hopen, hcl⟩ := h.files hmanned
  have hperformed := h.performed
  have howed : after.owed = session.owed := hperformed.calm hq.2
  rw [← h.tx] at hpump hstart
  refine ⟨hh, hopen, hcl, fun hrunning => ?_, fun hrunning => ?_, ?_⟩
  · obtain ⟨hs, hm⟩ := hstart hrunning
    obtain ⟨hkick, hpres, hmember⟩ := hmanned.started hs.started
    rw [hs.kick, hpump, hperformed.device]
    exact ⟨hkick, hm hpres, hmember⟩
  · obtain ⟨hs, -⟩ := hstart hrunning
    have havailable : after.available = session.available := by
      rw [Session.available, hperformed.host]
      exact available_congr hs.avail hs.lastAvail _
    rw [howed, havailable]
    exact hmanned.owed hs.started
  · have hpumps : after.pumps = session.pumps := by
      rw [hperformed.pumps, hq.1]
      exact List.append_nil _
    rcases hmanned.crew with ⟨hidle, hnone⟩ | ⟨hbusy, pump, hone, hduty⟩
    · exact .inl ⟨hpump.trans hidle, hpumps.trans hnone⟩
    refine .inr ⟨hpump.trans hbusy, pump, hpumps.trans hone, h.kick_after hduty, ?_⟩
    intro hphase hrunning hfile hpend
    rw [howed]
    refine hduty.drained hphase (hstart hrunning).1.started (fun hfd => hfile ?_) ?_
    · exact (hperformed.closed _).mpr (.inr hfd)
    · refine Bool.eq_false_iff.mpr fun hb => ?_
      exact Bool.eq_false_iff.mp hpend (hperformed.pending _ hb)

/-- The ring was started while a pump is running, which is woken up. -/
theorem Answered.poked {kick : Nat} (hrunning : session.tx.pumpRunning = true)
    (hstill : (device.rings txQueue).pumpRunning = true)
    (hkick : (device.rings txQueue).kick = some kick) (hm : device.mem.isSome = true)
    (hstarts : starting effects = []) (hpoke : .poke kick ∈ effects) (hup : .up ∈ effects) :
    Manned eventOf after := by
  obtain ⟨hh, hopen, hcl⟩ := h.files hmanned
  have hperformed := h.performed
  obtain ⟨hfile, hkept⟩ := hmanned.kick_open h.nodup h.fresh h.handled.files hkick
  have hwoken := hperformed.poked kick hpoke hfile hkept
  rw [← h.tx] at hstill hkick
  refine ⟨hh, hopen, hcl, fun _ => ?_, fun _ => ?_, ?_⟩
  · rw [hkick, hperformed.device]
    exact ⟨rfl, hm, hstill⟩
  · exact Nat.le_of_eq ((hperformed.up hup).trans hperformed.available.symm)
  rcases hmanned.crew with ⟨hidle, -⟩ | ⟨-, pump, hone, hduty⟩
  · cases hidle.symm.trans hrunning
  have hpumps : after.pumps = [pump] := by
    rw [hperformed.pumps, hstarts, hone]
    rfl
  refine .inr ⟨hstill, pump, hpumps, h.kick_after hduty, fun _ _ hfile' hpend => ?_⟩
  have hcur := (h.kick_after hduty).resolve_right hfile'
  cases Option.some.inj (hkick.symm.trans hcur)
  cases hwoken.symm.trans hpend

/-- The ring was started without a pump, and has one now. -/
theorem Answered.spawned {kick : Nat} (hidle : session.tx.pumpRunning = false)
    (hnow : (device.rings txQueue).pumpRunning = true)
    (hkick : (device.rings txQueue).kick = some kick) (hm : device.mem.isSome = true)
    (hstarts : starting effects = [kick]) (hup : .up ∈ effects) : Manned eventOf after := by
  obtain ⟨hh, hopen, hcl⟩ := h.files hmanned
  have hperformed := h.performed
  rw [← h.tx] at hnow hkick
  refine ⟨hh, hopen, hcl, fun _ => ?_, fun _ => ?_, ?_⟩
  · rw [hkick, hperformed.device]
    exact ⟨rfl, hm, hnow⟩
  · exact Nat.le_of_eq ((hperformed.up hup).trans hperformed.available.symm)
  rcases hmanned.crew with ⟨-, hnone⟩ | ⟨hbusy, -⟩
  · have hpumps : after.pumps = [⟨kick, .draining⟩] := by
      rw [hperformed.pumps, hstarts, hnone]
      rfl
    refine .inr ⟨hnow, _, hpumps, .inl hkick, fun hphase => ?_⟩
    rcases hphase with hphase | hphase
    · cases hphase
    · cases hphase
  · cases hidle.symm.trans hbusy

theorem Answered.manned : Manned eventOf after := by
  cases h.handled.change with
  | calm hpump hq hstart => exact h.calm hmanned hpump hq hstart
  | poked kick hrunning hstill hkick hm hstarts hpoke hup =>
    exact h.poked hmanned hrunning hstill hkick hm hstarts hpoke hup
  | spawned kick hidle hnow hkick hm hstarts hup =>
    exact h.spawned hmanned hidle hnow hkick hm hstarts hup

end Answered

end Answered

/-! ## The pump and the guest -/

theorem Manned.at_position (h : Manned eventOf session) {phase : Phase}
    (hat : session.At position pump phase) :
    session.pumps = [pump] ∧ position = 0 ∧ session.tx.pumpRunning = true ∧
      OnDuty eventOf session pump := by
  obtain ⟨hget, -⟩ := hat
  rcases h.crew with ⟨-, hnone⟩ | ⟨hbusy, only, hone, hduty⟩
  · simp [hnone] at hget
  rw [hone] at hget
  cases position with
  | zero =>
    cases hget
    exact ⟨hone, rfl, hbusy, hduty⟩
  | succ position => cases hget

theorem Manned.moveTo (h : Manned eventOf session) {phase : Phase}
    (hat : session.At position pump phase) (next : Phase) (pending : Nat → Bool)
    (hdrained : next = .delivering ∨ next = .reading → session.tx.started = true →
      pump.kick ∉ session.closed → pending (eventOf pump.kick) = false →
        session.owed = 0) :
    Manned eventOf { session.moveTo position next with pending := pending } := by
  obtain ⟨hone, rfl, hbusy, hduty⟩ := h.at_position hat
  refine ⟨h.distinct, h.known, h.closed, h.started, h.owed, .inr ⟨hbusy, ?_⟩⟩
  refine ⟨{ pump with phase := next }, ?_, hduty.kick, hdrained⟩
  simp only [Session.moveTo, hone]
  rfl

section Manned

variable (h : Manned eventOf session)

include h

theorem Manned.drained {table : MemTable} {plane : Dataplane}
    (hdraining : Draining session.owed (session.plane table) plane) {result : CallResult}
    (hc : plane.call = .returned result) :
    Manned eventOf (session.drained plane) ∧ (session.drained plane).owed = 0 := by
  have howed : (session.drained plane).owed = 0 :=
    Nat.sub_eq_zero_of_le (hdraining.returned result hc)
  have hring := hdraining.ring
  have htx : (session.drained plane).tx = plane.ring := rfl
  have hh : (session.drained plane).device.held = session.device.held := by
    refine held_setRing ?_
    rw [hring]
    rfl
  refine ⟨⟨?_, ?_, h.closed, ?_, ?_, ?_⟩, howed⟩
  · rw [hh]
    exact h.distinct
  · rw [hh]
    exact h.known
  · rw [htx, hring]
    exact h.started
  · rw [howed]
    exact fun _ => Nat.zero_le _
  have hcrew := h.crew
  unfold Crew at hcrew ⊢
  rw [htx, hring]
  refine hcrew.imp id ?_
  rintro ⟨hbusy, pump, hone, hduty⟩
  refine ⟨hbusy, pump, hone, ?_, fun _ _ _ _ => howed⟩
  rw [htx, hring]
  exact hduty.kick

theorem Manned.drain (hseparate : session.tx.Separate)
    (hat : session.At position pump .draining) {middle : Session}
    (hdrains : session.Drains middle) :
    Manned eventOf (middle.moveTo position .delivering) := by
  unfold Drains at hdrains
  split at hdrains
  · rename_i table hstart hm
    obtain ⟨plane, frames, hrun, hc, rfl⟩ := hdrains
    have hdraining := draining_of_reachable hseparate (h.owed hstart) rfl rfl hrun
    obtain ⟨hmanned, howed⟩ := h.drained hdraining hc
    exact hmanned.moveTo hat .delivering session.pending fun _ _ _ _ => howed
  · rename_i hidle
    rw [hdrains]
    refine h.moveTo hat .delivering session.pending fun _ hstart _ _ => ?_
    -- A started ring has its memory, and would have been drained.
    obtain ⟨-, hm, -⟩ := h.started hstart
    obtain ⟨table, htable⟩ := Option.isSome_iff_exists.mp hm
    exact absurd htable (hidle table hstart)

theorem Manned.handOver (hat : session.At position pump .exiting) :
    Manned eventOf (session.handOver position) := by
  obtain ⟨hone, rfl, -, -⟩ := h.at_position hat
  have hh (value : Bool) : (session.device.setRing txQueue
      { session.tx with pumpRunning := value }).held = session.device.held :=
    held_setRing rfl
  have hrest : session.pumps.eraseIdx 0 = [] := by rw [hone]; rfl
  unfold Session.handOver
  rw [hrest]
  dsimp only
  split
  · rename_i kick hstart hkick
    refine ⟨?_, ?_, h.closed, ?_, h.owed, .inr ⟨rfl, _, rfl, .inl hkick, ?_⟩⟩
    · exact h.distinct
    · exact h.known
    · exact fun _ => ⟨(h.started hstart).1, (h.started hstart).2.1, rfl⟩
    intro hphase
    rcases hphase with hphase | hphase
    · cases hphase
    · cases hphase
  · rename_i hidle
    have hstop : session.tx.started ≠ true := by
      intro hstart
      obtain ⟨kick, hkick⟩ := Option.isSome_iff_exists.mp (h.started hstart).1
      exact hidle kick hstart hkick
    refine ⟨?_, ?_, h.closed, ?_, h.owed, .inl ⟨rfl, rfl⟩⟩
    · exact h.distinct
    · rw [hh]
      exact h.known
    · exact fun hstart => absurd hstart hstop

theorem Manned.guest {host : Host}
    (hadds : session.tx.started = true → session.available ≤ session.tx.available host) :
    Manned eventOf { session with host := host } := by
  refine ⟨h.distinct, h.known, h.closed, h.started, ?_, ?_⟩
  · exact fun hstart => Nat.le_trans (h.owed hstart) (hadds hstart)
  refine h.crew.imp id ?_
  rintro ⟨hbusy, pump, hone, hduty⟩
  exact ⟨hbusy, pump, hone, hduty.kick, hduty.drained⟩

theorem Manned.kick (event : Nat) :
    Manned eventOf { session with
      pending := Function.update session.pending event true
      owed := if session.tx.kick.map eventOf = some event then session.available
        else session.owed } := by
  refine ⟨h.distinct, h.known, h.closed, h.started, fun hstart => ?_, ?_⟩
  · split
    · exact Nat.le_refl _
    · exact h.owed hstart
  refine h.crew.imp id ?_
  rintro ⟨hbusy, pump, hone, hduty⟩
  refine ⟨hbusy, pump, hone, hduty.kick, fun hphase hstart hfile hpend => ?_⟩
  dsimp only at hpend ⊢
  by_cases hevent : eventOf pump.kick = event
  · -- The pump has something to read now.
    simp [hevent, Function.update_self] at hpend
  rw [Function.update_of_ne hevent] at hpend
  have hcur := hduty.kick.resolve_right hfile
  have ho : session.tx.kick.map eventOf ≠ some event := by
    rw [hcur]
    exact fun heq => hevent (Option.some.inj heq)
  rw [if_neg ho]
  exact hduty.drained hphase hstart hfile hpend

/-! ## Whole sessions -/

theorem Manned.step {move : Move}
    (hstep : Guarded Orderly (Step eventOf) session move after) : Manned eventOf after := by
  obtain ⟨horderly, hstep⟩ := hstep
  cases move with
  | message mmap replySent message =>
    obtain ⟨hnodup, hfresh, hidle⟩ := horderly
    obtain ⟨device, effects, err, hhandle, rfl⟩ := hstep
    have hadm : Admissible session.device message :=
      ⟨fun hstart => (h.started hstart).1, hidle⟩
    exact Answered.manned ⟨performed_foldl _ _ _, handled_handle hadm hhandle,
      hnodup, hfresh⟩ h
  | close =>
    subst hstep
    exact Answered.manned ⟨performed_foldl _ _ _, handled_close session.device,
      List.nodup_nil, fun _ habsurd => nomatch habsurd⟩ h
  | guest host =>
    subst hstep
    exact h.guest horderly
  | kick event =>
    subst hstep
    exact h.kick event
  | drain position =>
    obtain ⟨pump, middle, hat, hdrains, rfl⟩ := hstep
    exact h.drain horderly hat hdrains
  | deliver position =>
    obtain ⟨pump, hat, rfl⟩ := hstep
    refine h.moveTo hat .reading session.pending fun _ hstart hfile hpend => ?_
    exact (h.at_position hat).2.2.2.drained (.inl hat.2) hstart hfile hpend
  | read position =>
    obtain ⟨pump, hat, -, rfl⟩ := hstep
    exact h.moveTo hat .draining _ fun hphase => by cases hphase <;> contradiction
  | readFails position =>
    obtain ⟨pump, hat, rfl⟩ := hstep
    exact h.moveTo hat .exiting session.pending fun hphase => by
      cases hphase <;> contradiction
  | exit position =>
    obtain ⟨pump, hat, rfl⟩ := hstep
    exact h.handOver hat

end Manned

/-- At most one pump is live, and it is alert when the ring is started: it is not
blocked, or something ends or wakes its read, or nothing is owed. -/
theorem one_alert_pump (h : Reachable Initial (Guarded Orderly (Step eventOf)) session) :
    session.pumps.length ≤ 1 ∧
      (session.tx.pumpRunning = true ↔ session.pumps.length = 1) ∧
      (session.tx.started = true → ∃ pump ∈ session.pumps,
        pump.phase ≠ .reading ∨ pump.kick ∈ session.closed ∨
          session.pending (eventOf pump.kick) = true ∨ session.owed = 0) := by
  have hmanned : Manned eventOf session := by
    refine Reachable.induct ?_ ?_ h
    · exact fun state hinitial => manned_initial hinitial
    · exact fun state move after _ ih hstep => ih.step hstep
  rcases hmanned.crew with ⟨hidle, hnone⟩ | ⟨hbusy, pump, hone, hduty⟩
  · rw [hnone, hidle]
    refine ⟨by decide, by decide, fun hstart => ?_⟩
    cases hidle.symm.trans (hmanned.started hstart).2.2
  · rw [hone, hbusy]
    refine ⟨Nat.le_refl _, by simp, fun hstart => ⟨pump, .head _, ?_⟩⟩
    by_cases hreading : pump.phase = .reading
    · by_cases hfile : pump.kick ∈ session.closed
      · exact .inr (.inl hfile)
      · cases hpend : session.pending (eventOf pump.kick) with
        | true => exact .inr (.inr (.inl rfl))
        | false =>
          have howed := hduty.drained (.inr hreading) hstart hfile hpend
          exact .inr (.inr (.inr howed))
    · exact .inl hreading

/-! A handshake for the transmit ring (memory, size, addresses, kick), with one
chain available from the start, and a second kick before the pump's first turn. -/

def idleSession : Session where
  device := .newNetDevice false
  host := byteAt (putLE64 256 ++ putLE32 16 ++ List.replicate 54 0 ++ putLE16 1)
  pending := fun _ => false

def oneRegion : Mmap := ⟨4096, fun _ _ length => some ⟨0, length.toNat⟩⟩

def handshake : List Message :=
  [⟨5, 1, putLE64 1 ++ putLE64 0 ++ putLE64 4096 ++ putLE64 0 ++ putLE64 0, [3]⟩,
    ⟨8, 1, putLE32 1 ++ putLE32 2, []⟩,
    ⟨9, 1, putLE32 1 ++ putLE32 0 ++ putLE64 0 ++ putLE64 128 ++ putLE64 64 ++ putLE64 0, []⟩,
    ⟨12, 1, putLE64 1, [4]⟩, ⟨12, 1, putLE64 1, [5]⟩]

def attend (session : Session) (message : Message) : Session :=
  match session.device.handle message ⟨session.host, oneRegion, true⟩ with
  | some (device, effects, _) => session.answered id device effects message.fds
  | none => session

def attended (count : Nat) : Session := (handshake.take count).foldl attend idleSession

theorem attended_step {message : Message} (hmsg : handshake[count]? = some message)
    (hsome : ((attended count).device.handle message
      ⟨(attended count).host, oneRegion, true⟩).isSome = true)
    (horderly : (attended count).Orderly (.message oneRegion true message)) :
    Guarded Orderly (Step id) (attended count) (.message oneRegion true message)
      (attended (count + 1)) := by
  obtain ⟨⟨device, effects, err⟩, hhandle⟩ := Option.isSome_iff_exists.mp hsome
  refine ⟨horderly, device, effects, err, hhandle, ?_⟩
  have hnext : attended (count + 1) = attend (attended count) message := by
    simp only [attended, List.take_add_one, hmsg, List.foldl_append]
    rfl
  rw [hnext, attend, hhandle]

theorem reachable_attended :
    Reachable Initial (Guarded Orderly (Step id)) (attended 5) := by
  have hmemory := @attended_step 0 _ rfl rfl ⟨by decide, by decide, fun _ => rfl⟩
  have hsize := @attended_step 1 _ rfl rfl ⟨by decide, by decide, fun _ => rfl⟩
  have haddrs := @attended_step 2 _ rfl rfl ⟨by decide, by decide, fun _ => rfl⟩
  have hkick := @attended_step 3 _ rfl rfl ⟨by decide, by decide, fun _ => rfl⟩
  have hagain := @attended_step 4 _ rfl rfl ⟨by decide, by decide, nofun⟩
  exact .next (.next (.next (.next (.next (.start ⟨false, _, _, rfl⟩) hmemory) hsize)
    haddrs) hkick) hagain

/-- Drain the ring in so many turns, deliver, and read the kick. -/
def pumped (session : Session) (turns : Nat) : Option Session :=
  session.device.mem.bind fun table =>
    (replay Dataplane.apply (fun _ move => move matches .turn) (session.plane table)
      (List.replicate turns .turn)).bind fun plane =>
        match plane.call with
        | .returned (.frames _) =>
          some (((session.drained plane).moveTo 0 .delivering).moveTo 0 .reading)
        | _ => none

theorem reachable_pumped {turns kick : Nat} {avail used : Slice}
    (h : Reachable Initial (Guarded Orderly (Step id)) session)
    (hpump : session.pumps = [⟨kick, .draining⟩]) (hstart : session.tx.started = true)
    (havail : session.tx.avail = some avail) (hu : session.tx.used = some used)
    (hapart : Apart ⟨used.base, max 4 used.len⟩ ⟨avail.base, 4⟩)
    (hrun : session.pumped turns = some after) :
    Reachable Initial (Guarded Orderly (Step id)) after := by
  obtain ⟨table, hm, hrun⟩ := Option.bind_eq_some_iff.mp hrun
  obtain ⟨plane, hturns, hrun⟩ := Option.bind_eq_some_iff.mp hrun
  split at hrun
  · rename_i frames hc
    cases hrun
    have hplane : Reachable (fun first => first = session.plane table)
        (Guarded Adding Dataplane.Step) plane := by
      refine Reachable.mono ?_ (Reachable.replay (.start ?_) hturns)
      · rintro state move next ⟨hturn, hstep⟩
        cases move with
        | turn => exact ⟨trivial, hstep⟩
        | _ => cases hturn
      · rfl
    have hdrains : session.Drains (session.drained plane) := by
      rw [Drains, hstart, hm]
      exact ⟨plane, frames, hplane, hc, rfl⟩
    have hseparate : session.tx.Separate := by
      intro _ _ hfst hsnd
      cases havail.symm.trans hfst
      cases hu.symm.trans hsnd
      exact hapart
    have hdrain : Guarded Orderly (Step id) session (.drain 0)
        ((session.drained plane).moveTo 0 .delivering) :=
      ⟨hseparate, ⟨kick, .draining⟩, _, ⟨by rw [hpump]; rfl, rfl⟩, hdrains, rfl⟩
    have hdeliver : Guarded Orderly (Step id)
        ((session.drained plane).moveTo 0 .delivering) (.deliver 0)
        (((session.drained plane).moveTo 0 .delivering).moveTo 0 .reading) := by
      refine ⟨trivial, ⟨kick, .delivering⟩, ⟨?_, rfl⟩, rfl⟩
      simp [moveTo, drained, hpump]
    exact (h.next hdrain).next hdeliver
  · cases hrun

/-- The file of the pump that drains the chain is closed; the next one sleeps. -/
theorem one_alert_pump_handedOver :
    ∃ session, Reachable Initial (Guarded Orderly (Step id)) session ∧
      session.tx.started = true ∧ session.pumps = [⟨5, .reading⟩] ∧ 4 ∈ session.closed ∧
      session.tx.lastAvail = 1 ∧
      ∃ pump ∈ session.pumps, pump.phase ≠ .reading ∨ pump.kick ∈ session.closed ∨
        session.pending (id pump.kick) = true ∨ session.owed = 0 := by
  obtain ⟨second, third, fourth, hdrained, hp, rfl, hsleeps, hp', hlive, havail, hu, hrest⟩ :
      ∃ second third fourth, (attended 5).pumped 2 = some second ∧
        second.pumps = [⟨4, .reading⟩] ∧ (second.moveTo 0 .exiting).handOver 0 = third ∧
        third.pumped 1 = some fourth ∧ third.pumps = [⟨5, .draining⟩] ∧
        third.tx.started = true ∧ third.tx.avail = some ⟨64, 10⟩ ∧
        third.tx.used = some ⟨128, 22⟩ ∧ fourth.tx.started = true ∧
        fourth.pumps = [⟨5, .reading⟩] ∧ 4 ∈ fourth.closed ∧ fourth.tx.lastAvail = 1 :=
    ⟨_, _, _, rfl, rfl, rfl, rfl, rfl, rfl, rfl, rfl, rfl, rfl, by decide, rfl⟩
  have hreach := reachable_pumped reachable_attended rfl rfl rfl rfl (by decide) hdrained
  have hfails : Guarded Orderly (Step id) second (.readFails 0) (second.moveTo 0 .exiting) :=
    ⟨trivial, ⟨4, .reading⟩, ⟨by rw [hp]; rfl, rfl⟩, rfl⟩
  have hexit : Guarded Orderly (Step id) (second.moveTo 0 .exiting) (.exit 0)
      ((second.moveTo 0 .exiting).handOver 0) := by
    refine ⟨trivial, ⟨4, .exiting⟩, ⟨?_, rfl⟩, rfl⟩
    simp [moveTo, hp]
  have hlater := reachable_pumped ((hreach.next hfails).next hexit) hp' hlive havail hu
    (by decide) hsleeps
  obtain ⟨hstart, hpumps, hfile, hlast⟩ := hrest
  exact ⟨fourth, hlater, hstart, hpumps, hfile, hlast, (one_alert_pump hlater).2.2 hstart⟩

end Session

end GvSwitch.VhostUser
