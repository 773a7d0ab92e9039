import GvSwitch.VhostUser.Conservation
import GvSwitch.VhostUser.Safety

/-!
# What a control message does to a ring

A message that `handle` accepts keeps a ring, stops it, or sets one of its
parameters.  One that is rejected changes nothing, except a SET_VRING_ADDR: each
range it names is assigned before the next one is looked at, and what was
assigned stays when a later range does not resolve.
-/

namespace GvSwitch.VhostUser

open Foundation NetDevice

/-! ## Rings that are kept -/

/-- Size, slices and indices are the same; a ring that was started has slices. -/
structure SameCore (ring after : Vring) : Prop where
  num : after.num = ring.num
  desc : after.desc = ring.desc
  avail : after.avail = ring.avail
  used : after.used = ring.used
  lastAvail : after.lastAvail = ring.lastAvail
  usedIdx : after.usedIdx = ring.usedIdx
  started : after.started = true → ring.started = true ∨ ring.desc.isSome = true

theorem SameCore.refl (ring : Vring) : SameCore ring ring :=
  ⟨rfl, rfl, rfl, rfl, rfl, rfl, .inl⟩

theorem SameCore.trans {ring between after : Vring} (h : SameCore ring between)
    (h' : SameCore between after) : SameCore ring after := by
  refine ⟨h'.num.trans h.num, h'.desc.trans h.desc, h'.avail.trans h.avail,
    h'.used.trans h.used, h'.lastAvail.trans h.lastAvail, h'.usedIdx.trans h.usedIdx, ?_⟩
  intro hstart
  rcases h'.started hstart with hb | hmapped
  · exact h.started hb
  · exact .inr (h.desc ▸ hmapped)

theorem sameCore_evalRingLocked (device : NetDevice) (index : RingIndex) (ring : Vring) :
    SameCore ring (device.evalRingLocked index ring).1 := by
  rcases device.evalRingLocked_cases index ring with hs | ⟨kick, -, hdesc, -, heval⟩
  · rw [hs]
    exact .refl ring
  have hstarts (after : Vring) (ha : after = { ring with
      started := true, pumpRunning := after.pumpRunning }) : SameCore ring after := by
    rw [ha]
    exact ⟨rfl, rfl, rfl, rfl, rfl, rfl, fun _ => .inr hdesc⟩
  rw [heval]
  split_ifs
  · exact hstarts _ rfl
  · exact hstarts _ rfl
  · exact hstarts _ rfl

section Rings

variable (device : NetDevice) (index : RingIndex)

@[simp]
theorem NetDevice.setRing_rings_self (ring : Vring) :
    (device.setRing index ring).rings index = ring := by
  simp [setRing]

theorem NetDevice.setRing_rings_of_ne {other : RingIndex} (hne : other ≠ index)
    (ring : Vring) : (device.setRing index ring).rings other = device.rings other := by
  simp [setRing, Function.update_of_ne hne]

theorem sameCore_setRing {ring : Vring} (h : SameCore (device.rings index) ring)
    (other : RingIndex) :
    SameCore (device.rings other) ((device.setRing index ring).rings other) := by
  by_cases hs : other = index
  · subst hs
    rw [device.setRing_rings_self]
    exact h
  · rw [device.setRing_rings_of_ne index hs]
    exact .refl _

theorem sameCore_evalRing (other : RingIndex) :
    SameCore (device.rings other) ((device.evalRing index).1.rings other) :=
  sameCore_setRing device index (sameCore_evalRingLocked device index _) other

end Rings

/-! ## Accepted messages -/

/-- What an accepted message does to one ring. -/
inductive Adjusted (device : NetDevice) (message : Message) (runtime : Runtime)
    (index : RingIndex) (after : NetDevice) : Prop
  | kept (hmem : device.mem = none ∨ after.mem = device.mem)
      (hcore : SameCore (device.rings index) (after.rings index))
  | stopped (hcore : SameCore (NetDevice.stopRingLocked (device.rings index)).1
      (after.rings index))
  | resized (code num : UInt32) (hmem : after.mem = device.mem)
      (hrequest : Request.ofCode message.req = some .setVringNum)
      (hpayload : vringStatePayload message.payload = .ok (code, num))
      (hindex : device.ring code = some index)
      (hring : after.rings index = { device.rings index with num := num })
  | rebased (code base : UInt32) (hmem : after.mem = device.mem)
      (hrequest : Request.ofCode message.req = some .setVringBase)
      (hpayload : vringStatePayload message.payload = .ok (code, base))
      (hindex : device.ring code = some index)
      (hring : after.rings index = { device.rings index with lastAvail := base.toUInt16 })
  | mapped (addr : VringAddr) (mem : MemTable) (ring : Vring) (hmem : after.mem = device.mem)
      (hrequest : Request.ofCode message.req = some .setVringAddr)
      (haddresses : device.Addresses message.payload addr index mem)
      (hmap : NetDevice.mapRing runtime.host mem (device.rings index) addr = some (ring, none))
      (hcore : SameCore ring (after.rings index))

section Answers

variable {device : NetDevice} {message : Message} {runtime : Runtime} {answer : Answer}

theorem adjusted_setRing {index : RingIndex} {ring : Vring}
    (h : Adjusted device message runtime index (device.setRing index ring))
    (other : RingIndex) :
    Adjusted device message runtime other (device.setRing index ring) := by
  by_cases hs : other = index
  · subst hs
    exact h
  refine .kept (.inr rfl) ?_
  rw [device.setRing_rings_of_ne index hs]
  exact .refl _

theorem adjusted_process (h : device.process message runtime = some answer)
    (herr : answer.err = none) (other : RingIndex) :
    Adjusted device message runtime other answer.device := by
  cases processed_process h with
  | refused reason regions _ | misplaced addr index mem ring reason _ _ _ => cases herr
  | kept after reply hrings hm =>
    refine .kept (.inr hm) ?_
    change SameCore _ (after.rings other)
    rw [hrings]
    exact .refl _
  | reset => exact .stopped (.refl _)
  | installed table =>
    have heval (stopped : NetDevice) : SameCore (stopped.rings other)
        (((stopped.evalRing 0).1.evalRing 1).1.rings other) :=
      (sameCore_evalRing stopped 0 other).trans (sameCore_evalRing _ 1 other)
    unfold installMemTable
    cases hm : device.mem with
    | none => exact .kept (.inl hm) (heval { device with mem := some table })
    | some old => exact .stopped (heval { device.stopRings.1 with mem := some table })
  | resized code num index hreq hpay hidx _ =>
    refine adjusted_setRing (.resized code num rfl hreq hpay hidx ?_) other
    exact device.setRing_rings_self index _
  | rebased code base index hreq hpay hidx =>
    refine adjusted_setRing (.rebased code base rfl hreq hpay hidx ?_) other
    exact device.setRing_rings_self index _
  | stopped index reply =>
    refine adjusted_setRing (.stopped ?_) other
    rw [device.setRing_rings_self]
    exact .refl _
  | mapped addr index mem ring hreq haddrs hmap =>
    have heval := sameCore_evalRing (device.setRing index ring) index other
    by_cases hs : other = index
    · subst hs
      rw [device.setRing_rings_self] at heval
      exact .mapped addr mem ring rfl hreq haddrs hmap heval
    · rw [device.setRing_rings_of_ne index hs] at heval
      exact .kept (.inr rfl) heval
  | wired isKick index fd rest hfds =>
    refine .kept (.inr rfl) ((sameCore_setRing device index ?_ other).trans
      (sameCore_evalRing _ index other))
    unfold replaceFD
    split
    · refine ⟨rfl, rfl, rfl, rfl, rfl, rfl, fun hstart => .inl ?_⟩
      dsimp only at hstart
      split at hstart
      · cases hstart
      · exact hstart
    · exact ⟨rfl, rfl, rfl, rfl, rfl, rfl, .inl⟩
  | paused index enabled =>
    refine .kept (.inr rfl) (sameCore_setRing device index ?_ other)
    exact ⟨rfl, rfl, rfl, rfl, rfl, rfl, fun hstart => nomatch hstart⟩
  | enabled index enabled =>
    refine .kept (.inr rfl) ((sameCore_setRing device index ?_ other).trans
      (sameCore_evalRing _ index other))
    exact ⟨rfl, rfl, rfl, rfl, rfl, rfl, .inl⟩

/-! ## Whole messages -/

variable {after : NetDevice} {effects : List Effect}

/-- The error of the request is returned unless a reply is sent instead. -/
theorem handle_cases {err : Option HandleError}
    (h : device.handle message runtime = some (after, effects, err))
    (hsent : err ≠ some .replyFailed) :
    ∃ answer, device.process message runtime = some answer ∧ answer.device = after ∧
      (err = answer.err ∨ (err = none ∧ answer.reply ≠ none)) := by
  unfold handle at h
  split at h
  · cases h
  rename_i answer hprocess
  cases h
  refine ⟨answer, hprocess, rfl, ?_⟩
  unfold respond at hsent ⊢
  dsimp only at hsent ⊢
  cases hreply : answer.reply with
  | some payload =>
    rw [hreply] at hsent
    cases hrun : runtime.replySent with
    | true => exact .inr ⟨by simp, by simp⟩
    | false => simp [hrun] at hsent
  | none =>
    rw [hreply] at hsent
    dsimp only at hsent ⊢
    split
    · cases hrun : runtime.replySent with
      | true => exact .inl (by simp)
      | false =>
        rename_i hneeded
        simp [hrun, hneeded] at hsent
    · exact .inl rfl

theorem reply_of_rejected (h : device.process message runtime = some answer)
    (herr : answer.err ≠ none) : answer.reply = none := by
  cases processed_process h with
  | refused reason regions _ | misplaced addr index mem ring reason _ _ _ => rfl
  | _ => exact absurd rfl herr

theorem adjusted_handle (h : device.handle message runtime = some (after, effects, none))
    (index : RingIndex) : Adjusted device message runtime index after := by
  obtain ⟨answer, hprocess, rfl, herr⟩ := handle_cases h (fun hnone => nomatch hnone)
  refine adjusted_process hprocess ?_ index
  rcases herr with herr | ⟨-, hreply⟩
  · exact herr.symm
  · by_contra hrejected
    exact hreply (reply_of_rejected hprocess hrejected)

/-! ## Rejected messages -/

open Dataplane in
/-- What is assigned up to the first range that does not resolve differs from
what the ring had. -/
def MemTable.Misplaces (mem : MemTable) (ring : Vring) (addr : VringAddr) : Prop :=
  match value? (mem.uvaSlice addr.desc (ring.num.toUInt64 * 16)) with
  | none => ring.desc ≠ none
  | some desc =>
    match value? (mem.uvaSlice addr.avail (4 + ring.num.toUInt64 * 2 + 2)) with
    | none => ring.desc ≠ some desc ∨ ring.avail ≠ none
    | some avail =>
      match value? (mem.uvaSlice addr.used (4 + ring.num.toUInt64 * 8 + 2)) with
      | none => ring.desc ≠ some desc ∨ ring.avail ≠ some avail ∨ ring.used ≠ none
      | some _ => False

theorem mapRing_eq_self_iff {host : Host} {mem : MemTable} {ring changed : Vring}
    {addr : VringAddr} {reason : HandleError}
    (h : mapRing host mem ring addr = some (changed, some reason)) :
    changed = ring ↔ ¬ mem.Misplaces ring addr := by
  unfold MemTable.Misplaces
  rcases mapRing_cases h with
    ⟨failure, hdesc, rfl, -⟩ | ⟨desc, hdesc, ⟨failure, havail, rfl, -⟩ | ⟨avail, havail,
      ⟨failure, hu, rfl, -⟩ | ⟨used, -, -, hnone⟩⟩⟩
  · simp only [hdesc, Dataplane.value?, not_not]
    refine ⟨fun heq => (congrArg Vring.desc heq).symm, fun hs => ?_⟩
    rw [← hs]
  · simp only [hdesc, havail, Dataplane.value?, not_or, not_not]
    refine ⟨fun heq => ⟨(congrArg Vring.desc heq).symm, (congrArg Vring.avail heq).symm⟩, ?_⟩
    rintro ⟨hs, hs'⟩
    rw [← hs, ← hs']
  · simp only [hdesc, havail, hu, Dataplane.value?, not_or, not_not]
    refine ⟨fun heq => ⟨(congrArg Vring.desc heq).symm, (congrArg Vring.avail heq).symm,
      (congrArg Vring.used heq).symm⟩, ?_⟩
    rintro ⟨hs, hs', hs''⟩
    rw [← hs, ← hs', ← hs'']
  · cases hnone

/-- A SET_VRING_ADDR that fails after it has changed the ring it names. -/
def NetDevice.Misplaced (device : NetDevice) (message : Message) : Prop :=
  Request.ofCode message.req = some .setVringAddr ∧
    ∃ addr index mem, device.Addresses message.payload addr index mem ∧
      mem.Misplaces (device.rings index) addr

/-- A rejected message leaves all rings and the memory table as they were, unless
it is a SET_VRING_ADDR that fails half-way. -/
theorem rejection_keeps_rings_iff {err : HandleError}
    (h : device.handle message runtime = some (after, effects, some err))
    (hsent : err ≠ .replyFailed) :
    (after.rings = device.rings ∧ after.mem = device.mem) ↔ ¬ device.Misplaced message := by
  obtain ⟨answer, hprocess, rfl, herr⟩ := handle_cases h (by simpa using hsent)
  have hfailed : answer.err ≠ none := by
    rcases herr with heq | ⟨hnone, -⟩
    · rw [← heq]
      exact Option.some_ne_none err
    · cases hnone
  cases processed_process hprocess with
  | refused reason regions hnowhere =>
    refine iff_of_true ⟨rfl, rfl⟩ ?_
    rintro ⟨hreq, addr, index, mem, haddrs, -⟩
    exact hnowhere hreq addr index mem haddrs
  | misplaced addr index mem ring reason hreq haddrs hmap =>
    have hself : Function.update device.rings index ring = device.rings ↔
        ring = device.rings index := Function.update_eq_self_iff
    have hring := hself.trans (mapRing_eq_self_iff hmap)
    constructor
    · rintro ⟨hrings, -⟩ ⟨-, other, found, table, ho, hmisplaces⟩
      cases haddrs.parsed.symm.trans ho.parsed
      cases haddrs.ring.symm.trans ho.ring
      cases haddrs.mem.symm.trans ho.mem
      exact hring.mp hrings hmisplaces
    · intro hpl
      refine ⟨hring.mpr fun hmisplaces => hpl ?_, rfl⟩
      exact ⟨hreq, addr, index, mem, haddrs, hmisplaces⟩
  | _ => exact absurd rfl hfailed

end Answers

/-- The descriptor table of a ring that has none yet lies beyond the memory. -/
def strayTable : Message :=
  ⟨9, 1, putLE64 0 ++ putLE64 8192 ++ putLE64 128 ++ putLE64 64 ++ putLE64 0, []⟩

theorem rejection_keeps_rings_iff_unmapped :
    ∃ after effects reason, sizedDevice.handle strayTable plainRuntime =
        some (after, effects, some (.descTable reason)) ∧ (sizedDevice.rings 0).num = 2 ∧
      after.rings = sizedDevice.rings ∧ after.mem = sizedDevice.mem := by
  obtain ⟨after, effects, reason, hrejected⟩ : ∃ after effects reason,
      sizedDevice.handle strayTable plainRuntime =
        some (after, effects, some (.descTable reason)) := ⟨_, _, _, rfl⟩
  refine ⟨after, effects, reason, hrejected, rfl,
    (rejection_keeps_rings_iff hrejected HandleError.noConfusion).mpr ?_⟩
  rintro ⟨-, addr, index, mem, haddrs, hmisplaces⟩
  have hparse : parseVringAddr strayTable.payload = .ok ⟨0, 0, 8192, 128, 64, 0⟩ := rfl
  cases hparse.symm.trans haddrs.parsed
  cases haddrs.ring
  cases haddrs.mem
  exact hmisplaces rfl

/-- The available ring lies beyond the shared memory.  The ring stays started
without one, and the next entry taken from it panics. -/
theorem misplaced_ring_panics :
    Reachable NetDevice.Initial NetDevice.Step kickedDevice ∧
      (kickedDevice.rings 0).started = true ∧ (kickedDevice.rings 0).avail = some ⟨64, 10⟩ ∧
      ∃ after effects reason, kickedDevice.handle
          ⟨9, 1, putLE64 0 ++ putLE64 0 ++ putLE64 128 ++ putLE64 8192 ++ putLE64 0, []⟩
          plainRuntime = some (after, effects, some (.availRing reason)) ∧
        (after.rings 0).started = true ∧ (after.rings 0).avail = none ∧
        ((after.rings 0).popAvail plainRuntime.host : Outcome Empty _) = .panic :=
  ⟨reachable_kickedDevice.mono fun _ _ _ hstep => hstep.2, rfl, rfl, _, _, _, rfl, rfl, rfl,
    rfl⟩

end GvSwitch.VhostUser
