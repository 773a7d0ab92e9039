import GvSwitch.Foundation.Runs
import GvSwitch.VhostUser.Device
import Mathlib.Data.Nat.Bitwise

/-!
# Safety of started rings

The accesses to a ring rely on the lengths of its three slices, which were
fixed when the addresses were set and follow from the ring size at that time.
SET_VRING_NUM changes the ring size and keeps the slices, and a SET_VRING_ADDR
that fails half-way keeps a started ring started.  Apart from these two, every
message keeps ring size and slices together.
-/

namespace GvSwitch.VhostUser

open Foundation NetDevice MemTable

/-! ## Safe accesses -/

structure Fitted (ring : Vring) : Prop where
  desc : sliceLen ring.desc = 16 * ring.num.toNat
  avail : sliceLen ring.avail = 4 + 2 * ring.num.toNat + 2
  used : sliceLen ring.used = 4 + 8 * ring.num.toNat + 2

structure RingSafe (device : NetDevice) (ring : Vring) : Prop where
  mem : device.mem.isSome = true
  kick : ring.kick.isSome = true
  num : ∃ exponent, exponent ≤ 15 ∧ ring.num.toNat = 2 ^ exponent
  fitted : Fitted ring

structure InRange (ring : Vring) : Prop where
  descAt : ∀ host index, ring.descAt host index ≠ .panic
  availEntry : ∀ host index,
    (ring.availEntry host index : Outcome ChainError UInt16) ≠ .panic
  setUsedElem : ∀ host slot head written,
    (ring.setUsedElem host slot head written : Outcome ChainError Host) ≠ .panic
  publishUsed : ∀ host count,
    (ring.publishUsed host count : Outcome ChainError (Vring × Host)) ≠ .panic
  popAvail : ∀ host,
    (ring.popAvail host : Outcome ChainError (Option (UInt16 × Vring))) ≠ .panic

theorem within_of_le {ε : Type} {slice : Option Slice} {offset count : Nat}
    (hcount : 0 < count) (h : offset + count ≤ sliceLen slice) :
    ∃ found, slice = some found ∧ (within slice offset count : Outcome ε Slice) = .ok found := by
  cases slice with
  | none =>
    simp only [sliceLen, Option.map_none, Option.getD_none] at h
    omega
  | some found =>
    refine ⟨found, rfl, ?_⟩
    simp only [sliceLen, Option.map_some, Option.getD_some] at h
    simp [within, h]

theorem Vring.slot_lt {ε : Type} {ring : Vring} (hnum : ring.num ≠ 0) (index : UInt32) :
    ∃ position, (ring.slot index : Outcome ε Nat) = .ok position ∧
      position < ring.num.toNat := by
  refine ⟨(index % ring.num).toNat, by simp [Vring.slot, hnum], ?_⟩
  refine Nat.mod_lt _ (Nat.pos_of_ne_zero fun hzero => hnum ?_)
  exact UInt32.toNat_inj.mp hzero

section Fitted

variable {ε : Type} {ring : Vring}

theorem Fitted.descAt (h : Fitted ring) (host : Host) {index : UInt16}
    (hidx : index.toNat < ring.num.toNat) :
    ∃ descriptor, ring.descAt host index = .ok descriptor := by
  obtain ⟨slice, -, hsl⟩ := @within_of_le ChainError ring.desc (index.toNat * descSize)
    descSize (by decide) (by rw [h.desc]; unfold descSize; omega)
  unfold Vring.descAt
  rw [if_neg]
  · exact ⟨_, by simp only [hsl, Outcome.bind_ok]; rfl⟩
  · rw [UInt32.le_iff_toNat_le, UInt16.toNat_toUInt32]
    omega

theorem Fitted.availIdx (h : Fitted ring) (host : Host) :
    ∃ index, (ring.availIdx host : Outcome ε UInt16) = .ok index := by
  obtain ⟨slice, -, hsl⟩ := @within_of_le ε ring.avail 0 1 (by decide)
    (by rw [h.avail]; omega)
  exact ⟨_, by simp only [Vring.availIdx, atomicLoadU32, headOf, hsl, Outcome.bind_ok]; rfl⟩

theorem Fitted.availEntry (h : Fitted ring) (hnum : ring.num ≠ 0) (host : Host)
    (index : UInt16) :
    ∃ entry, (ring.availEntry host index : Outcome ε UInt16) = .ok entry := by
  obtain ⟨position, hslot, hlt⟩ := @Vring.slot_lt ε ring hnum index.toUInt32
  obtain ⟨slice, -, hsl⟩ := @within_of_le ε ring.avail (4 + 2 * position) 2
    (by decide) (by rw [h.avail]; omega)
  exact ⟨_, by simp only [Vring.availEntry, hslot, hsl, Outcome.bind_ok]; rfl⟩

theorem Fitted.setUsedElem (h : Fitted ring) (hnum : ring.num ≠ 0) (host : Host)
    (slot head : UInt16) (written : UInt32) :
    ∃ after, (ring.setUsedElem host slot head written : Outcome ε Host) = .ok after := by
  obtain ⟨position, hslot, hlt⟩ := @Vring.slot_lt ε ring hnum
    (ring.usedIdx.toUInt32 + slot.toUInt32)
  obtain ⟨first, -, hfst⟩ := @within_of_le ε ring.used (4 + 8 * position) 4
    (by decide) (by rw [h.used]; omega)
  obtain ⟨second, -, hsnd⟩ := @within_of_le ε ring.used (4 + 8 * position + 4) 4
    (by decide) (by rw [h.used]; omega)
  exact ⟨_, by simp only [Vring.setUsedElem, hslot, hfst, hsnd, Outcome.bind_ok]; rfl⟩

theorem Fitted.publishUsed (h : Fitted ring) (host : Host) (count : UInt16) :
    ∃ result, (ring.publishUsed host count : Outcome ε (Vring × Host)) = .ok result := by
  obtain ⟨slice, -, hsl⟩ := @within_of_le ε ring.used 0 1 (by decide)
    (by rw [h.used]; omega)
  exact ⟨_, by simp only [Vring.publishUsed, headOf, hsl, Outcome.bind_ok]; rfl⟩

theorem Fitted.inRange (h : Fitted ring) (hnum : ring.num ≠ 0) : InRange ring := by
  constructor
  · intro host index
    by_cases hidx : index.toNat < ring.num.toNat
    · obtain ⟨descriptor, hdescriptor⟩ := h.descAt host hidx
      rw [hdescriptor]
      simp
    unfold Vring.descAt
    rw [if_pos]
    · simp
    · rw [UInt32.le_iff_toNat_le, UInt16.toNat_toUInt32]
      omega
  · intro host index
    obtain ⟨entry, he⟩ := @Fitted.availEntry ChainError ring h hnum host index
    rw [he]
    simp
  · intro host slot head written
    obtain ⟨after, ha⟩ := @Fitted.setUsedElem ChainError ring h hnum host slot head written
    rw [ha]
    simp
  · intro host count
    obtain ⟨result, hres⟩ := @Fitted.publishUsed ChainError ring h host count
    rw [hres]
    simp
  · intro host
    obtain ⟨index, hidx⟩ := @Fitted.availIdx ChainError ring h host
    obtain ⟨entry, he⟩ := @Fitted.availEntry ChainError ring h hnum host ring.lastAvail
    simp only [Vring.popAvail, hidx, he, Outcome.bind_ok, Outcome.pure_eq_ok]
    split <;> simp

end Fitted

/-! ## Ring sizes -/

private theorem isPowerOfTwo_of_and (value : Nat) (hpos : 0 < value)
    (hand : value &&& (value - 1) = 0) : ∃ exponent, value = 2 ^ exponent := by
  induction value using Nat.strong_induction_on with
  | _ value ih =>
    rcases Nat.even_or_odd' value with ⟨half, hhalf | hhalf⟩
    · -- An even value: halve it.
      have hhalfPos : 0 < half := by omega
      have hbits : half &&& (half - 1) = 0 := by
        refine Nat.eq_of_testBit_eq fun index => ?_
        have hbit := congrArg (Nat.testBit · (index + 1)) hand
        have hvalue : value / 2 = half := by omega
        have hpred : (value - 1) / 2 = half - 1 := by omega
        simp only [Nat.testBit_and] at hbit ⊢
        simpa only [Nat.testBit_add_one, hvalue, hpred, Nat.zero_div] using hbit
      obtain ⟨exponent, hexponent⟩ := ih half (by omega) hhalfPos hbits
      exact ⟨exponent + 1, by rw [hhalf, hexponent, Nat.pow_succ]; omega⟩
    · -- An odd value keeps all its bits but the lowest.
      have hzero : half = 0 := by
        refine Nat.eq_of_testBit_eq fun index => ?_
        have hbit := congrArg (Nat.testBit · (index + 1)) hand
        have hvalue : value / 2 = half := by omega
        have hpred : (value - 1) / 2 = half := by omega
        simp only [Nat.testBit_and] at hbit
        simpa only [Nat.testBit_add_one, hvalue, hpred, Nat.zero_div,
          Bool.and_self] using hbit
      exact ⟨0, by omega⟩

theorem validNum_power {num : UInt32} (h : validNum num = true) :
    ∃ exponent, exponent ≤ 15 ∧ num.toNat = 2 ^ exponent := by
  simp only [validNum, Bool.and_eq_true, decide_eq_true_eq, beq_iff_eq] at h
  obtain ⟨⟨hpos, hmax⟩, hand⟩ := h
  have hpos' : 0 < num.toNat := by
    simpa [UInt32.lt_iff_toNat_lt] using hpos
  have hmax' : num.toNat ≤ 32768 := by
    simpa [UInt32.le_iff_toNat_le] using hmax
  have hand' : num.toNat &&& (num.toNat - 1) = 0 := by
    have hbits := congrArg UInt32.toNat hand
    have hone : (1 : UInt32) ≤ num := UInt32.le_iff_toNat_le.mpr hpos'
    rw [UInt32.toNat_and, UInt32.toNat_sub_of_le _ _ hone] at hbits
    simpa using hbits
  obtain ⟨exponent, hexponent⟩ := isPowerOfTwo_of_and num.toNat hpos' hand'
  refine ⟨exponent, ?_, hexponent⟩
  by_contra hlarge
  have hpower : 2 ^ 16 ≤ 2 ^ exponent := Nat.pow_le_pow_right (by decide) (by omega)
  omega

/-! ## The invariant -/

/-- Ring size and slices belong together; a started ring has both slices and a
kick descriptor. -/
structure Coherent (present : Bool) (ring : Vring) : Prop where
  num : ring.num = 0 ∨ NetDevice.validNum ring.num = true
  mapped : ring.desc.isSome = true → present = true ∧ ring.num ≠ 0 ∧ Fitted ring
  started : ring.started = true → ring.desc.isSome = true ∧ ring.kick.isSome = true

def Sound (device : NetDevice) : Prop :=
  ∀ index, Coherent device.mem.isSome (device.rings index)

/-! ## What each part of a call keeps -/

section Parts

variable {present : Bool} {ring : Vring}

theorem Coherent.stop (h : Coherent present ring) (present' : Bool) :
    Coherent present' (stopRingLocked ring).1 := by
  refine ⟨h.num, ?_, ?_⟩
  · intro hdesc
    cases hdesc
  · intro hstart
    cases hstart

theorem Coherent.frame (h : Coherent present ring) {after : Vring}
    (hslices : after.num = ring.num ∧ after.desc = ring.desc ∧
      after.avail = ring.avail ∧ after.used = ring.used)
    (hstart : after.started = true → ring.desc.isSome = true ∧ after.kick.isSome = true) :
    Coherent present after := by
  obtain ⟨hnum, hdesc, havail, hu⟩ := hslices
  constructor
  · rw [hnum]
    exact h.num
  · rw [hnum, hdesc]
    intro hmapped
    obtain ⟨hpres, hsize, hfitted⟩ := h.mapped hmapped
    refine ⟨hpres, hsize, ?_, ?_, ?_⟩
    · rw [hdesc, hnum]
      exact hfitted.desc
    · rw [havail, hnum]
      exact hfitted.avail
    · rw [hu, hnum]
      exact hfitted.used
  · rw [hdesc]
    exact hstart

variable {device : NetDevice}

theorem Coherent.evalRingLocked {ring : Vring}
    (h : Coherent device.mem.isSome ring) (index : RingIndex) :
    Coherent device.mem.isSome (device.evalRingLocked index ring).1 := by
  rcases device.evalRingLocked_cases index ring with hs | ⟨kick, -, hdesc, hkick, heval⟩
  · rw [hs]
    exact h
  have hstarts (after : Vring) (ha : after = { ring with
      started := true, pumpRunning := after.pumpRunning }) :
      Coherent device.mem.isSome after := by
    rw [ha]
    exact h.frame ⟨rfl, rfl, rfl, rfl⟩ fun _ => ⟨hdesc, by rw [hkick]; rfl⟩
  rw [heval]
  split_ifs
  · exact hstarts _ rfl
  · exact hstarts _ rfl
  · exact hstarts _ rfl

end Parts

theorem Sound.setRing (h : Sound device) (index : RingIndex) {ring : Vring}
    (hring : Coherent device.mem.isSome ring) : Sound (device.setRing index ring) := by
  intro other
  by_cases hs : other = index
  · subst hs
    simpa [NetDevice.setRing] using hring
  · simpa [NetDevice.setRing, Function.update_of_ne hs] using h other

theorem Sound.evalRing (h : Sound device) (index : RingIndex) :
    Sound (device.evalRing index).1 :=
  h.setRing index ((h index).evalRingLocked index)

theorem Sound.stopRings (h : Sound device) (mem : Option MemTable) :
    Sound { device.stopRings.1 with mem := mem } :=
  fun index => (h index).stop mem.isSome

/-! ## Mapping a ring -/

structure MemTable.CoversRing (mem : MemTable) (num : Nat) (addr : VringAddr) : Prop where
  desc : mem.Covers addr.desc (16 * num)
  avail : mem.Covers addr.avail (4 + 2 * num + 2)
  used : mem.Covers addr.used (4 + 8 * num + 2)

private theorem ringSizes (num : UInt32) :
    (num.toUInt64 * 16).toNat = 16 * num.toNat ∧
      (4 + num.toUInt64 * 2 + 2).toNat = 4 + 2 * num.toNat + 2 ∧
      (4 + num.toUInt64 * 8 + 2).toNat = 4 + 8 * num.toNat + 2 := by
  have hbound := num.toNat_lt
  simp only [UInt64.toNat_add, UInt64.toNat_mul, UInt32.toNat_toUInt64, UInt64.reduceToNat]
  omega

private theorem ne_zero_of_toNat {size : UInt64} {value : Nat} (h : size.toNat = value)
    (hpos : 0 < value) : size ≠ 0 := by
  rintro rfl
  simp at h
  omega

section Mapping

variable {host : Host} {mem : MemTable} {ring after : Vring} {addr : VringAddr}
  {err : Option HandleError}

theorem coherent_mapRing (h : Coherent true ring) (hnum : ring.num ≠ 0)
    (hcov : mem.CoversRing ring.num.toNat addr)
    (hmap : mapRing host mem ring addr = some (after, err)) :
    Coherent true after ∧ err = none := by
  have hpos : 0 < ring.num.toNat :=
    Nat.pos_of_ne_zero fun hzero => hnum (UInt32.toNat_inj.mp hzero)
  obtain ⟨hdescSize, havailSize, husedSize⟩ := ringSizes ring.num
  have hdesc := uvaSlice_ne_error (ne_zero_of_toNat hdescSize (by omega))
    (hdescSize ▸ hcov.desc)
  have havail := uvaSlice_ne_error (ne_zero_of_toNat havailSize (by omega))
    (havailSize ▸ hcov.avail)
  have hu := uvaSlice_ne_error (ne_zero_of_toNat husedSize (by omega))
    (husedSize ▸ hcov.used)
  rcases mapRing_cases hmap with
    ⟨reason, hfailed, -⟩ | ⟨desc, hdescEq, ⟨reason, hfailed, -⟩ | ⟨avail, havailEq,
      ⟨reason, hfailed, -⟩ | ⟨used, husedEq, rfl, rfl⟩⟩⟩
  · exact absurd hfailed (hdesc reason)
  · exact absurd hfailed (havail reason)
  · exact absurd hfailed (hu reason)
  refine ⟨⟨h.num, fun _ => ⟨rfl, hnum, ?_⟩, fun hstart => ?_⟩, rfl⟩
  · exact ⟨(len_uvaSlice hdescEq).trans hdescSize,
      (len_uvaSlice havailEq).trans havailSize,
      (len_uvaSlice husedEq).trans husedSize⟩
  · exact ⟨rfl, (h.started hstart).2⟩

theorem mapRing_uncovered (hcov : ¬ mem.Covers addr.desc (16 * ring.num.toNat))
    (hmap : mapRing host mem ring addr = some (after, err)) :
    after = { ring with desc := none } ∧ err.isSome = true := by
  obtain ⟨hdescSize, -, -⟩ := ringSizes ring.num
  rcases mapRing_cases hmap with ⟨reason, -, rfl, rfl⟩ | ⟨desc, hdesc, -⟩
  · exact ⟨rfl, rfl⟩
  · exact absurd (hdescSize ▸ covers_of_uvaSlice hdesc) hcov

end Mapping

/-! ## The condition on the front-end -/

/-- SET_VRING_NUM leaves the size of a ring with slices alone. -/
def KeepsSize (device : NetDevice) (payload : Bytes) : Prop :=
  ∀ index num ring, vringStatePayload payload = .ok (index, num) →
    device.ring index = some ring → NetDevice.validNum num = true →
      (device.rings ring).desc = none ∨ (device.rings ring).num = num

/-- SET_VRING_ADDR succeeds as a whole, or fails at once on a ring that is not
started. -/
def AddressesRing (device : NetDevice) (payload : Bytes) : Prop :=
  ∀ addr index mem, parseVringAddr payload = .ok addr →
    device.ring addr.index = some index → device.mem = some mem →
      (device.rings index).num ≠ 0 →
        mem.CoversRing (device.rings index).num.toNat addr ∨
          (device.rings index).started = false ∧
            ¬ mem.Covers addr.desc (16 * (device.rings index).num.toNat)

def WellBehavedMessage (device : NetDevice) (message : Message) : Prop :=
  match Request.ofCode message.req with
  | some .setVringNum => KeepsSize device message.payload
  | some .setVringAddr => AddressesRing device message.payload
  | _ => True

/-! ## Every request keeps the invariant -/

section Requests

variable {device : NetDevice} {message : Message}

theorem Sound.installMemTable (h : Sound device) (table : MemTable) :
    Sound (device.installMemTable table).1 := by
  refine Sound.evalRing (Sound.evalRing ?_ 0) 1
  cases hm : device.mem with
  | none =>
    -- Without a table no ring has slices.
    intro index
    have hring := h index
    rw [hm] at hring
    refine ⟨hring.num, fun hdesc => ?_, hring.started⟩
    exact absurd (hring.mapped hdesc).1 (by simp)
  | some old => exact h.stopRings (some table)

theorem Coherent.replaceFD {present : Bool} {ring : Vring} (h : Coherent present ring)
    (isKick : Bool) (fd : Option Nat) : Coherent present (replaceFD isKick ring fd).1 := by
  cases isKick with
  | false => exact h.frame ⟨rfl, rfl, rfl, rfl⟩ h.started
  | true =>
    refine h.frame ⟨rfl, rfl, rfl, rfl⟩ fun hstart => ?_
    -- Neither with nor without an old kick is the ring started now.
    cases hkick : ring.kick with
    | some old => simp [NetDevice.replaceFD, hkick] at hstart
    | none =>
      simp only [NetDevice.replaceFD, hkick, Option.isSome_none, if_true] at hstart
      have hsome := (h.started hstart).2
      simp [hkick] at hsome

theorem Sound.process (h : Sound device) (hbehaved : WellBehavedMessage device message)
    {runtime : Runtime} {answer : Answer}
    (hanswer : device.process message runtime = some answer) : Sound answer.device := by
  unfold WellBehavedMessage at hbehaved
  have hfr (index : RingIndex) {ring : Vring}
      (hslices : ring.num = (device.rings index).num ∧ ring.desc = (device.rings index).desc ∧
        ring.avail = (device.rings index).avail ∧ ring.used = (device.rings index).used)
      (hstart : ring.started = true → (device.rings index).desc.isSome = true ∧
        ring.kick.isSome = true) : Sound (device.setRing index ring) :=
    h.setRing index ((h index).frame hslices hstart)
  cases processed_process hanswer with
  | refused reason regions _ => exact h
  | kept after reply hrings hm =>
    intro index
    change Coherent after.mem.isSome (after.rings index)
    rw [hrings, hm]
    exact h index
  | reset => exact h.stopRings device.mem
  | installed table => exact h.installMemTable table
  | resized code num index hreq hpay hidx hval =>
    rw [hreq] at hbehaved
    refine h.setRing index ⟨.inr hval, fun hdesc => ?_, (h index).started⟩
    rcases hbehaved code num index hpay hidx hval with hnone | hs
    · simp [hnone] at hdesc
    · exact hs ▸ (h index).mapped hdesc
  | rebased code base index _ _ _ => exact hfr index ⟨rfl, rfl, rfl, rfl⟩ (h index).started
  | stopped index reply => exact h.setRing index ((h index).stop _)
  | misplaced addr index mem ring reason hreq haddrs hmap =>
    rw [hreq] at hbehaved
    obtain ⟨hpay, hidx, hm, hnum⟩ := haddrs
    rcases hbehaved addr index mem hpay hidx hm hnum with hcov | ⟨hidle, huncovered⟩
    · have hpres : device.mem.isSome = true := by simp [hm]
      cases (coherent_mapRing (hpres ▸ h index) hnum hcov hmap).2
    obtain ⟨rfl, -⟩ := mapRing_uncovered huncovered hmap
    refine h.setRing index ⟨(h index).num, fun hdesc => (nomatch hdesc), fun hstart => ?_⟩
    cases hidle.symm.trans hstart
  | mapped addr index mem ring hreq haddrs hmap =>
    rw [hreq] at hbehaved
    obtain ⟨hpay, hidx, hm, hnum⟩ := haddrs
    have hpres : device.mem.isSome = true := by simp [hm]
    rcases hbehaved addr index mem hpay hidx hm hnum with hcov | ⟨-, huncovered⟩
    · refine Sound.evalRing (h.setRing index ?_) index
      rw [hpres]
      exact (coherent_mapRing (hpres ▸ h index) hnum hcov hmap).1
    · cases (mapRing_uncovered huncovered hmap).2
  | wired isKick index fd rest hfds =>
    exact Sound.evalRing (h.setRing index ((h index).replaceFD isKick fd)) index
  | paused index enabled =>
    exact hfr index ⟨rfl, rfl, rfl, rfl⟩ fun hstart => nomatch hstart
  | enabled index enabled =>
    refine Sound.evalRing (hfr index ?_ ?_) index
    · exact ⟨rfl, rfl, rfl, rfl⟩
    · exact (h index).started

theorem Sound.handle (h : Sound device) (hbehaved : WellBehavedMessage device message)
    {runtime : Runtime} {result : NetDevice × List Effect × Option HandleError}
    (hres : device.handle message runtime = some result) : Sound result.1 := by
  unfold NetDevice.handle at hres
  split at hres
  · cases hres
  rename_i answer hanswer
  cases hres
  exact h.process hbehaved hanswer

end Requests

/-! ## Whole sessions -/

def WellBehaved (device : NetDevice) : Action → Prop
  | .message _ message => WellBehavedMessage device message
  | _ => True

theorem Sound.step {after : NetDevice} {action : Action} (h : Sound device)
    (hstep : Guarded WellBehaved Step device action after) : Sound after := by
  obtain ⟨hbehaved, happly⟩ := hstep
  cases action with
  | message runtime message =>
    obtain ⟨result, hres, rfl⟩ := Option.map_eq_some_iff.mp happly
    exact h.handle hbehaved hres
  | dataplane index lastAvail usedIdx pumpRunning =>
    cases happly
    exact h.setRing index ((h index).frame ⟨rfl, rfl, rfl, rfl⟩ (h index).started)
  | close =>
    cases happly
    exact h.stopRings none

/-! ## A handshake for the receive ring -/

def plainRuntime : Runtime where
  host := fun _ => 0
  mmap := ⟨4096, fun _ _ length => some ⟨0, length.toNat⟩⟩
  replySent := true

def request (code : UInt32) (payload : Bytes) (fds : List Nat) : Action :=
  .message plainRuntime ⟨code, 1, payload, fds⟩

def shareMemory : Action :=
  request 5 (putLE64 1 ++ putLE64 0 ++ putLE64 4096 ++ putLE64 0 ++ putLE64 0) [3]

def resize (num : Nat) : Action := request 8 (putLE32 0 ++ putLE32 num) []

def placeRing : Action :=
  request 9 (putLE64 0 ++ putLE64 0 ++ putLE64 128 ++ putLE64 64 ++ putLE64 0) []

def attachKick : Action := request 12 (putLE64 0) [4]

def NetDevice.after (device : NetDevice) (action : Action) : NetDevice :=
  (device.apply action).getD device

private theorem step_after {action : Action} (h : (device.apply action).isSome = true) :
    NetDevice.Step device action (device.after action) := by
  obtain ⟨after, ha⟩ := Option.isSome_iff_exists.mp h
  simp [NetDevice.Step, NetDevice.after, ha]

def sizedDevice : NetDevice :=
  ((NetDevice.newNetDevice false).after shareMemory).after (resize 2)

def kickedDevice : NetDevice := (sizedDevice.after placeRing).after attachKick

private theorem addressesRing_sizedDevice (addr : Bytes)
    (hparse : parseVringAddr addr = .ok ⟨0, 0, 0, 128, 64, 0⟩) :
    AddressesRing sizedDevice addr := by
  intro parsed index mem hparsed hidx hm hnum
  rw [hparse] at hparsed
  cases hparsed
  cases hidx
  cases hm
  refine .inl ⟨?_, ?_, ?_⟩
  · exact ⟨_, .head _, by decide, by decide⟩
  · exact ⟨_, .head _, by decide, by decide⟩
  · exact ⟨_, .head _, by decide, by decide⟩

theorem reachable_kickedDevice :
    Reachable Initial (Guarded WellBehaved Step) kickedDevice := by
  have hshared : Guarded WellBehaved Step (newNetDevice false)
      shareMemory ((newNetDevice false).after shareMemory) :=
    ⟨trivial, step_after rfl⟩
  have hsized : Guarded WellBehaved Step
      ((newNetDevice false).after shareMemory) (resize 2) sizedDevice := by
    have hunmapped : ∀ ring, (((newNetDevice false).after shareMemory).rings
        ring).desc = none := by decide
    exact ⟨fun _ _ ring _ _ _ => .inl (hunmapped ring), step_after rfl⟩
  have hpl : Guarded WellBehaved Step sizedDevice placeRing
      (sizedDevice.after placeRing) :=
    ⟨addressesRing_sizedDevice _ rfl, step_after rfl⟩
  have hkicked : Guarded WellBehaved Step (sizedDevice.after placeRing)
      attachKick kickedDevice :=
    ⟨trivial, step_after rfl⟩
  exact .next (.next (.next (.next (.start ⟨false, rfl⟩) hshared) hsized) hpl) hkicked

/-- As long as the front-end does not resize a ring under its slices and its
ring addresses resolve, a started ring is safe to use. -/
theorem started_ring_safe {device : NetDevice}
    (h : Reachable NetDevice.Initial (Guarded WellBehaved NetDevice.Step) device)
    (index : RingIndex) (hstarted : (device.rings index).started = true) :
    RingSafe device (device.rings index) ∧ InRange (device.rings index) := by
  have hsound : Sound device := by
    refine Reachable.induct ?_ ?_ h
    · rintro state ⟨accessPlatform, rfl⟩
      intro index
      refine ⟨.inl rfl, ?_, ?_⟩
      · intro hdesc
        cases hdesc
      · intro hstarted
        cases hstarted
    · intro state action after _ ih hstep
      exact ih.step hstep
  obtain ⟨hdesc, hkick⟩ := (hsound index).started hstarted
  obtain ⟨hm, hnum, hfitted⟩ := (hsound index).mapped hdesc
  refine ⟨⟨hm, hkick, ?_, hfitted⟩, hfitted.inRange hnum⟩
  rcases (hsound index).num with hzero | hval
  · exact absurd hzero hnum
  · exact validNum_power hval

theorem started_ring_safe_kicked :
    Reachable NetDevice.Initial (Guarded WellBehaved NetDevice.Step) kickedDevice ∧
      (kickedDevice.rings 0).started = true ∧
      RingSafe kickedDevice (kickedDevice.rings 0) ∧ InRange (kickedDevice.rings 0) :=
  ⟨reachable_kickedDevice, rfl, started_ring_safe reachable_kickedDevice 0 rfl⟩

/-- The ring grows under its slices: the third descriptor lies outside the
table of two. -/
theorem resized_ring_panics :
    ∃ device, Reachable NetDevice.Initial NetDevice.Step device ∧
      (device.rings 0).started = true ∧ ¬ RingSafe device (device.rings 0) ∧
      (device.rings 0).descAt plainRuntime.host 2 = .panic := by
  have hkicked := reachable_kickedDevice.mono fun _ _ _ hstep => hstep.2
  have hresized : Step kickedDevice (resize 4) (kickedDevice.after (resize 4)) :=
    step_after rfl
  refine ⟨kickedDevice.after (resize 4), .next hkicked hresized, rfl, ?_, rfl⟩
  intro hsafe
  exact absurd hsafe.fitted.desc (by decide)

end GvSwitch.VhostUser
