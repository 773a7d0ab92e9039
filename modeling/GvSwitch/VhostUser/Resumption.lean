import GvSwitch.VhostUser.Messages
import GvSwitch.VhostUser.Receive

/-!
# Stopping and resuming a ring

The available index survives the stop in the device, or comes back with
SET_VRING_BASE; the used index is read back from the used ring.  The two are
what they were, since the index in the used ring always is the last one
published, as long as no receive buffer lies over it.  A ring that was set up
again the same way then goes on like one that was never stopped.
-/

namespace GvSwitch.VhostUser

open Foundation Outcome Vring NetDevice Dataplane

/-! ## The index in the used ring -/

def usedIndex (host : Host) (slice : Slice) : UInt16 :=
  UInt16.ofNat (wordAt host slice 0 / 65536)

variable {slice : Slice} {host : Host}

theorem SameBytes.usedIndex {other : Host} (h : SameBytes slice host other)
    (hlong : 4 ≤ slice.len) : usedIndex other slice = usedIndex host slice := by
  unfold VhostUser.usedIndex
  rw [wordAt_congr fun index hidx => h _ (by omega) (by omega)]

variable {used : List UsedChain}

namespace Vring

variable {ε : Type} {ring : Vring} {slice : Slice} {host : Host} {result : Vring × Host}

theorem usedIndex_publishUsed (hsl : ring.used = some slice) {count : UInt16}
    (h : (ring.publishUsed host count : Outcome ε _) = .ok result) :
    usedIndex result.2 slice = result.1.usedIdx := by
  obtain ⟨found, hf, h⟩ := bind_eq_ok_iff.mp h
  obtain ⟨rfl, -⟩ := within_spec hsl hf
  cases h
  have hbound := (ring.usedIdx + count).toNat_lt
  unfold usedIndex
  rw [wordAt_writeAt_self _ _ _ (by omega), Nat.mul_div_cancel _ (by decide),
    UInt16.ofNat_toNat]

theorem usedIndex_giveBack (hsl : ring.used = some slice)
    (h : (ring.giveBack host used : Outcome ε _) = .ok result) :
    usedIndex result.2 slice = result.1.usedIdx := by
  obtain ⟨middle, -, hpub⟩ := bind_eq_ok_iff.mp h
  exact usedIndex_publishUsed hsl hpub

end Vring

variable {ring : Vring}

namespace Dataplane

/-- The driver leaves the used ring alone, and no buffer of the next chain lies
over it. -/
def Sparing (plane : Dataplane) : Move → Prop
  | .guest host => ∀ slice, plane.ring.used = some slice → SameBytes slice plane.host host
  | .turn => ∀ head ring chain slice,
      (plane.ring.popAvail plane.host : Outcome Empty _) = .ok (some (head, ring)) →
        ring.resolveChain plane.host plane.mem head = .ok chain →
          plane.ring.used = some slice → ∀ segment ∈ chain.writable, Apart segment slice
  | _ => True

structure Shown (slice : Slice) (plane : Dataplane) : Prop where
  used : plane.ring.used = some slice
  long : 4 ≤ slice.len
  index : usedIndex plane.host slice = plane.ring.usedIdx
  header : ∀ filling, plane.call = .writing filling → filling.HeaderApart slice

section Shown

variable {slice : Slice} {plane after : Dataplane}

theorem Shown.drainTurn (h : Shown slice plane) {frames : List Bytes} {count : Nat}
    (hturn : plane.drainTurn frames count = .ok after) : Shown slice after := by
  rcases drainTurn_cases hturn with
    ⟨-, signals, rfl⟩ | ⟨head, ring, host, result, frames', hpop, -, hpub, rfl⟩
  · exact ⟨h.used, h.long, h.index, fun _ hc => (nomatch hc)⟩
  have hsl : ring.used = some slice := by
    rw [(popAvail_some hpop).1]
    exact h.used
  have hring := (publishUsed_spec hsl hpub).1
  refine ⟨?_, h.long, usedIndex_publishUsed hsl hpub, fun _ hc => (nomatch hc)⟩
  rw [hring]
  exact hsl

theorem Shown.complete (h : Shown slice plane) (hring : ring.used = some slice)
    {pops : List Pop} {delivered : Bool}
    (hcomplete : plane.complete ring host used pops delivered = .ok after) :
    Shown slice after := by
  obtain ⟨result, hgive, hcomplete⟩ := bind_eq_ok_iff.mp hcomplete
  obtain ⟨signal, -, hcomplete⟩ := bind_eq_ok_iff.mp hcomplete
  cases hcomplete
  refine ⟨?_, h.long, usedIndex_giveBack hring hgive, fun _ hc => (nomatch hc)⟩
  rw [giveBack_ring hgive]
  exact hring

theorem Shown.writeTurn (h : Shown slice plane) (hsparing : plane.Sparing .turn)
    {filling : Filling} (hc : plane.call = .writing filling)
    (hturn : plane.writeTurn filling = .ok after) : Shown slice after := by
  rcases writeTurn_cases hturn with
    ⟨-, hturn⟩ | ⟨-, rfl⟩ | ⟨head, ring, -, -, hpop, ⟨reason, -, hturn⟩ | ⟨chain, hch, rfl⟩⟩
  · exact h.complete h.used hturn
  · exact ⟨h.used, h.long, h.index, fun _ hwriting => (nomatch hwriting)⟩
  · refine h.complete ?_ hturn
    rw [(popAvail_some hpop).1]
    exact h.used
  have hcopied := copied_fillChain plane.host filling 0 chain.writable
    (hsparing head ring chain slice hpop hch h.used) (h.header filling hc)
  refine ⟨?_, h.long, ?_, ?_⟩
  · simp only [fill, (popAvail_some hpop).1]
    exact h.used
  · simp only [fill, (popAvail_some hpop).1]
    exact (hcopied.bytes.usedIndex h.long).trans h.index
  intro next hnext
  cases hnext
  exact hcopied.header

theorem Shown.step (h : Shown slice plane) {move : Move}
    (hstep : Guarded Sparing Step plane move after) : Shown slice after := by
  obtain ⟨hsparing, hstep⟩ := hstep
  cases move with
  | guest host =>
    cases hstep
    exact ⟨h.used, h.long, ((hsparing slice h.used).usedIndex h.long).trans h.index, h.header⟩
  | drainTXLocked =>
    simp only [Step, Dataplane.apply] at hstep
    split at hstep
    · cases hstep
      exact ⟨h.used, h.long, h.index, fun _ hc => by cases hc⟩
    · cases hstep
  | writeFrame frame =>
    simp only [Step, Dataplane.apply] at hstep
    split at hstep
    · cases hstep
      unfold enterWriteFrame
      split
      · exact ⟨h.used, h.long, h.index, fun _ hc => by cases hc⟩
      refine ⟨h.used, h.long, h.index, fun filling hc segment hseg => ?_⟩
      cases hc
      cases hseg
    · cases hstep
  | turn =>
    simp only [Step, Dataplane.apply] at hstep
    split at hstep
    · cases hstep
    · exact h.drainTurn (value?_eq_some hstep)
    · rename_i filling hc
      exact h.writeTurn hsparing hc (value?_eq_some hstep)

theorem Shown.run {start : Dataplane} (h : Shown slice start)
    (hrun : Reachable (fun first => first = start) (Guarded Sparing Step) plane) :
    Shown slice plane := by
  refine Reachable.induct ?_ ?_ hrun
  · rintro first rfl
    exact h
  · intro state move next _ ih hstep
    exact ih.step hstep

end Shown

end Dataplane

/-! ## Setting the ring up again -/

structure Placed (mem : MemTable) (addr : VringAddr) (ring : Vring) : Prop where
  desc : ∃ slice, mem.uvaSlice addr.desc (ring.num.toUInt64 * 16) = .ok slice ∧
    ring.desc = some slice
  avail : ∃ slice, mem.uvaSlice addr.avail (4 + ring.num.toUInt64 * 2 + 2) = .ok slice ∧
    ring.avail = some slice
  used : ∃ slice, mem.uvaSlice addr.used (4 + ring.num.toUInt64 * 8 + 2) = .ok slice ∧
    ring.used = some slice

/-- What a message sets in the ring is what the ring had, and the used ring it
finds at the address shows the same index as before. -/
def SameParameters (index : RingIndex) (plane : Dataplane) (addr : VringAddr)
    (device : NetDevice) (runtime : Runtime) (message : Message) : Prop :=
  match Request.ofCode message.req with
  | some .setVringNum => ∀ code num, vringStatePayload message.payload = .ok (code, num) →
      device.ring code = some index → num = plane.ring.num
  | some .setVringBase => ∀ code base, vringStatePayload message.payload = .ok (code, base) →
      device.ring code = some index → base.toUInt16 = plane.ring.lastAvail
  | some .setVringAddr => ∀ named mem, device.Addresses message.payload named index mem →
      (named.desc = addr.desc ∧ named.avail = addr.avail ∧ named.used = addr.used) ∧
        ∀ before slice, plane.ring.used = some before →
          mem.uvaSlice named.used (4 + plane.ring.num.toUInt64 * 8 + 2) = .ok slice →
            readAt runtime.host slice 0 4 = readAt plane.host before 0 4
  | _ => True

/-- The session goes on, the ring gets back the parameters it had, and no entry is
taken from it meanwhile. -/
def Restoring (index : RingIndex) (plane : Dataplane) (addr : VringAddr)
    (device : NetDevice) : Action → Prop
  | .message runtime message =>
    (∃ after effects, device.handle message runtime = some (after, effects, none)) ∧
      SameParameters index plane addr device runtime message
  | .dataplane other lastAvail usedIdx _ => other = index →
      lastAvail = plane.ring.lastAvail ∧ usedIdx = plane.ring.usedIdx
  | .close => False

structure Resuming (index : RingIndex) (plane : Dataplane) (addr : VringAddr)
    (device : NetDevice) : Prop where
  num : (device.rings index).num = plane.ring.num
  lastAvail : (device.rings index).lastAvail = plane.ring.lastAvail
  usedIdx : (device.rings index).usedIdx = plane.ring.usedIdx
  placed : (device.rings index).desc ≠ none →
    ∃ mem, device.mem = some mem ∧ Placed mem addr (device.rings index)
  started : (device.rings index).started = true → (device.rings index).desc ≠ none

variable {mem : MemTable}

section Resuming

variable {index : RingIndex} {plane : Dataplane} {addr : VringAddr} {device after : NetDevice}

theorem Placed.sameCore {other : Vring} (h : Placed mem addr ring)
    (hcore : SameCore ring other) : Placed mem addr other := by
  obtain ⟨hdesc, havail, hu⟩ := h
  rw [← hcore.num, ← hcore.desc] at hdesc
  rw [← hcore.num, ← hcore.avail] at havail
  rw [← hcore.num, ← hcore.used] at hu
  exact ⟨hdesc, havail, hu⟩

theorem Placed.unique {other : Vring} (h : Placed mem addr ring)
    (h' : Placed mem addr other) (hnum : other.num = ring.num) :
    other.desc = ring.desc ∧ other.avail = ring.avail ∧ other.used = ring.used := by
  obtain ⟨⟨desc, hdesc, hring⟩, ⟨avail, havail, hring'⟩, ⟨used, hu, hring''⟩⟩ := h
  obtain ⟨⟨found, hf, ho⟩, ⟨found', hf', ho'⟩, ⟨found'', hf'', ho''⟩⟩ := h'
  rw [hnum] at hf hf' hf''
  cases hdesc.symm.trans hf
  cases havail.symm.trans hf'
  cases hu.symm.trans hf''
  exact ⟨ho.trans hring.symm, ho'.trans hring'.symm, ho''.trans hring''.symm⟩

section Resuming

variable (h : Resuming index plane addr device)

include h

theorem Resuming.sameCore (hm : device.mem = none ∨ after.mem = device.mem)
    (hcore : SameCore (device.rings index) (after.rings index)) :
    Resuming index plane addr after := by
  refine ⟨hcore.num.trans h.num, hcore.lastAvail.trans h.lastAvail,
    hcore.usedIdx.trans h.usedIdx, fun hdesc => ?_, fun hstart => ?_⟩
  · rw [hcore.desc] at hdesc
    obtain ⟨mem, hpres, hpl⟩ := h.placed hdesc
    rcases hm with hnone | hs
    · cases hnone.symm.trans hpres
    · exact ⟨mem, hs.trans hpres, hpl.sameCore hcore⟩
  · rw [hcore.desc]
    rcases hcore.started hstart with hb | hmapped
    · exact h.started hb
    · exact Option.isSome_iff_ne_none.mp hmapped

theorem Resuming.stopped
    (hcore : SameCore (stopRingLocked (device.rings index)).1 (after.rings index)) :
    Resuming index plane addr after := by
  refine ⟨hcore.num.trans h.num, hcore.lastAvail.trans h.lastAvail,
    hcore.usedIdx.trans h.usedIdx, fun hdesc => absurd hcore.desc hdesc, fun hstart => ?_⟩
  rcases hcore.started hstart with hb | hmapped
  · cases hb
  · cases hmapped

theorem Resuming.mapped (hshown : plane.Shown slice) {named : VringAddr}
    (hm : device.mem = some mem)
    (hs : named.desc = addr.desc ∧ named.avail = addr.avail ∧ named.used = addr.used)
    (hread : ∀ before slice, plane.ring.used = some before →
      mem.uvaSlice named.used (4 + plane.ring.num.toUInt64 * 8 + 2) = .ok slice →
        readAt host slice 0 4 = readAt plane.host before 0 4)
    (hmap : mapRing host mem (device.rings index) named = some (ring, none))
    (ha : after.mem = device.mem) (hcore : SameCore ring (after.rings index)) :
    Resuming index plane addr after := by
  rcases mapRing_cases hmap with
    ⟨reason, -, -, herr⟩ | ⟨desc, hdesc, ⟨reason, -, -, herr⟩ | ⟨avail, havail,
      ⟨reason, -, -, herr⟩ | ⟨used, hu, rfl, -⟩⟩⟩
  · cases herr
  · cases herr
  · cases herr
  have hidx : UInt16.ofNat (le32 (readAt host used 0 4) 0 / 65536) = plane.ring.usedIdx := by
    rw [hread slice used hshown.used (by rw [← h.num]; exact hu)]
    exact hshown.index
  obtain ⟨hsameDesc, hsameAvail, hsameUsed⟩ := hs
  rw [hsameDesc] at hdesc
  rw [hsameAvail] at havail
  rw [hsameUsed] at hu
  refine ⟨hcore.num.trans h.num, hcore.lastAvail.trans h.lastAvail,
    hcore.usedIdx.trans hidx, fun _ => ⟨mem, ha.trans hm, ?_⟩, fun _ => ?_⟩
  · refine Placed.sameCore ?_ hcore
    exact ⟨⟨desc, hdesc, rfl⟩, ⟨avail, havail, rfl⟩, ⟨used, hu, rfl⟩⟩
  · rw [hcore.desc]
    exact Option.some_ne_none desc

theorem Resuming.message (hshown : plane.Shown slice) {runtime : Runtime}
    {message : Message} {effects : List Effect}
    (hhandle : device.handle message runtime = some (after, effects, none))
    (hs : SameParameters index plane addr device runtime message) :
    Resuming index plane addr after := by
  unfold SameParameters at hs
  cases adjusted_handle hhandle index with
  | kept hm hcore => exact h.sameCore hm hcore
  | stopped hcore => exact h.stopped hcore
  | resized code num hm hreq hpay hidx hring =>
    rw [hreq] at hs
    have hnum := hs code num hpay hidx
    refine h.sameCore (.inr hm) ?_
    rw [hring, hnum, ← h.num]
    exact .refl _
  | rebased code base hm hreq hpay hidx hring =>
    rw [hreq] at hs
    have hbase := hs code base hpay hidx
    refine h.sameCore (.inr hm) ?_
    rw [hring, hbase, ← h.lastAvail]
    exact .refl _
  | mapped named mem ring hm hreq haddrs hmap hcore =>
    rw [hreq] at hs
    obtain ⟨hplace, hread⟩ := hs named mem haddrs
    exact h.mapped hshown haddrs.mem hplace hread hmap hm hcore

theorem Resuming.step (hshown : plane.Shown slice) {action : Action}
    (hstep : Guarded (Restoring index plane addr) Step device action after) :
    Resuming index plane addr after := by
  obtain ⟨hrestoring, hstep⟩ := hstep
  cases action with
  | message runtime message =>
    obtain ⟨⟨found, effects, hhandle⟩, hs⟩ := hrestoring
    simp only [NetDevice.Step, NetDevice.apply, hhandle, Option.map_some,
      Option.some.injEq] at hstep
    subst hstep
    exact h.message hshown hhandle hs
  | dataplane other lastAvail usedIdx pumpRunning =>
    cases hstep
    refine h.sameCore (.inr rfl) ?_
    by_cases ho : index = other
    · subst ho
      obtain ⟨hlast, hu⟩ := hrestoring rfl
      rw [setRing_rings_self, hlast, hu, ← h.lastAvail, ← h.usedIdx]
      exact ⟨rfl, rfl, rfl, rfl, rfl, rfl, .inl⟩
    · rw [setRing_rings_of_ne _ _ ho]
      exact .refl _
  | close => exact absurd hrestoring id

end Resuming

theorem Resuming.run (hshown : plane.Shown slice) (h : Resuming index plane addr device)
    {resumed : NetDevice}
    (hrun : Reachable (fun first => first = device)
      (Guarded (Restoring index plane addr) Step) resumed) :
    Resuming index plane addr resumed := by
  refine Reachable.induct ?_ ?_ hrun
  · rintro first rfl
    exact h
  · intro state action next _ ih hstep
    exact ih.step hshown hstep

end Resuming

/-! ## Going on -/

def Vring.unwired (ring : Vring) : Vring :=
  { ring with kick := none, call := none, enabled := false, pumpRunning := false }

def Dataplane.unwired (plane : Dataplane) : Dataplane :=
  { plane with ring := plane.ring.unwired, signals := [] }

namespace Vring

variable {ε : Type} (ring : Vring) (host : Host)

theorem popAvail_unwired :
    (ring.unwired.popAvail host : Outcome ε _) = do
      let popped ← ring.popAvail host
      return popped.map fun entry => (entry.1, entry.2.unwired) := by
  have hidx : (ring.unwired.availIdx host : Outcome ε _) = ring.availIdx host := rfl
  have he : (ring.unwired.availEntry host ring.lastAvail : Outcome ε _) =
      ring.availEntry host ring.lastAvail := rfl
  have hlast : ring.unwired.lastAvail = ring.lastAvail := rfl
  unfold popAvail
  rw [hidx, hlast, he]
  cases (ring.availIdx host : Outcome ε _) with
  | panic | error reason => rfl
  | ok index =>
    simp only [bind_ok]
    split
    · rfl
    cases (ring.availEntry host ring.lastAvail : Outcome ε _) with
    | panic | error reason | ok head => rfl

theorem publishUsed_unwired (count : UInt16) :
    (ring.unwired.publishUsed host count : Outcome ε _) = do
      let result ← ring.publishUsed host count
      return (result.1.unwired, result.2) := by
  have hu : (headOf ring.unwired.used : Outcome ε _) = headOf ring.used := rfl
  unfold publishUsed
  simp only [hu]
  cases (headOf ring.used : Outcome ε _) with
  | panic | error reason | ok slice => rfl

theorem setUsedElems_unwired (index : Nat) (used : List UsedChain) :
    (ring.unwired.setUsedElems host index used : Outcome ε _) =
      ring.setUsedElems host index used := by
  induction used generalizing host index with
  | nil => rfl
  | cons first rest ih =>
    have hfst : (ring.unwired.setUsedElem host (UInt16.ofNat index) first.head
        first.written : Outcome ε _) =
        ring.setUsedElem host (UInt16.ofNat index) first.head first.written := rfl
    simp only [setUsedElems, hfst, ih]

theorem giveBack_unwired (used : List UsedChain) :
    (ring.unwired.giveBack host used : Outcome ε _) = do
      let result ← ring.giveBack host used
      return (result.1.unwired, result.2) := by
  unfold giveBack
  rw [setUsedElems_unwired]
  cases (ring.setUsedElems host 0 used : Outcome ε _) with
  | panic | error reason => rfl
  | ok middle => exact ring.publishUsed_unwired middle _

theorem resolveChain_unwired (mem : MemTable) (head : UInt16) :
    ring.unwired.resolveChain host mem head = ring.resolveChain host mem head :=
  @walkChain_congr ring ring.unwired host host rfl rfl (fun _ _ _ _ _ => rfl) mem
    maxChainLen ⟨[], []⟩ head

end Vring

namespace Dataplane

variable {plane other : Dataplane}

def Notifies (plane : Dataplane) : Prop :=
  ∃ slice, plane.ring.avail = some slice ∧ 0 < slice.len

def Alike (first second : Outcome Empty Dataplane) : Prop :=
  (first >>= fun after => pure after.unwired : Outcome Empty Dataplane) =
    second >>= fun after => pure after.unwired

theorem Notifies.notify (h : ∃ slice, ring.avail = some slice ∧ 0 < slice.len) (host : Host) :
    ∃ signal, (ring.notify host : Outcome Empty _) = .ok signal := by
  obtain ⟨slice, hsl, hlong⟩ := h
  have hhead : (headOf ring.avail : Outcome Empty _) = .ok slice := by
    rw [hsl]
    exact if_pos hlong
  unfold Vring.notify
  split
  · exact ⟨none, rfl⟩
  exact ⟨_, by
    simp only [availNoInterrupt, atomicLoadU32, hhead, bind_ok]
    rfl⟩

theorem alike_drainTurn (h : plane.Notifies) (frames : List Bytes) (count : Nat) :
    Alike (plane.unwired.drainTurn frames count) (plane.drainTurn frames count) := by
  have hpop : (plane.unwired.ring.popAvail plane.unwired.host : Outcome Empty _) = _ :=
    plane.ring.popAvail_unwired plane.host
  unfold Alike drainTurn
  rw [hpop]
  cases hpopped : (plane.ring.popAvail plane.host : Outcome Empty _) with
  | panic => rfl
  | error reason => exact reason.elim
  | ok popped =>
    cases popped with
    | none =>
      obtain ⟨signal, hsignal⟩ : ∃ signal, plane.drainSignal count = .ok signal := by
        unfold drainSignal
        split
        · exact Notifies.notify h plane.host
        · exact ⟨none, rfl⟩
      have hq : plane.unwired.drainSignal count = .ok none := by
        unfold drainSignal
        split
        · rfl
        · rfl
      simp only [bind_ok, pure_eq_ok, Option.map_none, hsignal, hq]
      rfl
    | some entry =>
      obtain ⟨head, ring⟩ := entry
      have hset : (ring.unwired.setUsedElem plane.host 0 head 0 : Outcome Empty _) =
          ring.setUsedElem plane.host 0 head 0 := rfl
      have hhost : plane.unwired.host = plane.host := rfl
      have hm : plane.unwired.mem = plane.mem := rfl
      simp only [bind_ok, pure_eq_ok, Option.map_some, hhost, hm, hset,
        ring.resolveChain_unwired, ring.publishUsed_unwired]
      cases (noticed (ring.resolveChain plane.host plane.mem head) : Outcome Empty _) with
      | panic => rfl
      | error reason => exact reason.elim
      | ok chain =>
        cases (ring.setUsedElem plane.host 0 head 0 : Outcome Empty _) with
        | panic => rfl
        | error reason => exact reason.elim
        | ok host =>
          simp only [bind_ok]
          cases (ring.publishUsed host 1 : Outcome Empty _) with
          | panic | ok result => rfl
          | error reason => exact reason.elim

theorem alike_complete (h : ∃ slice, ring.avail = some slice ∧ 0 < slice.len) (host : Host)
    (used : List UsedChain) (pops : List Pop) (delivered : Bool) :
    Alike (plane.unwired.complete ring.unwired host used pops delivered)
      (plane.complete ring host used pops delivered) := by
  unfold Alike complete
  rw [ring.giveBack_unwired]
  cases hgive : (ring.giveBack host used : Outcome Empty _) with
  | panic => rfl
  | error reason => exact reason.elim
  | ok result =>
    have havail : result.1.avail = ring.avail := by rw [giveBack_ring hgive]
    obtain ⟨signal, hsignal⟩ := Notifies.notify (havail ▸ h) result.2
    have hq : (result.1.unwired.notify result.2 : Outcome Empty _) = .ok none := rfl
    simp only [bind_ok, pure_eq_ok, hsignal, hq]
    rfl

theorem alike_writeTurn (h : plane.Notifies) (filling : Filling) :
    Alike (plane.unwired.writeTurn filling) (plane.writeTurn filling) := by
  have hpop : (plane.unwired.ring.popAvail plane.unwired.host : Outcome Empty _) = _ :=
    plane.ring.popAvail_unwired plane.host
  unfold writeTurn
  split
  · exact alike_complete h _ _ _ _
  have hmode : plane.unwired.mrgRxbuf = plane.mrgRxbuf := rfl
  rw [hmode, hpop]
  split
  · rfl
  cases hpopped : (plane.ring.popAvail plane.host : Outcome Empty _) with
  | panic => rfl
  | error reason => exact reason.elim
  | ok popped =>
    cases popped with
    | none => rfl
    | some entry =>
      obtain ⟨head, ring⟩ := entry
      have hhost : plane.unwired.host = plane.host := rfl
      have hm : plane.unwired.mem = plane.mem := rfl
      have hring := (popAvail_some hpopped).1
      simp only [bind_ok, pure_eq_ok, Option.map_some, hhost, hm, ring.resolveChain_unwired]
      cases (noticed (ring.resolveChain plane.host plane.mem head) : Outcome Empty _) with
      | panic => rfl
      | error reason => exact reason.elim
      | ok chain =>
        cases chain with
        | none =>
          refine alike_complete ?_ _ _ _ _
          rw [hring]
          exact h
        | some chain => rfl

theorem map_value? {ε α β : Type} (view : α → β) (outcome : Outcome ε α) :
    (value? outcome).map view = value? (outcome >>= fun value => pure (view value)) := by
  cases outcome with
  | ok value | error reason | panic => rfl

theorem Alike.value? {first second : Outcome Empty Dataplane} (h : Alike first second) :
    (Dataplane.value? first).map unwired = (Dataplane.value? second).map unwired := by
  rw [map_value?, map_value?, h]

theorem map_unwired_apply (h : plane.Notifies) (move : Move) :
    (plane.unwired.apply move).map unwired = (plane.apply move).map unwired := by
  have hc : plane.unwired.call = plane.call := rfl
  cases move with
  | guest host => rfl
  | drainTXLocked =>
    simp only [Dataplane.apply, hc]
    split
    · rfl
    · rfl
  | writeFrame frame =>
    simp only [Dataplane.apply, hc]
    split
    · have hstart : plane.unwired.ring.started = plane.ring.started := rfl
      simp only [Option.map_some, enterWriteFrame, hstart]
      split
      · rfl
      · rfl
    · rfl
  | turn =>
    simp only [Dataplane.apply, hc]
    split
    · rfl
    · exact (alike_drainTurn h _ _).value?
    · exact (alike_writeTurn h _).value?

theorem avail_complete {pops : List Pop} {delivered : Bool} {after : Dataplane}
    (h : plane.complete ring host used pops delivered = .ok after) :
    after.ring.avail = ring.avail := by
  obtain ⟨result, hgive, h⟩ := bind_eq_ok_iff.mp h
  obtain ⟨signal, -, h⟩ := bind_eq_ok_iff.mp h
  cases h
  rw [giveBack_ring hgive]

theorem avail_apply {move : Move} {after : Dataplane} (h : plane.apply move = some after) :
    after.ring.avail = plane.ring.avail := by
  cases move with
  | guest host =>
    cases h
    rfl
  | drainTXLocked =>
    simp only [Dataplane.apply] at h
    split at h
    · cases h
      rfl
    · cases h
  | writeFrame frame =>
    simp only [Dataplane.apply] at h
    split at h
    · cases h
      unfold enterWriteFrame
      split
      · rfl
      · rfl
    · cases h
  | turn =>
    simp only [Dataplane.apply] at h
    split at h
    · cases h
    · rcases drainTurn_cases (value?_eq_some h) with
        ⟨-, signals, rfl⟩ | ⟨head, ring, host, result, frames, hpop, hset, hpub, rfl⟩
      · rfl
      have hgive : (ring.giveBack plane.host [⟨head, 0⟩] : Outcome Empty _) = .ok result :=
        giveBack_singleton hset hpub
      rw [giveBack_ring hgive, (popAvail_some hpop).1]
    · rcases writeTurn_cases (value?_eq_some h) with
        ⟨-, hturn⟩ | ⟨-, rfl⟩ |
          ⟨head, ring, -, -, hpop, ⟨reason, -, hturn⟩ | ⟨chain, -, rfl⟩⟩
      · exact avail_complete hturn
      · rfl
      · rw [avail_complete hturn, (popAvail_some hpop).1]
      · simp only [fill, (popAvail_some hpop).1]

/-- Rings that differ in their descriptors only go on alike. -/
theorem run_unwired_eq (h : plane.Notifies) (ho : other.Notifies)
    (hs : plane.unwired = other.unwired) (moves : List Move) :
    (replay apply (fun _ _ => True) plane moves).map unwired =
      (replay apply (fun _ _ => True) other moves).map unwired := by
  refine map_replay_eq ?_ ?_ h ho hs moves
  · intro first second move hfst hsnd hview
    rw [← map_unwired_apply hfst, hview, map_unwired_apply hsnd]
  intro state move after hst hstep
  obtain ⟨slice, hsl, hlong⟩ := hst
  exact ⟨slice, (avail_apply hstep).trans hsl, hlong⟩

end Dataplane

/-! ## Results -/

theorem Placed.exists_avail {addr : VringAddr} (h : Placed mem addr ring) :
    ∃ slice, ring.avail = some slice ∧ 0 < slice.len := by
  obtain ⟨slice, hf, hsl⟩ := h.avail
  refine ⟨slice, hsl, ?_⟩
  rw [MemTable.len_uvaSlice hf]
  have hnum := ring.num.toNat_lt
  simp only [UInt64.toNat_add, UInt64.toNat_mul, UInt32.toNat_toUInt64, UInt64.reduceToNat]
  omega

theorem Resuming.unwired_eq {index : RingIndex} {plane : Dataplane} {addr : VringAddr}
    {resumed : NetDevice} (h : Resuming index plane addr resumed)
    (hpl : Placed plane.mem addr plane.ring) (hstart : plane.ring.started = true)
    (hm : resumed.mem = some plane.mem) (hresumed : (resumed.rings index).started = true) :
    Placed plane.mem addr (resumed.rings index) ∧
      (resumed.rings index).unwired = plane.ring.unwired := by
  obtain ⟨mem, hf, hagain⟩ := h.placed (h.started hresumed)
  cases hm.symm.trans hf
  obtain ⟨hdesc, havail, hu⟩ := hpl.unique hagain h.num
  refine ⟨hagain, ?_⟩
  simp only [Vring.unwired, h.num, hdesc, havail, hu, h.lastAvail, h.usedIdx, hresumed,
    hstart]

/-- However the ring is stopped and set up again with what it had, its indices are
what they were, GET_VRING_BASE tells the available one, and once started the ring
goes on as if it had never been stopped. -/
theorem resumed_ring_continues {start plane : Dataplane} {slice : Slice}
    (hshown : start.Shown slice)
    (hrun : Reachable (fun first => first = start) (Guarded Dataplane.Sparing Dataplane.Step)
      plane) (hstarted : plane.ring.started = true) {addr : VringAddr}
    (hplaced : Placed plane.mem addr plane.ring) {index : RingIndex}
    {device resumed : NetDevice} (hring : device.rings index = plane.ring)
    (hmem : device.mem = some plane.mem)
    (hresume : Reachable (fun first => first = device)
      (Guarded (Restoring index plane addr) NetDevice.Step) resumed) :
    ((resumed.rings index).lastAvail = plane.ring.lastAvail ∧
      (resumed.rings index).usedIdx = plane.ring.usedIdx) ∧
    (∀ (message : Message) (runtime : Runtime) (code value : UInt32),
      Request.ofCode message.req = some .getVringBase →
      vringStatePayload message.payload = .ok (code, value) →
      resumed.ring code = some index →
        ∃ after effects err, resumed.handle message runtime = some (after, effects, err) ∧
          Effect.reply message.req
            (putLE32 code.toNat ++ putLE32 plane.ring.lastAvail.toNat) ∈ effects) ∧
    (resumed.mem = some plane.mem → (resumed.rings index).started = true →
      ∀ moves, (replay Dataplane.apply (fun _ _ => True)
          { plane with ring := resumed.rings index } moves).map Dataplane.unwired =
        (replay Dataplane.apply (fun _ _ => True) plane moves).map Dataplane.unwired) := by
  have hresuming : Resuming index plane addr device := by
    rw [← hring] at hplaced
    refine ⟨by rw [hring], by rw [hring], by rw [hring], fun _ => ⟨_, hmem, hplaced⟩, ?_⟩
    obtain ⟨found, -, hdesc⟩ := hplaced.desc
    exact fun _ => by rw [hdesc]; exact Option.some_ne_none found
  have hresumed := Resuming.run (hshown.run hrun) hresuming hresume
  refine ⟨⟨hresumed.lastAvail, hresumed.usedIdx⟩, ?_, ?_⟩
  · intro message runtime code value hreq hpay hidx
    rw [← hresumed.lastAvail]
    -- GET_VRING_BASE answers with the index of the entry that is taken next.
    refine ⟨_, _, _, by simp only [handle, process, hreq]; rfl, ?_⟩
    simp [getVringBase, hpay, hidx, respond, stopRingLocked]
  · intro hs hagain moves
    obtain ⟨hplaced', hunwired⟩ := hresumed.unwired_eq hplaced hstarted hs hagain
    have hnotifies : Notifies { plane with ring := resumed.rings index } :=
      hplaced'.exists_avail
    refine run_unwired_eq hnotifies hplaced.exists_avail ?_ moves
    exact congrArg (fun ring => { plane with ring := ring, signals := [] }) hunwired

/-! ## A ring that is stopped and set up again -/

def NetDevice.serving (plane : Dataplane) : NetDevice where
  offered := 0
  mem := some plane.mem
  rings := fun _ => plane.ring

/-- GET_VRING_BASE, then size, addresses, base, kick and enable. -/
def setUpAgain : List Message :=
  [⟨11, 1, putLE32 0 ++ putLE32 0, []⟩, ⟨8, 1, putLE32 0 ++ putLE32 2, []⟩,
    ⟨9, 1, putLE64 0 ++ putLE64 0 ++ putLE64 48 ++ putLE64 32 ++ putLE64 0, []⟩,
    ⟨10, 1, putLE32 0 ++ putLE32 0, []⟩, ⟨12, 1, putLE64 0, [4]⟩,
    ⟨18, 1, putLE32 0 ++ putLE32 1, []⟩]

def oneBuffer (buffer : Nat) : Dataplane where
  ring := {
    num := 2
    desc := some ⟨0, 32⟩
    avail := some ⟨32, 10⟩
    used := some ⟨48, 22⟩
    usedIdx := 5
    started := true }
  mem := ⟨[⟨0, 4096, 0, ⟨0, 4096⟩, ⟨0, 4096⟩⟩]⟩
  mrgRxbuf := true
  host := byteAt (putLE64 buffer ++ putLE32 8 ++ putLE16 2 ++ putLE16 0 ++
    List.replicate 16 0 ++ putLE16 0 ++ putLE16 1 ++ List.replicate 12 0 ++
    putLE16 0 ++ putLE16 5)

def dropping (buffer count : Nat) : Dataplane :=
  (([.writeFrame [1], .turn, .turn] : List Dataplane.Move).take count).foldl
    (fun plane move => (plane.apply move).getD plane) (oneBuffer buffer)

def quietRuntime (host : Host) : Runtime := ⟨host, ⟨4096, fun _ _ _ => none⟩, true⟩

def resumedBy (buffer count : Nat) : NetDevice :=
  ((setUpAgain.map (Action.message (quietRuntime (dropping buffer 3).host))).take
    count).foldl NetDevice.after (.serving (dropping buffer 3))

theorem reachable_dropping :
    Reachable (fun first => first = oneBuffer 128)
      (Guarded Sparing Step) (dropping 128 3) := by
  have hfill : (dropping 128 1).Sparing .turn := by
    intro head ring chain slice hpop hch hu
    have hpopped : ((dropping 128 1).ring.popAvail (dropping 128 1).host : Outcome Empty _) =
        .ok (some (0, { (dropping 128 1).ring with lastAvail := 1 })) := rfl
    have hresolved : resolveChain { (dropping 128 1).ring with lastAvail := 1 }
        (dropping 128 1).host (dropping 128 1).mem 0 = .ok ⟨[], [⟨128, 8⟩]⟩ := rfl
    cases Option.some.inj (ok.inj (hpopped.symm.trans hpop))
    cases hresolved.symm.trans hch
    cases hu
    simp [Apart]
  have hempty : (dropping 128 2).Sparing .turn := by
    intro head ring chain slice hpop
    have hnone : ((dropping 128 2).ring.popAvail (dropping 128 2).host : Outcome Empty _) =
        .ok none := rfl
    cases ok.inj (hnone.symm.trans hpop)
  have hentered : Guarded Sparing Step (dropping 128 0)
      (.writeFrame [1]) (dropping 128 1) := ⟨trivial, rfl⟩
  have hfilled : Guarded Sparing Step (dropping 128 1) .turn
      (dropping 128 2) := ⟨hfill, rfl⟩
  have hdropped : Guarded Sparing Step (dropping 128 2) .turn
      (dropping 128 3) := ⟨hempty, rfl⟩
  exact .next (.next (.next (.start rfl) hentered) hfilled) hdropped

def oneBufferAddr : VringAddr := ⟨0, 0, 0, 48, 32, 0⟩

theorem resumedBy_step {count : Nat} {message : Message} {effects : List Effect}
    (hhandle : (resumedBy 128 count).handle message (quietRuntime (dropping 128 3).host) =
      some (resumedBy 128 (count + 1), effects, none))
    (hs : SameParameters 0 (dropping 128 3) oneBufferAddr (resumedBy 128 count)
      (quietRuntime (dropping 128 3).host) message) :
    Guarded (Restoring 0 (dropping 128 3) oneBufferAddr) Step (resumedBy 128 count)
      (.message (quietRuntime (dropping 128 3).host) message) (resumedBy 128 (count + 1)) := by
  refine ⟨⟨⟨_, effects, hhandle⟩, hs⟩, ?_⟩
  simp only [NetDevice.Step, NetDevice.apply, hhandle, Option.map_some]

theorem reachable_resumedBy :
    Reachable (fun first => first = .serving (dropping 128 3))
      (Guarded (Restoring 0 (dropping 128 3) oneBufferAddr) Step)
      (resumedBy 128 6) := by
  have hnum : SameParameters 0 (dropping 128 3) oneBufferAddr (resumedBy 128 1)
      (quietRuntime (dropping 128 3).host) ⟨8, 1, putLE32 0 ++ putLE32 2, []⟩ := by
    intro code num hpay _
    have hparsed : vringStatePayload (putLE32 0 ++ putLE32 2) = .ok (0, 2) := by decide
    cases hparsed.symm.trans hpay
    rfl
  have haddr : SameParameters 0 (dropping 128 3) oneBufferAddr (resumedBy 128 2)
      (quietRuntime (dropping 128 3).host)
      ⟨9, 1, putLE64 0 ++ putLE64 0 ++ putLE64 48 ++ putLE64 32 ++ putLE64 0, []⟩ := by
    intro named mem haddrs
    have hparsed : parseVringAddr (putLE64 0 ++ putLE64 0 ++ putLE64 48 ++ putLE64 32 ++
        putLE64 0) = .ok oneBufferAddr := by decide
    cases hparsed.symm.trans haddrs.parsed
    have hm : (resumedBy 128 2).mem = some (oneBuffer 128).mem := rfl
    cases hm.symm.trans haddrs.mem
    refine ⟨⟨rfl, rfl, rfl⟩, fun before slice hb hsl => ?_⟩
    have hu : (oneBuffer 128).mem.uvaSlice 48 (4 + UInt32.toUInt64 2 * 8 + 2) =
        .ok ⟨48, 22⟩ := by decide
    cases hu.symm.trans hsl
    cases hb
    rfl
  have hbase : SameParameters 0 (dropping 128 3) oneBufferAddr (resumedBy 128 3)
      (quietRuntime (dropping 128 3).host) ⟨10, 1, putLE32 0 ++ putLE32 0, []⟩ := by
    intro code base hpay _
    have hparsed : vringStatePayload (putLE32 0 ++ putLE32 0) = .ok (0, 0) := by decide
    cases hparsed.symm.trans hpay
    rfl
  have hstop := @resumedBy_step 0 ⟨11, 1, putLE32 0 ++ putLE32 0, []⟩ _ rfl trivial
  have hsized := resumedBy_step rfl hnum
  have hpl := resumedBy_step rfl haddr
  have hbased := resumedBy_step rfl hbase
  have hkicked := @resumedBy_step 4 ⟨12, 1, putLE64 0, [4]⟩ _ rfl trivial
  have hon := @resumedBy_step 5 ⟨18, 1, putLE32 0 ++ putLE32 1, []⟩ _ rfl trivial
  exact .next (.next (.next (.next (.next (.next (.start rfl) hstop) hsized) hpl)
    hbased) hkicked) hon

theorem shown_oneBuffer : (oneBuffer 128).Shown ⟨48, 22⟩ :=
  ⟨rfl, by decide, by decide, fun _ hc => nomatch hc⟩

theorem resumed_ring_continues_dropping :
    ((resumedBy 128 6).rings 0).started = true ∧ ((resumedBy 128 6).rings 0).usedIdx = 5 ∧
      ∀ moves, (replay Dataplane.apply (fun _ _ => True)
          { dropping 128 3 with ring := (resumedBy 128 6).rings 0 } moves).map
            Dataplane.unwired =
        (replay Dataplane.apply (fun _ _ => True) (dropping 128 3) moves).map
          Dataplane.unwired := by
  have hpl : Placed (dropping 128 3).mem oneBufferAddr (dropping 128 3).ring :=
    ⟨⟨⟨0, 32⟩, by decide, rfl⟩, ⟨⟨32, 10⟩, by decide, rfl⟩, ⟨⟨48, 22⟩, by decide, rfl⟩⟩
  have hstart : ((resumedBy 128 6).rings 0).started = true := rfl
  obtain ⟨⟨-, hu⟩, -, hgoes⟩ := resumed_ring_continues shown_oneBuffer reachable_dropping
    rfl hpl rfl rfl reachable_resumedBy
  exact ⟨hstart, hu, hgoes rfl hstart⟩

/-- A frame that does not fit is dropped, but its header is in the used ring.  The
ring is set up again with zero as its used index. -/
theorem dropped_frame_spoils_index :
    (oneBuffer 48).Shown ⟨48, 22⟩ ∧
      replay Dataplane.apply (fun _ _ => True) (oneBuffer 48) [.writeFrame [1], .turn, .turn] =
        some (dropping 48 3) ∧
      (dropping 48 3).call = .returned (.sent false) ∧ (dropping 48 3).ring.usedIdx = 5 ∧
      replay NetDevice.apply (fun _ _ => True) (.serving (dropping 48 3))
        (setUpAgain.map (Action.message (quietRuntime (dropping 48 3).host))) =
          some (resumedBy 48 6) ∧
      ((resumedBy 48 6).rings 0).started = true ∧
      ((resumedBy 48 6).rings 0).used = (dropping 48 3).ring.used ∧
      ((resumedBy 48 6).rings 0).lastAvail = (dropping 48 3).ring.lastAvail ∧
      ((resumedBy 48 6).rings 0).usedIdx = 0 := by
  refine ⟨⟨rfl, by decide, by decide, fun _ hc => nomatch hc⟩, rfl, rfl, rfl, rfl, rfl,
    rfl, rfl, ?_⟩
  decide

end GvSwitch.VhostUser
