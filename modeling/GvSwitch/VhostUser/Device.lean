import GvSwitch.VhostUser.Proto
import GvSwitch.VhostUser.Queue
import Mathlib.Logic.Function.Basic

/-!
# The back-end session

`handle` processes one control message under the device lock.  It changes the
device also when it returns an error, and may panic.  What it does to the
outside (descriptors closed, memory unmapped, the pump, the reply) is a list of
effects.
-/

namespace GvSwitch.VhostUser

open Foundation Request

abbrev RingIndex := Fin 2

def txQueue : RingIndex := 1

structure NetDevice where
  offered : UInt64
  features : UInt64 := 0
  protoFeatures : UInt64 := 0
  protoOn : Bool := false
  mem : Option MemTable := none
  rings : RingIndex → Vring := fun _ => {}

def Vring.files (ring : Vring) : List Nat := ring.kick.toList ++ ring.call.toList

def NetDevice.held (device : NetDevice) : List Nat :=
  (device.rings 0).files ++ (device.rings 1).files

structure Runtime where
  host : Host
  mmap : Mmap
  replySent : Bool

inductive Effect where
  | closeFd (fd : Nat)
  | unmap (raw : Slice)
  | startPump (kick : Nat)
  | poke (kick : Nat)
  | up
  | reply (req : UInt32) (payload : Bytes)
  deriving DecidableEq, Repr

inductive HandleError where
  | payload (reason : PayloadError)
  | unsupportedBits (bits : UInt64)
  | badVringNum (num index : UInt32)
  | badVringIndex (index : UInt32)
  | addrBeforeSetup
  | descTable (reason : MemError)
  | availRing (reason : MemError)
  | usedRing (reason : MemError)
  | missingFD
  | memTable (reason : MemError)
  | unsupportedRequest (code : UInt32)
  | replyFailed
  deriving DecidableEq, Repr

/-- The state of a call before the reply: `fds` are the descriptors of the
message that nothing has taken. -/
structure Answer where
  device : NetDevice
  fds : List Nat
  effects : List Effect := []
  reply : Option Bytes := none
  err : Option HandleError := none

namespace NetDevice

def newNetDevice (accessPlatform : Bool) : NetDevice :=
  { offered := if accessPlatform then supportedFeatures ||| featAccessPlatform
      else supportedFeatures }

def ring (_ : NetDevice) (index : UInt32) : Option RingIndex :=
  if h : index.toNat < 2 then some ⟨index.toNat, h⟩ else none

def setRing (device : NetDevice) (index : RingIndex) (ring : Vring) : NetDevice :=
  { device with rings := Function.update device.rings index ring }

/-! ## Starting and stopping -/

def stopRingLocked (ring : Vring) : Vring × List Effect :=
  ({ ring with
      started := false
      kick := none
      call := none
      desc := none
      avail := none
      used := none
      enabled := false },
    (ring.kick.toList ++ ring.call.toList).map .closeFd)

def stopRings (device : NetDevice) : NetDevice × List Effect :=
  ({ device with rings := fun index => (stopRingLocked (device.rings index)).1 },
    (stopRingLocked (device.rings 0)).2 ++ (stopRingLocked (device.rings 1)).2)

def evalRingLocked (device : NetDevice) (index : RingIndex) (ring : Vring) :
    Vring × List Effect :=
  if ring.started then (ring, [])
  else if device.mem.isNone || ring.num == 0 || ring.desc.isNone || ring.kick.isNone then
    (ring, [])
  else if device.protoOn && !ring.enabled then (ring, [])
  else if index = txQueue then
    let kick := ring.kick.getD 0
    -- A pump that is still reading the eventfd is poked, not started again.
    if ring.pumpRunning then ({ ring with started := true }, [.poke kick, .up])
    else ({ ring with started := true, pumpRunning := true }, [.startPump kick, .up])
  else ({ ring with started := true }, [])

def evalRing (device : NetDevice) (index : RingIndex) : NetDevice × List Effect :=
  let result := device.evalRingLocked index (device.rings index)
  (device.setRing index result.1, result.2)

def unmapAll (regions : List MemRegion) : List Effect := regions.map (.unmap ·.raw)

def close (device : NetDevice) : NetDevice × List Effect :=
  let stopped := device.stopRings
  ({ stopped.1 with mem := none },
    stopped.2 ++ unmapAll ((device.mem.map (·.regions)).getD []))

/-! ## The requests -/

section Requests

variable (device : NetDevice) (message : Message)

def accept : Answer := ⟨device, message.fds, [], none, none⟩

def refuse (reason : HandleError) : Answer := ⟨device, message.fds, [], none, some reason⟩

def takeFeatures (features : UInt64) : Answer :=
  let unsupported := features &&& ~~~ device.offered
  if unsupported ≠ 0 then device.refuse message (.unsupportedBits unsupported)
  else accept { device with
    features := features
    protoOn := features &&& featProtocolFeatures != 0 } message

def setFeatures : Answer :=
  if message.payload.length ≥ 8 then
    device.takeFeatures message (UInt64.ofNat (le64 message.payload 0))
  else device.accept message

def setProtocolFeatures : Answer :=
  if message.payload.length ≥ 8 then
    accept { device with protoFeatures := UInt64.ofNat (le64 message.payload 0) } message
  else device.accept message

def resetOwner : Answer :=
  let stopped := device.stopRings
  { accept stopped.1 message with effects := stopped.2 }

/-- Install a parsed table: rings are stopped before what they point into is
unmapped. -/
def installMemTable (table : MemTable) : NetDevice × List Effect :=
  let stopped :=
    match device.mem with
    | none => (device, [])
    | some old =>
      let stopped := device.stopRings
      (stopped.1, stopped.2 ++ unmapAll old.regions)
  let installed := { stopped.1 with mem := some table }
  let first := installed.evalRing 0
  let second := first.1.evalRing 1
  (second.1, stopped.2 ++ first.2 ++ second.2)

def setMemTableLocked (runtime : Runtime) : Option Answer :=
  match parseMemTable runtime.mmap message.payload message.fds with
  | .panic => none
  | .error (reason, mapped) =>
    some { device.refuse message (.memTable reason) with effects := unmapAll mapped }
  | .ok table =>
    let installed := device.installMemTable table
    some { accept installed.1 message with effects := installed.2 }

def validNum (num : UInt32) : Bool := num > 0 && num ≤ 32768 && num &&& (num - 1) == 0

def setVringNum : Answer :=
  match vringStatePayload message.payload with
  | .error reason => device.refuse message (.payload reason)
  | .ok (index, num) =>
    match device.ring index with
    | none => device.refuse message (.badVringNum num index)
    | some ring =>
      if validNum num then
        accept (device.setRing ring { device.rings ring with num := num }) message
      else device.refuse message (.badVringNum num index)

def setVringBase : Answer :=
  match vringStatePayload message.payload with
  | .error reason => device.refuse message (.payload reason)
  | .ok (index, base) =>
    match device.ring index with
    | none => device.accept message
    | some ring =>
      accept (device.setRing ring
        { device.rings ring with lastAvail := base.toUInt16 }) message

def getVringBase : Answer :=
  match vringStatePayload message.payload with
  | .error reason => device.refuse message (.payload reason)
  | .ok (index, _) =>
    match device.ring index with
    -- The front-end waits for an answer: fail the session instead.
    | none => device.refuse message (.badVringIndex index)
    | some ring =>
      let stopped := stopRingLocked (device.rings ring)
      { accept (device.setRing ring stopped.1) message with
        effects := stopped.2
        reply := some (putLE32 index.toNat ++ putLE32 stopped.1.lastAvail.toNat) }

/-- Resolve the three ranges in turn; each assignment is made before the error
of its call is looked at. -/
def mapRing (host : Host) (mem : MemTable) (ring : Vring) (addr : VringAddr) :
    Option (Vring × Option HandleError) :=
  let num := ring.num.toUInt64
  match mem.uvaSlice addr.desc (num * 16) with
  | .panic => none
  | .error reason => some ({ ring with desc := none }, some (.descTable reason))
  | .ok desc =>
    match mem.uvaSlice addr.avail (4 + num * 2 + 2) with
    | .panic => none
    | .error reason =>
      some ({ ring with desc := some desc, avail := none }, some (.availRing reason))
    | .ok avail =>
      match mem.uvaSlice addr.used (4 + num * 8 + 2) with
      | .panic => none
      | .error reason =>
        some ({ ring with desc := some desc, avail := some avail, used := none },
          some (.usedRing reason))
      | .ok used =>
        -- Resume from the driver-visible used index.
        let usedIdx := UInt16.ofNat (le32 (readAt host used 0 4) 0 / 65536)
        some ({ ring with
          desc := some desc
          avail := some avail
          used := some used
          usedIdx := usedIdx }, none)

def setVringAddrLocked (runtime : Runtime) : Option Answer :=
  match parseVringAddr message.payload with
  | .error reason => some (device.refuse message (.payload reason))
  | .ok addr =>
    match device.ring addr.index with
    | none => some (device.refuse message (.badVringIndex addr.index))
    | some index =>
      match device.mem with
      | none => some (device.refuse message .addrBeforeSetup)
      | some mem =>
        if (device.rings index).num = 0 then
          some (device.refuse message .addrBeforeSetup)
        else
          match mapRing runtime.host mem (device.rings index) addr with
          | none => none
          | some (ring, some reason) =>
            some (refuse (device.setRing index ring) message reason)
          | some (ring, none) =>
            let started := (device.setRing index ring).evalRing index
            some { accept started.1 message with effects := started.2 }

/-- Put a new kick or call descriptor in place; replacing the kick stops the
ring. -/
def replaceFD (isKick : Bool) (ring : Vring) (fd : Option Nat) : Vring × List Effect :=
  if isKick then
    ({ ring with
        started := if ring.kick.isSome then false else ring.started
        kick := fd }, ring.kick.toList.map .closeFd)
  else ({ ring with call := fd }, ring.call.toList.map .closeFd)

def takeFD (isKick : Bool) (index : RingIndex) (fd : Option Nat) (fds : List Nat) :
    Answer :=
  let replaced := replaceFD isKick (device.rings index) fd
  let started := (device.setRing index replaced.1).evalRing index
  ⟨started.1, fds, replaced.2 ++ started.2, none, none⟩

/-- `value` is the ring index with the flag for "no descriptor". -/
def setRingFD (isKick : Bool) (value : UInt64) : Answer :=
  let code := (value &&& vringIdxMask).toUInt32
  match device.ring code with
  | none => device.refuse message (.badVringIndex code)
  | some index =>
    if value &&& invalidFDFlag = 0 then
      match message.fds with
      | [] => device.refuse message .missingFD
      | fd :: rest => device.takeFD isKick index (some fd) rest
    else device.takeFD isKick index none message.fds

def setVringFDLocked (isKick : Bool) : Answer :=
  if message.payload.length < 8 then device.refuse message (.payload .shortVringFD)
  else device.setRingFD message isKick (UInt64.ofNat (le64 message.payload 0))

def setVringEnable : Answer :=
  match vringStatePayload message.payload with
  | .error reason => device.refuse message (.payload reason)
  | .ok (index, value) =>
    match device.ring index with
    | none => device.accept message
    | some index =>
      let ring := { device.rings index with enabled := value != 0 }
      if value = 0 then
        -- Pause; resumable.
        accept (device.setRing index { ring with started := false }) message
      else
        let started := (device.setRing index ring).evalRing index
        { accept started.1 message with effects := started.2 }

def process (runtime : Runtime) : Option Answer :=
  match Request.ofCode message.req with
  | some .getFeatures =>
    some { device.accept message with reply := some (u64Payload device.offered) }
  | some .setFeatures => some (device.setFeatures message)
  | some .getProtocolFeatures =>
    some { device.accept message with
      reply := some (u64Payload supportedProtocolFeatures) }
  | some .setProtocolFeatures => some (device.setProtocolFeatures message)
  | some .setOwner | some .setVringErr => some (device.accept message)
  | some .resetOwner => some (device.resetOwner message)
  | some .setMemTable => device.setMemTableLocked message runtime
  | some .setVringNum => some (device.setVringNum message)
  | some .setVringBase => some (device.setVringBase message)
  | some .getVringBase => some (device.getVringBase message)
  | some .setVringAddr => device.setVringAddrLocked message runtime
  | some .setVringKick => some (device.setVringFDLocked message true)
  | some .setVringCall => some (device.setVringFDLocked message false)
  | some .setVringEnable => some (device.setVringEnable message)
  | none => some (device.refuse message (.unsupportedRequest message.req))

def respond (runtime : Runtime) (answer : Answer) : List Effect × Option HandleError :=
  let written := fun (payload : Bytes) (err : Option HandleError) =>
    ([Effect.reply message.req payload],
      if runtime.replySent then err else some .replyFailed)
  match answer.reply with
  | some payload => written payload none
  | none =>
    if message.flags &&& flagNeedReply ≠ 0 ∧
        answer.device.protoFeatures &&& protoFeatReplyAck ≠ 0 then
      written (u64Payload (if answer.err.isSome then 1 else 0)) answer.err
    else ([], answer.err)

/-- One control message; `none` is a panic. -/
def handle (runtime : Runtime) :
    Option (NetDevice × List Effect × Option HandleError) :=
  match device.process message runtime with
  | none => none
  | some answer =>
    let response := respond message runtime answer
    some (answer.device,
      answer.effects ++ response.1 ++ answer.fds.map .closeFd, response.2)

end Requests

/-! ## What a request comes to -/

/-- A ring is started once it is mapped and has a kick; the pump of the transmit
ring is started with it, or poked. -/
theorem evalRingLocked_cases (device : NetDevice) (index : RingIndex) (ring : Vring) :
    device.evalRingLocked index ring = (ring, []) ∨
      ∃ kick, device.mem.isSome = true ∧ ring.desc.isSome = true ∧ ring.kick = some kick ∧
        device.evalRingLocked index ring =
          if index = txQueue then
            if ring.pumpRunning then ({ ring with started := true }, [.poke kick, .up])
            else ({ ring with started := true, pumpRunning := true }, [.startPump kick, .up])
          else ({ ring with started := true }, []) := by
  unfold evalRingLocked
  split
  · exact .inl rfl
  split
  · exact .inl rfl
  rename_i hready
  simp only [Bool.or_eq_true, not_or, Bool.not_eq_true, Option.isNone_eq_false_iff]
    at hready
  obtain ⟨⟨⟨hm, -⟩, hdesc⟩, hkick⟩ := hready
  obtain ⟨kick, hkick⟩ := Option.isSome_iff_exists.mp hkick
  split
  · exact .inl rfl
  refine .inr ⟨kick, hm, hdesc, hkick, ?_⟩
  rw [hkick]
  rfl

theorem mapRing_cases {host : Host} {mem : MemTable} {ring after : Vring} {addr : VringAddr}
    {err : Option HandleError} (h : mapRing host mem ring addr = some (after, err)) :
    (∃ reason, mem.uvaSlice addr.desc (ring.num.toUInt64 * 16) = .error reason ∧
      after = { ring with desc := none } ∧ err = some (.descTable reason)) ∨
    ∃ desc, mem.uvaSlice addr.desc (ring.num.toUInt64 * 16) = .ok desc ∧
      ((∃ reason, mem.uvaSlice addr.avail (4 + ring.num.toUInt64 * 2 + 2) = .error reason ∧
        after = { ring with desc := some desc, avail := none } ∧
        err = some (.availRing reason)) ∨
      ∃ avail, mem.uvaSlice addr.avail (4 + ring.num.toUInt64 * 2 + 2) = .ok avail ∧
        ((∃ reason, mem.uvaSlice addr.used (4 + ring.num.toUInt64 * 8 + 2) = .error reason ∧
          after = { ring with desc := some desc, avail := some avail, used := none } ∧
          err = some (.usedRing reason)) ∨
        ∃ used, mem.uvaSlice addr.used (4 + ring.num.toUInt64 * 8 + 2) = .ok used ∧
          after = { ring with
            desc := some desc
            avail := some avail
            used := some used
            usedIdx := UInt16.ofNat (le32 (readAt host used 0 4) 0 / 65536) } ∧
          err = none)) := by
  dsimp only [mapRing] at h
  split at h
  · cases h
  · rename_i reason hreason
    cases h
    exact .inl ⟨reason, hreason, rfl, rfl⟩
  rename_i desc hdesc
  refine .inr ⟨desc, hdesc, ?_⟩
  split at h
  · cases h
  · rename_i reason hreason
    cases h
    exact .inl ⟨reason, hreason, rfl, rfl⟩
  rename_i avail havail
  refine .inr ⟨avail, havail, ?_⟩
  split at h
  · cases h
  · rename_i reason hreason
    cases h
    exact .inl ⟨reason, hreason, rfl, rfl⟩
  · rename_i used hu
    cases h
    exact .inr ⟨used, hu, rfl, rfl⟩

structure Addresses (device : NetDevice) (payload : Bytes) (addr : VringAddr)
    (index : RingIndex) (mem : MemTable) : Prop where
  parsed : parseVringAddr payload = .ok addr
  ring : device.ring addr.index = some index
  mem : device.mem = some mem
  num : (device.rings index).num ≠ 0

/-- What the answer of a request is: refused, with the regions unmapped that were
mapped for it, or accepted, and what was done to the rings. -/
inductive Processed (device : NetDevice) (message : Message) (runtime : Runtime) :
    Answer → Prop
  | refused (reason : HandleError) (regions : List MemRegion)
      (hnowhere : Request.ofCode message.req = some .setVringAddr →
        ∀ addr index mem, ¬ device.Addresses message.payload addr index mem) :
      Processed device message runtime
        { device.refuse message reason with effects := unmapAll regions }
  | kept (after : NetDevice) (reply : Option Bytes) (hrings : after.rings = device.rings)
      (hmem : after.mem = device.mem) :
      Processed device message runtime { accept after message with reply := reply }
  | reset : Processed device message runtime (device.resetOwner message)
  | installed (table : MemTable) :
      Processed device message runtime { accept (device.installMemTable table).1 message with
        effects := (device.installMemTable table).2 }
  | resized (code num : UInt32) (index : RingIndex)
      (hrequest : Request.ofCode message.req = some .setVringNum)
      (hpayload : vringStatePayload message.payload = .ok (code, num))
      (hindex : device.ring code = some index) (hvalid : validNum num = true) :
      Processed device message runtime
        (accept (device.setRing index { device.rings index with num := num }) message)
  | rebased (code base : UInt32) (index : RingIndex)
      (hrequest : Request.ofCode message.req = some .setVringBase)
      (hpayload : vringStatePayload message.payload = .ok (code, base))
      (hindex : device.ring code = some index) :
      Processed device message runtime (accept (device.setRing index
        { device.rings index with lastAvail := base.toUInt16 }) message)
  | stopped (index : RingIndex) (reply : Option Bytes) :
      Processed device message runtime
        { accept (device.setRing index (stopRingLocked (device.rings index)).1) message with
          effects := (stopRingLocked (device.rings index)).2
          reply := reply }
  | misplaced (addr : VringAddr) (index : RingIndex) (mem : MemTable) (ring : Vring)
      (reason : HandleError) (hrequest : Request.ofCode message.req = some .setVringAddr)
      (haddresses : device.Addresses message.payload addr index mem)
      (hmap : mapRing runtime.host mem (device.rings index) addr = some (ring, some reason)) :
      Processed device message runtime (refuse (device.setRing index ring) message reason)
  | mapped (addr : VringAddr) (index : RingIndex) (mem : MemTable) (ring : Vring)
      (hrequest : Request.ofCode message.req = some .setVringAddr)
      (haddresses : device.Addresses message.payload addr index mem)
      (hmap : mapRing runtime.host mem (device.rings index) addr = some (ring, none)) :
      Processed device message runtime
        { accept ((device.setRing index ring).evalRing index).1 message with
          effects := ((device.setRing index ring).evalRing index).2 }
  | wired (isKick : Bool) (index : RingIndex) (fd : Option Nat) (rest : List Nat)
      (hfds : message.fds = fd.toList ++ rest) :
      Processed device message runtime (device.takeFD isKick index fd rest)
  | paused (index : RingIndex) (enabled : Bool) :
      Processed device message runtime (accept (device.setRing index
        { device.rings index with enabled := enabled, started := false }) message)
  | enabled (index : RingIndex) (enabled : Bool) :
      Processed device message runtime
        { accept ((device.setRing index
            { device.rings index with enabled := enabled }).evalRing index).1 message with
          effects := ((device.setRing index
            { device.rings index with enabled := enabled }).evalRing index).2 }

section Processed

variable {device : NetDevice} {message : Message} {runtime : Runtime} {answer : Answer}

theorem Processed.refuse (hreq : ofCode message.req ≠ some .setVringAddr)
    (reason : HandleError) :
    Processed device message runtime (device.refuse message reason) :=
  .refused reason [] fun h => absurd h hreq

theorem Processed.accept {after : NetDevice} (hrings : after.rings = device.rings)
    (hm : after.mem = device.mem) :
    Processed device message runtime (NetDevice.accept after message) :=
  .kept after none hrings hm

theorem processed_setFeatures (hreq : ofCode message.req ≠ some .setVringAddr) :
    Processed device message runtime (device.setFeatures message) := by
  dsimp only [setFeatures, takeFeatures]
  split
  · split
    · exact .refuse hreq _
    · exact .accept rfl rfl
  · exact .accept rfl rfl

theorem processed_setMemTableLocked (hreq : ofCode message.req ≠ some .setVringAddr)
    (h : device.setMemTableLocked message runtime = some answer) :
    Processed device message runtime answer := by
  unfold setMemTableLocked at h
  split at h
  · cases h
  · cases h
    exact .refused _ _ fun ho => absurd ho hreq
  · cases h
    exact .installed _

theorem processed_setVringNum (hreq : ofCode message.req = some .setVringNum) :
    Processed device message runtime (device.setVringNum message) := by
  have ho : ofCode message.req ≠ some .setVringAddr := by simp [hreq]
  unfold setVringNum
  split
  · exact .refuse ho _
  rename_i code num hpay
  split
  · exact .refuse ho _
  rename_i index hidx
  split
  · rename_i hval
    exact .resized code num index hreq hpay hidx hval
  · exact .refuse ho _

theorem processed_setVringBase (hreq : ofCode message.req = some .setVringBase) :
    Processed device message runtime (device.setVringBase message) := by
  unfold setVringBase
  split
  · exact .refuse (by simp [hreq]) _
  rename_i code base hpay
  split
  · exact .accept rfl rfl
  · rename_i index hidx
    exact .rebased code base index hreq hpay hidx

theorem processed_getVringBase (hreq : ofCode message.req ≠ some .setVringAddr) :
    Processed device message runtime (device.getVringBase message) := by
  unfold getVringBase
  split
  · exact .refuse hreq _
  split
  · exact .refuse hreq _
  · exact .stopped _ _

theorem processed_setVringAddrLocked (hreq : ofCode message.req = some .setVringAddr)
    (h : device.setVringAddrLocked message runtime = some answer) :
    Processed device message runtime answer := by
  unfold setVringAddrLocked at h
  split at h
  · rename_i reason hpay
    cases h
    refine .refused _ [] fun _ addr index mem haddrs => ?_
    cases hpay.symm.trans haddrs.parsed
  · rename_i addr hpay
    split at h
    · rename_i hidx
      cases h
      refine .refused _ [] fun _ other index mem haddrs => ?_
      cases hpay.symm.trans haddrs.parsed
      cases hidx.symm.trans haddrs.ring
    · rename_i index hidx
      split at h
      · rename_i hm
        cases h
        refine .refused _ [] fun _ other index mem haddrs => ?_
        cases hm.symm.trans haddrs.mem
      · rename_i mem hm
        split at h
        · rename_i hnum
          cases h
          refine .refused _ [] fun _ other found mem haddrs => ?_
          cases hpay.symm.trans haddrs.parsed
          cases hidx.symm.trans haddrs.ring
          exact haddrs.num hnum
        · rename_i hnum
          split at h
          · cases h
          · rename_i ring reason hmap
            cases h
            exact .misplaced addr index mem ring reason hreq ⟨hpay, hidx, hm, hnum⟩ hmap
          · rename_i ring hmap
            cases h
            exact .mapped addr index mem ring hreq ⟨hpay, hidx, hm, hnum⟩ hmap

theorem processed_setRingFD (hreq : ofCode message.req ≠ some .setVringAddr)
    (isKick : Bool) (value : UInt64) :
    Processed device message runtime (device.setRingFD message isKick value) := by
  dsimp only [setRingFD]
  split
  · exact .refuse hreq _
  split
  · split
    · exact .refuse hreq _
    · rename_i fd rest hfds
      exact .wired isKick _ (some fd) rest hfds
  · exact .wired isKick _ none message.fds rfl

theorem processed_setVringFDLocked (hreq : ofCode message.req ≠ some .setVringAddr)
    (isKick : Bool) :
    Processed device message runtime (device.setVringFDLocked message isKick) := by
  unfold setVringFDLocked
  split
  · exact .refuse hreq _
  · exact processed_setRingFD hreq isKick _

theorem processed_process (h : device.process message runtime = some answer) :
    Processed device message runtime answer := by
  unfold process at h
  cases hcode : ofCode message.req with
  | none =>
    rw [hcode] at h
    cases h
    exact .refuse (by simp [hcode]) _
  | some request =>
    rw [hcode] at h
    by_cases haddr : request = .setVringAddr
    · subst haddr
      exact processed_setVringAddrLocked hcode h
    have hreq : ofCode message.req ≠ some .setVringAddr := by
      rw [hcode]
      exact fun heq => haddr (Option.some.inj heq)
    cases request with
    | setVringAddr => exact absurd rfl haddr
    | getFeatures | getProtocolFeatures =>
      cases h
      exact .kept device _ rfl rfl
    | setOwner | setVringErr =>
      cases h
      exact .accept rfl rfl
    | setFeatures =>
      cases h
      exact processed_setFeatures hreq
    | setProtocolFeatures =>
      cases h
      unfold setProtocolFeatures
      split
      · exact .accept rfl rfl
      · exact .accept rfl rfl
    | resetOwner =>
      cases h
      exact .reset
    | setMemTable => exact processed_setMemTableLocked hreq h
    | setVringNum =>
      cases h
      exact processed_setVringNum hcode
    | setVringBase =>
      cases h
      exact processed_setVringBase hcode
    | getVringBase =>
      cases h
      exact processed_getVringBase hreq
    | setVringKick | setVringCall =>
      cases h
      exact processed_setVringFDLocked hreq _
    | setVringEnable =>
      cases h
      unfold setVringEnable
      split
      · exact .refuse hreq _
      split
      · exact .accept rfl rfl
      dsimp only
      split
      · exact .paused _ _
      · exact .enabled _ _

end Processed

end NetDevice

/-! ## Sessions -/

/-- What happens to a device.  The data path only moves the ring indices and
ends or restarts its pump. -/
inductive Action where
  | message (runtime : Runtime) (message : Message)
  | dataplane (index : RingIndex) (lastAvail usedIdx : UInt16) (pumpRunning : Bool)
  | close

def NetDevice.apply (device : NetDevice) : Action → Option NetDevice
  | .message runtime message => (device.handle message runtime).map (·.1)
  | .dataplane index lastAvail usedIdx pumpRunning =>
    some (device.setRing index { device.rings index with
      lastAvail := lastAvail
      usedIdx := usedIdx
      pumpRunning := pumpRunning })
  | .close => some device.close.1

def NetDevice.Initial (device : NetDevice) : Prop :=
  ∃ accessPlatform, device = newNetDevice accessPlatform

def NetDevice.Step (device : NetDevice) (action : Action) (after : NetDevice) : Prop :=
  device.apply action = some after

end GvSwitch.VhostUser
