import GvSwitch.VhostUser.Queue

/-!
# The data path

`drainTXLocked` and `WriteFrame` run under the device lock, but the guest goes
on writing its memory meanwhile.  Both are loops over the available ring:
`turn` is one turn of the loop of the call in progress, or what follows the
loop, and the guest may write between two turns.  What was taken from the
available ring and what was put into the used ring is recorded beside the state.
-/

namespace GvSwitch.VhostUser

open Foundation

def virtioNetHdrSize : Nat := 12

def maxFrameSize : Nat := 65535

def availFlagNoInterrupt : UInt16 := 1

namespace Vring

def availNoInterrupt {ε : Type} (ring : Vring) (host : Host) : Outcome ε Bool := do
  let word ← atomicLoadU32 host ring.avail
  return UInt16.ofNat word &&& availFlagNoInterrupt != 0

def notify {ε : Type} (ring : Vring) (host : Host) : Outcome ε (Option Nat) :=
  match ring.call with
  | none => .ok none
  | some fd => do
      let suppressed ← ring.availNoInterrupt host
      return if suppressed then none else some fd

end Vring

/-! ## Transmitted frames -/

def gatherFrom (host : Host) : Nat → List Slice → Bytes
  | _, [] => []
  | skip, segment :: rest =>
    if segment.len ≤ skip then gatherFrom host (skip - segment.len) rest
    else readAt host segment skip (segment.len - skip) ++ gatherFrom host 0 rest

/-- The frame in the readable segments, behind the virtio-net header. -/
def gatherTX (host : Host) (chain : Vring.Chain) : Option Bytes :=
  let total := (chain.readable.map (·.len)).sum
  if total ≤ virtioNetHdrSize ∨ total - virtioNetHdrSize > maxFrameSize then none
  else some (gatherFrom host virtioNetHdrSize chain.readable)

/-! ## Received frames -/

structure UsedChain where
  head : UInt16
  written : UInt32 := 0
  deriving DecidableEq, Repr

structure Filling where
  startAvail : UInt16
  used : List UsedChain
  hdrSeg : Option Slice
  remaining : Nat
  src : Bytes
  hdrLeft : Nat

/-- Copy into one segment; `fuel` is its length, since every turn copies
something. -/
def fillSegment : Nat → Host → Filling → UInt32 → Slice → Host × Filling × UInt32
  | 0, host, filling, written, _ => (host, filling, written)
  | fuel + 1, host, filling, written, segment =>
    if segment.len > 0 ∧ filling.remaining > 0 then
      -- What is left of the header, which is zero, and then the frame.
      let source :=
        if filling.hdrLeft > 0 then List.replicate filling.hdrLeft 0 else filling.src
      let count := min segment.len source.length
      let filling :=
        if filling.hdrLeft > 0 then
          { filling with
            hdrSeg := filling.hdrSeg.or (some segment)
            hdrLeft := filling.hdrLeft - count
            remaining := filling.remaining - count }
        else
          { filling with
            src := filling.src.drop count
            remaining := filling.remaining - count }
      fillSegment fuel (writeAt host segment 0 (source.take count)) filling
        (written + UInt32.ofNat count) ⟨segment.base + count, segment.len - count⟩
    else (host, filling, written)

def fillChain : Host → Filling → UInt32 → List Slice → Host × Filling × UInt32
  | host, filling, written, [] => (host, filling, written)
  | host, filling, written, segment :: rest =>
    let filled := fillSegment segment.len host filling written segment
    if filled.2.1.remaining = 0 then filled
    else fillChain filled.1 filled.2.1 filled.2.2 rest

namespace Vring

def setUsedElems {ε : Type} (ring : Vring) : Host → Nat → List UsedChain → Outcome ε Host
  | host, _, [] => .ok host
  | host, index, used :: rest => do
      let host ← ring.setUsedElem host (UInt16.ofNat index) used.head used.written
      ring.setUsedElems host (index + 1) rest

def giveBack {ε : Type} (ring : Vring) (host : Host) (used : List UsedChain) :
    Outcome ε (Vring × Host) := do
  let host ← ring.setUsedElems host 0 used
  ring.publishUsed host (UInt16.ofNat used.length)

end Vring

/-- `num_buffers`, in the header that is already in guest memory. -/
def patchHeader (host : Host) (hdrSeg : Option Slice) (count : Nat) : Host :=
  match hdrSeg with
  | none => host
  | some segment =>
    if virtioNetHdrSize ≤ segment.len then
      writeAt host segment 10 (putLE16 (count % 65536))
    else host

/-! ## Calls in progress -/

/-- An entry taken from the available ring, and the memory it was read from. -/
structure Pop where
  memory : Host
  index : UInt16
  head : UInt16

inductive CallResult where
  | frames (frames : List Bytes)
  | sent (delivered : Bool)
  deriving DecidableEq, Repr

inductive Call where
  | returned (result : CallResult)
  | draining (frames : List Bytes) (count : Nat)
  | writing (filling : Filling)

structure Dataplane where
  ring : Vring
  mem : MemTable
  mrgRxbuf : Bool
  host : Host
  call : Call := .returned (.frames [])
  /-- The call descriptors signalled so far. -/
  signals : List Nat := []
  /-- Entries taken since the start; those of an unfinished `WriteFrame` are
  pending. -/
  consumed : List Pop := []
  pending : List Pop := []
  /-- Elements published since the start. -/
  published : List UsedChain := []

def noticed {ε δ α : Type} : Outcome ε α → Outcome δ (Option α)
  | .ok value => .ok (some value)
  | .error _ => .ok none
  | .panic => .panic

namespace Dataplane

variable (plane : Dataplane)

def pop (head : UInt16) : Pop := ⟨plane.host, plane.ring.lastAvail, head⟩

def drainSignal (count : Nat) : Outcome Empty (Option Nat) :=
  if count > 0 then plane.ring.notify plane.host else .ok none

def drainTurn (frames : List Bytes) (count : Nat) : Outcome Empty Dataplane := do
  match ← plane.ring.popAvail plane.host with
  | none =>
    let signal ← plane.drainSignal count
    return { plane with
      call := .returned (.frames frames)
      signals := plane.signals ++ signal.toList }
  | some (head, ring) =>
    let chain ← noticed (ring.resolveChain plane.host plane.mem head)
    let frame := chain.bind (gatherTX plane.host)
    let host ← ring.setUsedElem plane.host 0 head 0
    let result ← ring.publishUsed host 1
    return { plane with
      ring := result.1
      host := result.2
      call := .draining (frames ++ frame.toList) (count + 1)
      consumed := plane.consumed ++ [plane.pop head]
      published := plane.published ++ [⟨head, 0⟩] }

/-- Return chains, notify, and return from `WriteFrame`. -/
def complete (ring : Vring) (host : Host) (used : List UsedChain) (pops : List Pop)
    (delivered : Bool) : Outcome Empty Dataplane := do
  let result ← ring.giveBack host used
  let signal ← result.1.notify result.2
  return { plane with
    ring := result.1
    host := result.2
    call := .returned (.sent delivered)
    signals := plane.signals ++ signal.toList
    consumed := plane.consumed ++ pops
    pending := []
    published := plane.published ++ used }

def rollback (filling : Filling) : Dataplane :=
  { plane with
    ring := { plane.ring with lastAvail := filling.startAvail }
    call := .returned (.sent false)
    pending := [] }

def writeTurn (filling : Filling) : Outcome Empty Dataplane :=
  if filling.remaining = 0 then
    plane.complete plane.ring (patchHeader plane.host filling.hdrSeg filling.used.length)
      filling.used plane.pending true
  else if !plane.mrgRxbuf && filling.used.length == 1 then .ok (plane.rollback filling)
  else do
    match ← plane.ring.popAvail plane.host with
    | none => return plane.rollback filling
    | some (head, ring) =>
      match ← noticed (ring.resolveChain plane.host plane.mem head) with
      | none =>
        -- A malformed chain: everything goes back with length zero.
        let used := (filling.used ++ [UsedChain.mk head 0]).map
          fun chain => { chain with written := 0 }
        plane.complete ring plane.host used (plane.pending ++ [plane.pop head]) false
      | some chain =>
        let filled := fillChain plane.host filling 0 chain.writable
        return { plane with
          ring := ring
          host := filled.1
          call := .writing { filled.2.1 with
            used := filled.2.1.used ++ [⟨head, filled.2.2⟩] }
          pending := plane.pending ++ [plane.pop head] }

def enterWriteFrame (frame : Bytes) : Dataplane :=
  if frame.length > maxFrameSize ∨ plane.ring.started = false then
    { plane with call := .returned (.sent false) }
  else
    { plane with call := .writing {
        startAvail := plane.ring.lastAvail
        used := []
        hdrSeg := none
        remaining := virtioNetHdrSize + frame.length
        src := frame
        hdrLeft := virtioNetHdrSize } }

/-! ## Runs -/

inductive Move where
  | guest (host : Host)
  | drainTXLocked
  | writeFrame (frame : Bytes)
  | turn

def value? {ε α : Type} : Outcome ε α → Option α
  | .ok value => some value
  | _ => none

/-- A call begins when no other is in progress; a panic ends the run. -/
def apply : Move → Option Dataplane
  | .guest host => some { plane with host := host }
  | .drainTXLocked =>
    match plane.call with
    | .returned _ => some { plane with call := .draining [] 0 }
    | _ => none
  | .writeFrame frame =>
    match plane.call with
    | .returned _ => some (plane.enterWriteFrame frame)
    | _ => none
  | .turn =>
    match plane.call with
    | .returned _ => none
    | .draining frames count => value? (plane.drainTurn frames count)
    | .writing filling => value? (plane.writeTurn filling)

def Step (plane : Dataplane) (move : Move) (after : Dataplane) : Prop :=
  plane.apply move = some after

end Dataplane

end GvSwitch.VhostUser
