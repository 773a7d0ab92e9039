import GvSwitch.VhostUser.Memory

/-!
# Device-side split virtqueue

The driver's descriptor table and available ring are read, and the used ring is
written, through slices of mapped guest memory.  Indices that the guest wrote
are reduced modulo the ring size; the accesses still panic when a slice is
shorter than the ring size says.
-/

namespace GvSwitch.VhostUser

open Foundation

def descSize : Nat := 16

def descFlagNext : UInt16 := 1

def descFlagWrite : UInt16 := 2

def descFlagIndirect : UInt16 := 4

def maxChainLen : Nat := 256

/-- A nil slice or file is `none`. -/
structure Vring where
  num : UInt32 := 0
  desc : Option Slice := none
  avail : Option Slice := none
  used : Option Slice := none
  lastAvail : UInt16 := 0
  usedIdx : UInt16 := 0
  kick : Option Nat := none
  call : Option Nat := none
  enabled : Bool := false
  started : Bool := false
  pumpRunning : Bool := false
  deriving DecidableEq, Repr

inductive ChainError where
  | tooLong
  | descriptorRange (index : UInt16)
  | indirect
  | segment (reason : MemError)
  | readableAfterWritable
  deriving DecidableEq, Repr

/-! ## Reading and writing through slices -/

def readAt (host : Host) (slice : Slice) (offset count : Nat) : Bytes :=
  (List.range count).map fun index => host (slice.base + offset + index)

def writeAt (host : Host) (slice : Slice) (offset : Nat) (bytes : Bytes) : Host :=
  fun address =>
    if slice.base + offset ≤ address ∧ address < slice.base + offset + bytes.length then
      byteAt bytes (address - (slice.base + offset))
    else host address

def sliceLen (slice : Option Slice) : Nat := (slice.map (·.len)).getD 0

/-- `f(s[offset:])` where `f` touches the first `count` bytes. -/
def within {ε : Type} (slice : Option Slice) (offset count : Nat) : Outcome ε Slice :=
  match slice with
  | none => .panic
  | some slice => if offset + count ≤ slice.len then .ok slice else .panic

/-- The index check of `&b[0]`; the access then goes through the raw pointer. -/
def headOf {ε : Type} (slice : Option Slice) : Outcome ε Slice := within slice 0 1

def atomicLoadU32 {ε : Type} (host : Host) (slice : Option Slice) : Outcome ε Nat := do
  let slice ← headOf slice
  return le32 (readAt host slice 0 4) 0

namespace Vring

/-! ## Ring operations -/

def availIdx {ε : Type} (ring : Vring) (host : Host) : Outcome ε UInt16 := do
  let word ← atomicLoadU32 host ring.avail
  return UInt16.ofNat (word / 65536)

/-- `x % num` on `uint32`: zero divides with a panic. -/
def slot {ε : Type} (ring : Vring) (index : UInt32) : Outcome ε Nat :=
  if ring.num = 0 then .panic else .ok (index % ring.num).toNat

def availEntry {ε : Type} (ring : Vring) (host : Host) (index : UInt16) :
    Outcome ε UInt16 := do
  let position ← ring.slot index.toUInt32
  let slice ← within ring.avail (4 + 2 * position) 2
  return UInt16.ofNat (le16 (readAt host slice (4 + 2 * position) 2) 0)

def publishUsed {ε : Type} (ring : Vring) (host : Host) (count : UInt16) :
    Outcome ε (Vring × Host) := do
  let usedIdx := ring.usedIdx + count
  let slice ← headOf ring.used
  return ({ ring with usedIdx := usedIdx },
    writeAt host slice 0 (putLE32 (usedIdx.toNat * 65536)))

def setUsedElem {ε : Type} (ring : Vring) (host : Host) (slot head : UInt16)
    (written : UInt32) : Outcome ε Host := do
  let position ← ring.slot (ring.usedIdx.toUInt32 + slot.toUInt32)
  let offset := 4 + 8 * position
  let slice ← within ring.used offset 4
  let host := writeAt host slice offset (putLE32 head.toNat)
  let slice ← within ring.used (offset + 4) 4
  return writeAt host slice (offset + 4) (putLE32 written.toNat)

structure Descriptor where
  addr : UInt64
  len : UInt32
  flags : UInt16
  next : UInt16
  deriving DecidableEq, Repr

def descAt (ring : Vring) (host : Host) (index : UInt16) :
    Outcome ChainError Descriptor :=
  if ring.num ≤ index.toUInt32 then .error (.descriptorRange index)
  else do
    let offset := index.toNat * descSize
    let slice ← within ring.desc offset descSize
    let bytes := readAt host slice offset descSize
    return ⟨UInt64.ofNat (le64 bytes 0), UInt32.ofNat (le32 bytes 8),
      UInt16.ofNat (le16 bytes 12), UInt16.ofNat (le16 bytes 14)⟩

structure Chain where
  readable : List Slice
  writable : List Slice
  deriving DecidableEq, Repr

/-- Walk a chain; `fuel` counts down from `maxChainLen`. -/
def walkChain (ring : Vring) (host : Host) (mem : MemTable) (fuel : Nat)
    (chain : Chain) (index : UInt16) : Outcome ChainError Chain :=
  match fuel with
  | 0 => .error .tooLong
  | fuel + 1 => do
      let descriptor ← ring.descAt host index
      if descriptor.flags &&& descFlagIndirect ≠ 0 then .error .indirect
      else
        match mem.gpaSlice descriptor.addr descriptor.len.toUInt64 with
        | .panic => .panic
        | .error reason => .error (.segment reason)
        | .ok segment =>
          if descriptor.flags &&& descFlagWrite = 0 ∧ chain.writable ≠ [] then
            .error .readableAfterWritable
          else
            let chain : Chain :=
              if descriptor.flags &&& descFlagWrite ≠ 0 then
                { chain with writable := chain.writable ++ [segment] }
              else { chain with readable := chain.readable ++ [segment] }
            if descriptor.flags &&& descFlagNext = 0 then .ok chain
            else walkChain ring host mem fuel chain descriptor.next

def resolveChain (ring : Vring) (host : Host) (mem : MemTable) (head : UInt16) :
    Outcome ChainError Chain :=
  ring.walkChain host mem maxChainLen ⟨[], []⟩ head

def popAvail {ε : Type} (ring : Vring) (host : Host) :
    Outcome ε (Option (UInt16 × Vring)) := do
  let index ← ring.availIdx host
  if ring.lastAvail = index then return none
  else
    let head ← ring.availEntry host ring.lastAvail
    return some (head, { ring with lastAvail := ring.lastAvail + 1 })

def available (ring : Vring) (host : Host) : Nat :=
  match (ring.availIdx host : Outcome Empty UInt16) with
  | .ok index => (index - ring.lastAvail).toNat
  | _ => 0

end Vring

end GvSwitch.VhostUser
