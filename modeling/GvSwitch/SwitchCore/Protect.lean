import GvSwitch.SwitchCore.Vlan

/-!
# Loop protection

BPDU recognition, the storm-control token bucket and the loop probe.
-/

namespace GvSwitch.SwitchCore

open Foundation

def bpduDstMAC : MAC := #v[0x01, 0x80, 0xc2, 0x00, 0x00, 0x00]

def isBPDU (dst : MAC) (frame : Bytes) : Bool :=
  if dst ≠ bpduDstMAC then false
  else if frame.length < ethHeaderLen + 3 then false
  -- An EtherType, not an 802.3 length.
  else if be16 frame 12 > 1500 then false
  else byteAt frame 14 == 0x42 && byteAt frame 15 == 0x42 &&
    byteAt frame 16 == 0x03

inductive BlockReason where
  | bpduGuard
  | loop
  deriving DecidableEq, Repr

/-! ## Storm control -/

structure StormBucket where
  tokens : Int := 0
  lastNano : Int := 0
  deriving DecidableEq, Repr

/-- Refill by the elapsed time, then take one token.  The refill is the floor
of `elapsed * pps / 10^9`, which the source computes in floating point. -/
def StormBucket.allow (bucket : StormBucket) (now : Int) (pps : Nat) :
    StormBucket × Bool :=
  let started := bucket.lastNano == 0
  let last := if started then now else bucket.lastNano
  let tokens := if started then Int.ofNat pps else bucket.tokens
  let elapsed := now - last
  let refilled :=
    if elapsed > 0 then
      let total := tokens + elapsed * pps / 1000000000
      if total > pps then Int.ofNat pps else total
    else tokens
  let lastNano := if started ∨ elapsed > 0 then now else last
  (⟨refilled - 1, lastNano⟩, decide (refilled - 1 ≥ 0))

/-! ## Loop probe -/

def loopProbeEtherType : Nat := 0x88B5

def loopProbeMagic : Nat := 0x67767377

def loopProbeDst : MAC := #v[0x03, 0x67, 0x76, 0x73, 0x77, 0x00]

def buildLoopProbe (bridgeID : UInt64) : Bytes :=
  loopProbeDst.toList ++ (0x02 : UInt8) :: (putBE32 ((bridgeID >>> 16).toNat % 4294967296) ++
    (bridgeID >>> 8).toUInt8 :: (putBE16 loopProbeEtherType ++
      putBE32 loopProbeMagic ++ putBE64 bridgeID.toNat ++ List.replicate 34 0))

def isOwnLoopProbe (instanceID : UInt64) (frame : Bytes) : Bool :=
  if frame.length < 26 then false
  else if be16 frame 12 ≠ loopProbeEtherType then false
  else if be32 frame 14 ≠ loopProbeMagic then false
  else be64 frame 18 == instanceID.toNat

end GvSwitch.SwitchCore
