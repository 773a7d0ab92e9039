import GvSwitch.SwitchCore.Port
import Mathlib.Tactic.Common

/-!
# VLAN classification and frame rendering

`parseFrame` reads the 802.1Q tag behind the two MAC addresses.  `ingressKey`
maps a parsed frame to the internal VLAN key of the port it came in on, and
`egressFrame` renders the frame for the port it leaves through.
-/

namespace GvSwitch.SwitchCore

open Foundation

def etherTypeVLAN : Nat := 0x8100

def ethHeaderLen : Nat := 14

def untaggedKey : Int := 0

abbrev MAC := Vector UInt8 6

/-- Six bytes at an offset, zero-padded past the end as `copy` leaves them. -/
def macAt (data : Bytes) (offset : Nat) : MAC :=
  Vector.ofFn fun index => byteAt data (offset + index.val)

def int32 (value : Int) : Int := (value + 2147483648) % 4294967296 - 2147483648

theorem int32_of_range {value : Int} (hlow : -2147483648 ≤ value)
    (hhigh : value < 2147483648) : int32 value = value := by
  unfold int32
  rw [Int.emod_eq_of_lt (by omega) (by omega)]
  omega

structure FrameView where
  data : Bytes
  tagged : Bool
  vid : Nat
  deriving DecidableEq, Repr

def parseFrame (data : Bytes) : Option FrameView :=
  if data.length < ethHeaderLen then none
  else if be16 data 12 = etherTypeVLAN then
    if data.length < ethHeaderLen + 4 then none
    else some ⟨data, true, be16 data 14 % 0x1000⟩
  else some ⟨data, false, 0⟩

def FrameView.dstMAC (frame : FrameView) : MAC := macAt frame.data 0

def FrameView.srcMAC (frame : FrameView) : MAC := macAt frame.data 6

def ingressKey (attrs : PortAttrs) (frame : FrameView) : Option Int :=
  if attrs.vlan = vlanTrunk then
    -- A VID-0 tag is a priority tag and lands in the untagged domain.
    if frame.tagged then some (Int.ofNat frame.vid) else some untaggedKey
  else if attrs.vlan = vlanUntaggedOnly then
    if frame.tagged then none else some untaggedKey
  else if frame.tagged then none
  else some (int32 attrs.vlan)

/-- The VLAN part of egress eligibility: may key `key` leave through the port? -/
def PortAttrs.admits (attrs : PortAttrs) (key : Int) : Bool :=
  if attrs.vlan = vlanTrunk then true
  else if attrs.vlan = vlanUntaggedOnly then key == untaggedKey
  else key == int32 attrs.vlan

def egressEligible (srcAttrs dstAttrs : PortAttrs) (key : Int) : Bool :=
  if dstAttrs.disabled then false
  else if srcAttrs.isolated && dstAttrs.isolated then false
  else dstAttrs.admits key

def vlanTag (key : Int) : Bytes :=
  putBE16 etherTypeVLAN ++ putBE16 ((key % 65536).toNat % 0x1000)

def untaggedForm (frame : FrameView) : Bytes :=
  if frame.tagged then frame.data.take 12 ++ frame.data.drop 16
  else frame.data

def taggedForm (frame : FrameView) (key : Int) : Bytes :=
  if frame.tagged then frame.data
  else frame.data.take 12 ++ vlanTag key ++ frame.data.drop 12

def egressFrame (frame : FrameView) (key : Int) (dstAttrs : PortAttrs) : Bytes :=
  if dstAttrs.vlan = vlanTrunk ∧ key ≠ untaggedKey then taggedForm frame key
  else untaggedForm frame

/-! ## Parsing -/

variable {data : Bytes} {frame : FrameView}

theorem parseFrame_data (h : parseFrame data = some frame) : frame.data = data := by
  unfold parseFrame at h
  split at h
  · cases h
  split at h
  · split at h
    · cases h
    · cases h
      rfl
  · cases h
    rfl

theorem parseFrame_tagged_iff (h : parseFrame data = some frame) :
    frame.tagged = true ↔ be16 data 12 = etherTypeVLAN := by
  unfold parseFrame at h
  split at h
  · cases h
  split at h
  · rename_i hty
    split at h
    · cases h
    · cases h
      simp [hty]
  · rename_i hty
    cases h
    simp [hty]

theorem parseFrame_eq_none_iff (data : Bytes) :
    parseFrame data = none ↔
      data.length < 14 ∨ be16 data 12 = etherTypeVLAN ∧ data.length < 18 := by
  unfold parseFrame ethHeaderLen
  split <;> rename_i hshort
  · simp [hshort]
  split <;> rename_i hty
  · split <;> rename_i htag <;> simp [hshort, hty, htag]
  · simp [hshort, hty]

theorem parseFrame_of_untagged (hlen : 14 ≤ data.length)
    (hty : be16 data 12 ≠ etherTypeVLAN) : parseFrame data = some ⟨data, false, 0⟩ := by
  simp [parseFrame, ethHeaderLen, hty, Nat.not_lt.mpr hlen]

theorem parseFrame_of_tagged (hlen : 18 ≤ data.length) (hty : be16 data 12 = etherTypeVLAN) :
    parseFrame data = some ⟨data, true, be16 data 14 % 0x1000⟩ := by
  have hhdr : ¬ data.length < 14 := by omega
  have htag : ¬ data.length < 18 := by omega
  simp [parseFrame, ethHeaderLen, hty, hhdr, htag]

theorem parseFrame_length (h : parseFrame data = some frame) :
    14 ≤ data.length ∧ (frame.tagged = true → 18 ≤ data.length) := by
  have hsome : parseFrame data ≠ none := by simp [h]
  rw [Ne, parseFrame_eq_none_iff] at hsome
  have htagged := parseFrame_tagged_iff h
  constructor
  · omega
  intro ht
  have hty := htagged.mp ht
  omega

end GvSwitch.SwitchCore
