import GvSwitch.SwitchCore.Forwarding

/-!
# Tags across the switch

A frame switched under a VLAN key should still belong to that VLAN when it
leaves: a trunk port that receives the rendered frame classifies it under the
same key, and the other ports receive it untagged.  Stripping the outer tag
exposes whatever stands behind it, so a second tag decides.
-/

namespace GvSwitch.SwitchCore

open Foundation

def keepsVlan (attrs : PortAttrs) (key : Int) (out : Bytes) : Bool :=
  match parseFrame out with
  | none => false
  | some frame =>
    if attrs.vlan = vlanTrunk then decide (ingressKey attrs frame = some key)
    else !frame.tagged

/-- No tag is stripped, or none is found behind the stripped one, or the trunk
reads a well-formed priority tag there. -/
def NoHiddenTag (attrs : PortAttrs) (key : Int) (data : Bytes) : Prop :=
  be16 data 12 ≠ etherTypeVLAN ∨ (attrs.vlan = vlanTrunk ∧ key ≠ untaggedKey) ∨
    be16 data 16 ≠ etherTypeVLAN ∨
    (attrs.vlan = vlanTrunk ∧ 22 ≤ data.length ∧ be16 data 18 % 0x1000 = 0)

/-! ## Rendered headers -/

private theorem be16_strip (data : Bytes) (hlen : 12 ≤ data.length) (offset : Nat) :
    be16 (data.take 12 ++ data.drop 16) (12 + offset) = be16 data (16 + offset) := by
  have htake : (data.take 12).length = 12 := by simp [hlen]
  have hbyte (index : Nat) : byteAt (data.take 12 ++ data.drop 16) (12 + index) =
      byteAt data (16 + index) := by
    rw [byteAt_append_right _ _ (by omega), htake, Nat.add_sub_cancel_left, byteAt_drop]
  simp only [be16, Nat.add_assoc, hbyte]

private theorem be16_insert (data tag : Bytes) (hlen : 12 ≤ data.length)
    (offset : Nat) (hoffset : offset + 1 < tag.length) :
    be16 (data.take 12 ++ tag ++ data.drop 12) (12 + offset) = be16 tag offset := by
  have htake : (data.take 12).length = 12 := by simp [hlen]
  have hbyte (index : Nat) (hidx : index < tag.length) :
      byteAt (data.take 12 ++ tag ++ data.drop 12) (12 + index) = byteAt tag index := by
    rw [List.append_assoc, byteAt_append_right _ _ (by omega), htake,
      Nat.add_sub_cancel_left, byteAt_append_left _ _ hidx]
  simp only [be16, Nat.add_assoc, hbyte offset (by omega), hbyte (offset + 1) hoffset]

theorem length_vlanTag (key : Int) : (vlanTag key).length = 4 := rfl

theorem be16_vlanTag (key : Int) : be16 (vlanTag key) 0 = etherTypeVLAN := by
  rw [vlanTag, be16_putBE16]
  rfl

variable {key : Int} {data : Bytes} {frame : FrameView}

theorem be16_vlanTag_vid (hlow : 0 ≤ key) (hhigh : key ≤ 4095) :
    be16 (vlanTag key) 2 = key.toNat := by
  have hvid : be16 (vlanTag key) 2 =
      be16 (putBE16 ((key % 65536).toNat % 0x1000) ++ []) 0 := rfl
  rw [hvid, be16_putBE16]
  omega

theorem parseFrame_taggedForm (hparse : parseFrame data = some frame)
    (huntagged : frame.tagged = false) (hlow : 0 ≤ key) (hhigh : key ≤ 4095) :
    parseFrame (taggedForm frame key) =
      some ⟨taggedForm frame key, true, key.toNat⟩ := by
  have hlen := (parseFrame_length hparse).1
  have hform : taggedForm frame key =
      data.take 12 ++ vlanTag key ++ data.drop 12 := by
    simp [taggedForm, huntagged, parseFrame_data hparse]
  rw [hform]
  have hty := be16_insert data (vlanTag key) (by omega) 0 (by simp [length_vlanTag])
  have hvid := be16_insert data (vlanTag key) (by omega) 2 (by simp [length_vlanTag])
  rw [be16_vlanTag] at hty
  rw [be16_vlanTag_vid hlow hhigh] at hvid
  rw [parseFrame_of_tagged _ hty, hvid]
  · congr 2
    omega
  · simp only [List.length_append, List.length_take, List.length_drop, length_vlanTag]
    omega

theorem parseFrame_untaggedForm (hparse : parseFrame data = some frame)
    (htagged : frame.tagged = true) :
    parseFrame (untaggedForm frame) =
      if be16 data 16 ≠ etherTypeVLAN then some ⟨untaggedForm frame, false, 0⟩
      else if 22 ≤ data.length then
        some ⟨untaggedForm frame, true, be16 data 18 % 0x1000⟩
      else none := by
  have hlen := (parseFrame_length hparse).2 htagged
  have hform : untaggedForm frame = data.take 12 ++ data.drop 16 := by
    simp [untaggedForm, htagged, parseFrame_data hparse]
  have hsize : (data.take 12 ++ data.drop 16).length = data.length - 4 := by
    simp only [List.length_append, List.length_take, List.length_drop]
    omega
  have hty := be16_strip data (by omega) 0
  have hvid := be16_strip data (by omega) 2
  rw [hform]
  split
  · rename_i hplain
    refine parseFrame_of_untagged ?_ ?_
    · omega
    · rw [hty]
      exact hplain
  · rename_i hsnd
    rw [not_not] at hsnd
    split
    · rw [parseFrame_of_tagged (by omega) (hty.trans hsnd), hvid]
    · refine (parseFrame_eq_none_iff _).mpr (.inr ⟨hty.trans hsnd, ?_⟩)
      omega

/-! ## Rendering and the key -/

theorem ingressKey_of_untagged (attrs : CheckedAttrs) (huntagged : frame.tagged = false) :
    ingressKey attrs.toPortAttrs frame =
      some (if attrs.vlan = vlanTrunk then untaggedKey else attrs.vlan) := by
  have hlow := attrs.vlan_nonneg
  have hhigh := attrs.vlan_le
  have hint : int32 attrs.vlan = attrs.vlan := int32_of_range (by omega) (by omega)
  unfold ingressKey
  simp only [huntagged, Bool.false_eq_true, if_false, hint]
  split
  · rfl
  split
  · rename_i honly
    rw [honly]
    rfl
  · rfl

theorem ingressKey_range {attrs : CheckedAttrs}
    (hkey : ingressKey attrs.toPortAttrs frame = some key)
    (huntagged : frame.tagged = false) : 0 ≤ key ∧ key ≤ 4095 := by
  have hlow := attrs.vlan_nonneg
  have hhigh := attrs.vlan_le
  rw [ingressKey_of_untagged attrs huntagged] at hkey
  cases hkey
  unfold untaggedKey
  split <;> omega

theorem ingressKey_of_tagged {attrs : PortAttrs} (hkey : ingressKey attrs frame = some key)
    (htagged : frame.tagged = true) : key = Int.ofNat frame.vid := by
  unfold ingressKey at hkey
  split at hkey
  · cases hkey
    rfl
  · split at hkey <;> cases hkey

theorem ingressKey_trunk {attrs : PortAttrs} (htrunk : attrs.vlan = vlanTrunk)
    (frame : FrameView) :
    ingressKey attrs frame =
      some (if frame.tagged then Int.ofNat frame.vid else untaggedKey) := by
  unfold ingressKey
  rw [if_pos htrunk]
  split <;> rfl

theorem keepsVlan_of_untagged {srcAttrs : CheckedAttrs} {dstAttrs : PortAttrs}
    (hparse : parseFrame data = some frame)
    (hkey : ingressKey srcAttrs.toPortAttrs frame = some key)
    (huntagged : frame.tagged = false) :
    keepsVlan dstAttrs key (egressFrame frame key dstAttrs) = true := by
  obtain ⟨hlow, hhigh⟩ := ingressKey_range hkey huntagged
  unfold egressFrame
  split
  · rename_i hinsert
    unfold keepsVlan
    rw [parseFrame_taggedForm hparse huntagged hlow hhigh]
    simp only [hinsert.1, if_true, ingressKey_trunk hinsert.1, decide_eq_true_eq]
    exact congrArg some (Int.toNat_of_nonneg hlow)
  · rename_i hkeep
    have hform : untaggedForm frame = data := by
      simp [untaggedForm, huntagged, parseFrame_data hparse]
    unfold keepsVlan
    rw [hform, hparse]
    dsimp only
    split
    · rename_i htrunk
      have hzero : key = untaggedKey := by
        by_contra hne
        exact hkeep ⟨htrunk, hne⟩
      simp [ingressKey_trunk htrunk, huntagged, hzero]
    · simp [huntagged]

/-- A tagged frame keeps its VLAN unless stripping uncovers another tag. -/
theorem keepsVlan_of_tagged {srcAttrs dstAttrs : PortAttrs}
    (hparse : parseFrame data = some frame) (hkey : ingressKey srcAttrs frame = some key)
    (htagged : frame.tagged = true) :
    keepsVlan dstAttrs key (egressFrame frame key dstAttrs) = true ↔
      (dstAttrs.vlan = vlanTrunk ∧ key ≠ untaggedKey) ∨
        be16 data 16 ≠ etherTypeVLAN ∨
        (dstAttrs.vlan = vlanTrunk ∧ 22 ≤ data.length ∧
          be16 data 18 % 0x1000 = 0) := by
  have hvid := ingressKey_of_tagged hkey htagged
  unfold egressFrame
  split
  · rename_i hinsert
    have hform : taggedForm frame key = data := by
      simp [taggedForm, htagged, parseFrame_data hparse]
    unfold keepsVlan
    rw [hform, hparse]
    simp only [hinsert.1, if_true, ingressKey_trunk hinsert.1, htagged, hvid,
      decide_true, true_iff]
    exact .inl ⟨trivial, hvid ▸ hinsert.2⟩
  · rename_i hstrip
    unfold keepsVlan
    rw [parseFrame_untaggedForm hparse htagged]
    by_cases hsnd : be16 data 16 = etherTypeVLAN
    · by_cases hlen : 22 ≤ data.length
      · rw [if_pos hlen]
        by_cases htrunk : dstAttrs.vlan = vlanTrunk
        · have hzero : key = 0 := by
            by_contra hne
            exact hstrip ⟨htrunk, hne⟩
          simp [htrunk, ingressKey_trunk htrunk, hzero, hsnd, hlen, untaggedKey]
          omega
        · simp [htrunk, hsnd]
      · simp [hlen, hsnd, hstrip]
    · rw [if_pos hsnd]
      by_cases htrunk : dstAttrs.vlan = vlanTrunk
      · have hzero : key = 0 := by
          by_contra hne
          exact hstrip ⟨htrunk, hne⟩
        simp [htrunk, ingressKey_trunk htrunk, hzero, hsnd, untaggedKey]
      · simp [htrunk, hsnd]

/-! ## Every call of every run -/

theorem Switch.WellFormed.call_rendered {sw : Switch} (h : sw.WellFormed) {env : Env}
    {src : Ptr} {call : SendCall} (hin : sw.ingress src data = .admitted frame key)
    (hc : call ∈ (Switch.deliver env sw src data).2) :
    ∃ dst, sw.ports.get? call.port.id = some dst ∧
      call.frame = egressFrame frame key (sw.entry dst).attrs.toPortAttrs := by
  rw [h.deliver_snd env hin] at hc
  split at hc
  · cases hc
  obtain ⟨id, -, hout⟩ := List.mem_filterMap.mp hc
  obtain ⟨-, dst, hdst, rfl⟩ := (Switch.outgoing_eq_some_iff ..).mp hout
  have hname := (h.registered id dst hdst).2.1
  exact ⟨dst, by rw [hname]; exact hdst, rfl⟩

/-- In every reachable state, a call made for a frame switched under `key`
delivers a frame of VLAN `key` exactly when no hidden tag comes to light. -/
theorem deliver_keepsVlan_iff {world : World} (hreached : world.Reached) {env : Env}
    {src : Ptr} {data : Bytes} {frame : FrameView} {key : Int} {call : SendCall}
    (hingress : world.sw.ingress src data = .admitted frame key)
    (hcall : call ∈ (Switch.deliver env world.sw src data).2) :
    ∃ dst, world.sw.ports.get? call.port.id = some dst ∧
      (keepsVlan (world.sw.entry dst).attrs.toPortAttrs key call.frame = true ↔
        NoHiddenTag (world.sw.entry dst).attrs.toPortAttrs key data) := by
  obtain ⟨dst, hdst, hfr⟩ := hreached.wellFormed.call_rendered hingress hcall
  obtain ⟨hparse, -, -, -, -, -, hkey, -⟩ := Switch.ingress_eq_admitted hingress
  refine ⟨dst, hdst, ?_⟩
  rw [hfr]
  have hty := parseFrame_tagged_iff hparse
  unfold NoHiddenTag
  cases htagged : frame.tagged with
  | false =>
    have hplain : be16 data 12 ≠ etherTypeVLAN := by simpa [htagged] using hty
    simp [keepsVlan_of_untagged hparse hkey htagged, hplain]
  | true =>
    have houter : be16 data 12 = etherTypeVLAN := hty.mp htagged
    simp only [keepsVlan_of_tagged hparse hkey htagged, houter, ne_eq,
      not_true_eq_false, false_or]

theorem deliver_keepsVlan_iff_single_tag :
    ∃ dst, threePorts.sw.ports.get? "ten" = some dst ∧
      (keepsVlan (threePorts.sw.entry dst).attrs.toPortAttrs 10
          [0xff, 0xff, 0xff, 0xff, 0xff, 0xff, 0x02, 0, 0, 0, 0, 1, 0x08, 0] = true ↔
        NoHiddenTag (threePorts.sw.entry dst).attrs.toPortAttrs 10
          taggedBroadcast) := by
  have hc : (⟨⟨"ten", 2⟩, "trunk",
      [0xff, 0xff, 0xff, 0xff, 0xff, 0xff, 0x02, 0, 0, 0, 0, 1, 0x08, 0]⟩ : SendCall) ∈
      (Switch.deliver (steadyEnv 2) threePorts.sw 0 taggedBroadcast).2 := by
    decide
  have hin : threePorts.sw.ingress 0 taggedBroadcast =
      .admitted ⟨taggedBroadcast, true, 10⟩ 10 := by
    decide
  exact deliver_keepsVlan_iff reached_threePorts hin hc

def doubleTagged : Bytes :=
  [0xff, 0xff, 0xff, 0xff, 0xff, 0xff, 0x02, 0, 0, 0, 0, 1, 0x81, 0, 0, 10,
    0x81, 0, 0, 20, 0x08, 0]

/-- The access port of VLAN 10 receives a frame tagged for VLAN 20. -/
theorem double_tag_leaves_vlan :
    ∃ (world : World) (env : Env) (src dst : Ptr) (data : Bytes) (frame : FrameView)
      (key : Int) (call : SendCall), world.Reached ∧
      world.sw.ingress src data = .admitted frame key ∧
      call ∈ (Switch.deliver env world.sw src data).2 ∧
      world.sw.ports.get? call.port.id = some dst ∧
      (world.sw.entry dst).attrs.vlan = 10 ∧
      parseFrame call.frame = some ⟨call.frame, true, 20⟩ ∧
      keepsVlan (world.sw.entry dst).attrs.toPortAttrs key call.frame = false :=
  ⟨threePorts, steadyEnv 2, 0, 1, doubleTagged, ⟨doubleTagged, true, 10⟩, 10,
    ⟨⟨"ten", 2⟩, "trunk", [0xff, 0xff, 0xff, 0xff, 0xff, 0xff, 0x02, 0, 0, 0, 0, 1,
      0x81, 0, 0, 20, 0x08, 0]⟩, reached_threePorts, by decide, by decide, by decide,
    by decide, by decide, by decide⟩

end GvSwitch.SwitchCore
