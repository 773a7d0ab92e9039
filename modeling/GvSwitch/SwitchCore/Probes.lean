import GvSwitch.SwitchCore.Tagging

/-!
# Loop probes that come back

A probe leaves a port untagged.  Over a plain segment it comes back as it was
sent; another switch of this kind renders it for the port it leaves by, and a
trunk carries the probe of an access VLAN tagged.  The tag moves the EtherType
by four bytes, and the receiving switch no longer knows its own probe.
-/

namespace GvSwitch.SwitchCore

open Foundation FrameView Switch

/-! ## The layout of a probe -/

theorem length_buildLoopProbe (id : UInt64) : (buildLoopProbe id).length = 60 := rfl

theorem macAt_buildLoopProbe (id : UInt64) :
    macAt (buildLoopProbe id) 0 = loopProbeDst := rfl

theorem be16_buildLoopProbe (id : UInt64) :
    be16 (buildLoopProbe id) 12 = loopProbeEtherType := by
  have hdrop : (buildLoopProbe id).drop 12 = putBE16 loopProbeEtherType ++
      (putBE32 loopProbeMagic ++ (putBE64 id.toNat ++ List.replicate 34 0)) := rfl
  have hfield := be16_drop (buildLoopProbe id) 12 0
  rw [hdrop, be16_putBE16] at hfield
  exact hfield.symm

theorem be32_buildLoopProbe (id : UInt64) :
    be32 (buildLoopProbe id) 14 = loopProbeMagic := by
  have hdrop : (buildLoopProbe id).drop 14 =
      putBE32 loopProbeMagic ++ (putBE64 id.toNat ++ List.replicate 34 0) := rfl
  have hfield := be32_drop (buildLoopProbe id) 14 0
  rw [hdrop, be32_putBE32] at hfield
  exact hfield.symm

theorem be64_buildLoopProbe (id : UInt64) : be64 (buildLoopProbe id) 18 = id.toNat := by
  have hdrop : (buildLoopProbe id).drop 18 = putBE64 id.toNat ++ List.replicate 34 0 := rfl
  have hfield := be64_drop (buildLoopProbe id) 18 0
  rw [hdrop, be64_putBE64, Nat.mod_eq_of_lt id.toNat_lt] at hfield
  exact hfield.symm

theorem isOwnLoopProbe_buildLoopProbe (id : UInt64) :
    isOwnLoopProbe id (buildLoopProbe id) = true := by
  unfold isOwnLoopProbe
  rw [length_buildLoopProbe, be16_buildLoopProbe, be32_buildLoopProbe, be64_buildLoopProbe]
  simp

theorem parseFrame_buildLoopProbe (id : UInt64) :
    parseFrame (buildLoopProbe id) = some ⟨buildLoopProbe id, false, 0⟩ := by
  refine parseFrame_of_untagged ?_ ?_
  · rw [length_buildLoopProbe]
    decide
  · rw [be16_buildLoopProbe]
    decide

/-- The recognition reads the tag where it expects the EtherType. -/
theorem isOwnLoopProbe_of_tagged {data : Bytes} {frame : FrameView}
    (hparse : parseFrame data = some frame) (htagged : frame.tagged = true) (id : UInt64) :
    isOwnLoopProbe id data = false := by
  have hty := (parseFrame_tagged_iff hparse).mp htagged
  unfold isOwnLoopProbe
  rw [hty]
  split
  · rfl
  · rfl

/-! ## Delivery of a returned probe -/

namespace Switch

variable {sw : Switch} {src : Ptr} {data : Bytes} {frame : FrameView}

theorem entry_blockPort (hon : (sw.entry src).attrs.disabled = false) (reason : BlockReason) :
    (sw.blockPort src reason).entry src =
      { sw.entry src with
        attrs := (sw.entry src).attrs.disable, blockReason := some reason } := by
  change (sw.shutPort src reason).entry src = _
  simp [shutPort, hon]

def BlockedForLoop (sw : Switch) (src : Ptr) : Prop :=
  (sw.entry src).attrs.disabled = true ∧
    (sw.entry src).blockReason = some .loop

theorem deliver_own_probe (env : Env) (hlive : (sw.entry src).gone = false)
    (hon : (sw.entry src).attrs.disabled = false) :
    (deliver env sw src (buildLoopProbe sw.instanceID)).1.BlockedForLoop src := by
  have hin : sw.ingress src (buildLoopProbe sw.instanceID) = .ownProbe := by
    have hdst : dstMAC ⟨buildLoopProbe sw.instanceID, false, 0⟩ =
        loopProbeDst := macAt_buildLoopProbe _
    simp [ingress, parseFrame_buildLoopProbe, hlive, hon, hdst,
      isOwnLoopProbe_buildLoopProbe]
  have hcnt : ((sw.countRx src
      (buildLoopProbe sw.instanceID).length).entry src).attrs.disabled = false := by
    rw [(counted_countRx _ _ _).attrs]
    exact hon
  unfold BlockedForLoop deliver
  rw [hin]
  rw [entry_blockPort hcnt]
  exact ⟨rfl, rfl⟩

theorem ingress_ne_ownProbe (src : Ptr) (hprobe : isOwnLoopProbe sw.instanceID data = false) :
    sw.ingress src data ≠ .ownProbe := by
  grind [ingress]

theorem ingress_ne_reserved (sw : Switch) (src : Ptr)
    (hparse : parseFrame data = some frame)
    (hreserved : isReservedGroupMAC frame.dstMAC = false) :
    sw.ingress src data ≠ .reserved := by
  grind [ingress]

theorem trips_eq_false (hparse : parseFrame data = some frame)
    (hprobe : isOwnLoopProbe sw.instanceID data = false)
    (hreserved : isReservedGroupMAC frame.dstMAC = false) : sw.trips src data = false := by
  unfold trips
  split
  · exact absurd ‹_› (ingress_ne_ownProbe src hprobe)
  · exact absurd ‹_› (ingress_ne_reserved sw src hparse hreserved)
  · rfl

theorem admitted_of_call {env : Env} {call : SendCall}
    (hparse : parseFrame data = some frame)
    (hreserved : isReservedGroupMAC frame.dstMAC = false)
    (hc : call ∈ (deliver env sw src data).2) :
    ∃ key, sw.ingress src data = .admitted frame key := by
  cases hin : sw.ingress src data with
  | admitted parsed key =>
    have hparsed := (ingress_eq_admitted hin).1
    rw [hparse] at hparsed
    cases hparsed
    exact ⟨key, rfl⟩
  | reserved => exact absurd hin (ingress_ne_reserved sw src hparse hreserved)
  | unparsed | gone | disabled | ownProbe | stpBlocked | vlanRefused | insecure =>
    simp [deliver, hin] at hc

end Switch

theorem ingressKey_untagged_eq_zero_iff {attrs : CheckedAttrs} {frame : FrameView}
    {key : Int} (hkey : ingressKey attrs.toPortAttrs frame = some key)
    (huntagged : frame.tagged = false) :
    key ≠ untaggedKey ↔ 1 ≤ attrs.vlan ∧ attrs.vlan ≤ 4094 := by
  have hlow := attrs.vlan_nonneg
  have hhigh := attrs.vlan_le
  rw [ingressKey_of_untagged attrs huntagged] at hkey
  cases hkey
  unfold vlanTrunk untaggedKey
  split <;> omega

/-- The frame a probe becomes on the way out of another switch is either the
probe itself or tagged. -/
theorem deliver_returned_probe_iff {sw : Switch} {src : Ptr} (env : Env)
    (hlive : (sw.entry src).gone = false) (hon : (sw.entry src).attrs.disabled = false)
    {key : Int} (hlow : 0 ≤ key) (hhigh : key ≤ 4095) (exitAttrs : PortAttrs) :
    (deliver env sw src (egressFrame
        ⟨buildLoopProbe sw.instanceID, false, 0⟩ key exitAttrs)).1.BlockedForLoop src ↔
      ¬ (exitAttrs.vlan = vlanTrunk ∧ key ≠ untaggedKey) := by
  have hparse := parseFrame_buildLoopProbe sw.instanceID
  unfold egressFrame
  by_cases htag : exitAttrs.vlan = vlanTrunk ∧ key ≠ untaggedKey
  · have htagged := parseFrame_taggedForm hparse rfl hlow hhigh
    have hdst : macAt (taggedForm ⟨buildLoopProbe sw.instanceID, false, 0⟩ key) 0 =
        loopProbeDst := rfl
    have hreserved : isReservedGroupMAC (dstMAC
        ⟨taggedForm ⟨buildLoopProbe sw.instanceID, false, 0⟩ key, true, key.toNat⟩) =
          false := by
      rw [dstMAC, hdst]
      decide
    have htrips : sw.trips src
        (taggedForm ⟨buildLoopProbe sw.instanceID, false, 0⟩ key) = false :=
      trips_eq_false htagged (isOwnLoopProbe_of_tagged htagged rfl _) hreserved
    have hpolicy := (standing_deliver env sw src
      (taggedForm ⟨buildLoopProbe sw.instanceID, false, 0⟩ key)).policy src
    rw [if_pos htag]
    refine iff_of_false ?_ (not_not.mpr htag)
    rintro ⟨hoff, -⟩
    rcases hpolicy with ⟨hattrs, -⟩ | ⟨⟨-, htripped⟩, -⟩
    · simp [hattrs, hon] at hoff
    · simp [htrips] at htripped
  · rw [if_neg htag]
    exact iff_of_true (deliver_own_probe env hlive hon) htag

/-- A probe that comes back as it was sent shuts the port.  One that another
switch forwarded does so unless a trunk of that switch carried it under the VLAN
of an access port. -/
theorem probe_return_blocks_iff {home relay : World} (hhome : home.Reached)
    (hrelay : relay.Reached) {id : String} {src : Ptr}
    (hsrc : home.sw.ports.get? id = some src)
    (henabled : (home.sw.entry src).attrs.disabled = false) (env relayEnv : Env) :
    (Switch.deliver env home.sw src
      (buildLoopProbe home.sw.instanceID)).1.BlockedForLoop src ∧
    ∀ entrance, ∀ call ∈ (Switch.deliver relayEnv relay.sw entrance
        (buildLoopProbe home.sw.instanceID)).2,
      ∃ exit, relay.sw.ports.get? call.port.id = some exit ∧
        ((Switch.deliver env home.sw src call.frame).1.BlockedForLoop src ↔
          ¬ ((relay.sw.entry exit).attrs.vlan = vlanTrunk ∧
            1 ≤ (relay.sw.entry entrance).attrs.vlan ∧
            (relay.sw.entry entrance).attrs.vlan ≤ 4094)) := by
  have hlive := (hhome.wellFormed.registered id src hsrc).2.2.1
  refine ⟨deliver_own_probe env hlive henabled, ?_⟩
  intro entrance call hc
  have hdst : dstMAC ⟨buildLoopProbe home.sw.instanceID, false, 0⟩ =
      loopProbeDst := macAt_buildLoopProbe _
  have hreserved : isReservedGroupMAC
      (dstMAC ⟨buildLoopProbe home.sw.instanceID, false, 0⟩) = false := by
    rw [hdst]
    decide
  obtain ⟨key, hin⟩ := admitted_of_call
    (parseFrame_buildLoopProbe home.sw.instanceID) hreserved hc
  obtain ⟨exit, hexit, hfr⟩ := hrelay.wellFormed.call_rendered hin hc
  obtain ⟨-, -, -, -, -, -, hkey, -⟩ := ingress_eq_admitted hin
  obtain ⟨hlow, hhigh⟩ := ingressKey_range hkey rfl
  refine ⟨exit, hexit, ?_⟩
  rw [hfr, deliver_returned_probe_iff env hlive henabled hlow hhigh,
    ingressKey_untagged_eq_zero_iff hkey rfl]

def probing : World :=
  (World.start 7).run (steadyEnv 1) [
    .op (.addPort ⟨"uplink", 1⟩ { vlan := 4095, loopDetect := true })]

theorem reached_probing : probing.Reached :=
  (World.reached_start 7).run (steadyEnv 1) _

/-- Another switch with an access port of VLAN 10, a trunk and a port for
untagged frames only. -/
def relaying : World :=
  (World.start 8).run (steadyEnv 1) [
    .op (.addPort ⟨"ten", 2⟩ { vlan := 10 }),
    .op (.addPort ⟨"trunk", 3⟩ { vlan := 4095 }),
    .op (.addPort ⟨"plain", 4⟩ { vlan := 0 })]

theorem reached_relaying : relaying.Reached :=
  (World.reached_start 8).run (steadyEnv 1) _

/-- From the trunk the probe goes on untagged, and shuts the uplink. -/
theorem probe_return_blocks_iff_untagged :
    ∃ call ∈ (Switch.deliver (steadyEnv 2) relaying.sw 1 (buildLoopProbe 7)).2,
      call.port.id = "plain" ∧
        (Switch.deliver (steadyEnv 3) probing.sw 0 call.frame).1.BlockedForLoop 0 := by
  have hc : (⟨⟨"plain", 4⟩, "trunk", buildLoopProbe 7⟩ : SendCall) ∈
      (deliver (steadyEnv 2) relaying.sw 1 (buildLoopProbe 7)).2 := by
    decide
  have hsrc : probing.sw.ports.get? "uplink" = some 0 := by decide
  obtain ⟨exit, hexit, hblocks⟩ := (probe_return_blocks_iff reached_probing
    reached_relaying hsrc (by decide) (steadyEnv 3) (steadyEnv 2)).2 1 _ hc
  refine ⟨_, hc, rfl, hblocks.mpr ?_⟩
  rintro ⟨-, -, hv⟩
  revert hv
  decide

/-- From the access port of VLAN 10 the trunk carries the probe tagged, and the
uplink stays up. -/
theorem tagged_probe_unrecognised :
    ∃ sent ∈ probing.sw.loopProbes (steadyEnv 1),
      ∃ call ∈ (Switch.deliver (steadyEnv 2) relaying.sw 0 sent.frame).2,
        sent.port.id = "uplink" ∧ call.port.id = "trunk" ∧
          (relaying.sw.entry 0).attrs.vlan = 10 ∧
          (probing.sw.entry 0).attrs.vlan = vlanTrunk ∧
          probing.sw.ports.get? "uplink" = some 0 ∧
          ((Switch.deliver (steadyEnv 3) probing.sw 0 call.frame).1.entry
            0).attrs.disabled = false :=
  ⟨⟨⟨"uplink", 1⟩, "loop-probe", buildLoopProbe 7⟩, by decide,
    ⟨⟨"trunk", 3⟩, "ten", taggedForm ⟨buildLoopProbe 7, false, 0⟩ 10⟩, by decide,
    rfl, rfl, by decide, by decide, by decide, by decide⟩

end GvSwitch.SwitchCore
