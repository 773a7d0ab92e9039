import GvSwitch.Foundation.Flooding
import GvSwitch.SwitchCore.Forwarding
import GvSwitch.SwitchCore.Probes

/-!
# Fabrics of switches

Switches are joined by links between their ports.  What a switch hands to a
linked port is in flight until it is delivered at the other end; what it hands
to any other port is received there.  Frames in flight are delivered in any
order.
-/

namespace GvSwitch.SwitchCore

open Foundation

/-! ## The model -/

structure Packet (V : Type) where
  node : V
  port : String
  frame : Bytes
  deriving DecidableEq

abbrev Links (V : Type) := V × String → Option (V × String)

structure Fabric (V : Type) where
  switches : V → Switch
  inFlight : List (Packet V)
  delivered : List (Packet V) := []
  received : List (Packet V) := []

namespace Fabric

variable {V : Type}

def crossing (links : Links V) (node : V) (frames : List (String × Bytes)) : List (Packet V) :=
  frames.filterMap fun sent =>
    (links (node, sent.1)).map fun far => ⟨far.1, far.2, sent.2⟩

def arriving (links : Links V) (node : V) (frames : List (String × Bytes)) : List (Packet V) :=
  frames.filterMap fun sent =>
    if (links (node, sent.1)).isSome then none else some ⟨node, sent.1, sent.2⟩

def deliver [DecidableEq V] (links : Links V) (env : Env) (fabric : Fabric V)
    (packet : Packet V) (rest : List (Packet V)) : Fabric V :=
  let result := (fabric.switches packet.node).deliverFrom env packet.port packet.frame
  let frames := result.2.map fun call => (call.port.id, call.frame)
  { switches := Function.update fabric.switches packet.node result.1
    inFlight := rest ++ crossing links packet.node frames
    delivered := fabric.delivered ++ [packet]
    received := fabric.received ++ arriving links packet.node frames }

def Step [DecidableEq V] (links : Links V) (fabric : Fabric V) (label : Env × Packet V)
    (after : Fabric V) : Prop :=
  ∃ before behind, fabric.inFlight = before ++ label.2 :: behind ∧
    after = fabric.deliver links label.1 label.2 (before ++ behind)

def inject (switches : V → Switch) (node : V) (port : String) (frame : Bytes) : Fabric V where
  switches := switches
  inFlight := [⟨node, port, frame⟩]

def copies [DecidableEq V] (fabric : Fabric V) (node : V) (port : String) : List Bytes :=
  (fabric.received.filter fun packet => packet.node = node ∧ packet.port = port).map (·.frame)

end Fabric

/-! ## Loop-free networks -/

section Topology

variable {V : Type}

def Switch.forwards (sw : Switch) (port : String) : Bool :=
  match sw.ports.get? port with
  | none => false
  | some ptr => (sw.entry ptr).stpState == .forwarding

def Active (links : Links V) (switches : V → Switch) (near far : V × String) : Prop :=
  links near = some far ∧ (switches near.1).forwards near.2 = true ∧
    (switches far.1).forwards far.2 = true

def activeGraph (links : Links V) (switches : V → Switch) : SimpleGraph V :=
  SimpleGraph.fromRel fun first second =>
    ∃ near far, Active links switches (first, near) (second, far)

/-- The active links form a forest: there is no cycle of links, be it of one link,
of two links between the same switches or of more. -/
structure LoopFree (links : Links V) (switches : V → Switch) : Prop where
  acyclic : (activeGraph links switches).IsAcyclic
  noLoop : ∀ node near far, ¬ Active links switches (node, near) (node, far)
  single : ∀ {node other near far near' far'},
    Active links switches (node, near) (other, far) →
      Active links switches (node, near') (other, far') → near = near'

/-- Switches joined by links between trunk ports, without port policies that drop
frames; a port without a link forwards. -/
structure Wired (links : Links V) (switches : V → Switch) : Prop where
  wellFormed : ∀ node, (switches node).WellFormed
  symmetric : ∀ near far, links near = some far → links far = some near
  trunks : ∀ node port far, links (node, port) = some far →
    ∃ ptr, (switches node).ports.get? port = some ptr ∧
      ((switches node).entry ptr).attrs.vlan = vlanTrunk
  plain : ∀ node port ptr, (switches node).ports.get? port = some ptr →
    ((switches node).entry ptr).attrs.disabled = false ∧
      ((switches node).entry ptr).attrs.isolated = false ∧
      ((switches node).entry ptr).attrs.stormPPS = 0 ∧
      ((switches node).entry ptr).attrs.securityMAC = none
  leaves : ∀ node port ptr, (switches node).ports.get? port = some ptr →
    links (node, port) = none →
      ((switches node).entry ptr).stpState = .forwarding
  loopFree : LoopFree links switches

/-- A port without a link, untagged-only or with an access VLAN. -/
def Leaf (links : Links V) (switches : V → Switch) (node : V) (port : String)
    (vlan : Int) : Prop :=
  links (node, port) = none ∧ vlan ≠ vlanTrunk ∧
    ∃ ptr, (switches node).ports.get? port = some ptr ∧
      ((switches node).entry ptr).attrs.vlan = vlan

/-- An untagged frame to a group that switches neither consume nor probe with. -/
structure Flooded (data : Bytes) : Prop where
  length : 14 ≤ data.length
  untagged : be16 data 12 ≠ etherTypeVLAN
  group : isMulticast (macAt data 0) = true
  notReserved : isReservedGroupMAC (macAt data 0) = false
  notProbe : macAt data 0 ≠ loopProbeDst

end Topology

/-! ## The frame on the way -/

/-- What trunks carry of an untagged frame of a VLAN. -/
def wireForm (data : Bytes) (key : Int) : Bytes :=
  if key = untaggedKey then data else taggedForm ⟨data, false, 0⟩ key

/-- Received on a port with these attributes, the bytes are the frame of the VLAN. -/
structure Carried (data : Bytes) (key : Int) (attrs : PortAttrs) (bytes : Bytes)
    (frame : FrameView) : Prop where
  parses : parseFrame bytes = some frame
  dstMAC : frame.dstMAC = macAt data 0
  ingressKey : ingressKey attrs frame = some key
  egress : ∀ dstAttrs : PortAttrs, egressFrame frame key dstAttrs =
    if dstAttrs.vlan = vlanTrunk then wireForm data key else data

variable {data : Bytes} {key : Int}

theorem carried_access (h : Flooded data) {attrs : CheckedAttrs}
    (hacc : attrs.vlan ≠ vlanTrunk) :
    Carried data attrs.vlan attrs.toPortAttrs data ⟨data, false, 0⟩ := by
  refine ⟨parseFrame_of_untagged h.length h.untagged, rfl, ?_, fun dstAttrs => ?_⟩
  · rw [ingressKey_of_untagged attrs rfl, if_neg hacc]
  unfold egressFrame wireForm
  by_cases htrunk : dstAttrs.vlan = vlanTrunk
  · by_cases hzero : attrs.vlan = untaggedKey
    · simp [hzero, untaggedForm]
    · simp [htrunk, hzero]
  · simp [htrunk, untaggedForm]

theorem macAt_taggedForm (data : Bytes) (key : Int) (hlen : 14 ≤ data.length) :
    macAt (taggedForm ⟨data, false, 0⟩ key) 0 = macAt data 0 := by
  have hform : taggedForm ⟨data, false, 0⟩ key =
      data.take 12 ++ (vlanTag key ++ data.drop 12) := List.append_assoc ..
  have htake : (data.take 12).length = 12 := by
    rw [List.length_take]
    omega
  unfold macAt
  congr 1
  funext index
  have hidx := index.isLt
  rw [hform, byteAt_append_left _ _ (by omega), byteAt_take _ (by omega)]

theorem untaggedForm_taggedForm (data : Bytes) (key : Int) (hlen : 14 ≤ data.length)
    (vid : Nat) : untaggedForm ⟨taggedForm ⟨data, false, 0⟩ key, true, vid⟩ = data := by
  have hform : taggedForm ⟨data, false, 0⟩ key =
      data.take 12 ++ (vlanTag key ++ data.drop 12) := List.append_assoc ..
  have htake : (data.take 12).length = 12 := by
    rw [List.length_take]
    omega
  have hfront : (taggedForm ⟨data, false, 0⟩ key).take 12 = data.take 12 := by
    rw [hform, List.take_left' htake]
  have hrest : (taggedForm ⟨data, false, 0⟩ key).drop 16 = data.drop 12 := by
    exact List.drop_left' (by rw [List.length_append, htake, length_vlanTag])
  rw [untaggedForm, if_pos rfl]
  rw [hfront, hrest, List.take_append_drop]

theorem carried_trunk (h : Flooded data) (hlow : 0 ≤ key) (hhigh : key ≤ 4095)
    {attrs : PortAttrs} (htrunk : attrs.vlan = vlanTrunk) :
    ∃ frame, Carried data key attrs (wireForm data key) frame := by
  have hparse := parseFrame_of_untagged h.length h.untagged
  by_cases hzero : key = untaggedKey
  · subst hzero
    refine ⟨⟨data, false, 0⟩, hparse, rfl, ?_, fun dstAttrs => ?_⟩
    · rw [ingressKey_trunk htrunk]
      rfl
    · simp [egressFrame, wireForm, untaggedForm]
  · have hwire : wireForm data key = taggedForm ⟨data, false, 0⟩ key := if_neg hzero
    refine ⟨⟨wireForm data key, true, key.toNat⟩, ?_, ?_, ?_, fun dstAttrs => ?_⟩
    · rw [hwire]
      exact parseFrame_taggedForm hparse rfl hlow hhigh
    · rw [FrameView.dstMAC, hwire]
      exact macAt_taggedForm data key h.length
    · rw [ingressKey_trunk htrunk]
      exact congrArg some (Int.toNat_of_nonneg hlow)
    unfold egressFrame
    by_cases hdst : dstAttrs.vlan = vlanTrunk
    · rw [if_pos ⟨hdst, hzero⟩, if_pos hdst]
      rfl
    · rw [if_neg fun hboth => hdst hboth.1, if_neg hdst, hwire]
      exact untaggedForm_taggedForm data key h.length _

/-! ## One delivery -/

namespace Switch

variable {sw base : Switch} {id : String} {src : Ptr} {bytes : Bytes} {frame : FrameView}

/-- A frame of the VLAN that came in at `id` leaves through `other`. -/
def Relays (sw : Switch) (id : String) (key : Int) (other : String) : Prop :=
  other ≠ id ∧ ∃ dst, sw.ports.get? other = some dst ∧
    (sw.entry dst).stpState = .forwarding ∧ (sw.entry dst).attrs.admits key = true

def rendered (sw : Switch) (data : Bytes) (key : Int) (other : String) : Bytes :=
  match sw.ports.get? other with
  | none => data
  | some dst =>
    if (sw.entry dst).attrs.vlan = vlanTrunk then wireForm data key else data

theorem SameConfig.relays (h : SameConfig base sw) (id : String) (key : Int)
    (other : String) : sw.Relays id key other ↔ base.Relays id key other := by
  simp only [Relays, h.ports, h.stpState, h.attrs]

theorem SameConfig.rendered (h : SameConfig base sw) (data : Bytes) (key : Int)
    (other : String) : sw.rendered data key other = base.rendered data key other := by
  simp only [Switch.rendered, h.ports, h.attrs]

def Plain (sw : Switch) : Prop :=
  ∀ port ptr, sw.ports.get? port = some ptr →
    (sw.entry ptr).attrs.disabled = false ∧
      (sw.entry ptr).attrs.isolated = false ∧
      (sw.entry ptr).attrs.stormPPS = 0 ∧
      (sw.entry ptr).attrs.securityMAC = none

theorem eligible_iff (hplain : sw.Plain) (hname : (sw.entry src).id = id)
    (other : String) : Eligible sw src key other ↔ sw.Relays id key other := by
  unfold Eligible Relays
  rw [hname]
  constructor
  · rintro ⟨dst, hdst, ho, -, hforwards, hadm, -⟩
    exact ⟨ho, dst, hdst, hforwards, hadm⟩
  rintro ⟨ho, dst, hdst, hforwards, hadm⟩
  obtain ⟨hoff, hisolated, -, -⟩ := hplain other dst hdst
  exact ⟨dst, hdst, ho, hoff, hforwards, hadm, by simp [hisolated]⟩

section Carried

variable (hw : sw.WellFormed) (hplain : sw.Plain)
  (hsrc : sw.ports.get? id = some src)
  (hforwards : (sw.entry src).stpState = .forwarding) (hfr : Flooded data)
  (hcarried : Carried data key (sw.entry src).attrs.toPortAttrs bytes frame)

include hw hplain hsrc hforwards hfr hcarried

theorem accepted_of_carried : Accepted sw src bytes frame key := by
  obtain ⟨hname, -, hlive, -⟩ := hw.registered id src hsrc
  obtain ⟨hoff, -, -, hsecure⟩ := hplain id src hsrc
  constructor
  case parses => exact hcarried.parses
  case registered => rw [hname, hsrc]
  case live => exact hlive
  case enabled => exact hoff
  case forwarding => exact hforwards
  case notReserved =>
    rw [hcarried.dstMAC]
    exact hfr.notReserved
  case notProbe =>
    rw [hcarried.dstMAC]
    exact fun hprobe => hfr.notProbe hprobe.1
  case admitted => exact hcarried.ingressKey
  case secure =>
    intro mac hmac
    simp [hsecure] at hmac

/-- On a port that forwards, the frame goes out once through each port that
relays it. -/
theorem deliverFrom_forwarding (env : Env) :
    ∃ ids : List String, ids.Nodup ∧ (∀ other, other ∈ ids ↔ sw.Relays id key other) ∧
      (sw.deliverFrom env id bytes).2.map (fun call => (call.port.id, call.frame)) =
        ids.map fun other => (other, sw.rendered data key other) := by
  have haccepted := accepted_of_carried hw hplain hsrc hforwards hfr hcarried
  obtain ⟨ids, hnodup, hm, hrenders⟩ := hw.deliver_accepted env haccepted
  refine ⟨ids, hnodup, fun other => ?_, ?_⟩
  · rw [hm, ← eligible_iff hplain (hw.registered id src hsrc).1]
    constructor
    · rintro (⟨-, -, heligible⟩ | ⟨-, -, heligible⟩)
      · exact heligible
      · exact heligible
    refine .flooded (.inl ?_) ?_
    · rw [hcarried.dstMAC]
      exact hfr.group
    · simp [stormAllows, (hplain id src hsrc).2.2.1]
  · rw [deliverFrom, hsrc]
    clear hm hnodup
    generalize (deliver env sw src bytes).2 = calls at hrenders ⊢
    induction hrenders with
    | nil => rfl
    | @cons other call _ _ hfst _ ih =>
      obtain ⟨dst, hdst, rfl⟩ := hfst
      have hname := (hw.registered other dst hdst).2.1
      rw [List.map_cons, List.map_cons, ih, rendered, hdst, hcarried.egress, hname]

end Carried

theorem deliverFrom_blocked (hsrc : sw.ports.get? id = some src) (hw : sw.WellFormed)
    (hblocked : (sw.entry src).stpState ≠ .forwarding) (hfr : Flooded data)
    (hcarried : Carried data key (sw.entry src).attrs.toPortAttrs bytes frame) (env : Env) :
    (sw.deliverFrom env id bytes).2 = [] := by
  rw [deliverFrom, hsrc]
  refine List.eq_nil_iff_forall_not_mem.mpr fun call hc => ?_
  have hreserved : isReservedGroupMAC frame.dstMAC = false := by
    rw [hcarried.dstMAC]
    exact hfr.notReserved
  obtain ⟨found, hin⟩ := admitted_of_call hcarried.parses hreserved hc
  obtain ⟨-, -, -, -, -, hst, -⟩ := ingress_eq_admitted hin
  simp [hw.deliver_snd env hin, if_pos (hst.resolve_left hblocked)] at hc

theorem ingress_ne_ownProbe_of_dst (hparse : parseFrame bytes = some frame)
    (hdst : frame.dstMAC ≠ loopProbeDst) : sw.ingress src bytes ≠ .ownProbe := by
  grind [ingress]

theorem sameConfig_deliverFrom (hfr : Flooded data) {attrs : PortAttrs}
    (hcarried : Carried data key attrs bytes frame) (env : Env) (id : String) :
    SameConfig sw (sw.deliverFrom env id bytes).1 := by
  unfold deliverFrom
  split
  · exact .refl _
  rename_i src _
  refine sameConfig_deliver env (ingress_ne_ownProbe_of_dst hcarried.parses ?_) ?_
  · rw [hcarried.dstMAC]
    exact hfr.notProbe
  refine ingress_ne_reserved sw src hcarried.parses ?_
  rw [hcarried.dstMAC]
  exact hfr.notReserved

end Switch

end GvSwitch.SwitchCore
