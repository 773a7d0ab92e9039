import GvSwitch.Foundation.Runs
import GvSwitch.SwitchCore.Deliver

/-!
# What a delivery changes

A delivery counts, charges the storm budget of its source, learns, shuts its
source port, or hands a BPDU to the spanning tree.  `Delivered` says which.
-/

namespace GvSwitch.SwitchCore

open Foundation

variable {second first third : Switch}

namespace Switch

/-! ## Configuration -/

/-- The two switches differ at most in counters, storm budgets, block reasons,
the forwarding database and the spanning-tree records. -/
structure SameConfig (before after : Switch) : Prop where
  ports : after.ports = before.ports
  id : ∀ ptr, (after.entry ptr).id = (before.entry ptr).id
  port : ∀ ptr, (after.entry ptr).port = (before.entry ptr).port
  attrs : ∀ ptr, (after.entry ptr).attrs = (before.entry ptr).attrs
  gone : ∀ ptr, (after.entry ptr).gone = (before.entry ptr).gone
  stpState : ∀ ptr, (after.entry ptr).stpState =
    (before.entry ptr).stpState

variable (env : Env) (sw : Switch) (ptr : Ptr) (f : PortEntry → PortEntry)
  (src : Ptr) (data : Bytes) (srcID : String) (frame : FrameView) (key : Int)

theorem SameConfig.refl : SameConfig sw sw :=
  ⟨rfl, fun _ => rfl, fun _ => rfl, fun _ => rfl, fun _ => rfl, fun _ => rfl⟩

theorem SameConfig.trans (h : SameConfig first second) (h' : SameConfig second third) :
    SameConfig first third where
  ports := h'.ports.trans h.ports
  id := fun ptr => (h'.id ptr).trans (h.id ptr)
  port := fun ptr => (h'.port ptr).trans (h.port ptr)
  attrs := fun ptr => (h'.attrs ptr).trans (h.attrs ptr)
  gone := fun ptr => (h'.gone ptr).trans (h.gone ptr)
  stpState := fun ptr => (h'.stpState ptr).trans (h.stpState ptr)

theorem sameConfig_modify
    (hkeep : ∀ entry, (f entry).id = entry.id ∧ (f entry).port = entry.port ∧
      (f entry).attrs = entry.attrs ∧ (f entry).gone = entry.gone ∧
      (f entry).stpState = entry.stpState) :
    SameConfig sw (sw.modify ptr f) where
  ports := rfl
  id := fun other => entry_modify_field (·.id) sw ptr other f fun entry => (hkeep entry).1
  port := fun other => entry_modify_field (·.port) sw ptr other f
    fun entry => (hkeep entry).2.1
  attrs := fun other => entry_modify_field (·.attrs) sw ptr other f
    fun entry => (hkeep entry).2.2.1
  gone := fun other => entry_modify_field (·.gone) sw ptr other f
    fun entry => (hkeep entry).2.2.2.1
  stpState := fun other => entry_modify_field (·.stpState) sw ptr other f
    fun entry => (hkeep entry).2.2.2.2

theorem sameConfig_chargeStorm (bucket : StormBucket) :
    SameConfig sw (sw.chargeStorm src bucket) :=
  sameConfig_modify sw src _ fun _ => ⟨rfl, rfl, rfl, rfl, rfl⟩

theorem learnSource_eq :
    ∃ fdb, learnSource env sw src frame key = { sw with fdb := fdb } := by
  unfold learnSource
  split
  · exact ⟨sw.fdb, rfl⟩
  · exact ⟨_, rfl⟩

theorem sameConfig_learnSource : SameConfig sw (learnSource env sw src frame key) := by
  obtain ⟨fdb, hlearn⟩ := learnSource_eq env sw src frame key
  rw [hlearn]
  exact ⟨rfl, fun _ => rfl, fun _ => rfl, fun _ => rfl, fun _ => rfl, fun _ => rfl⟩

/-! ## Counters -/

structure CountersOnly (before after : Switch) : Prop
    extends SameConfig before after where
  next : after.next = before.next
  fdb : after.fdb = before.fdb
  instanceID : after.instanceID = before.instanceID
  stp : after.stp = before.stp
  deferred : after.deferred = before.deferred
  storm : ∀ ptr, (after.entry ptr).storm = (before.entry ptr).storm
  portNum : ∀ ptr, (after.entry ptr).portNum = (before.entry ptr).portNum

structure Counted (before after : Switch) : Prop extends CountersOnly before after where
  blockReason : ∀ ptr, (after.entry ptr).blockReason =
    (before.entry ptr).blockReason

theorem Counted.refl : Counted sw sw :=
  ⟨⟨.refl _, rfl, rfl, rfl, rfl, rfl, fun _ => rfl, fun _ => rfl⟩, fun _ => rfl⟩

theorem Counted.trans (h : Counted first second) (h' : Counted second third) :
    Counted first third :=
  ⟨⟨h.toSameConfig.trans h'.toSameConfig, h'.next.trans h.next, h'.fdb.trans h.fdb,
    h'.instanceID.trans h.instanceID, h'.stp.trans h.stp, h'.deferred.trans h.deferred,
    fun ptr => (h'.storm ptr).trans (h.storm ptr),
    fun ptr => (h'.portNum ptr).trans (h.portNum ptr)⟩,
    fun ptr => (h'.blockReason ptr).trans (h.blockReason ptr)⟩

theorem counted_modify (hkeep : ∀ entry, f entry = { entry with stats := (f entry).stats }) :
    Counted sw (sw.modify ptr f) := by
  refine ⟨⟨sameConfig_modify sw ptr f ?_, rfl, rfl, rfl, rfl, rfl, ?_, ?_⟩, ?_⟩
  · intro entry
    rw [hkeep entry]
    exact ⟨rfl, rfl, rfl, rfl, rfl⟩
  · intro other
    refine entry_modify_field (·.storm) sw ptr other f fun entry => ?_
    rw [hkeep entry]
  · intro other
    refine entry_modify_field (·.portNum) sw ptr other f fun entry => ?_
    rw [hkeep entry]
  · intro other
    refine entry_modify_field (·.blockReason) sw ptr other f fun entry => ?_
    rw [hkeep entry]

theorem counted_countRx (bytes : Nat) : Counted sw (sw.countRx ptr bytes) :=
  counted_modify sw ptr _ fun _ => rfl

theorem counted_countRxDropped : Counted sw (sw.countRxDropped ptr) :=
  counted_modify sw ptr _ fun _ => rfl

theorem counted_countStormDropped : Counted sw (sw.countStormDropped ptr) :=
  counted_modify sw ptr _ fun _ => rfl

theorem counted_countTx (accepted : Bool) (bytes : Nat) :
    Counted sw (sw.countTx ptr accepted bytes) :=
  counted_modify sw ptr _ fun _ => rfl

theorem counted_send (state : Switch × List SendCall) (dst : Ptr) :
    Counted state.1 (send env srcID frame key state dst).1 :=
  counted_countTx state.1 dst _ _

theorem counted_floodStep (state : Switch × List SendCall) (id : String) :
    Counted state.1 (floodStep env src srcID frame key state id).1 := by
  unfold floodStep
  split
  · exact .refl _
  split
  · exact .refl _
  · exact counted_send env srcID frame key state _

theorem counted_flood : Counted sw (flood env sw src srcID frame key).1 :=
  foldl_related (fun before after : Switch × List SendCall => Counted before.1 after.1)
    (fun state => .refl state.1) Counted.trans _
    (counted_floodStep env src srcID frame key) _ (sw, [])

theorem counted_unicast (hit : Option Ptr × String) :
    Counted sw (unicast env sw src srcID frame key hit).1 := by
  dsimp only [unicast]
  split
  · exact .refl _
  split
  · exact counted_send env srcID frame key (sw, []) _
  · exact .refl _

def charged (env : Env) (sw : Switch) (src : Ptr) : Switch :=
  let pps := (sw.entry src).attrs.stormPPS
  if pps > 0 then
    sw.chargeStorm src ((sw.entry src).storm.allow env.now pps).1
  else sw

theorem counted_floodLimited :
    Counted (charged env sw src)
      (floodLimited env sw src srcID frame key).1 := by
  dsimp only [floodLimited, charged]
  split
  · split
    · exact counted_flood env _ src srcID frame key
    · exact counted_countStormDropped _ _
  · exact counted_flood env sw src srcID frame key

def floods (env : Env) (sw : Switch) (frame : FrameView) (key : Int) : Bool :=
  isMulticast frame.dstMAC || (sw.fdb.lookup env.now key frame.dstMAC).2 == ""

theorem counted_forward :
    Counted
      (if floods env sw frame key then charged env sw src else sw)
      (forward env sw src srcID frame key).1 := by
  unfold forward floods
  by_cases hmulticast : isMulticast frame.dstMAC = true
  · simp only [hmulticast, if_true, Bool.true_or]
    exact counted_floodLimited env sw src srcID frame key
  by_cases hmiss : (sw.fdb.lookup env.now key frame.dstMAC).2 = ""
  · simp only [hmulticast, hmiss, ne_eq, not_true_eq_false, if_false, Bool.false_or,
      beq_self_eq_true, if_true]
    exact counted_floodLimited env sw src srcID frame key
  · simp only [hmulticast, hmiss, ne_eq, not_false_eq_true, if_false, if_true,
      Bool.false_or, beq_eq_false_iff_ne.mpr hmiss, Bool.false_eq_true]
    exact counted_unicast env sw src srcID frame key _

theorem sameConfig_charged : SameConfig sw (charged env sw src) := by
  dsimp only [charged]
  split
  · exact sameConfig_chargeStorm sw src _
  · exact .refl _

/-! ## Deliveries -/

def tripsGuard (sw : Switch) (src : Ptr) (data : Bytes) : Bool :=
  (sw.entry src).attrs.bpduGuard && isBPDU (macAt data 0) data

/-- The frame shuts the port it arrives on: a loop probe of this switch, or a
BPDU on a guarded port. -/
def trips (sw : Switch) (src : Ptr) (data : Bytes) : Bool :=
  match sw.ingress src data with
  | .ownProbe => true
  | .reserved => sw.tripsGuard src data
  | _ => false

/-- Everything a frame can do to the switch. -/
inductive Delivered (env : Env) (sw : Switch) (src : Ptr) (data : Bytes) : Switch → Prop
  | counted {after : Switch} : Counted sw after → Delivered env sw src data after
  | shut {counted : Switch} (reason : BlockReason) : sw.trips src data = true →
      Counted sw counted → Delivered env sw src data (counted.blockPort src reason)
  | heard : sw.ingress src data = .reserved → isBPDU (macAt data 0) data = true →
      Delivered env sw src data
        (handleBPDU env (sw.countRx src data.length) src data).1
  | learned {frame : FrameView} {key : Int} {counted after : Switch} :
      sw.ingress src data = .admitted frame key → Counted sw counted →
      Counted (learnSource env counted src frame key) after ∨
        Counted (charged env (learnSource env counted src frame key) src) after →
      Delivered env sw src data after

theorem delivered : Delivered env sw src data (deliver env sw src data).1 := by
  have hcnt := counted_countRx sw src data.length
  have hdropped := hcnt.trans (counted_countRxDropped (sw.countRx src data.length) src)
  unfold deliver
  split
  · exact .counted (.refl _)
  · exact .counted (.refl _)
  · exact .counted hdropped
  · rename_i hin
    exact .shut .loop (by rw [trips, hin]) hcnt
  · rename_i hin
    dsimp only [consumeReserved]
    split
    · rename_i hguard
      rw [hcnt.attrs] at hguard
      exact .shut .bpduGuard (by rw [trips, hin]; exact hguard) hcnt
    split
    · rename_i hbpdu
      exact .heard hin (Bool.and_eq_true_iff.mp hbpdu).2
    · exact .counted hcnt
  · exact .counted hdropped
  · exact .counted hdropped
  · exact .counted hdropped
  · rename_i frame key hin
    refine .learned hin hcnt ?_
    dsimp only [switchFrame]
    split
    · exact .inl (counted_countRxDropped _ _)
    have hsent := counted_forward env (learnSource env (sw.countRx src data.length)
      src frame key) src ((sw.countRx src data.length).entry src).id frame key
    split at hsent
    · exact .inr hsent
    · exact .inl hsent

theorem sameConfig_deliver {sw : Switch} {src : Ptr} {data : Bytes}
    (hprobe : sw.ingress src data ≠ .ownProbe) (hreserved : sw.ingress src data ≠ .reserved) :
    SameConfig sw (deliver env sw src data).1 := by
  have hdel := delivered env sw src data
  generalize (deliver env sw src data).1 = after at hdel ⊢
  cases hdel with
  | counted hcnt => exact hcnt.toSameConfig
  | shut reason htrips _ =>
    unfold trips at htrips
    split at htrips
    · exact absurd ‹_› hprobe
    · exact absurd ‹_› hreserved
    · cases htrips
  | heard hin _ => exact absurd hin hreserved
  | @learned frame key counted _ _ hcnt hsent =>
    have hlearn := hcnt.toSameConfig.trans
      (sameConfig_learnSource env counted src frame key)
    rcases hsent with hsent | hsent
    · exact hlearn.trans hsent.toSameConfig
    · exact (hlearn.trans (sameConfig_charged env _ src)).trans hsent.toSameConfig

/-! ## Registration and policy -/

/-- Registration, identity and policy are kept; a port may have been shut. -/
structure Kept (before after : Switch) : Prop where
  ports : after.ports = before.ports
  next : after.next = before.next
  instanceID : after.instanceID = before.instanceID
  stp : after.stp = before.stp
  id : ∀ ptr, (after.entry ptr).id = (before.entry ptr).id
  attrs : ∀ ptr, (after.entry ptr).attrs.disable =
    (before.entry ptr).attrs.disable

theorem Kept.refl : Kept sw sw :=
  ⟨rfl, rfl, rfl, rfl, fun _ => rfl, fun _ => rfl⟩

theorem Kept.trans (h : Kept first second) (h' : Kept second third) : Kept first third :=
  ⟨h'.ports.trans h.ports, h'.next.trans h.next, h'.instanceID.trans h.instanceID,
    h'.stp.trans h.stp, fun ptr => (h'.id ptr).trans (h.id ptr),
    fun ptr => (h'.attrs ptr).trans (h.attrs ptr)⟩

theorem CountersOnly.kept {before after : Switch} (h : CountersOnly before after) :
    Kept before after :=
  ⟨h.ports, h.next, h.instanceID, h.stp, h.id, fun ptr => by rw [h.attrs]⟩

theorem kept_modify (hid : ∀ entry, (f entry).id = entry.id)
    (hattrs : ∀ entry, (f entry).attrs.disable = entry.attrs.disable) :
    Kept sw (sw.modify ptr f) :=
  ⟨rfl, rfl, rfl, rfl,
    fun other => entry_modify_field (·.id) sw ptr other f hid,
    fun other => entry_modify_field (·.attrs.disable) sw ptr other f hattrs⟩

theorem kept_blockPort (reason : BlockReason) : Kept sw (sw.blockPort ptr reason) := by
  have hshut : Kept sw (sw.shutPort ptr reason) := by
    unfold shutPort
    split
    · exact .refl _
    · exact kept_modify sw ptr _ (fun _ => rfl) fun _ => rfl
  exact hshut.trans ⟨rfl, rfl, rfl, rfl, fun _ => rfl, fun _ => rfl⟩

theorem kept_learnSource : Kept sw (learnSource env sw src frame key) := by
  obtain ⟨fdb, hlearn⟩ := learnSource_eq env sw src frame key
  rw [hlearn]
  exact ⟨rfl, rfl, rfl, rfl, fun _ => rfl, fun _ => rfl⟩

theorem kept_charged : Kept sw (charged env sw src) := by
  dsimp only [charged]
  split
  · exact kept_modify sw src _ (fun _ => rfl) fun _ => rfl
  · exact .refl _

theorem handleBPDU_of_disabled {sw : Switch} (hstp : sw.stp.cfg.enabled = false) :
    handleBPDU env sw src data = (sw, []) := by
  simp [handleBPDU, hstp]

theorem consumeReserved_of_disabled (hstp : sw.stp.cfg.enabled = false) :
    consumeReserved env sw src data =
      if (sw.entry src).attrs.bpduGuard && isBPDU (macAt data 0) data then
        (sw.blockPort src .bpduGuard, [])
      else (sw, []) := by
  dsimp only [consumeReserved]
  split
  · rfl
  · rw [handleBPDU_of_disabled env src data hstp]
    simp

theorem kept_deliver (hstp : sw.stp.cfg.enabled = false) :
    Kept sw (deliver env sw src data).1 := by
  have hdel := delivered env sw src data
  generalize (deliver env sw src data).1 = after at hdel ⊢
  cases hdel with
  | counted hcnt => exact hcnt.kept
  | shut reason _ hcnt => exact hcnt.kept.trans (kept_blockPort _ src reason)
  | heard _ _ =>
    have hcnt := counted_countRx sw src data.length
    rw [handleBPDU_of_disabled env src data (by rw [hcnt.stp]; exact hstp)]
    exact hcnt.kept
  | @learned frame key counted _ _ hcnt hsent =>
    have hlearn := hcnt.kept.trans (kept_learnSource env counted src frame key)
    rcases hsent with hsent | hsent
    · exact hlearn.trans hsent.kept
    · exact (hlearn.trans (kept_charged env _ src)).trans hsent.kept

theorem deliver_snd_of_refused (hstp : sw.stp.cfg.enabled = false)
    (hrefused : ∀ frame key, sw.ingress src data ≠ .admitted frame key) :
    (deliver env sw src data).2 = [] := by
  unfold deliver
  split
  · rfl
  · rfl
  · rfl
  · rfl
  · rw [consumeReserved_of_disabled env (sw.countRx src data.length) src data hstp]
    split <;> rfl
  · rfl
  · rfl
  · rfl
  · rename_i frame key hin
    exact absurd hin (hrefused frame key)

end Switch

end GvSwitch.SwitchCore
