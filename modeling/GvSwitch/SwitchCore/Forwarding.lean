import GvSwitch.SwitchCore.Run

/-!
# The forwarding decision

What `deliver` hands out is determined by the configuration of the ports, the
forwarding database and the storm budget, in two steps: `targets` names the
ports that are considered, and `outgoing` says what one of them receives.
-/

namespace GvSwitch.SwitchCore

open Foundation

namespace Switch

/-! ## What one port receives -/

/-- The call the port named `id` receives, if it may receive anything. -/
def outgoing (sw : Switch) (src : Ptr) (frame : FrameView) (key : Int)
    (id : String) : Option SendCall :=
  match sw.ports.get? id with
  | none => none
  | some dst =>
    if id = (sw.entry src).id ∨ sw.mayEgress src dst key = false then none
    else some ⟨(sw.entry dst).port, (sw.entry src).id,
      egressFrame frame key (sw.entry dst).attrs.toPortAttrs⟩

theorem SameConfig.mayEgress {before after : Switch} (h : SameConfig before after)
    (src dst : Ptr) (key : Int) :
    after.mayEgress src dst key = before.mayEgress src dst key := by
  simp only [Switch.mayEgress, h.stpState, h.attrs]

theorem SameConfig.outgoing {before after : Switch} (h : SameConfig before after)
    (src : Ptr) (frame : FrameView) (key : Int) (id : String) :
    after.outgoing src frame key id = before.outgoing src frame key id := by
  simp only [Switch.outgoing, h.ports, h.id, h.port, h.attrs, h.mayEgress]

variable (env : Env) (sw : Switch) (src : Ptr) (frame : FrameView) (key : Int)

private theorem floodStep_snd (state : Switch × List SendCall) (id : String) :
    (floodStep env src (state.1.entry src).id frame key state id).2 =
      state.2 ++ (state.1.outgoing src frame key id).toList := by
  unfold floodStep outgoing
  cases state.1.ports.get? id with
  | none => simp
  | some dst =>
    dsimp only
    split
    · simp
    · simp [send]

private theorem foldl_floodStep (ids : List String) (state : Switch × List SendCall) :
    (ids.foldl (floodStep env src (state.1.entry src).id frame key) state).2 =
      state.2 ++ ids.filterMap (state.1.outgoing src frame key) := by
  induction ids generalizing state with
  | nil => simp
  | cons id rest ih =>
    -- A round changes counters only, so later rounds decide as the first did.
    have hs := counted_floodStep env src (state.1.entry src).id frame key state id
    have hsent := floodStep_snd env src frame key state id
    have hrest := ih (floodStep env src (state.1.entry src).id frame key state id)
    rw [hs.id] at hrest
    have houtgoing := funext fun other => hs.toSameConfig.outgoing src frame key other
    rw [List.foldl_cons, hrest, hsent, houtgoing, List.filterMap_cons, List.append_assoc]
    cases state.1.outgoing src frame key id <;> simp

theorem flood_snd :
    (flood env sw src (sw.entry src).id frame key).2 =
      (env.range sw.ports.keys).filterMap (sw.outgoing src frame key) := by
  have h := foldl_floodStep env src frame key (env.range sw.ports.keys) (sw, [])
  exact h

/-! ## Which ports are considered -/

def stormAllows (env : Env) (sw : Switch) (src : Ptr) : Bool :=
  let pps := (sw.entry src).attrs.stormPPS
  pps == 0 || ((sw.entry src).storm.allow env.now pps).2

def floodTargets (env : Env) (sw : Switch) (src : Ptr) : List String :=
  if stormAllows env sw src then env.range sw.ports.keys else []

/-- The identifiers `forward` considers, in the order it considers them. -/
def targets (env : Env) (sw : Switch) (src : Ptr) (frame : FrameView)
    (key : Int) : List String :=
  if isMulticast frame.dstMAC then floodTargets env sw src
  else
    let hit := sw.fdb.lookup env.now key frame.dstMAC
    if hit.2 ≠ "" then [hit.2] else floodTargets env sw src

theorem floodLimited_snd :
    (floodLimited env sw src (sw.entry src).id frame key).2 =
      (floodTargets env sw src).filterMap (sw.outgoing src frame key) := by
  dsimp only [floodLimited, floodTargets]
  by_cases hlimited : (sw.entry src).attrs.stormPPS > 0
  · have hallows : stormAllows env sw src = ((sw.entry src).storm.allow env.now
        (sw.entry src).attrs.stormPPS).2 := by
      simp [stormAllows, Nat.ne_of_gt hlimited]
    rw [if_pos hlimited, hallows]
    split
    · have hs := sameConfig_chargeStorm sw src
        ((sw.entry src).storm.allow env.now (sw.entry src).attrs.stormPPS).1
      have hflood := flood_snd env (sw.chargeStorm src
        ((sw.entry src).storm.allow env.now (sw.entry src).attrs.stormPPS).1) src frame key
      rw [hs.id, hs.ports, funext (hs.outgoing src frame key)] at hflood
      exact hflood
    · rfl
  · have hallows : stormAllows env sw src = true := by
      simp [stormAllows, Nat.eq_zero_of_not_pos hlimited]
    rw [if_neg hlimited, flood_snd, hallows, if_pos rfl]

variable {sw : Switch} {src : Ptr} {data : Bytes} {frame : FrameView} {key : Int}
variable {call : SendCall}

theorem WellFormed.lookup_resolves (h : WellFormed sw) (now key : Int) (mac : MAC)
    (hhit : (sw.fdb.lookup now key mac).2 ≠ "") :
    (sw.fdb.lookup now key mac).1.or
        (sw.ports.get? (sw.fdb.lookup now key mac).2) =
      sw.ports.get? (sw.fdb.lookup now key mac).2 := by
  unfold Fdb.lookup at hhit ⊢
  split at hhit
  · exact absurd rfl hhit
  rename_i entry he
  split at hhit
  · exact absurd rfl hhit
  rename_i hfresh
  simp only [hfresh]
  cases hk : entry.static with
  | true =>
    obtain ⟨hp, -⟩ := h.static _ entry he hk
    simp [hp]
  | false =>
    obtain ⟨ptr, hp, hresolve, -, -⟩ := h.dynamic _ entry he hk
    simp [hp, hresolve]

/-- A resolved hit takes the same branch as one round of the flood loop. -/
theorem WellFormed.unicast_eq_floodStep (h : WellFormed sw) (env : Env) (src : Ptr)
    (srcID : String) (frame : FrameView) (key : Int) (mac : MAC)
    (hhit : (sw.fdb.lookup env.now key mac).2 ≠ "") :
    unicast env sw src srcID frame key (sw.fdb.lookup env.now key mac) =
      floodStep env src srcID frame key (sw, []) (sw.fdb.lookup env.now key mac).2 := by
  unfold unicast floodStep
  rw [h.lookup_resolves env.now key mac hhit]
  cases hp : sw.ports.get? (sw.fdb.lookup env.now key mac).2 with
  | none => rfl
  | some dst =>
    obtain ⟨hid, -, hgone, -⟩ := h.registered _ dst hp
    by_cases hself : (sw.fdb.lookup env.now key mac).2 = srcID
    · simp [hid, hself]
    · cases hmay : sw.mayEgress src dst key <;> simp [hid, hself, hgone, hmay]

theorem WellFormed.forward_snd (h : WellFormed sw) (env : Env) (src : Ptr)
    (frame : FrameView) (key : Int) :
    (forward env sw src (sw.entry src).id frame key).2 =
      (targets env sw src frame key).filterMap
        (sw.outgoing src frame key) := by
  unfold forward targets
  split
  · exact floodLimited_snd env sw src frame key
  dsimp only
  split
  · rename_i hhit
    have hround := floodStep_snd env src frame key (sw, [])
      (sw.fdb.lookup env.now key frame.dstMAC).2
    rw [h.unicast_eq_floodStep env src _ frame key _ hhit, hround]
    cases hout : sw.outgoing src frame key
      (sw.fdb.lookup env.now key frame.dstMAC).2 <;> simp [hout]
  · exact floodLimited_snd env sw src frame key

theorem targets_congr {first second : Switch} (hports : second.ports = first.ports)
    (hfdb : second.fdb = first.fdb)
    (hattrs : (second.entry src).attrs = (first.entry src).attrs)
    (hstorm : (second.entry src).storm = (first.entry src).storm) (frame : FrameView)
    (key : Int) : targets env second src frame key = targets env first src frame key := by
  have hallows : stormAllows env second src = stormAllows env first src := by
    simp only [stormAllows, hattrs, hstorm]
  simp only [targets, floodTargets, hallows, hports, hfdb]

theorem learnSource_countRx_fdb (sw : Switch) (src : Ptr) (bytes : Nat)
    (frame : FrameView) (key : Int) :
    (learnSource env (sw.countRx src bytes) src frame key).fdb =
      (learnSource env sw src frame key).fdb := by
  unfold learnSource
  split
  · rfl
  · simp [countRx]

theorem learnSource_entry (sw : Switch) (src ptr : Ptr) (frame : FrameView) (key : Int) :
    (learnSource env sw src frame key).entry ptr = sw.entry ptr := by
  unfold learnSource
  split <;> rfl

theorem WellFormed.deliver_snd (h : WellFormed sw) (env : Env)
    (hin : sw.ingress src data = .admitted frame key) :
    (Switch.deliver env sw src data).2 =
      if (sw.entry src).stpState = .learning then []
      else (targets env (Switch.learnSource env sw src frame key) src frame
        key).filterMap (sw.outgoing src frame key) := by
  have hcnt := counted_countRx sw src data.length
  have hlearn := sameConfig_learnSource env (sw.countRx src data.length) src frame key
  have hs := hcnt.toSameConfig.trans hlearn
  unfold Switch.deliver
  rw [hin]
  dsimp only
  dsimp only [switchFrame]
  rw [hcnt.stpState]
  split
  · rfl
  obtain ⟨-, hgone, -, -, -, -, hkey, -⟩ := ingress_eq_admitted hin
  have hw : WellFormed (Switch.learnSource env (sw.countRx src data.length)
      src frame key) := by
    refine (h.quiet hcnt.quiet).learnSource env ?_ ?_
    · rw [hcnt.gone]
      exact hgone
    · rw [hcnt.attrs]
      exact admits_of_ingressKey hkey
  have hfwd := hw.forward_snd env src frame key
  rw [hs.id, funext (hs.outgoing src frame key)] at hfwd
  rw [hcnt.id, hfwd]
  congr 1
  refine targets_congr env ?_ (learnSource_countRx_fdb ..) ?_ ?_ frame key
  · exact hs.ports.trans (sameConfig_learnSource env sw src frame key).ports.symm
  · rw [hs.attrs, learnSource_entry]
  · rw [learnSource_entry, learnSource_entry]
    exact entry_modify_field (·.storm) sw src src _ fun _ => rfl

/-! ## The decision as a specification -/

/-- The conditions a frame meets at ingress to be switched under `key`. -/
structure Accepted (sw : Switch) (src : Ptr) (data : Bytes) (frame : FrameView)
    (key : Int) : Prop where
  parses : parseFrame data = some frame
  registered : sw.ports.get? (sw.entry src).id = some src
  live : (sw.entry src).gone = false
  enabled : (sw.entry src).attrs.disabled = false
  forwarding : (sw.entry src).stpState = .forwarding
  notReserved : isReservedGroupMAC frame.dstMAC = false
  notProbe : ¬ (frame.dstMAC = loopProbeDst ∧
    isOwnLoopProbe sw.instanceID data = true)
  admitted : ingressKey (sw.entry src).attrs.toPortAttrs frame = some key
  secure : ∀ mac, (sw.entry src).attrs.securityMAC = some mac →
    frame.srcMAC = macAt mac 0

def Eligible (sw : Switch) (src : Ptr) (key : Int) (id : String) : Prop :=
  ∃ dst, sw.ports.get? id = some dst ∧ id ≠ (sw.entry src).id ∧
    (sw.entry dst).attrs.disabled = false ∧
    (sw.entry dst).stpState = .forwarding ∧
    (sw.entry dst).attrs.admits key = true ∧
    ¬ ((sw.entry src).attrs.isolated = true ∧
      (sw.entry dst).attrs.isolated = true)

/-- The table has a static or unexpired entry that names `portID`. -/
def FdbHit (fdb : Fdb) (now key : Int) (mac : MAC) (portID : String) : Prop :=
  ∃ entry, fdb.m.get? ⟨key, mac⟩ = some entry ∧
    (entry.static = true ∨ now - entry.lastSeen ≤ fdb.maxAge) ∧
    entry.portID = portID

inductive Receives (env : Env) (sw : Switch) (src : Ptr) (frame : FrameView)
    (key : Int) (id : String) : Prop
  | known : isMulticast frame.dstMAC = false →
      FdbHit (learnSource env sw src frame key).fdb env.now key frame.dstMAC id →
      Eligible sw src key id → Receives env sw src frame key id
  | flooded : (isMulticast frame.dstMAC = true ∨ ∀ portID,
        ¬ FdbHit (learnSource env sw src frame key).fdb env.now key
          frame.dstMAC portID) →
      stormAllows env sw src = true →
      Eligible sw src key id → Receives env sw src frame key id

def Renders (sw : Switch) (src : Ptr) (frame : FrameView) (key : Int)
    (id : String) (call : SendCall) : Prop :=
  ∃ dst, sw.ports.get? id = some dst ∧
    call = ⟨(sw.entry dst).port, (sw.entry src).id,
      egressFrame frame key (sw.entry dst).attrs.toPortAttrs⟩

theorem mayEgress_iff (sw : Switch) (src dst : Ptr) (key : Int) :
    sw.mayEgress src dst key = true ↔
      (sw.entry dst).attrs.disabled = false ∧
        (sw.entry dst).stpState = .forwarding ∧
        (sw.entry dst).attrs.admits key = true ∧
        ¬ ((sw.entry src).attrs.isolated = true ∧
          (sw.entry dst).attrs.isolated = true) := by
  unfold mayEgress egressEligible
  cases (sw.entry dst).attrs.disabled <;>
    cases (sw.entry src).attrs.isolated <;>
    cases (sw.entry dst).attrs.isolated <;> simp

theorem outgoing_eq_some_iff (sw : Switch) (src : Ptr) (frame : FrameView)
    (key : Int) (id : String) (call : SendCall) :
    sw.outgoing src frame key id = some call ↔
      Eligible sw src key id ∧ Renders sw src frame key id call := by
  unfold outgoing Eligible Renders
  cases hp : sw.ports.get? id with
  | none => simp
  | some dst =>
    simp only [Option.some.injEq, exists_eq_left']
    rw [← mayEgress_iff]
    by_cases hself : id = (sw.entry src).id
    · simp [hself]
    · cases hmay : sw.mayEgress src dst key <;> simp [hself, eq_comm]

theorem WellFormed.fdbHit_iff (h : WellFormed sw) (now key : Int) (mac : MAC) (id : String) :
    FdbHit sw.fdb now key mac id ↔
      (sw.fdb.lookup now key mac).2 = id ∧ id ≠ "" := by
  unfold FdbHit Fdb.lookup
  cases he : sw.fdb.m.get? ⟨key, mac⟩ with
  | none =>
    simp only [reduceCtorEq, false_and, exists_false, false_iff]
    rintro ⟨rfl, hempty⟩
    exact hempty rfl
  | some entry =>
    simp only [Option.some.injEq, exists_eq_left']
    -- No entry names the empty identifier.
    have hn : entry.portID ≠ "" := by
      cases hk : entry.static with
      | true => exact (h.static _ entry he hk).2
      | false =>
        obtain ⟨ptr, -, hp, -⟩ := h.dynamic _ entry he hk
        exact (h.registered _ ptr hp).2.2.2
    cases hk : entry.static with
    | true =>
      simp only [true_or, true_and, Bool.not_true, Bool.false_and,
        Bool.false_eq_true, if_false]
      exact ⟨fun hid => ⟨hid, hid ▸ hn⟩, And.left⟩
    | false =>
      by_cases hage : now - entry.lastSeen ≤ sw.fdb.maxAge
      · simp only [hage, Int.not_lt.mpr hage, or_true, true_and, Bool.not_false,
          decide_false, Bool.and_false, Bool.false_eq_true, if_false]
        exact ⟨fun hid => ⟨hid, hid ▸ hn⟩, And.left⟩
      simp only [hage, Int.not_le.mp hage, Bool.false_eq_true, or_self, false_and,
        Bool.not_false, decide_true, Bool.and_true, if_true, false_iff]
      rintro ⟨rfl, hempty⟩
      exact hempty rfl

theorem Accepted.ingress (h : Accepted sw src data frame key) :
    sw.ingress src data = .admitted frame key := by
  have hsecure : securityViolated (sw.entry src).attrs.toPortAttrs
      frame.srcMAC = false := by
    unfold securityViolated
    split
    · rfl
    · rename_i mac hmac
      simp [h.secure mac hmac]
  simp [Switch.ingress, h.parses, h.live, h.enabled, h.notReserved, h.forwarding,
    h.admitted, hsecure]
  exact fun hdst => by simpa [hdst] using h.notProbe

theorem WellFormed.accepted (h : WellFormed sw)
    (hin : sw.ingress src data = .admitted frame key)
    (hst : (sw.entry src).stpState ≠ .learning) : Accepted sw src data frame key := by
  obtain ⟨hparse, hgone, hon, hprobe, hreserved, hstp, hkey, hsecure⟩ :=
    ingress_eq_admitted hin
  refine ⟨hparse, h.live src hgone, hgone, hon, hstp.resolve_right hst,
    hreserved, hprobe, hkey, ?_⟩
  intro mac hmac
  simpa [securityViolated, hmac] using hsecure

theorem WellFormed.learned (h : WellFormed sw) (env : Env)
    (hin : sw.ingress src data = .admitted frame key) :
    WellFormed (Switch.learnSource env sw src frame key) := by
  obtain ⟨-, hgone, -, -, -, -, hkey, -⟩ := ingress_eq_admitted hin
  exact h.learnSource env hgone (admits_of_ingressKey hkey)

theorem targets_nodup (sw : Switch) (src : Ptr) (frame : FrameView) (key : Int) :
    (targets env sw src frame key).Nodup := by
  have hflood : (floodTargets env sw src).Nodup := by
    unfold floodTargets
    split
    · exact (env.range_perm _).nodup_iff.mpr sw.ports.nodup
    · exact List.nodup_nil
  dsimp only [targets]
  split
  · exact hflood
  split
  · exact List.nodup_singleton _
  · exact hflood

theorem mem_floodTargets (sw : Switch) (src : Ptr) (id : String) (hreg : id ∈ sw.ports.keys) :
    id ∈ floodTargets env sw src ↔ stormAllows env sw src = true := by
  unfold floodTargets
  split
  · rename_i hallows
    simp [hallows, env.mem_range, hreg]
  · rename_i hallows
    simp [hallows]

theorem WellFormed.mem_targets_iff (h : WellFormed sw) (env : Env)
    (hin : sw.ingress src data = .admitted frame key) {id : String}
    (heligible : Eligible sw src key id) :
    id ∈ targets env (Switch.learnSource env sw src frame key) src frame key ↔
      Receives env sw src frame key id := by
  have hlearn := h.learned env hin
  have hs := sameConfig_learnSource env sw src frame key
  have hallows : stormAllows env (Switch.learnSource env sw src frame key) src =
      stormAllows env sw src := by
    simp only [stormAllows, learnSource_entry]
  have hflood : id ∈ floodTargets env (Switch.learnSource env sw src frame key)
      src ↔ stormAllows env sw src = true := by
    rw [← hallows]
    refine mem_floodTargets env _ src id ?_
    obtain ⟨dst, hdst, -⟩ := heligible
    rw [hs.ports]
    exact (GoMap.mem_keys_iff _ _).mpr ⟨dst, hdst⟩
  have hhit := hlearn.fdbHit_iff env.now key frame.dstMAC
  dsimp only [targets]
  split
  · rename_i hmulticast
    rw [hflood]
    constructor
    · exact fun hstorm => .flooded (.inl hmulticast) hstorm heligible
    rintro (⟨hunicast, -, -⟩ | ⟨-, hstorm, -⟩)
    · simp [hmulticast] at hunicast
    · exact hstorm
  · rename_i hunicast
    rw [Bool.not_eq_true] at hunicast
    split
    · rename_i hf
      rw [List.mem_singleton]
      constructor
      · rintro rfl
        exact .known hunicast ((hhit _).mpr ⟨rfl, hf⟩) heligible
      rintro (⟨-, hknown, -⟩ | ⟨hmiss, -, -⟩)
      · exact ((hhit id).mp hknown).1.symm
      rcases hmiss with hmulticast | hmiss
      · simp [hunicast] at hmulticast
      · exact absurd ((hhit _).mpr ⟨rfl, hf⟩) (hmiss _)
    · rename_i hmissed
      rw [not_not] at hmissed
      rw [hflood]
      constructor
      · intro hstorm
        refine .flooded (.inr ?_) hstorm heligible
        intro portID hknown
        obtain ⟨hname, hempty⟩ := (hhit portID).mp hknown
        exact hempty (hname.symm.trans hmissed)
      · rintro (⟨-, hknown, -⟩ | ⟨-, hstorm, -⟩)
        · obtain ⟨hname, hempty⟩ := (hhit id).mp hknown
          exact absurd (hname.symm.trans hmissed) hempty
        · exact hstorm

private theorem forall₂_filterMap {α β : Type} (f : α → Option β) (items : List α) :
    List.Forall₂ (fun item value => f item = some value)
      (items.filter fun item => (f item).isSome) (items.filterMap f) := by
  induction items with
  | nil => exact .nil
  | cons item rest ih =>
    cases hvalue : f item with
    | none => simpa [hvalue] using ih
    | some value =>
      simp only [List.filter_cons, List.filterMap_cons, hvalue, Option.isSome_some, if_true]
      exact .cons hvalue ih

/-- An accepted frame is rendered once for each receiver. -/
theorem WellFormed.deliver_accepted (h : WellFormed sw) (env : Env)
    (haccepted : Accepted sw src data frame key) :
    ∃ ids : List String, ids.Nodup ∧
      (∀ id, id ∈ ids ↔ Receives env sw src frame key id) ∧
      List.Forall₂ (Renders sw src frame key) ids
        (Switch.deliver env sw src data).2 := by
  have hin := haccepted.ingress
  have hsent := h.deliver_snd env hin
  rw [if_neg (by simp [haccepted.forwarding])] at hsent
  refine ⟨_, (targets_nodup env (Switch.learnSource env sw src frame key) src frame
    key).filter (fun id => (sw.outgoing src frame key id).isSome), ?_, ?_⟩
  · intro id
    rw [List.mem_filter, Option.isSome_iff_exists]
    constructor
    · rintro ⟨hm, call, hc⟩
      have heligible := ((outgoing_eq_some_iff ..).mp hc).1
      exact (h.mem_targets_iff env hin heligible).mp hm
    intro hreceives
    have heligible : Eligible sw src key id := by
      cases hreceives <;> assumption
    have hreg := heligible
    obtain ⟨dst, hdst, -⟩ := hreg
    refine ⟨(h.mem_targets_iff env hin heligible).mpr hreceives, _,
      (outgoing_eq_some_iff ..).mpr ⟨heligible, dst, hdst, rfl⟩⟩
  · rw [hsent]
    refine (forall₂_filterMap (sw.outgoing src frame key) _).imp ?_
    intro id call hc
    exact ((outgoing_eq_some_iff ..).mp hc).2

/-! ## Frames that are not switched -/

def tcnAnswer (sw : Switch) (record : StpPort) : SendCall :=
  let signalled := sw.signalTopologyChangeLocked
  signalled.stpSend record (signalled.buildConfig record 0x80)

theorem length_frameHeader (bridge : StpBridge) (payloadLen : Nat) :
    (frameHeader bridge payloadLen).length = 17 := by
  simp [frameHeader, putBE16]

theorem length_buildConfig (sw : Switch) (record : StpPort) (flags : UInt8) :
    (sw.buildConfig record flags).length = 60 := by
  simp [buildConfig, pad60, frameHeader, putBE16, putBE32, putBE64]

theorem byteAt_buildConfig (sw : Switch) (record : StpPort) (flags : UInt8) :
    byteAt (sw.buildConfig record flags) 20 = 0 := by
  unfold buildConfig pad60
  simp only [List.append_assoc]
  rw [byteAt_append_right _ _ (by rw [length_frameHeader]; decide), length_frameHeader]
  rfl

theorem consumeReserved_snd (sw : Switch) (src : Ptr) (data : Bytes)
    (hc : call ∈ (consumeReserved env sw src data).2) :
    byteAt data 20 = 0x80 ∧ ∃ record, call = sw.tcnAnswer record := by
  dsimp only [consumeReserved] at hc
  split at hc
  · cases hc
  split at hc
  · dsimp only [handleBPDU] at hc
    split at hc
    · cases hc
    split at hc
    · cases hc
    rename_i record hr
    split at hc
    · cases hc
    split at hc
    · rename_i hty
      split at hc
      · rw [byteAt_drop] at hty
        exact ⟨hty, record, List.mem_singleton.mp hc⟩
      · cases hc
    · split at hc <;> cases hc
  · cases hc

theorem WellFormed.deliver_refused (h : WellFormed sw) (env : Env) (src : Ptr)
    (data : Bytes) (hrefused : ¬ ∃ frame key, Accepted sw src data frame key)
    (hc : call ∈ (Switch.deliver env sw src data).2) :
    call.frame ≠ data ∧
      ∃ record, call = (sw.countRx src data.length).tcnAnswer record := by
  cases hin : sw.ingress src data with
  | admitted frame key =>
    rw [h.deliver_snd env hin] at hc
    split at hc
    · cases hc
    · rename_i hst
      exact absurd ⟨frame, key, h.accepted hin hst⟩ hrefused
  | reserved =>
    simp only [Switch.deliver, hin] at hc
    obtain ⟨hty, record, rfl⟩ := consumeReserved_snd env _ src data hc
    refine ⟨?_, record, rfl⟩
    intro hs
    have hcfg := byteAt_buildConfig
      (sw.countRx src data.length).signalTopologyChangeLocked record 0x80
    simp [show Switch.buildConfig _ record 0x80 = data from hs, hty] at hcfg
  | unparsed | gone | disabled | ownProbe | stpBlocked | vlanRefused | insecure =>
    simp [Switch.deliver, hin] at hc

end Switch

/-- In every reachable state the calls made for an accepted frame are exactly
one rendering for each receiver; a frame that is not accepted is not sent. -/
theorem deliver_sends_exactly {world : World} (hreached : world.Reached) (env : Env)
    (src : Ptr) (data : Bytes) :
    (∀ frame key, world.sw.Accepted src data frame key →
      ∃ ids : List String, ids.Nodup ∧
        (∀ id, id ∈ ids ↔ Switch.Receives env world.sw src frame key id) ∧
        List.Forall₂ (world.sw.Renders src frame key) ids
          (Switch.deliver env world.sw src data).2) ∧
    ((¬ ∃ frame key, world.sw.Accepted src data frame key) →
      ∀ call ∈ (Switch.deliver env world.sw src data).2, call.frame ≠ data ∧
        ∃ record, call = (world.sw.countRx src data.length).tcnAnswer record) := by
  have hw := hreached.wellFormed
  constructor
  · intro frame key haccepted
    exact hw.deliver_accepted env haccepted
  · intro hrefused call hc
    exact hw.deliver_refused env src data hrefused hc

def threePorts : World :=
  (World.start 7).run (steadyEnv 1) [
    .op (.addPort ⟨"trunk", 1⟩ { vlan := 4095 }),
    .op (.addPort ⟨"ten", 2⟩ { vlan := 10 }),
    .op (.addPort ⟨"plain", 3⟩ { vlan := 0 })]

theorem reached_threePorts : threePorts.Reached :=
  (World.reached_start 7).run (steadyEnv 1) _

def taggedBroadcast : Bytes :=
  [0xff, 0xff, 0xff, 0xff, 0xff, 0xff, 0x02, 0, 0, 0, 0, 1, 0x81, 0, 0, 10, 0x08, 0]

theorem deliver_sends_exactly_tagged :
    ∃ ids : List String, ids.Nodup ∧
      (∀ id, id ∈ ids ↔ Switch.Receives (steadyEnv 2) threePorts.sw 0
        ⟨taggedBroadcast, true, 10⟩ 10 id) ∧
      List.Forall₂ (threePorts.sw.Renders 0 ⟨taggedBroadcast, true, 10⟩ 10) ids
        [⟨⟨"ten", 2⟩, "trunk",
          [0xff, 0xff, 0xff, 0xff, 0xff, 0xff, 0x02, 0, 0, 0, 0, 1, 0x08, 0]⟩] := by
  have haccepted : threePorts.sw.Accepted 0 taggedBroadcast
      ⟨taggedBroadcast, true, 10⟩ 10 :=
    ⟨by decide, by decide, by decide, by decide, by decide, by decide, by decide,
      by decide, by decide⟩
  exact (deliver_sends_exactly reached_threePorts (steadyEnv 2) 0 taggedBroadcast).1
    _ _ haccepted

end GvSwitch.SwitchCore
