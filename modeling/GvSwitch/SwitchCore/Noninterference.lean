import GvSwitch.SwitchCore.Forwarding

/-!
# VLAN noninterference

Frames injected on the access ports of one VLAN never influence what is sent
for the frames of the other VLANs.  Two switches are `Alike` outside a VLAN
when they agree on everything that traffic of the other VLANs can read; the
frames of that VLAN's access ports keep a switch alike to itself, and every
other frame keeps two alike switches alike.
-/

namespace GvSwitch.SwitchCore

open Foundation Switch

variable {sw : Switch}

namespace Switch

/-! ## Switches that agree outside a VLAN -/

section Outside

variable {access : Int}

/-- The two switches agree on everything that frames of VLANs other than
`access` can read. -/
structure Alike (access : Int) (first second : Switch) : Prop where
  ports : second.ports = first.ports
  instanceID : second.instanceID = first.instanceID
  stp : second.stp = first.stp
  id : ∀ ptr, (second.entry ptr).id = (first.entry ptr).id
  port : ∀ ptr, (second.entry ptr).port = (first.entry ptr).port
  gone : ∀ ptr, (second.entry ptr).gone = (first.entry ptr).gone
  stpState : ∀ ptr, (second.entry ptr).stpState =
    (first.entry ptr).stpState
  vlan : ∀ ptr, (second.entry ptr).attrs.vlan =
    (first.entry ptr).attrs.vlan
  attrs : ∀ ptr, (first.entry ptr).attrs.vlan ≠ access →
    (second.entry ptr).attrs = (first.entry ptr).attrs
  storm : ∀ ptr, (first.entry ptr).attrs.vlan ≠ access →
    (second.entry ptr).storm = (first.entry ptr).storm
  maxAge : second.fdb.maxAge = first.fdb.maxAge
  fdb : ∀ key, key.vlan ≠ access → second.fdb.m.get? key = first.fdb.m.get? key

variable {first second : Switch} {src : Ptr} {id : String} {key : Int}

theorem Alike.symm (h : Alike access first second) :
    Alike access second first where
  ports := h.ports.symm
  instanceID := h.instanceID.symm
  stp := h.stp.symm
  id := fun ptr => (h.id ptr).symm
  port := fun ptr => (h.port ptr).symm
  gone := fun ptr => (h.gone ptr).symm
  stpState := fun ptr => (h.stpState ptr).symm
  vlan := fun ptr => (h.vlan ptr).symm
  attrs := fun ptr hv => (h.attrs ptr (h.vlan ptr ▸ hv)).symm
  storm := fun ptr hv => (h.storm ptr (h.vlan ptr ▸ hv)).symm
  maxAge := h.maxAge.symm
  fdb := fun key hkey => (h.fdb key hkey).symm

theorem Alike.trans {third : Switch} (h : Alike access first second)
    (h' : Alike access second third) : Alike access first third where
  ports := h'.ports.trans h.ports
  instanceID := h'.instanceID.trans h.instanceID
  stp := h'.stp.trans h.stp
  id := fun ptr => (h'.id ptr).trans (h.id ptr)
  port := fun ptr => (h'.port ptr).trans (h.port ptr)
  gone := fun ptr => (h'.gone ptr).trans (h.gone ptr)
  stpState := fun ptr => (h'.stpState ptr).trans (h.stpState ptr)
  vlan := fun ptr => (h'.vlan ptr).trans (h.vlan ptr)
  attrs := fun ptr hv =>
    (h'.attrs ptr (by rw [h.vlan]; exact hv)).trans (h.attrs ptr hv)
  storm := fun ptr hv =>
    (h'.storm ptr (by rw [h.vlan]; exact hv)).trans (h.storm ptr hv)
  maxAge := h'.maxAge.trans h.maxAge
  fdb := fun key hkey => (h'.fdb key hkey).trans (h.fdb key hkey)

theorem CountersOnly.alike {before after : Switch} (h : CountersOnly before after) :
    Alike access before after where
  ports := h.ports
  instanceID := h.instanceID
  stp := h.stp
  id := h.id
  port := h.port
  gone := h.gone
  stpState := h.stpState
  vlan := fun ptr => by rw [h.attrs]
  attrs := fun ptr _ => h.attrs ptr
  storm := fun ptr _ => h.storm ptr
  maxAge := by rw [h.fdb]
  fdb := fun _ _ => by rw [h.fdb]

theorem Alike.refl (sw : Switch) : Alike access sw sw :=
  (Counted.refl sw).alike

structure Neutral (f : PortEntry → PortEntry) : Prop where
  id : ∀ entry, (f entry).id = entry.id
  port : ∀ entry, (f entry).port = entry.port
  gone : ∀ entry, (f entry).gone = entry.gone
  stpState : ∀ entry, (f entry).stpState = entry.stpState
  vlan : ∀ entry, (f entry).attrs.vlan = entry.attrs.vlan

theorem alike_modify (sw : Switch) {ptr : Ptr} {f : PortEntry → PortEntry}
    (hneutral : Neutral f) (hv : (sw.entry ptr).attrs.vlan = access) :
    Alike access sw (sw.modify ptr f) := by
  have ho {target : Ptr} (htgt : (sw.entry target).attrs.vlan ≠ access) :
      (sw.modify ptr f).entry target = sw.entry target := by
    refine entry_modify_of_ne sw f ?_
    rintro rfl
    exact htgt hv
  exact {
    ports := rfl
    instanceID := rfl
    stp := rfl
    id := fun target => entry_modify_field (·.id) _ _ _ _ hneutral.id
    port := fun target => entry_modify_field (·.port) _ _ _ _ hneutral.port
    gone := fun target => entry_modify_field (·.gone) _ _ _ _ hneutral.gone
    stpState := fun target =>
      entry_modify_field (·.stpState) _ _ _ _ hneutral.stpState
    vlan := fun target => entry_modify_field (·.attrs.vlan) _ _ _ _ hneutral.vlan
    attrs := fun target htgt => by rw [ho htgt]
    storm := fun target htgt => by rw [ho htgt]
    maxAge := rfl
    fdb := fun _ _ => rfl }

theorem Alike.modify (h : Alike access first second) (ptr : Ptr)
    {f : PortEntry → PortEntry} (hneutral : Neutral f)
    (hattrs : ∀ entry other, other.attrs = entry.attrs → (f other).attrs = (f entry).attrs)
    (hstorm : ∀ entry other, other.storm = entry.storm → (f other).storm = (f entry).storm) :
    Alike access (first.modify ptr f) (second.modify ptr f) := by
  have hfield {α : Type} (field : PortEntry → α)
      (hf : ∀ entry, field (f entry) = field entry)
      (hs : ∀ target, field (second.entry target) = field (first.entry target))
      (target : Ptr) : field ((second.modify ptr f).entry target) =
        field ((first.modify ptr f).entry target) := by
    rw [entry_modify_field field second ptr target f hf,
      entry_modify_field field first ptr target f hf, hs]
  have hv (target : Ptr) : ((first.modify ptr f).entry target).attrs.vlan =
      (first.entry target).attrs.vlan :=
    entry_modify_field (·.attrs.vlan) first ptr target f hneutral.vlan
  refine ⟨h.ports, h.instanceID, h.stp, hfield (·.id) hneutral.id h.id,
    hfield (·.port) hneutral.port h.port, hfield (·.gone) hneutral.gone h.gone,
    hfield (·.stpState) hneutral.stpState h.stpState,
    hfield (·.attrs.vlan) hneutral.vlan h.vlan, ?_, ?_, h.maxAge, h.fdb⟩
  · intro target htgt
    rw [hv] at htgt
    by_cases hs : target = ptr
    · subst hs
      rw [entry_modify_self, entry_modify_self]
      exact hattrs _ _ (h.attrs target htgt)
    · rw [entry_modify_of_ne _ _ hs, entry_modify_of_ne _ _ hs]
      exact h.attrs target htgt
  · intro target htgt
    rw [hv] at htgt
    by_cases hs : target = ptr
    · subst hs
      rw [entry_modify_self, entry_modify_self]
      exact hstorm _ _ (h.storm target htgt)
    · rw [entry_modify_of_ne _ _ hs, entry_modify_of_ne _ _ hs]
      exact h.storm target htgt

theorem Alike.withFdb (h : Alike access first second) {fdb fdb' : Fdb}
    (hmaxAge : fdb'.maxAge = fdb.maxAge)
    (hfdb : ∀ key, key.vlan ≠ access → fdb'.m.get? key = fdb.m.get? key) :
    Alike access { first with fdb := fdb } { second with fdb := fdb' } :=
  ⟨h.ports, h.instanceID, h.stp, h.id, h.port, h.gone, h.stpState, h.vlan, h.attrs,
    h.storm, hmaxAge, hfdb⟩

theorem Alike.flushPort (h : Alike access first second) (id : String) :
    Alike access (first.flushPort id) (second.flushPort id) := by
  refine h.withFdb h.maxAge ?_
  intro key hkey
  rw [Fdb.get?_flushPort, Fdb.get?_flushPort, h.fdb key hkey]

theorem neutral_shut (reason : BlockReason) : Neutral fun entry =>
    { entry with attrs := entry.attrs.disable, blockReason := some reason } :=
  ⟨fun _ => rfl, fun _ => rfl, fun _ => rfl, fun _ => rfl, fun _ => rfl⟩

theorem neutral_storm (bucket : StormBucket) : Neutral fun entry =>
    { entry with storm := bucket } :=
  ⟨fun _ => rfl, fun _ => rfl, fun _ => rfl, fun _ => rfl, fun _ => rfl⟩

theorem Alike.blockPort (h : Alike access first second)
    (hv : (first.entry src).attrs.vlan ≠ access) (reason : BlockReason) :
    Alike access (first.blockPort src reason) (second.blockPort src reason) := by
  have hshut : Alike access (first.shutPort src reason) (second.shutPort src reason) := by
    unfold shutPort
    rw [h.attrs src hv]
    split
    · exact h
    refine h.modify src (neutral_shut reason) ?_ ?_
    · intro entry other hattrs
      rw [hattrs]
    · exact fun _ _ hstorm => hstorm
  unfold Switch.blockPort
  rw [h.id]
  exact hshut.flushPort _

/-! ## A frame of the hidden VLAN -/

variable (hacc : 1 ≤ access ∧ access ≤ 4094)

include hacc

theorem admits_access {attrs : PortAttrs} (hv : attrs.vlan = access) (key : Int) :
    attrs.admits key = (key == access) := by
  have htrunk : ¬ access = vlanTrunk := by simp only [vlanTrunk]; omega
  have hplain : ¬ access = vlanUntaggedOnly := by simp only [vlanUntaggedOnly]; omega
  have hint : int32 access = access := int32_of_range (by omega) (by omega)
  simp only [PortAttrs.admits, hv, htrunk, hplain, if_false, hint]

theorem WellFormed.alike_flushPort (h : WellFormed sw) (hp : sw.ports.get? id = some src)
    (hv : (sw.entry src).attrs.vlan = access) : Alike access sw (sw.flushPort id) := by
  refine (Alike.refl sw).withFdb rfl ?_
  intro key hkey
  rw [Fdb.get?_flushPort]
  cases he : sw.fdb.m.get? key with
  | none => rfl
  | some entry =>
    -- A flushed entry was learned on the access port, hence in its VLAN.
    refine Option.filter_eq_some_iff.mpr ⟨rfl, ?_⟩
    cases hstat : entry.static with
    | true => rfl
    | false =>
      obtain ⟨ptr, -, hresolve, hadm, -⟩ := h.dynamic key entry he hstat
      rw [Bool.false_or, bne_iff_ne]
      intro hname
      rw [hname, hp] at hresolve
      cases hresolve
      rw [admits_access hacc hv] at hadm
      exact hkey (beq_iff_eq.mp hadm)

theorem WellFormed.alike_blockPort (h : WellFormed sw) (hp : sw.ports.get? id = some src)
    (hv : (sw.entry src).attrs.vlan = access) (reason : BlockReason) :
    Alike access sw (sw.blockPort src reason) := by
  have hshut : Alike access sw (sw.shutPort src reason) := by
    unfold shutPort
    split
    · exact .refl _
    · exact alike_modify sw (neutral_shut reason) hv
  unfold Switch.blockPort
  rw [(h.registered id src hp).1]
  exact (h.alike_flushPort hacc hp hv).trans (hshut.flushPort id)

omit hacc in
theorem alike_learnSource (env : Env) (sw : Switch) (src : Ptr) (frame : FrameView) :
    Alike access sw (learnSource env sw src frame access) := by
  unfold learnSource
  split
  · exact .refl _
  refine (Alike.refl sw).withFdb ?_ ?_
  · unfold Fdb.learn
    split
    · split <;> rfl
    · rfl
  · intro key hkey
    rw [Fdb.get?_learn, if_neg]
    rintro ⟨rfl, -⟩
    exact hkey rfl

omit hacc in
theorem alike_charged (env : Env) (sw : Switch) (hv : (sw.entry src).attrs.vlan = access) :
    Alike access sw (charged env sw src) := by
  dsimp only [charged]
  split
  · exact alike_modify sw (neutral_storm _) hv
  · exact .refl _

theorem ingressKey_access {attrs : PortAttrs} (hv : attrs.vlan = access)
    {frame : FrameView} (hkey : ingressKey attrs frame = some key) : key = access := by
  have hadm := admits_of_ingressKey hkey
  rw [admits_access hacc hv] at hadm
  exact beq_iff_eq.mp hadm

theorem WellFormed.alike_deliver (h : WellFormed sw) (hstp : sw.stp.cfg.enabled = false)
    (env : Env) (hp : sw.ports.get? id = some src) (hv : (sw.entry src).attrs.vlan = access)
    (data : Bytes) : Alike access sw (Switch.deliver env sw src data).1 := by
  have hdel := delivered env sw src data
  generalize (Switch.deliver env sw src data).1 = after at hdel ⊢
  cases hdel with
  | counted hcnt => exact hcnt.alike
  | @shut counted reason _ hcnt =>
    have hp' : counted.ports.get? id = some src := by
      rw [hcnt.ports]
      exact hp
    have hv' : (counted.entry src).attrs.vlan = access := by
      rw [hcnt.attrs]
      exact hv
    have hw := h.quiet hcnt.quiet
    exact hcnt.alike.trans (hw.alike_blockPort hacc hp' hv' reason)
  | heard _ _ =>
    have hcnt := counted_countRx sw src data.length
    rw [handleBPDU_of_disabled env src data (by rw [hcnt.stp]; exact hstp)]
    exact hcnt.alike
  | @learned frame key counted _ hin hcnt hsent =>
    obtain ⟨-, -, -, -, -, -, hkey, -⟩ := ingress_eq_admitted hin
    rw [ingressKey_access hacc hv hkey] at hsent
    have hlearn : Alike access sw
        (Switch.learnSource env counted src frame access) :=
      hcnt.alike.trans (alike_learnSource env counted src frame)
    rcases hsent with hsent | hsent
    · exact hlearn.trans hsent.alike
    refine (hlearn.trans (alike_charged env _ ?_)).trans hsent.alike
    rw [hlearn.vlan]
    exact hv

/-! ## Any other frame -/

omit hacc in
theorem Alike.ingress (h : Alike access first second)
    (hv : (first.entry src).attrs.vlan ≠ access) (data : Bytes) :
    second.ingress src data = first.ingress src data := by
  simp only [Switch.ingress, h.gone, h.attrs src hv, h.instanceID, h.stpState]

omit hacc in
theorem Alike.lookup (h : Alike access first second) (now : Int) (hkey : key ≠ access)
    (mac : MAC) : second.fdb.lookup now key mac = first.fdb.lookup now key mac := by
  simp only [Fdb.lookup, h.fdb ⟨key, mac⟩ hkey, h.maxAge]

theorem Alike.outgoing (h : Alike access first second)
    (hv : (first.entry src).attrs.vlan ≠ access) (frame : FrameView) (hkey : key ≠ access)
    (id : String) : second.outgoing src frame key id = first.outgoing src frame key id := by
  unfold Switch.outgoing
  rw [h.ports, h.id]
  cases first.ports.get? id with
  | none => rfl
  | some dst =>
    by_cases hdst : (first.entry dst).attrs.vlan = access
    · -- An access port of the hidden VLAN receives nothing on either side.
      have hrefuse (sw : Switch)
          (hp : (sw.entry dst).attrs.vlan = access) :
          sw.mayEgress src dst key = false := by
        have hadm := admits_access hacc hp key
        rw [beq_eq_false_iff_ne.mpr hkey] at hadm
        simp [mayEgress, egressEligible, hadm]
      simp only [hrefuse first hdst, hrefuse second ((h.vlan dst).trans hdst), or_true,
        if_true]
    · have hmay : second.mayEgress src dst key = first.mayEgress src dst key := by
        simp only [mayEgress, h.stpState, h.attrs src hv, h.attrs dst hdst]
      simp only [hmay, h.port, h.attrs dst hdst]

omit hacc in
theorem Alike.learnSource (h : Alike access first second) (env : Env) (src : Ptr)
    (frame : FrameView) (key : Int) :
    Alike access (Switch.learnSource env first src frame key)
      (Switch.learnSource env second src frame key) := by
  by_cases hkey : key = access
  · subst hkey
    exact (alike_learnSource env first src frame).symm.trans
      (h.trans (alike_learnSource env second src frame))
  unfold Switch.learnSource
  split
  · exact h
  have hmaxAge (fdb : Fdb) (id : String) :
      (fdb.learn env.now key frame.srcMAC id (some src)).maxAge = fdb.maxAge := by
    unfold Fdb.learn
    split
    · split <;> rfl
    · rfl
  refine h.withFdb ?_ ?_
  · rw [hmaxAge, hmaxAge, h.maxAge]
  · intro slot hslot
    rw [Fdb.get?_learn, Fdb.get?_learn, h.fdb slot hslot, h.id]

omit hacc in
theorem Alike.charged (h : Alike access first second) (env : Env)
    (hv : (first.entry src).attrs.vlan ≠ access) :
    Alike access (Switch.charged env first src) (Switch.charged env second src) := by
  unfold Switch.charged
  simp only [h.attrs src hv, h.storm src hv]
  split
  · exact h.modify src (neutral_storm _) (fun _ _ hattrs => hattrs) fun _ _ _ => rfl
  · exact h

/-- Trunks have no storm limit, so only a port whose frames all lie outside the
hidden VLAN is charged. -/
theorem Alike.forward (h : Alike access first second) (env : Env)
    (hv : (first.entry src).attrs.vlan ≠ access) (srcID : String) (frame : FrameView)
    (hadm : (first.entry src).attrs.admits key = true)
    (hstorm : (first.entry src).attrs.vlan = vlanTrunk →
      (first.entry src).attrs.stormPPS = 0) :
    Alike access (Switch.forward env first src srcID frame key).1
      (Switch.forward env second src srcID frame key).1 := by
  have hfst := counted_forward env first src srcID frame key
  have hsnd := counted_forward env second src srcID frame key
  refine hfst.alike.symm.trans (Alike.trans ?_ hsnd.alike)
  by_cases hkey : key = access
  · -- Only a trunk admits the hidden VLAN, and a trunk is never charged.
    have htrunk : (first.entry src).attrs.vlan = vlanTrunk := by
      by_contra ho
      have hlow := (first.entry src).attrs.vlan_nonneg
      have hhigh := (first.entry src).attrs.vlan_le
      have hint : int32 (first.entry src).attrs.vlan = (first.entry src).attrs.vlan :=
        int32_of_range (by omega) (by omega)
      simp only [PortAttrs.admits, ho, if_false, vlanUntaggedOnly, untaggedKey, hint,
        hkey] at hadm
      split at hadm
      · have := beq_iff_eq.mp hadm
        omega
      · exact hv (beq_iff_eq.mp hadm).symm
    have hfree (sw : Switch) (hpps : (sw.entry src).attrs.stormPPS = 0) :
        Switch.charged env sw src = sw := by
      simp [Switch.charged, hpps]
    have hpps := hstorm htrunk
    rw [hfree first hpps, hfree second (by rw [h.attrs src hv]; exact hpps)]
    simpa using h
  · have hfloods : floods env second frame key = floods env first frame key := by
      simp only [floods, h.lookup env.now hkey]
    rw [hfloods]
    split
    · exact h.charged env hv
    · exact h

theorem Alike.switchFrame (h : Alike access first second) (env : Env)
    (hv : (first.entry src).attrs.vlan ≠ access) (frame : FrameView)
    (hadm : (first.entry src).attrs.admits key = true)
    (hstorm : (first.entry src).attrs.vlan = vlanTrunk →
      (first.entry src).attrs.stormPPS = 0) :
    Alike access (Switch.switchFrame env first src frame key).1
      (Switch.switchFrame env second src frame key).1 := by
  have hlearn := h.learnSource env src frame key
  unfold Switch.switchFrame
  rw [h.stpState, h.id]
  split
  · exact (counted_countRxDropped _ src).alike.symm.trans
      (hlearn.trans (counted_countRxDropped _ src).alike)
  refine hlearn.forward hacc env ?_ _ frame ?_ ?_
  · rw [learnSource_entry]
    exact hv
  · rw [learnSource_entry]
    exact hadm
  · rw [learnSource_entry]
    exact hstorm

/-- The same frame on any other port keeps two alike switches alike. -/
theorem Alike.deliver (h : Alike access first second) (hstp : first.stp.cfg.enabled = false)
    (env : Env) (hv : (first.entry src).attrs.vlan ≠ access)
    (hstorm : (first.entry src).attrs.vlan = vlanTrunk →
      (first.entry src).attrs.stormPPS = 0) (data : Bytes) :
    Alike access (Switch.deliver env first src data).1
      (Switch.deliver env second src data).1 := by
  have honly := counted_countRx first src data.length
  have honly' := counted_countRx second src data.length
  have hcnt := honly.alike.symm.trans (h.trans honly'.alike)
  have hdropped := (counted_countRxDropped _ src).alike.symm.trans (hcnt.trans
    (counted_countRxDropped _ src).alike)
  have hv' : ((first.countRx src data.length).entry src).attrs.vlan ≠ access := by
    rw [honly.attrs]
    exact hv
  unfold Switch.deliver
  rw [h.ingress hv]
  split
  · exact h
  · exact h
  · exact hdropped
  · exact hcnt.blockPort hv' .loop
  · rw [consumeReserved_of_disabled env _ src data (by rw [honly.stp]; exact hstp),
      consumeReserved_of_disabled env _ src data
        (by rw [honly'.stp, h.stp]; exact hstp), hcnt.attrs src hv']
    split
    · exact hcnt.blockPort hv' .bpduGuard
    · exact hcnt
  · exact hdropped
  · exact hdropped
  · exact hdropped
  · rename_i frame key hin
    obtain ⟨-, -, -, -, -, -, hkey, -⟩ := ingress_eq_admitted hin
    refine hcnt.switchFrame hacc env hv' frame ?_ ?_
    · rw [honly.attrs]
      exact admits_of_ingressKey hkey
    · rw [honly.attrs]
      exact hstorm

omit hacc in
theorem Alike.targets (h : Alike access first second) (env : Env)
    (hv : (first.entry src).attrs.vlan ≠ access) (frame : FrameView) (hkey : key ≠ access) :
    Switch.targets env second src frame key =
      Switch.targets env first src frame key := by
  have hallows : stormAllows env second src = stormAllows env first src := by
    simp only [stormAllows, h.attrs src hv, h.storm src hv]
  simp only [Switch.targets, floodTargets, hallows, h.ports, h.lookup env.now hkey]

theorem Alike.deliver_snd (h : Alike access first second) (hfst : WellFormed first)
    (hsnd : WellFormed second) (env : Env)
    (hv : (first.entry src).attrs.vlan ≠ access) {data : Bytes} {frame : FrameView}
    (hin : first.ingress src data = .admitted frame key) (hkey : key ≠ access) :
    (Switch.deliver env second src data).2 = (Switch.deliver env first src data).2 := by
  have hlearn := h.learnSource env src frame key
  rw [hfst.deliver_snd env hin,
    hsnd.deliver_snd env ((h.ingress hv data).trans hin), h.stpState,
    funext (h.outgoing hacc hv frame hkey)]
  split
  · rfl
  · rw [hlearn.targets env (by rw [learnSource_entry]; exact hv) frame hkey]

end Outside

end Switch

/-! ## Two runs -/

/-- A frame fed to `Switch.Deliver`, with what the runtime decides meanwhile. -/
structure Injection where
  env : Env
  srcID : String
  data : Bytes

namespace Injection

def step (sw : Switch) (input : Injection) : Switch :=
  (Switch.deliverFrom input.env sw input.srcID input.data).1

def ingressVlan (sw : Switch) (input : Injection) : Option Int :=
  match sw.ports.get? input.srcID with
  | none => none
  | some src =>
    match parseFrame input.data with
    | none => none
    | some frame => ingressKey (sw.entry src).attrs.toPortAttrs frame

/-- The calls made for a frame whose key is not `access`. -/
def sentOutside (access : Int) (sw : Switch) (input : Injection) : List SendCall :=
  if input.ingressVlan sw = some access then []
  else (Switch.deliverFrom input.env sw input.srcID input.data).2

def outside (sw : Switch) (access : Int) (input : Injection) : Bool :=
  match sw.ports.get? input.srcID with
  | none => true
  | some src => (sw.entry src).attrs.vlan != access

end Injection

structure FromStart (start sw : Switch) : Prop where
  wellFormed : sw.WellFormed
  kept : start.Kept sw

namespace FromStart

variable {start sw : Switch}

theorem vlan (h : FromStart start sw) (ptr : Ptr) :
    (sw.entry ptr).attrs.vlan = (start.entry ptr).attrs.vlan := by
  have hattrs := congrArg (fun attrs : CheckedAttrs => attrs.vlan) (h.kept.attrs ptr)
  exact hattrs

theorem stormPPS (h : FromStart start sw) (ptr : Ptr) :
    (sw.entry ptr).attrs.stormPPS = (start.entry ptr).attrs.stormPPS := by
  have hattrs := congrArg (fun attrs : CheckedAttrs => attrs.stormPPS) (h.kept.attrs ptr)
  exact hattrs

theorem stpOff (h : FromStart start sw) (hstp : start.stp.cfg.enabled = false) :
    sw.stp.cfg.enabled = false := by
  rw [h.kept.stp]
  exact hstp

theorem step (h : FromStart start sw) (hstp : start.stp.cfg.enabled = false)
    (input : Injection) : FromStart start (input.step sw) := by
  refine ⟨h.wellFormed.deliverFrom input.env input.srcID input.data, ?_⟩
  unfold Injection.step deliverFrom
  split
  · exact h.kept
  · exact h.kept.trans (kept_deliver input.env sw _ input.data (h.stpOff hstp))

end FromStart

theorem Injection.sentOutside_eq (hstp : sw.stp.cfg.enabled = false) (access : Int)
    (input : Injection) {src : Ptr} (hp : sw.ports.get? input.srcID = some src) :
    input.sentOutside access sw =
      match sw.ingress src input.data with
      | .admitted _ key =>
        if key = access then [] else (deliver input.env sw src input.data).2
      | _ => [] := by
  unfold sentOutside deliverFrom
  rw [hp]
  cases hin : sw.ingress src input.data with
  | admitted frame key =>
    obtain ⟨hparse, -, -, -, -, -, hkey, -⟩ := ingress_eq_admitted hin
    simp [ingressVlan, hp, hparse, hkey]
  | _ =>
    rw [deliver_snd_of_refused _ _ _ _ hstp (by simp [hin]), ite_self]

section TwoRuns

variable {start : Switch} {access : Int} (hacc : 1 ≤ access ∧ access ≤ 4094)
  (hstp : start.stp.cfg.enabled = false)

include hacc hstp

/-- A frame of the hidden VLAN is silent, and not seen in the state. -/
theorem FromStart.hidden (h : FromStart start sw) {input : Injection}
    (hhidden : input.outside start access = false) :
    sw.Alike access (input.step sw) ∧ input.sentOutside access sw = [] := by
  unfold Injection.outside at hhidden
  rw [← h.kept.ports] at hhidden
  split at hhidden
  · cases hhidden
  rename_i src hp
  have hv : (sw.entry src).attrs.vlan = access := by
    rw [h.vlan]
    simpa using hhidden
  constructor
  · unfold Injection.step deliverFrom
    rw [hp]
    exact h.wellFormed.alike_deliver hacc (h.stpOff hstp) input.env hp hv input.data
  rw [input.sentOutside_eq (h.stpOff hstp) access hp]
  split
  · rename_i frame key hin
    obtain ⟨-, -, -, -, -, -, hkey, -⟩ := ingress_eq_admitted hin
    rw [if_pos (ingressKey_access hacc hv hkey)]
  · rfl

theorem FromStart.visible {one two : Switch} (hone : FromStart start one)
    (htwo : FromStart start two) (halike : one.Alike access two)
    (hstorm : ∀ id ptr, start.ports.get? id = some ptr →
      (start.entry ptr).attrs.vlan = vlanTrunk →
        (start.entry ptr).attrs.stormPPS = 0)
    {input : Injection} (hvisible : input.outside start access = true) :
    (input.step one).Alike access (input.step two) ∧
      input.sentOutside access one = input.sentOutside access two := by
  unfold Injection.outside at hvisible
  rw [← hone.kept.ports] at hvisible
  split at hvisible
  · rename_i hp
    have hp' : two.ports.get? input.srcID = none := by
      rw [halike.ports]
      exact hp
    simp only [Injection.step, Injection.sentOutside, deliverFrom, hp, hp']
    exact ⟨halike, by split <;> split <;> rfl⟩
  · rename_i src hp
    have hp' : two.ports.get? input.srcID = some src := by
      rw [halike.ports]
      exact hp
    have hv : (one.entry src).attrs.vlan ≠ access := by
      rw [hone.vlan]
      simpa using hvisible
    constructor
    · unfold Injection.step deliverFrom
      rw [hp, hp']
      refine halike.deliver hacc (hone.stpOff hstp) input.env hv ?_ input.data
      intro htrunk
      rw [hone.kept.ports] at hp
      rw [hone.stormPPS]
      exact hstorm _ _ hp ((hone.vlan src).symm.trans htrunk)
    · rw [input.sentOutside_eq (hone.stpOff hstp) access hp,
        input.sentOutside_eq (htwo.stpOff hstp) access hp', halike.ingress hv]
      split
      · rename_i frame key hin
        split
        · rfl
        rename_i hkey
        exact (halike.deliver_snd hacc hone.wellFormed htwo.wellFormed input.env
          hv hin hkey).symm
      · rfl

end TwoRuns

/-- Two runs from one reachable state that differ only in frames injected on
access ports of one VLAN make the same calls for the frames of all other VLANs. -/
theorem vlan_noninterference {world : World} (hreached : world.Reached) {access : Int}
    (haccess : 1 ≤ access ∧ access ≤ 4094) (hstp : world.sw.stp.cfg.enabled = false)
    (hstorm : ∀ id ptr, world.sw.ports.get? id = some ptr →
      (world.sw.entry ptr).attrs.vlan = vlanTrunk →
        (world.sw.entry ptr).attrs.stormPPS = 0) (first second : List Injection)
    (hsame : first.filter (Injection.outside world.sw access) =
      second.filter (Injection.outside world.sw access)) :
    observe Injection.step (Injection.sentOutside access) world.sw first =
      observe Injection.step (Injection.sentOutside access) world.sw second := by
  have hstart : FromStart world.sw world.sw := ⟨hreached.wellFormed, .refl _⟩
  refine observe_eq_of_unwinding (fun one two => one.Alike access two ∧
      FromStart world.sw one ∧ FromStart world.sw two)
    ?_ ?_ ?_ first second world.sw world.sw ⟨.refl _, hstart, hstart⟩ hsame
  · rintro one two ⟨halike, hone, htwo⟩
    exact ⟨halike.symm, htwo, hone⟩
  · rintro one two input hhidden ⟨halike, hone, htwo⟩
    obtain ⟨hunseen, hsilent⟩ := hone.hidden haccess hstp hhidden
    exact ⟨⟨hunseen.symm.trans halike, hone.step hstp input, htwo⟩, hsilent⟩
  · rintro one two input hvisible ⟨halike, hone, htwo⟩
    obtain ⟨hnext, hequal⟩ := hone.visible haccess hstp htwo halike hstorm hvisible
    exact ⟨⟨hnext, hone.step hstp input, htwo.step hstp input⟩, hequal⟩

/-- A frame on the access port of VLAN 10 before a frame in VLAN 20. -/
theorem vlan_noninterference_three_ports :
    observe Injection.step (Injection.sentOutside 10) threePorts.sw
        [⟨steadyEnv 2, "ten", [0xff, 0xff, 0xff, 0xff, 0xff, 0xff,
            0x02, 0, 0, 0, 0, 5, 0x08, 0]⟩,
          ⟨steadyEnv 3, "plain", [0x02, 0, 0, 0, 0, 5, 0x02, 0, 0, 0, 0, 6, 0x08, 0]⟩] =
      observe Injection.step (Injection.sentOutside 10) threePorts.sw
        [⟨steadyEnv 3, "plain", [0x02, 0, 0, 0, 0, 5,
            0x02, 0, 0, 0, 0, 6, 0x08, 0]⟩] := by
  refine vlan_noninterference reached_threePorts (by decide) rfl ?_ _ _ rfl
  intro id ptr hp _
  have hm := (GoMap.mem_keys_iff _ _).mpr ⟨ptr, hp⟩
  have hnames : ∀ name ∈ threePorts.sw.ports.keys,
      ∀ target ∈ threePorts.sw.ports.get? name,
        (threePorts.sw.entry target).attrs.stormPPS = 0 := by decide
  exact hnames id hm ptr hp

end GvSwitch.SwitchCore
