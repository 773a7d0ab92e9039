import GvSwitch.Manager.Identity
import GvSwitch.Manager.ServerClose

/-!
# Subports follow their server's policy

`addSub` copies the server's attributes and registers the subport later, and
`UpdateSubAttrs` stores new attributes and copies them to the subports it finds
in the table.  The two overlap in a subport that has its copy and is not
registered yet, and two calls of `UpdateSubAttrs` overlap in every subport.
-/

namespace GvSwitch.SwitchCore.Switch

theorem attrs_updatePortAttrs {sw : Switch} {id : String} {attrs : PortAttrs}
    {ptr : Ptr} (hp : sw.ports.get? id = some ptr)
    {checked : CheckedAttrs} (hcheck : attrs.check = .ok checked) :
    ((sw.settle (sw.updatePortAttrs id attrs)).entry ptr).attrs = checked := by
  simp only [updatePortAttrs, hcheck, hp]
  split <;> exact congrArg PortEntry.attrs (entry_modify_self sw ptr (rewritten checked))

theorem check_of_updatePortAttrs {sw after : Switch} {id : String} {attrs : PortAttrs}
    (h : sw.updatePortAttrs id attrs = .ok after) :
    ∃ checked, attrs.check = .ok checked := by
  obtain ⟨checked, -, hcheck, -, -⟩ := updatePortAttrs_cases h
  exact ⟨checked, hcheck⟩

end GvSwitch.SwitchCore.Switch

namespace GvSwitch.Manager

open Foundation SwitchCore Ports Switch Manager.Core

variable {attrs : PortAttrs} {core : Core} {call : PatchCall}

namespace Core

theorem attrs_exec (env : Env) (ok : Bool) (task : Task) {server : Nat}
    (hlt : server < core.next) :
    ((core.exec env ok task).1.port server).attrs = (core.port server).attrs ∨
      ∃ call, task = .patchSubs call server
        ((core.exec env ok task).1.port server).attrs := by
  have hbooks := booksStep_exec env ok task hlt
  generalize (core.exec env ok task).1.port server = after at hbooks ⊢
  cases hbooks with
  | same hs => exact .inl hs.attrs
  | @closes order _ _ =>
    obtain ⟨pump, closed, heq⟩ := Transport.close_eq (core.port server) server order
    rw [heq]
    exact .inl rfl
  | unplugged _ | drops _ _ | keeps _ _ _ _ => exact .inl rfl
  | @patches call attrs htask => exact .inr ⟨call, htask⟩

theorem SwitchEffect.port {task : Task} {after : Switch} (h : SwitchEffect core task after)
    {ptr : Ptr} (hne : ptr ≠ core.sw.next) :
    (after.entry ptr).port = (core.sw.entry ptr).port := by
  have hadds {port : Port} {attrs : PortAttrs}
      (hadd : core.sw.addPort port attrs = .ok after) :
      (after.entry ptr).port = (core.sw.entry ptr).port := by
    rcases entry_addPort hadd ptr with ⟨hnew, -, -⟩ | ⟨-, hs⟩
    · exact absurd hnew hne
    · rw [hs]
  have hupdates {id : String} {attrs : PortAttrs}
      (hupd : core.sw.updatePortAttrs id attrs = .ok after) :
      (after.entry ptr).port = (core.sw.entry ptr).port := by
    obtain ⟨target, checked, -, -, -, -, hself, ho⟩ := entry_updatePortAttrs hupd
    by_cases htgt : ptr = target
    · rw [htgt, hself]
      rfl
    · rw [ho ptr htgt]
  cases h with
  | standing hstand => exact hstand.port ptr
  | registers _ hadd | enrols _ hadd => exact hadds hadd
  | @removes id target _ _ ha =>
    rw [ha]
    exact entry_modify_field (·.port)
      { core.sw with ports := core.sw.ports.erase id } target ptr
      (fun entry => { entry with gone := true }) fun _ => rfl
  | writes _ hupd | copies _ hupd => exact hupdates hupd

theorem SwitchEffect.fresh {task : Task} {after : Switch} (h : SwitchEffect core task after)
    (halloc : core.sw.Allocated) {id : String}
    (hp : after.ports.get? id = some core.sw.next) :
    (∃ req handle attrs, task = .register req handle ∧
      core.sw.addPort ⟨req.identifier, handle⟩ attrs = .ok after) ∨
    ∃ server sub attrs, task = .enrol server sub attrs ∧
      core.sw.addPort ⟨(core.port sub).id, sub⟩ attrs = .ok after := by
  refine (h.old_or_added hp).resolve_left fun hold => ?_
  exact absurd (halloc id _ hold) (Nat.lt_irrefl _)

theorem patchWrite_accepted {next : PatchCall} {record : PortRecord} {copied : PortAttrs}
    {handle : Nat}
    (h : .patchSubs next handle copied ∈ (core.patchWrite call record attrs).2) :
    ∃ sw, core.sw.updatePortAttrs call.id attrs = .ok sw := by
  unfold patchWrite at h
  split at h
  · cases h
  · exact ⟨_, ‹_›⟩

end Core

/-! ## The condition -/

namespace System

/-- No identifier is used twice, and `UpdateSubAttrs` stores its attributes only
when no subport of the server waits to be registered and no other call is
copying. -/
def Sequential (system : System) (label : Env × Label) : Prop :=
  system.Unreused label ∧ ∀ call server attrs,
    label.2.task system = some (.patchSubs call server attrs) →
      (∀ sub copied, .enrol server sub copied ∉ system.tasks) ∧
        ∀ other ids old, .patchEach other ids old ∈ system.tasks → other.id ≠ call.id

end System

/-! ## The invariant -/

def Task.Aimed (core : Core) : Task → Prop
  | .patchRead _ record _ | .patchWrite _ record _ => System.Standalone core record.port
  | .patchSubs _ handle attrs => System.Standalone core handle ∧
      ∃ checked, attrs.check = .ok checked
  | .patchEach call _ attrs => (∃ checked, attrs.check = .ok checked) ∧
      ∃ server < core.next, System.Standalone core server ∧
        (core.port server).id = call.id ∧ attrs = (core.port server).attrs
  | .enrol server _ attrs => attrs = (core.port server).attrs
  | _ => True

namespace System

/-- The entry of a subport has the attributes of its server, or is going to. -/
def Obeys (system : System) (server : Nat) (id : String) (ptr : Ptr) : Prop :=
  (system.core.sw.entry ptr).attrs.toPortAttrs = (system.core.port server).attrs ∨
    .remove id ∈ system.tasks ∨
    ∃ call ids, .patchEach call ids (system.core.port server).attrs ∈ system.tasks ∧
      id ∈ ids

structure Following (system : System) : Prop where
  identified : system.Identified
  routed : system.Routed
  tidy : system.Tidy true
  aimed : ∀ task ∈ system.tasks, task.Aimed system.core
  obeys : ∀ server id ptr, (system.core.port server).closed = false →
    system.core.sw.ports.get? id = some ptr →
      system.core.Sub server (system.core.sw.entry ptr).port.handle →
        (system.core.sw.entry ptr).blockReason = none →
          system.Obeys server id ptr

section Execution

variable {system : System} {env : Env} {ok : Bool} {task : Task} {others : List Task}
  (h : system.Following) (ht : system.Takes task others)
  (hsequential : ∀ call server attrs, task = .patchSubs call server attrs →
      (∀ sub copied, .enrol server sub copied ∉ system.tasks) ∧
        ∀ other ids old, .patchEach other ids old ∈ system.tasks → other.id ≠ call.id)

include h ht

theorem Following.taken (hinternal : task.external = false) : task.Aimed system.core :=
  h.aimed task (ht.pending hinternal)

omit ht in
theorem Following.standalone_exec {handle : Nat} (hlt : handle < system.core.next)
    (hstandalone : Standalone system.core handle) :
    Standalone (system.core.exec env ok task).1 handle := by
  intro server hsub
  exact hstandalone server (((h.identified.placed.typed.keeps env ok task).sub hlt).mp hsub)

omit ht in
theorem Following.standalone_of_record {id : String} {record : PortRecord}
    (hr : system.core.ports.get? id = some record) :
    Standalone system.core record.port := by
  have htyped := h.identified.placed.typed
  rintro server ⟨anonID, hk⟩
  obtain ⟨hval, hid⟩ := htyped.records id record hr
  have hlt := htyped.live record.port (.inl (.record hr rfl))
  have hinv := htyped.subports record.port hlt server anonID hk
  simp [hid, hval] at hinv

include hsequential in
/-- Another call does not change what a call is copying, nor what a subport that
waits to be registered has got. -/
theorem Following.aimed_old {other : Task} (ho : other ∈ system.tasks) :
    other.Aimed (system.core.exec env ok task).1 := by
  have htyped := h.identified.placed.typed
  have hkeeps := htyped.keeps env ok task
  have haimed := h.aimed other ho
  have haddressed := h.routed.addressed other ho
  cases other with
  | patchRead id record patch | patchWrite call record attrs =>
    exact h.standalone_exec haddressed.1 haimed
  | patchSubs call handle attrs =>
    exact ⟨h.standalone_exec haddressed.1 haimed.1, haimed.2⟩
  | patchEach call ids attrs =>
    obtain ⟨hval, server, hlt, hstandalone, hid, hattrs⟩ := haimed
    refine ⟨hval, server, Nat.lt_of_lt_of_le hlt hkeeps.next,
      h.standalone_exec hlt hstandalone, (hkeeps.id server hlt).trans hid, ?_⟩
    rcases attrs_exec env ok task hlt with hs | ⟨later, htask⟩
    · exact hattrs.trans hs.symm
    have hlater : (system.core.port server).id = later.id := by
      have htgt := h.routed.addressed task (ht.pending (by rw [htask]; rfl))
      rw [htask] at htgt
      exact htgt.2
    exact absurd (hid.symm.trans hlater)
      ((hsequential later server _ htask).2 call ids attrs ho)
  | enrol server sub attrs =>
    have hsrv := (h.identified.placed.parents sub
      (h.identified.placed.tasks _ ho).1 server
      (h.identified.placed.tasks _ ho).2).1
    rcases attrs_exec env ok task hsrv with hs | ⟨later, htask⟩
    · exact haimed.trans hs.symm
    · exact absurd ho ((hsequential later server _ htask).1 sub attrs)
  | _ => trivial

theorem Following.aimed_new {next : Task} (hnext : next ∈ (system.core.exec env ok task).2) :
    next.Aimed (system.core.exec env ok task).1 := by
  have htyped := h.identified.placed.typed
  have hkeeps := htyped.keeps env ok task
  have hspawn := spawned_exec hnext
  cases hspawn with
  | @patchRead id record patch hr =>
    exact h.standalone_exec (htyped.live _ (.inl (.record hr rfl)))
      (h.standalone_of_record hr)
  | patchWrite _ _ =>
    exact h.standalone_exec (h.routed.addressed _ (ht.pending rfl)).1 (h.taken ht rfl)
  | patchSubs =>
    obtain ⟨sw, hupd⟩ := patchWrite_accepted hnext
    exact ⟨h.standalone_exec (h.routed.addressed _ (ht.pending rfl)).1
      (h.taken ht rfl), check_of_updatePortAttrs hupd⟩
  | @patchEach call handle attrs ids _ =>
    obtain ⟨hlt, hid⟩ := h.routed.addressed _ (ht.pending rfl)
    obtain ⟨hstandalone, hval⟩ := h.taken ht rfl
    refine ⟨hval, handle, Nat.lt_of_lt_of_le hlt hkeeps.next,
      h.standalone_exec hlt hstandalone, (hkeeps.id handle hlt).trans hid, ?_⟩
    simp only [Core.exec, Core.patchSubs, Core.port_write_self]
  | patchRest =>
    obtain ⟨hval, server, hlt, hstandalone, hid, hattrs⟩ := h.taken ht rfl
    refine ⟨hval, server, Nat.lt_of_lt_of_le hlt hkeeps.next,
      h.standalone_exec hlt hstandalone, (hkeeps.id server hlt).trans hid, ?_⟩
    rcases attrs_exec env ok _ hlt with hs | ⟨_, htask⟩
    · exact hattrs.trans hs.symm
    · cases htask
  | @enrol server peer attrs hlt =>
    cases fresh_exec system.core env ok (.connect server peer) with
    | none hs => omega
    | built htask _ _ _ _ _ => cases htask
    | sub htask _ hopen _ _ _ hbooks hspawns =>
      cases htask
      rw [hspawns] at hnext
      cases List.mem_singleton.mp hnext
      have hsrv := htyped.live server (.inl (.opened hopen))
      exact (congrArg Transport.attrs (hbooks (Nat.ne_of_lt hsrv))).symm
  | _ => trivial

/-! ## One subport -/

variable {server : Nat} {id : String} {ptr : Ptr}

omit ht in
/-- A registered subport of an open server is in the table, unless its removal
is pending. -/
theorem Following.listed (hopen : (system.core.port server).closed = false)
    (hp : system.core.sw.ports.get? id = some ptr)
    (hsub : system.core.Sub server (system.core.sw.entry ptr).port.handle) :
    id ∈ (system.core.port server).subs.keys ∨ .remove id ∈ system.tasks := by
  have he := handleOf_of_get? hp
  have htenancy := h.tidy.tenancy
  have hlt := htenancy.placed.typed.live _ (.inl (.entry he))
  have hid := htenancy.placed.typed.entries id _ he
  have hlist (hn : system.Listed server
      (system.core.sw.entry ptr).port.handle) :
      id ∈ (system.core.port server).subs.keys := by
    rw [Listed, hid] at hn
    exact (GoMap.mem_keys_iff _ _).mpr ⟨_, hn⟩
  rcases (h.tidy.housed _ hlt server hsub).entry id he with
    ⟨-, hcl⟩ | (⟨-, hn⟩ | hexit) | hremove
  · simp [hopen] at hcl
  · exact .inl (hlist hn)
  · rcases (htenancy.tenants _ hlt server hsub).named (.inr (.inl hexit)) with
      hn | hstruck
    · exact .inl (hlist hn)
    · rw [Struck, hopen] at hstruck
      cases hstruck.1
  · exact .inr hremove

/-- A call of `UpdateSubAttrs` is going to reach every registered subport. -/
theorem Following.obeys_stored (htask : task = .patchSubs call server attrs)
    (hopen : (system.core.port server).closed = false)
    (hp : system.core.sw.ports.get? id = some ptr)
    (hsub : system.core.Sub server (system.core.sw.entry ptr).port.handle) :
    (exec env ok system.core others task).Obeys server id ptr := by
  subst htask
  rcases h.listed hopen hp hsub with hkeys | hremove
  · refine .inr (.inr ⟨call, env.range (system.core.port server).subs.keys,
      List.mem_append_right _ ?_, (env.range_perm _).mem_iff.mpr hkeys⟩)
    simp only [System.exec, Core.exec, Core.patchSubs, Core.port_write_self]
    exact .head _
  · rcases ht.stays hremove with htask | hstays
    · cases htask
    · exact .inr (.inl (List.mem_append_left _ hstays))

theorem Following.obeys_copied {rest : List String}
    (htask : task = .patchEach call (id :: rest) attrs)
    (hp : system.core.sw.ports.get? id = some ptr)
    (hsub : system.core.Sub server (system.core.sw.entry ptr).port.handle) :
    (exec env ok system.core others task).Obeys server id ptr := by
  subst htask
  have he := handleOf_of_get? hp
  have htyped := h.identified.placed.typed
  have hlt := htyped.live _ (.inl (.entry he))
  obtain ⟨⟨checked, hcheck⟩, source, hsrc, hstandalone, hid, hattrs⟩ := h.taken ht rfl
  have hname : IsSub (system.core.port source).id
      (system.core.port (system.core.sw.entry ptr).port.handle).id := by
    rw [hid, htyped.entries id _ he]
    exact h.routed.addressed _ (ht.pending rfl) id (.head _)
  have hsrv := h.identified.server_eq hlt hsub hsrc hstandalone hname
  subst hsrv
  refine .inl ?_
  have ha := Switch.attrs_updatePortAttrs hp hcheck
  dsimp only [System.exec, Core.exec, Core.patchEach]
  rw [ha, PortAttrs.check_toPortAttrs hcheck]
  exact hattrs

theorem Following.obeys_kept (hobeys : system.Obeys server id ptr)
    (hattrs : ((system.core.exec env ok task).1.port server).attrs =
      (system.core.port server).attrs) (hp : system.core.sw.ports.get? id = some ptr)
    (ha : (system.core.exec env ok task).1.sw.ports.get? id = some ptr)
    (hsub : system.core.Sub server (system.core.sw.entry ptr).port.handle)
    (hs : ((system.core.exec env ok task).1.sw.entry ptr).attrs =
      (system.core.sw.entry ptr).attrs) :
    (exec env ok system.core others task).Obeys server id ptr := by
  rcases hobeys with hhas | hremove | ⟨call, ids, hpend, hid⟩
  · left
    dsimp only [System.exec]
    rw [hs, hattrs]
    exact hhas
  · rcases ht.stays hremove with rfl | hstays
    · exfalso
      simp only [Core.exec, Core.remove, hp] at ha
      change (system.core.sw.ports.erase id).get? id = some ptr at ha
      rw [GoMap.get?_erase, if_pos rfl] at ha
      cases ha
    · exact .inr (.inl (List.mem_append_left _ hstays))
  · rcases ht.stays hpend with rfl | hstays
    · cases ids with
      | nil => cases hid
      | cons first rest =>
        by_cases hfst : id = first
        · subst hfst
          exact h.obeys_copied ht rfl hp hsub
        refine .inr (.inr ⟨call, rest, List.mem_append_right _ ?_,
          (List.mem_cons.mp hid).resolve_left hfst⟩)
        dsimp only [System.exec]
        rw [hattrs]
        exact .head _
    · refine .inr (.inr ⟨call, ids, List.mem_append_left _ ?_, hid⟩)
      dsimp only [System.exec]
      rw [hattrs]
      exact hstays

theorem Following.obeys_enrolled {parent sub : Nat} {sw : Switch}
    (htask : task = .enrol parent sub attrs)
    (hadd : system.core.sw.addPort ⟨(system.core.port sub).id, sub⟩ attrs = .ok sw)
    (hswitch : (system.core.exec env ok task).1.sw = sw) (hptr : ptr = system.core.sw.next)
    (hsub : (system.core.exec env ok task).1.Sub server (sw.entry ptr).port.handle) :
    (exec env ok system.core others task).Obeys server id ptr := by
  subst htask
  obtain ⟨checked, hchecked, -, -, rfl⟩ := addPort_ok hadd
  have he := entry_register system.core.sw ⟨(system.core.port sub).id, sub⟩ checked ptr
  rw [if_pos hptr] at he
  rw [he] at hsub
  obtain ⟨hlt, hkin⟩ := h.identified.placed.taken ht
  have hparent : parent = server := by
    obtain ⟨anonID, hk⟩ := hkin
    obtain ⟨number, ho⟩ := ((h.identified.placed.typed.keeps env ok _).sub hlt).mp hsub
    rw [hk] at ho
    cases ho
    rfl
  subst hparent
  have hsrv := (h.identified.placed.parents sub hlt parent hkin).1
  left
  dsimp only [System.exec]
  rw [hswitch, he]
  rcases attrs_exec env ok (.enrol parent sub attrs) hsrv with hs | ⟨_, htask⟩
  · rw [hs]
    exact hchecked.trans (h.taken ht rfl)
  · cases htask

theorem Following.obeys_old (hopen : (system.core.port server).closed = false)
    (hp : system.core.sw.ports.get? id = some ptr)
    (ha : (system.core.exec env ok task).1.sw.ports.get? id = some ptr)
    (hsub : system.core.Sub server (system.core.sw.entry ptr).port.handle)
    (hreason : ((system.core.exec env ok task).1.sw.entry ptr).blockReason = none) :
    (exec env ok system.core others task).Obeys server id ptr := by
  have htyped := h.identified.placed.typed
  have he := handleOf_of_get? hp
  have hlt := htyped.live _ (.inl (.entry he))
  have hsrv := (h.identified.placed.parents _ hlt server hsub).1
  rcases attrs_exec env ok task hsrv with hattrs | ⟨call, htask⟩
  · cases (effect_exec system.core env ok task).sw.entry ptr with
    | same hs =>
      have hobeys := h.obeys server id ptr hopen hp hsub (hs.2.2.symm.trans hreason)
      exact h.obeys_kept ht hobeys hattrs hp ha hsub hs.2.1
    | fresh hptr _ =>
      have hallocated := htyped.allocated id ptr hp
      rw [hptr] at hallocated
      exact absurd hallocated (Nat.lt_irrefl _)
    | @written written attrs checked hwrites hwritten _ _ =>
      have hs : written = id := (h.routed.named written ptr hwritten).symm.trans
        (h.routed.named id ptr hp)
      subst hs
      cases task with
      | patchWrite call record attrs =>
        -- The port of a call is no subport.
        exfalso
        cases hwrites
        obtain ⟨hr, hid⟩ := h.routed.addressed _ (ht.pending rfl)
        have hval := h.identified.valid _ hr (h.taken ht rfl)
        obtain ⟨anonID, hk⟩ := hsub
        have hinv := htyped.subports _ hlt server anonID hk
        simp [htyped.entries _ _ he, ← hid, hval] at hinv
      | patchEach call ids attrs =>
        cases ids with
        | nil => cases hwrites
        | cons first rest =>
          cases hwrites
          exact h.obeys_copied ht rfl hp hsub
      | _ => cases hwrites
  · exact h.obeys_stored ht htask hopen hp hsub

theorem Following.obeys_exec (server : Nat) (id : String) (ptr : Ptr)
    (hopen : ((exec env ok system.core others task).core.port server).closed = false)
    (hp : (exec env ok system.core others task).core.sw.ports.get? id = some ptr)
    (hsub : (exec env ok system.core others task).core.Sub server
      ((exec env ok system.core others task).core.sw.entry ptr).port.handle)
    (hreason : ((exec env ok system.core others task).core.sw.entry ptr).blockReason = none) :
    (exec env ok system.core others task).Obeys server id ptr := by
  have htyped := h.identified.placed.typed
  have heff := (effect_exec system.core env ok task).sw
  dsimp only [System.exec] at hopen hp hsub hreason
  rcases heff.lookup hp with hold | ⟨hnew, -, -⟩
  · have hallocated := htyped.allocated id ptr hold
    have hs := heff.port (Nat.ne_of_lt hallocated)
    rw [hs] at hsub
    have he := handleOf_of_get? hold
    have hlt := htyped.live _ (.inl (.entry he))
    have hkin := ((htyped.keeps env ok task).sub hlt).mp hsub
    have hsrv := (h.identified.placed.parents _ hlt server hkin).1
    have hb : (system.core.port server).closed = false := by
      cases hcl : (system.core.port server).closed with
      | false => rfl
      | true =>
        simp [closed_exec env ok task hsrv hcl] at hopen
    exact h.obeys_old ht hb hold hp hkin hreason
  · rcases heff.fresh htyped.allocated (hnew ▸ hp) with
      ⟨req, handle, attrs, htask, hadd⟩ | ⟨parent, sub, attrs, htask, hadd⟩
    · exfalso
      obtain ⟨checked, -, -, -, hregister⟩ := addPort_ok hadd
      rw [hregister, entry_register, if_pos hnew] at hsub
      subst htask
      obtain ⟨hval, hid⟩ := htyped.taken ht
      have hlt := htyped.live handle (ht.refers (.head _))
      obtain ⟨anonID, hk⟩ := ((htyped.keeps env ok _).sub hlt).mp hsub
      have hinv := htyped.subports handle hlt server anonID hk
      simp [hid, hval] at hinv
    · exact h.obeys_enrolled ht htask hadd rfl hnew hsub

end Execution

/-! ## Whole runs -/

theorem following_new (instanceID : UInt64) : (new instanceID).Following where
  identified := identified_new instanceID
  routed := routed_new instanceID
  tidy := tidy_new true instanceID
  aimed := by
    intro task hm
    cases hm
  obeys := by
    intro server id ptr _ hp
    cases hp

theorem Following.traffic {system : System} (h : system.Following) {sw : Switch}
    {shut : Ptr → Prop} (hstand : Standing shut system.core.sw sw) :
    Following ⟨{ system.core with sw := sw }, system.tasks⟩ where
  identified := h.identified.traffic hstand
  routed := h.routed.traffic hstand
  tidy := h.tidy.traffic hstand
  aimed := h.aimed
  obeys := by
    intro server id ptr hopen hp hsub hreason
    rw [hstand.ports] at hp
    rw [hstand.port] at hsub
    rcases hstand.policy ptr with ⟨hattrs, hs⟩ | ⟨-, -, -, hshut⟩
    · have hobeys := h.obeys server id ptr hopen hp hsub (hs.symm.trans hreason)
      dsimp only [Obeys]
      rw [hattrs]
      exact hobeys
    · simp [hreason] at hshut

theorem Following.step {system : System} (h : system.Following) {env : Env} {label : Label}
    (hsequential : system.Sequential (env, label)) : (system.step env label).Following := by
  refine step_keeps h h.traffic ?_
  intro task others ok htask ht
  have hcalls : ∀ call server attrs, task = .patchSubs call server attrs →
      (∀ sub copied, .enrol server sub copied ∉ system.tasks) ∧
        ∀ other ids old, .patchEach other ids old ∈ system.tasks → other.id ≠ call.id := by
    intro call server attrs hc
    exact hsequential.2 call server attrs (htask.trans (congrArg some hc))
  refine ⟨h.identified.exec ht ?_, h.routed.exec ht,
    h.tidy.exec ht fun _ _ _ _ _ => rfl, ?_, h.obeys_exec ht⟩
  · intro req hreq
    exact hsequential.1 req (htask.trans (congrArg some hreq))
  intro other ho
  rcases List.mem_append.mp ho with hold | hnew
  · exact h.aimed_old ht hcalls (ht.mem hold)
  · exact h.aimed_new ht hnew

def Untouched (system : System) (id : String) : Prop :=
  .remove id ∉ system.tasks ∧
    ∀ call ids attrs, .patchEach call ids attrs ∈ system.tasks → id ∉ ids

/-- In every run in which no identifier is used twice and `UpdateSubAttrs`
overlaps neither `addSub` nor another call on its server, a registered subport of
an open server that no guard has shut has the attributes of the latest
`UpdateSubAttrs`, unless a call is about to write or to remove its entry. -/
theorem subports_follow_policy {system : System}
    (h : Reachable Initial (Guarded Sequential Step) system) {server : Nat} {id : String}
    {ptr : Ptr} (hopen : (system.core.port server).closed = false)
    (hport : system.core.sw.ports.get? id = some ptr)
    (hsub : system.core.Sub server (system.core.sw.entry ptr).port.handle)
    (hreason : (system.core.sw.entry ptr).blockReason = none)
    (huntouched : system.Untouched id) :
    (system.core.sw.entry ptr).attrs.toPortAttrs =
      (system.core.port server).attrs := by
  have hfollowing : system.Following := invariant following_new Following.step h
  rcases hfollowing.obeys server id ptr hopen hport hsub hreason with
    hhas | hremove | ⟨call, ids, hpend, hid⟩
  · exact hhas
  · exact absurd hremove huntouched.1
  · exact absurd hid (huntouched.2 call ids _ hpend)

/-! ## A sequential run and an overlapping one -/

instance Sequential.decidable (system : System) (label : Env × Label) :
    Decidable (system.Sequential label) :=
  decidable_of_iff (system.Unreused label ∧
    (label.2.task system).all fun task => system.tasks.all fun other =>
      match task, other with
      | .patchSubs _ server _, .enrol parent _ _ => parent != server
      | .patchSubs call _ _, .patchEach copying _ _ => copying.id != call.id
      | _, _ => true) (by unfold Sequential; cases label.2.task system <;> grind)

/-- A multiplex server `s` in VLAN 10, with one client that has just connected. -/
def served : List Label :=
  [.begin (.createPort
      { identifier := "s", vlan := some 10, endpoint := .streamServer .multiplex }),
    .run 0 true, .run 0 true, .run 0 true, .begin (.connect 0 "p")]

def movedLater : List Label :=
  served ++ [.run 0 true, .begin (.patchPort "s" { vlan := some 20 })] ++
    List.replicate 5 (.run 0 true)

theorem subports_follow_policy_movedLater :
    ∃ ptr, ((new 1).run (steadyEnv 0) movedLater).core.sw.ports.get? "s@p" =
        some ptr ∧
      (((new 1).run (steadyEnv 0) movedLater).core.port 0).attrs.vlan = 20 ∧
      (((new 1).run (steadyEnv 0) movedLater).core.sw.entry ptr).attrs.toPortAttrs =
        (((new 1).run (steadyEnv 0) movedLater).core.port 0).attrs := by
  have hp : ((new 1).run (steadyEnv 0) movedLater).core.sw.ports.get? "s@p" =
      some 1 := by decide
  have hq : ((new 1).run (steadyEnv 0) movedLater).tasks = [] := by decide
  refine ⟨1, hp, by decide, subports_follow_policy ?_ (by decide) hp ?_ (by decide) ?_⟩
  · exact reachable_run_guarded (.start ⟨1, rfl⟩) (by decide)
  · exact ⟨none, by decide⟩
  · unfold Untouched
    rw [hq]
    simp

def movedMeanwhile : List Label :=
  served ++ [.begin (.patchPort "s" { vlan := some 20 })] ++
    List.replicate 5 (.run 1 true) ++ [.run 0 true]

/-- Nothing is pending, and the subport is in the server's old VLAN. -/
theorem overlapping_update_misses_subport :
    ∃ (system : System) (ptr : Ptr), Reachable Initial Step system ∧
      system.tasks = [] ∧ (system.core.port 0).closed = false ∧
      system.core.sw.ports.get? "s@p" = some ptr ∧
      system.core.Sub 0 (system.core.sw.entry ptr).port.handle ∧
      (system.core.sw.entry ptr).blockReason = none ∧
      (system.core.sw.entry ptr).attrs.vlan = 10 ∧
      (system.core.port 0).attrs.vlan = 20 := by
  refine ⟨(new 1).run (steadyEnv 0) movedMeanwhile, 1, reachable_run (.start ⟨1, rfl⟩) _ _,
    by decide, by decide, by decide, ⟨none, by decide⟩, by decide, by decide, by decide⟩

end System

end GvSwitch.Manager
