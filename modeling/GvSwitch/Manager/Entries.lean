import GvSwitch.Manager.Rewriting

/-!
# Entries and the calls that write them

What the sections of the manager do to the entries of the switch, and whom the
sections of `PatchPort` write to: the port of the call and the subports in its
table.
-/

namespace GvSwitch.SwitchCore.Switch

open Foundation

/-! ## What the registry operations do to a shut port -/

variable {sw after : Switch} {attrs : PortAttrs}

theorem entry_addPort {port : Port} (hadd : sw.addPort port attrs = .ok after) (ptr : Ptr) :
    (ptr = sw.next ∧ (after.entry ptr).id = port.id ∧
        (after.entry ptr).blockReason = none) ∨
      (ptr ≠ sw.next ∧ after.entry ptr = sw.entry ptr) := by
  obtain ⟨checked, -, -, -, rfl⟩ := addPort_ok hadd
  rw [entry_register]
  split
  · rename_i hptr
    exact .inl ⟨hptr, rfl, rfl⟩
  · rename_i hptr
    exact .inr ⟨hptr, rfl⟩

theorem get?_addPort {port : Port} (hadd : sw.addPort port attrs = .ok after) (id : String) :
    after.ports.get? id =
      if id = port.id then some sw.next else sw.ports.get? id := by
  obtain ⟨checked, -, -, -, rfl⟩ := addPort_ok hadd
  exact get?_register _ _ _ _

def rewritten (attrs : CheckedAttrs) (entry : PortEntry) : PortEntry :=
  { entry with
    attrs := attrs
    blockReason := if entry.attrs.disabled && !attrs.disabled then none
      else entry.blockReason }

theorem entry_updatePortAttrs {id : String} (hupd : sw.updatePortAttrs id attrs = .ok after) :
    ∃ target checked, sw.ports.get? id = some target ∧
      checked.toPortAttrs = attrs ∧ after.ports = sw.ports ∧
      after.next = sw.next ∧
      (after.entry target = rewritten checked (sw.entry target)) ∧
      ∀ other, other ≠ target → after.entry other = sw.entry other := by
  obtain ⟨checked, target, fdb, hchecked, htgt, rfl⟩ := updatePortAttrs_ok hupd
  have hself := entry_modify_self sw target (rewritten checked)
  exact ⟨target, checked, htgt, hchecked, rfl, rfl, hself,
    fun _ ho => entry_writeAttrs_of_ne sw checked ho⟩

end GvSwitch.SwitchCore.Switch

namespace GvSwitch.Manager

open Foundation SwitchCore Ports

/-! ## Whom a call writes to -/

def IsSub (server id : String) : Prop := ∃ peer, id = server ++ "@" ++ peer

def Task.Addressed (core : Core) : Task → Prop
  | .patchRead id record _ => record.port < core.next ∧ (core.port record.port).id = id
  | .patchWrite call record _ => record.port < core.next ∧
      (core.port record.port).id = call.id
  | .patchSubs call handle _ => handle < core.next ∧ (core.port handle).id = call.id
  | .patchEach call ids _ => ∀ id ∈ ids, IsSub call.id id
  | _ => True

/-! ## The switch under one section -/

def Task.writes : Task → Option (String × PortAttrs)
  | .patchWrite call _ attrs => some (call.id, attrs)
  | .patchEach _ (id :: _) attrs => some (id, attrs)
  | _ => none

def SameEntry (before after : PortEntry) : Prop :=
  after.id = before.id ∧ after.attrs = before.attrs ∧
    after.blockReason = before.blockReason

theorem sameEntry_of_standing {before after : Switch}
    (h : Switch.Standing (fun _ => False) before after) (ptr : Ptr) :
    SameEntry (before.entry ptr) (after.entry ptr) := by
  rcases h.policy ptr with hs | hshut
  · exact ⟨h.id ptr, hs⟩
  · exact hshut.1.elim

variable {task : Task}

namespace Core

inductive EntryEffect (core : Core) (task : Task) (after : Switch) (ptr : Ptr) : Prop
  | same : SameEntry (core.sw.entry ptr) (after.entry ptr) →
      EntryEffect core task after ptr
  | fresh : ptr = core.sw.next → (after.entry ptr).blockReason = none →
      EntryEffect core task after ptr
  | written {id : String} {attrs : PortAttrs} {checked : CheckedAttrs} :
      task.writes = some (id, attrs) → core.sw.ports.get? id = some ptr →
        checked.toPortAttrs = attrs →
          after.entry ptr = Switch.rewritten checked (core.sw.entry ptr) →
            EntryEffect core task after ptr

variable {core : Core} {after : Switch} {attrs : PortAttrs} {id : String} {ptr : Ptr}

theorem entryEffect_addPort {port : Port} (hadd : core.sw.addPort port attrs = .ok after)
    (ptr : Ptr) : EntryEffect core task after ptr := by
  rcases Switch.entry_addPort hadd ptr with ⟨hptr, -, hreason⟩ | ⟨-, hs⟩
  · exact .fresh hptr hreason
  · exact .same ⟨by rw [hs], by rw [hs], by rw [hs]⟩

theorem entryEffect_updatePortAttrs (hwrites : task.writes = some (id, attrs))
    (hupd : core.sw.updatePortAttrs id attrs = .ok after) (ptr : Ptr) :
    EntryEffect core task after ptr := by
  obtain ⟨target, checked, htgt, hchecked, -, -, hself, ho⟩ :=
    Switch.entry_updatePortAttrs hupd
  by_cases hptr : ptr = target
  · subst ptr
    exact .written hwrites htgt hchecked hself
  · have hs := ho ptr hptr
    exact .same ⟨by rw [hs], by rw [hs], by rw [hs]⟩

theorem SwitchEffect.entry (h : SwitchEffect core task after) (ptr : Ptr) :
    EntryEffect core task after ptr := by
  cases h with
  | standing hstand => exact .same (sameEntry_of_standing hstand ptr)
  | registers _ hadd | enrols _ hadd => exact entryEffect_addPort hadd ptr
  | @removes id target _ _ ha =>
    subst ha
    have hfield {α : Type} (field : PortEntry → α)
        (hkeep : ∀ entry : PortEntry, field { entry with gone := true } = field entry) :
        field ((core.sw.unregister id target).entry ptr) = field (core.sw.entry ptr) :=
      Switch.entry_modify_field field
        { core.sw with ports := core.sw.ports.erase id } target ptr
        (fun entry => { entry with gone := true }) hkeep
    exact .same ⟨hfield (·.id) fun _ => rfl, hfield (·.attrs) fun _ => rfl,
      hfield (·.blockReason) fun _ => rfl⟩
  | writes htask hupd | copies htask hupd =>
    exact entryEffect_updatePortAttrs (by rw [htask]; rfl) hupd ptr

theorem lookup_addPort {sw : Switch} {port : Port}
    (hadd : sw.addPort port attrs = .ok after) (hp : after.ports.get? id = some ptr) :
    sw.ports.get? id = some ptr ∨
      (ptr = sw.next ∧ (after.entry ptr).id = id ∧
        (after.entry ptr).blockReason = none) := by
  rw [Switch.get?_addPort hadd] at hp
  split at hp
  · rename_i hid
    cases hp
    rcases Switch.entry_addPort hadd sw.next with ⟨-, hname, hreason⟩ | ⟨hne, -⟩
    · exact .inr ⟨rfl, hname.trans hid.symm, hreason⟩
    · exact absurd rfl hne
  · exact .inl hp

theorem SwitchEffect.old_or_added (h : SwitchEffect core task after)
    (hp : after.ports.get? id = some ptr) :
    core.sw.ports.get? id = some ptr ∨
      (∃ req handle attrs, task = .register req handle ∧
        core.sw.addPort ⟨req.identifier, handle⟩ attrs = .ok after) ∨
      ∃ server sub attrs, task = .enrol server sub attrs ∧
        core.sw.addPort ⟨(core.port sub).id, sub⟩ attrs = .ok after := by
  cases h with
  | standing hstand =>
    rw [hstand.ports] at hp
    exact .inl hp
  | registers htask hadd => exact .inr (.inl ⟨_, _, _, htask, hadd⟩)
  | enrols htask hadd => exact .inr (.inr ⟨_, _, _, htask, hadd⟩)
  | @removes removed target _ _ ha =>
    have hports : after.ports = core.sw.ports.erase removed := by
      rw [ha]
      rfl
    rw [hports, GoMap.get?_erase] at hp
    split at hp
    · cases hp
    · exact .inl hp
  | writes _ hupd | copies _ hupd =>
    obtain ⟨_, _, _, _, hports, _⟩ := Switch.entry_updatePortAttrs hupd
    rw [hports] at hp
    exact .inl hp

theorem SwitchEffect.lookup (h : SwitchEffect core task after)
    (hp : after.ports.get? id = some ptr) :
    core.sw.ports.get? id = some ptr ∨
      (ptr = core.sw.next ∧ (after.entry ptr).id = id ∧
        (after.entry ptr).blockReason = none) := by
  rcases h.old_or_added hp with hold | ⟨_, _, _, -, hadd⟩ | ⟨_, _, _, -, hadd⟩
  · exact .inl hold
  · exact lookup_addPort hadd hp
  · exact lookup_addPort hadd hp

theorem SwitchEffect.next_le (h : SwitchEffect core task after) :
    core.sw.next ≤ after.next := by
  have hadds {port : Port} {attrs : PortAttrs}
      (hadd : core.sw.addPort port attrs = .ok after) :
      core.sw.next ≤ after.next := by
    obtain ⟨checked, -, -, -, rfl⟩ := Switch.addPort_ok hadd
    exact Nat.le_succ _
  cases h with
  | standing hstand => exact Nat.le_of_eq hstand.next.symm
  | registers _ hadd | enrols _ hadd => exact hadds hadd
  | removes _ _ ha =>
    rw [ha]
    exact Nat.le_refl _
  | writes _ hupd | copies _ hupd =>
    obtain ⟨_, _, _, _, _, hnext, _⟩ := Switch.entry_updatePortAttrs hupd
    exact Nat.le_of_eq hnext.symm

/-! ## Subport names -/

def SubNamed (port : Transport) : Prop :=
  ∀ id sub, port.subs.get? id = some sub → IsSub port.id id

theorem SubNamed.fades {before after : Transport} (h : SubNamed before)
    (hfades : before.Fades (fun _ => False) after) : SubNamed after := by
  intro id sub hsub
  rw [hfades.id]
  rcases hfades.subs id sub hsub with hnew | hold
  · exact hnew.elim
  · exact h id sub hold

theorem isSub_subName (port : Transport) (peer : String) :
    IsSub port.id (port.subName peer).1 := by
  unfold Transport.subName
  split
  · exact ⟨_, rfl⟩
  · exact ⟨_, rfl⟩

theorem SubNamed.keepSub {port : Transport} (h : SubNamed port) (peer : String)
    (handle : Nat) :
    SubNamed (port.keepSub (port.subName peer).1 (port.subName peer).2 handle) := by
  intro id sub hsub
  simp only [Transport.keepSub, GoMap.get?_set] at hsub
  split at hsub
  · rename_i hid
    rw [hid]
    exact isSub_subName port peer
  · exact h id sub hsub

theorem subNamed_exec (h : ∀ server, SubNamed (core.port server)) (env : Env) (ok : Bool)
    (task : Task) (server : Nat) : SubNamed ((core.exec env ok task).1.port server) := by
  have hrewritten (hold : server ≠ core.next ∨
      (core.exec env ok task).1.next = core.next) :
      SubNamed ((core.exec env ok task).1.port server) := by
    rcases (rewritten_exec core env ok task hold).fades_or_gains (fun _ => False) with
      hfades | ⟨peer, hkept⟩ | ⟨-, hmade⟩
    · exact (h server).fades hfades
    · rw [hkept]
      exact (h server).keepSub peer core.next
    · rw [hmade]
      exact h server
  by_cases hsrv : server = core.next
  · have hfresh := fresh_exec core env ok task
    cases hfresh with
    | none hnext => exact hrewritten (.inr hnext)
    | built _ _ htransport _ hp _ =>
      intro id sub hsub
      simp [hsrv, hp, transportFor_subs htransport] at hsub
    | sub _ _ _ _ _ hp _ _ =>
      intro id sub hsub
      rw [hsrv, hp] at hsub
      cases hsub
  · exact hrewritten (.inl hsrv)

end Core

/-! ## Calls and names along runs -/

namespace System

structure Routed (system : System) : Prop where
  typed : system.Typed
  named : ∀ id ptr, system.core.sw.ports.get? id = some ptr →
    (system.core.sw.entry ptr).id = id
  subs : ∀ server id sub, (system.core.port server).subs.get? id = some sub →
    IsSub (system.core.port server).id id
  addressed : ∀ task ∈ system.tasks, task.Addressed system.core

section Execution

variable {system : System} {env : Env} {ok : Bool} {task : Task} {others : List Task}

theorem Routed.addressed_exec (h : system.Routed) (ht : system.Takes task others)
    {next : Task} (hnext : next ∈ (exec env ok system.core others task).tasks) :
    next.Addressed (exec env ok system.core others task).core := by
  have hevolves := Core.evolves_exec h.typed.allocated env ok task
  have hkept {handle : Nat} {id : String}
      (hold : handle < system.core.next ∧ (system.core.port handle).id = id) :
      handle < (system.core.exec env ok task).1.next ∧
        ((system.core.exec env ok task).1.port handle).id = id :=
    ⟨Nat.lt_of_lt_of_le hold.1 hevolves.next, (hevolves.id handle hold.1).trans hold.2⟩
  rcases List.mem_append.mp hnext with hpend | hspawn
  · have hold := h.addressed next (ht.mem hpend)
    cases next with
    | patchRead id record patch | patchWrite call record attrs
    | patchSubs call handle attrs => exact hkept hold
    | patchEach call ids attrs => exact hold
    | _ => trivial
  · have htask := Core.spawned_exec hspawn
    cases htask with
    | @patchRead id record patch hr =>
      have hrefers : system.Refers record.port := .inl (.record hr rfl)
      exact hkept ⟨h.typed.live _ hrefers, (h.typed.records id record hr).2⟩
    | patchWrite _ _ | patchSubs => exact hkept (h.addressed _ (ht.pending rfl))
    | @patchEach call handle attrs ids hids =>
      have hold := h.addressed _ (ht.pending rfl)
      intro id hid
      obtain ⟨sub, hsub⟩ := (GoMap.mem_keys_iff _ _).mp (hids id hid)
      rw [← hold.2]
      exact h.subs handle id sub hsub
    | patchRest =>
      have hold := h.addressed _ (ht.pending rfl)
      exact fun id hid => hold id (.tail _ hid)
    | _ => trivial

theorem Routed.named_exec (h : system.Routed) {id : String} {ptr : Ptr}
    (hp : (system.core.exec env ok task).1.sw.ports.get? id = some ptr) :
    ((system.core.exec env ok task).1.sw.entry ptr).id = id := by
  have heff := (Core.effect_exec system.core env ok task).sw
  rcases heff.lookup hp with hold | ⟨-, hname, -⟩
  · cases heff.entry ptr with
    | same hs => exact hs.1.trans (h.named id ptr hold)
    | fresh hptr _ =>
      have hlt := h.typed.allocated id ptr hold
      rw [hptr] at hlt
      exact absurd hlt (Nat.lt_irrefl _)
    | written _ _ _ hwritten =>
      rw [hwritten]
      exact h.named id ptr hold
  · exact hname

theorem Routed.exec (h : system.Routed) (ht : system.Takes task others) :
    (System.exec env ok system.core others task).Routed where
  typed := h.typed.exec ht
  named := fun _ _ hp => h.named_exec hp
  subs := Core.subNamed_exec h.subs env ok task
  addressed := fun _ hnext => h.addressed_exec ht hnext

end Execution

theorem Routed.traffic {system : System} (h : system.Routed) {sw : Switch}
    {shut : Ptr → Prop} (hstand : Switch.Standing shut system.core.sw sw) :
    Routed ⟨{ system.core with sw := sw }, system.tasks⟩ where
  typed := h.typed.traffic hstand
  named := by
    intro id ptr hp
    rw [hstand.ports] at hp
    exact (hstand.id ptr).trans (h.named id ptr hp)
  subs := h.subs
  addressed := by
    intro task htask
    have hold := h.addressed task htask
    cases task <;> exact hold

theorem routed_new (instanceID : UInt64) : (new instanceID).Routed where
  typed := typed_new instanceID
  named := by
    intro id ptr hp
    cases hp
  subs := by
    intro server id sub hsub
    cases hsub
  addressed := by
    intro task hm
    cases hm

end System

end GvSwitch.Manager
