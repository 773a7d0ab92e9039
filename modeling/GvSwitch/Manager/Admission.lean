import GvSwitch.Manager.Identity
import GvSwitch.Manager.ServerClose

/-!
# Who is admitted to a multiplex server

A connection is refused when its name is in the server's table, or when the
switch still has a port of that name.  `onExit` frees the name and the anonymous
number before it removes the old port, and runs some time after the old
connection has died; in between a client is refused without cause, or gets a
number higher than it should.
-/

namespace GvSwitch.Ports.Transport

/-! ## Anonymous numbers -/

theorem exists_free (numbers : List Nat) :
    ∃ number ∈ List.range (numbers.length + 1), number ∉ numbers := by
  by_contra hnone
  have hsubset : List.range (numbers.length + 1) ⊆ numbers := by
    intro number hm
    by_contra hfree
    exact hnone ⟨number, hm, hfree⟩
  have hlen := (List.subperm_of_subset List.nodup_range hsubset).length_le
  rw [List.length_range] at hlen
  omega

theorem allocAnon_spec (port : Transport) :
    port.allocAnon ∉ port.anonIDs ∧ ∀ number < port.allocAnon, number ∈ port.anonIDs := by
  unfold allocAnon
  cases hfind : (List.range (port.anonIDs.length + 1)).find? fun number =>
      !port.anonIDs.contains number with
  | none =>
    obtain ⟨number, hm, hfree⟩ := exists_free port.anonIDs
    have hu := List.find?_eq_none.mp hfind number hm
    simp only [Bool.not_eq_true', Bool.not_eq_false, List.contains_iff_mem] at hu
    exact absurd hu hfree
  | some number =>
    obtain ⟨hfree, -, hleast⟩ := List.find?_range_eq_some.mp hfind
    constructor
    · simpa using hfree
    · intro lower hlt
      simpa using hleast lower hlt

def anonymous (number : Nat) : String := "anonymous-" ++ toString number

theorem subName_number {port : Transport} {peer : String} {number : Nat}
    (h : (port.subName peer).2 = some number) :
    peer = "" ∧ (port.subName peer).1 = port.id ++ "@" ++ anonymous number := by
  unfold subName at h ⊢
  split at h
  · rename_i hpeer
    cases h
    rw [if_pos hpeer]
    exact ⟨hpeer, rfl⟩
  · cases h

end GvSwitch.Ports.Transport

namespace GvSwitch.SwitchCore.Switch

theorem addPort_of_free {sw : Switch} {port : Port} {attrs : PortAttrs}
    {checked : CheckedAttrs} (hcheck : attrs.check = .ok checked) (hid : port.id ≠ "")
    (hfree : sw.ports.get? port.id = none) :
    sw.addPort port attrs = .ok (sw.register port checked) := by
  simp only [addPort, hcheck, if_neg hid, hfree]

end GvSwitch.SwitchCore.Switch

namespace GvSwitch.Manager

open Foundation SwitchCore Ports Transport Manager.Core GoMap

theorem IsSub.ne_empty {server id : String} (h : IsSub server id) : id ≠ "" := by
  obtain ⟨peer, rfl⟩ := h
  intro hempty
  have hlist := congrArg String.toList hempty
  simp at hlist

variable {system : System} {attrs : PortAttrs}

namespace System

/-! ## The condition -/

/-- The server has valid attributes, has finished with every earlier client that
is not connected any more, and is not offered a name it makes up itself. -/
structure Admissible (system : System) (server : Nat) (peer : String) : Prop where
  attrs : ∃ checked, (system.core.port server).attrs.check = .ok checked
  finished : ∀ sub, system.core.Sub server sub → ¬ system.Adding sub ∧
    .exit sub ∉ system.tasks ∧ .remove (system.core.port sub).id ∉ system.tasks
  named : ∀ number, peer ≠ Transport.anonymous number

/-- No identifier is used twice, and a multiplex server accepts a connection
only when it is admissible. -/
def Polite (system : System) (label : Env × Label) : Prop :=
  system.Unreused label ∧ ∀ server peer,
    label.2.task system = some (.connect server peer) →
      (system.core.port server).kind = .streamServer .multiplex →
        system.Admissible server peer

/-! ## The invariant -/

def Named (server : String) : Option Nat → String → Prop
  | some number, name => name = server ++ "@" ++ Transport.anonymous number
  | none, name => ∃ peer, peer ≠ "" ∧ (∀ number, peer ≠ Transport.anonymous number) ∧
      name = server ++ "@" ++ peer

variable {peer : String} {server sub : Nat}

structure Host (system : System) (server : Nat) : Prop where
  table : ∀ id sub, (system.core.port server).subs.get? id = some sub →
    (system.core.port sub).running 0 = true ∨ .exit sub ∈ system.tasks
  alive : ∀ sub < system.core.next, system.core.Sub server sub →
    (system.core.port sub).running 0 = true →
      Core.started (system.core.port sub) 0 = true ∨ system.Adding sub
  accepted : ∀ sub attrs, .enrol server sub attrs ∈ system.tasks →
    (∃ checked, attrs.check = .ok checked) ∧
      system.core.sw.ports.get? (system.core.port sub).id = none
  welcome : ∀ sub, .forget server sub ∉ system.tasks
  used : ∀ id sub number, (system.core.port server).subs.get? id = some sub →
    (system.core.port sub).kind = .subPort server (some number) →
      number ∈ (system.core.port server).anonIDs
  numbers : ∀ number ∈ (system.core.port server).anonIDs, ∃ sub,
    (system.core.port server).subs.get?
        ((system.core.port server).id ++ "@" ++ Transport.anonymous number) = some sub ∧
      (system.core.port sub).kind = .subPort server (some number)

structure Admitting (system : System) : Prop where
  identified : system.Identified
  tidy : system.Tidy true
  named : ∀ sub < system.core.next, ∀ server anonID,
    (system.core.port sub).kind = .subPort server anonID →
      Named (system.core.port server).id anonID (system.core.port sub).id
  hosts : ∀ server < system.core.next, (system.core.port server).closed = false →
    system.Host server

/-- Two subports of an open server that something is under way for have
different names. -/
theorem Admitting.sub_eq (h : system.Admitting) {other : Nat}
    (hopen : (system.core.port server).closed = false) (hsub : sub < system.core.next)
    (hkin : system.core.Sub server sub) (hactive : system.Active sub)
    (ho : other < system.core.next) (hkin' : system.core.Sub server other)
    (hactive' : system.Active other)
    (hid : (system.core.port sub).id = (system.core.port other).id) : sub = other := by
  have hlisted {handle : Nat} (hlt : handle < system.core.next)
      (hsub : system.core.Sub server handle) (hactive : system.Active handle) :
      system.Listed server handle := by
    rcases (h.tidy.tenancy.tenants handle hlt server hsub).named hactive with hn | hstruck
    · exact hn
    · rw [Struck, hopen] at hstruck
      cases hstruck.1
  have hfst := hlisted hsub hkin hactive
  have hsnd := hlisted ho hkin' hactive'
  rw [Listed, hid, hsnd] at hfst
  exact (Option.some.inj hfst).symm

theorem Admitting.addPort_accepts (h : system.Admitting)
    (hsrv : server < system.core.next) (hopen : (system.core.port server).closed = false)
    (hpend : .enrol server sub attrs ∈ system.tasks) :
    ∃ sw, system.core.sw.addPort ⟨(system.core.port sub).id, sub⟩ attrs =
      .ok sw := by
  obtain ⟨hlt, hkin⟩ := h.identified.placed.tasks _ hpend
  obtain ⟨⟨checked, hcheck⟩, hfree⟩ := (h.hosts server hsrv hopen).accepted sub attrs hpend
  have hid := (h.identified.names sub hlt server hkin).ne_empty
  exact ⟨_, Switch.addPort_of_free hcheck hid hfree⟩

section Execution

variable {system : System} {env : Env} {ok : Bool} {task : Task} {others : List Task}
  {server : Nat} (h : system.Admitting) (ht : system.Takes task others)
  (hsrv : server < system.core.next)
  (hopen : ((system.core.exec env ok task).1.port server).closed = false)

include h hsrv hopen

omit h in
theorem open_before : (system.core.port server).closed = false := by
  cases hcl : (system.core.port server).closed with
  | false => rfl
  | true =>
    simp [closed_exec env ok task hsrv hcl] at hopen

include ht

theorem Admitting.table_exec (id : String) (sub : Nat)
    (hsub : ((system.core.exec env ok task).1.port server).subs.get? id = some sub) :
    ((system.core.exec env ok task).1.port sub).running 0 = true ∨
      .exit sub ∈ (exec env ok system.core others task).tasks := by
  have hhost := h.hosts server hsrv (open_before hsrv hopen)
  have hpl := h.identified.placed
  have hold (hb : (system.core.port server).subs.get? id = some sub) :
      ((system.core.exec env ok task).1.port sub).running 0 = true ∨
        .exit sub ∈ (exec env ok system.core others task).tasks := by
    have hlt := hpl.typed.live sub (.inl (.sub hb))
    rcases hhost.table id sub hb with hrun | hexit
    · exact (running_exec env ok task hlt hrun).imp_right (List.mem_append_right _)
    rcases ht.stays hexit with rfl | hstays
    · obtain ⟨hid, anonID, hk⟩ := hpl.tables server hsrv id sub hb
      simp only [Core.exec, Core.exit, hk, Core.port_write_self, Transport.dropSub] at hsub
      simp [GoMap.get?_erase, if_pos hid.symm] at hsub
    · exact .inr (List.mem_append_left _ hstays)
  cases tableStep_exec env ok task hsrv with
  | same hsubs _ =>
    rw [hsubs] at hsub
    exact hold hsub
  | drops _ _ hsubs _ =>
    rw [hsubs, get?_erase] at hsub
    split at hsub
    · cases hsub
    · exact hold hsub
  | @keeps peer htask hmode hb hfree hsubs _ =>
    rw [hsubs, get?_set] at hsub
    split at hsub
    · cases hsub
      subst htask
      left
      rw [exec_connect_sub env ok hmode hb hfree, port_write_alloc_self]
      rfl
    · exact hold hsub

theorem Admitting.alive_exec (sub : Nat) (hlt : sub < (system.core.exec env ok task).1.next)
    (hsub : (system.core.exec env ok task).1.Sub server sub)
    (hrun : ((system.core.exec env ok task).1.port sub).running 0 = true) :
    started ((system.core.exec env ok task).1.port sub) 0 = true ∨
      (exec env ok system.core others task).Adding sub := by
  have hhost := h.hosts server hsrv (open_before hsrv hopen)
  have hpl := h.identified.placed
  rcases sub_exec hpl.typed hlt hsub with
    ⟨hold, hkin⟩ | ⟨rfl, peer, rfl, -, hmode, hb, hfree⟩
  · have hb := running_before hpl ht hold hkin env ok hrun
    rcases hhost.alive sub hold hkin hb with hstart | ⟨other, ho, hadds⟩
    · exact .inl (started_after hpl ht hold hkin env ok hstart)
    rcases ht.stays ho with rfl | hstays
    · cases other with
      | enrol parent target attrs =>
        have htgt := eq_of_beq hadds
        subst htgt
        simp only [System.exec, Core.exec, Core.enrol, Adding]
        split
        · exact .inr ⟨_, List.mem_append_right _ (.head _), beq_self_eq_true target⟩
        left
        rw [port_write_self]
        exact (start_single (hpl.parents target hold server hkin).2.2).2
      | forget parent target =>
        have htgt := eq_of_beq hadds
        subst htgt
        obtain ⟨anonID, hk⟩ := hkin
        obtain ⟨-, number, ho⟩ := hpl.taken ht
        rw [hk] at ho
        cases ho
        exact absurd (ht.pending rfl) (hhost.welcome target)
      | _ => cases hadds
    · exact .inr ⟨other, List.mem_append_left _ hstays, hadds⟩
  · refine .inr ⟨.enrol server system.core.next (system.core.port server).attrs,
      List.mem_append_right _ ?_, beq_self_eq_true _⟩
    rw [exec_connect_sub env ok hmode hb hfree]
    exact .head _

theorem Admitting.accepted_old {sub : Nat} (hpend : .enrol server sub attrs ∈ others) :
    (system.core.exec env ok task).1.sw.ports.get? (system.core.port sub).id = none := by
  have hb := open_before hsrv hopen
  have hhost := h.hosts server hsrv hb
  have hpl := h.identified.placed
  have hm := ht.mem hpend
  obtain ⟨hlt, hkin⟩ := hpl.tasks _ hm
  have hfree := (hhost.accepted sub attrs hm).2
  cases ha : (system.core.exec env ok task).1.sw.ports.get? (system.core.port sub).id with
  | none => rfl
  | some ptr =>
    exfalso
    have heff := (effect_exec system.core env ok task).sw
    have he := Switch.handleOf_of_get? ha
    generalize (Switch.entry _ ptr).port.handle = taker at he
    rcases heff.handleOf hpl.typed.allocated he with
      hold | ⟨req, rfl, hid⟩ | ⟨parent, copied, rfl, hid⟩
    · simp [Switch.handleOf, hfree] at hold
    · obtain ⟨hval, -⟩ := hpl.typed.taken ht
      obtain ⟨anonID, hk⟩ := hkin
      have hinv := hpl.typed.subports sub hlt server anonID hk
      simp [hid, hval] at hinv
    · obtain ⟨htaker, hkin'⟩ := hpl.taken ht
      have hmode := (hpl.parents sub hlt server hkin).2.1
      have hname := h.identified.names sub hlt server hkin
      rw [hid] at hname
      have hparent := h.identified.server_eq htaker hkin' hsrv
        (standalone_of_kind hmode) hname
      subst hparent
      have hs := h.sub_eq hb hlt hkin (.inl ⟨_, hm, beq_self_eq_true sub⟩) htaker
        hkin' (.inl ⟨_, ht.pending rfl, beq_self_eq_true taker⟩) hid
      subst hs
      have hsole := (h.tidy.tenancy.tenants sub hlt parent hkin).sole ht
        (beq_self_eq_true sub) hpend
      rw [Task.adds, beq_self_eq_true] at hsole
      cases hsole

omit ht in
theorem Admitting.accepted_new {peer : String} (hadm : system.Admissible server peer)
    (hmode : (system.core.port server).kind = .streamServer .multiplex)
    (hfree : (system.core.port server).subs.get?
      ((system.core.port server).subName peer).1 = none) :
    system.core.sw.ports.get? ((system.core.port server).subName peer).1 = none := by
  have hb := open_before hsrv hopen
  have hpl := h.identified.placed
  cases hp : system.core.sw.ports.get? ((system.core.port server).subName peer).1 with
  | none => rfl
  | some ptr =>
    exfalso
    have he := Switch.handleOf_of_get? hp
    generalize (system.core.sw.entry ptr).port.handle = holder at he
    have hlt := hpl.typed.live holder (.inl (.entry he))
    have hid := hpl.typed.entries _ holder he
    -- The holder of the name is a subport of this server.
    have hkin : system.core.Sub server holder := by
      by_cases hstandalone : Standalone system.core holder
      · have hval := h.identified.valid holder hlt hstandalone
        simp [hid, validateIdentifier_subName] at hval
      unfold Standalone at hstandalone
      push Not at hstandalone
      obtain ⟨parent, hkin⟩ := hstandalone
      have hname : IsSub (system.core.port server).id (system.core.port holder).id := by
        rw [hid]
        exact isSub_subName _ _
      rw [← h.identified.server_eq hlt hkin hsrv (standalone_of_kind hmode) hname]
      exact hkin
    obtain ⟨-, hexit, hremove⟩ := hadm.finished holder hkin
    rcases (h.tidy.housed holder hlt server hkin).entry _ he with
      ⟨-, hcl⟩ | (⟨-, hlisted⟩ | hpend) | hpend
    · simp [hb] at hcl
    · simp [Listed, hid, hfree] at hlisted
    · exact hexit hpend
    · rw [hid] at hremove
      exact hremove hpend

theorem Admitting.welcome_exec (sub : Nat) :
    .forget server sub ∉ (exec env ok system.core others task).tasks := by
  have hb := open_before hsrv hopen
  intro hforget
  rcases List.mem_append.mp hforget with hold | hnew
  · exact (h.hosts server hsrv hb).welcome sub (ht.mem hold)
  have hspawn := spawned_exec hnew
  cases hspawn with
  | @forget _ _ attrs =>
    obtain ⟨sw, hadd⟩ := h.addPort_accepts hsrv hb (ht.pending rfl)
    simp only [Core.exec, Core.enrol, hadd] at hnew
    cases hnew

theorem Admitting.accepted_exec
    (hadmits : ∀ peer, task = .connect server peer →
      (system.core.port server).kind = .streamServer .multiplex →
        system.Admissible server peer) (sub : Nat) (attrs : PortAttrs)
    (hpend : .enrol server sub attrs ∈ (exec env ok system.core others task).tasks) :
    (∃ checked, attrs.check = .ok checked) ∧
      (system.core.exec env ok task).1.sw.ports.get?
        ((system.core.exec env ok task).1.port sub).id = none := by
  have hb := open_before hsrv hopen
  have hpl := h.identified.placed
  rcases List.mem_append.mp hpend with hold | hnew
  · have hm := ht.mem hold
    have hlt := (hpl.tasks _ hm).1
    rw [(hpl.typed.keeps env ok task).id sub hlt]
    exact ⟨((h.hosts server hsrv hb).accepted sub attrs hm).1,
      h.accepted_old ht hsrv hopen hold⟩
  · have hspawn := spawned_exec hnew
    cases hspawn with
    | @enrol _ peer _ hlt =>
      cases fresh_exec system.core env ok (.connect server peer) with
      | none hs => omega
      | built htask _ _ _ _ _ => cases htask
      | sub htask hmode _ hfree _ hp _ hspawns =>
        cases htask
        have hadm := hadmits peer rfl hmode
        rw [hspawns] at hnew
        cases List.mem_singleton.mp hnew
        refine ⟨hadm.attrs, ?_⟩
        rw [hp, exec_connect_sub env ok hmode hb hfree]
        exact h.accepted_new hsrv hopen hadm hmode hfree

theorem Admitting.dropped_named {sub parent : Nat} {anonID : Option Nat}
    (hdrops : (task = .exit sub ∧ parent = server) ∨ task = .forget server sub)
    (hk : (system.core.port sub).kind = .subPort parent anonID) :
    parent = server ∧ validateIdentifier (system.core.port server).id = true ∧
      Named (system.core.port server).id anonID (system.core.port sub).id := by
  have hpl := h.identified.placed
  have hkin : sub < system.core.next ∧ parent = server := by
    rcases hdrops with ⟨rfl, rfl⟩ | rfl
    · exact ⟨hpl.typed.live sub (ht.refers (.head _)), rfl⟩
    obtain ⟨hlt, number, ho⟩ := hpl.taken ht
    rw [hk] at ho
    cases ho
    exact ⟨hlt, rfl⟩
  obtain ⟨hlt, rfl⟩ := hkin
  have hmode := (hpl.parents sub hlt parent ⟨anonID, hk⟩).2.1
  exact ⟨rfl, h.identified.valid parent hsrv (standalone_of_kind hmode),
    h.named sub hlt parent anonID hk⟩

theorem Admitting.used_exec (id : String) (sub number : Nat)
    (hsub : ((system.core.exec env ok task).1.port server).subs.get? id = some sub)
    (hk : ((system.core.exec env ok task).1.port sub).kind = .subPort server (some number)) :
    number ∈ ((system.core.exec env ok task).1.port server).anonIDs := by
  have hhost := h.hosts server hsrv (open_before hsrv hopen)
  have hpl := h.identified.placed
  have hkept (hb : (system.core.port server).subs.get? id = some sub) :
      (system.core.port sub).kind = .subPort server (some number) := by
    have hlt := hpl.typed.live sub (.inl (.sub hb))
    rw [(hpl.typed.keeps env ok task).kind sub hlt] at hk
    exact hk
  cases tableStep_exec env ok task hsrv with
  | same hsubs hanon =>
    rw [hsubs] at hsub
    rw [hanon]
    exact hhost.used id sub number hsub (hkept hsub)
  | @drops other parent anonID hdrops hdropped hsubs hanon =>
    rw [hsubs, get?_erase] at hsub
    split at hsub
    · cases hsub
    rename_i ho
    have hu := hhost.used id sub number hsub (hkept hsub)
    obtain ⟨rfl, -, hn⟩ := h.dropped_named ht hsrv hopen hdrops hdropped
    rw [hanon]
    cases anonID with
    | none => exact hu
    | some dropped =>
      refine List.mem_filter.mpr ⟨hu, decide_eq_true ?_⟩
      rintro rfl
      -- Two subports of one number would have one name.
      have hid := (hpl.tables _ hsrv id sub hsub).1
      have hlt := hpl.typed.live sub (.inl (.sub hsub))
      have hname : (system.core.port sub).id = _ := h.named sub hlt _ _ (hkept hsub)
      exact ho (hid.symm.trans (hname.trans hn.symm))
  | @keeps peer htask hmode hb hfree hsubs hanon =>
    rw [hsubs, get?_set] at hsub
    rw [hanon]
    split at hsub
    · cases hsub
      subst htask
      rw [exec_connect_sub env ok hmode hb hfree, port_write_alloc_self] at hk
      have hnumber := (Kind.subPort.inj hk).2
      rw [hnumber]
      exact List.mem_append_left _ (.head _)
    · exact List.mem_append_right _ (hhost.used id sub number hsub (hkept hsub))

theorem Admitting.numbers_exec (number : Nat)
    (hnumber : number ∈ ((system.core.exec env ok task).1.port server).anonIDs) :
    ∃ sub, ((system.core.exec env ok task).1.port server).subs.get?
        (((system.core.exec env ok task).1.port server).id ++ "@" ++
          anonymous number) = some sub ∧
      ((system.core.exec env ok task).1.port sub).kind = .subPort server (some number) := by
  have hhost := h.hosts server hsrv (open_before hsrv hopen)
  have hpl := h.identified.placed
  have hkeeps := hpl.typed.keeps env ok task
  rw [hkeeps.id server hsrv]
  have hkept {sub : Nat} (hsub : (system.core.port server).subs.get?
      ((system.core.port server).id ++ "@" ++ anonymous number) = some sub)
      (hk : (system.core.port sub).kind = .subPort server (some number)) :
      ((system.core.exec env ok task).1.port sub).kind = .subPort server (some number) :=
    (hkeeps.kind sub (hpl.typed.live sub (.inl (.sub hsub)))).trans hk
  cases tableStep_exec env ok task hsrv with
  | same hsubs hanon =>
    rw [hanon] at hnumber
    obtain ⟨sub, hsub, hk⟩ := hhost.numbers number hnumber
    rw [hsubs]
    exact ⟨sub, hsub, hkept hsub hk⟩
  | @drops other parent anonID hdrops hdropped hsubs hanon =>
    obtain ⟨rfl, hval, hn⟩ := h.dropped_named ht hsrv hopen hdrops hdropped
    rw [hanon] at hnumber
    have hremains : number ∈ (system.core.port parent).anonIDs ∧ anonID ≠ some number := by
      cases anonID with
      | none => exact ⟨hnumber, nofun⟩
      | some dropped =>
        obtain ⟨hm, hne⟩ := List.mem_filter.mp hnumber
        refine ⟨hm, ?_⟩
        rintro ⟨rfl⟩
        exact of_decide_eq_true hne rfl
    obtain ⟨sub, hsub, hk⟩ := hhost.numbers number hremains.1
    rw [hsubs, get?_erase]
    refine ⟨sub, ?_, hkept hsub hk⟩
    rw [if_neg, hsub]
    intro hname
    cases anonID with
    | none =>
      obtain ⟨peer, -, hpeer, hid⟩ := hn
      have hs := subName_injective hval hval (hname.trans hid)
      exact hpeer number hs.2.symm
    | some dropped =>
      have hs := subName_injective hval hval (hname.trans hn)
      exact hremains.2 (congrArg some (append_toString_injective hs.2).symm)
  | @keeps peer htask hmode hb hfree hsubs hanon =>
    rw [hanon] at hnumber
    rw [hsubs]
    rcases List.mem_append.mp hnumber with hnew | hold
    · have hanonymous := Option.mem_toList.mp hnew
      refine ⟨system.core.next, ?_, ?_⟩
      · rw [← (subName_number hanonymous).2]
        exact get?_set_self _ _ _
      subst htask
      rw [exec_connect_sub env ok hmode hb hfree, port_write_alloc_self]
      exact congrArg (Kind.subPort server) hanonymous
    · obtain ⟨sub, hsub, hk⟩ := hhost.numbers number hold
      refine ⟨sub, ?_, hkept hsub hk⟩
      rw [get?_set, if_neg, hsub]
      intro hname
      simp [hname, hfree] at hsub

end Execution

/-! ## Whole runs -/

section Runs

variable {system : System} {env : Env} {ok : Bool} {task : Task} {others : List Task}
  (h : system.Admitting)

include h

theorem Admitting.named_exec
    (hadmits : ∀ server peer, task = .connect server peer →
      (system.core.port server).kind = .streamServer .multiplex →
        system.Admissible server peer) (sub : Nat)
    (hlt : sub < (system.core.exec env ok task).1.next) (server : Nat) (anonID : Option Nat)
    (hk : ((system.core.exec env ok task).1.port sub).kind = .subPort server anonID) :
    Named ((system.core.exec env ok task).1.port server).id anonID
      ((system.core.exec env ok task).1.port sub).id := by
  have hpl := h.identified.placed
  have hkeeps := hpl.typed.keeps env ok task
  rcases sub_exec hpl.typed hlt ⟨anonID, hk⟩ with
    ⟨hold, hkin⟩ | ⟨rfl, peer, rfl, hsrv, hmode, hopen, hfree⟩
  · have hsrv := (hpl.parents sub hold server hkin).1
    rw [hkeeps.kind sub hold] at hk
    rw [hkeeps.id sub hold, hkeeps.id server hsrv]
    exact h.named sub hold server anonID hk
  · rw [hkeeps.id server hsrv]
    rw [exec_connect_sub env ok hmode hopen hfree, port_write_alloc_self] at hk ⊢
    rw [← (Kind.subPort.inj hk).2]
    unfold subName
    split
    · exact rfl
    · rename_i hname
      exact ⟨peer, hname, (hadmits server peer rfl hmode).named, rfl⟩

theorem Admitting.host_new (ht : system.Takes task others)
    (hnext : system.core.next < (system.core.exec env ok task).1.next) :
    (exec env ok system.core others task).Host system.core.next := by
  have hpl := h.identified.placed
  have ha : (exec env ok system.core others task).Placed := hpl.exec ht
  have hempty : ((system.core.exec env ok task).1.port system.core.next).subs = .empty ∧
      ((system.core.exec env ok task).1.port system.core.next).anonIDs = [] := by
    cases fresh_exec system.core env ok task with
    | none hs => omega
    | built _ _ htransport _ hp _ =>
      rw [hp]
      unfold transportFor at htransport
      split at htransport <;> cases htransport <;> exact ⟨rfl, rfl⟩
    | sub _ _ _ _ _ hp _ _ =>
      rw [hp]
      exact ⟨rfl, rfl⟩
  have hnosub (sub : Nat) (hlt : sub < (system.core.exec env ok task).1.next) :
      ¬ (system.core.exec env ok task).1.Sub system.core.next sub := by
    intro hsub
    rcases sub_exec hpl.typed hlt hsub with ⟨hold, hkin⟩ | ⟨-, _, -, hsrv, -⟩
    · exact absurd (hpl.parents sub hold _ hkin).1 (Nat.lt_irrefl _)
    · exact absurd hsrv (Nat.lt_irrefl _)
  refine ⟨?_, ?_, ?_, ?_, ?_, ?_⟩
  · intro id sub hsub
    dsimp only [System.exec] at hsub
    simp [hempty.1] at hsub
  · intro sub hlt hsub
    exact absurd hsub (hnosub sub hlt)
  · intro sub attrs hpend
    obtain ⟨hlt, hsub⟩ := ha.tasks _ hpend
    exact absurd hsub (hnosub sub hlt)
  · intro sub hpend
    obtain ⟨hlt, hsub⟩ := ha.tasks _ hpend
    exact hnosub sub hlt hsub
  · intro id sub number hsub
    dsimp only [System.exec] at hsub
    simp [hempty.1] at hsub
  · intro number hnumber
    dsimp only [System.exec] at hnumber
    simp [hempty.2] at hnumber

theorem Admitting.exec (ht : system.Takes task others)
    (hfresh : ∀ req, task = .build req → ∀ handle < system.core.next,
      (system.core.port handle).id ≠ req.identifier)
    (hadmits : ∀ server peer, task = .connect server peer →
      (system.core.port server).kind = .streamServer .multiplex →
        system.Admissible server peer) :
    (exec env ok system.core others task).Admitting where
  identified := h.identified.exec ht hfresh
  tidy := h.tidy.exec ht fun _ _ _ _ _ => rfl
  named := h.named_exec hadmits
  hosts := by
    intro server hlt hopen
    by_cases hsrv : server < system.core.next
    · exact ⟨h.table_exec ht hsrv hopen, h.alive_exec ht hsrv hopen,
        h.accepted_exec ht hsrv hopen (hadmits server),
        h.welcome_exec ht hsrv hopen, h.used_exec ht hsrv hopen,
        h.numbers_exec ht hsrv hopen⟩
    · have hnew : server = system.core.next := by
        dsimp only [System.exec] at hlt
        rcases (effect_exec system.core env ok task).next with hs | halloc
        · omega
        · cases halloc <;> omega
      subst hnew
      exact h.host_new ht hlt

end Runs

theorem admitting_new (instanceID : UInt64) : (new instanceID).Admitting where
  identified := identified_new instanceID
  tidy := tidy_new true instanceID
  named := by
    intro sub hlt
    exact absurd hlt (Nat.not_lt_zero sub)
  hosts := by
    intro server hlt
    exact absurd hlt (Nat.not_lt_zero server)

theorem Admitting.traffic (h : system.Admitting) {sw : Switch} {shut : Ptr → Prop}
    (hstand : Switch.Standing shut system.core.sw sw) :
    Admitting ⟨{ system.core with sw := sw }, system.tasks⟩ where
  identified := h.identified.traffic hstand
  tidy := h.tidy.traffic hstand
  named := h.named
  hosts := by
    intro server hlt hopen
    have hhost := h.hosts server hlt hopen
    refine ⟨hhost.table, hhost.alive, ?_, hhost.welcome, hhost.used, hhost.numbers⟩
    rw [hstand.ports]
    exact hhost.accepted

theorem Admitting.step (h : system.Admitting) {env : Env} {label : Label}
    (hpolite : system.Polite (env, label)) : (system.step env label).Admitting := by
  refine step_keeps h h.traffic ?_
  intro task others ok htask ht
  refine h.exec ht ?_ ?_
  · intro req hreq
    exact hpolite.1 req (htask.trans (congrArg some hreq))
  · intro server peer hconnect
    exact hpolite.2 server peer (htask.trans (congrArg some hconnect))

/-! ## What a new client meets -/

def Live (system : System) (server sub : Nat) : Prop :=
  sub < system.core.next ∧ system.core.Sub server sub ∧
    (system.core.port sub).running 0 = true

section Hosts

variable (h : system.Admitting) (hsrv : server < system.core.next)
  (hopen : (system.core.port server).closed = false)

include h hsrv hopen

theorem Admitting.live_of_table {id : String} (hadm : system.Admissible server peer)
    (hsub : (system.core.port server).subs.get? id = some sub) :
    system.Live server sub := by
  obtain ⟨-, hkin⟩ := h.identified.placed.tables server hsrv id sub hsub
  refine ⟨h.identified.placed.typed.live sub (.inl (.sub hsub)), hkin, ?_⟩
  rcases (h.hosts server hsrv hopen).table id sub hsub with hrun | hexit
  · exact hrun
  · exact absurd hexit (hadm.finished sub hkin).2.1

theorem Admitting.number_of_live {number : Nat} (hlive : system.Live server sub)
    (hk : (system.core.port sub).kind = .subPort server (some number)) :
    number ∈ (system.core.port server).anonIDs := by
  obtain ⟨hlt, hkin, hrun⟩ := hlive
  have hhost := h.hosts server hsrv hopen
  have hactive : system.Active sub := by
    rcases hhost.alive sub hlt hkin hrun with hstart | hadding
    · exact .inr (.inr ⟨hrun, .inl hstart⟩)
    · exact .inl hadding
  rcases (h.tidy.tenancy.tenants sub hlt server hkin).named hactive with hlisted | hstruck
  · exact hhost.used _ sub number hlisted hk
  · rw [Struck, hopen] at hstruck
    cases hstruck.1

theorem Admitting.cause_of_refusal (hadm : system.Admissible server peer)
    (hsub : (system.core.port server).subs.get?
      ((system.core.port server).subName peer).1 = some sub) :
    peer ≠ "" ∧ (system.core.port sub).kind = .subPort server none ∧
      (system.core.port sub).id = (system.core.port server).id ++ "@" ++ peer := by
  have hpl := h.identified.placed
  obtain ⟨hid, anonID, hk⟩ := hpl.tables server hsrv _ sub hsub
  have hlt := hpl.typed.live sub (.inl (.sub hsub))
  have hmode := (hpl.parents sub hlt server ⟨anonID, hk⟩).2.1
  have hval := h.identified.valid server hsrv (standalone_of_kind hmode)
  have hn := h.named sub hlt server anonID hk
  rw [hid] at hn
  by_cases hpeer : peer = ""
  · exfalso
    have hname : ((system.core.port server).subName peer).1 =
        (system.core.port server).id ++ "@" ++
          anonymous (system.core.port server).allocAnon := by
      rw [subName, if_pos hpeer]
      rfl
    cases anonID with
    | none =>
      obtain ⟨client, -, hclient, ho⟩ := hn
      have hs := subName_injective hval hval (hname.symm.trans ho)
      exact hclient _ hs.2.symm
    | some number =>
      have hs := subName_injective hval hval (hname.symm.trans hn)
      have hnumber := append_toString_injective hs.2
      have hu := (h.hosts server hsrv hopen).used _ sub number hsub hk
      rw [← hnumber] at hu
      exact (allocAnon_spec (system.core.port server)).1 hu
  · have hname : ((system.core.port server).subName peer).1 =
        (system.core.port server).id ++ "@" ++ peer := by
      rw [subName, if_neg hpeer]
    refine ⟨hpeer, ?_, hid.trans hname⟩
    cases anonID with
    | none => exact hk
    | some number =>
      have hs := subName_injective hval hval (hname.symm.trans hn)
      exact absurd hs.2 (hadm.named number)

theorem Admitting.enrolled (hpend : .enrol server sub attrs ∈ system.tasks) (env : Env)
    (ok : Bool) :
    (system.core.exec env ok (.enrol server sub attrs)).1.sw.handleOf
      (system.core.port sub).id = some sub := by
  obtain ⟨sw, hadd⟩ := h.addPort_accepts hsrv hopen hpend
  have ha : (system.core.exec env ok (.enrol server sub attrs)).1.sw = sw := by
    simp only [Core.exec, Core.enrol, hadd]
    rfl
  rw [ha, Switch.handleOf_addPort h.identified.placed.typed.allocated hadd, if_pos rfl]

/-- An admissible client without a name gets the least number that no live
client has. -/
theorem Admitting.anonymous_admitted
    (hmode : (system.core.port server).kind = .streamServer .multiplex)
    (hadm : system.Admissible server "") (env : Env) (ok : Bool) :
    ∃ number, (∀ sub, system.Live server sub →
        (system.core.port sub).kind ≠ .subPort server (some number)) ∧
      (∀ lower < number, ∃ sub, system.Live server sub ∧
        (system.core.port sub).kind = .subPort server (some lower)) ∧
      (system.core.exec env ok (.connect server "")).2 =
        [.enrol server system.core.next (system.core.port server).attrs] ∧
      ((system.core.exec env ok (.connect server "")).1.port system.core.next).id =
        (system.core.port server).id ++ "@" ++ anonymous number := by
  obtain ⟨hfree, hleast⟩ := allocAnon_spec (system.core.port server)
  refine ⟨(system.core.port server).allocAnon, ?_, ?_, ?_⟩
  · intro sub hlive hk
    exact hfree (h.number_of_live hsrv hopen hlive hk)
  · intro lower hlower
    obtain ⟨sub, hsub, hk⟩ :=
      (h.hosts server hsrv hopen).numbers lower (hleast lower hlower)
    exact ⟨sub, h.live_of_table hsrv hopen hadm hsub, hk⟩
  · cases hsub : (system.core.port server).subs.get?
        ((system.core.port server).subName "").1 with
    | some sub =>
      exact absurd rfl (h.cause_of_refusal hsrv hopen hadm hsub).1
    | none =>
      rw [exec_connect_sub env ok hmode hopen hsub, port_write_alloc_self]
      exact ⟨rfl, rfl⟩

end Hosts

/-- In every run in which no identifier is used twice and a multiplex server
accepts connections only when they are admissible, an open server registers every
connection it has accepted, refuses an admissible one only if a client of the same
name is live, and admits an anonymous one under the least number that no live
client has. -/
theorem client_refused_only_with_cause {system : System}
    (h : Reachable Initial (Guarded Polite Step) system) {server : Nat}
    (hopen : (system.core.port server).closed = false)
    (hmode : (system.core.port server).kind = .streamServer .multiplex)
    (env : Env) (ok : Bool) :
    (∀ sub attrs, .enrol server sub attrs ∈ system.tasks →
      (system.core.exec env ok (.enrol server sub attrs)).1.sw.handleOf
        (system.core.port sub).id = some sub) ∧
    (∀ peer, system.Admissible server peer →
      (system.core.exec env ok (.connect server peer)).2 = [] →
        peer ≠ "" ∧ ∃ sub, system.Live server sub ∧
          (system.core.port sub).kind = .subPort server none ∧
          (system.core.port sub).id = (system.core.port server).id ++ "@" ++ peer) ∧
    (system.Admissible server "" → ∃ number,
      (∀ sub, system.Live server sub →
        (system.core.port sub).kind ≠ .subPort server (some number)) ∧
      (∀ lower < number, ∃ sub, system.Live server sub ∧
        (system.core.port sub).kind = .subPort server (some lower)) ∧
      (system.core.exec env ok (.connect server "")).2 =
        [.enrol server system.core.next (system.core.port server).attrs] ∧
      ((system.core.exec env ok (.connect server "")).1.port system.core.next).id =
        (system.core.port server).id ++ "@" ++ Transport.anonymous number) := by
  have hadmitting : system.Admitting := invariant admitting_new Admitting.step h
  have hsrv := hadmitting.identified.placed.typed.live server (.inl (.opened hopen))
  refine ⟨fun sub attrs hpend => hadmitting.enrolled hsrv hopen hpend env ok, ?_,
    fun hadm => hadmitting.anonymous_admitted hsrv hopen hmode hadm env ok⟩
  intro peer hadm hrefused
  cases hsub : (system.core.port server).subs.get?
      ((system.core.port server).subName peer).1 with
  | none =>
    rw [exec_connect_sub env ok hmode hopen hsub] at hrefused
    cases hrefused
  | some sub =>
    obtain ⟨hpeer, hk, hid⟩ := hadmitting.cause_of_refusal hsrv hopen hadm hsub
    exact ⟨hpeer, sub, hadmitting.live_of_table hsrv hopen hadm hsub, hk, hid⟩

/-! ## A polite run and a hasty one -/

/-- A server accepts only when nothing is pending. -/
def acceptsAlone (system : System) (label : Label) : Bool :=
  match label.task system with
  | some (.connect server peer) => system.tasks.isEmpty && peer.toList.head? != some 'a' &&
      match (system.core.port server).attrs.check with
      | .ok _ => true
      | .error _ => false
  | _ => true

theorem admissible_of_quiet (hq : system.tasks = []) (hpeer : peer.toList.head? ≠ some 'a')
    {checked : CheckedAttrs} (hattrs : (system.core.port server).attrs.check = .ok checked) :
    system.Admissible server peer := by
  refine ⟨⟨checked, hattrs⟩, ?_, ?_⟩
  · intro sub _
    unfold Adding
    rw [hq]
    simp
  · rintro number rfl
    refine hpeer ?_
    rw [anonymous, String.toList_append]
    rfl

theorem polite_of_acceptsAlone {env : Env} (system : System) (label : Label)
    (h : system.Unreused (env, label) ∧ system.acceptsAlone label = true) :
    system.Polite (env, label) := by
  refine ⟨h.1, fun server peer htask _ => ?_⟩
  have halone := h.2
  rw [acceptsAlone, show label.task system = some (.connect server peer) from htask] at halone
  simp only [Bool.and_eq_true] at halone
  obtain ⟨⟨hq, hpeer⟩, hattrs⟩ := halone
  split at hattrs
  · rename_i hcheck
    exact admissible_of_quiet (List.isEmpty_iff.mp hq) (by simpa using hpeer) hcheck
  · cases hattrs

/-- Two clients without a name connect to the server `s`, and the first leaves. -/
def oneLeft : List Label :=
  [.begin (.createPort { identifier := "s", endpoint := .streamServer .multiplex }),
    .run 0 true, .run 0 true, .run 0 true,
    .begin (.connect 0 ""), .run 0 true, .begin (.connect 0 ""), .run 0 true,
    .begin (.disconnect ⟨1, 0⟩)] ++ List.replicate 8 (.run 0 true)

theorem client_refused_only_with_cause_oneLeft :
    ((new 1).run (steadyEnv 0) oneLeft).Live 0 2 ∧ ∃ number,
      (∀ sub, ((new 1).run (steadyEnv 0) oneLeft).Live 0 sub →
        (((new 1).run (steadyEnv 0) oneLeft).core.port sub).kind ≠
          .subPort 0 (some number)) ∧
      (((new 1).run (steadyEnv 0) oneLeft).core.exec (steadyEnv 0) true
        (.connect 0 "")).2 = [.enrol 0 3
          (((new 1).run (steadyEnv 0) oneLeft).core.port 0).attrs] := by
  have hq : ((new 1).run (steadyEnv 0) oneLeft).tasks = [] := by decide
  have hreach : Reachable Initial (Guarded Polite Step)
      ((new 1).run (steadyEnv 0) oneLeft) :=
    reachable_run_guarded (.start ⟨1, rfl⟩) (.mono polite_of_acceptsAlone (by decide))
  obtain ⟨checked, hattrs⟩ : ∃ checked,
      (((new 1).run (steadyEnv 0) oneLeft).core.port 0).attrs.check = .ok checked :=
    ⟨_, rfl⟩
  have hadm : ((new 1).run (steadyEnv 0) oneLeft).Admissible 0 "" :=
    admissible_of_quiet hq (by decide) hattrs
  obtain ⟨-, -, hanonymous⟩ := client_refused_only_with_cause hreach
    (show (((new 1).run (steadyEnv 0) oneLeft).core.port 0).closed = false by decide)
    (by decide) (steadyEnv 0) true
  obtain ⟨number, hunused, -, henrol, -⟩ := hanonymous hadm
  exact ⟨⟨by decide, ⟨some 1, by decide⟩, by decide⟩, number, hunused, henrol⟩

/-- The first client leaves and another connects before the old subport has been
removed from the switch. -/
def hastyClient : List Label :=
  [.begin (.createPort { identifier := "s", endpoint := .streamServer .multiplex }),
    .run 0 true, .run 0 true, .run 0 true,
    .begin (.connect 0 ""), .run 0 true, .begin (.disconnect ⟨1, 0⟩), .run 0 true,
    .begin (.connect 0 ""), .run 1 true]

/-- `addSub` turns an anonymous client away although no other client of the open
server is live. -/
theorem hasty_client_refused :
    ∃ system : System, Reachable Initial Step system ∧
      (system.core.port 0).kind = .streamServer .multiplex ∧
      (system.core.port 0).closed = false ∧ system.core.next = 3 ∧
      (system.core.port 1).running 0 = false ∧
      (system.core.port 2).kind = .subPort 0 (some 0) ∧ .forget 0 2 ∈ system.tasks := by
  refine ⟨(new 1).run (steadyEnv 0) hastyClient, reachable_run (.start ⟨1, rfl⟩) _ _,
    by decide, by decide, by decide, by decide, by decide, by decide⟩

end System

end GvSwitch.Manager
