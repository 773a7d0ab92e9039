import GvSwitch.Manager.System
import GvSwitch.Ports.Fading
import GvSwitch.SwitchCore.Handles

/-!
# What a section of a task does

`Executed` inverts `Core.exec`: the state each section leaves and the tasks that
follow it.  A section brings no transport back that neither the shared state nor
the task referred to, and a transport keeps its identifier and its kind.
-/

namespace GvSwitch.Manager

open Foundation SwitchCore Ports Transport

/-! ## What a section does -/

variable (core : Core) (env : Env) (handle : Nat) (transport : Transport)

namespace Core

inductive Executed (core : Core) (env : Env) : Task → Core × List Task → Prop
  | idle (task : Task) : Executed core env task (core, [])
  | created {req : PortRequest} : validateIdentifier req.identifier = true →
      core.ports.get? req.identifier = none →
        Executed core env (.createPort req) (core, [.build req])
  | built {req : PortRequest} {attrs : PortAttrs} {transport : Transport} :
      req.attrs = .ok attrs → transportFor req attrs = some transport →
        Executed core env (.build req) (core.alloc transport, [.register req core.next])
  | refused {req : PortRequest} {handle : Nat} :
      Executed core env (.register req handle) (core, [.discard handle])
  | registered {req : PortRequest} {handle : Nat} {attrs : PortAttrs} {sw : Switch} :
      req.attrs = .ok attrs → core.sw.addPort ⟨req.identifier, handle⟩ attrs = .ok sw →
        Executed core env (.register req handle)
          ({ core with sw := sw }, [.store req handle])
  | discarded {handle : Nat} :
      Executed core env (.discard handle) (core.close env handle .return)
  | stored {req : PortRequest} {handle : Nat} : Executed core env (.store req handle)
      ({ core with ports := core.ports.set req.identifier ⟨req, handle⟩ }, [])
  | deleted {id : String} {cause : Option Nat} {record : PortRecord} :
      core.ports.get? id = some record → Executed core env (.delete id cause)
        ({ core with ports := core.ports.erase id }, [.remove id])
  | removed {id : String} {ptr : Ptr} : core.sw.ports.get? id = some ptr →
      Executed core env (.remove id) ({ core with sw := core.sw.unregister id ptr },
        [.close id (core.sw.entry ptr).port.handle])
  | closed {id : String} {handle : Nat} :
      Executed core env (.close id handle) (core.close env handle (.portDown id handle))
  | downNext {id : String} {source : Nat} :
      Executed core env (.halt [] (.portDown id source)) (core, [.down id source])
  | readoptNext {handle : Nat} :
      Executed core env (.halt [] (.readopt handle)) (core, [.readopt handle])
  | skipped {pump : PumpRef} {rest : List PumpRef} {next : Continuation} :
      Executed core env (.halt (pump :: rest) next) (core, [.halt rest next])
  | halted {pump : PumpRef} {rest : List PumpRef} {next : Continuation} {stopped : Transport} :
      (core.port pump.handle).stop pump.index = some stopped →
        Executed core env (.halt (pump :: rest) next)
          (core.write pump.handle stopped, [.exit pump.handle, .halt rest next])
  | flushed {id : String} {source : Nat} : Executed core env (.down id source)
      ({ core with sw := core.sw.portDown id }, [.hook id source])
  | hooked {id : String} {source : Nat} : Executed core env (.hook id source)
      (core, [.release id source (core.ports.get? id)])
  | released {id : String} {source : Nat} {found : PortRecord} : found.autoRemove = true →
      Executed core env (.release id source (some found)) (core, [.check id source found.port])
  | checked {id : String} {source handle : Nat} : (core.port handle).online = false →
      Executed core env (.check id source handle) (core, [.delete id (some source)])
  | dropped {handle server : Nat} {anonID : Option Nat} :
      (core.port handle).kind = .subPort server anonID → Executed core env (.exit handle)
        (core.write server ((core.port server).dropSub (core.port handle).id anonID),
          [.remove (core.port handle).id])
  | exited {handle : Nat} :
      (∀ server anonID, (core.port handle).kind ≠ .subPort server anonID) →
        Executed core env (.exit handle) (core.write handle (core.port handle).onExit.1,
          if (core.port handle).onExit.2 then [.down (core.port handle).id handle] else [])
  | readopted {handle : Nat} : (∀ mode, (core.port handle).kind ≠ .vhostUser mode) →
      Executed core env (.readopt handle)
        (core.write handle (core.port handle).readopt, [])
  | reaccepted {handle : Nat} {mode : Option ReplacingMode} :
      (core.port handle).kind = .vhostUser mode → (core.port handle).closed = false →
        Executed core env (.readopt handle) (core, [.adopt handle])
  | sessionMade {handle : Nat} {mode : Option ReplacingMode} :
      (core.port handle).kind = .vhostUser mode →
        Executed core env (.adopt handle)
          (core.write handle ((core.port handle).install true), [])
  | sessionUp {session : PumpRef} {mode : Option ReplacingMode} :
      (core.port session.handle).kind = .vhostUser mode →
        Executed core env (.ready session)
          (core.write session.handle { core.port session.handle with up := true }, [])
  | spurned {server sub : Nat} {attrs : PortAttrs} :
      Executed core env (.enrol server sub attrs) (core, [.forget server sub])
  | enrolled {server sub : Nat} {attrs : PortAttrs} {sw : Switch} :
      core.sw.addPort ⟨(core.port sub).id, sub⟩ attrs = .ok sw →
        Executed core env (.enrol server sub attrs)
          (({ core with sw := sw } : Core).write sub (core.port sub).start, [])
  | forgot {server sub parent : Nat} {anonID : Option Nat} :
      (core.port sub).kind = .subPort parent anonID → Executed core env (.forget server sub)
        (core.write server ((core.port server).dropSub (core.port sub).id anonID), [])
  | accepted {server : Nat} {peer : String} :
      (core.port server).kind = .streamServer .multiplex → (core.port server).closed = false →
        (core.port server).subs.get? ((core.port server).subName peer).1 = none →
          Executed core env (.connect server peer)
            ((core.write server ((core.port server).keepSub ((core.port server).subName peer).1
                ((core.port server).subName peer).2 core.next)).alloc
              (Transport.install
                { id := ((core.port server).subName peer).1
                  kind := .subPort server ((core.port server).subName peer).2 } false),
              [.enrol server core.next (core.port server).attrs])
  | adopted {handle : Nat} {peer : String} {mode : ReplacingMode} {tasks : List Task} :
      (core.port handle).kind = .streamServer mode →
        (∀ next ∈ tasks, ∃ index,
          ((core.port handle).adopt (mode == .replace)).2 = .kicks index ∧
            next = .halt [⟨handle, index⟩] (.readopt handle)) →
          Executed core env (.connect handle peer)
            (core.write handle ((core.port handle).adopt (mode == .replace)).1, tasks)
  | heard {handle : Nat} {peer : String} {mode : ReplacingMode} :
      (core.port handle).kind = .dgramServer mode → Executed core env (.connect handle peer)
        (core.write handle ((core.port handle).hear peer), [])
  | sessionAccepted {handle : Nat} {peer : String} {mode : ReplacingMode}
      {tasks : List Task} : (core.port handle).kind = .vhostUser (some mode) →
      (∀ next ∈ tasks, (core.port handle).closed = false ∧
        (next = .adopt handle ∨
          ∃ index, next = .halt [⟨handle, index⟩] (.readopt handle))) →
        Executed core env (.connect handle peer)
          (core.write handle ((core.port handle).acceptSession (mode == .occupy)).1, tasks)
  | linkGone {pump : PumpRef} : (core.port pump.handle).kind = .afxdp →
      (core.port pump.handle).closed = false →
        Executed core env (.disconnect pump) (core, [.exit pump.handle])
  | lost {pump : PumpRef} {state : Pump} {stopped : Transport} :
      (core.port pump.handle).pumps[pump.index]? = some state → state.started = true →
        (core.port pump.handle).stop pump.index = some stopped →
          (core.port pump.handle).kind ≠ .afxdp → Executed core env (.disconnect pump)
            (core.write pump.handle stopped, [.exit pump.handle])
  | found {id : String} {patch : PortPatch} {record : PortRecord} :
      core.ports.get? id = some record →
        Executed core env (.patchPort id patch) (core, [.patchRead id record patch])
  | merged {id : String} {record : PortRecord} {patch : PortPatch} {ptr : Ptr}
      {attrs : PortAttrs} : core.sw.ports.get? id = some ptr →
      patch.apply (core.sw.entry ptr).attrs.toPortAttrs = .ok attrs →
        Executed core env (.patchRead id record patch)
          (core, [.patchWrite ⟨id, patch⟩ record attrs])
  | updated {call : PatchCall} {record : PortRecord} {attrs : PortAttrs} {sw : Switch}
      {tasks : List Task} : core.sw.updatePortAttrs call.id attrs = .ok sw →
      (∀ next ∈ tasks, next = .patchSubs call record.port attrs) →
        Executed core env (.patchWrite call record attrs)
          ({ core with sw := sw }, tasks)
  | listed {call : PatchCall} {handle : Nat} {attrs : PortAttrs} :
      Executed core env (.patchSubs call handle attrs)
        (core.patchSubs env call handle attrs)
  | missed {call : PatchCall} {id : String} {rest : List String} {attrs : PortAttrs} :
      Executed core env (.patchEach call (id :: rest) attrs)
        (core, [.patchEach call rest attrs])
  | copied {call : PatchCall} {id : String} {rest : List String} {attrs : PortAttrs}
      {sw : Switch} : core.sw.updatePortAttrs id attrs = .ok sw →
      Executed core env (.patchEach call (id :: rest) attrs)
        ({ core with sw := sw }, [.patchEach call rest attrs])

theorem executed_halt (pumps : List PumpRef) (next : Continuation) :
    Executed core env (.halt pumps next) (core.halt pumps next) := by
  cases pumps with
  | nil =>
    cases next with
    | «return» => exact .idle _
    | portDown id source => exact .downNext
    | readopt handle => exact .readoptNext
  | cons pump rest =>
    simp only [halt]
    split
    · exact .skipped
    · rename_i hstop
      exact .halted hstop

/-- A refused connection leaves nothing to do, and a closed port refuses. -/
theorem acceptSession_open {port : Transport} {occupy : Bool}
    (h : (port.acceptSession occupy).2 ≠ .refused) : port.closed = false := by
  unfold acceptSession at h
  split at h
  · exact absurd rfl h
  · rename_i hopen
    simpa using hopen

theorem executed_connect (peer : String) :
    Executed core env (.connect handle peer) (core.connect handle peer) := by
  dsimp only [connect]
  split
  · rename_i hk
    dsimp only [addSub]
    split
    · exact .idle _
    rename_i hopen
    split
    · exact .idle _
    · rename_i hfree
      exact .accepted hk (by simpa using hopen) hfree
  · rename_i mode _ hk
    refine .adopted hk fun next hnext => ?_
    split at hnext
    · rename_i index hkicks
      exact ⟨index, hkicks, List.mem_singleton.mp hnext⟩
    · cases hnext
  · rename_i hk
    split
    · exact .idle _
    · exact .heard hk
  · rename_i hk
    refine .sessionAccepted hk fun next hnext => ?_
    split at hnext
    · cases hnext
    · rename_i hadopted
      refine ⟨acceptSession_open (by rw [hadopted]; exact Accepted.noConfusion), .inl ?_⟩
      exact List.mem_singleton.mp hnext
    · rename_i index hkicks
      refine ⟨acceptSession_open (by rw [hkicks]; exact Accepted.noConfusion), .inr ?_⟩
      exact ⟨index, List.mem_singleton.mp hnext⟩
  · exact .idle _

theorem executed_reaccept : Executed core env (.readopt handle) (core.reaccept handle) := by
  dsimp only [reaccept]
  split
  · rename_i hk
    split
    · exact .idle _
    · rename_i hopen
      simp only [Bool.or_eq_true, not_or, Bool.not_eq_true] at hopen
      exact .reaccepted hk hopen.1
  · rename_i hk
    exact .readopted hk

theorem executed_disconnect (pump : PumpRef) :
    Executed core env (.disconnect pump) (core.disconnect pump) := by
  dsimp only [disconnect]
  split
  · rename_i hk
    split
    · exact .idle _
    · rename_i hopen
      exact .linkGone hk (by simpa using hopen)
  rename_i hk
  split
  · exact .idle _
  rename_i hst
  split
  · rename_i hstart
    split
    · exact .idle _
    · rename_i hstop
      exact .lost hst hstart hstop hk
  · exact .idle _

theorem executed (ok : Bool) (task : Task) :
    Executed core env task (core.exec env ok task) := by
  cases task with
  | createPort req =>
    simp only [exec, createPort]
    split
    · rename_i hval _ hfree
      exact .created hval hfree
    · exact .idle _
  | build req =>
    simp only [exec, build]
    split
    · exact .idle _
    rename_i hattrs
    split
    · exact .idle _
    rename_i htransport
    split
    · exact .built hattrs htransport
    · exact .idle _
  | register req handle =>
    simp only [exec, register]
    split
    · exact .idle _
    rename_i hattrs
    split
    · exact .refused
    · rename_i hadd
      exact .registered hattrs hadd
  | discard handle => exact .discarded
  | store req handle => exact .stored
  | delete id cause =>
    simp only [exec, delete]
    split
    · exact .idle _
    · rename_i hr
      exact .deleted hr
  | remove id =>
    simp only [exec, remove]
    split
    · exact .idle _
    · rename_i hptr
      exact .removed hptr
  | close id handle => exact .closed
  | halt pumps next => exact executed_halt core env pumps next
  | down id source => exact .flushed
  | hook id source => exact .hooked
  | release id source record =>
    cases record with
    | none => exact .idle _
    | some found =>
      simp only [exec, release]
      split
      · rename_i hauto
        exact .released hauto
      · exact .idle _
  | check id source handle =>
    simp only [exec, check]
    split
    · exact .idle _
    · rename_i hoffline
      exact .checked (by simpa using hoffline)
  | exit handle =>
    simp only [exec, exit]
    split
    · rename_i hk
      exact .dropped hk
    · rename_i hk
      exact .exited hk
  | readopt handle => exact executed_reaccept core env handle
  | adopt handle =>
    simp only [exec, adoptSession]
    split
    · rename_i hk
      exact .sessionMade hk
    · exact .idle _
  | ready session =>
    simp only [exec, ready]
    split
    · rename_i hk
      split
      · exact .sessionUp hk
      · exact .idle _
    · exact .idle _
  | enrol server sub attrs =>
    simp only [exec, enrol]
    split
    · exact .spurned
    · rename_i hadd
      exact .enrolled hadd
  | forget server sub =>
    simp only [exec, forget]
    split
    · rename_i hk
      exact .forgot hk
    · exact .idle _
  | connect handle peer => exact executed_connect core env handle peer
  | disconnect pump => exact executed_disconnect core env pump
  | patchPort id patch =>
    simp only [exec, patchPort]
    split
    · exact .idle _
    · rename_i hr
      exact .found hr
  | patchRead id record patch =>
    simp only [exec, patchRead]
    split
    · exact .idle _
    rename_i hptr
    split
    · exact .idle _
    · rename_i happly
      exact .merged hptr happly
  | patchWrite call record attrs =>
    simp only [exec, patchWrite]
    split
    · exact .idle _
    rename_i hupd
    refine .updated hupd fun next hnext => ?_
    split at hnext
    · exact List.mem_singleton.mp hnext
    · cases hnext
  | patchSubs call handle attrs => exact .listed
  | patchEach call ids attrs =>
    cases ids with
    | nil => exact .idle _
    | cons id rest =>
      simp only [exec, patchEach]
      cases hupd : core.sw.updatePortAttrs id attrs with
      | error reason => exact .missed
      | ok sw => exact .copied hupd

end Core

/-! ## References -/

def Continuation.handles : Continuation → List Nat
  | .return => []
  | .portDown _ source => [source]
  | .readopt handle => [handle]

def Task.handles : Task → List Nat
  | .register _ handle | .discard handle | .store _ handle => [handle]
  | .delete _ cause => cause.toList
  | .close _ handle => [handle]
  | .halt pumps next => pumps.map (·.handle) ++ next.handles
  | .down _ source | .hook _ source => [source]
  | .release _ source record => source :: record.toList.map (·.port)
  | .check _ source handle => [source, handle]
  | .exit handle | .readopt handle | .adopt handle => [handle]
  | .enrol _ sub _ => [sub]
  | _ => []

namespace Core

inductive Holds (core : Core) (handle : Nat) : Prop
  | record {id : String} {record : PortRecord} :
      core.ports.get? id = some record → record.port = handle → Holds core handle
  | entry {id : String} : core.sw.handleOf id = some handle → Holds core handle
  | opened : (core.port handle).closed = false → Holds core handle
  | running {index : Nat} : (core.port handle).running index = true → Holds core handle
  | sub {server : Nat} {subID : String} :
      (core.port server).subs.get? subID = some handle → Holds core handle

/-- A section keeps identities and adds references only to the transports
named and to those it allocates. -/
structure Evolves (handles : List Nat) (before after : Core) : Prop where
  next : before.next ≤ after.next
  id : ∀ handle < before.next, (after.port handle).id = (before.port handle).id
  kind : ∀ handle < before.next, (after.port handle).kind = (before.port handle).kind
  wentDown : ∀ handle < before.next, (before.port handle).wentDown = true →
    (after.port handle).wentDown = true
  holds : ∀ handle, after.Holds handle →
    before.Holds handle ∨ handle ∈ handles ∨
      (before.next ≤ handle ∧ handle < after.next)

theorem Evolves.refl (handles : List Nat) (core : Core) : Evolves handles core core :=
  ⟨Nat.le_refl _, fun _ _ => rfl, fun _ _ => rfl, fun _ _ h => h, fun _ h => .inl h⟩

theorem Evolves.trans {handles : List Nat} {first second third : Core}
    (h : Evolves handles first second) (h' : Evolves handles second third) :
    Evolves handles first third where
  next := Nat.le_trans h.next h'.next
  id := fun handle hlt =>
    (h'.id handle (Nat.lt_of_lt_of_le hlt h.next)).trans (h.id handle hlt)
  kind := fun handle hlt =>
    (h'.kind handle (Nat.lt_of_lt_of_le hlt h.next)).trans (h.kind handle hlt)
  wentDown := fun handle hlt hdown =>
    h'.wentDown handle (Nat.lt_of_lt_of_le hlt h.next) (h.wentDown handle hlt hdown)
  holds := by
    intro handle hhold
    rcases h'.holds handle hhold with hsnd | hm | ⟨hle, hlt⟩
    · rcases h.holds handle hsnd with hfst | hm | ⟨hle, hlt⟩
      · exact .inl hfst
      · exact .inr (.inl hm)
      · exact .inr (.inr ⟨hle, Nat.lt_of_lt_of_le hlt h'.next⟩)
    · exact .inr (.inl hm)
    · exact .inr (.inr ⟨Nat.le_trans h.next hle, hlt⟩)

@[simp] theorem port_write_self :
    (core.write handle transport).port handle = transport := by
  simp [port, write]

variable {handle other : Nat} {core : Core} {transport : Transport} {sw : Switch}
variable {attrs : PortAttrs}

theorem port_write_of_ne (core : Core) (transport : Transport) (h : other ≠ handle) :
    (core.write handle transport).port other = core.port other := by
  simp [port, write, h]

@[simp] theorem port_alloc_self (core : Core) (transport : Transport) :
    (core.alloc transport).port core.next = transport := by
  simp [port, alloc]

theorem port_alloc_of_ne (core : Core) (transport : Transport) (h : other ≠ core.next) :
    (core.alloc transport).port other = core.port other := by
  simp [port, alloc, h]

/-- What holds of the transport written and of its old value holds everywhere. -/
theorem port_write_cases (core : Core) (handle : Nat) (transport : Transport)
    {motive : Nat → Transport → Transport → Prop}
    (hwritten : motive handle (core.port handle) transport)
    (hrest : ∀ other, motive other (core.port other) (core.port other)) (other : Nat) :
    motive other (core.port other) ((core.write handle transport).port other) := by
  by_cases ho : other = handle
  · subst other
    rw [port_write_self]
    exact hwritten
  · rw [port_write_of_ne core transport ho]
    exact hrest other

theorem fades_write {new : Nat → Prop} (h : (core.port handle).Fades new transport)
    (other : Nat) :
    (core.port other).Fades new ((core.write handle transport).port other) :=
  port_write_cases core handle transport
    (motive := fun _ before after => before.Fades new after) h (fun _ => .refl _) other

theorem holds_of_holds_write {new : Nat → Prop} (h : (core.port handle).Fades new transport)
    (hhold : (core.write handle transport).Holds other) : new other ∨ core.Holds other := by
  cases hhold with
  | record hr hp => exact .inr (.record hr hp)
  | entry he => exact .inr (.entry he)
  | opened hopen => exact .inr (.opened ((fades_write h other).closed hopen))
  | running hrun =>
    rcases (fades_write h other).running _ hrun with hopen | hran
    · exact .inr (.opened hopen)
    · exact .inr (.running hran)
  | sub hsub => exact ((fades_write h _).subs _ _ hsub).imp id .sub

theorem holds_of_holds_alloc (hsubs : transport.subs = .empty)
    (hhold : (core.alloc transport).Holds other) :
    other = core.next ∨ core.Holds other := by
  by_cases ho : other = core.next
  · exact .inl ho
  refine .inr ?_
  have hp := port_alloc_of_ne core transport ho
  cases hhold with
  | record hr hname => exact .record hr hname
  | entry he => exact .entry he
  | opened hopen =>
    rw [hp] at hopen
    exact .opened hopen
  | running hrun =>
    rw [hp] at hrun
    exact .running hrun
  | @sub server subID hsub =>
    by_cases hsrv : server = core.next
    · subst server
      simp [port_alloc_self, hsubs] at hsub
    · rw [port_alloc_of_ne core transport hsrv] at hsub
      exact .sub hsub

theorem evolves_write (core : Core) (handles : List Nat)
    (h : (core.port handle).Fades (fun _ => False) transport) :
    Evolves handles core (core.write handle transport) :=
  ⟨Nat.le_refl _, fun other _ => (fades_write h other).id,
    fun other _ => (fades_write h other).kind,
    fun other _ => (fades_write h other).wentDown,
    fun _ hhold => .inl ((holds_of_holds_write h hhold).resolve_left id)⟩

/-- A session may be adopted by a closed port, but the task names the port. -/
theorem evolves_install (core : Core) (handle : Nat) (started : Bool) :
    Evolves [handle] core (core.write handle ((core.port handle).install started)) := by
  have hkeeps {α : Type} (view : Transport → α)
      (h : ∀ port : Transport, view (port.install started) = view port) (other : Nat) :
      view ((core.write handle ((core.port handle).install started)).port other) =
        view (core.port other) :=
    port_write_cases core handle _ (motive := fun _ before after => view after = view before)
      (h _) (fun _ => rfl) other
  refine ⟨Nat.le_refl _, fun other _ => hkeeps (·.id) (fun _ => rfl) other,
    fun other _ => hkeeps (·.kind) (fun _ => rfl) other,
    fun other _ h => (hkeeps (·.wentDown) (fun _ => rfl) other).trans h, ?_⟩
  intro other hhold
  cases hhold with
  | record hr hp => exact .inl (.record hr hp)
  | entry he => exact .inl (.entry he)
  | opened hopen =>
    exact .inl (.opened ((hkeeps (·.closed) (fun _ => rfl) other).symm.trans hopen))
  | @running index hrun =>
    by_cases ho : other = handle
    · exact .inr (.inl (List.mem_singleton.mpr ho))
    · rw [port_write_of_ne core _ ho] at hrun
      exact .inl (.running hrun)
  | @sub server subID hsub =>
    rw [hkeeps (·.subs) (fun _ => rfl) server] at hsub
    exact .inl (.sub hsub)

theorem evolves_alloc (core : Core) (handles : List Nat) (hsubs : transport.subs = .empty) :
    Evolves handles core (core.alloc transport) := by
  have hp (other : Nat) (hlt : other < core.next) :
      (core.alloc transport).port other = core.port other :=
    port_alloc_of_ne core transport (Nat.ne_of_lt hlt)
  refine ⟨Nat.le_succ _, fun other hlt => by rw [hp other hlt],
    fun other hlt => by rw [hp other hlt],
    fun other hlt => by rw [hp other hlt]; exact id, ?_⟩
  intro other hhold
  rcases holds_of_holds_alloc hsubs hhold with rfl | hold
  · exact .inr (.inr ⟨Nat.le_refl _, Nat.lt_succ_self _⟩)
  · exact .inl hold

theorem evolves_switch (core : Core) {handles : List Nat}
    (h : ∀ id handle, sw.handleOf id = some handle →
      core.sw.handleOf id = some handle ∨ handle ∈ handles) :
    Evolves handles core { core with sw := sw } := by
  refine ⟨Nat.le_refl _, fun _ _ => rfl, fun _ _ => rfl, fun _ _ h => h, ?_⟩
  intro handle hhold
  cases hhold with
  | record hr hp => exact .inl (.record hr hp)
  | entry he => exact (h _ _ he).imp .entry .inl
  | opened hopen => exact .inl (.opened hopen)
  | running hrun => exact .inl (.running hrun)
  | sub hsub => exact .inl (.sub hsub)

theorem evolves_ports (core : Core) {handles : List Nat} {ports : GoMap String PortRecord}
    (h : ∀ id record, ports.get? id = some record →
      core.ports.get? id = some record ∨ record.port ∈ handles) :
    Evolves handles core { core with ports := ports } := by
  refine ⟨Nat.le_refl _, fun _ _ => rfl, fun _ _ => rfl, fun _ _ h => h, ?_⟩
  intro handle hhold
  cases hhold with
  | record hr hp =>
    subst hp
    exact (h _ _ hr).imp (fun hold => .record hold rfl) .inl
  | entry he => exact .inl (.entry he)
  | opened hopen => exact .inl (.opened hopen)
  | running hrun => exact .inl (.running hrun)
  | sub hsub => exact .inl (.sub hsub)

/-! ## Every section evolves the state -/

theorem transportFor_subs {req : PortRequest} (h : transportFor req attrs = some transport) :
    transport.subs = .empty := by
  unfold transportFor at h
  split at h <;> cases h <;> rfl

theorem evolves_addPort (halloc : core.sw.Allocated) {port : Port}
    (hadd : core.sw.addPort port attrs = .ok sw) :
    Evolves [port.handle] core { core with sw := sw } := by
  refine evolves_switch core ?_
  intro id other he
  rw [Switch.handleOf_addPort halloc hadd] at he
  split at he
  · cases he
    exact .inr (.head _)
  · exact .inl he

theorem evolves_portDown (core : Core) (handles : List Nat) (id : String) :
    Evolves handles core { core with sw := core.sw.portDown id } := by
  refine evolves_switch core ?_
  intro other handle he
  exact .inl he

theorem evolves_write_alloc (handles : List Nat) {server : Nat} {sub : Transport}
    (hfades : (core.port server).Fades (· = core.next) transport)
    (hsubs : sub.subs = .empty) :
    Evolves handles core ((core.write server transport).alloc sub) := by
  have hp (other : Nat) (hlt : other < core.next) :
      ((core.write server transport).alloc sub).port other =
        (core.write server transport).port other :=
    port_alloc_of_ne (core.write server transport) sub (Nat.ne_of_lt hlt)
  have hnew : core.next ≤ core.next ∧ core.next < core.next + 1 :=
    ⟨Nat.le_refl _, Nat.lt_succ_self _⟩
  refine ⟨Nat.le_succ _, ?_, ?_, ?_, ?_⟩
  · intro other hlt
    rw [hp other hlt]
    exact (fades_write hfades other).id
  · intro other hlt
    rw [hp other hlt]
    exact (fades_write hfades other).kind
  · intro other hlt
    rw [hp other hlt]
    exact (fades_write hfades other).wentDown
  intro other hhold
  rcases holds_of_holds_alloc hsubs hhold with rfl | hwritten
  · exact .inr (.inr hnew)
  rcases holds_of_holds_write hfades hwritten with rfl | hold
  · exact .inr (.inr hnew)
  · exact .inl hold

theorem evolves_updatePortAttrs {id : String}
    (hupd : core.sw.updatePortAttrs id attrs = .ok sw) :
    Evolves [] core { core with sw := sw } := by
  refine evolves_switch core ?_
  intro other handle he
  rw [Switch.handleOf_updatePortAttrs hupd] at he
  exact .inl he

theorem evolves_exec (halloc : core.sw.Allocated) (env : Env) (ok : Bool) (task : Task) :
    Evolves task.handles core (core.exec env ok task).1 := by
  have hexec := executed core env ok task
  generalize core.exec env ok task = result at hexec ⊢
  cases hexec with
  | built _ htransport => exact evolves_alloc core _ (transportFor_subs htransport)
  | registered _ hadd => exact evolves_addPort halloc hadd
  | discarded | closed => exact evolves_write core _ (fades_close _ _ _)
  | stored =>
    refine evolves_ports core ?_
    intro id record hr
    rw [GoMap.get?_set] at hr
    split at hr
    · cases hr
      exact .inr (.head _)
    · exact .inl hr
  | deleted _ =>
    refine evolves_ports core ?_
    intro other record hr
    rw [GoMap.get?_erase] at hr
    split at hr
    · cases hr
    · exact .inl hr
  | removed _ =>
    refine evolves_switch core ?_
    intro other handle he
    rw [Switch.handleOf_unregister] at he
    split at he
    · cases he
    · exact .inl he
  | halted hstop | lost _ _ hstop _ => exact evolves_write core _ (fades_stop hstop)
  | flushed => exact evolves_portDown core _ _
  | dropped _ | forgot _ => exact evolves_write core _ (fades_dropSub _ _ _)
  | exited _ => exact evolves_write core _ (fades_onExit _)
  | readopted _ => exact evolves_write core _ (fades_readopt _)
  | sessionMade _ => exact evolves_install core _ true
  | sessionUp _ => exact evolves_write core _ (fades_up _ true)
  | enrolled hadd =>
    exact (evolves_addPort halloc hadd).trans (evolves_write _ _ (fades_start _))
  | accepted _ _ _ => exact evolves_write_alloc [] (fades_keepSub _ _ _ _) rfl
  | adopted _ _ => exact evolves_write core _ (fades_adopt _ _)
  | heard _ => exact evolves_write core _ (fades_hear _ _)
  | sessionAccepted _ _ => exact evolves_write core _ (fades_acceptSession _ _)
  | updated hupd _ | copied hupd => exact evolves_updatePortAttrs hupd
  | listed => exact evolves_write core _ (fades_attrs _ _)
  | _ => exact .refl _ core

end Core

end GvSwitch.Manager
