import GvSwitch.Manager.Sections

/-!
# What a section of a task can do

What `Core.exec` does to the switch and to the port table, which transport it
allocates, and which tasks it leaves pending.
-/

namespace GvSwitch.Manager

open Foundation SwitchCore Ports Transport Switch

namespace Core

/-! ## The effects of a section -/

inductive SwitchEffect (core : Core) (task : Task) (after : Switch) : Prop
  | standing : Switch.Standing (fun _ => False) core.sw after → SwitchEffect core task after
  | registers {req : PortRequest} {handle : Nat} {attrs : PortAttrs} :
      task = .register req handle →
        core.sw.addPort ⟨req.identifier, handle⟩ attrs = .ok after →
          SwitchEffect core task after
  | enrols {server sub : Nat} {attrs : PortAttrs} :
      task = .enrol server sub attrs →
        core.sw.addPort ⟨(core.port sub).id, sub⟩ attrs = .ok after →
          SwitchEffect core task after
  | removes {id : String} {ptr : Ptr} :
      task = .remove id → core.sw.ports.get? id = some ptr →
        after = core.sw.unregister id ptr → SwitchEffect core task after
  | writes {call : PatchCall} {record : PortRecord} {attrs : PortAttrs} :
      task = .patchWrite call record attrs →
        core.sw.updatePortAttrs call.id attrs = .ok after → SwitchEffect core task after
  | copies {call : PatchCall} {id : String} {rest : List String} {attrs : PortAttrs} :
      task = .patchEach call (id :: rest) attrs →
        core.sw.updatePortAttrs id attrs = .ok after → SwitchEffect core task after

inductive PortsEffect (core : Core) (task : Task) (after : GoMap String PortRecord) : Prop
  | same : after = core.ports → PortsEffect core task after
  | stores {req : PortRequest} {handle : Nat} : task = .store req handle →
      after = core.ports.set req.identifier ⟨req, handle⟩ → PortsEffect core task after
  | deletes {id : String} {cause : Option Nat} {record : PortRecord} :
      task = .delete id cause → core.ports.get? id = some record →
        after = core.ports.erase id → PortsEffect core task after

/-- On the heap of transports: a new one is what a request asks for, or a
subport. -/
inductive Allocates (core : Core) (task : Task) (after : Core) : Prop
  | port {req : PortRequest} : task = .build req → after.next = core.next + 1 →
      (after.port core.next).id = req.identifier →
        (∀ server anonID, (after.port core.next).kind ≠ .subPort server anonID) →
          Allocates core task after
  | sub {server : Nat} {peer : String} : task = .connect server peer →
      after.next = core.next + 1 →
        validateIdentifier (after.port core.next).id = false → Allocates core task after

/-- A section writes transports, and touches one table at most. -/
inductive Effect (core : Core) (task : Task) (after : Core) : Prop
  | writes : after.sw = core.sw → after.ports = core.ports →
      after.next = core.next → Effect core task after
  | switches : SwitchEffect core task after.sw → after.ports = core.ports →
      after.next = core.next → Effect core task after
  | tables : PortsEffect core task after.ports → after.sw = core.sw →
      after.next = core.next → Effect core task after
  | allocates : Allocates core task after → after.sw = core.sw →
      after.ports = core.ports → Effect core task after

variable {req : PortRequest} {core after : Core} {task : Task} {id : String} {handle : Nat}
variable {port : Transport}

theorem transportFor_spec {attrs : PortAttrs} {transport : Transport}
    (h : transportFor req attrs = some transport) :
    transport.id = req.identifier ∧
      ∀ server anonID, transport.kind ≠ .subPort server anonID := by
  unfold transportFor at h
  split at h <;> cases h <;> exact ⟨rfl, nofun⟩

theorem validateIdentifier_subName (port : Transport) (peer : String) :
    validateIdentifier (port.subName peer).1 = false := by
  unfold subName
  split <;> exact validateIdentifier_sub _ _

theorem port_write_alloc_self (core : Core) (server : Nat) (transport sub : Transport) :
    ((core.write server transport).alloc sub).port core.next = sub :=
  port_alloc_self (core.write server transport) sub

theorem effect_exec (core : Core) (env : Env) (ok : Bool) (task : Task) :
    Effect core task (core.exec env ok task).1 := by
  have hexec := executed core env ok task
  generalize core.exec env ok task = result at hexec ⊢
  cases hexec with
  | built _ htransport =>
    obtain ⟨hid, hk⟩ := transportFor_spec htransport
    refine .allocates (.port rfl rfl ?_ ?_) rfl rfl
    · rw [port_alloc_self]
      exact hid
    · rw [port_alloc_self]
      exact hk
  | registered _ hadd => exact .switches (.registers rfl hadd) rfl rfl
  | stored => exact .tables (.stores rfl rfl) rfl rfl
  | deleted hr => exact .tables (.deletes rfl hr rfl) rfl rfl
  | removed hptr => exact .switches (.removes rfl hptr rfl) rfl rfl
  | @flushed id =>
    exact .switches (.standing (quiet_flushPort core.sw id).standing) rfl rfl
  | enrolled hadd => exact .switches (.enrols rfl hadd) rfl rfl
  | accepted _ _ _ =>
    refine .allocates (.sub rfl rfl ?_) rfl rfl
    rw [port_write_alloc_self]
    exact validateIdentifier_subName _ _
  | updated hupd _ => exact .switches (.writes rfl hupd) rfl rfl
  | copied hupd => exact .switches (.copies rfl hupd) rfl rfl
  | _ => exact .writes rfl rfl rfl

theorem Effect.sw (h : Effect core task after) : SwitchEffect core task after.sw := by
  cases h with
  | writes hswitch _ _ | tables _ hswitch _ | allocates _ hswitch _ =>
    rw [hswitch]
    exact .standing (.refl _)
  | switches hswitch _ _ => exact hswitch

theorem Effect.ports (h : Effect core task after) : PortsEffect core task after.ports := by
  cases h with
  | writes _ hports _ | switches _ hports _ | allocates _ _ hports => exact .same hports
  | tables hports _ _ => exact hports

theorem Effect.next (h : Effect core task after) :
    after.next = core.next ∨ Allocates core task after := by
  cases h with
  | writes _ _ hnext | switches _ _ hnext | tables _ _ hnext => exact .inl hnext
  | allocates halloc _ _ => exact .inr halloc

theorem SwitchEffect.allocated {after : Switch} (h : SwitchEffect core task after)
    (halloc : core.sw.Allocated) : after.Allocated := by
  cases h with
  | standing hstand => exact hstand.allocated halloc
  | registers _ hadd | enrols _ hadd => exact halloc.addPort hadd
  | removes _ _ ha =>
    rw [ha]
    exact halloc.unregister _ _
  | writes _ hupd | copies _ hupd => exact halloc.updatePortAttrs hupd

theorem SwitchEffect.handleOf {after : Switch} (h : SwitchEffect core task after)
    (halloc : core.sw.Allocated) (he : after.handleOf id = some handle) :
    core.sw.handleOf id = some handle ∨
      (∃ req, task = .register req handle ∧ id = req.identifier) ∨
      ∃ server attrs, task = .enrol server handle attrs ∧ id = (core.port handle).id := by
  cases h with
  | standing hstand =>
    rw [hstand.handleOf] at he
    exact .inl he
  | registers htask hadd =>
    rw [handleOf_addPort halloc hadd] at he
    split at he
    · rename_i hid
      cases he
      exact .inr (.inl ⟨_, htask, hid⟩)
    · exact .inl he
  | enrols htask hadd =>
    rw [handleOf_addPort halloc hadd] at he
    split at he
    · rename_i hid
      cases he
      exact .inr (.inr ⟨_, _, htask, hid⟩)
    · exact .inl he
  | removes _ _ ha =>
    rw [ha, handleOf_unregister] at he
    split at he
    · cases he
    · exact .inl he
  | writes _ hupd | copies _ hupd =>
    rw [handleOf_updatePortAttrs hupd] at he
    exact .inl he

/-! ## The tasks a section leaves -/

/-- `Spawned core after task next`: executing `task` took the shared state from
`core` to `after` and left `next` pending. -/
inductive Spawned (core after : Core) : Task → Task → Prop
  | build {req : PortRequest} : validateIdentifier req.identifier = true →
      core.ports.get? req.identifier = none →
        Spawned core after (.createPort req) (.build req)
  | register {req : PortRequest} : core.next < after.next →
      Spawned core after (.build req) (.register req core.next)
  | discard {req : PortRequest} {handle : Nat} :
      Spawned core after (.register req handle) (.discard handle)
  | store {req : PortRequest} {handle : Nat} :
      Spawned core after (.register req handle) (.store req handle)
  | remove {id : String} {cause : Option Nat} {record : PortRecord} :
      core.ports.get? id = some record →
        Spawned core after (.delete id cause) (.remove id)
  | close {id : String} {handle : Nat} : core.sw.handleOf id = some handle →
      Spawned core after (.remove id) (.close id handle)
  | haltDiscarded {handle : Nat} {pumps : List PumpRef} :
      (∀ pump ∈ pumps, core.Holds pump.handle ∨ pump.handle = handle) →
        Spawned core after (.discard handle) (.halt pumps .return)
  | haltClosed {id : String} {handle : Nat} {pumps : List PumpRef} :
      (∀ pump ∈ pumps, core.Holds pump.handle ∨ pump.handle = handle) →
        Spawned core after (.close id handle) (.halt pumps (.portDown id handle))
  | haltKicked {handle : Nat} {peer : String} {index : Nat} :
      (core.port handle).closed = false →
        Spawned core after (.connect handle peer) (.halt [⟨handle, index⟩] (.readopt handle))
  | haltRest {pump : PumpRef} {rest : List PumpRef} {next : Continuation} :
      Spawned core after (.halt (pump :: rest) next) (.halt rest next)
  | exitHalted {pump : PumpRef} {rest : List PumpRef} {next : Continuation} :
      Spawned core after (.halt (pump :: rest) next) (.exit pump.handle)
  | exitLost {pump : PumpRef} : (core.port pump.handle).running pump.index = true →
      Spawned core after (.disconnect pump) (.exit pump.handle)
  | exitGone {pump : PumpRef} : (core.port pump.handle).kind = .afxdp →
      (core.port pump.handle).closed = false →
        Spawned core after (.disconnect pump) (.exit pump.handle)
  | adoptAccepted {handle : Nat} {peer : String} : (core.port handle).closed = false →
      Spawned core after (.connect handle peer) (.adopt handle)
  | adoptAgain {handle : Nat} : Spawned core after (.readopt handle) (.adopt handle)
  | downClosed {id : String} {source : Nat} :
      Spawned core after (.halt [] (.portDown id source)) (.down id source)
  | readopt {handle : Nat} :
      Spawned core after (.halt [] (.readopt handle)) (.readopt handle)
  | downExited {handle : Nat} : (after.port handle).wentDown = true →
      Spawned core after (.exit handle) (.down (core.port handle).id handle)
  | removeSub {handle server : Nat} {anonID : Option Nat} :
      (core.port handle).kind = .subPort server anonID →
        Spawned core after (.exit handle) (.remove (core.port handle).id)
  | hook {id : String} {source : Nat} : Spawned core after (.down id source) (.hook id source)
  | release {id : String} {source : Nat} :
      Spawned core after (.hook id source) (.release id source (core.ports.get? id))
  | check {id : String} {source : Nat} {found : PortRecord} :
      found.autoRemove = true →
        Spawned core after (.release id source (some found)) (.check id source found.port)
  | delete {id : String} {source handle : Nat} : (core.port handle).online = false →
      Spawned core after (.check id source handle) (.delete id (some source))
  | enrol {server : Nat} {peer : String} {attrs : PortAttrs} : core.next < after.next →
      Spawned core after (.connect server peer) (.enrol server core.next attrs)
  | forget {server sub : Nat} {attrs : PortAttrs} :
      Spawned core after (.enrol server sub attrs) (.forget server sub)
  | patchRead {id : String} {record : PortRecord} {patch : PortPatch} :
      core.ports.get? id = some record →
        Spawned core after (.patchPort id patch) (.patchRead id record patch)
  | patchWrite {id : String} {record : PortRecord} {patch : PortPatch} {ptr : Ptr}
      {attrs : PortAttrs} : core.sw.ports.get? id = some ptr →
      patch.apply (core.sw.entry ptr).attrs.toPortAttrs = .ok attrs →
        Spawned core after (.patchRead id record patch) (.patchWrite ⟨id, patch⟩ record attrs)
  | patchSubs {call : PatchCall} {record : PortRecord} {attrs : PortAttrs} :
      Spawned core after (.patchWrite call record attrs)
        (.patchSubs call record.port attrs)
  | patchEach {call : PatchCall} {handle : Nat} {attrs : PortAttrs} {ids : List String} :
      (∀ id ∈ ids, id ∈ (core.port handle).subs.keys) →
        Spawned core after (.patchSubs call handle attrs) (.patchEach call ids attrs)
  | patchRest {call : PatchCall} {id : String} {rest : List String} {attrs : PortAttrs} :
      Spawned core after (.patchEach call (id :: rest) attrs) (.patchEach call rest attrs)

theorem close_handles {order : List String → List String} {pump : PumpRef}
    (h : pump ∈ ((core.port handle).close handle order).2) :
    core.Holds pump.handle ∨ pump.handle = handle := by
  have hown : pump ∈ (core.port handle).pump.toList.map (PumpRef.mk handle) →
      pump.handle = handle := by
    intro hm
    obtain ⟨index, -, rfl⟩ := List.mem_map.mp hm
    rfl
  unfold Transport.close at h
  split at h
  · split at h
    · cases h
    rcases List.mem_append.mp h with hm | hm
    · exact .inr (hown hm)
    obtain ⟨subID, -, hsub⟩ := List.mem_filterMap.mp hm
    obtain ⟨sub, hh, rfl⟩ := Option.map_eq_some_iff.mp hsub
    exact .inl (.sub hh)
  · split at h
    · cases h
    · exact .inr (hown h)
  · exact .inr (hown h)

theorem onExit_wentDown (h : port.onExit.2 = true) : port.onExit.1.wentDown = true := by
  unfold onExit at h ⊢
  split at h
  · rfl
  · split at h
    · cases h
    split at h
    · cases h
    · simp [*]
  · split at h
    · cases h
    split at h
    · cases h
    · simp_all
  · rfl
  · cases h
  · cases h

theorem adopt_kicks {kickOld : Bool} {index : Nat}
    (h : (port.adopt kickOld).2 = .kicks index) : port.closed = false := by
  unfold adopt at h
  split at h
  · cases h
  · rename_i hopen
    simpa using hopen

theorem running_of_stop {stopped : Transport} {index : Nat}
    (h : port.stop index = some stopped) : port.running index = true := by
  obtain ⟨state, hst, hrun, -⟩ := stop_eq_some h
  simp [running, hst, hrun]

theorem spawned_exec {env : Env} {ok : Bool} {next : Task}
    (h : next ∈ (core.exec env ok task).2) :
    Spawned core (core.exec env ok task).1 task next := by
  have hexec := executed core env ok task
  generalize core.exec env ok task = result at hexec h ⊢
  have hsing {only : Task} (hm : next ∈ [only]) (honly : Spawned core result.1 task only) :
      Spawned core result.1 task next := by
    rw [List.mem_singleton.mp hm]
    exact honly
  cases hexec with
  | created hval hfree => exact hsing h (.build hval hfree)
  | built _ _ => exact hsing h (.register (Nat.lt_succ_self _))
  | refused => exact hsing h .discard
  | registered _ _ => exact hsing h .store
  | discarded => exact hsing h (.haltDiscarded fun _ => close_handles)
  | deleted hr => exact hsing h (.remove hr)
  | removed hptr => exact hsing h (.close (handleOf_of_get? hptr))
  | closed => exact hsing h (.haltClosed fun _ => close_handles)
  | downNext => exact hsing h .downClosed
  | readoptNext => exact hsing h .readopt
  | skipped => exact hsing h .haltRest
  | halted _ =>
    rcases List.mem_cons.mp h with rfl | hrest
    · exact .exitHalted
    · exact hsing hrest .haltRest
  | flushed => exact hsing h .hook
  | hooked => exact hsing h .release
  | released hauto => exact hsing h (.check hauto)
  | checked hoffline => exact hsing h (.delete hoffline)
  | dropped hk => exact hsing h (.removeSub hk)
  | exited _ =>
    dsimp only at h
    split at h
    · rename_i hdown
      refine hsing h (.downExited ?_)
      rw [port_write_self]
      exact onExit_wentDown hdown
    · cases h
  | spurned => exact hsing h .forget
  | accepted _ _ _ => exact hsing h (.enrol (Nat.lt_succ_self _))
  | adopted _ htasks =>
    obtain ⟨index, hkicks, rfl⟩ := htasks next h
    exact .haltKicked (adopt_kicks hkicks)
  | reaccepted _ _ => exact hsing h .adoptAgain
  | sessionAccepted _ htasks =>
    obtain ⟨hopen, rfl | ⟨index, rfl⟩⟩ := htasks next h
    · exact .adoptAccepted hopen
    · exact .haltKicked hopen
  | linkGone hk hopen => exact hsing h (.exitGone hk hopen)
  | lost _ _ hstop _ => exact hsing h (.exitLost (running_of_stop hstop))
  | found hr => exact hsing h (.patchRead hr)
  | merged hptr happly => exact hsing h (.patchWrite hptr happly)
  | updated _ htasks =>
    rw [htasks next h]
    exact .patchSubs
  | listed =>
    exact hsing h (.patchEach fun id hid => (env.mem_range _ id).mp hid)
  | missed | copied _ => exact hsing h .patchRest
  | _ => cases h

theorem Spawned.names {next : Task} (h : Spawned core after task next)
    (hm : handle ∈ next.handles) :
    core.Holds handle ∨ handle ∈ task.handles ∨
      (core.next ≤ handle ∧ handle < after.next) := by
  have hcl {target : Nat} {pumps : List PumpRef}
      (hpumps : ∀ pump ∈ pumps, core.Holds pump.handle ∨ pump.handle = target)
      (hn : handle ∈ pumps.map (·.handle)) :
      core.Holds handle ∨ handle ∈ [target] ∨
        (core.next ≤ handle ∧ handle < after.next) := by
    obtain ⟨pump, hpump, rfl⟩ := List.mem_map.mp hn
    exact (hpumps pump hpump).imp_right fun heq => .inl (List.mem_singleton.mpr heq)
  cases h with
  | register hlt | enrol hlt =>
    cases List.mem_singleton.mp hm
    exact .inr (.inr ⟨Nat.le_refl _, hlt⟩)
  | close he =>
    cases List.mem_singleton.mp hm
    exact .inl (.entry he)
  | haltDiscarded hpumps =>
    rw [Task.handles, Continuation.handles, List.append_nil] at hm
    exact hcl hpumps hm
  | haltClosed hpumps =>
    rcases List.mem_append.mp hm with hpump | hsrc
    · exact hcl hpumps hpump
    · exact .inr (.inl hsrc)
  | @haltKicked server _ index hopen =>
    have hsrv : handle = server := by
      simpa [Task.handles, Continuation.handles] using hm
    rw [hsrv]
    exact .inl (.opened hopen)
  | haltRest => exact .inr (.inl (.tail _ hm))
  | exitHalted | delete _ =>
    cases List.mem_singleton.mp hm
    exact .inr (.inl (.head _))
  | exitLost hrun =>
    cases List.mem_singleton.mp hm
    exact .inl (.running hrun)
  | exitGone _ hopen | adoptAccepted hopen =>
    cases List.mem_singleton.mp hm
    exact .inl (.opened hopen)
  | adoptAgain | discard | store | downClosed | downExited _ | readopt | hook | check _ =>
    exact .inr (.inl hm)
  | release =>
    rcases List.mem_cons.mp hm with rfl | hf
    · exact .inr (.inl (.head _))
    · obtain ⟨record, hr, rfl⟩ := List.mem_map.mp hf
      exact .inl (.record (Option.mem_toList.mp hr) rfl)
  | _ => cases hm

end Core

end GvSwitch.Manager
