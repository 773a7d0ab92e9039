import GvSwitch.Manager.Typing

/-!
# What a section does to a transport

`Core.exec` on the heap of transports: how each transport is rewritten, by which
task, and what a new one looks like.
-/

namespace GvSwitch.Manager

open Foundation SwitchCore Ports Transport

namespace Core

inductive Rewritten (core : Core) (task : Task) (handle : Nat) : Transport → Prop
  | same : Rewritten core task handle (core.port handle)
  | closed {order : List String → List String} :
      (∀ keys, (order keys).Perm keys) →
      (task = .discard handle ∨ ∃ id, task = .close id handle) →
        Rewritten core task handle ((core.port handle).close handle order).1
  | halted {index : Nat} {rest : List PumpRef} {next : Continuation} {stopped : Transport} :
      task = .halt (⟨handle, index⟩ :: rest) next →
        (core.port handle).stop index = some stopped → Rewritten core task handle stopped
  | lost {index : Nat} {state : Pump} {stopped : Transport} :
      task = .disconnect ⟨handle, index⟩ → (core.port handle).pumps[index]? = some state →
        state.started = true → (core.port handle).stop index = some stopped →
          (core.port handle).kind ≠ .afxdp → Rewritten core task handle stopped
  | exited : task = .exit handle →
      (∀ server anonID, (core.port handle).kind ≠ .subPort server anonID) →
        Rewritten core task handle (core.port handle).onExit.1
  | dropped {sub : Nat} {anonID : Option Nat} :
      task = .exit sub → (core.port sub).kind = .subPort handle anonID →
        Rewritten core task handle ((core.port handle).dropSub (core.port sub).id anonID)
  | forgot {sub server : Nat} {anonID : Option Nat} :
      task = .forget handle sub → (core.port sub).kind = .subPort server anonID →
        Rewritten core task handle ((core.port handle).dropSub (core.port sub).id anonID)
  | readopted : task = .readopt handle →
      (∀ mode, (core.port handle).kind ≠ .vhostUser mode) →
        Rewritten core task handle (core.port handle).readopt
  | sessionAccepted {peer : String} {mode : ReplacingMode} {occupy : Bool} :
      task = .connect handle peer → (core.port handle).kind = .vhostUser (some mode) →
        Rewritten core task handle ((core.port handle).acceptSession occupy).1
  | sessionMade {mode : Option ReplacingMode} :
      task = .adopt handle → (core.port handle).kind = .vhostUser mode →
        Rewritten core task handle ((core.port handle).install true)
  | sessionUp {index : Nat} {mode : Option ReplacingMode} :
      task = .ready ⟨handle, index⟩ → (core.port handle).kind = .vhostUser mode →
        Rewritten core task handle { core.port handle with up := true }
  | enrolled {server : Nat} {attrs : PortAttrs} {sw : Switch} :
      task = .enrol server handle attrs →
        core.sw.addPort ⟨(core.port handle).id, handle⟩ attrs = .ok sw →
          Rewritten core task handle (core.port handle).start
  | adopted {peer : String} {mode : ReplacingMode} {kickOld : Bool} :
      task = .connect handle peer → (core.port handle).kind = .streamServer mode →
        Rewritten core task handle ((core.port handle).adopt kickOld).1
  | kept {peer : String} :
      task = .connect handle peer → (core.port handle).kind = .streamServer .multiplex →
        (core.port handle).closed = false →
          (core.port handle).subs.get? ((core.port handle).subName peer).1 = none →
            Rewritten core task handle ((core.port handle).keepSub
              ((core.port handle).subName peer).1 ((core.port handle).subName peer).2 core.next)
  | heard {peer : String} {mode : ReplacingMode} :
      task = .connect handle peer → (core.port handle).kind = .dgramServer mode →
        Rewritten core task handle ((core.port handle).hear peer)
  | patched {call : PatchCall} {attrs : PortAttrs} : task = .patchSubs call handle attrs →
      Rewritten core task handle { core.port handle with attrs := attrs }

variable {core : Core} {task : Task} {handle index : Nat} {port : Transport}

theorem rewritten_write {target : Nat} {transport : Transport}
    (h : Rewritten core task target transport) (handle : Nat) :
    Rewritten core task handle ((core.write target transport).port handle) :=
  port_write_cases core target transport
    (motive := fun other _ after => Rewritten core task other after) h (fun _ => .same) handle

theorem rewritten_exec (core : Core) (env : Env) (ok : Bool) (task : Task)
    (hold : handle ≠ core.next ∨ (core.exec env ok task).1.next = core.next) :
    Rewritten core task handle ((core.exec env ok task).1.port handle) := by
  have hexec := executed core env ok task
  generalize core.exec env ok task = result at hexec hold ⊢
  cases hexec with
  | built _ _ =>
    have hne : handle ≠ core.next := hold.resolve_right (Nat.succ_ne_self core.next)
    rw [port_alloc_of_ne core _ hne]
    exact .same
  | discarded => exact rewritten_write (.closed env.range_perm (.inl rfl)) handle
  | closed => exact rewritten_write (.closed env.range_perm (.inr ⟨_, rfl⟩)) handle
  | halted hstop => exact rewritten_write (.halted rfl hstop) handle
  | dropped hk => exact rewritten_write (.dropped rfl hk) handle
  | exited hk => exact rewritten_write (.exited rfl hk) handle
  | readopted hk => exact rewritten_write (.readopted rfl hk) handle
  | sessionAccepted hk _ => exact rewritten_write (.sessionAccepted rfl hk) handle
  | sessionMade hk => exact rewritten_write (.sessionMade rfl hk) handle
  | sessionUp hk => exact rewritten_write (.sessionUp rfl hk) handle
  | @enrolled server sub attrs _ hadd =>
    have hstart : Rewritten core (.enrol server sub attrs) sub (core.port sub).start :=
      .enrolled rfl hadd
    exact rewritten_write hstart handle
  | forgot hk => exact rewritten_write (.forgot rfl hk) handle
  | @accepted server _ hk hopen hfree =>
    have hne : handle ≠ core.next := hold.resolve_right (Nat.succ_ne_self core.next)
    dsimp only
    rw [port_alloc_of_ne (core.write server _) _ hne]
    exact rewritten_write (.kept rfl hk hopen hfree) handle
  | adopted hk _ => exact rewritten_write (.adopted rfl hk) handle
  | heard hk => exact rewritten_write (.heard rfl hk) handle
  | lost hst hstart hstop hk =>
    exact rewritten_write (.lost rfl hst hstart hstop hk) handle
  | listed => exact rewritten_write (.patched rfl) handle
  | _ => exact .same

/-! ## New transports -/

/-- What a section leaves at the next free handle.  A subport enters the table
of its server, and the server is about to enrol it. -/
inductive Fresh (core : Core) (task : Task) (result : Core × List Task) : Prop
  | none : result.1.next = core.next → Fresh core task result
  | built {req : PortRequest} {attrs : PortAttrs} {transport : Transport} :
      task = .build req → req.attrs = .ok attrs → transportFor req attrs = some transport →
        result.1.next = core.next + 1 → result.1.port core.next = transport →
          result.2 = [.register req core.next] → Fresh core task result
  | sub {server : Nat} {peer : String} :
      task = .connect server peer → (core.port server).kind = .streamServer .multiplex →
        (core.port server).closed = false →
          (core.port server).subs.get? ((core.port server).subName peer).1 = none →
            result.1.next = core.next + 1 →
              result.1.port core.next = Transport.install
                { id := ((core.port server).subName peer).1
                  kind := .subPort server ((core.port server).subName peer).2 } false →
                (server ≠ core.next → result.1.port server =
                  (core.port server).keepSub ((core.port server).subName peer).1
                    ((core.port server).subName peer).2 core.next) →
                  result.2 = [.enrol server core.next (core.port server).attrs] →
                    Fresh core task result

theorem exec_connect_sub (env : Env) (ok : Bool) {server : Nat} {peer : String}
    (hk : (core.port server).kind = .streamServer .multiplex)
    (hopen : (core.port server).closed = false)
    (hfree : (core.port server).subs.get? ((core.port server).subName peer).1 = none) :
    core.exec env ok (.connect server peer) =
      ((core.write server ((core.port server).keepSub ((core.port server).subName peer).1
          ((core.port server).subName peer).2 core.next)).alloc
        (install
          { id := ((core.port server).subName peer).1
            kind := .subPort server ((core.port server).subName peer).2 } false),
        [.enrol server core.next (core.port server).attrs]) := by
  simp only [exec, connect, hk, addSub, hopen, hfree, Bool.false_eq_true, if_false]

theorem fresh_exec (core : Core) (env : Env) (ok : Bool) (task : Task) :
    Fresh core task (core.exec env ok task) := by
  have hexec := executed core env ok task
  generalize core.exec env ok task = result at hexec ⊢
  cases hexec with
  | built hattrs htransport => exact .built rfl hattrs htransport rfl (port_alloc_self ..) rfl
  | @accepted server _ hk hopen hfree =>
    refine .sub rfl hk hopen hfree rfl (port_write_alloc_self ..) (fun hne => ?_) rfl
    rw [port_alloc_of_ne (core.write server _) _ hne, port_write_self]
  | _ => exact .none rfl

/-! ## Pumps -/

theorem running_start (port : Transport) (index : Nat) :
    port.start.running index = port.running index := by
  unfold start
  split
  · rfl
  split
  · rfl
  rename_i current _ _ state hst
  dsimp only [running]
  by_cases hs : current = index
  · subst hs
    rw [List.getElem?_set_self', hst]
    rfl
  · rw [List.getElem?_set_ne hs]

theorem running_install (h : port.running index = true) (started : Bool) :
    (port.install started).running index = true := by
  unfold running at h
  split at h
  · cases h
  rename_i state hst
  have hlt : index < port.pumps.length := (List.getElem?_eq_some_iff.mp hst).1
  unfold running install
  rw [List.getElem?_append_left hlt, hst]
  exact h

theorem running_adopt (h : port.running index = true) (kickOld : Bool) :
    (port.adopt kickOld).1.running index = true := by
  unfold adopt
  split
  · exact h
  split
  · exact running_install h true
  · split <;> exact h

theorem running_readopt (h : port.running index = true) :
    port.readopt.running index = true := by
  unfold readopt
  split
  · exact h
  · exact running_install h true

theorem pumps_acceptSession (port : Transport) (occupy : Bool) :
    (port.acceptSession occupy).1.pumps = port.pumps := by
  unfold acceptSession
  split
  · rfl
  split
  · rfl
  · split <;> rfl

theorem pumps_close (port : Transport) (handle : Nat) (order : List String → List String) :
    (port.close handle order).1.pumps = port.pumps := by
  obtain ⟨pump, closed, heq⟩ := close_eq port handle order
  rw [heq]

theorem pumps_hear (port : Transport) (peer : String) : (port.hear peer).pumps = port.pumps := by
  unfold hear
  split
  · rfl
  · split <;> rfl

theorem pumps_onExit (port : Transport) : port.onExit.1.pumps = port.pumps := by
  unfold onExit
  split
  · rfl
  · split
    · rfl
    · split <;> rfl
  · split
    · rfl
    · split <;> rfl
  · rfl
  · rfl
  · rfl

theorem running_exec (env : Env) (ok : Bool) (task : Task) (hlt : handle < core.next)
    (h : (core.port handle).running index = true) :
    ((core.exec env ok task).1.port handle).running index = true ∨
      .exit handle ∈ (core.exec env ok task).2 := by
  have hrewritten := rewritten_exec core env ok task (.inl (Nat.ne_of_lt hlt))
  generalize (core.exec env ok task).1.port handle = after at hrewritten ⊢
  have hpumps {transport : Transport} (hs : transport.pumps = (core.port handle).pumps) :
      transport.running index = true := by
    unfold running at h ⊢
    rw [hs]
    exact h
  cases hrewritten with
  | same | dropped _ _ | forgot _ _ | sessionUp _ _ | kept _ _ _ _ | patched _ =>
    exact .inl h
  | closed _ _ => exact .inl (hpumps (pumps_close _ _ _))
  | halted htask hstop =>
    subst htask
    simp only [exec, halt, hstop]
    exact .inr (.head _)
  | lost htask hst hstart hstop hk =>
    subst htask
    simp only [exec, disconnect, hk, hst, hstart, hstop, if_true, if_false]
    exact .inr (.head _)
  | exited _ _ => exact .inl (hpumps (pumps_onExit _))
  | readopted _ _ => exact .inl (running_readopt h)
  | sessionAccepted _ _ => exact .inl (hpumps (pumps_acceptSession _ _))
  | sessionMade _ _ => exact .inl (running_install h true)
  | enrolled _ _ => exact .inl ((running_start _ _).trans h)
  | adopted _ _ => exact .inl (running_adopt h _)
  | heard _ _ => exact .inl (hpumps (pumps_hear _ _))

/-- A transport only fades, unless a server takes a subport in or a vhost-user
port a session. -/
theorem Rewritten.fades_or_gains {after : Transport} (h : Rewritten core task handle after)
    (new : Nat → Prop) :
    (core.port handle).Fades new after ∨
      (∃ peer, after =
        (core.port handle).keepSub ((core.port handle).subName peer).1
          ((core.port handle).subName peer).2 core.next) ∨
      (∃ mode, (core.port handle).kind = .vhostUser mode) ∧
        after = (core.port handle).install true := by
  cases h with
  | same => exact .inl (.refl _)
  | closed _ _ => exact .inl (fades_close _ _ _)
  | halted _ hstop | lost _ _ _ hstop _ => exact .inl (fades_stop hstop)
  | exited _ _ => exact .inl (fades_onExit _)
  | dropped _ _ | forgot _ _ => exact .inl (fades_dropSub _ _ _)
  | readopted _ _ => exact .inl (fades_readopt _)
  | sessionAccepted _ _ => exact .inl (fades_acceptSession _ _)
  | sessionMade _ hk => exact .inr (.inr ⟨⟨_, hk⟩, rfl⟩)
  | sessionUp _ _ => exact .inl (fades_up _ _)
  | enrolled _ _ => exact .inl (fades_start _)
  | adopted _ _ => exact .inl (fades_adopt _ _)
  | @kept peer _ _ _ _ => exact .inr (.inl ⟨peer, rfl⟩)
  | heard _ _ => exact .inl (fades_hear _ _)
  | patched _ => exact .inl (fades_attrs _ _)

theorem Rewritten.kind {after : Transport} (h : Rewritten core task handle after) :
    after.kind = (core.port handle).kind := by
  rcases h.fades_or_gains (fun _ => False) with hfades | ⟨peer, rfl⟩ | ⟨-, rfl⟩
  · exact hfades.kind
  · rfl
  · rfl

theorem closed_exec (env : Env) (ok : Bool) (task : Task) (hlt : handle < core.next)
    (h : (core.port handle).closed = true) :
    ((core.exec env ok task).1.port handle).closed = true := by
  cases hcl : ((core.exec env ok task).1.port handle).closed with
  | true => rfl
  | false =>
    have hrewritten := rewritten_exec core env ok task (.inl (Nat.ne_of_lt hlt))
    rcases hrewritten.fades_or_gains (fun _ => False) with
      hfades | ⟨peer, hkept⟩ | ⟨-, hmade⟩
    · exact absurd (h.symm.trans (hfades.closed hcl)) (by decide)
    · rw [hkept] at hcl
      exact absurd (h.symm.trans hcl) (by decide)
    · rw [hmade] at hcl
      exact absurd (h.symm.trans hcl) (by decide)

end Core

end GvSwitch.Manager
