import GvSwitch.Manager.Rewriting

/-!
# Subports and the books of their server

What a section does to the one pump of a subport, and to the fields in which a
multiplex server keeps its subports: the table, the anonymous numbers, the
attributes and the closed flag.
-/

namespace GvSwitch.Manager

open Foundation SwitchCore Ports Transport

namespace Core

/-! ## Pumps that exit -/

def started (port : Transport) (index : Nat) : Bool :=
  match port.pumps[index]? with
  | none => false
  | some pump => pump.started

variable {port stopped : Transport} {core : Core} {handle server : Nat}
variable {order : List String → List String}

theorem stopped_of_stop {index : Nat} (h : port.stop index = some stopped) :
    stopped.running index = false := by
  obtain ⟨state, hst, -, rfl⟩ := stop_eq_some h
  unfold running
  rw [List.getElem?_set_self', hst]
  rfl

theorem stop_of_running {index : Nat} (h : port.running index = true) :
    ∃ stopped, port.stop index = some stopped := by
  unfold running at h
  unfold stop
  split at h
  · cases h
  · rw [if_neg (by simpa using h)]
    exact ⟨_, rfl⟩

theorem halt_stops {index : Nat} (h : (core.port handle).running index = true)
    (rest : List PumpRef) (next : Continuation) :
    ((core.halt (⟨handle, index⟩ :: rest) next).1.port handle).running index = false := by
  obtain ⟨stopped, hstop⟩ := stop_of_running h
  simp only [halt, hstop, port_write_self]
  exact stopped_of_stop hstop

theorem exit_spawned {env : Env} {ok : Bool} {task : Task}
    (hk : (core.port handle).kind ≠ .afxdp) (h : .exit handle ∈ (core.exec env ok task).2) :
    ∃ index, (core.port handle).running index = true ∧
      ((core.exec env ok task).1.port handle).running index = false ∧
      ((∃ rest next, task = .halt (⟨handle, index⟩ :: rest) next) ∨
        (task = .disconnect ⟨handle, index⟩ ∧ started (core.port handle) index = true)) := by
  have hexec := executed core env ok task
  generalize core.exec env ok task = result at hexec h ⊢
  cases hexec with
  | @halted pump rest next _ hstop =>
    obtain rfl : handle = pump.handle := by simpa using h
    refine ⟨pump.index, running_of_stop hstop, ?_, .inl ⟨rest, next, rfl⟩⟩
    rw [port_write_self]
    exact stopped_of_stop hstop
  | @lost pump state _ hst hstarted hstop _ =>
    obtain rfl : handle = pump.handle := by simpa using h
    refine ⟨pump.index, running_of_stop hstop, ?_, .inr ⟨rfl, ?_⟩⟩
    · rw [port_write_self]
      exact stopped_of_stop hstop
    · rw [started, hst]
      exact hstarted
  | exited _ =>
    split at h <;> simp at h
  | adopted _ htasks =>
    obtain ⟨index, -, hnext⟩ := htasks _ h
    cases hnext
  | sessionAccepted _ htasks =>
    obtain ⟨-, hnext | ⟨index, hnext⟩⟩ := htasks _ h <;> cases hnext
  | linkGone hgone _ =>
    cases List.mem_singleton.mp h
    exact absurd hgone hk
  | updated _ htasks => cases htasks _ h
  | _ => simp [close, patchSubs] at h

theorem count_exit_exec (env : Env) (ok : Bool) (task : Task)
    (hk : (core.port handle).kind ≠ .afxdp) :
    (core.exec env ok task).2.count (.exit handle) ≤ 1 := by
  by_cases hm : .exit handle ∈ (core.exec env ok task).2
  · obtain ⟨index, -, -, ⟨rest, next, rfl⟩ | ⟨rfl, -⟩⟩ := exit_spawned hk hm
    · simp only [exec, halt]
      split
      · simp
      · simp
    · simp only [exec, disconnect, hk, if_false]
      split
      · simp
      split
      · split <;> simp
      · simp
  · rw [List.count_eq_zero.mpr hm]
    exact Nat.zero_le 1

/-! ## Transports with a single pump -/

def Single (port : Transport) : Prop :=
  port.pump = some 0 ∧ port.pumps.length = 1

inductive PumpStep (core : Core) (task : Task) (handle : Nat) (after : Transport) : Prop
  | same : after.running 0 = (core.port handle).running 0 →
      started after 0 = started (core.port handle) 0 → PumpStep core task handle after
  | stops : ((∃ rest next, task = .halt (⟨handle, 0⟩ :: rest) next) ∨
        (task = .disconnect ⟨handle, 0⟩ ∧ started (core.port handle) 0 = true)) →
      (core.port handle).running 0 = true → after.running 0 = false →
        started after 0 = started (core.port handle) 0 → PumpStep core task handle after
  | starts {server : Nat} {attrs : PortAttrs} {sw : Switch} :
      task = .enrol server handle attrs →
        core.sw.addPort ⟨(core.port handle).id, handle⟩ attrs = .ok sw →
          after.running 0 = (core.port handle).running 0 → started after 0 = true →
            PumpStep core task handle after

theorem stop_single {index : Nat} (hsing : Single port) (h : port.stop index = some stopped) :
    index = 0 ∧ Single stopped ∧ stopped.running 0 = false ∧
      started stopped 0 = started port 0 := by
  obtain ⟨hpump, hlen⟩ := hsing
  obtain ⟨state, hpumps⟩ := List.length_eq_one_iff.mp hlen
  obtain ⟨stopping, hstopping, -, rfl⟩ := stop_eq_some h
  rw [hpumps] at hstopping
  cases index with
  | succ index => cases hstopping
  | zero =>
    cases hstopping
    refine ⟨rfl, ⟨hpump, ?_⟩, stopped_of_stop h, ?_⟩
    · simp [hlen]
    · simp [started, hpumps]

theorem start_single (hsing : Single port) :
    Single port.start ∧ started port.start 0 = true := by
  obtain ⟨hpump, hlen⟩ := hsing
  obtain ⟨state, hpumps⟩ := List.length_eq_one_iff.mp hlen
  unfold start
  rw [hpump]
  rw [hpumps]
  exact ⟨⟨rfl, rfl⟩, rfl⟩

variable (env : Env) (ok : Bool) (task : Task)

/-- The one pump of a transport that adopts no connection is stopped, started or
left alone. -/
theorem pumpStep_exec {task : Task} (hlt : handle < core.next) {anonID : Option Nat}
    (hk : (core.port handle).kind = .subPort server anonID)
    (hsing : Single (core.port handle)) (hreadopt : task ≠ .readopt handle) :
    Single ((core.exec env ok task).1.port handle) ∧
      PumpStep core task handle ((core.exec env ok task).1.port handle) := by
  have hrewritten := rewritten_exec core env ok task (.inl (Nat.ne_of_lt hlt))
  generalize (core.exec env ok task).1.port handle = after at hrewritten ⊢
  have hs {transport : Transport} (hpump : transport.pump = (core.port handle).pump)
      (hpumps : transport.pumps = (core.port handle).pumps) :
      Single transport ∧ PumpStep core task handle transport := by
    refine ⟨⟨hpump.trans hsing.1, hpumps ▸ hsing.2⟩, .same ?_ ?_⟩
    · rw [running, hpumps, running]
    · rw [started, hpumps, started]
  cases hrewritten with
  | same | dropped _ _ | forgot _ _ | patched _ => exact hs rfl rfl
  | closed _ _ =>
    unfold Transport.close
    rw [hk]
    exact hs rfl rfl
  | halted htask hstop =>
    obtain ⟨rfl, ha, hstopped, hstarted⟩ := stop_single hsing hstop
    exact ⟨ha, .stops (.inl ⟨_, _, htask⟩) (running_of_stop hstop) hstopped hstarted⟩
  | lost htask hst hstart hstop _ =>
    obtain ⟨rfl, ha, hstopped, hstarted⟩ := stop_single hsing hstop
    refine ⟨ha, .stops (.inr ⟨htask, ?_⟩) (running_of_stop hstop) hstopped hstarted⟩
    rw [started, hst]
    exact hstart
  | exited _ ho => exact absurd hk (ho server anonID)
  | readopted htask _ => exact absurd htask hreadopt
  | enrolled htask hadd =>
    obtain ⟨ha, hstarted⟩ := start_single hsing
    exact ⟨ha, .starts htask hadd (running_start _ _) hstarted⟩
  | adopted _ hmode | kept _ hmode _ _ | heard _ hmode | sessionAccepted _ hmode
  | sessionMade _ hmode | sessionUp _ hmode =>
    simp [hk] at hmode

theorem Single.index (h : Single port) {index : Nat} (hrun : port.running index = true) :
    index = 0 := by
  obtain ⟨state, hpumps⟩ := List.length_eq_one_iff.mp h.2
  unfold running at hrun
  rw [hpumps] at hrun
  cases index with
  | zero => rfl
  | succ index => cases hrun

/-! ## A server's books -/

/-- The fields that only `addSub`, `Close` and `UpdateSubAttrs` write. -/
structure SameBooks (before after : Transport) : Prop where
  subs : after.subs = before.subs
  anonIDs : after.anonIDs = before.anonIDs
  closed : after.closed = before.closed
  attrs : after.attrs = before.attrs

theorem SameBooks.refl (port : Transport) : SameBooks port port := ⟨rfl, rfl, rfl, rfl⟩

theorem books_stop {index : Nat} (h : port.stop index = some stopped) :
    SameBooks port stopped := by
  obtain ⟨state, -, -, rfl⟩ := stop_eq_some h
  exact ⟨rfl, rfl, rfl, rfl⟩

theorem books_start (port : Transport) : SameBooks port port.start := by
  unfold start
  split
  · exact .refl port
  split
  · exact .refl port
  · exact ⟨rfl, rfl, rfl, rfl⟩

theorem books_adopt (port : Transport) (kickOld : Bool) :
    SameBooks port (port.adopt kickOld).1 := by
  unfold adopt
  split
  · exact .refl port
  split
  · exact ⟨rfl, rfl, rfl, rfl⟩
  split
  · exact ⟨rfl, rfl, rfl, rfl⟩
  · exact .refl port

theorem books_readopt (port : Transport) : SameBooks port port.readopt := by
  unfold readopt
  split
  · exact .refl port
  · exact ⟨rfl, rfl, rfl, rfl⟩

theorem books_hear (port : Transport) (peer : String) : SameBooks port (port.hear peer) := by
  unfold hear
  split
  · exact ⟨rfl, rfl, rfl, rfl⟩
  split
  · exact ⟨rfl, rfl, rfl, rfl⟩
  · exact .refl port

theorem books_acceptSession (port : Transport) (occupy : Bool) :
    SameBooks port (port.acceptSession occupy).1 := by
  unfold acceptSession
  split
  · exact .refl port
  split
  · exact .refl port
  split
  · exact .refl port
  · exact ⟨rfl, rfl, rfl, rfl⟩

theorem books_onExit (hk : port.kind ≠ .afxdp) : SameBooks port port.onExit.1 := by
  unfold onExit
  split
  · exact ⟨rfl, rfl, rfl, rfl⟩
  · split
    · exact .refl port
    split
    · exact .refl port
    · exact ⟨rfl, rfl, rfl, rfl⟩
  · split
    · exact .refl port
    split
    · exact .refl port
    · exact ⟨rfl, rfl, rfl, rfl⟩
  · rename_i hgone
    exact absurd hgone hk
  · exact .refl port
  · exact .refl port

inductive BooksStep (core : Core) (task : Task) (server : Nat) : Transport → Prop
  | same {after : Transport} : SameBooks (core.port server) after →
      BooksStep core task server after
  | closes {order : List String → List String} : (∀ keys, (order keys).Perm keys) →
      (task = .discard server ∨ ∃ id, task = .close id server) →
        BooksStep core task server ((core.port server).close server order).1
  | unplugged : (core.port server).kind = .afxdp →
      BooksStep core task server { core.port server with closed := true, wentDown := true }
  | drops {sub parent : Nat} {anonID : Option Nat} :
      ((task = .exit sub ∧ parent = server) ∨ task = .forget server sub) →
        (core.port sub).kind = .subPort parent anonID →
          BooksStep core task server ((core.port server).dropSub (core.port sub).id anonID)
  | keeps {peer : String} :
      task = .connect server peer → (core.port server).kind = .streamServer .multiplex →
        (core.port server).closed = false →
          (core.port server).subs.get? ((core.port server).subName peer).1 = none →
            BooksStep core task server ((core.port server).keepSub
              ((core.port server).subName peer).1 ((core.port server).subName peer).2 core.next)
  | patches {call : PatchCall} {attrs : PortAttrs} : task = .patchSubs call server attrs →
      BooksStep core task server { core.port server with attrs := attrs }

theorem booksStep_exec (hlt : server < core.next) :
    BooksStep core task server ((core.exec env ok task).1.port server) := by
  have hrewritten := rewritten_exec core env ok task (.inl (Nat.ne_of_lt hlt))
  generalize (core.exec env ok task).1.port server = after at hrewritten ⊢
  cases hrewritten with
  | same => exact .same (.refl _)
  | closed horder htask => exact .closes horder htask
  | halted _ hstop | lost _ _ _ hstop _ => exact .same (books_stop hstop)
  | exited _ _ =>
    by_cases hk : (core.port server).kind = .afxdp
    · simp only [onExit, hk]
      rw [← hk]
      exact .unplugged hk
    · exact .same (books_onExit hk)
  | dropped htask hk => exact .drops (.inl ⟨htask, rfl⟩) hk
  | forgot htask hk => exact .drops (.inr htask) hk
  | readopted _ _ => exact .same (books_readopt _)
  | enrolled _ _ => exact .same (books_start _)
  | adopted _ _ => exact .same (books_adopt _ _)
  | kept htask hmode hopen hfree => exact .keeps htask hmode hopen hfree
  | heard _ _ => exact .same (books_hear _ _)
  | sessionAccepted _ _ => exact .same (books_acceptSession _ _)
  | sessionMade _ _ | sessionUp _ _ => exact .same ⟨rfl, rfl, rfl, rfl⟩
  | patched htask => exact .patches htask

inductive TableStep (core : Core) (task : Task) (server : Nat) (after : Transport) : Prop
  | same : after.subs = (core.port server).subs → after.anonIDs = (core.port server).anonIDs →
      TableStep core task server after
  | drops {sub parent : Nat} {anonID : Option Nat} :
      ((task = .exit sub ∧ parent = server) ∨ task = .forget server sub) →
        (core.port sub).kind = .subPort parent anonID →
          after.subs = (core.port server).subs.erase (core.port sub).id →
            after.anonIDs =
              ((core.port server).dropSub (core.port sub).id anonID).anonIDs →
              TableStep core task server after
  | keeps {peer : String} :
      task = .connect server peer → (core.port server).kind = .streamServer .multiplex →
        (core.port server).closed = false →
          (core.port server).subs.get? ((core.port server).subName peer).1 = none →
            after.subs = (core.port server).subs.set
              ((core.port server).subName peer).1 core.next →
              after.anonIDs = ((core.port server).subName peer).2.toList ++
                (core.port server).anonIDs → TableStep core task server after

theorem subs_close (port : Transport) (handle : Nat) (order : List String → List String) :
    (port.close handle order).1.subs = port.subs ∧
      (port.close handle order).1.anonIDs = port.anonIDs := by
  obtain ⟨pump, closed, heq⟩ := close_eq port handle order
  rw [heq]
  exact ⟨rfl, rfl⟩

theorem tableStep_exec (hlt : server < core.next) :
    TableStep core task server ((core.exec env ok task).1.port server) := by
  have hbooks := booksStep_exec env ok task hlt
  generalize (core.exec env ok task).1.port server = after at hbooks ⊢
  cases hbooks with
  | same hs => exact .same hs.subs hs.anonIDs
  | closes _ _ => exact .same (subs_close _ _ _).1 (subs_close _ _ _).2
  | unplugged _ | patches _ => exact .same rfl rfl
  | drops htask hk => exact .drops htask hk rfl rfl
  | keeps htask hmode hopen hfree => exact .keeps htask hmode hopen hfree rfl rfl

theorem closed_by (hlt : handle < core.next) (hk : (core.port handle).kind ≠ .afxdp)
    (hopen : (core.port handle).closed = false)
    (hcl : ((core.exec env ok task).1.port handle).closed = true) :
    task = .discard handle ∨ ∃ id, task = .close id handle := by
  have hbooks := booksStep_exec env ok task hlt
  generalize (core.exec env ok task).1.port handle = after at hbooks hcl
  cases hbooks with
  | same hs =>
    simp [hs.closed, hopen] at hcl
  | closes _ htask => exact htask
  | unplugged hgone => exact absurd hgone hk
  | drops _ _ | keeps _ _ _ _ =>
    change (core.port handle).closed = true at hcl
    simp [hopen] at hcl
  | patches _ =>
    simp [hopen] at hcl

theorem mem_close_pumps {sub : Nat} (h : ⟨sub, 0⟩ ∈ (port.close handle order).2) :
    sub = handle ∨ ∃ id, port.subs.get? id = some sub := by
  have hown : ⟨sub, 0⟩ ∈ port.pump.toList.map (PumpRef.mk handle) → sub = handle := by
    intro hm
    obtain ⟨index, -, hpump⟩ := List.mem_map.mp hm
    exact (congrArg PumpRef.handle hpump).symm
  unfold Transport.close at h
  split at h
  · split at h
    · cases h
    rcases List.mem_append.mp h with hm | hm
    · exact .inl (hown hm)
    obtain ⟨id, -, hsub⟩ := List.mem_filterMap.mp hm
    obtain ⟨held, hh, hpump⟩ := Option.map_eq_some_iff.mp hsub
    cases hpump
    exact .inr ⟨id, hh⟩
  · split at h
    · cases h
    · exact .inl (hown h)
  · exact .inl (hown h)

theorem close_pumps {sub : Nat} (horder : ∀ keys, (order keys).Perm keys)
    {mode : ReplacingMode} (hk : port.kind = .streamServer mode)
    (hopen : port.closed = false) {id : String} (hsub : port.subs.get? id = some sub) :
    ⟨sub, 0⟩ ∈ (port.close handle order).2 := by
  unfold Transport.close
  simp only [hk, hopen, Bool.false_eq_true, if_false]
  refine List.mem_append_right _ (List.mem_filterMap.mpr ⟨id, ?_, ?_⟩)
  · exact (horder _).mem_iff.mpr ((GoMap.mem_keys_iff _ _).mpr ⟨sub, hsub⟩)
  · rw [hsub]
    rfl

theorem close_closed : (port.close handle order).1.closed = true := by
  unfold Transport.close
  split
  · split
    · assumption
    · rfl
  · split
    · assumption
    · rfl
  · rfl

end Core

end GvSwitch.Manager
