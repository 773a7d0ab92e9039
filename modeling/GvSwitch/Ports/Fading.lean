import GvSwitch.Ports.Transport

/-!
# Transports only fade

A transport keeps its identifier and its kind.  Once it is closed it starts no
pump, and a pump that has stopped stays stopped; only `adopt` of a vhost-user
port, which does not ask whether the port is closed, is different.
-/

namespace GvSwitch.Ports.Transport

open Foundation

/-- A section under the transport's lock: only an open transport starts pumps,
and the only subports it gains are the `new` ones. -/
structure Fades (new : Nat → Prop) (before after : Transport) : Prop where
  id : after.id = before.id
  kind : after.kind = before.kind
  wentDown : before.wentDown = true → after.wentDown = true
  closed : after.closed = false → before.closed = false
  running : ∀ index, after.running index = true →
    before.closed = false ∨ before.running index = true
  subs : ∀ subID sub, after.subs.get? subID = some sub →
    new sub ∨ before.subs.get? subID = some sub

variable {new : Nat → Prop}

variable (port : Transport)

theorem Fades.refl : Fades new port port :=
  ⟨rfl, rfl, fun h => h, fun h => h, fun _ h => .inr h, fun _ _ h => .inr h⟩

theorem fades_attrs (attrs : SwitchCore.PortAttrs) :
    Fades new port { port with attrs := attrs } :=
  ⟨rfl, rfl, fun h => h, fun h => h, fun _ h => .inr h, fun _ _ h => .inr h⟩

theorem fades_install {port : Transport} (hopen : port.closed = false)
    (started : Bool) : Fades new port (port.install started) :=
  ⟨rfl, rfl, fun h => h, fun h => h, fun _ _ => .inl hopen, fun _ _ h => .inr h⟩

theorem running_of_running_set {port : Transport} {index other : Nat} {state : Pump}
    (pump : Pump) (hpump : port.pumps[index]? = some state)
    (hstop : state.stopped = true → pump.stopped = true)
    (h : running { port with pumps := port.pumps.set index pump } other = true) :
    port.running other = true := by
  unfold running at h ⊢
  dsimp only at h
  by_cases ho : index = other
  · subst other
    rw [List.getElem?_set_self' , hpump] at h
    rw [hpump]
    cases hst : state.stopped with
    | false => simp [hst]
    | true => simp [hstop hst] at h
  · rw [List.getElem?_set_ne ho] at h
    exact h

theorem stop_eq_some {port stopped : Transport} {index : Nat}
    (h : port.stop index = some stopped) :
    ∃ state, port.pumps[index]? = some state ∧ state.stopped = false ∧
      stopped =
        { port with pumps := port.pumps.set index { state with stopped := true } } := by
  unfold stop at h
  split at h
  · cases h
  rename_i state hst
  split at h
  · cases h
  rename_i hrun
  cases h
  exact ⟨state, hst, Bool.eq_false_iff.mpr hrun, rfl⟩

theorem fades_stop {port stopped : Transport} {index : Nat}
    (h : port.stop index = some stopped) : Fades new port stopped := by
  obtain ⟨state, hst, -, rfl⟩ := stop_eq_some h
  exact ⟨rfl, rfl, fun h => h, fun h => h,
    fun _ h => .inr (running_of_running_set _ hst (fun _ => rfl) h),
    fun _ _ h => .inr h⟩

theorem fades_start : Fades new port port.start := by
  unfold start
  split
  · exact .refl port
  split
  · exact .refl port
  rename_i state hst
  exact ⟨rfl, rfl, fun h => h, fun h => h,
    fun _ h => .inr (running_of_running_set { state with started := true } hst
      (fun h => h) h),
    fun _ _ h => .inr h⟩

theorem fades_adopt (kickOld : Bool) : Fades new port (port.adopt kickOld).1 := by
  unfold adopt
  split
  · exact .refl port
  rename_i hopen
  split
  · exact fades_install (by simpa using hopen) true
  split
  · exact ⟨rfl, rfl, fun h => h, fun h => h, fun _ h => .inr h, fun _ _ h => .inr h⟩
  · exact .refl port

theorem fades_readopt : Fades new port port.readopt := by
  unfold readopt
  split
  · exact .refl port
  rename_i hopen
  simp only [Bool.or_eq_true, not_or, Bool.not_eq_true] at hopen
  exact fades_install hopen.1 true

theorem fades_acceptSession (occupy : Bool) :
    Fades new port (port.acceptSession occupy).1 := by
  unfold acceptSession
  split
  · exact .refl port
  split
  · exact .refl port
  split
  · exact .refl port
  · exact ⟨rfl, rfl, fun h => h, fun h => h, fun _ h => .inr h, fun _ _ h => .inr h⟩

theorem fades_up (up : Bool) : Fades new port { port with up := up } :=
  ⟨rfl, rfl, fun h => h, fun h => h, fun _ h => .inr h, fun _ _ h => .inr h⟩

theorem fades_dropSub (subID : String) (anonID : Option Nat) :
    Fades new port (port.dropSub subID anonID) := by
  refine ⟨rfl, rfl, fun h => h, fun h => h, fun _ h => .inr h, ?_⟩
  intro other sub hsub
  simp only [dropSub, GoMap.get?_erase] at hsub
  split at hsub
  · cases hsub
  · exact .inr hsub

theorem fades_keepSub (subID : String) (anonID : Option Nat) (sub : Nat) :
    Fades (· = sub) port (port.keepSub subID anonID sub) := by
  refine ⟨rfl, rfl, fun h => h, fun h => h, fun _ h => .inr h, ?_⟩
  intro other held hh
  simp only [keepSub, GoMap.get?_set] at hh
  split at hh
  · cases hh
    exact .inl rfl
  · exact .inr hh

theorem fades_hear (source : String) : Fades new port (port.hear source) := by
  unfold hear
  split
  · exact ⟨rfl, rfl, fun h => h, fun h => h, fun _ h => .inr h, fun _ _ h => .inr h⟩
  split
  · exact ⟨rfl, rfl, fun h => h, fun h => h, fun _ h => .inr h, fun _ _ h => .inr h⟩
  · exact .refl port

theorem fades_onExit : Fades new port port.onExit.1 := by
  unfold onExit
  split
  · exact ⟨rfl, rfl, fun _ => rfl, fun h => h, fun _ h => .inr h, fun _ _ h => .inr h⟩
  · split
    · exact .refl port
    split
    · exact .refl port
    · exact ⟨rfl, rfl, fun _ => rfl, fun h => h, fun _ h => .inr h, fun _ _ h => .inr h⟩
  · split
    · exact .refl port
    split
    · exact .refl port
    · refine ⟨rfl, rfl, fun h => ?_, fun h => h, fun _ h => .inr h, fun _ _ h => .inr h⟩
      rw [h, Bool.true_or]
  · exact ⟨rfl, rfl, fun _ => rfl, nofun, fun _ h => .inr h, fun _ _ h => .inr h⟩
  · exact .refl port
  · exact .refl port

/-- `Close` writes the adopted connection and the flag only. -/
theorem close_eq (handle : Nat) (order : List String → List String) :
    ∃ pump closed, (port.close handle order).1 =
      { port with pump := pump, closed := closed } := by
  unfold close
  split
  · split <;> exact ⟨_, _, rfl⟩
  · split <;> exact ⟨_, _, rfl⟩
  · exact ⟨_, _, rfl⟩

theorem fades_close (handle : Nat) (order : List String → List String) :
    Fades new port (port.close handle order).1 := by
  dsimp only [close]
  split
  · split
    · exact .refl port
    · exact ⟨rfl, rfl, fun h => h, nofun, fun _ h => .inr h, fun _ _ h => .inr h⟩
  · split
    · exact .refl port
    · exact ⟨rfl, rfl, fun h => h, nofun, fun _ h => .inr h, fun _ _ h => .inr h⟩
  · exact ⟨rfl, rfl, fun h => h, nofun, fun _ h => .inr h, fun _ _ h => .inr h⟩

end GvSwitch.Ports.Transport
