import GvSwitch.Foundation.Runs
import Mathlib.Logic.Function.Basic

/-!
# The vhost-user port

A vhost-user port holds at most one session at a time.  The accept loop, `Close`
and the state callbacks of the sessions run in their own goroutines and meet at
the port's lock; every section under the lock, and every call made between two
of them, is one step.  A session may call `State(true)` at any time after it was
made, and calls `State(false)` once after it stopped serving its connection.
-/

namespace GvSwitch.Ports

open Foundation

/-- What a server does with a second front-end; it knows no multiplex mode. -/
inductive SessionMode where
  | replace
  | occupy
  deriving DecidableEq, Repr

/-- A `NetDevice` as the port sees it: whether it serves its connection, and which
callbacks it has made. -/
structure NetSession where
  serving : Bool := false
  saidUp : Bool := false
  saidDown : Bool := false
  deriving DecidableEq, Repr

/-- Where the accept loop is: in `Accept`, with a connection before the lock, at
`old.Close()`, before the second lock, before `adopt`, or returned. -/
inductive Accepting where
  | waiting
  | accepted
  | replacing (old : Nat)
  | relocking
  | adopting
  | ended
  deriving DecidableEq, Repr

/-- Where `Close` is: not called, before the listener is closed, before the
session is closed, or returned. -/
inductive PortClosing where
  | open
  | listener (dev : Option Nat)
  | session (dev : Option Nat)
  | returned
  deriving DecidableEq, Repr

/-- `notified` lists the sessions whose end was reported to the switch. -/
structure VhostUserPort where
  mode : SessionMode
  dev : Option Nat := none
  up : Bool := false
  closed : Bool := false
  listening : Bool := true
  accepting : Accepting := .waiting
  closing : PortClosing := .open
  created : Nat := 0
  sessions : Nat → NetSession := fun _ => {}
  notified : List Nat := []

namespace VhostUserPort

inductive Move where
  | accept
  | acceptFails
  | check
  | closeOld
  | recheck
  | adopt
  | close
  | closeListener
  | closeSession
  | sessionEnds (session : Nat)
  | state (session : Nat) (up : Bool)

def online (port : VhostUserPort) : Bool := port.dev.isSome && port.up

def updateSession (port : VhostUserPort) (session : Nat)
    (update : NetSession → NetSession) : VhostUserPort :=
  { port with
    sessions := Function.update port.sessions session (update (port.sessions session)) }

def stopSession (port : VhostUserPort) (session : Nat) : VhostUserPort :=
  port.updateSession session ({ · with serving := false })

def check (port : VhostUserPort) : VhostUserPort :=
  if port.closed then { port with accepting := .ended }
  else
    match port.dev with
    | none => { port with accepting := .adopting }
    | some old =>
      if port.mode = .occupy then { port with accepting := .waiting }
      else { port with dev := none, accepting := .replacing old }

def recheck (port : VhostUserPort) : VhostUserPort :=
  if port.closed ∨ port.dev.isSome then { port with accepting := .waiting }
  else { port with accepting := .adopting }

def adopt (port : VhostUserPort) : VhostUserPort :=
  { port.updateSession port.created ({ · with serving := true }) with
    dev := some port.created
    created := port.created + 1 }

def state (port : VhostUserPort) (session : Nat) (up : Bool) : VhostUserPort :=
  if port.dev = some session then
    { port with
      up := up
      dev := if up then port.dev else none
      notified := if port.up && !up then session :: port.notified else port.notified }
  else port

def called (port : VhostUserPort) (session : Nat) (up : Bool) : VhostUserPort :=
  port.updateSession session fun before =>
    if up then { before with saidUp := true } else { before with saidDown := true }

def step (port : VhostUserPort) : Move → Option VhostUserPort
  | .accept =>
    if port.accepting = .waiting ∧ port.listening = true then
      some { port with accepting := .accepted }
    else none
  | .acceptFails =>
    if port.accepting = .waiting then some { port with accepting := .ended } else none
  | .check => if port.accepting = .accepted then some port.check else none
  | .closeOld =>
    match port.accepting with
    | .replacing old => some { port.stopSession old with accepting := .relocking }
    | _ => none
  | .recheck => if port.accepting = .relocking then some port.recheck else none
  | .adopt =>
    if port.accepting = .adopting then some { port.adopt with accepting := .waiting }
    else none
  | .close =>
    if port.closed then some port
    else some { port with closed := true, dev := none, closing := .listener port.dev }
  | .closeListener =>
    match port.closing with
    | .listener dev => some { port with listening := false, closing := .session dev }
    | _ => none
  | .closeSession =>
    match port.closing with
    | .session none => some { port with closing := .returned }
    | .session (some dev) => some { port.stopSession dev with closing := .returned }
    | _ => none
  | .sessionEnds session =>
    if (port.sessions session).serving then some (port.stopSession session) else none
  | .state session true =>
    if session < port.created then some ((port.called session true).state session true)
    else none
  | .state session false =>
    if session < port.created ∧ (port.sessions session).serving = false ∧
        (port.sessions session).saidDown = false then
      some ((port.called session false).state session false)
    else none

def Step (port : VhostUserPort) (move : Move) (after : VhostUserPort) : Prop :=
  port.step move = some after

/-- A client has its one session from the start and no accept loop. -/
def Initial (port : VhostUserPort) : Prop :=
  (∃ mode, port = { mode := mode }) ∨
    ∃ mode, port =
      { VhostUserPort.adopt { mode := mode } with accepting := .ended, listening := false }

variable {port after : VhostUserPort} {move : Move}

theorem sessions_updateSession (port : VhostUserPort) (session other : Nat)
    (update : NetSession → NetSession) :
    (port.updateSession session update).sessions other =
      if other = session then update (port.sessions session) else port.sessions other :=
  Function.update_apply ..

inductive Makes (port : VhostUserPort) : Move → VhostUserPort → Prop
  | accept : port.accepting = .waiting → port.listening = true →
      Makes port .accept { port with accepting := .accepted }
  | acceptFails : port.accepting = .waiting →
      Makes port .acceptFails { port with accepting := .ended }
  | check : port.accepting = .accepted → Makes port .check port.check
  | closeOld {old : Nat} : port.accepting = .replacing old →
      Makes port .closeOld { port.stopSession old with accepting := .relocking }
  | recheck : port.accepting = .relocking → Makes port .recheck port.recheck
  | adopt : port.accepting = .adopting →
      Makes port .adopt { port.adopt with accepting := .waiting }
  | closeAgain : port.closed = true → Makes port .close port
  | close : port.closed = false → Makes port .close
      { port with closed := true, dev := none, closing := .listener port.dev }
  | closeListener {dev : Option Nat} : port.closing = .listener dev →
      Makes port .closeListener { port with listening := false, closing := .session dev }
  | closeNothing : port.closing = .session none →
      Makes port .closeSession { port with closing := .returned }
  | closeSession {dev : Nat} : port.closing = .session (some dev) →
      Makes port .closeSession { port.stopSession dev with closing := .returned }
  | sessionEnds {session : Nat} : (port.sessions session).serving = true →
      Makes port (.sessionEnds session) (port.stopSession session)
  | state {session : Nat} {up : Bool} : session < port.created →
      (up = false → (port.sessions session).serving = false ∧
        (port.sessions session).saidDown = false) →
      Makes port (.state session up) ((port.called session up).state session up)

theorem step_makes (h : port.Step move after) : Makes port move after := by
  cases move with
  | accept =>
    obtain ⟨⟨hwaiting, hlistening⟩, ⟨⟩⟩ := Option.ite_none_right_eq_some.mp h
    exact .accept hwaiting hlistening
  | acceptFails =>
    obtain ⟨hwaiting, ⟨⟩⟩ := Option.ite_none_right_eq_some.mp h
    exact .acceptFails hwaiting
  | check =>
    obtain ⟨haccepted, ⟨⟩⟩ := Option.ite_none_right_eq_some.mp h
    exact .check haccepted
  | closeOld =>
    simp only [Step, step] at h
    split at h
    · rename_i old hreplacing
      cases h
      exact .closeOld hreplacing
    · cases h
  | recheck =>
    obtain ⟨hrelocking, ⟨⟩⟩ := Option.ite_none_right_eq_some.mp h
    exact .recheck hrelocking
  | adopt =>
    obtain ⟨hadopting, ⟨⟩⟩ := Option.ite_none_right_eq_some.mp h
    exact .adopt hadopting
  | close =>
    simp only [Step, step] at h
    split at h
    · rename_i hcl
      cases h
      exact .closeAgain hcl
    · rename_i hopen
      cases h
      exact .close (Bool.eq_false_iff.mpr hopen)
  | closeListener =>
    simp only [Step, step] at h
    split at h
    · rename_i dev hlistener
      cases h
      exact .closeListener hlistener
    · cases h
  | closeSession =>
    simp only [Step, step] at h
    split at h
    · rename_i hclosing
      cases h
      exact .closeNothing hclosing
    · rename_i dev hclosing
      cases h
      exact .closeSession hclosing
    · cases h
  | sessionEnds session =>
    obtain ⟨hserv, ⟨⟩⟩ := Option.ite_none_right_eq_some.mp h
    exact .sessionEnds hserv
  | state session up =>
    cases up with
    | true =>
      obtain ⟨hmade, ⟨⟩⟩ := Option.ite_none_right_eq_some.mp h
      exact .state hmade nofun
    | false =>
      obtain ⟨⟨hmade, hd⟩, ⟨⟩⟩ := Option.ite_none_right_eq_some.mp h
      exact .state hmade fun _ => hd

/-! ## Steps that install nothing -/

structure Recedes (port after : VhostUserPort) : Prop where
  dev : after.dev = port.dev ∨ after.dev = none
  up : after.up = port.up
  created : after.created = port.created
  notified : after.notified = port.notified
  saidUp : ∀ session, (after.sessions session).saidUp = (port.sessions session).saidUp
  saidDown : ∀ session, (after.sessions session).saidDown = (port.sessions session).saidDown

theorem recedes_stopSession (port : VhostUserPort) (session : Nat) :
    Recedes port (port.stopSession session) := by
  refine ⟨.inl rfl, rfl, rfl, rfl, fun other => ?_, fun other => ?_⟩
  · rw [stopSession, sessions_updateSession]
    split
    · rename_i hs
      rw [hs]
    · rfl
  · rw [stopSession, sessions_updateSession]
    split
    · rename_i hs
      rw [hs]
    · rfl

theorem recedes_check (port : VhostUserPort) : Recedes port port.check := by
  unfold check
  split
  · exact ⟨.inl rfl, rfl, rfl, rfl, fun _ => rfl, fun _ => rfl⟩
  split
  · exact ⟨.inl rfl, rfl, rfl, rfl, fun _ => rfl, fun _ => rfl⟩
  split
  · exact ⟨.inl rfl, rfl, rfl, rfl, fun _ => rfl, fun _ => rfl⟩
  · exact ⟨.inr rfl, rfl, rfl, rfl, fun _ => rfl, fun _ => rfl⟩

theorem recedes_recheck (port : VhostUserPort) : Recedes port port.recheck := by
  unfold recheck
  split <;> exact ⟨.inl rfl, rfl, rfl, rfl, fun _ => rfl, fun _ => rfl⟩

inductive Taken (port : VhostUserPort) : Move → VhostUserPort → Prop
  | adopted : Taken port .adopt { port.adopt with accepting := .waiting }
  | reported (session : Nat) (up : Bool) : session < port.created →
      Taken port (.state session up) ((port.called session up).state session up)
  | other {move : Move} {after : VhostUserPort} : Recedes port after → Taken port move after

theorem step_taken (h : port.Step move after) : Taken port move after := by
  have hmakes := step_makes h
  cases hmakes with
  | accept _ _ | acceptFails _ | closeAgain _ | closeListener _ | closeNothing _ =>
    exact .other ⟨.inl rfl, rfl, rfl, rfl, fun _ => rfl, fun _ => rfl⟩
  | check _ => exact .other (recedes_check port)
  | @closeOld old _ =>
    obtain ⟨hdev, hup, hcreated, hnotified, hsaidUp, hsaidDown⟩ :=
      recedes_stopSession port old
    exact .other ⟨hdev, hup, hcreated, hnotified, hsaidUp, hsaidDown⟩
  | recheck _ => exact .other (recedes_recheck port)
  | adopt _ => exact .adopted
  | close _ => exact .other ⟨.inr rfl, rfl, rfl, rfl, fun _ => rfl, fun _ => rfl⟩
  | @closeSession dev _ =>
    obtain ⟨hdev, hup, hcreated, hnotified, hsaidUp, hsaidDown⟩ :=
      recedes_stopSession port dev
    exact .other ⟨hdev, hup, hcreated, hnotified, hsaidUp, hsaidDown⟩
  | @sessionEnds session _ => exact .other (recedes_stopSession port session)
  | @state session up hmade _ => exact .reported session up hmade

/-! ## The status tells the truth -/

def Settled (port : VhostUserPort) : Move → Prop
  | .adopt => port.up = false
  | _ => True

instance (port : VhostUserPort) : (move : Move) → Decidable (port.Settled move)
  | .adopt => inferInstanceAs (Decidable (port.up = false))
  | .accept | .acceptFails | .check | .closeOld | .recheck | .close | .closeListener
  | .closeSession | .sessionEnds _ | .state _ _ => .isTrue trivial

structure Truthful (port : VhostUserPort) : Prop where
  silent : ∀ session, port.dev = some session →
    (port.sessions session).saidDown = false
  up : ∀ session, port.dev = some session → port.up = true →
    (port.sessions session).saidUp = true
  fresh : ∀ session, port.created ≤ session → (port.sessions session).saidDown = false
  notified : ∀ session ∈ port.notified, (port.sessions session).saidUp = true

theorem Truthful.recedes (h : port.Truthful) (hstep : Recedes port after) :
    after.Truthful := by
  have hdev (session : Nat) (ha : after.dev = some session) :
      port.dev = some session := by
    rcases hstep.dev with hs | hnone
    · exact hs.symm.trans ha
    · cases hnone.symm.trans ha
  constructor
  · intro session ha
    rw [hstep.saidDown]
    exact h.silent session (hdev session ha)
  · intro session ha hup
    rw [hstep.saidUp]
    exact h.up session (hdev session ha) (hstep.up.symm.trans hup)
  · intro session hlater
    rw [hstep.saidDown]
    exact h.fresh session (hstep.created ▸ hlater)
  · intro session hm
    rw [hstep.saidUp]
    exact h.notified session (hstep.notified ▸ hm)

theorem said_adopt (port : VhostUserPort) (session : Nat) :
    (port.adopt.sessions session).saidUp = (port.sessions session).saidUp ∧
      (port.adopt.sessions session).saidDown = (port.sessions session).saidDown := by
  have hsessions := sessions_updateSession port port.created session
    ({ · with serving := true })
  rw [show port.adopt.sessions session = _ from hsessions]
  split
  · rename_i hs
    exact ⟨hs ▸ rfl, hs ▸ rfl⟩
  · exact ⟨rfl, rfl⟩

theorem Truthful.adopt (h : port.Truthful) (hsettled : port.up = false)
    (accepting : Accepting) : Truthful { port.adopt with accepting := accepting } := by
  constructor
  · rintro session ⟨⟩
    exact (said_adopt port port.created).2.trans (h.fresh port.created (Nat.le_refl _))
  · intro session _ hup
    cases hsettled.symm.trans hup
  · intro session hlater
    exact (said_adopt port session).2.trans (h.fresh session (Nat.le_of_succ_le hlater))
  · intro session hm
    exact (said_adopt port session).1.trans (h.notified session hm)

theorem called_of_ne (port : VhostUserPort) {session other : Nat} (hne : other ≠ session)
    (up : Bool) : (port.called session up).sessions other = port.sessions other := by
  rw [called, sessions_updateSession, if_neg hne]

theorem called_self (port : VhostUserPort) (session : Nat) (up : Bool) :
    (port.called session up).sessions session =
      if up then { port.sessions session with saidUp := true }
      else { port.sessions session with saidDown := true } := by
  rw [called, sessions_updateSession, if_pos rfl]

theorem saidUp_called (port : VhostUserPort) (session other : Nat) (up : Bool)
    (h : (port.sessions other).saidUp = true) :
    ((port.called session up).sessions other).saidUp = true := by
  by_cases hs : other = session
  · subst hs
    rw [called_self]
    cases up with
    | true => rfl
    | false => exact h
  · rw [called_of_ne port hs]
    exact h

theorem Truthful.reported (h : port.Truthful) {session : Nat}
    (hmade : session < port.created) (up : Bool) :
    ((port.called session up).state session up).Truthful := by
  have hfresh (later : Nat) (hlater : port.created ≤ later) :
      ((port.called session up).sessions later).saidDown = false := by
    rw [called_of_ne port (by omega)]
    exact h.fresh later hlater
  unfold state
  split
  · rename_i hcur
    have hdev : port.dev = some session := hcur
    cases up with
    | true =>
      refine ⟨?_, ?_, hfresh, ?_⟩
      · intro other ho
        obtain rfl : session = other := Option.some.inj (hdev.symm.trans ho)
        rw [called_self]
        exact h.silent session hdev
      · intro other ho _
        obtain rfl : session = other := Option.some.inj (hdev.symm.trans ho)
        rw [called_self]
        rfl
      · intro other ho
        simp only [Bool.not_true, Bool.and_false, Bool.false_eq_true, if_false] at ho
        exact saidUp_called port session other true (h.notified other ho)
    | false =>
      refine ⟨nofun, nofun, hfresh, ?_⟩
      intro other ho
      refine saidUp_called port session other false ?_
      dsimp only at ho
      split at ho
      · rename_i hup
        rcases List.mem_cons.mp ho with rfl | hearlier
        · exact h.up other hdev (by simpa [called, updateSession] using hup)
        · exact h.notified other hearlier
      · exact h.notified other ho
  · rename_i hstale
    refine ⟨?_, ?_, hfresh, ?_⟩
    · intro other ho
      have hne : other ≠ session := fun hs => hstale (hs ▸ ho)
      rw [called_of_ne port hne]
      exact h.silent other ho
    · intro other ho hup
      exact saidUp_called port session other up (h.up other ho hup)
    · intro other ho
      exact saidUp_called port session other up (h.notified other ho)

theorem truthful_initial (h : port.Initial) : port.Truthful := by
  rcases h with ⟨mode, rfl⟩ | ⟨mode, rfl⟩
  · exact ⟨nofun, nofun, fun _ _ => rfl, fun _ hm => nomatch hm⟩
  have hstart : Truthful { mode := mode } :=
    ⟨nofun, nofun, fun _ _ => rfl, fun _ hm => nomatch hm⟩
  obtain ⟨hsilent, hup, hfresh, hnotified⟩ := hstart.adopt rfl .ended
  exact ⟨hsilent, hup, hfresh, hnotified⟩

/-- Where no session is installed while the port is marked as up, an online port
has a session that said so and has not taken it back, and the switch is told only
of the end of such sessions. -/
theorem status_truthful (h : Reachable Initial (Guarded Settled Step) port) :
    (port.online = true → ∃ session, port.dev = some session ∧
      (port.sessions session).saidUp = true ∧
      (port.sessions session).saidDown = false) ∧
    ∀ session ∈ port.notified, (port.sessions session).saidUp = true := by
  have htruthful : port.Truthful := by
    refine Reachable.induct (motive := Truthful) (fun _ => truthful_initial) ?_ h
    rintro before move next - ih ⟨hsettled, hstep⟩
    cases step_taken hstep with
    | adopted => exact ih.adopt hsettled .waiting
    | reported session up hmade => exact ih.reported hmade up
    | other hrecedes => exact ih.recedes hrecedes
  refine ⟨?_, htruthful.notified⟩
  intro honline
  obtain ⟨hdev, hup⟩ := Bool.and_eq_true_iff.mp honline
  obtain ⟨session, hsess⟩ := Option.isSome_iff_exists.mp hdev
  exact ⟨session, hsess, htruthful.up session hsess hup, htruthful.silent session hsess⟩

theorem status_truthful_replaced :
    ∃ port, Reachable Initial (Guarded Settled Step) port ∧ port.online = true ∧
      ∃ session, port.dev = some session ∧ (port.sessions session).saidUp = true ∧
        (port.sessions session).saidDown = false := by
  have hrun : (replay VhostUserPort.step Settled { mode := .replace }
      [.accept, .check, .adopt, .accept, .check, .closeOld, .recheck, .adopt,
        .state 0 false, .state 1 true]).map online = some true := by
    decide
  obtain ⟨port, hrun, honline⟩ := Option.map_eq_some_iff.mp hrun
  have hreach : Reachable Initial (Guarded Settled Step) port :=
    Reachable.replay (.start (.inl ⟨_, rfl⟩)) hrun
  exact ⟨port, hreach, honline, (status_truthful hreach).1 honline⟩

/-- The second front-end has reported nothing; the port is online, and the end of
its session is reported to the switch. -/
theorem replaced_session_inherits_up :
    ∃ port later, Reachable Initial Step port ∧ Reachable Initial Step later ∧
      port.online = true ∧ port.dev = some 1 ∧ port.sessions 1 = { serving := true } ∧
      1 ∈ later.notified ∧ (later.sessions 1).saidUp = false := by
  have hfst : (replay VhostUserPort.step (fun _ _ => True) { mode := .replace }
      [.accept, .check, .adopt, .state 0 true, .accept, .check, .closeOld, .recheck,
        .adopt]).map (fun port => (port.online, port.dev, port.sessions 1)) =
      some (true, some 1, { serving := true }) := by
    decide
  have hsnd : (replay VhostUserPort.step (fun _ _ => True) { mode := .replace }
      [.accept, .check, .adopt, .state 0 true, .accept, .check, .closeOld, .recheck,
        .adopt, .sessionEnds 1, .state 1 false]).map
      (fun port => (port.notified, (port.sessions 1).saidUp)) = some ([1], false) := by
    decide
  obtain ⟨port, hrun, hp⟩ := Option.map_eq_some_iff.mp hfst
  obtain ⟨later, hlater, hnotified⟩ := Option.map_eq_some_iff.mp hsnd
  simp only [Prod.mk.injEq] at hp hnotified
  exact ⟨port, later, reachable_of_replay (.inl ⟨_, rfl⟩) hrun,
    reachable_of_replay (.inl ⟨_, rfl⟩) hlater, hp.1, hp.2.1, hp.2.2,
    hnotified.1 ▸ List.mem_cons_self, hnotified.2⟩

/-! ## A closed port serves nobody -/

/-- `Close` does not come between the last check of the accept loop and `adopt`. -/
def Unclosed (port : VhostUserPort) : Move → Prop
  | .adopt => port.closed = false
  | _ => True

instance (port : VhostUserPort) : (move : Move) → Decidable (port.Unclosed move)
  | .adopt => inferInstanceAs (Decidable (port.closed = false))
  | .accept | .acceptFails | .check | .closeOld | .recheck | .close | .closeListener
  | .closeSession | .sessionEnds _ | .state _ _ => .isTrue trivial

def Owned (port : VhostUserPort) (session : Nat) : Prop :=
  port.dev = some session ∨ port.accepting = .replacing session ∨
    port.closing = .listener (some session) ∨ port.closing = .session (some session)

structure Covered (port : VhostUserPort) : Prop where
  owned : ∀ session, (port.sessions session).serving = true → port.Owned session
  vacant : port.closed = true → port.dev = none
  closed : port.closing ≠ .open → port.closed = true
  free : port.accepting = .adopting → port.dev = none

theorem serving_stopSession (port : VhostUserPort) {session other : Nat}
    (h : ((port.stopSession session).sessions other).serving = true) :
    other ≠ session ∧ (port.sessions other).serving = true := by
  rw [stopSession, sessions_updateSession] at h
  split at h
  · cases h
  · rename_i hne
    exact ⟨hne, h⟩

theorem serving_called (port : VhostUserPort) (session other : Nat) (up : Bool) :
    ((port.called session up).sessions other).serving = (port.sessions other).serving := by
  by_cases hs : other = session
  · subst hs
    rw [called_self]
    split <;> rfl
  · rw [called_of_ne port hs]

section Moves

variable (h : port.Covered)

include h

/-- The accept loop goes on without a session of its own to close. -/
theorem Covered.moveTo (hphase : ∀ old, port.accepting ≠ .replacing old)
    (accepting : Accepting) (hfree : accepting = .adopting → port.dev = none) :
    Covered { port with accepting := accepting } := by
  refine ⟨fun session hserv => ?_, h.vacant, h.closed, hfree⟩
  rcases h.owned session hserv with hdev | hreplacing | hclosing
  · exact .inl hdev
  · exact absurd hreplacing (hphase session)
  · exact .inr (.inr hclosing)

theorem Covered.check (haccepted : port.accepting = .accepted) : port.check.Covered := by
  have hphase (old : Nat) : port.accepting ≠ .replacing old := by simp [haccepted]
  unfold VhostUserPort.check
  split
  · exact h.moveTo hphase .ended nofun
  split
  · rename_i hnone
    exact h.moveTo hphase .adopting fun _ => hnone
  rename_i old hold
  split
  · exact h.moveTo hphase .waiting nofun
  refine ⟨fun session hserv => ?_, fun _ => rfl, h.closed, fun _ => rfl⟩
  rcases h.owned session hserv with hdev | hreplacing | hclosing
  · obtain rfl : old = session := Option.some.inj (hold.symm.trans hdev)
    exact .inr (.inl rfl)
  · exact absurd hreplacing (hphase session)
  · exact .inr (.inr hclosing)

theorem Covered.recheck (hrelocking : port.accepting = .relocking) :
    port.recheck.Covered := by
  have hphase (old : Nat) : port.accepting ≠ .replacing old := by simp [hrelocking]
  unfold VhostUserPort.recheck
  split
  · exact h.moveTo hphase .waiting nofun
  rename_i hvacant
  rw [not_or, Option.not_isSome_iff_eq_none] at hvacant
  exact h.moveTo hphase .adopting fun _ => hvacant.2

theorem Covered.adopt (hunclosed : port.closed = false)
    (hadopting : port.accepting = .adopting) :
    Covered { port.adopt with accepting := .waiting } := by
  refine ⟨fun session hserv => ?_, fun hcl => ?_, h.closed, nofun⟩
  · by_cases hnew : session = port.created
    · exact .inl (congrArg some hnew.symm)
    have hb : (port.sessions session).serving = true := by
      have hsessions := sessions_updateSession port port.created session
        ({ · with serving := true })
      rw [if_neg hnew] at hsessions
      rw [← hsessions]
      exact hserv
    rcases h.owned session hb with hdev | hreplacing | hclosing
    · cases (h.free hadopting).symm.trans hdev
    · cases hadopting.symm.trans hreplacing
    · exact .inr (.inr hclosing)
  · cases hunclosed.symm.trans hcl

theorem Covered.closeSession {dev : Option Nat} (hclosing : port.closing = .session dev)
    (hstop : ∀ session, dev = some session → (port.sessions session).serving = false) :
    Covered { port with closing := .returned } := by
  refine ⟨fun session hserv => ?_, h.vacant, fun _ => h.closed (by simp [hclosing]), h.free⟩
  rcases h.owned session hserv with hdev | hreplacing | hlistener | hsess
  · exact .inl hdev
  · exact .inr (.inl hreplacing)
  · cases hclosing.symm.trans hlistener
  have hs := hclosing.symm.trans hsess
  cases hs
  cases hserv.symm.trans (hstop session rfl)

theorem Covered.stopSession (session : Nat) : (port.stopSession session).Covered :=
  ⟨fun other hserv => h.owned other (serving_stopSession port hserv).2, h.vacant,
    h.closed, h.free⟩

theorem Covered.state (session : Nat) (up : Bool)
    (hd : up = false → (port.sessions session).serving = false) :
    ((port.called session up).state session up).Covered := by
  have hcalled : (port.called session up).Covered :=
    ⟨fun other hserv => h.owned other ((serving_called ..).symm.trans hserv),
      h.vacant, h.closed, h.free⟩
  unfold VhostUserPort.state
  split
  · rename_i hcur
    cases up with
    | true => exact ⟨hcalled.owned, hcalled.vacant, hcalled.closed, hcalled.free⟩
    | false =>
      refine ⟨fun other hserv => ?_, fun _ => rfl, hcalled.closed, fun _ => rfl⟩
      rcases hcalled.owned other hserv with hdev | howned
      · obtain rfl : session = other := Option.some.inj (hcur.symm.trans hdev)
        have hstill := (serving_called port session session false).symm.trans hserv
        cases (hd rfl).symm.trans hstill
      · exact .inr howned
  · exact hcalled

theorem Covered.step (hstep : Guarded Unclosed Step port move after) : after.Covered := by
  obtain ⟨hunclosed, hstep⟩ := hstep
  have hmakes := step_makes hstep
  cases hmakes with
  | accept hwaiting _ => exact h.moveTo (by simp [hwaiting]) .accepted nofun
  | acceptFails hwaiting => exact h.moveTo (by simp [hwaiting]) .ended nofun
  | check haccepted => exact h.check haccepted
  | closeOld hreplacing =>
    refine ⟨fun session hserv => ?_, h.vacant, h.closed, nofun⟩
    obtain ⟨hne, hb⟩ := serving_stopSession port hserv
    rcases h.owned session hb with hdev | ho | hclosing
    · exact .inl hdev
    · cases hreplacing.symm.trans ho
      exact absurd rfl hne
    · exact .inr (.inr hclosing)
  | recheck hrelocking => exact h.recheck hrelocking
  | adopt hadopting => exact h.adopt hunclosed hadopting
  | closeAgain _ => exact h
  | close hopen =>
    refine ⟨fun session hserv => ?_, fun _ => rfl, fun _ => rfl, fun _ => rfl⟩
    have hnotClosing : port.closing = .open := by
      by_contra hclosing
      cases hopen.symm.trans (h.closed hclosing)
    rcases h.owned session hserv with hdev | hreplacing | hlistener | hsess
    · exact .inr (.inr (.inl (congrArg PortClosing.listener hdev)))
    · exact .inr (.inl hreplacing)
    · cases hnotClosing.symm.trans hlistener
    · cases hnotClosing.symm.trans hsess
  | closeListener hlistener =>
    have hcl := h.closed (by simp [hlistener])
    refine ⟨fun session hserv => ?_, h.vacant, fun _ => hcl, h.free⟩
    rcases h.owned session hserv with hdev | hreplacing | ho | hsess
    · exact .inl hdev
    · exact .inr (.inl hreplacing)
    · cases hlistener.symm.trans ho
      exact .inr (.inr (.inr rfl))
    · cases hlistener.symm.trans hsess
  | closeNothing hclosing => exact h.closeSession hclosing nofun
  | @closeSession dev hclosing =>
    refine (h.stopSession dev).closeSession hclosing ?_
    rintro session ⟨⟩
    rw [VhostUserPort.stopSession, sessions_updateSession, if_pos rfl]
  | @sessionEnds session _ => exact h.stopSession session
  | @state session up _ hd => exact h.state session up fun hdown => (hd hdown).1

end Moves

theorem covered_initial (h : port.Initial) : port.Covered := by
  rcases h with ⟨mode, rfl⟩ | ⟨mode, rfl⟩
  · exact ⟨fun _ hserv => (nomatch hserv), nofun, fun hopen => absurd rfl hopen, nofun⟩
  refine ⟨fun session hserv => ?_, nofun, fun hopen => absurd rfl hopen, nofun⟩
  by_cases hfst : session = 0
  · exact .inl (congrArg some hfst.symm)
  have hsessions := sessions_updateSession { mode := mode } 0 session
    ({ · with serving := true })
  rw [if_neg hfst] at hsessions
  cases (congrArg NetSession.serving hsessions).symm.trans hserv

/-- Where no session is installed on a closed port, none is served once `Close`
has returned and the accept loop has ended. -/
theorem closed_port_serves_nobody (h : Reachable Initial (Guarded Unclosed Step) port)
    (hreturned : port.closing = .returned) (hended : port.accepting = .ended)
    (session : Nat) : (port.sessions session).serving = false := by
  have hcovered : port.Covered :=
    Reachable.induct (motive := Covered) (fun _ => covered_initial)
      (fun _ _ _ _ ih hstep => ih.step hstep) h
  have hcl : port.closed = true := hcovered.closed (by simp [hreturned])
  by_contra hserv
  rw [Bool.not_eq_false] at hserv
  rcases hcovered.owned session hserv with hdev | hreplacing | hlistener | hsess
  · cases (hcovered.vacant hcl).symm.trans hdev
  · cases hended.symm.trans hreplacing
  · cases hreturned.symm.trans hlistener
  · cases hreturned.symm.trans hsess

theorem closed_port_serves_nobody_replaced :
    ∃ port, Reachable Initial (Guarded Unclosed Step) port ∧ port.created = 1 ∧
      port.closing = .returned ∧ port.accepting = .ended ∧
      (port.sessions 0).serving = false := by
  have hrun : (replay VhostUserPort.step Unclosed { mode := .replace }
      [.accept, .check, .adopt, .accept, .check, .close, .closeListener, .closeSession,
        .closeOld, .recheck, .acceptFails]).map
      (fun port => (port.created, port.closing, port.accepting)) =
        some (1, .returned, .ended) := by
    decide
  obtain ⟨port, hrun, hp⟩ := Option.map_eq_some_iff.mp hrun
  simp only [Prod.mk.injEq] at hp
  have hreach : Reachable Initial (Guarded Unclosed Step) port :=
    Reachable.replay (.start (.inl ⟨_, rfl⟩)) hrun
  exact ⟨port, hreach, hp.1, hp.2.1, hp.2.2,
    closed_port_serves_nobody hreach hp.2.1 hp.2.2 0⟩

/-- `Close` runs between the check and `adopt`; the session made then is served on. -/
theorem session_outlives_close :
    ∃ port, Reachable Initial Step port ∧ port.closing = .returned ∧
      port.accepting = .ended ∧ port.dev = some 0 ∧ (port.sessions 0).serving = true := by
  have hrun : (replay VhostUserPort.step (fun _ _ => True) { mode := .replace }
      [.accept, .check, .close, .closeListener, .closeSession, .adopt, .acceptFails]).map
      (fun port => (port.closing, port.accepting, port.dev, (port.sessions 0).serving)) =
        some (.returned, .ended, some 0, true) := by
    decide
  obtain ⟨port, hrun, hp⟩ := Option.map_eq_some_iff.mp hrun
  simp only [Prod.mk.injEq] at hp
  exact ⟨port, reachable_of_replay (.inl ⟨_, rfl⟩) hrun, hp⟩

end VhostUserPort

end GvSwitch.Ports
