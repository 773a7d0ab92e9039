import GvSwitch.Foundation.Runs
import GvSwitch.VhostUser.Dataplane
import GvSwitch.VhostUser.Device

/-!
# Sessions with a transmit pump

The control messages of a session, the goroutines that run `txPump`, and the
guest, step by step.  A descriptor stands for the `os.File` made from it, so that
a closed one is not mistaken for a later one of the same number; several files
may refer to one eventfd.  What the guest made available before the ring was
last started, resumed or kicked, and what is not drained yet, is counted beside
the state.
-/

namespace GvSwitch.VhostUser

open Foundation

/-- Where a pump is: before the lock, at the handlers, in `Read`, or in its
deferred function. -/
inductive Phase where
  | draining
  | delivering
  | reading
  | exiting
  deriving DecidableEq, Repr

structure Pump where
  kick : Nat
  phase : Phase := .draining
  deriving DecidableEq, Repr

structure Session where
  device : NetDevice
  host : Host
  received : List Nat := []
  closed : List Nat := []
  /-- The eventfds with something to read. -/
  pending : Nat → Bool
  pumps : List Pump := []
  owed : Nat := 0

namespace Session

inductive Move where
  | message (mmap : Mmap) (replySent : Bool) (message : Message)
  | close
  | guest (host : Host)
  | kick (event : Nat)
  | drain (position : Nat)
  | deliver (position : Nat)
  | read (position : Nat)
  | readFails (position : Nat)
  | exit (position : Nat)

variable (eventOf : Nat → Nat) (session : Session)

def tx : Vring := session.device.rings txQueue

def available : Nat := session.tx.available session.host

/-! ## Control messages -/

/-- Writing to a closed file does nothing.  The state handler is called each time
the transmit ring is started or resumed. -/
def perform (session : Session) : Effect → Session
  | .closeFd fd => { session with closed := fd :: session.closed }
  | .startPump kick => { session with pumps := session.pumps ++ [⟨kick, .draining⟩] }
  | .poke kick =>
    if kick ∈ session.closed then session
    else { session with pending := Function.update session.pending (eventOf kick) true }
  | .up => { session with owed := session.available }
  | .unmap _ | .reply _ _ => session

def answered (device : NetDevice) (effects : List Effect) (fds : List Nat) : Session :=
  effects.foldl (perform eventOf)
    { session with device := device, received := fds ++ session.received }

/-! ## The pump -/

def Adding (plane : Dataplane) : Dataplane.Move → Prop
  | .guest host => plane.ring.available plane.host ≤ plane.ring.available host
  | .turn => True
  | _ => False

def plane (table : MemTable) : Dataplane where
  ring := session.tx
  mem := table
  mrgRxbuf := session.device.features &&& featNetMrgRxbuf != 0
  host := session.host
  call := .draining [] 0

def drained (plane : Dataplane) : Session :=
  { session with
    device := session.device.setRing txQueue plane.ring
    host := plane.host
    owed := session.owed - plane.consumed.length }

def Drains (after : Session) : Prop :=
  match session.tx.started, session.device.mem with
  | true, some table =>
    ∃ plane frames,
      Reachable (fun first => first = session.plane table)
          (Guarded Adding Dataplane.Step) plane ∧
        plane.call = .returned (.frames frames) ∧ after = session.drained plane
  | _, _ => after = session

def moveTo (position : Nat) (phase : Phase) : Session :=
  { session with pumps := session.pumps.modify position ({ · with phase := phase }) }

/-- The deferred function: hand over to a fresh pump if the ring is live. -/
def handOver (position : Nat) : Session :=
  let running (value : Bool) :=
    session.device.setRing txQueue { session.tx with pumpRunning := value }
  let rest := session.pumps.eraseIdx position
  match session.tx.started, session.tx.kick with
  | true, some kick =>
    { session with device := running true, pumps := rest ++ [⟨kick, .draining⟩] }
  | _, _ => { session with device := running false, pumps := rest }

/-! ## Runs -/

def At (position : Nat) (pump : Pump) (phase : Phase) : Prop :=
  session.pumps[position]? = some pump ∧ pump.phase = phase

def Step (session : Session) : Move → Session → Prop
  | .message mmap replySent message, after =>
    ∃ device effects err,
      session.device.handle message ⟨session.host, mmap, replySent⟩ =
          some (device, effects, err) ∧
        after = session.answered eventOf device effects message.fds
  | .close, after =>
    after = session.answered eventOf session.device.close.1 session.device.close.2 []
  | .guest host, after => after = { session with host := host }
  | .kick event, after =>
    after = { session with
      pending := Function.update session.pending event true
      owed := if session.tx.kick.map eventOf = some event then session.available
        else session.owed }
  | .drain position, after =>
    ∃ pump middle, session.At position pump .draining ∧ session.Drains middle ∧
      after = middle.moveTo position .delivering
  | .deliver position, after =>
    ∃ pump, session.At position pump .delivering ∧
      after = session.moveTo position .reading
  -- A read that is under way may still succeed when the file is closed.
  | .read position, after =>
    ∃ pump, session.At position pump .reading ∧
      session.pending (eventOf pump.kick) = true ∧
      after = { session.moveTo position .draining with
        pending := Function.update session.pending (eventOf pump.kick) false }
  | .readFails position, after =>
    ∃ pump, session.At position pump .reading ∧
      after = session.moveTo position .exiting
  | .exit position, after =>
    ∃ pump, session.At position pump .exiting ∧ after = session.handOver position

def Initial (session : Session) : Prop :=
  ∃ accessPlatform host pending,
    session = { device := .newNetDevice accessPlatform, host := host, pending := pending }

end Session

end GvSwitch.VhostUser
