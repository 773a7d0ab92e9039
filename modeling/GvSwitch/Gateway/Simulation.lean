import GvSwitch.Foundation.Runs
import GvSwitch.Gateway.Promise
import GvSwitch.Gateway.Serving

/-!
# Servers as desks

What the servers of both families have in common.  Every operation is a step of
the server's desk, or changes nothing there, so that what holds of all runs of a
desk holds of all runs of both servers.
-/

namespace GvSwitch.Gateway

open Foundation

/-! ## Desks at work -/

namespace Desk

def Unused (desk : Desk) : Prop :=
  desk.enabled = false ∧ desk.statics = .empty ∧ desk.leases = .newLeaseTable

structure Reconfigured (desk after : Desk) : Prop where
  same : after = { desk with
    enabled := after.enabled, poolStart := after.poolStart, poolEnd := after.poolEnd }
  zone : after.enabled = true → after.poolStart.zone = ""

def Rebound (desk after : Desk) : Prop := after = { desk with statics := after.statics }

variable {desk after : Desk}

theorem Reconfigured.step (h : desk.Reconfigured after) :
    desk.Step (.configure after.enabled after.poolStart after.poolEnd) after := by
  have hstep := @Step.configured desk _ _ after.poolEnd h.zone
  rw [← h.same] at hstep
  exact hstep

theorem Rebound.of_map {σ ε α : Type} (view : σ → Desk) {server next : σ} {bind : α → σ}
    {result : Except ε α} (h : result.map bind = .ok next)
    (hbind : ∀ set, (view server).Rebound (view (bind set))) :
    (view server).Rebound (view next) := by
  cases result with
  | error reason => cases h
  | ok set =>
    cases h
    exact hbind set

theorem Rebound.step (h : desk.Rebound after) :
    desk.Step (.rebind after.statics) after := by
  have hstep := @Step.rebound desk after.statics
  rw [← h] at hstep
  exact hstep

theorem step_drop (desk : Desk) (ip : Addr) :
    desk.Step .withdraw { desk with leases := desk.leases.drop ip } := by
  refine .withdrawn _ fun other lease hl => ?_
  rw [LeaseTable.lease?_drop] at hl
  split at hl
  · cases hl
  · exact hl

theorem step_filter (desk : Desk) (keep : Lease → Bool) :
    desk.Step .withdraw { desk with leases := desk.leases.filter keep } := by
  refine .withdrawn _ fun ip lease hl => ?_
  rw [LeaseTable.lease?_filter] at hl
  exact (Option.filter_eq_some_iff.mp hl).1

theorem Step.of_selected {env : Env} {client : Client} {expiry : Int} {ip : Addr}
    {leases : LeaseTable} (hon : desk.enabled = true)
    (h : Selected desk env client expiry (ip, leases)) :
    desk.Step (.serve env client) { desk with leases := leases } ∨
      { desk with leases := leases } = desk := by
  cases h with
  | nothing => exact .inr rfl
  | booked lease hkey _ hchoice =>
    exact .inl (.served env client lease hon hkey hchoice)

end Desk

/-! ## Servers -/

/-- A server `σ` with configurations `κ`, messages `μ` and replies `ρ`. -/
class Server (σ : Type) (κ μ ρ : outParam Type) where
  desk : σ → Int → Desk
  leaseTime : σ → Int
  handle : σ → Env → String → μ → Option (σ × Option ρ)
  /-- What a message asks of the desk. -/
  event : Env → String → μ → Desk.Event
  /-- What a message and its answer make of the promises. -/
  settle : Promises → μ → Int → Option ρ → Promises
  setConfig : σ → κ → Except ConfigError σ
  putStatic : σ → StaticBinding → Except BindingError σ
  replaceStatics : σ → List StaticBinding → Except BindingError σ
  deleteStatic : σ → String → Except BindingError σ
  releaseLease : σ → Addr → Option σ
  portDown : σ → String → σ
  sweep : σ → Int → σ
  desk_clock : ∀ server clock later,
    desk server later = { desk server clock with clock := later }
  desk_handle : ∀ server env portID msg after reply,
    handle server env portID msg = some (after, reply) →
      (desk server env.now).Step (event env portID msg) (desk after env.now) ∨
        desk after env.now = desk server env.now
  desk_setConfig : ∀ server cfg after clock, setConfig server cfg = .ok after →
    (desk server clock).Reconfigured (desk after clock)
  desk_putStatic : ∀ server binding after clock, putStatic server binding = .ok after →
    (desk server clock).Rebound (desk after clock)
  desk_replaceStatics : ∀ server bindings after clock,
    replaceStatics server bindings = .ok after →
      (desk server clock).Rebound (desk after clock)
  desk_deleteStatic : ∀ server id after clock, deleteStatic server id = .ok after →
    (desk server clock).Rebound (desk after clock)
  desk_releaseLease : ∀ server ip after clock, releaseLease server ip = some after →
    desk after clock =
      { desk server clock with leases := (desk server clock).leases.drop ip }
  desk_portDown : ∀ server portID clock, desk (portDown server portID) clock =
    { desk server clock with leases := (desk server clock).leases.releaseByPort portID }
  desk_sweep : ∀ server now clock, desk (sweep server now) clock =
    { desk server clock with leases := (desk server clock).leases.expireSweep now }

/-! ## The system -/

/-- A server, the clock and the promises the server has made. -/
structure World (σ : Type) where
  server : σ
  clock : Int
  promised : Promises

inductive Action (κ μ : Type) where
  | message (env : Env) (portID : String) (msg : μ)
  | setConfig (cfg : κ)
  | putStatic (binding : StaticBinding)
  | replaceStatics (bindings : List StaticBinding)
  | deleteStatic (id : String)
  | releaseLease (ip : Addr)
  | portDown (portID : String)
  | sweep
  | advance (duration : Nat)

variable {σ κ μ ρ : Type} [Server σ κ μ ρ]

namespace World

/-- A call that fails leaves the server as it is. -/
def attempt {ε : Type} (world : World σ) (result : Except ε σ) : World σ :=
  match result with
  | .error _ => world
  | .ok server => { world with server := server }

def desk (world : World σ) : Desk := Server.desk world.server world.clock

def apply (world : World σ) : Action κ μ → Option (World σ × Option ρ)
  | .message env portID msg =>
    let expiry := world.clock + Server.leaseTime world.server
    (Server.handle world.server { env with now := world.clock } portID msg).map
      fun result =>
        ({ world with
            server := result.1
            promised := Server.settle σ world.promised msg expiry result.2 }, result.2)
  | .setConfig cfg => some (world.attempt (Server.setConfig world.server cfg), none)
  | .putStatic binding => some (world.attempt (Server.putStatic world.server binding), none)
  | .replaceStatics bindings =>
    some (world.attempt (Server.replaceStatics world.server bindings), none)
  | .deleteStatic id => some (world.attempt (Server.deleteStatic world.server id), none)
  | .releaseLease ip =>
    some ({ world with
      server := (Server.releaseLease world.server ip).getD world.server
      promised := world.promised.endIf fun other _ => other == ip }, none)
  | .portDown portID =>
    some ({ world with
      server := Server.portDown world.server portID
      promised := world.promised.endIf fun ip _ =>
        (world.desk.leases.lease? ip).any (·.portID == portID) }, none)
  | .sweep => some ({ world with server := Server.sweep world.server world.clock }, none)
  | .advance duration => some ({ world with clock := world.clock + duration }, none)

def Step (world : World σ) (action : Action κ μ) (after : World σ) : Prop :=
  ∃ reply, world.apply action = some (after, reply)

def after (world : World σ) (action : Action κ μ) : World σ :=
  ((world.apply action).map (·.1)).getD world

variable {world next : World σ} {action : Action κ μ} {reply : Option ρ}

theorem step_after (h : (world.apply action).isSome = true) :
    Step world action (world.after action) := by
  obtain ⟨result, hres⟩ := Option.isSome_iff_exists.mp h
  exact ⟨result.2, by simp [after, hres]⟩

theorem reachable_run {init : World σ → Prop} {ok : World σ → Action κ μ → Prop}
    (start : World σ) (actions : List (Action κ μ)) (hinit : init start)
    (hrun : Along after (fun world action => ok world action ∧
      (world.apply action).isSome = true) start actions) :
    Reachable init (Guarded ok Step) (actions.foldl after start) :=
  .along id (fun _ _ hok => ⟨hok.1, step_after hok.2⟩) (.start hinit) hrun

/-! ## The desk -/

/-- What a call asks of the desk, unless it fails. -/
def call {ε : Type} (world : World σ) (asked : Desk → Desk.Event) (result : Except ε σ) :
    Desk.Event :=
  match result with
  | .ok server => asked (Server.desk server world.clock)
  | .error _ => .withdraw

def event (world : World σ) : Action κ μ → Desk.Event
  | .message env portID msg => Server.event σ { env with now := world.clock } portID msg
  | .setConfig cfg =>
    world.call (fun desk => .configure desk.enabled desk.poolStart desk.poolEnd)
      (Server.setConfig world.server cfg)
  | .putStatic binding =>
    world.call (fun desk => .rebind desk.statics) (Server.putStatic world.server binding)
  | .replaceStatics bindings =>
    world.call (fun desk => .rebind desk.statics)
      (Server.replaceStatics world.server bindings)
  | .deleteStatic id =>
    world.call (fun desk => .rebind desk.statics) (Server.deleteStatic world.server id)
  | .releaseLease _ | .portDown _ | .sweep => .withdraw
  | .advance duration => .advance duration

theorem desk_call {ε : Type} {asked : Desk → Desk.Event} {result : Except ε σ}
    (hok : ∀ server, result = .ok server →
      world.desk.Step (asked (Server.desk server world.clock))
        (Server.desk server world.clock)) :
    world.desk.Step (world.call asked result) (world.attempt result).desk ∨
      (world.attempt result).desk = world.desk := by
  cases result with
  | error reason => exact .inr rfl
  | ok server => exact .inl (hok server rfl)

theorem desk_step (h : Step world action next) :
    world.desk.Step (world.event action) next.desk ∨ next.desk = world.desk := by
  obtain ⟨reply, happly⟩ := h
  cases action with
  | message env portID msg =>
    obtain ⟨result, hres, heq⟩ := Option.map_eq_some_iff.mp happly
    cases heq
    exact Server.desk_handle _ _ _ _ _ _ hres
  | setConfig cfg =>
    cases happly
    rw [event]
    refine desk_call fun _ hres => ?_
    exact (Server.desk_setConfig _ _ _ world.clock hres).step
  | putStatic binding =>
    cases happly
    rw [event]
    refine desk_call fun _ hres => ?_
    exact (Server.desk_putStatic _ _ _ world.clock hres).step
  | replaceStatics bindings =>
    cases happly
    rw [event]
    refine desk_call fun _ hres => ?_
    exact (Server.desk_replaceStatics _ _ _ world.clock hres).step
  | deleteStatic id =>
    cases happly
    rw [event]
    refine desk_call fun _ hres => ?_
    exact (Server.desk_deleteStatic _ _ _ world.clock hres).step
  | releaseLease ip =>
    cases happly
    cases hres : Server.releaseLease world.server ip with
    | none => exact .inr rfl
    | some server =>
      have hdrop := world.desk.step_drop ip
      rw [desk, ← Server.desk_releaseLease _ _ _ world.clock hres] at hdrop
      exact .inl hdrop
  | portDown portID =>
    cases happly
    have hfilter : world.desk.Step .withdraw { world.desk with
        leases := world.desk.leases.releaseByPort portID } := world.desk.step_filter _
    rw [desk, ← Server.desk_portDown] at hfilter
    exact .inl hfilter
  | sweep =>
    cases happly
    have hfilter : world.desk.Step .withdraw { world.desk with
        leases := world.desk.leases.expireSweep world.clock } := world.desk.step_filter _
    rw [desk, ← Server.desk_sweep] at hfilter
    exact .inl hfilter
  | advance duration =>
    cases happly
    have hclock := congrArg Desk.clock (Server.desk_clock world.server world.clock world.clock)
    have hadvance := @Desk.Step.advanced world.desk duration
    rw [desk, ← Server.desk_clock _ world.clock, hclock] at hadvance
    exact .inl hadvance

def Meets (ok : Desk → Desk.Event → Prop) (world : World σ) (action : Action κ μ) : Prop :=
  ok world.desk (world.event action)

theorem reachable_desk {init : World σ → Prop} {init' : Desk → Prop}
    (hinit : ∀ world, init world → init' world.desk) {ok : Desk → Desk.Event → Prop}
    (h : Reachable init (Guarded (Meets ok) Step) world) :
    Reachable init' (Guarded ok Desk.Step) world.desk := by
  refine h.simulate desk hinit ?_
  rintro state action after ⟨hmeets, hstep⟩
  rcases desk_step hstep with hmatch | hs
  · exact .inl ⟨_, hmeets, hmatch⟩
  · exact .inr hs

/-! ## Backed promises -/

def Sound (world : World σ) : Prop := Backed world.desk.leases world.clock world.promised

theorem Sound.attempt (h : Sound world) {ε : Type} {result : Except ε σ}
    (hleases : ∀ server, result = .ok server →
      (Server.desk server world.clock).leases = world.desk.leases) :
    Sound (world.attempt result) := by
  cases result with
  | error reason => exact h
  | ok server =>
    unfold Sound World.attempt desk
    rw [hleases server rfl]
    exact h

/-- The operator, the ports and the clock end promises only along with their leases. -/
theorem Sound.step (h : Sound world) (happly : world.apply action = some (next, reply))
    (hmessage : ∀ env portID msg server,
      Server.handle world.server { env with now := world.clock } portID msg =
        some (server, reply) → action = .message env portID msg →
      Backed (Server.desk server world.clock).leases world.clock
        (Server.settle σ world.promised msg (world.clock + Server.leaseTime world.server)
          reply)) : Sound next := by
  cases action with
  | message env portID msg =>
    obtain ⟨result, hres, heq⟩ := Option.map_eq_some_iff.mp happly
    cases heq
    exact hmessage env portID msg result.1 hres rfl
  | setConfig cfg =>
    cases happly
    refine h.attempt fun server hres => ?_
    rw [(Server.desk_setConfig _ _ _ world.clock hres).same]
    rfl
  | putStatic binding =>
    cases happly
    refine h.attempt fun server hres => ?_
    rw [Server.desk_putStatic _ _ _ world.clock hres]
    rfl
  | replaceStatics bindings =>
    cases happly
    refine h.attempt fun server hres => ?_
    rw [Server.desk_replaceStatics _ _ _ world.clock hres]
    rfl
  | deleteStatic id =>
    cases happly
    refine h.attempt fun server hres => ?_
    rw [Server.desk_deleteStatic _ _ _ world.clock hres]
    rfl
  | releaseLease ip =>
    cases happly
    unfold Sound desk
    cases hres : Server.releaseLease world.server ip with
    | none => exact h.endIf _
    | some server =>
      rw [Option.getD_some, Server.desk_releaseLease _ _ _ _ hres]
      exact h.forceRelease ip
  | portDown portID =>
    cases happly
    unfold Sound desk
    rw [Server.desk_portDown]
    exact h.releaseByPort portID
  | sweep =>
    cases happly
    unfold Sound desk
    rw [Server.desk_sweep]
    exact h.expireSweep
  | advance duration =>
    cases happly
    unfold Sound desk
    rw [Server.desk_clock _ world.clock]
    exact h.advance (Int.le_add_of_nonneg_right (Int.natCast_nonneg duration))

end World

end GvSwitch.Gateway
