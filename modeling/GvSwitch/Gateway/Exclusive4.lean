import GvSwitch.Gateway.Simulation

/-!
# Exclusive IPv4 addresses

A run of the DHCPv4 server together with the promises it has made.  RELEASE and
DECLINE act on whatever address they name, and a refused REQUEST books the
client's lease anew; otherwise no message ends or shortens a promise.
-/

namespace GvSwitch.Gateway

open Foundation Dhcp4Server Promises World

/-! ## The system -/

def Dhcp4Request.gives (req : Dhcp4Request) (ip : Addr) (promise : Promise) : Bool :=
  promise.key == req.key &&
    (req.messageType == .release && ip == req.ciaddr ||
      req.messageType == .decline && ip == req.requested)

/-- An OFFER or ACK promises its address for the configured lease time. -/
def Promises.record (promised : Promises) (req : Dhcp4Request) (expiry : Int)
    (reply : Option Dhcp4Reply) : Promises :=
  match reply with
  | none => promised
  | some sent =>
    if sent.isPromise then promised.make sent.yourIPAddr ⟨req.key, expiry⟩
    else promised

def Dhcp4Request.event (env : Env) (portID : String) (req : Dhcp4Request) : Desk.Event :=
  match req.messageType with
  | .discover | .request => .serve env (req.client portID)
  | .decline => .decline req.requested
  | _ => .withdraw

structure Dhcp4Server.Reconfigured (server after : Dhcp4Server) : Prop where
  same : after = { server with cfg := after.cfg }
  family : after.cfg.enabled = true →
    after.cfg.poolStart.is4 = true ∧ after.cfg.poolEnd.is4 = true

section Operations

variable {server after : Dhcp4Server}

theorem Dhcp4Server.setConfig_spec {cfg : DHCP4Config}
    (h : server.setConfig cfg = .ok after) : server.Reconfigured after := by
  unfold setConfig at h
  split at h
  · split at h
    · cases h
    dsimp only at h
    split at h
    · cases h
    rename_i hfamily
    simp only [Bool.or_eq_true, not_or, Bool.not_eq_true', Bool.not_eq_false] at hfamily
    split at h
    · cases h
    split at h
    · cases h
    · cases h
      exact ⟨rfl, fun _ => hfamily⟩
  · rename_i hoff
    cases h
    exact ⟨rfl, fun hon => absurd hon hoff⟩

theorem Dhcp4Server.Reconfigured.desk (h : server.Reconfigured after) (clock : Int) :
    (server.desk clock).Reconfigured (after.desk clock) := by
  refine ⟨?_, fun hon => ?_⟩
  · rw [h.same]
    rfl
  · have hstart := (h.family hon).1
    unfold Dhcp4Server.desk
    cases hpool : after.cfg.poolStart with
    | ip6 value zone => simp [hpool, Addr.is4] at hstart
    | _ => rfl

theorem Dhcp4Server.desk_releaseLease {ip : Addr} (h : server.releaseLease ip = some after)
    (clock : Int) :
    after.desk clock = { server.desk clock with leases := server.leases.drop ip } := by
  dsimp only [releaseLease] at h
  split at h
  · cases h
    rfl
  · cases h

theorem Dhcp4Server.desk_answered {env : Env} {portID : String} {req : Dhcp4Request}
    {reply : Option Dhcp4Reply} (h : server.Answered env portID req after reply) :
    (server.desk env.now).Step (req.event env portID) (after.desk env.now) ∨
      after.desk env.now = server.desk env.now := by
  cases h with
  | ignored => exact .inr rfl
  | selected ip leases _ hon hty hsel _ =>
    have hevent : req.event env portID = .serve env (req.client portID) := by
      rcases hty with hty | hty
      · simp [Dhcp4Request.event, hty]
      · simp [Dhcp4Request.event, hty]
    rw [hevent]
    exact Desk.Step.of_selected hon hsel
  | released hon hty =>
    simp only [Dhcp4Request.event, hty]
    exact .inl ((server.desk env.now).step_drop req.ciaddr)
  | declined hon hty hval =>
    simp only [Dhcp4Request.event, hty]
    exact .inl (.declined (Dhcp4Server.declined env server.cfg req) hon rfl hval)

end Operations

instance dhcp4Serves : Server Dhcp4Server DHCP4Config Dhcp4Request Dhcp4Reply where
  desk := Dhcp4Server.desk
  leaseTime server := server.cfg.leaseTime
  handle := Dhcp4Server.handle
  event env portID req := req.event env portID
  settle promised req expiry reply := (promised.endIf req.gives).record req expiry reply
  setConfig := Dhcp4Server.setConfig
  putStatic := Dhcp4Server.putStatic
  replaceStatics := Dhcp4Server.replaceStatics
  deleteStatic := Dhcp4Server.deleteStatic
  releaseLease := Dhcp4Server.releaseLease
  portDown := Dhcp4Server.portDown
  sweep := Dhcp4Server.sweep
  desk_clock _ _ _ := rfl
  desk_handle _ _ _ _ _ _ h := desk_answered (handle_answered h)
  desk_setConfig _ _ _ clock h := (setConfig_spec h).desk clock
  desk_putStatic _ _ _ clock h := .of_map (desk · clock) h fun _ => rfl
  desk_replaceStatics _ _ _ clock h := .of_map (desk · clock) h fun _ => rfl
  desk_deleteStatic _ _ _ clock h := .of_map (desk · clock) h fun _ => rfl
  desk_releaseLease _ _ _ clock h := desk_releaseLease h clock
  desk_portDown _ _ _ := rfl
  desk_sweep _ _ _ := rfl

abbrev Dhcp4World := World Dhcp4Server

abbrev Dhcp4Action := Action DHCP4Config Dhcp4Request

namespace Dhcp4World

def Initial (world : Dhcp4World) : Prop :=
  ∃ ipv4 clock, world = ⟨{ ipv4 := ipv4 }, clock, .empty⟩

theorem unused_of_initial {world : Dhcp4World} (h : Initial world) : world.desk.Unused := by
  obtain ⟨ipv4, clock, rfl⟩ := h
  exact ⟨rfl, rfl, rfl⟩

/-- RELEASE and DECLINE name no address that is leased to another client, and a
REQUEST arrives when a new lease outlasts those its client holds at other
addresses than the one it asks for. -/
def Considerate (world : Dhcp4World) : Dhcp4Action → Prop
  | .message _ _ req =>
    world.server.cfg.enabled = true →
      match req.messageType with
      | .release =>
        world.server.leases.inUse world.clock req.ciaddr req.mac req.clientIDOf = false
      | .decline =>
        world.server.leases.inUse world.clock req.requested req.mac
          req.clientIDOf = false
      | .request =>
        ∀ ip lease, world.server.leases.lease? ip = some lease →
          world.clock ≤ lease.expiry → lease.key = req.key → ip ≠ req.want →
            lease.expiry ≤ world.clock + world.server.cfg.leaseTime
      | _ => True
  | _ => True

/-! ## Messages -/

variable {world : Dhcp4World} {reply : Option Dhcp4Reply} {server : Dhcp4Server}
  {promise : Promise} {env : Env} {portID : String} {req : Dhcp4Request}

theorem record_quiet (promised : Promises) (expiry : Int)
    (hq : ∀ sent, reply = some sent → sent.isPromise = false) :
    promised.record req expiry reply = promised := by
  cases reply with
  | none => rfl
  | some sent => simp [record, hq sent rfl]

/-- Whoever holds an address that nobody else uses ends its own promise. -/
theorem gives_of_free (h : Sound world) {ip : Addr}
    (hprom : world.promised.endIf req.gives ip = some promise)
    (hruns : world.clock ≤ promise.expiry)
    (hfree : world.server.leases.inUse world.clock ip req.mac req.clientIDOf = false) :
    req.gives ip promise = false ∧ promise.key = req.key := by
  obtain ⟨hb, hkept⟩ := (endIf_eq_some_iff _ _ _ _).mp hprom
  exact ⟨hkept, h.key_eq hb hruns hfree⟩

theorem sound_selected (h : Sound world) (hcons : Considerate world (.message env portID req))
    (hon : world.server.cfg.enabled = true) {ip : Addr} {leases : LeaseTable}
    (hsel : Selected (world.server.desk world.clock) { env with now := world.clock }
      (req.client portID) (world.clock + world.server.cfg.leaseTime) (ip, leases))
    (hreply : (∃ sent, reply = some sent ∧ sent.isPromise = true ∧
        sent.yourIPAddr = ip ∧ ip.isValid = true) ∨
      (∀ sent, reply = some sent → sent.isPromise = false) ∧
        (ip = .invalid ∨ req.messageType = .request ∧ ip ≠ req.want)) :
    Backed leases world.clock ((world.promised.endIf req.gives).record req
      (world.clock + world.server.cfg.leaseTime) reply) := by
  have hended := h.endIf req.gives
  cases hsel with
  | nothing =>
    rcases hreply with ⟨-, -, -, -, hval⟩ | ⟨hq, -⟩
    · cases hval
    · rw [record_quiet _ _ hq]
      exact hended
  | booked lease hkey hexpiry hchoice =>
    have hown : lease.key = req.key := hkey
    rcases hreply with ⟨sent, rfl, hprom, hip, hval⟩ | ⟨hq, ho⟩
    · have hbook := hended.book lease hval
      rw [hown, hexpiry] at hbook
      simp only [record, hprom, if_true, hip]
      exact hbook
    · rw [record_quiet _ _ hq]
      refine hended.set lease fun promise hprom hruns => ?_
      obtain ⟨-, hpromKey⟩ := gives_of_free h hprom hruns hchoice.free
      rcases ho with hinv | ⟨hty, hne⟩
      · simp [hinv, hended.invalid] at hprom
      · -- The lease the promise relies on is booked anew, for as long.
        have hkeeps := hcons hon
        rw [hty] at hkeeps
        obtain ⟨held, hl, hheldKey, hlast⟩ := hended.lease lease.ip promise hprom hruns
        have hlater := hkeeps lease.ip held hl (Int.le_trans hruns hlast)
          (hheldKey.trans hpromKey) hne
        exact ⟨hown.trans hpromKey.symm, hexpiry ▸ Int.le_trans hlast hlater⟩

theorem sound_answered (h : Sound world) (hcons : Considerate world (.message env portID req))
    (hd : world.server.Answered { env with now := world.clock } portID req server reply) :
    Backed server.leases world.clock ((world.promised.endIf req.gives).record req
      (world.clock + world.server.cfg.leaseTime) reply) := by
  have hended := h.endIf req.gives
  cases hd with
  | ignored _ hq =>
    rw [record_quiet _ _ hq]
    exact hended
  | selected ip leases _ hon _ hsel hreply => exact sound_selected h hcons hon hsel hreply
  | released hon hty =>
    have hfree := hcons hon
    rw [hty] at hfree
    refine hended.drop req.ciaddr fun promise hprom => ?_
    by_contra hruns
    obtain ⟨hkept, hkey⟩ := gives_of_free h hprom (Int.not_lt.mp hruns) hfree
    simp [Dhcp4Request.gives, hty, hkey] at hkept
  | declined hon hty =>
    have hfree := hcons hon
    rw [hty] at hfree
    refine hended.set _ fun promise hprom hruns => ?_
    obtain ⟨hkept, hkey⟩ := gives_of_free h hprom hruns hfree
    simp [Dhcp4Request.gives, hty, hkey, declined] at hkept

/-! ## Whole runs -/

theorem sound_of_reachable (h : Reachable Initial (Guarded Considerate Step) world) :
    Sound world := by
  refine Reachable.induct ?_ ?_ h
  · rintro state ⟨ipv4, clock, rfl⟩
    exact backed_empty _ _
  · rintro state action after - ih ⟨hcons, reply, happly⟩
    refine ih.step happly fun env portID req server hres haction => ?_
    subst haction
    exact sound_answered ih hcons (handle_answered hres)

/-- Nobody else is promised an address before its promise runs out, and no
message of another client takes the promise or its lease away. -/
structure Exclusive (world : Dhcp4World) : Prop where
  leased : ∀ ip promise, world.promised ip = some promise →
    world.clock ≤ promise.expiry →
      ∃ lease, world.server.leases.lease? ip = some lease ∧ lease.key = promise.key ∧
        promise.expiry ≤ lease.expiry
  promised : ∀ env portID req after sent,
    world.apply (.message env portID req) = some (after, some sent) →
      sent.messageType = .offer ∨ sent.messageType = .ack →
        ∀ promise, world.promised sent.yourIPAddr = some promise →
          world.clock ≤ promise.expiry → promise.key = req.key
  undisturbed : ∀ env portID req after,
    Guarded Considerate Step world (.message env portID req) after →
      ∀ ip promise, world.promised ip = some promise → world.clock ≤ promise.expiry →
        promise.key ≠ req.key → after.promised ip = some promise

theorem promised_key (h : Sound world) {sent : Dhcp4Reply}
    (hd : world.server.Answered { env with now := world.clock } portID req server
      (some sent)) (hprom : sent.isPromise = true)
    (hh : world.promised sent.yourIPAddr = some promise)
    (hruns : world.clock ≤ promise.expiry) : promise.key = req.key := by
  cases hd with
  | ignored _ hq => exact absurd (hq sent rfl) (by simp [hprom])
  | selected ip leases _ _ _ hsel hreply =>
    rcases hreply with ⟨other, ho, -, hip, hval⟩ | ⟨hq, -⟩
    · cases ho
      rw [hip] at hh
      cases hsel with
      | nothing => cases hval
      | booked lease _ _ hchoice => exact h.key_eq hh hruns hchoice.free
    · exact absurd (hq sent rfl) (by simp [hprom])

theorem undisturbed (h : Sound world)
    (hd : world.server.Answered { env with now := world.clock } portID req server reply)
    {ip : Addr} (hh : world.promised ip = some promise)
    (hruns : world.clock ≤ promise.expiry) (ho : promise.key ≠ req.key) (expiry : Int) :
    (world.promised.endIf req.gives).record req expiry reply ip = some promise := by
  have hkept : world.promised.endIf req.gives ip = some promise := by
    rw [endIf_eq_some_iff]
    exact ⟨hh, by simp [Dhcp4Request.gives, ho]⟩
  cases reply with
  | none => exact hkept
  | some sent =>
    by_cases hprom : sent.isPromise = true
    · simp only [record, hprom, if_true]
      have hne : ip ≠ sent.yourIPAddr := by
        rintro rfl
        exact ho (promised_key h hd hprom hh hruns)
      simpa [make, Function.update_of_ne hne] using hkept
    · rwa [record, if_neg hprom]

/-! ## Two clients -/

def storageOrder : Env :=
  ⟨0, id, id, fun keys => .refl keys, fun keys => .refl keys⟩

/-- Gateway 10.0.0.1/24 with a pool of eleven addresses and leases of an hour. -/
def serving : Dhcp4Action := .setConfig {
  enabled := true
  poolStart := .ip4 0x0a00000a
  poolEnd := .ip4 0x0a000014
  leaseTime := defaultLeaseTime }

def clientA : Bytes := [2, 0, 0, 0, 0, 1]

def clientB : Bytes := [2, 0, 0, 0, 0, 2]

def discoverA : Dhcp4Action :=
  .message storageOrder "a" ⟨true, .discover, clientA, [], none, 0, false⟩

def releaseB : Dhcp4Action :=
  .message storageOrder "b" ⟨true, .release, clientB, [], none, 0x0a00000a, false⟩

def discoverB : Dhcp4Request :=
  ⟨true, .discover, clientB, [], some 0x0a00000a, 0, false⟩

def initialWorld : Dhcp4World := ⟨{ ipv4 := some ⟨0x0a000001, 24⟩ }, 0, .empty⟩

def servingWorld : Dhcp4World := initialWorld.after serving

def offeredWorld : Dhcp4World := servingWorld.after discoverA

theorem reachable_offeredWorld :
    Reachable Initial (Guarded Considerate Step) offeredWorld :=
  reachable_run initialWorld [serving, discoverA] ⟨_, _, rfl⟩
    ⟨⟨trivial, rfl⟩, ⟨fun _ => trivial, rfl⟩, trivial⟩

/-- As long as clients only give back what is theirs and leases are not cut
short, an address stays with the client it was promised to. -/
theorem promised_address_exclusive
    (h : Reachable Initial (Guarded Considerate Step) world) : Exclusive world := by
  have hsound := sound_of_reachable h
  refine ⟨hsound.lease, ?_, ?_⟩
  · intro env portID req after sent happly hty promise hh hruns
    obtain ⟨result, hres, heq⟩ := Option.map_eq_some_iff.mp happly
    obtain ⟨server, reply⟩ := result
    cases heq
    refine promised_key hsound (handle_answered hres) ?_ hh hruns
    rcases hty with hty | hty
    · simp [Dhcp4Reply.isPromise, hty]
    · simp [Dhcp4Reply.isPromise, hty]
  · intro env portID req after hstep ip promise hh hruns ho
    obtain ⟨-, reply, happly⟩ := hstep
    obtain ⟨result, hres, heq⟩ := Option.map_eq_some_iff.mp happly
    cases heq
    exact undisturbed hsound (handle_answered hres) hh hruns ho _

theorem promised_address_exclusive_offered :
    Reachable Initial (Guarded Considerate Step) offeredWorld ∧
      offeredWorld.promised (.ip4 0x0a00000a) =
        some ⟨"02:00:00:00:00:01/", defaultLeaseTime⟩ ∧ Exclusive offeredWorld :=
  ⟨reachable_offeredWorld, by decide, promised_address_exclusive reachable_offeredWorld⟩

/-- A second client releases the address of the first and is offered it. -/
theorem foreign_release_frees_address :
    ∃ world after sent promise, Reachable Initial Step world ∧
      world.apply (.message storageOrder "b" discoverB) = some (after, some sent) ∧
      sent.messageType = .offer ∧ world.promised sent.yourIPAddr = some promise ∧
      world.clock ≤ promise.expiry ∧ promise.key = "02:00:00:00:00:01/" ∧
      discoverB.key = "02:00:00:00:00:02/" := by
  have hoffered := reachable_offeredWorld.mono fun _ _ _ hstep => hstep.2
  have hreleased : Step offeredWorld releaseB (offeredWorld.after releaseB) :=
    step_after rfl
  refine ⟨offeredWorld.after releaseB, _, _, ⟨_, defaultLeaseTime⟩,
    .next hoffered hreleased, rfl, rfl, ?_, ?_, rfl, ?_⟩
  · decide
  · decide
  · decide

end Dhcp4World

end GvSwitch.Gateway
