import GvSwitch.Gateway.Exclusive4

/-!
# Exclusive IPv6 addresses

A run of the DHCPv6 server together with the promises it has made.  A client is
promised the address that the latest reply to it carried, until it releases it.
RELEASE acts on the lease of its sender only, so that no condition on the
messages is needed.  But leases are kept by address and zone, and a reply carries
no zone.
-/

namespace GvSwitch.Gateway

open Foundation Dhcp6Server Promises World

/-! ## The system -/

/-- The client of a promise releases its address, or gets a reply that carries
none. -/
def Dhcp6Message.ends (msg : Dhcp6Message) (reply : Option Dhcp6Reply)
    (promise : Promise) : Bool :=
  msg.key? == some promise.key &&
    (msg.messageType == .release || reply.any (·.carried.isNone))

def Promises.settle (promised : Promises) (msg : Dhcp6Message) (expiry : Int)
    (reply : Option Dhcp6Reply) : Promises :=
  let kept := promised.endIf fun _ promise => msg.ends reply promise
  match msg.key?, reply.bind (·.carried) with
  | some key, some ip => kept.make ip ⟨key, expiry⟩
  | _, _ => kept

def Dhcp6Message.event (env : Env) (portID : String) (msg : Dhcp6Message) : Desk.Event :=
  match msg.clientID, msg.messageType with
  | some duid, .solicit | some duid, .request | some duid, .renew | some duid, .rebind =>
    .serve env (msg.client portID duid)
  | _, _ => .withdraw

section Operations

variable {server after : Dhcp6Server}

theorem Dhcp6Server.desk_setConfig {cfg : DHCP6Config} (h : server.setConfig cfg = .ok after)
    (clock : Int) : (server.desk clock).Reconfigured (after.desk clock) := by
  unfold setConfig at h
  split at h
  · split at h
    · cases h
    dsimp only at h
    split at h
    · cases h
    split at h
    · cases h
    split at h
    · cases h
    · rename_i hinside
      simp only [Addr.inNetwork, Bool.or_eq_true, Bool.not_eq_true', not_or,
        Bool.not_eq_false, Bool.and_eq_true, beq_iff_eq] at hinside
      cases h
      exact ⟨rfl, fun _ => hinside.1.1.1.1.1.2⟩
  · rename_i hoff
    cases h
    exact ⟨rfl, fun hon => absurd hon hoff⟩

theorem Dhcp6Server.desk_releaseLease {ip : Addr} (h : server.releaseLease ip = some after)
    (clock : Int) :
    after.desk clock = { server.desk clock with leases := server.leases.drop ip } := by
  dsimp only [releaseLease] at h
  split at h
  · cases h
    rfl
  · cases h

theorem Dhcp6Server.desk_answered {env : Env} {portID : String} {msg : Dhcp6Message}
    {reply : Option Dhcp6Reply} (h : server.Answered env portID msg after reply) :
    (server.desk env.now).Step (msg.event env portID) (after.desk env.now) ∨
      after.desk env.now = server.desk env.now := by
  cases h with
  | ignored => exact .inr rfl
  | selected duid ip leases _ hon hduid hty hsel _ =>
    have hevent : msg.event env portID = .serve env (msg.client portID duid) := by
      simp only [List.mem_cons, List.not_mem_nil, or_false] at hty
      rcases hty with hty | hty | hty | hty <;> simp [Dhcp6Message.event, hduid, hty]
    rw [hevent]
    exact Desk.Step.of_selected hon hsel
  | released duid lease _ _ hduid hty _ _ =>
    have hevent : msg.event env portID = .withdraw := by
      simp [Dhcp6Message.event, hduid, hty]
    rw [hevent]
    exact .inl ((server.desk env.now).step_drop lease.ip)

end Operations

instance dhcp6Serves : Server Dhcp6Server DHCP6Config Dhcp6Message Dhcp6Reply where
  desk := Dhcp6Server.desk
  leaseTime server := server.cfg.leaseTime
  handle := Dhcp6Server.handle
  event env portID msg := msg.event env portID
  settle := Promises.settle
  setConfig := Dhcp6Server.setConfig
  putStatic := Dhcp6Server.putStatic
  replaceStatics := Dhcp6Server.replaceStatics
  deleteStatic := Dhcp6Server.deleteStatic
  releaseLease := Dhcp6Server.releaseLease
  portDown := Dhcp6Server.portDown
  sweep := Dhcp6Server.sweep
  desk_clock _ _ _ := rfl
  desk_handle _ _ _ _ _ _ h := desk_answered (handle_answered h)
  desk_setConfig _ _ _ clock h := desk_setConfig h clock
  desk_putStatic _ _ _ clock h := .of_map (desk · clock) h fun _ => rfl
  desk_replaceStatics _ _ _ clock h := .of_map (desk · clock) h fun _ => rfl
  desk_deleteStatic _ _ _ clock h := .of_map (desk · clock) h fun _ => rfl
  desk_releaseLease _ _ _ clock h := desk_releaseLease h clock
  desk_portDown _ _ _ := rfl
  desk_sweep _ _ _ := rfl

abbrev Dhcp6World := World Dhcp6Server

abbrev Dhcp6Action := Action DHCP6Config Dhcp6Message

def Dhcp6World.Initial (world : Dhcp6World) : Prop :=
  ∃ ipv6 mac clock, world = ⟨{ ipv6 := ipv6, mac := mac }, clock, .empty⟩

theorem Dhcp6World.unused_of_initial {world : Dhcp6World} (h : Initial world) :
    world.desk.Unused := by
  obtain ⟨ipv6, mac, clock, rfl⟩ := h
  exact ⟨rfl, rfl, rfl⟩

/-! ## Zones -/

namespace Desk

/-- No binding's address has a zone. -/
def Plain (_ : Desk) : Event → Prop
  | .rebind statics => ∀ ip, Bound statics ip → ip.zone = ""
  | _ => True

structure Unzoned (desk : Desk) : Prop where
  bindings : ∀ ip, Bound desk.statics ip → ip.zone = ""
  leases : ∀ ip lease, desk.leases.lease? ip = some lease → lease.key ≠ declinedKey →
    ip.zone = ""
  pool : desk.enabled = true → desk.poolStart.zone = ""

variable {desk after : Desk} {event : Event} {env : Env} {client : Client} {ip : Addr}

theorem Unzoned.choice (h : Unzoned desk) (hon : desk.enabled = true)
    (hchoice : desk.Choice env client ip) : ip.zone = "" := by
  cases hchoice with
  | bound binding hmat _ => exact h.bindings _ (bound_of_matched hmat)
  | kept lease _ hcur _ =>
    obtain ⟨hl, hkey, -⟩ := current_spec hcur
    exact h.leases _ lease hl (hkey ▸ client.key_ne_declinedKey)
  | fresh _ _ _ _ hzone _ _ _ => exact hzone.trans (h.pool hon)

theorem Unzoned.book (h : Unzoned desk) (lease : Lease)
    (hzone : lease.key ≠ declinedKey → lease.ip.zone = "") : Unzoned (desk.book lease) := by
  refine ⟨h.bindings, fun ip held hh hclient => ?_, h.pool⟩
  simp only [Desk.book, LeaseTable.lease?_set] at hh
  split at hh
  · rename_i hip
    cases hh
    exact hip ▸ hzone hclient
  · exact h.leases ip held hh hclient

theorem Unzoned.step (h : Unzoned desk) (hstep : Guarded Plain Step desk event after) :
    Unzoned after := by
  obtain ⟨hplain, hstep⟩ := hstep
  cases hstep with
  | served env client lease hon _ hchoice => exact h.book lease fun _ => h.choice hon hchoice
  | declined lease _ hkey _ => exact h.book lease fun hclient => absurd hkey hclient
  | withdrawn leases hleases =>
    exact ⟨h.bindings, fun ip lease hl => h.leases ip lease (hleases ip lease hl), h.pool⟩
  | configured enabled poolStart poolEnd hzone => exact ⟨h.bindings, h.leases, hzone⟩
  | rebound statics => exact ⟨hplain, h.leases, h.pool⟩
  | advanced duration => exact ⟨h.bindings, h.leases, h.pool⟩

theorem unzoned_of_reachable (h : Reachable Unused (Guarded Plain Step) desk) :
    Unzoned desk := by
  refine Reachable.induct ?_ (fun _ _ _ _ ih hstep => ih.step hstep) h
  rintro state ⟨henabled, hstatics, hleases⟩
  refine ⟨?_, ?_, fun hon => absurd hon (by simp [henabled])⟩
  · rintro ip ⟨id, binding, hget, -⟩
    simp [hstatics] at hget
  · intro ip lease hl
    rw [hleases] at hl
    cases hl

end Desk

namespace Dhcp6World

/-! ## Messages -/

variable {world : Dhcp6World} {reply : Option Dhcp6Reply} {action : Dhcp6Action} {duid : Bytes}
  {env : Env} {portID : String} {msg : Dhcp6Message} {server : Dhcp6Server} {ip : Addr}

theorem key?_eq (h : msg.clientID = some duid) :
    msg.key? = some (msg.client portID duid).key := by
  simp [Dhcp6Message.key?, h]
  rfl

theorem settle_quiet (promised : Promises) (expiry : Int)
    (hcarried : ∀ sent, reply = some sent → sent.carried = none) :
    promised.settle msg expiry reply =
      promised.endIf fun _ promise => msg.ends reply promise := by
  have hnone : reply.bind (·.carried) = none := by
    cases reply with
    | none => rfl
    | some sent => exact hcarried sent rfl
  unfold settle
  rw [hnone]
  cases msg.key? <;> rfl

theorem sound_selected (h : Sound world) (hduid : msg.clientID = some duid) {leases : LeaseTable}
    {expiry : Int} (hzone : ip.isValid = true → ip.zone = "")
    (hsel : Selected (world.server.desk world.clock) env (msg.client portID duid)
      expiry (ip, leases))
    (hreply : reply = none ∧ ip = .invalid ∨ ∃ sent, reply = some sent ∧
      ip.isValid = true ∧ (sent.carried = none ∨ sent.carried = some ip.withoutZone)) :
    Backed leases world.clock (world.promised.settle msg expiry reply) := by
  have hended := h.endIf fun _ promise => msg.ends reply promise
  have hmsg : msg.key? = some (msg.client portID duid).key := key?_eq hduid
  have hsilent (sent : Dhcp6Reply) (hsent : none = some sent) : sent.carried = none :=
    nomatch hsent
  cases hsel with
  | nothing =>
    rcases hreply with ⟨rfl, -⟩ | ⟨sent, rfl, hval, -⟩
    · rw [settle_quiet _ _ hsilent]
      exact hended
    · cases hval
  | booked lease hkey hexpiry hchoice =>
    rcases hreply with ⟨rfl, hinv⟩ | ⟨sent, rfl, hval, hcarried | hcarried⟩
    · rw [settle_quiet _ _ hsilent]
      refine hended.set lease fun promise hprom _ => ?_
      simp [hinv, hended.invalid] at hprom
    · have hq (other : Dhcp6Reply) (ho : some sent = some other) :
          other.carried = none := by
        cases ho
        exact hcarried
      rw [settle_quiet _ _ hq]
      refine hended.set lease fun promise hprom hruns => ?_
      -- The client's own promises have ended, and nobody else has one here.
      obtain ⟨hh, hkept⟩ := (endIf_eq_some_iff _ _ _ _).mp hprom
      have hown : promise.key = (msg.client portID duid).key :=
        h.key_eq hh hruns hchoice.free
      simp [Dhcp6Message.ends, hmsg, hown, hcarried] at hkept
    · have hsettle : world.promised.settle msg expiry (some sent) =
          (world.promised.endIf fun _ promise => msg.ends (some sent) promise).make
            lease.ip ⟨lease.key, lease.expiry⟩ := by
        rw [Addr.withoutZone_eq (hzone hval)] at hcarried
        simp [settle, hmsg, hcarried, hkey, hexpiry]
      rw [hsettle]
      exact hended.book lease hval

theorem sound_released (h : Sound world) (hduid : msg.clientID = some duid)
    (hty : msg.messageType = .release) {lease : Lease} {sent : Dhcp6Reply} {expiry : Int}
    (hcur : (world.server.desk world.clock).current env (msg.client portID duid) =
      some lease) (hcarried : sent.carried = none) :
    Backed (world.server.leases.drop lease.ip) world.clock
      (world.promised.settle msg expiry (some sent)) := by
  have hq (other : Dhcp6Reply) (ho : some sent = some other) :
      other.carried = none := by
    cases ho
    exact hcarried
  rw [settle_quiet _ _ hq]
  refine (h.endIf _).drop lease.ip fun promise hprom => ?_
  by_contra hruns
  obtain ⟨hh, hkept⟩ := (endIf_eq_some_iff _ _ _ _).mp hprom
  obtain ⟨hl, hkey, -⟩ := Desk.current_spec hcur
  obtain ⟨held, hf, hpromiseKey, -⟩ := h.lease lease.ip promise hh (Int.not_lt.mp hruns)
  have hs : held = lease := Option.some.inj (hf.symm.trans hl)
  have hown : promise.key = (msg.client portID duid).key := by
    rw [← hpromiseKey, hs, hkey]
  have hmsg : msg.key? = some (msg.client portID duid).key := key?_eq hduid
  simp [Dhcp6Message.ends, hmsg, hown, hty] at hkept

theorem zone_selected {desk : Desk} (h : desk.Unzoned) (hon : desk.enabled = true)
    {client : Client} {expiry : Int} {leases : LeaseTable}
    (hsel : Selected desk env client expiry (ip, leases)) (hval : ip.isValid = true) :
    ip.zone = "" := by
  cases hsel with
  | nothing => cases hval
  | booked lease _ _ hchoice => exact h.choice hon hchoice

theorem sound_answered (h : Sound world) (hplain : world.desk.Unzoned)
    (hd : world.server.Answered { env with now := world.clock } portID msg server reply) :
    Backed server.leases world.clock (world.promised.settle msg
      (world.clock + world.server.cfg.leaseTime) reply) := by
  cases hd with
  | ignored _ hcarried =>
    rw [settle_quiet _ _ hcarried]
    exact h.endIf _
  | selected duid ip leases _ hon hduid _ hsel hreply =>
    exact sound_selected h hduid (fun hval => zone_selected hplain hon hsel hval) hsel hreply
  | released duid lease sent _ hduid hty hcur hcarried =>
    exact sound_released h hduid hty hcur hcarried

/-! ## Whole runs -/

theorem unzoned_of_plain (h : Reachable Initial (Guarded (Meets Desk.Plain) Step) world) :
    world.desk.Unzoned :=
  Desk.unzoned_of_reachable (reachable_desk (fun _ => unused_of_initial) h)

theorem sound_of_reachable (h : Reachable Initial (Guarded (Meets Desk.Plain) Step) world) :
    Sound world := by
  refine Reachable.induct ?_ ?_ h
  · rintro state ⟨ipv6, mac, clock, rfl⟩
    exact backed_empty _ _
  · rintro state action after hreach ih ⟨-, reply, happly⟩
    refine ih.step happly fun env portID msg server hres _ => ?_
    exact sound_answered ih (unzoned_of_plain hreach) (handle_answered hres)

/-- What may end a promise before it runs out: its client releases it or gets
another reply, the operator takes the address back, or the port of its lease
goes down. -/
def Excuses (world : Dhcp6World) (ip : Addr) (promise : Promise)
    (reply : Option Dhcp6Reply) : Dhcp6Action → Prop
  | .message _ _ msg =>
    msg.key? = some promise.key ∧ (msg.messageType = .release ∨ reply.isSome = true)
  | .releaseLease other => other = ip
  | .portDown portID => (world.server.leases.lease? ip).any (·.portID == portID) = true
  | _ => False

/-- Nobody else is sent an address before its promise runs out, and nothing but
an excuse takes the promise or its lease away. -/
structure Exclusive (world : Dhcp6World) : Prop where
  leased : ∀ ip promise, world.promised ip = some promise →
    world.clock ≤ promise.expiry →
      ∃ lease, world.server.leases.lease? ip = some lease ∧ lease.key = promise.key ∧
        promise.expiry ≤ lease.expiry
  sent : ∀ env portID msg after sent ip,
    world.apply (.message env portID msg) = some (after, some sent) →
      sent.carried = some ip →
        ∃ key, msg.key? = some key ∧
          after.promised ip = some ⟨key, world.clock + world.server.cfg.leaseTime⟩ ∧
          ∀ promise, world.promised ip = some promise →
            world.clock ≤ promise.expiry → promise.key = key
  kept : ∀ action after reply, world.apply action = some (after, reply) →
    ∀ ip promise, world.promised ip = some promise → world.clock ≤ promise.expiry →
      ¬ Excuses world ip promise reply action → after.promised ip = some promise

section Carried

variable {sent : Dhcp6Reply}

theorem free_of_carried (hplain : world.desk.Unzoned)
    (hd : world.server.Answered { env with now := world.clock } portID msg server
      (some sent)) (hcarried : sent.carried = some ip) :
    ∃ duid, msg.clientID = some duid ∧
      (world.server.desk world.clock).Free (msg.client portID duid) ip := by
  cases hd with
  | ignored _ hq => exact absurd (hq sent rfl) (by simp [hcarried])
  | selected duid selected leases _ hon hduid _ hsel hreply =>
    obtain ⟨hnone, -⟩ | ⟨other, ho, hval, hnone | hsome⟩ := hreply
    · cases hnone
    · cases ho
      simp [hcarried] at hnone
    cases ho
    rw [Addr.withoutZone_eq (zone_selected hplain hon hsel hval)] at hsome
    have hip : ip = selected := Option.some.inj (hcarried.symm.trans hsome)
    subst hip
    cases hsel with
    | nothing => cases hval
    | booked lease _ _ hchoice => exact ⟨duid, hduid, hchoice.free⟩
  | released duid lease _ _ _ _ _ hnone =>
    simp [hcarried] at hnone

theorem promise_sent (h : Sound world) (hplain : world.desk.Unzoned)
    (hd : world.server.Answered { env with now := world.clock } portID msg server
      (some sent)) (hcarried : sent.carried = some ip) :
    ∃ key, msg.key? = some key ∧
      (∀ expiry, world.promised.settle msg expiry (some sent) ip = some ⟨key, expiry⟩) ∧
      ∀ promise, world.promised ip = some promise →
        world.clock ≤ promise.expiry → promise.key = key := by
  obtain ⟨duid, hduid, hfree⟩ := free_of_carried hplain hd hcarried
  have hmsg : msg.key? = some (msg.client portID duid).key := key?_eq hduid
  refine ⟨_, hmsg, fun expiry => ?_, fun promise hh hruns => h.key_eq hh hruns hfree⟩
  simp [settle, hmsg, hcarried, make]

theorem kept_answered (h : Sound world) (hplain : world.desk.Unzoned)
    (hd : world.server.Answered { env with now := world.clock } portID msg server reply)
    {promise : Promise} (hh : world.promised ip = some promise)
    (hruns : world.clock ≤ promise.expiry)
    (ho : ¬ (msg.key? = some promise.key ∧
      (msg.messageType = .release ∨ reply.isSome = true))) (expiry : Int) :
    world.promised.settle msg expiry reply ip = some promise := by
  have hends : world.promised.endIf (fun _ promise => msg.ends reply promise) ip =
      some promise := by
    refine (endIf_eq_some_iff _ _ _ _).mpr ⟨hh, Bool.eq_false_iff.mpr ?_⟩
    intro hends
    simp only [Dhcp6Message.ends, Bool.and_eq_true, Bool.or_eq_true, beq_iff_eq] at hends
    refine ho ⟨hends.1, hends.2.imp id fun hany => ?_⟩
    cases reply with
    | none => cases hany
    | some sent => rfl
  cases hbind : reply.bind (·.carried) with
  | none =>
    rw [settle_quiet]
    · exact hends
    · rintro sent rfl
      exact hbind
  | some carried =>
    obtain ⟨sent, rfl, hcarried⟩ := Option.bind_eq_some_iff.mp hbind
    obtain ⟨key, hkey, -, hs⟩ := promise_sent h hplain hd hcarried
    have hne : ip ≠ carried := by
      rintro rfl
      have hown := hkey.trans (congrArg some (hs promise hh hruns).symm)
      exact ho ⟨hown, .inr rfl⟩
    simp only [settle, hkey, hbind, make, Function.update_of_ne hne]
    exact hends

end Carried

theorem kept_apply (h : Sound world) (hplain : world.desk.Unzoned) {after : Dhcp6World}
    (happly : world.apply action = some (after, reply)) {ip : Addr} {promise : Promise}
    (hh : world.promised ip = some promise) (hruns : world.clock ≤ promise.expiry)
    (hexcuse : ¬ Excuses world ip promise reply action) :
    after.promised ip = some promise := by
  have hattempt {ε : Type} (result : Except ε Dhcp6Server) :
      (world.attempt result).promised = world.promised := by
    cases result <;> rfl
  cases action with
  | message env portID msg =>
    obtain ⟨result, hres, heq⟩ := Option.map_eq_some_iff.mp happly
    cases heq
    exact kept_answered h hplain (handle_answered hres) hh hruns hexcuse _
  | setConfig cfg | putStatic binding | replaceStatics bindings | deleteStatic id =>
    cases happly
    exact (congrFun (hattempt _) ip).trans hh
  | releaseLease other =>
    cases happly
    have ho : (ip == other) = false := beq_eq_false_iff_ne.mpr fun heq => hexcuse heq.symm
    exact (endIf_eq_some_iff _ (fun found _ => found == other) _ _).mpr ⟨hh, ho⟩
  | portDown portID =>
    cases happly
    have hp := Bool.eq_false_iff.mpr hexcuse
    exact (endIf_eq_some_iff _ (fun found _ =>
      (world.server.leases.lease? found).any (·.portID == portID)) _ _).mpr ⟨hh, hp⟩
  | sweep | advance duration =>
    cases happly
    exact hh

/-! ## Two clients -/

def serving : Dhcp6Action := .setConfig {
  enabled := true
  poolStart := .ip6 0xfd000000000000000000000000000010
  poolEnd := .ip6 0xfd00000000000000000000000000001f
  leaseTime := defaultLeaseTime }

def solicitA : Dhcp6Action :=
  .message Dhcp4World.storageOrder "a"
    ⟨.solicit, Dhcp4World.clientA, .ip6 0xfe800000000000000000000000000001,
      some [0, 3], some 1⟩

def initialWorld : Dhcp6World :=
  ⟨{ ipv6 := some ⟨0xfd000000000000000000000000000001, 64⟩ }, 0, .empty⟩

def servingWorld : Dhcp6World := initialWorld.after serving

def advertisedWorld : Dhcp6World := servingWorld.after solicitA

def bindPlain : Dhcp6Action :=
  .putStatic ⟨"b", 0, none, some "02:00:00:00:00:02", none,
    .ip6 0xfd000000000000000000000000000050⟩

def solicitB : Dhcp6Message :=
  ⟨.solicit, Dhcp4World.clientB, .ip6 0xfe800000000000000000000000000002,
    some [0, 3], some 1⟩

def plainWorld : Dhcp6World :=
  (servingWorld.after bindPlain).after (.message Dhcp4World.storageOrder "b" solicitB)

theorem reachable_plainWorld :
    Reachable Initial (Guarded (Meets Desk.Plain) Step) plainWorld := by
  refine reachable_run initialWorld
    [serving, bindPlain, .message Dhcp4World.storageOrder "b" solicitB] ⟨_, _, _, rfl⟩
    ⟨⟨trivial, rfl⟩, ⟨fun ip hip => ?_, rfl⟩, ⟨trivial, rfl⟩, trivial⟩
  obtain ⟨entry, hentry, rfl⟩ := (bound_iff _ _).mp hip
  cases List.mem_singleton.mp hentry
  rfl

/-- As long as no binding's address has a zone, an address stays with the client it
was last sent to. -/
theorem sent_address_exclusive
    (h : Reachable Initial (Guarded (Meets Desk.Plain) Step) world) : Exclusive world := by
  have hsound := sound_of_reachable h
  have hplain := unzoned_of_plain h
  refine ⟨hsound.lease, ?_, ?_⟩
  · intro env portID msg after sent ip happly hcarried
    obtain ⟨result, hres, heq⟩ := Option.map_eq_some_iff.mp happly
    obtain ⟨server, reply⟩ := result
    cases heq
    obtain ⟨key, hkey, hmade, hs⟩ :=
      promise_sent hsound hplain (handle_answered hres) hcarried
    exact ⟨key, hkey, hmade _, hs⟩
  · intro action after reply happly ip promise hh hruns hexcuse
    exact kept_apply hsound hplain happly hh hruns hexcuse

theorem sent_address_exclusive_bound :
    plainWorld.promised (.ip6 0xfd000000000000000000000000000050) =
        some ⟨"02:00:00:00:00:02/0003", defaultLeaseTime⟩ ∧ Exclusive plainWorld :=
  ⟨by decide, sent_address_exclusive reachable_plainWorld⟩

/-- A binding for the first client, in a zone. -/
def bindZoned : Dhcp6Action :=
  .putStatic ⟨"a", 0, none, some "02:00:00:00:00:01", none,
    .ip6 0xfd000000000000000000000000000050 "eth0"⟩

def zonedWorld : Dhcp6World :=
  ((servingWorld.after bindZoned).after bindPlain).after solicitA

/-- Bound to one address in two zones, two clients are sent the same address. -/
theorem zoned_address_sent_twice :
    ∃ world after sent promise, Reachable Initial Step world ∧
      world.apply (.message Dhcp4World.storageOrder "b" solicitB) =
        some (after, some sent) ∧
      sent.carried = some (.ip6 0xfd000000000000000000000000000050) ∧
      world.promised (.ip6 0xfd000000000000000000000000000050) = some promise ∧
      world.clock ≤ promise.expiry ∧ promise.key = "02:00:00:00:00:01/0003" ∧
      solicitB.key? = some "02:00:00:00:00:02/0003" := by
  have hreach : Reachable Initial (Guarded (fun _ _ => True) Step) zonedWorld :=
    reachable_run initialWorld [serving, bindZoned, bindPlain, solicitA] ⟨_, _, _, rfl⟩
      ⟨⟨trivial, rfl⟩, ⟨trivial, rfl⟩, ⟨trivial, rfl⟩, ⟨trivial, rfl⟩, trivial⟩
  refine ⟨zonedWorld, _, _, ⟨_, defaultLeaseTime⟩,
    hreach.mono fun _ _ _ hstep => hstep.2, rfl, rfl, ?_, ?_, rfl, ?_⟩
  · decide
  · decide
  · decide

end Dhcp6World

end GvSwitch.Gateway
