import GvSwitch.Gateway.Exclusive6

/-!
# Offered addresses and the configuration

A client that holds a lease is served the leased address again whatever the
pool has become, and a binding may name the gateway's own address.  As long as
no change of pool or bindings leaves a lease behind, every address handed out
is one that the configuration of the moment provides.
-/

namespace GvSwitch.Gateway

open Foundation Desk World

namespace Desk

/-! ## Changes that leave no lease behind -/

/-- Every unexpired lease of a client lies in the pool or at a bound address. -/
def Fits (desk : Desk) (poolStart poolEnd : Addr) (statics : GoMap String StaticBinding) :
    Prop :=
  ∀ ip lease, desk.leases.lease? ip = some lease → desk.clock ≤ lease.expiry →
    lease.key ≠ declinedKey → InPool poolStart poolEnd ip ∨ Bound statics ip

/-- No binding has a zone or names the gateway's own address, and an active desk keeps
a pool and bindings that its leases fit. -/
def Orderly (desk : Desk) : Event → Prop
  | .configure enabled poolStart poolEnd =>
    enabled = true → desk.Fits poolStart poolEnd desk.statics
  | .rebind statics =>
    (∀ ip, Bound statics ip → ip.zone = "" ∧ desk.gateway ≠ some ip) ∧
      (desk.enabled = true → desk.Fits desk.poolStart desk.poolEnd statics)
  | _ => True

/-! ## The invariant -/

structure Tidy (desk : Desk) : Prop where
  bindings : ∀ ip, Bound desk.statics ip → desk.gateway ≠ some ip
  leases : ∀ ip lease, desk.leases.lease? ip = some lease → desk.clock ≤ lease.expiry →
    lease.key ≠ declinedKey → desk.gateway ≠ some ip
  fits : desk.enabled = true → desk.Fits desk.poolStart desk.poolEnd desk.statics

structure Respects (desk : Desk) (env : Env) (client : Client) (ip : Addr) : Prop where
  source : (∃ binding, desk.matched env client = some binding ∧ binding.ip = ip) ∨
    InPool desk.poolStart desk.poolEnd ip ∧ ¬ Bound desk.statics ip
  foreign : desk.gateway ≠ some ip

variable {desk after : Desk} {event : Event} {env : Env} {client : Client} {ip : Addr}

theorem Tidy.respects (h : Tidy desk) (henabled : desk.enabled = true)
    (hchoice : desk.Choice env client ip) : desk.Respects env client ip := by
  cases hchoice with
  | bound binding hmat _ =>
    exact ⟨.inl ⟨binding, hmat, rfl⟩, h.bindings _ (bound_of_matched hmat)⟩
  | kept lease hmat hcur hbound =>
    obtain ⟨hl, hkey, hruns⟩ := current_spec hcur
    have hclient : lease.key ≠ declinedKey := hkey ▸ client.key_ne_declinedKey
    have hpool := (h.fits henabled _ lease hl hruns hclient).resolve_right hbound
    exact ⟨.inr ⟨hpool, hbound⟩, h.leases _ lease hl hruns hclient⟩
  | fresh _ _ _ hpool _ hgateway hbound _ => exact ⟨.inr ⟨hpool, hbound⟩, hgateway⟩

theorem Respects.fits (h : desk.Respects env client ip) :
    InPool desk.poolStart desk.poolEnd ip ∨ Bound desk.statics ip := by
  rcases h.source with ⟨binding, hmat, rfl⟩ | ⟨hpool, -⟩
  · exact .inr (bound_of_matched hmat)
  · exact .inl hpool

theorem Tidy.book (h : Tidy desk) (lease : Lease)
    (hplace : lease.key ≠ declinedKey → desk.gateway ≠ some lease.ip ∧
      (InPool desk.poolStart desk.poolEnd lease.ip ∨ Bound desk.statics lease.ip)) :
    Tidy (desk.book lease) := by
  refine ⟨h.bindings, fun other held hh hruns hclient => ?_,
    fun henabled other held hh hruns hclient => ?_⟩
  · simp only [Desk.book, LeaseTable.lease?_set] at hh
    split at hh
    · rename_i hip
      cases hh
      exact hip ▸ (hplace hclient).1
    · exact h.leases other held hh hruns hclient
  · simp only [Desk.book, LeaseTable.lease?_set] at hh
    split at hh
    · rename_i hip
      cases hh
      exact hip ▸ (hplace hclient).2
    · exact h.fits henabled other held hh hruns hclient

theorem Tidy.step (h : Tidy desk) (hstep : Guarded Orderly Step desk event after) :
    Tidy after := by
  obtain ⟨horderly, hstep⟩ := hstep
  cases hstep with
  | served env client lease henabled hkey hchoice =>
    have hrespects := h.respects henabled hchoice
    exact h.book lease fun _ => ⟨hrespects.foreign, hrespects.fits⟩
  | declined lease _ hkey _ => exact h.book lease fun hclient => absurd hkey hclient
  | withdrawn leases hleases =>
    exact ⟨h.bindings, fun ip lease hl => h.leases ip lease (hleases ip lease hl),
      fun henabled ip lease hl => h.fits henabled ip lease (hleases ip lease hl)⟩
  | configured enabled poolStart poolEnd => exact ⟨h.bindings, h.leases, horderly⟩
  | rebound statics =>
    exact ⟨fun ip hip => (horderly.1 ip hip).2, h.leases, horderly.2⟩
  | advanced duration =>
    have hearlier {lease : Lease} (hruns : desk.clock + duration ≤ lease.expiry) :
        desk.clock ≤ lease.expiry := by omega
    exact ⟨h.bindings,
      fun ip lease hl hruns => h.leases ip lease hl (hearlier hruns),
      fun henabled ip lease hl hruns =>
        h.fits henabled ip lease hl (hearlier hruns)⟩

theorem tidy_of_reachable (h : Reachable Unused (Guarded Orderly Step) desk) :
    Tidy desk := by
  refine Reachable.induct ?_ ?_ h
  · rintro state ⟨henabled, hstatics, hleases⟩
    refine ⟨?_, ?_, fun hon => absurd hon (by simp [henabled])⟩
    · rintro ip ⟨id, binding, hget, -⟩
      simp [hstatics] at hget
    · intro ip lease hl
      rw [hleases] at hl
      cases hl
  · intro state label next _ ih hstep
    exact ih.step hstep

theorem Orderly.plain (h : desk.Orderly event) : desk.Plain event := by
  cases event with
  | rebind statics => exact fun ip hip => (h.1 ip hip).1
  | _ => trivial

end Desk

/-! ## Both servers -/

def Dhcp4World.OffersRespect (world : Dhcp4World) : Prop :=
  ∀ env portID req after sent,
    world.apply (.message env portID req) = some (after, some sent) →
      sent.messageType = .offer ∨ sent.messageType = .ack →
        world.desk.Respects env (req.client portID) sent.yourIPAddr

def Dhcp6World.OffersRespect (world : Dhcp6World) : Prop :=
  ∀ env portID msg after sent ip,
    world.apply (.message env portID msg) = some (after, some sent) →
      sent.carried = some ip →
        ∃ duid, msg.clientID = some duid ∧
          world.desk.Respects env (msg.client portID duid) ip

section Offers

theorem Selected.respects {desk : Desk} (h : desk.Tidy) (henabled : desk.enabled = true)
    {env : Env} {client : Client} {expiry : Int} {ip : Addr} {leases : LeaseTable}
    (hsel : Selected desk env client expiry (ip, leases)) (hval : ip.isValid = true) :
    desk.Respects env client ip := by
  cases hsel with
  | nothing => cases hval
  | booked lease _ _ hchoice => exact h.respects henabled hchoice

theorem Dhcp4World.offersRespect_of_tidy {world : Dhcp4World} (h : world.desk.Tidy) :
    world.OffersRespect := by
  intro env portID req after sent happly hty
  have hprom : sent.isPromise = true := by
    rcases hty with hty | hty
    · simp [Dhcp4Reply.isPromise, hty]
    · simp [Dhcp4Reply.isPromise, hty]
  obtain ⟨result, hres, heq⟩ := Option.map_eq_some_iff.mp happly
  obtain ⟨server, reply⟩ := result
  cases heq
  cases Dhcp4Server.handle_answered hres with
  | ignored _ hq => exact absurd (hq sent rfl) (by simp [hprom])
  | selected ip leases _ henabled _ hsel hreply =>
    rcases hreply with ⟨other, ho, -, hip, hval⟩ | ⟨hq, -⟩
    · cases ho
      obtain ⟨hsrc, hforeign⟩ := hsel.respects h henabled hval
      exact hip ▸ ⟨hsrc, hforeign⟩
    · exact absurd (hq sent rfl) (by simp [hprom])

theorem Dhcp6World.offersRespect_of_tidy {world : Dhcp6World} (h : world.desk.Tidy)
    (hplain : world.desk.Unzoned) : world.OffersRespect := by
  intro env portID msg after sent ip happly hcarried
  obtain ⟨result, hres, heq⟩ := Option.map_eq_some_iff.mp happly
  obtain ⟨server, reply⟩ := result
  cases heq
  cases Dhcp6Server.handle_answered hres with
  | ignored _ hq => exact absurd (hq sent rfl) (by simp [hcarried])
  | selected duid chosen leases _ henabled hduid _ hsel hreply =>
    obtain ⟨hnone, -⟩ | ⟨other, ho, hval, hnone | hsome⟩ := hreply
    · cases hnone
    · cases ho
      exact absurd hnone (by simp [hcarried])
    cases ho
    rw [Addr.withoutZone_eq (zone_selected hplain henabled hsel hval)] at hsome
    cases hcarried.symm.trans hsome
    obtain ⟨hsrc, hforeign⟩ := hsel.respects h henabled hval
    exact ⟨duid, hduid, hsrc, hforeign⟩
  | released _ _ _ _ _ _ _ hnone => exact absurd hnone (by simp [hcarried])

end Offers

/-! ## A pool that moves -/

def Dhcp4World.movePool : Dhcp4Action := .setConfig {
  enabled := true
  poolStart := .ip4 0x0a000064
  poolEnd := .ip4 0x0a00006e
  leaseTime := defaultLeaseTime }

def Dhcp6World.movePool : Dhcp6Action := .setConfig {
  enabled := true
  poolStart := .ip6 0xfd000000000000000000000000000100
  poolEnd := .ip6 0xfd00000000000000000000000000010f
  leaseTime := defaultLeaseTime }

theorem Dhcp4World.orderly_offeredWorld :
    Reachable Initial (Guarded (Meets Orderly) Step) offeredWorld :=
  reachable_run initialWorld [serving, discoverA] ⟨_, _, rfl⟩
    ⟨⟨fun _ _ _ hl => (nomatch hl), rfl⟩, ⟨trivial, rfl⟩, trivial⟩

theorem Dhcp6World.orderly_advertisedWorld :
    Reachable Initial (Guarded (Meets Orderly) Step) advertisedWorld :=
  reachable_run initialWorld [serving, solicitA] ⟨_, _, _, rfl⟩
    ⟨⟨fun _ _ _ hl => (nomatch hl), rfl⟩, ⟨trivial, rfl⟩, trivial⟩

/-- As long as no change leaves a lease behind and no binding names the gateway,
both servers hand out only what their configuration provides. -/
theorem offered_addresses_respect_configuration {v4 : Dhcp4World} {v6 : Dhcp6World}
    (hv4 : Reachable Dhcp4World.Initial (Guarded (Meets Desk.Orderly) Step) v4)
    (hv6 : Reachable Dhcp6World.Initial (Guarded (Meets Desk.Orderly) Step) v6) :
    v4.OffersRespect ∧ v6.OffersRespect := by
  have hdesk4 := reachable_desk (fun _ => Dhcp4World.unused_of_initial) hv4
  have hdesk6 := reachable_desk (fun _ => Dhcp6World.unused_of_initial) hv6
  have hplain := hdesk6.mono fun _ _ _ hstep => hstep.imp_left Orderly.plain
  exact ⟨Dhcp4World.offersRespect_of_tidy (tidy_of_reachable hdesk4),
    Dhcp6World.offersRespect_of_tidy (tidy_of_reachable hdesk6)
      (unzoned_of_reachable hplain)⟩

theorem offered_addresses_respect_configuration_offered :
    Dhcp4World.offeredWorld.OffersRespect ∧ Dhcp6World.advertisedWorld.OffersRespect :=
  offered_addresses_respect_configuration Dhcp4World.orderly_offeredWorld
    Dhcp6World.orderly_advertisedWorld

theorem Desk.not_respects_of_empty {desk : Desk} (hstatics : desk.statics = .empty)
    {ip : Addr} (hpool : ¬ InPool desk.poolStart desk.poolEnd ip) (env : Env)
    (client : Client) : ¬ desk.Respects env client ip := by
  intro h
  rcases h.fits with hinside | ⟨id, binding, hget, -⟩
  · exact hpool hinside
  · simp [hstatics] at hget

/-- After the pool has moved, a client is still offered its old address, which
no binding gives it and the pool does not contain. -/
theorem left_behind_address_offered :
    (∃ world after sent, Reachable Dhcp4World.Initial Step world ∧
      world.apply Dhcp4World.discoverA = some (after, some sent) ∧
      sent.messageType = .offer ∧ world.desk.statics = .empty ∧
      ¬ InPool world.desk.poolStart world.desk.poolEnd sent.yourIPAddr ∧
      ¬ Dhcp4World.OffersRespect world) ∧
    (∃ world after sent ip, Reachable Dhcp6World.Initial Step world ∧
      world.apply Dhcp6World.solicitA = some (after, some sent) ∧
      sent.carried = some ip ∧ world.desk.statics = .empty ∧
      ¬ InPool world.desk.poolStart world.desk.poolEnd ip ∧ ¬ Dhcp6World.OffersRespect world) := by
  constructor
  · have hoffered := Dhcp4World.orderly_offeredWorld.mono fun _ _ _ hstep => hstep.2
    have hmoved : World.Step Dhcp4World.offeredWorld Dhcp4World.movePool
        (Dhcp4World.offeredWorld.after Dhcp4World.movePool) := step_after rfl
    obtain ⟨after, sent, happly, hty, hip⟩ : ∃ after sent,
        (Dhcp4World.offeredWorld.after Dhcp4World.movePool).apply Dhcp4World.discoverA =
          some (after, some sent) ∧ sent.messageType = .offer ∧
            sent.yourIPAddr = .ip4 0x0a00000a := ⟨_, _, rfl, rfl, rfl⟩
    have houtside : ¬ InPool (.ip4 0x0a000064) (.ip4 0x0a00006e) sent.yourIPAddr := by
      rw [hip]
      decide
    refine ⟨_, after, sent, .next hoffered hmoved, happly, hty, rfl, houtside, ?_⟩
    intro hrespect
    exact not_respects_of_empty rfl houtside _ _ (hrespect _ _ _ _ _ happly (.inl hty))
  · have hadvertised :=
      Dhcp6World.orderly_advertisedWorld.mono fun _ _ _ hstep => hstep.2
    have hmoved : World.Step Dhcp6World.advertisedWorld Dhcp6World.movePool
        (Dhcp6World.advertisedWorld.after Dhcp6World.movePool) := step_after rfl
    obtain ⟨after, sent, happly, hcarried⟩ : ∃ after sent,
        (Dhcp6World.advertisedWorld.after Dhcp6World.movePool).apply Dhcp6World.solicitA =
          some (after, some sent) ∧
            sent.carried = some (.ip6 0xfd000000000000000000000000000010) :=
      ⟨_, _, rfl, rfl⟩
    have houtside : ¬ InPool (.ip6 0xfd000000000000000000000000000100)
        (.ip6 0xfd00000000000000000000000000010f)
        (.ip6 0xfd000000000000000000000000000010) := by
      decide
    refine ⟨_, after, sent, _, .next hadvertised hmoved, happly, hcarried, rfl, houtside, ?_⟩
    intro hrespect
    obtain ⟨duid, -, hallowed⟩ := hrespect _ _ _ _ _ _ happly hcarried
    exact not_respects_of_empty rfl houtside _ _ hallowed

end GvSwitch.Gateway
