import GvSwitch.Gateway.Exclusive6

/-!
# One lease for each client

A binding is served without a look at the leases its client holds already, and
a lease at an address that has become bound is passed over, not given up.  As
long as clients hold no lease apart from where they are served, none of them
collects a second one, and it does not matter in which order the table is
searched.
-/

namespace GvSwitch.Gateway

open Foundation LeaseTable World

variable {lease : Lease} {order : List Addr}

namespace Desk

def Holds (desk : Desk) (client : Client) (ip : Addr) : Prop :=
  ∃ lease, desk.leases.lease? ip = some lease ∧ desk.clock ≤ lease.expiry ∧
    lease.key = client.key

/-- A client with a binding holds no lease elsewhere, and one without holds none
at the address of somebody's binding. -/
def Settled (desk : Desk) : Event → Prop
  | .serve env client =>
    desk.enabled = true → ∀ ip, desk.Holds client ip →
      match desk.matched env client with
      | some binding => ip = binding.ip
      | none => ¬ Bound desk.statics ip
  | _ => True

structure OneLeaseEach (desk : Desk) : Prop where
  single : ∀ client ip other, desk.Holds client ip → desk.Holds client other → ip = other
  unordered : ∀ (client : Client) (order other : List Addr),
    order.Perm desk.leases.leases.keys → other.Perm desk.leases.leases.keys →
      desk.leases.byClient desk.clock order client.mac client.clientID =
        desk.leases.byClient desk.clock other client.mac client.clientID

/-! ## The invariant -/

def Single (desk : Desk) : Prop :=
  ∀ client ip other, desk.Holds client ip → desk.Holds client other → ip = other

variable {desk after : Desk} {event : Event} {env : Env} {client : Client} {ip : Addr}

theorem holds_of_byClient
    (h : desk.leases.byClient desk.clock order client.mac client.clientID = some lease) :
    desk.Holds client lease.ip := by
  obtain ⟨hl, hkey, hruns⟩ := byClient_spec h
  exact ⟨lease, hl, hruns, hkey⟩

theorem not_holds_of_byClient (horder : order.Perm desk.leases.leases.keys)
    (h : desk.leases.byClient desk.clock order client.mac client.clientID = none)
    (ip : Addr) : ¬ desk.Holds client ip := by
  rintro ⟨lease, hl, hruns, hkey⟩
  exact absurd (byClient_eq_none horder h hl hkey) (Int.not_lt.mpr hruns)

/-- The search finds the one lease there is, in whatever order. -/
theorem Single.unordered (h : Single desk) (client : Client) {other : List Addr}
    (horder : order.Perm desk.leases.leases.keys) (ho : other.Perm desk.leases.leases.keys) :
    desk.leases.byClient desk.clock order client.mac client.clientID =
      desk.leases.byClient desk.clock other client.mac client.clientID := by
  cases hfst : desk.leases.byClient desk.clock order client.mac client.clientID with
  | none =>
    cases hsnd : desk.leases.byClient desk.clock other client.mac client.clientID with
    | none => rfl
    | some lease =>
      exact absurd (holds_of_byClient hsnd) (not_holds_of_byClient horder hfst _)
  | some lease =>
    cases hsnd : desk.leases.byClient desk.clock other client.mac client.clientID with
    | none =>
      exact absurd (holds_of_byClient hfst) (not_holds_of_byClient ho hsnd _)
    | some found =>
      have hip := h client _ _ (holds_of_byClient hfst) (holds_of_byClient hsnd)
      have hl := (byClient_spec hfst).1
      have hf := (byClient_spec hsnd).1
      rw [hip] at hl
      exact hl.symm.trans hf

theorem holds_book (h : (desk.book lease).Holds client ip) :
    ip = lease.ip ∧ lease.key = client.key ∨ ip ≠ lease.ip ∧ desk.Holds client ip := by
  obtain ⟨held, hh, hruns, hkey⟩ := h
  simp only [Desk.book, lease?_set] at hh
  split at hh
  · rename_i hip
    cases hh
    exact .inl ⟨hip, hkey⟩
  · rename_i hip
    exact .inr ⟨hip, held, hh, hruns, hkey⟩

theorem Single.eq_of_choice (h : Single desk) (hon : desk.enabled = true)
    (hsettled : desk.Settled (.serve env client)) {chosen : Addr}
    (hchoice : desk.Choice env client chosen) (hhold : desk.Holds client ip) :
    ip = chosen := by
  have hplace := hsettled hon ip hhold
  cases hchoice with
  | bound binding hmat _ =>
    rw [hmat] at hplace
    exact hplace
  | kept lease hmat hcur _ =>
    exact h client ip lease.ip hhold (holds_of_byClient hcur)
  | fresh _ hmat hcur _ _ _ _ _ =>
    cases hf : desk.current env client with
    | none =>
      exact absurd hhold (not_holds_of_byClient (env.leases_perm _) hf ip)
    | some lease =>
      -- The lease that was passed over is at a bound address.
      have ho := hsettled hon lease.ip (holds_of_byClient hf)
      rw [hmat] at ho
      exact absurd (hcur lease hf) ho

theorem Single.mono (h : Single desk)
    (hhold : ∀ client ip, after.Holds client ip → desk.Holds client ip) : Single after :=
  fun client ip other hip ho =>
    h client ip other (hhold client ip hip) (hhold client other ho)

theorem Single.step (h : Single desk) (hstep : Guarded Settled Step desk event after) :
    Single after := by
  obtain ⟨hsettled, hstep⟩ := hstep
  cases hstep with
  | served env client lease hon hkey hchoice =>
    -- Whoever the key of the lease belongs to holds what the served client holds.
    have hs {someone : Client} (hsomeone : lease.key = someone.key) {ip : Addr}
        (hhold : desk.Holds someone ip) : ip = lease.ip := by
      obtain ⟨held, hh, hruns, hheldKey⟩ := hhold
      have hclient : desk.Holds client ip :=
        ⟨held, hh, hruns, hheldKey.trans (hsomeone.symm.trans hkey)⟩
      exact h.eq_of_choice hon hsettled hchoice hclient
    intro someone ip other hip ho
    rcases holds_book hip with ⟨rfl, hkeyIp⟩ | ⟨hneIp, hheldIp⟩
    · rcases holds_book ho with ⟨rfl, -⟩ | ⟨-, hh⟩
      · rfl
      · exact (hs hkeyIp hh).symm
    · rcases holds_book ho with ⟨rfl, hkeyOther⟩ | ⟨-, hheldOther⟩
      · exact hs hkeyOther hheldIp
      · exact h someone ip other hheldIp hheldOther
  | declined lease _ hkey _ =>
    intro someone ip other hip ho
    have hnot : lease.key ≠ someone.key := fun heq =>
      someone.key_ne_declinedKey (heq.symm.trans hkey)
    rcases holds_book hip with ⟨-, hs⟩ | ⟨-, hheldIp⟩
    · exact absurd hs hnot
    rcases holds_book ho with ⟨-, hs⟩ | ⟨-, hheldOther⟩
    · exact absurd hs hnot
    · exact h someone ip other hheldIp hheldOther
  | withdrawn leases hleases =>
    refine h.mono fun client ip hhold => ?_
    obtain ⟨lease, hl, hruns, hkey⟩ := hhold
    exact ⟨lease, hleases ip lease hl, hruns, hkey⟩
  | configured enabled poolStart poolEnd | rebound statics => exact h
  | advanced duration =>
    refine h.mono fun client ip hhold => ?_
    obtain ⟨lease, hl, hruns, hkey⟩ := hhold
    refine ⟨lease, hl, ?_, hkey⟩
    have hlater : desk.clock + duration ≤ lease.expiry := hruns
    omega

theorem oneLeaseEach_of_reachable (h : Reachable Unused (Guarded Settled Step) desk) :
    OneLeaseEach desk := by
  have hsing : Single desk := by
    refine Reachable.induct ?_ ?_ h
    · rintro state ⟨-, -, hleases⟩ client ip other ⟨lease, hl, -⟩
      rw [hleases] at hl
      cases hl
    · intro state label next _ ih hstep
      exact ih.step hstep
  exact ⟨hsing, fun client order other horder ho => hsing.unordered client horder ho⟩

end Desk

/-! ## A client that gets a binding -/

def Dhcp4World.bindA : Dhcp4Action :=
  .putStatic ⟨"a", 0, none, some "02:00:00:00:00:01", none, .ip4 0x0a000032⟩

def Dhcp6World.bindA : Dhcp6Action :=
  .putStatic ⟨"a", 0, none, some "02:00:00:00:00:01", none,
    .ip6 0xfd000000000000000000000000000050⟩

def Dhcp4World.boundWorld : Dhcp4World := (offeredWorld.after bindA).after discoverA

def Dhcp6World.boundWorld : Dhcp6World := (advertisedWorld.after bindA).after solicitA

theorem Dhcp4World.settled_offeredWorld :
    Reachable Initial (Guarded (Meets Desk.Settled) Step) offeredWorld := by
  refine reachable_run initialWorld [serving, discoverA] ⟨_, _, rfl⟩
    ⟨⟨trivial, rfl⟩, ⟨fun _ ip hhold => ?_, rfl⟩, trivial⟩
  obtain ⟨lease, hl, -⟩ := hhold
  cases hl

theorem Dhcp6World.settled_advertisedWorld :
    Reachable Initial (Guarded (Meets Desk.Settled) Step) advertisedWorld := by
  refine reachable_run initialWorld [serving, solicitA] ⟨_, _, _, rfl⟩
    ⟨⟨trivial, rfl⟩, ⟨fun _ ip hhold => ?_, rfl⟩, trivial⟩
  obtain ⟨lease, hl, -⟩ := hhold
  cases hl

/-- As long as clients are served where they hold their leases, no table ever
holds two unexpired leases of one client. -/
theorem one_lease_for_each_client {v4 : Dhcp4World} {v6 : Dhcp6World}
    (hv4 : Reachable Dhcp4World.Initial (Guarded (Meets Desk.Settled) Step) v4)
    (hv6 : Reachable Dhcp6World.Initial (Guarded (Meets Desk.Settled) Step) v6) :
    v4.desk.OneLeaseEach ∧ v6.desk.OneLeaseEach := by
  have hdesk4 := reachable_desk (fun _ => Dhcp4World.unused_of_initial) hv4
  have hdesk6 := reachable_desk (fun _ => Dhcp6World.unused_of_initial) hv6
  exact ⟨Desk.oneLeaseEach_of_reachable hdesk4, Desk.oneLeaseEach_of_reachable hdesk6⟩

theorem one_lease_for_each_client_offered :
    Dhcp4World.offeredWorld.desk.OneLeaseEach ∧
      Dhcp6World.advertisedWorld.desk.OneLeaseEach :=
  one_lease_for_each_client Dhcp4World.settled_offeredWorld
    Dhcp6World.settled_advertisedWorld

/-- A client that was offered a pool address and then got a binding holds two
leases. -/
theorem bound_client_holds_two_leases :
    (∃ world client, Reachable Dhcp4World.Initial Step world ∧
      world.desk.Holds client (.ip4 0x0a00000a) ∧
      world.desk.Holds client (.ip4 0x0a000032) ∧ ¬ world.desk.OneLeaseEach) ∧
    (∃ world client, Reachable Dhcp6World.Initial Step world ∧
      world.desk.Holds client (.ip6 0xfd000000000000000000000000000010) ∧
      world.desk.Holds client (.ip6 0xfd000000000000000000000000000050) ∧
      ¬ world.desk.OneLeaseEach) := by
  constructor
  · have hoffered := Dhcp4World.settled_offeredWorld.mono fun _ _ _ hstep => hstep.2
    have hbound : World.Step Dhcp4World.offeredWorld Dhcp4World.bindA
        (Dhcp4World.offeredWorld.after Dhcp4World.bindA) := step_after rfl
    have hserved : World.Step (Dhcp4World.offeredWorld.after Dhcp4World.bindA)
        Dhcp4World.discoverA Dhcp4World.boundWorld := step_after rfl
    have hpool : Dhcp4World.boundWorld.desk.Holds ⟨"a", Dhcp4World.clientA, []⟩
        (.ip4 0x0a00000a) := ⟨_, rfl, by decide, by decide⟩
    have hn : Dhcp4World.boundWorld.desk.Holds ⟨"a", Dhcp4World.clientA, []⟩
        (.ip4 0x0a000032) := ⟨_, rfl, by decide, by decide⟩
    refine ⟨_, _, .next (.next hoffered hbound) hserved, hpool, hn, fun h => ?_⟩
    exact absurd (h.single _ _ _ hpool hn) (by decide)
  · have hadvertised :=
      Dhcp6World.settled_advertisedWorld.mono fun _ _ _ hstep => hstep.2
    have hbound : World.Step Dhcp6World.advertisedWorld Dhcp6World.bindA
        (Dhcp6World.advertisedWorld.after Dhcp6World.bindA) := step_after rfl
    have hserved : World.Step (Dhcp6World.advertisedWorld.after Dhcp6World.bindA)
        Dhcp6World.solicitA Dhcp6World.boundWorld := step_after rfl
    have hpool : Dhcp6World.boundWorld.desk.Holds ⟨"a", Dhcp4World.clientA, [0, 3]⟩
        (.ip6 0xfd000000000000000000000000000010) := ⟨_, rfl, by decide, by decide⟩
    have hn : Dhcp6World.boundWorld.desk.Holds ⟨"a", Dhcp4World.clientA, [0, 3]⟩
        (.ip6 0xfd000000000000000000000000000050) := ⟨_, rfl, by decide, by decide⟩
    refine ⟨_, _, .next (.next hadvertised hbound) hserved, hpool, hn, fun h => ?_⟩
    exact absurd (h.single _ _ _ hpool hn) (by decide)

end GvSwitch.Gateway
