import GvSwitch.Gateway.Exclusive4
import Mathlib.Data.List.Perm.Subperm

/-!
# The served address space

Under a fixed configuration the lease table of the DHCPv4 server is confined to
the pool and the bound addresses, except for DECLINE, which enters whatever
address it names.
-/

namespace GvSwitch.Gateway

open Foundation World

/-! ## Counting addresses -/

def poolSize (start last : Addr) : Nat := last.value + 1 - start.value

theorem value_of_inPool {start last ip : Addr} (hstart : start.is4 = true)
    (hlast : last.is4 = true) (h : InPool start last ip) :
    ip.is4 = true ∧ start.value ≤ ip.value ∧ ip.value ≤ last.value := by
  obtain ⟨hval, hfrom, hto⟩ := h
  cases start with
  | invalid | ip6 => cases hstart
  | ip4 first =>
    cases last with
    | invalid | ip6 => cases hlast
    | ip4 final =>
      cases ip with
      | invalid => cases hval
      | ip6 value zone => simp [Addr.less, Addr.bitLen] at hto
      | ip4 value =>
        simp only [Addr.less, Bool.or_eq_false_iff, Bool.and_eq_false_imp,
          decide_eq_false_iff_not, Nat.not_lt] at hfrom hto
        exact ⟨rfl, (hfrom.2 rfl).1, (hto.2 rfl).1⟩

theorem length_le_poolSize {start last : Addr} (hstart : start.is4 = true)
    (hlast : last.is4 = true) {ips : List Addr} (hnodup : ips.Nodup)
    (hpool : ∀ ip ∈ ips, InPool start last ip) : ips.length ≤ poolSize start last := by
  have hvalues : (ips.map Addr.value).Nodup := by
    refine hnodup.map_on fun first hfst second hsnd heq => ?_
    exact Addr.eq_of_is4 (value_of_inPool hstart hlast (hpool first hfst)).1
      (value_of_inPool hstart hlast (hpool second hsnd)).1 heq
  have hrange : ips.map Addr.value ⊆ List.range' start.value (poolSize start last) := by
    intro value hvalue
    obtain ⟨ip, hip, rfl⟩ := List.mem_map.mp hvalue
    obtain ⟨-, hfrom, hto⟩ := value_of_inPool hstart hlast (hpool ip hip)
    rw [List.mem_range'_1, poolSize]
    omega
  have hlen := (List.Nodup.subperm hvalues hrange).length_le
  simpa using hlen

theorem length_le_bindings {statics : GoMap String StaticBinding} {ips : List Addr}
    (hnodup : ips.Nodup) (hbound : ∀ ip ∈ ips, Bound statics ip) :
    ips.length ≤ statics.entries.length := by
  have hsubset : ips ⊆ statics.entries.map (·.2.ip) := by
    intro ip hip
    obtain ⟨entry, he, heq⟩ := (bound_iff statics ip).mp (hbound ip hip)
    exact List.mem_map.mpr ⟨entry, he, heq⟩
  have hlen := (List.Nodup.subperm hnodup hsubset).length_le
  simpa using hlen

namespace Desk

/-! ## Confinement -/

/-- The configuration and the bindings stay, and only served addresses are
declined. -/
def Contained (desk : Desk) : Event → Prop
  | .configure _ _ _ => False
  | .rebind _ => False
  | .decline ip =>
    desk.enabled = true → ip.isValid = true →
      InPool desk.poolStart desk.poolEnd ip ∨ Bound desk.statics ip
  | _ => True

def Fixed (_ : Desk) : Event → Prop
  | .configure _ _ _ => False
  | .rebind _ => False
  | _ => True

def Inside (desk : Desk) : Prop :=
  ∀ ip lease, desk.leases.lease? ip = some lease →
    InPool desk.poolStart desk.poolEnd ip ∨ Bound desk.statics ip

structure Confined (desk : Desk) : Prop where
  inside : desk.Inside
  family : desk.enabled = true → desk.poolStart.is4 = true ∧ desk.poolEnd.is4 = true
  closed : desk.enabled = false → ∀ ip, desk.leases.lease? ip = none

variable {desk after : Desk} {event : Event} {env : Env} {client : Client} {ip : Addr}

theorem Inside.choice (h : Inside desk) (hchoice : desk.Choice env client ip) :
    InPool desk.poolStart desk.poolEnd ip ∨ Bound desk.statics ip := by
  cases hchoice with
  | bound binding hmat _ => exact .inr (bound_of_matched hmat)
  | kept lease _ hcur _ => exact h _ lease (current_spec hcur).1
  | fresh _ _ _ hpool _ _ _ _ => exact .inl hpool

theorem Confined.book (h : Confined desk) (hon : desk.enabled = true) (lease : Lease)
    (hplace : InPool desk.poolStart desk.poolEnd lease.ip ∨ Bound desk.statics lease.ip) :
    Confined (desk.book lease) := by
  refine ⟨fun ip held hh => ?_, h.family, fun hcl => nomatch hcl.symm.trans hon⟩
  simp only [Desk.book, LeaseTable.lease?_set] at hh
  split at hh
  · rename_i hip
    exact hip ▸ hplace
  · exact h.inside ip held hh

theorem Confined.step (h : Confined desk) (hstep : Guarded Contained Step desk event after) :
    Confined after := by
  obtain ⟨hcontained, hstep⟩ := hstep
  cases hstep with
  | served env client lease hon _ hchoice =>
    exact h.book hon lease (h.inside.choice hchoice)
  | declined lease hon _ hval => exact h.book hon lease (hcontained hon hval)
  | withdrawn leases hleases =>
    refine ⟨fun ip lease hl => h.inside ip lease (hleases ip lease hl), h.family,
      fun hcl ip => ?_⟩
    cases hl : leases.lease? ip with
    | none => rfl
    | some lease => exact nomatch (h.closed hcl ip).symm.trans (hleases ip lease hl)
  | configured | rebound => exact hcontained.elim
  | advanced duration => exact ⟨h.inside, h.family, h.closed⟩

theorem confined_of_reachable (h : Reachable Confined (Guarded Contained Step) desk) :
    Confined desk :=
  Reachable.induct (fun _ hstart => hstart) (fun _ _ _ _ ih hstep => ih.step hstep) h

/-- The table is no larger than the pool and the bindings together. -/
theorem Confined.length_le (h : Confined desk) :
    desk.leases.leases.entries.length ≤
      poolSize desk.poolStart desk.poolEnd + desk.statics.entries.length := by
  have hlen : desk.leases.leases.keys.length = desk.leases.leases.entries.length := by
    simp [GoMap.keys]
  have hm {ip : Addr} (hip : ip ∈ desk.leases.leases.keys) :
      ∃ lease, desk.leases.lease? ip = some lease :=
    (GoMap.mem_keys_iff _ _).mp hip
  rw [← hlen]
  cases hon : desk.enabled with
  | false =>
    have hnone : desk.leases.leases.keys = [] := by
      refine List.eq_nil_iff_forall_not_mem.mpr fun ip hip => ?_
      obtain ⟨lease, hl⟩ := hm hip
      cases (h.closed hon ip).symm.trans hl
    simp [hnone]
  | true =>
    obtain ⟨hstart, hlast⟩ := h.family hon
    have hnodup : desk.leases.leases.keys.Nodup := desk.leases.leases.nodup
    -- The addresses of the pool on one side, the others on the other.
    have hpool := length_le_poolSize hstart hlast
      (hnodup.filter fun ip => InPool desk.poolStart desk.poolEnd ip)
      fun ip hip => by simpa using (List.mem_filter.mp hip).2
    have hbound : (desk.leases.leases.keys.filter fun ip =>
        !decide (InPool desk.poolStart desk.poolEnd ip)).length ≤
          desk.statics.entries.length := by
      refine length_le_bindings (hnodup.filter _) fun ip hip => ?_
      obtain ⟨hip, houtside⟩ := List.mem_filter.mp hip
      obtain ⟨lease, hl⟩ := hm hip
      exact (h.inside ip lease hl).resolve_left (by simpa using houtside)
    have hsplit := List.length_eq_length_filter_add
      (l := desk.leases.leases.keys) fun ip => decide (InPool desk.poolStart desk.poolEnd ip)
    omega

end Desk

/-! ## The DHCPv4 server -/

def Action.reconfigures {κ μ : Type} : Action κ μ → Bool
  | .setConfig _ | .putStatic _ | .replaceStatics _ | .deleteStatic _ => true
  | _ => false

namespace Dhcp4World

def Setup (_ : Dhcp4World) (action : Dhcp4Action) : Prop := action.reconfigures = true

/-- Every lease is at a served address, and so there are not more leases than
served addresses. -/
structure Bounded (world : Dhcp4World) : Prop where
  served : ∀ ip lease, world.server.leases.lease? ip = some lease →
    InPool world.server.cfg.poolStart world.server.cfg.poolEnd ip ∨
      Bound world.server.statics ip
  size : world.server.leases.leases.entries.length ≤
    poolSize world.server.cfg.poolStart world.server.cfg.poolEnd +
      world.server.statics.entries.length

/-- No leases yet, and the pool of an enabled server is one of IPv4 addresses. -/
structure Configured (world : Dhcp4World) : Prop where
  leases : ∀ ip, world.server.leases.lease? ip = none
  family : world.server.cfg.enabled = true →
    world.server.cfg.poolStart.is4 = true ∧ world.server.cfg.poolEnd.is4 = true

variable {world after : Dhcp4World} {action : Dhcp4Action}

theorem Configured.attempt (h : Configured world) {ε : Type} {result : Except ε Dhcp4Server}
    (hok : ∀ server, result = .ok server → server.leases = world.server.leases ∧
      (server.cfg.enabled = true →
        server.cfg.poolStart.is4 = true ∧ server.cfg.poolEnd.is4 = true)) :
    Configured (world.attempt result) := by
  cases result with
  | error reason => exact h
  | ok server =>
    obtain ⟨hleases, hfamily⟩ := hok server rfl
    refine ⟨fun ip => ?_, hfamily⟩
    simp only [World.attempt, hleases]
    exact h.leases ip

theorem Configured.rebind (h : Configured world)
    {result : Except BindingError (GoMap String StaticBinding)} :
    Configured (world.attempt
      (result.map fun set => { world.server with statics := set })) := by
  refine h.attempt fun server hres => ?_
  cases result with
  | error reason => cases hres
  | ok set =>
    cases hres
    exact ⟨rfl, h.family⟩

theorem Configured.step (h : Configured world) (hstep : Guarded Setup Step world action after) :
    Configured after := by
  obtain ⟨hsetup, reply, happly⟩ := hstep
  cases action with
  | setConfig cfg =>
    cases happly
    refine h.attempt fun server hres => ?_
    have hspec := Dhcp4Server.setConfig_spec hres
    exact ⟨by rw [hspec.same], hspec.family⟩
  | putStatic binding | replaceStatics bindings | deleteStatic id =>
    cases happly
    exact h.rebind
  | message | releaseLease | portDown | sweep | advance => cases hsetup

theorem configured_of_reachable (h : Reachable Initial (Guarded Setup Step) world) :
    Configured world := by
  refine Reachable.induct ?_ (fun _ _ _ _ ih hstep => ih.step hstep) h
  rintro state ⟨ipv4, clock, rfl⟩
  exact ⟨fun _ => rfl, fun hon => nomatch hon⟩

theorem Configured.confined (h : Configured world) : world.desk.Confined :=
  ⟨fun ip _ hl => (nomatch (h.leases ip).symm.trans hl), h.family, fun _ => h.leases⟩

def declineInside : Dhcp4Action :=
  .message storageOrder "a" ⟨true, .decline, clientA, [], some 0x0a00000c, 0, false⟩

def declineOutside : Dhcp4Action :=
  .message storageOrder "a" ⟨true, .decline, clientA, [], some 0xc0a80001, 0, false⟩

theorem setup_servingWorld : Reachable Initial (Guarded Setup Step) servingWorld :=
  reachable_run initialWorld [serving] ⟨_, _, rfl⟩ ⟨⟨rfl, rfl⟩, trivial⟩

/-- As long as DECLINE names only served addresses, clients cannot make the
server keep leases anywhere else. -/
theorem lease_table_inside_served_space {configured : Dhcp4World}
    (hconfigured : Reachable Initial (Guarded Setup Step) configured)
    (h : Reachable (fun start => start = configured)
      (Guarded (Meets Desk.Contained) Step) world) : Bounded world := by
  have hstart (start : Dhcp4World) (hs : start = configured) : start.desk.Confined :=
    hs ▸ (configured_of_reachable hconfigured).confined
  have hconfined : world.desk.Confined :=
    Desk.confined_of_reachable (reachable_desk hstart h)
  exact ⟨hconfined.inside, hconfined.length_le⟩

theorem lease_table_inside_served_space_declined :
    (servingWorld.after declineInside).server.leases.leases.entries.length = 1 ∧
      Bounded (servingWorld.after declineInside) := by
  have hdeclined : Guarded (Meets Desk.Contained) Step servingWorld declineInside
      (servingWorld.after declineInside) := by
    refine ⟨fun _ _ => .inl ?_, step_after rfl⟩
    decide
  exact ⟨rfl, lease_table_inside_served_space setup_servingWorld (.next (.start rfl) hdeclined)⟩

/-- One DECLINE of an address outside the pool enters it into the table. -/
theorem decline_leaves_served_space :
    ∃ configured world lease, Reachable Initial (Guarded Setup Step) configured ∧
      Reachable (fun start => start = configured)
        (Guarded (Meets Desk.Fixed) Step) world ∧
      world.server.leases.lease? (.ip4 0xc0a80001) = some lease ∧
      world.server.cfg.poolStart = .ip4 0x0a00000a ∧
      world.server.cfg.poolEnd = .ip4 0x0a000014 ∧ world.server.statics = .empty ∧
      ¬ Bounded world := by
  have hdeclined : Guarded (Meets Desk.Fixed) Step servingWorld declineOutside
      (servingWorld.after declineOutside) := ⟨trivial, step_after rfl⟩
  refine ⟨servingWorld, servingWorld.after declineOutside, _, setup_servingWorld,
    .next (.start rfl) hdeclined, rfl, rfl, rfl, rfl, fun hbounded => ?_⟩
  rcases hbounded.served (.ip4 0xc0a80001) _ rfl with hpool | hbound
  · exact absurd hpool (by decide)
  · exact absurd hbound (by decide)

end Dhcp4World

end GvSwitch.Gateway
