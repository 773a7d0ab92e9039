import GvSwitch.Gateway.Dhcp4

/-!
# The address desk

What a DHCP server of either family is for.  A desk hands out the addresses of
a pool and of static bindings and keeps a table of who holds what.  It serves a
client from its binding, else from the lease the client holds, else from what
is free.
-/

namespace GvSwitch.Gateway

open Foundation

/-! ## Clients -/

structure Client where
  portID : String
  hardware : Bytes
  identifier : Bytes

def Client.mac (client : Client) : String := macString client.hardware

def Client.clientID (client : Client) : String := hexString client.identifier

def Client.key (client : Client) : String := clientKey client.mac client.clientID

def declinedKey : String := clientKey "declined" ""

theorem Client.key_ne_declinedKey (client : Client) : client.key ≠ declinedKey := by
  intro heq
  have hletter : 'l' ∈ client.key.toList := by
    rw [heq]
    decide
  simp only [Client.key, clientKey, String.toList_append, List.mem_append] at hletter
  rcases hletter with (hmac | hslash) | hid
  · exact absurd (mem_toLower_macString hmac) (by decide)
  · exact absurd hslash (by decide)
  · exact absurd (mem_toLower_hexString hid) (by decide)

/-! ## Addresses to serve -/

def InPool (start last ip : Addr) : Prop :=
  ip.isValid = true ∧ ip.less start = false ∧ last.less ip = false

instance (start last ip : Addr) : Decidable (InPool start last ip) :=
  inferInstanceAs (Decidable (_ ∧ _ ∧ _))

def Bound (statics : GoMap String StaticBinding) (ip : Addr) : Prop :=
  ∃ id binding, statics.get? id = some binding ∧ binding.ip = ip

theorem bound_iff (statics : GoMap String StaticBinding) (ip : Addr) :
    Bound statics ip ↔ ∃ entry ∈ statics.entries, entry.2.ip = ip := by
  simp [Bound, GoMap.get?_eq_some_iff]

instance (statics : GoMap String StaticBinding) (ip : Addr) :
    Decidable (Bound statics ip) :=
  decidable_of_iff _ (bound_iff statics ip).symm

def listBindings (statics : GoMap String StaticBinding) (env : Env) : List StaticBinding :=
  (env.rangeStatics statics.keys).filterMap statics.get?

theorem mem_listBindings_iff (statics : GoMap String StaticBinding) (env : Env)
    (binding : StaticBinding) :
    binding ∈ listBindings statics env ↔ ∃ id, statics.get? id = some binding := by
  rw [listBindings, List.mem_filterMap]
  constructor
  · rintro ⟨id, -, hget⟩
    exact ⟨id, hget⟩
  rintro ⟨id, hget⟩
  refine ⟨id, ((env.statics_perm _).mem_iff).mpr ?_, hget⟩
  exact (GoMap.mem_keys_iff statics id).mpr ⟨binding, hget⟩

theorem any_listBindings_iff (statics : GoMap String StaticBinding) (env : Env) (ip : Addr) :
    (listBindings statics env).any (·.ip == ip) = true ↔ Bound statics ip := by
  simp only [List.any_eq_true, mem_listBindings_iff, beq_iff_eq]
  constructor
  · rintro ⟨binding, ⟨id, hget⟩, hip⟩
    exact ⟨id, binding, hget, hip⟩
  · rintro ⟨id, binding, hget, hip⟩
    exact ⟨binding, ⟨id, hget⟩, hip⟩

theorem matchStep_fst (portID mac clientID : String) (best : Option StaticBinding × Nat)
    (binding : StaticBinding) :
    (matchStep portID mac clientID best binding).1 = best.1 ∨
      (matchStep portID mac clientID best binding).1 = some binding := by
  unfold matchStep
  split
  · exact .inl rfl
  · exact .inl rfl
  split
  · exact .inr rfl
  split
  · exact .inr rfl
  · exact .inl rfl

theorem foldl_matchStep_fst (portID mac clientID : String) (bindings : List StaticBinding)
    (best : Option StaticBinding × Nat) :
    (bindings.foldl (matchStep portID mac clientID) best).1 = best.1 ∨
      ∃ binding ∈ bindings,
        (bindings.foldl (matchStep portID mac clientID) best).1 = some binding := by
  induction bindings generalizing best with
  | nil => exact .inl rfl
  | cons next rest ih =>
    rw [List.foldl_cons]
    rcases ih (matchStep portID mac clientID best next) with hs | ⟨binding, hm, hlast⟩
    · rw [hs]
      exact (matchStep_fst portID mac clientID best next).imp id
        fun hnext => ⟨next, .head _, hnext⟩
    · exact .inr ⟨binding, List.mem_cons_of_mem next hm, hlast⟩

theorem mem_of_matchBinding {bindings : List StaticBinding} {portID mac clientID : String}
    {binding : StaticBinding} (h : matchBinding bindings portID mac clientID = some binding) :
    binding ∈ bindings := by
  rcases foldl_matchStep_fst portID mac clientID bindings (none, 0) with
    hnone | ⟨other, hm, ho⟩
  · exact absurd (h.symm.trans hnone) (by simp)
  · cases h.symm.trans ho
    exact hm

/-! ## Desks -/

structure Desk where
  enabled : Bool
  poolStart : Addr
  poolEnd : Addr
  /-- The gateway's own address. -/
  gateway : Option Addr
  statics : GoMap String StaticBinding
  leases : LeaseTable
  clock : Int

namespace Desk

variable (desk : Desk) (env : Env) (client : Client)

def matched : Option StaticBinding :=
  matchBinding (listBindings desk.statics env) client.portID client.mac client.clientID

def current : Option Lease :=
  desk.leases.byClient desk.clock (env.rangeLeases desk.leases.leases.keys) client.mac
    client.clientID

def Free (ip : Addr) : Prop :=
  desk.leases.inUse desk.clock ip client.mac client.clientID = false

inductive Choice : Addr → Prop
  | bound (binding : StaticBinding) (hmatched : desk.matched env client = some binding)
      (hfree : desk.Free client binding.ip) : Choice binding.ip
  | kept (lease : Lease) (hmatched : desk.matched env client = none)
      (hcurrent : desk.current env client = some lease)
      (hbound : ¬ Bound desk.statics lease.ip) : Choice lease.ip
  | fresh (ip : Addr) (hmatched : desk.matched env client = none)
      (hcurrent : ∀ lease, desk.current env client = some lease →
        Bound desk.statics lease.ip)
      (hpool : InPool desk.poolStart desk.poolEnd ip) (hzone : ip.zone = desk.poolStart.zone)
      (hgateway : desk.gateway ≠ some ip)
      (hbound : ¬ Bound desk.statics ip) (hfree : desk.Free client ip) : Choice ip

variable {desk env client}

theorem current_spec {lease : Lease} (h : desk.current env client = some lease) :
    desk.leases.lease? lease.ip = some lease ∧ lease.key = client.key ∧
      desk.clock ≤ lease.expiry :=
  LeaseTable.byClient_spec h

theorem bound_of_matched {binding : StaticBinding}
    (h : desk.matched env client = some binding) : Bound desk.statics binding.ip := by
  obtain ⟨id, hget⟩ := (mem_listBindings_iff _ _ _).mp (mem_of_matchBinding h)
  exact ⟨id, binding, hget, rfl⟩

theorem Choice.free {ip : Addr} (h : Choice desk env client ip) : desk.Free client ip := by
  cases h with
  | bound binding _ hfree | fresh _ _ _ _ _ _ _ hfree => exact hfree
  | kept lease _ hcur _ =>
    obtain ⟨hl, hkey, -⟩ := current_spec hcur
    refine (LeaseTable.inUse_eq_false_iff _ _ _ _ _).mpr fun other ho _ => ?_
    rw [hl] at ho
    cases ho
    exact hkey

/-! ## Steps -/

inductive Event where
  /-- A client asks for an address. -/
  | serve (env : Env) (client : Client)
  | decline (ip : Addr)
  /-- Some leases end. -/
  | withdraw
  | configure (enabled : Bool) (poolStart poolEnd : Addr)
  | rebind (statics : GoMap String StaticBinding)
  | advance (duration : Nat)

def book (desk : Desk) (lease : Lease) : Desk :=
  { desk with leases := desk.leases.set lease }

inductive Step (desk : Desk) : Event → Desk → Prop
  | served (env : Env) (client : Client) (lease : Lease) (henabled : desk.enabled = true)
      (hkey : lease.key = client.key) (hchoice : Choice desk env client lease.ip) :
      Step desk (.serve env client) (desk.book lease)
  | declined (lease : Lease) (henabled : desk.enabled = true)
      (hkey : lease.key = declinedKey) (hvalid : lease.ip.isValid = true) :
      Step desk (.decline lease.ip) (desk.book lease)
  | withdrawn (leases : LeaseTable)
      (hleases : ∀ ip lease, leases.lease? ip = some lease →
        desk.leases.lease? ip = some lease) :
      Step desk .withdraw { desk with leases := leases }
  | configured (enabled : Bool) (poolStart poolEnd : Addr)
      (hzone : enabled = true → poolStart.zone = "") :
      Step desk (.configure enabled poolStart poolEnd)
        { desk with enabled := enabled, poolStart := poolStart, poolEnd := poolEnd }
  | rebound (statics : GoMap String StaticBinding) :
      Step desk (.rebind statics) { desk with statics := statics }
  | advanced (duration : Nat) :
      Step desk (.advance duration) { desk with clock := desk.clock + duration }

end Desk

end GvSwitch.Gateway
