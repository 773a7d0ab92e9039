import GvSwitch.Gateway.Exclusive4

/-!
# Refused and renewed addresses

`replyToRequest` lets `selectIP` book an address before it compares the address
with the one the client wants, and `selectIP` looks at option 50 only.  A refused
REQUEST therefore leaves the booking behind, and a client that names its address
in `ciaddr` is served as if it had named none.
-/

namespace GvSwitch.Gateway

open Foundation World
open Dhcp4World (storageOrder clientA clientB servingWorld)

namespace Dhcp4Server

variable {server : Dhcp4Server} {env : Env} {portID : String} {req : Dhcp4Request}

theorem messageType_transmit (req : Dhcp4Request) (reply : Dhcp4Reply) :
    (transmit req reply).messageType = reply.messageType := by
  unfold transmit
  split
  · rfl
  · split <;> rfl

theorem handle_of_nak {after : Dhcp4Server} {reply : Dhcp4Reply}
    (h : server.handle env portID req = some (after, some reply))
    (hnak : reply.messageType = .nak) :
    ∃ v4, server.ipv4 = some v4 ∧
      after = (server.replyToRequest env portID v4 req).1 := by
  unfold handle at h
  split at h
  · cases h
  split at h
  · obtain ⟨v4, hv4, hreply⟩ := Option.map_eq_some_iff.mp h
    dsimp only [replyToDiscover] at hreply
    split at hreply
    · obtain ⟨-, hsent⟩ := Prod.mk.inj hreply
      cases hsent
      simp [sendReply, messageType_transmit] at hnak
    · cases hreply
  · obtain ⟨v4, hv4, hreply⟩ := Option.map_eq_some_iff.mp h
    exact ⟨v4, hv4, (congrArg Prod.fst hreply).symm⟩
  · cases h
  · split at h <;> cases h
  · cases h

/-- The address `selectIP` takes from the pool when option 50 gives it none. -/
def poolChoice (server : Dhcp4Server) (env : Env) (v4 : V4Config) : Option Addr :=
  server.leases.firstFree env.now server.cfg.poolEnd
    (fun ip => ip == .ip4 v4.address || (server.bindings env).any (·.ip == ip))
    server.cfg.poolStart.remaining server.cfg.poolStart

/-- The lease at the address is the one a booking there would make it. -/
def BookedAlready (server : Dhcp4Server) (env : Env) (portID : String) (req : Dhcp4Request)
    (ip : Addr) (static : Bool) : Prop :=
  server.leases.lease? ip = some (booking env portID server.cfg req ip static)

/-- Nothing is left to book: another client has the address of the client's binding,
the pool is exhausted, or the lease is there already. -/
inductive Unbookable (server : Dhcp4Server) (env : Env) (portID : String) (v4 : V4Config)
    (req : Dhcp4Request) : Prop
  | bound (binding : StaticBinding)
      (hmatched : (server.desk env.now).matched env (req.client portID) = some binding)
      (hheld : (∃ lease, server.leases.lease? binding.ip = some lease ∧
          env.now ≤ lease.expiry ∧ lease.key ≠ req.key) ∨
        server.BookedAlready env portID req binding.ip true)
  | kept (lease : Lease)
      (hmatched : (server.desk env.now).matched env (req.client portID) = none)
      (hcurrent : (server.desk env.now).current env (req.client portID) = some lease)
      (hbound : ¬ Bound server.statics lease.ip)
      (hheld : server.BookedAlready env portID req lease.ip false)
  | granted (hmatched : (server.desk env.now).matched env (req.client portID) = none)
      (hcurrent : ∀ lease, (server.desk env.now).current env (req.client portID) = some lease →
        Bound server.statics lease.ip)
      (hgrant : server.grantable env v4 req req.requested = true)
      (hheld : server.BookedAlready env portID req req.requested false)
  | exhausted (hmatched : (server.desk env.now).matched env (req.client portID) = none)
      (hcurrent : ∀ lease, (server.desk env.now).current env (req.client portID) = some lease →
        Bound server.statics lease.ip)
      (hgrant : server.grantable env v4 req req.requested = false)
      (hheld : ∀ ip, server.poolChoice env v4 = some ip →
        server.BookedAlready env portID req ip false)

theorem set_keeps_iff (table : LeaseTable) (lease : Lease) :
    (∀ ip, (table.set lease).lease? ip = table.lease? ip) ↔
      table.lease? lease.ip = some lease := by
  simp only [LeaseTable.lease?_set]
  constructor
  · intro h
    rw [← h lease.ip, if_pos rfl]
  · intro h ip
    split
    · rename_i hip
      rw [hip, h]
    · rfl

/-- What `selectIP` takes when neither a binding nor a lease gives the client an
address. -/
def freshChoice (server : Dhcp4Server) (env : Env) (portID : String) (v4 : V4Config)
    (req : Dhcp4Request) : Addr × LeaseTable :=
  if server.grantable env v4 req req.requested then
    (req.requested, server.leases.set (booking env portID server.cfg req req.requested false))
  else
    server.leases.allocate env.now server.cfg.poolStart server.cfg.poolEnd
      (fun ip => ip == .ip4 v4.address || (server.bindings env).any (·.ip == ip))
      (draft env portID server.cfg req)

theorem selectIP_eq (v4 : V4Config) :
    server.selectIP env portID v4 req =
      (server.desk env.now).select env (req.client portID) (draft env portID server.cfg req)
        (server.freshChoice env portID v4 req) := rfl

theorem freshChoice_keeps_iff {v4 : V4Config}
    (hmat : (server.desk env.now).matched env (req.client portID) = none)
    (hcur : ∀ lease, (server.desk env.now).current env (req.client portID) = some lease →
      Bound server.statics lease.ip) :
    (∀ ip, (server.freshChoice env portID v4 req).2.lease? ip = server.leases.lease? ip) ↔
      server.Unbookable env portID v4 req := by
  constructor
  · intro h
    unfold freshChoice at h
    split at h
    · rename_i hgrant
      exact .granted hmat hcur hgrant ((set_keeps_iff _ _).mp h)
    · rename_i hgrant
      refine .exhausted hmat hcur (Bool.eq_false_iff.mpr hgrant) fun ip hchoice => ?_
      rw [poolChoice] at hchoice
      simp only [LeaseTable.allocate, hchoice] at h
      exact (set_keeps_iff _ _).mp h
  · intro h
    unfold freshChoice
    cases h with
    | bound binding hm _ => cases hmat.symm.trans hm
    | kept lease _ hc hbound _ => exact absurd (hcur lease hc) hbound
    | granted _ _ hgrant hheld =>
      rw [if_pos hgrant]
      exact (set_keeps_iff _ _).mpr hheld
    | exhausted _ _ hgrant hheld =>
      rw [if_neg (Bool.eq_false_iff.mp hgrant)]
      unfold LeaseTable.allocate
      split
      · exact fun _ => rfl
      · rename_i ip hchoice
        exact (set_keeps_iff _ _).mpr (hheld ip hchoice)

theorem selectIP_keeps_iff {v4 : V4Config} :
    (∀ ip, (server.selectIP env portID v4 req).2.lease? ip = server.leases.lease? ip) ↔
      server.Unbookable env portID v4 req := by
  rw [selectIP_eq]
  unfold Desk.select
  split
  · rename_i binding hmat
    split
    · rename_i huse
      refine ⟨fun _ => .bound binding hmat (.inl ?_), fun _ _ => rfl⟩
      by_contra hnone
      push Not at hnone
      exact Bool.false_ne_true
        (((LeaseTable.inUse_eq_false_iff _ _ _ _ _).mpr hnone).symm.trans huse)
    · rename_i huse
      refine (set_keeps_iff _ _).trans ⟨fun h => .bound binding hmat (.inr h), fun h => ?_⟩
      cases h with
      | bound other ho hheld =>
        cases hmat.symm.trans ho
        rcases hheld with ⟨lease, hl, hruns, hne⟩ | hheld
        · exact absurd ((LeaseTable.inUse_eq_false_iff _ _ _ _ _).mp
            (Bool.eq_false_iff.mpr huse) lease hl hruns) hne
        · exact hheld
      | kept _ hm | granted hm | exhausted hm => cases hmat.symm.trans hm
  · rename_i hmat
    split
    · rename_i lease hcur
      split
      · rename_i hbound
        refine freshChoice_keeps_iff hmat fun other ho => ?_
        cases hcur.symm.trans ho
        exact (any_listBindings_iff _ _ _).mp hbound
      · rename_i hbound
        have hfree : ¬ Bound server.statics lease.ip := fun h =>
          hbound ((any_listBindings_iff _ _ _).mpr h)
        refine (set_keeps_iff _ _).trans ⟨fun h => .kept lease hmat hcur hfree h, fun h => ?_⟩
        cases h with
        | bound _ hm => cases hmat.symm.trans hm
        | kept other _ ho _ hheld =>
          cases hcur.symm.trans ho
          exact hheld
        | granted _ hall | exhausted _ hall => exact absurd (hall lease hcur) hfree
    · rename_i hcur
      exact freshChoice_keeps_iff hmat fun _ h => nomatch hcur.symm.trans h

/-- A refused REQUEST leaves the table alone exactly when it names no address or
nothing is left to book. -/
theorem nak_keeps_leases_iff {after : Dhcp4Server} {reply : Dhcp4Reply}
    (hhandle : server.handle env portID req = some (after, some reply))
    (hnak : reply.messageType = .nak) :
    (∀ ip, after.leases.lease? ip = server.leases.lease? ip) ↔
      req.want.isValid = false ∨ ∃ v4 ∈ server.ipv4, server.Unbookable env portID v4 req := by
  obtain ⟨v4, hv4, rfl⟩ := handle_of_nak hhandle hnak
  cases hwant : req.want.isValid with
  | false => simp [replyToRequest, hwant]
  | true =>
    have hleases : (server.replyToRequest env portID v4 req).1.leases =
        (server.selectIP env portID v4 req).2 := by
      simp [replyToRequest, hwant]
    simp [hleases, selectIP_keeps_iff, hv4]

def requestA (requested : Option Ip4) (ciaddr : Ip4) : Dhcp4Request :=
  ⟨true, .request, clientA, [], requested, ciaddr, false⟩

/-- The first client is bound to 10.0.0.10, which the second has leased. -/
def contestedWorld : Dhcp4World :=
  (servingWorld.after (.message storageOrder "b" Dhcp4World.discoverB)).after
    (.putStatic ⟨"a", 0, none, some "02:00:00:00:00:01", none, .ip4 0x0a00000a⟩)

/-- Refused 10.0.0.99, a client whose binding is taken is left without a lease. -/
theorem nak_keeps_leases_contested :
    ∃ after reply, contestedWorld.server.handle storageOrder "a"
        (requestA (some 0x0a000063) 0) = some (after, some reply) ∧
      reply.messageType = .nak ∧
      ∀ ip, after.leases.lease? ip = contestedWorld.server.leases.lease? ip :=
  ⟨_, _, rfl, rfl, (@nak_keeps_leases_iff _ storageOrder "a"
    (requestA (some 0x0a000063) 0) _ _ rfl rfl).mpr (.inr ⟨⟨0x0a000001, 24⟩, rfl,
      .bound _ rfl (.inl ⟨_, rfl, by decide, by decide⟩)⟩)⟩

/-- Refused 10.0.0.99, the client is left with a lease on 10.0.0.10. -/
theorem nak_leaves_lease :
    ∃ after reply, servingWorld.server.handle storageOrder "a"
        (requestA (some 0x0a000063) 0) = some (after, some reply) ∧
      reply.messageType = .nak ∧
      servingWorld.server.leases.lease? (.ip4 0x0a00000a) = none ∧
      (after.leases.lease? (.ip4 0x0a00000a)).isSome = true := by
  refine ⟨_, _, rfl, rfl, rfl, ?_⟩
  rfl

/-! ## Renewing without a lease -/

theorem selectIP_of_unknown {v4 : V4Config}
    (hmat : matchBinding (server.bindings env) portID req.mac req.clientIDOf = none)
    (hunknown : ∀ ip lease, server.leases.lease? ip = some lease →
      lease.key = req.key → lease.expiry < env.now) :
    (server.selectIP env portID v4 req).1 =
      if server.grantable env v4 req req.requested then req.requested
      else (server.poolChoice env v4).getD .invalid := by
  have hcur : server.leases.byClient env.now
      (env.rangeLeases server.leases.leases.keys) req.mac req.clientIDOf = none := by
    cases hf : server.leases.byClient env.now
        (env.rangeLeases server.leases.leases.keys) req.mac req.clientIDOf with
    | none => rfl
    | some lease =>
      obtain ⟨hl, hkey, hruns⟩ := LeaseTable.byClient_spec hf
      have := hunknown _ lease hl hkey
      omega
  simp only [selectIP, hmat, hcur, poolChoice, LeaseTable.allocate]
  split
  · rfl
  split
  · rename_i hfst
    rw [hfst]
    rfl
  · rename_i ip hfst
    rw [hfst]
    rfl

/-- Out of a free address of the pool, a client without lease gets the one it
wants exactly when option 50 names it or the pool would give it anyway. -/
theorem request_acked_iff {v4 : V4Config} (henabled : server.cfg.enabled = true)
    (hboot : req.bootRequest = true) (htype : req.messageType = .request)
    (hv4 : server.ipv4 = some v4)
    (hmatched : matchBinding (server.bindings env) portID req.mac req.clientIDOf = none)
    (hunknown : ∀ ip lease, server.leases.lease? ip = some lease →
      lease.key = req.key → lease.expiry < env.now)
    (hpool : InPool server.cfg.poolStart server.cfg.poolEnd req.want)
    (hgateway : req.want ≠ .ip4 v4.address) (hbound : ¬ Bound server.statics req.want)
    (hfree : server.leases.inUse env.now req.want req.mac req.clientIDOf = false) :
    (∃ after reply, server.handle env portID req = some (after, some reply) ∧
        reply.messageType = .ack ∧ reply.yourIPAddr = req.want) ↔
      req.requested = req.want ∨ server.grantable env v4 req req.requested = false ∧
        server.poolChoice env v4 = some req.want := by
  have hgrant : server.grantable env v4 req req.want = true := by
    have hstat : (server.bindings env).any (·.ip == req.want) = false :=
      Bool.eq_false_iff.mpr fun hany =>
        hbound ((any_listBindings_iff server.statics env req.want).mp hany)
    simp [grantable, hpool.1, hpool.2.1, hpool.2.2, hgateway, hstat, hfree]
  have hhandle : server.handle env portID req =
      some (server.replyToRequest env portID v4 req) := by
    simp [handle, henabled, hboot, htype, hv4]
  have hsent : (server.replyToRequest env portID v4 req).2 =
      if (server.selectIP env portID v4 req).1 = req.want
      then some (sendReply server.cfg v4 req .ack req.want) else some (sendNak v4 req) := by
    simp only [replyToRequest, hpool.1]
    by_cases hselect : (server.selectIP env portID v4 req).1 = req.want
    · simp [hselect, hpool.1]
    · simp [hselect]
  have hanswer : (∃ after reply, server.handle env portID req = some (after, some reply) ∧
      reply.messageType = .ack ∧ reply.yourIPAddr = req.want) ↔
        (server.selectIP env portID v4 req).1 = req.want := by
    rw [hhandle]
    constructor
    · rintro ⟨after, reply, hreply, hack, -⟩
      rw [congrArg Prod.snd (Option.some.inj hreply)] at hsent
      by_contra hselect
      rw [if_neg hselect] at hsent
      cases hsent
      rw [sendNak, messageType_transmit] at hack
      cases hack
    · intro hselect
      rw [if_pos hselect] at hsent
      exact ⟨_, _, congrArg some (Prod.ext rfl hsent), messageType_transmit req _,
        (isPromise_transmit req _).2⟩
  rw [hanswer, selectIP_of_unknown hmatched hunknown]
  by_cases hrequested : req.requested = req.want
  · simp [hrequested, hgrant]
  · cases ho : server.grantable env v4 req req.requested with
    | true => simp [hrequested]
    | false =>
      cases hchoice : server.poolChoice env v4 with
      | none =>
        have hinv : Addr.invalid ≠ req.want := by
          intro heq
          rw [← heq] at hpool
          cases hpool.1
        simp [hrequested, hinv]
      | some ip => simp [hrequested]

/-- Renewing 10.0.0.10, the first address of the pool. -/
theorem request_acked_first :
    ∃ after reply, servingWorld.server.handle storageOrder "a"
        (requestA none 0x0a00000a) = some (after, some reply) ∧
      reply.messageType = .ack ∧ reply.yourIPAddr = .ip4 0x0a00000a :=
  (@request_acked_iff servingWorld.server storageOrder "a"
    (requestA none 0x0a00000a) ⟨0x0a000001, 24⟩ rfl rfl rfl rfl rfl
    (fun _ _ hl => nomatch hl) (by decide) (by decide) (by decide) rfl).mpr
    (.inr ⟨rfl, rfl⟩)

/-- Renewing 10.0.0.15 after the leases were lost. -/
theorem renewal_refused :
    servingWorld.server.statics.keys = [] ∧ servingWorld.server.leases.leases.keys = [] ∧
      InPool servingWorld.server.cfg.poolStart servingWorld.server.cfg.poolEnd
        (.ip4 0x0a00000f) ∧
      ∃ after reply, servingWorld.server.handle storageOrder "a"
          (requestA none 0x0a00000f) = some (after, some reply) ∧
        reply.messageType = .nak := by
  refine ⟨rfl, rfl, by decide, _, _, rfl, ?_⟩
  rfl

end Dhcp4Server

end GvSwitch.Gateway
