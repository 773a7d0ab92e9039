import GvSwitch.Gateway.Desk
import GvSwitch.Gateway.Dhcp6

/-!
# Serving from a desk

Both servers choose the addresses they book as a desk does, and change their
tables in no other way than by bookings, releases and declined addresses.
-/

namespace GvSwitch.Gateway

open Foundation

def Dhcp4Server.desk (server : Dhcp4Server) (clock : Int) : Desk where
  enabled := server.cfg.enabled
  poolStart := server.cfg.poolStart
  poolEnd := server.cfg.poolEnd
  gateway := server.ipv4.map fun v4 => .ip4 v4.address
  statics := server.statics
  leases := server.leases
  clock := clock

def Dhcp6Server.desk (server : Dhcp6Server) (clock : Int) : Desk where
  enabled := server.cfg.enabled
  poolStart := server.cfg.poolStart
  poolEnd := server.cfg.poolEnd
  gateway := server.ipv6.map fun v6 => .ip6 v6.address
  statics := server.statics
  leases := server.leases
  clock := clock

def Dhcp4Request.client (req : Dhcp4Request) (portID : String) : Client :=
  ⟨portID, req.clientHWAddr, req.clientIdentifier⟩

def Dhcp6Message.client (msg : Dhcp6Message) (portID : String) (duid : Bytes) : Client :=
  ⟨portID, msg.srcMAC, duid⟩

/-! ## Selections -/

inductive Selected (desk : Desk) (env : Env) (client : Client) (expiry : Int) :
    Addr × LeaseTable → Prop
  | nothing : Selected desk env client expiry (.invalid, desk.leases)
  | booked (lease : Lease) (hkey : lease.key = client.key) (hexpiry : lease.expiry = expiry)
      (hchoice : desk.Choice env client lease.ip) :
      Selected desk env client expiry (lease.ip, desk.leases.set lease)

section Selection

variable {desk : Desk} {env : Env} {client : Client} {lease : Lease}

theorem selected_allocate (hkey : lease.key = client.key)
    (hmat : desk.matched env client = none)
    (hcur : ∀ found, desk.current env client = some found → Bound desk.statics found.ip)
    {own : Addr} (hown : desk.gateway = some own) :
    Selected desk env client lease.expiry
      (desk.leases.allocate desk.clock desk.poolStart desk.poolEnd
        (fun ip => ip == own || (listBindings desk.statics env).any (·.ip == ip)) lease) := by
  unfold LeaseTable.allocate
  split
  · exact .nothing
  rename_i ip hfst
  obtain ⟨hval, hzone, hfrom, hto, hskip, hfree⟩ := LeaseTable.available_of_firstFree hfst
  rw [Bool.or_eq_false_iff] at hskip
  have hchoice : desk.Choice env client ip := by
    refine .fresh ip hmat hcur ⟨hval, hfrom, hto⟩ hzone ?_ ?_ ?_
    · rw [hown]
      rintro ⟨rfl⟩
      simp at hskip
    · rw [← any_listBindings_iff desk.statics env, hskip.2]
      exact Bool.false_ne_true
    · exact LeaseTable.inUse_of_unleased _ _ hfree
  have hbooked := Selected.booked { lease with ip := ip } hkey rfl hchoice
  exact hbooked

/-- A selection tries the static binding, then the lease that the client has, then
the pool. -/
def Desk.select (desk : Desk) (env : Env) (client : Client) (lease : Lease)
    (pool : Addr × LeaseTable) : Addr × LeaseTable :=
  match desk.matched env client with
  | some binding =>
    if desk.leases.inUse desk.clock binding.ip client.mac client.clientID then
      (.invalid, desk.leases)
    else (binding.ip, desk.leases.set { lease with ip := binding.ip, static := true })
  | none =>
    match desk.current env client with
    | some found =>
      if (listBindings desk.statics env).any (·.ip == found.ip) then pool
      else (found.ip, desk.leases.set { lease with ip := found.ip, static := false })
    | none => pool

theorem selected_select (hkey : lease.key = client.key) {pool : Addr × LeaseTable}
    (hpool : desk.matched env client = none →
      (∀ found, desk.current env client = some found → Bound desk.statics found.ip) →
        Selected desk env client lease.expiry pool) :
    Selected desk env client lease.expiry (desk.select env client lease pool) := by
  have hbook (ip : Addr) (static : Bool) (hchoice : desk.Choice env client ip) :
      Selected desk env client lease.expiry
        (ip, desk.leases.set { lease with ip := ip, static := static }) :=
    .booked { lease with ip := ip, static := static } hkey rfl hchoice
  unfold Desk.select
  split
  · rename_i binding hmat
    split
    · exact .nothing
    · rename_i huse
      exact hbook _ _ (.bound binding hmat (Bool.eq_false_iff.mpr huse))
  · rename_i hmat
    split
    · rename_i found hf
      split
      · rename_i hn
        refine hpool hmat fun other ho => ?_
        cases hf.symm.trans ho
        exact (any_listBindings_iff desk.statics env _).mp hn
      · rename_i hn
        exact hbook _ _ (.kept found hmat hf fun h =>
          hn ((any_listBindings_iff desk.statics env _).mpr h))
    · rename_i hnone
      exact hpool hmat fun other ho => nomatch hnone.symm.trans ho

end Selection

section Servers

/-- IPv4 addresses come before all that have a zone. -/
theorem Dhcp4Request.zone_requested (req : Dhcp4Request) {start : Addr}
    (h : req.requested.less start = false) : req.requested.zone = start.zone := by
  unfold requested at h ⊢
  generalize req.requestedIPAddress = asked at h ⊢
  cases asked with
  | none | some address => cases start <;> first | rfl | simp [Addr.less, Addr.bitLen] at h

variable (env : Env) (portID : String)

theorem Dhcp4Server.selectIP_selected (server : Dhcp4Server) {v4 : V4Config}
    (hv4 : server.ipv4 = some v4) (req : Dhcp4Request) :
    Selected (server.desk env.now) env (req.client portID) (env.now + server.cfg.leaseTime)
      (server.selectIP env portID v4 req) := by
  have hown : (server.desk env.now).gateway = some (.ip4 v4.address) := by
    simp [desk, hv4]
  have hkey : (draft env portID server.cfg req).key = (req.client portID).key := rfl
  refine selected_select hkey fun hmat hcur => ?_
  -- the pool, but first the address that the client asks for
  split
  · rename_i hgrant
    simp only [grantable, Bool.and_eq_true, Bool.not_eq_true', bne_iff_ne] at hgrant
    obtain ⟨⟨⟨⟨⟨hval, hto⟩, hfrom⟩, hne⟩, hbound⟩, hfree⟩ := hgrant
    refine .booked (booking env portID server.cfg req req.requested false) rfl rfl
      (.fresh _ hmat hcur ⟨hval, hfrom, hto⟩ ?_ ?_ ?_ hfree)
    · exact req.zone_requested hfrom
    · rw [hown]
      exact fun heq => hne (Option.some.inj heq).symm
    intro hn
    have hlist := (any_listBindings_iff server.statics env _).mpr hn
    exact Bool.false_ne_true (hbound.symm.trans hlist)
  · exact selected_allocate hkey hmat hcur hown

theorem Dhcp6Server.selectIP6_selected (server : Dhcp6Server) {v6 : V6Config}
    (hv6 : server.ipv6 = some v6) (msg : Dhcp6Message) (duid : Bytes) :
    Selected (server.desk env.now) env (msg.client portID duid)
      (env.now + server.cfg.leaseTime)
      (server.selectIP6 env portID v6 msg.srcMAC (hexString duid)) := by
  have hown : (server.desk env.now).gateway = some (.ip6 v6.address) := by
    simp [desk, hv6]
  have hkey : (draft env portID server.cfg msg.mac (hexString duid)).key =
      (msg.client portID duid).key := rfl
  exact selected_select hkey fun hmat hcur =>
    selected_allocate hkey hmat hcur hown

end Servers

/-! ## Answers -/

/-- Everything a message can do.  A selection is carried by a promise, or refused if
it is not what a REQUEST wants. -/
inductive Dhcp4Server.Answered (server : Dhcp4Server) (env : Env) (portID : String)
    (req : Dhcp4Request) : Dhcp4Server → Option Dhcp4Reply → Prop
  | ignored (reply : Option Dhcp4Reply)
      (hquiet : ∀ sent, reply = some sent → sent.isPromise = false) :
      Answered server env portID req server reply
  | selected (ip : Addr) (leases : LeaseTable) (reply : Option Dhcp4Reply)
      (henabled : server.cfg.enabled = true)
      (htype : req.messageType = .discover ∨ req.messageType = .request)
      (hselected : Selected (server.desk env.now) env (req.client portID)
        (env.now + server.cfg.leaseTime) (ip, leases))
      (hreply : (∃ sent, reply = some sent ∧ sent.isPromise = true ∧
          sent.yourIPAddr = ip ∧ ip.isValid = true) ∨
        (∀ sent, reply = some sent → sent.isPromise = false) ∧
          (ip = .invalid ∨ req.messageType = .request ∧ ip ≠ req.want)) :
      Answered server env portID req { server with leases := leases } reply
  | released (henabled : server.cfg.enabled = true) (htype : req.messageType = .release) :
      Answered server env portID req
        { server with leases := server.leases.drop req.ciaddr } none
  | declined (henabled : server.cfg.enabled = true) (htype : req.messageType = .decline)
      (hvalid : req.requested.isValid = true) :
      Answered server env portID req
        { server with leases := server.leases.set (declined env server.cfg req) } none

section Answered4

variable {server : Dhcp4Server} {env : Env} {portID : String} {req : Dhcp4Request}

theorem Dhcp4Server.answered_replyToDiscover {v4 : V4Config} (hv4 : server.ipv4 = some v4)
    (hon : server.cfg.enabled = true) (hty : req.messageType = .discover) :
    Answered server env portID req (server.replyToDiscover env portID v4 req).1
      (server.replyToDiscover env portID v4 req).2 := by
  have hsel := server.selectIP_selected env portID hv4 req
  unfold replyToDiscover
  generalize server.selectIP env portID v4 req = selected at hsel ⊢
  refine .selected selected.1 selected.2 _ hon (.inl hty) hsel ?_
  dsimp only
  split
  · rename_i hval
    obtain ⟨hprom, hip⟩ := isPromise_transmit req _
    exact .inl ⟨_, rfl, hprom, hip, hval⟩
  · rename_i hinv
    exact .inr ⟨fun _ hsent => (nomatch hsent), .inl (by simpa [Addr.isValid] using hinv)⟩

theorem Dhcp4Server.answered_replyToRequest {v4 : V4Config} (hv4 : server.ipv4 = some v4)
    (hon : server.cfg.enabled = true) (hty : req.messageType = .request) :
    Answered server env portID req (server.replyToRequest env portID v4 req).1
      (server.replyToRequest env portID v4 req).2 := by
  have hnak (sent : Dhcp4Reply) (h : some (sendNak v4 req) = some sent) :
      sent.isPromise = false := by
    cases h
    exact (isPromise_transmit req _).1
  unfold replyToRequest
  split
  · exact .ignored _ hnak
  have hsel := server.selectIP_selected env portID hv4 req
  generalize server.selectIP env portID v4 req = selected at hsel ⊢
  refine .selected selected.1 selected.2 _ hon (.inr hty) hsel ?_
  dsimp only
  split
  · rename_i ho
    refine .inr ⟨hnak, ?_⟩
    rcases Bool.or_eq_true _ _ ▸ ho with hinv | hne
    · exact .inl (by simpa [Addr.isValid] using hinv)
    · exact .inr ⟨hty, by simpa using hne⟩
  · rename_i hs
    rw [Bool.or_eq_true, not_or, Bool.not_eq_true', Bool.not_eq_false] at hs
    obtain ⟨hprom, hip⟩ := isPromise_transmit req _
    exact .inl ⟨_, rfl, hprom, hip, hs.1⟩

theorem Dhcp4Server.handle_answered {after : Dhcp4Server} {reply : Option Dhcp4Reply}
    (h : server.handle env portID req = some (after, reply)) :
    Answered server env portID req after reply := by
  have hq (sent : Dhcp4Reply) (hsent : none = some sent) : sent.isPromise = false :=
    nomatch hsent
  unfold handle at h
  split at h
  · cases h
    exact .ignored none hq
  rename_i hactive
  rw [Bool.or_eq_true, not_or, Bool.not_eq_true', Bool.not_eq_false] at hactive
  have hon := hactive.1
  split at h
  · rename_i hty
    obtain ⟨v4, hv4, hres⟩ := Option.map_eq_some_iff.mp h
    have hd : Answered server env portID req _ _ := answered_replyToDiscover hv4 hon hty
    rw [hres] at hd
    exact hd
  · rename_i hty
    obtain ⟨v4, hv4, hres⟩ := Option.map_eq_some_iff.mp h
    have hd : Answered server env portID req _ _ := answered_replyToRequest hv4 hon hty
    rw [hres] at hd
    exact hd
  · rename_i hty
    cases h
    exact .released hon hty
  · rename_i hty
    split at h
    · rename_i hval
      cases h
      exact .declined hon hty hval
    · cases h
      exact .ignored none hq
  · cases h
    exact .ignored none hq

end Answered4

inductive Dhcp6Server.Answered (server : Dhcp6Server) (env : Env) (portID : String)
    (msg : Dhcp6Message) : Dhcp6Server → Option Dhcp6Reply → Prop
  | ignored (reply : Option Dhcp6Reply)
      (hcarried : ∀ sent, reply = some sent → sent.carried = none) :
      Answered server env portID msg server reply
  | selected (duid : Bytes) (ip : Addr) (leases : LeaseTable) (reply : Option Dhcp6Reply)
      (henabled : server.cfg.enabled = true) (hduid : msg.clientID = some duid)
      (htype : msg.messageType ∈ [.solicit, .request, .renew, .rebind])
      (hselected : Selected (server.desk env.now) env (msg.client portID duid)
        (env.now + server.cfg.leaseTime) (ip, leases))
      (hreply : reply = none ∧ ip = .invalid ∨ ∃ sent, reply = some sent ∧
        ip.isValid = true ∧ (sent.carried = none ∨ sent.carried = some ip.withoutZone)) :
      Answered server env portID msg { server with leases := leases } reply
  | released (duid : Bytes) (lease : Lease) (reply : Dhcp6Reply)
      (henabled : server.cfg.enabled = true) (hduid : msg.clientID = some duid)
      (htype : msg.messageType = .release)
      (hcurrent : (server.desk env.now).current env (msg.client portID duid) = some lease)
      (hcarried : reply.carried = none) :
      Answered server env portID msg
        { server with leases := server.leases.drop lease.ip } (some reply)

section Answered6

variable {server : Dhcp6Server} {env : Env} {portID : String} {msg : Dhcp6Message}

theorem Dhcp6Server.answered_replyAddress {v6 : V6Config} (hv6 : server.ipv6 = some v6)
    {duid : Bytes} (hon : server.cfg.enabled = true) (hduid : msg.clientID = some duid)
    (hty : msg.messageType ∈ [.solicit, .request, .renew, .rebind]) (advertise : Bool) :
    Answered server env portID msg
      (server.replyAddress env portID v6 msg duid advertise).1
      (server.replyAddress env portID v6 msg duid advertise).2 := by
  have hsel := server.selectIP6_selected env portID hv6 msg duid
  unfold replyAddress
  generalize server.selectIP6 env portID v6 msg.srcMAC (hexString duid) = selected at hsel ⊢
  refine .selected duid selected.1 selected.2 _ hon hduid hty hsel ?_
  dsimp only
  split
  · rename_i hval
    refine .inr ⟨_, rfl, hval, ?_⟩
    cases hiana : msg.iana with
    | none => exact .inl (by simp [Dhcp6Reply.carried, transmit])
    | some iaId => exact .inr (by simp [Dhcp6Reply.carried, transmit])
  · rename_i hval
    exact .inl ⟨rfl, by simpa [Addr.isValid] using hval⟩

theorem Dhcp6Server.handle_answered {after : Dhcp6Server} {reply : Option Dhcp6Reply}
    (h : server.handle env portID msg = some (after, reply)) :
    Answered server env portID msg after reply := by
  have hsilent (sent : Dhcp6Reply) (hsent : none = some sent) : sent.carried = none :=
    nomatch hsent
  have haddress {duid : Bytes} (advertise : Bool) (hon : server.cfg.enabled = true)
      (hduid : msg.clientID = some duid)
      (hty : msg.messageType ∈ [.solicit, .request, .renew, .rebind])
      (hres : (server.ipv6.map fun v6 =>
        server.replyAddress env portID v6 msg duid advertise) = some (after, reply)) :
      Answered server env portID msg after reply := by
    obtain ⟨v6, hv6, hres⟩ := Option.map_eq_some_iff.mp hres
    have hd : Answered server env portID msg _ _ :=
      answered_replyAddress hv6 hon hduid hty advertise
    rw [hres] at hd
    exact hd
  unfold handle at h
  split at h
  · cases h
    exact .ignored none hsilent
  rename_i hactive
  have hon : server.cfg.enabled = true := by simpa using hactive
  split at h
  · cases h
    exact .ignored none hsilent
  rename_i duid hduid
  split at h
  · rename_i hty
    exact haddress true hon hduid (by simp [hty]) h
  · rename_i hty
    exact haddress false hon hduid (by simp [hty]) h
  · rename_i hty
    exact haddress false hon hduid (by simp [hty]) h
  · rename_i hty
    exact haddress false hon hduid (by simp [hty]) h
  · rename_i hty
    cases h
    unfold releaseCurrent
    split
    · refine .ignored _ fun sent hsent => ?_
      cases hsent
      rfl
    · rename_i lease hcur
      exact .released duid lease _ hon hduid hty hcur rfl
  · cases h
    refine .ignored _ fun sent hsent => ?_
    cases hsent
    rfl
  · cases h
    exact .ignored none hsilent

end Answered6

end GvSwitch.Gateway
