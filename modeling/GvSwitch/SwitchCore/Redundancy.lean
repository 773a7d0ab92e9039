import GvSwitch.SwitchCore.Freshness
import GvSwitch.SwitchCore.Hearing

/-!
# A redundant link

A blocked port hears the hello of its neighbour again and again, and nothing
else about the bridge changes.  The stored information survives until the next
hello if the ticks between two hellos add up to less than the maximum age, and
the election gives the port the same role again if no other port offers the
vector it offers.
-/

namespace GvSwitch.SwitchCore

open Foundation Switch GoMap

theorem int64_le {value : Int} (h : -9223372036854775808 ≤ value) : int64 value ≤ value := by
  unfold int64
  omega

theorem le_int64 (value : Int) : -9223372036854775808 ≤ int64 value := by
  unfold int64
  omega

theorem tickInterval_pos (cfg : StpConfig) : 0 < tickInterval cfg := by
  unfold tickInterval
  split
  · decide
  · omega

variable {id : String} {after sw : Switch} {env : Env} {src : Ptr}

namespace Switch

/-! ## The same election again -/

variable {first second : Switch} {record' : StpPort} {frame : Bytes}

theorem SamePort.symm {record : StpPort} (h : SamePort first second record record') :
    SamePort second first record' record :=
  ⟨⟨h.info.1.symm, h.info.2.1.symm, h.info.2.2.symm⟩, h.cost.symm, h.portID.symm⟩

theorem SamePort.trans {third : Switch} {record record'' : StpPort}
    (h : SamePort first second record record') (h' : SamePort second third record' record'') :
    SamePort first third record record'' :=
  ⟨⟨h'.info.1.trans h.info.1, h'.info.2.1.trans h.info.2.1, h'.info.2.2.trans h.info.2.2⟩,
    h'.cost.trans h.cost, h'.portID.trans h.portID⟩

theorem SameOffers.symm (h : SameOffers first second) : SameOffers second first := by
  refine ⟨h.bridgeID.symm, ?_, ?_⟩
  · intro id hnone
    have hsome := h.isSome id
    rw [hnone] at hsome
    exact Option.isNone_iff_eq_none.mp (Option.isSome_eq_false_iff.mp hsome.symm)
  · intro id record hr
    obtain ⟨origin, horigin, hp⟩ := h.origin hr
    exact ⟨origin, horigin, hp.symm⟩

theorem SameOffers.trans {third : Switch} (h : SameOffers first second)
    (h' : SameOffers second third) : SameOffers first third := by
  refine ⟨h'.bridgeID.trans h.bridgeID, fun id hnone => h'.absent id (h.absent id hnone), ?_⟩
  intro id record hr
  obtain ⟨middle, hmiddle, hp⟩ := h.present id record hr
  obtain ⟨last, hlast, hp'⟩ := h'.present id middle hmiddle
  exact ⟨last, hlast, hp.trans hp'⟩

theorem elects_spec (env : Env) (sw : Switch) :
    (elects env sw).1.rank ≤ sw.ownClaim.rank ∧
      (∀ id vector, sw.Offers id vector → (elects env sw).1.rank ≤ vector.rank) ∧
      (elects env sw = (sw.ownClaim, none) ∨ ∃ id vector, sw.Offers id vector ∧
        elects env sw = (vector, some id)) :=
  sw.selectRoot_spec (env.range_perm _)

theorem SameOffers.offers (h : SameOffers first second) {vector : PriorityVector}
    (hoffers : first.Offers id vector) : second.Offers id vector := by
  obtain ⟨record, hr, hcand⟩ := hoffers
  obtain ⟨record', hr', hp⟩ := h.present id record hr
  exact ⟨record', hr', (h.candidate hp).trans hcand⟩

/-- The vector elected depends on the offers only, not on the order of the visit. -/
theorem SameOffers.elects_rank_le (h : SameOffers first second) (env env' : Env) :
    (elects env first).1.rank ≤ (elects env' second).1.rank := by
  obtain ⟨hown, hleast, -⟩ := elects_spec env first
  obtain ⟨-, -, horigin⟩ := elects_spec env' second
  rcases horigin with hs | ⟨id, vector, hoffers, hs⟩
  · have hclaim : second.ownClaim = first.ownClaim := by
      simp only [ownClaim, h.bridgeID]
    rw [hs, hclaim]
    exact hown
  · rw [hs]
    exact hleast id vector (h.symm.offers hoffers)

theorem SameOffers.elects_fst (h : SameOffers first second) (env env' : Env) :
    (elects env first).1 = (elects env' second).1 :=
  PriorityVector.rank_injective
    (le_antisymm (h.elects_rank_le env env') (h.symm.elects_rank_le env' env))

/-- No other port offers the vector this port offers. -/
def Untied (sw : Switch) (id : String) : Prop :=
  ∀ other vector, other ≠ id → sw.Offers id vector → ¬ sw.Offers other vector

theorem untied_iff (sw : Switch) (id : String) : sw.Untied id ↔
    ∀ record ∈ sw.stp.ports.get? id, ∀ port ∈ sw.stp.ports.entries, port.1 ≠ id →
      sw.candidate record = none ∨
        sw.candidate port.2 ≠ sw.candidate record := by
  constructor
  · intro h record hr port hp ho
    cases hcand : sw.candidate record with
    | none => exact .inl rfl
    | some vector =>
      refine .inr fun htie => h port.1 vector ho ⟨record, hr, hcand⟩ ?_
      exact ⟨port.2, (get?_eq_some_iff _ _ _).mpr hp, htie⟩
  · rintro h other vector ho ⟨record, hr, hcand⟩ ⟨found, hf, htie⟩
    have hp := (get?_eq_some_iff _ _ _).mp hf
    rcases h record hr (other, found) hp ho with hnone | hdiffers
    · simp [hcand] at hnone
    · exact hdiffers (htie.trans hcand.symm)

instance (sw : Switch) (id : String) : Decidable (sw.Untied id) :=
  decidable_of_iff _ (untied_iff sw id).symm

/-- A port that loses an election without a tie loses every repetition. -/
theorem SameOffers.electedRole (h : SameOffers first second) {env' : Env} {record : StpPort}
    (hp : SamePort first second record record') (huntied : first.Untied id)
    (hblocked : electedRole env first id record = .blocked) :
    electedRole env' second id record' = .blocked := by
  have hvector := h.elects_fst env env'
  have hdes : (second.setRoot (elects env' second)).designatedLocked record' =
      (first.setRoot (elects env first)).designatedLocked record := by
    have hadvertised : (second.setRoot (elects env' second)).advertised record' =
        (first.setRoot (elects env first)).advertised record := by
      have hbridgeID : (second.setRoot (elects env' second)).stp.bridgeID =
          (first.setRoot (elects env first)).stp.bridgeID := h.bridgeID
      have hportID : (second.setRoot (elects env' second)).stpPortID record' =
          (first.setRoot (elects env first)).stpPortID record := hp.portID
      unfold advertised
      rw [hbridgeID, hportID]
      simp only [setRoot, hvector]
    unfold designatedLocked
    rw [hadvertised, hp.info.2.1, hp.info.2.2]
  unfold Switch.electedRole computeRole at hblocked ⊢
  rw [hdes]
  split at hblocked
  · cases hblocked
  rename_i hlost
  rw [if_neg]
  · exact hblocked
  · -- Elected now, the port would have tied with the port elected then.
    intro hwon
    rcases (elects_spec env' second).2.2 with hs | ⟨winner, vector, hoffers, hs⟩
    · simp [hs] at hwon
    rw [hs] at hwon hvector
    cases hwon
    have hoffered := h.symm.offers hoffers
    rcases (elects_spec env first).2.2 with hown | ⟨other, vector', hoffers', ho⟩
    · rw [hown] at hvector
      exact ne_ownClaim_of_offers hoffered hvector.symm
    rw [ho] at hvector hlost
    cases hvector
    exact huntied other vector (fun heq => hlost (by rw [heq])) hoffered hoffers'

/-! ## Hellos -/

structure Hello (frame : Bytes) : Prop where
  parses : (parseFrame frame).isSome = true
  bpdu : isBPDU (macAt frame 0) frame = true
  long : 35 ≤ (bpduBody frame).length
  config : byteAt (bpduBody frame) 3 = 0
  age : be16 (bpduBody frame) 27 = 0

structure Listens (sw : Switch) (src : Ptr) : Prop where
  gone : (sw.entry src).gone = false
  disabled : (sw.entry src).attrs.disabled = false
  bpduGuard : (sw.entry src).attrs.bpduGuard = false
  stp : (sw.entry src).attrs.stp = true

theorem macAt_of_isBPDU (h : isBPDU (macAt frame 0) frame = true) :
    macAt frame 0 = bpduDstMAC := by
  unfold isBPDU at h
  split at h
  · cases h
  · rename_i hdst
    exact not_not.mp hdst

theorem deliver_hello (hhello : Hello frame) (hlistens : sw.Listens src) (env : Env) :
    deliver env sw src frame =
      handleBPDU env (sw.countRx src frame.length) src frame := by
  have hdst := macAt_of_isBPDU hhello.bpdu
  obtain ⟨view, hparse⟩ := Option.isSome_iff_exists.mp hhello.parses
  have hview : view.dstMAC = bpduDstMAC := by
    rw [← hdst, FrameView.dstMAC, parseFrame_data hparse]
  have hin : sw.ingress src frame = .reserved := by
    unfold ingress
    rw [hparse]
    simp only [hlistens.gone, hlistens.disabled, hview]
    rfl
  have hattrs := (counted_countRx sw src frame.length).attrs src
  unfold deliver
  rw [hin]
  unfold consumeReserved
  simp only [hattrs, hlistens.bpduGuard, hlistens.stp, hhello.bpdu, Bool.false_and,
    Bool.and_self, if_true, Bool.false_eq_true, if_false]

/-- A hello is stored unless the port holds better information of another
sender. -/
theorem handleBPDU_hello {record : StpPort} (hhello : Hello frame)
    (henabled : sw.stp.cfg.enabled = true)
    (hr : sw.stp.ports.get? (sw.entry src).id = some record) (env : Env) :
    AllAgree (recomputeLocked env (sw.setStpPort (sw.entry src).id
        (heardRecord record (configVector (bpduBody frame)) 0)))
        (handleBPDU env sw src frame).1 ∨
      record.info ≠ configVector (bpduBody frame) ∧
        AllAgree sw (handleBPDU env sw src frame).1 := by
  have hage : wireAge frame = 0 := by
    unfold wireAge
    rw [hhello.age]
    rfl
  have hheard : sw.hears (sw.entry src).id record frame =
      sw.setStpPort (sw.entry src).id
        (heardRecord record (configVector (bpduBody frame)) 0) := by
    rw [hears, hage]
  rw [handleBPDU_of_config env henabled hr hhello.config hhello.long, handleConfig,
    storeInfo_eq]
  split
  · rw [hheard]
    exact .inl (allAgree_acknowledge _ _ _)
  rename_i hstale
  refine .inr ⟨?_, allAgree_acknowledge _ _ _⟩
  intro hs
  apply hstale
  rw [← hs, StpPort.accepts]
  cases record.hasInfo <;> simp

/-! ## Undisturbed runs -/

/-- Nothing about the bridge changes but what port `id` has stored: neither the
configuration, nor the ports in the table, nor what the others have stored. -/
structure Undisturbed (id : String) (before after : Switch) : Prop where
  cfg : after.stp.cfg = before.stp.cfg
  mac : after.stp.mac = before.stp.mac
  absent : ∀ other, before.stp.ports.get? other = none → after.stp.ports.get? other = none
  present : ∀ other record, before.stp.ports.get? other = some record →
    ∃ record', after.stp.ports.get? other = some record' ∧ record'.entry = record.entry ∧
      after.stpPortCost record' = before.stpPortCost record ∧
      after.stpPortID record' = before.stpPortID record ∧
      (other ≠ id → record'.hasInfo = record.hasInfo ∧ record'.info = record.info)

theorem undisturbed_iff (id : String) (before after : Switch) :
    Undisturbed id before after ↔ after.stp.cfg = before.stp.cfg ∧
      after.stp.mac = before.stp.mac ∧
      (∀ other ∈ after.stp.ports.keys, (before.stp.ports.get? other).isSome = true) ∧
      ∀ port ∈ before.stp.ports.entries, ∃ record' ∈ after.stp.ports.get? port.1,
        record'.entry = port.2.entry ∧
        after.stpPortCost record' = before.stpPortCost port.2 ∧
        after.stpPortID record' = before.stpPortID port.2 ∧
        (port.1 ≠ id → record'.hasInfo = port.2.hasInfo ∧ record'.info = port.2.info) := by
  constructor
  · intro h
    refine ⟨h.cfg, h.mac, fun other ho => ?_, ?_⟩
    · obtain ⟨record', hr'⟩ := (mem_keys_iff _ _).mp ho
      cases hr : before.stp.ports.get? other with
      | none =>
        simp [h.absent other hr] at hr'
      | some record => rfl
    · rintro ⟨other, record⟩ hp
      exact h.present other record ((get?_eq_some_iff _ _ _).mpr hp)
  · rintro ⟨hcfg, hmac, habsent, hpres⟩
    refine ⟨hcfg, hmac, fun other hnone => ?_, fun other record hr => ?_⟩
    · cases hr' : after.stp.ports.get? other with
      | none => rfl
      | some record' =>
        have hsome := habsent other ((mem_keys_iff _ _).mpr ⟨record', hr'⟩)
        simp [hnone] at hsome
    · exact hpres (other, record) ((get?_eq_some_iff _ _ _).mp hr)

instance (id : String) (before after : Switch) : Decidable (Undisturbed id before after) :=
  decidable_of_iff _ (undisturbed_iff id before after).symm

section Undisturbed

variable {id : String} {before after : Switch} (h : Undisturbed id before after)

include h

theorem Undisturbed.sameOffers {record record' : StpPort}
    (hr : before.stp.ports.get? id = some record)
    (hr' : after.stp.ports.get? id = some record') (hh : record'.hasInfo = record.hasInfo)
    (hi : record'.info = record.info) : SameOffers before after := by
  refine ⟨by simp only [StpBridge.bridgeID, h.cfg, h.mac], h.absent, ?_⟩
  intro other found hf
  obtain ⟨found', hf', he, hcost, hportID, hothers⟩ := h.present other found hf
  refine ⟨found', hf', ?_, hcost, hportID⟩
  by_cases hself : other = id
  · subst hself
    rw [hr] at hf
    rw [hr'] at hf'
    cases hf
    cases hf'
    exact ⟨he, hh, hi⟩
  · exact ⟨he, hothers hself⟩

theorem Undisturbed.table (other : String) : (after.stp.ports.get? other).map (·.entry) =
    (before.stp.ports.get? other).map (·.entry) := by
  cases hr : before.stp.ports.get? other with
  | none => rw [h.absent other hr]
  | some record =>
    obtain ⟨record', hr', he, -⟩ := h.present other record hr
    rw [hr', Option.map_some, Option.map_some, he]

end Undisturbed

/-! ## Held in blocking -/

def InBlocking (id : String) (sw : Switch) : Prop :=
  ∃ record, sw.stp.ports.get? id = some record ∧ record.role = .blocked ∧
    (sw.entry record.entry).stpState = .blocking

theorem InBlocking.allAgree {before : Switch} (h : InBlocking id before)
    (hn : Named before) (hagree : AllAgree before after) : InBlocking id after := by
  obtain ⟨record, hr, hrole, hst⟩ := h
  refine ⟨record, (hagree id).record.trans hr, hrole, ?_⟩
  rw [(hagree id).state _ (hn.record id record hr)]
  exact hst

structure Lost (id : String) (start : Switch) (record : StpPort) : Prop where
  enabled : start.stp.cfg.enabled = true
  enrolled : start.stp.ports.get? id = some record
  hasInfo : record.hasInfo = true
  untied : start.Untied id
  blocked : ∃ env, electedRole env start id record = .blocked

theorem Lost.again {start middle : Switch} {lost : StpPort} (h : Lost id start lost)
    (hn : Named middle) (hon : middle.stp.cfg.enabled = true) (env : Env)
    (hagree : AllAgree (recomputeLocked env middle) after)
    (hoffers : SameOffers start after) : InBlocking id after := by
  obtain ⟨env₀, hblocked⟩ := h.blocked
  have hcomputed := sameOffers_recomputeLocked hn env hon
  have hoffers' : SameOffers start middle :=
    (hoffers.trans hagree.sameElection.toSameOffers.symm).trans hcomputed.symm
  obtain ⟨origin, horigin, hp⟩ := hoffers'.present id lost h.enrolled
  have hrole : electedRole env middle id origin = .blocked :=
    hoffers'.electedRole hp h.untied hblocked
  obtain ⟨hf, hst⟩ := recompute_record hn env hon horigin
  rw [hrole] at hf hst
  exact InBlocking.allAgree ⟨_, hf, rfl, hst⟩ (recompute_frame hn env hon).2 hagree

/-! ## Every event -/

def KeepsInfo (id : String) (before after : Switch) : Prop :=
  ∀ record ∈ before.stp.ports.get? id, ∀ record' ∈ after.stp.ports.get? id,
    record'.hasInfo = record.hasInfo ∧ record'.info = record.info ∧
      record'.infoAge = record.infoAge

instance (id : String) (before after : Switch) : Decidable (KeepsInfo id before after) :=
  inferInstanceAs (Decidable (∀ record ∈ before.stp.ports.get? id,
    ∀ record' ∈ after.stp.ports.get? id, record'.hasInfo = record.hasInfo ∧
      record'.info = record.info ∧ record'.infoAge = record.infoAge))

/-- The port is in blocking since an election it lost, and what it has stored is
no older than the time since the last hello. -/
structure Held (id : String) (start : Switch) (lost : StpPort) (since : Int)
    (sw : Switch) : Prop where
  offers : SameOffers start sw
  cfg : sw.stp.cfg = start.stp.cfg
  rounds : tickInterval start.stp.cfg ∣ since
  blocking : InBlocking id sw
  age : ∀ record, sw.stp.ports.get? id = some record →
    -9223372036854775808 ≤ record.infoAge ∧ record.infoAge ≤ since

theorem tickLocked_info (hn : Named sw) (henabled : sw.stp.cfg.enabled = true)
    (env : Env) (dt : Int) {record : StpPort}
    (hr : (resyncPortsLocked env sw).stp.ports.get? id = some record) :
    ∃ record', (tickLocked env sw dt).1.stp.ports.get? id = some record' ∧
      record'.hasInfo = (agedRecord sw.stp.cfg dt record).hasInfo := by
  obtain ⟨hfr, hsync⟩ := touches_resync hn env
  have haged := aged_frame hsync env dt
  have hout := retains_ageOut hsync env dt
  have hon : (aged env (resyncPortsLocked env sw) dt).1.stp.cfg.enabled = true := by
    rw [haged.1.cfg, hfr.cfg]
    exact henabled
  obtain ⟨middle, hmiddle, hi⟩ : ∃ middle,
      (ageOut env (resyncPortsLocked env sw) dt).stp.ports.get? id = some middle ∧
        middle.hasInfo = (agedRecord sw.stp.cfg dt record).hasInfo := by
    have hf := (aged_record hsync env dt hr).1
    rw [hfr.cfg] at hf
    dsimp only [ageOut]
    split
    · exact ⟨_, (recompute_record haged.2 env hon hf).1, rfl⟩
    · exact ⟨_, hf, rfl⟩
  obtain ⟨record', hr', hprog⟩ := climb_record (hout.named hsync) env dt hmiddle
  obtain ⟨timer, rfl⟩ := hprog.record_eq
  rw [(tickLocked_climb env sw dt).1]
  exact ⟨_, hr', hi⟩

section Tick

variable {id : String} {sw : Switch} (hn : Named sw) {env : Env} {dt : Int}
  (h : Undisturbed id sw (tickLocked env sw dt).1)

include hn h

theorem Undisturbed.resync {other : String} {record : StpPort}
    (hr : sw.stp.ports.get? other = some record) :
    Agree other sw (resyncPortsLocked env sw) := by
  cases hwithdraws : sw.withdraws other record with
  | true =>
    have htable := ((retains_tickLocked hn env dt).table other).symm.trans (h.table other)
    simp [get?_resync_of_withdraws hn env hr hwithdraws, hr] at htable
  | false => exact agree_resync_of_kept hn env hr hwithdraws

theorem Undisturbed.aged_snd (henabled : sw.stp.cfg.enabled = true)
    (hown : ∀ record, sw.stp.ports.get? id = some record →
      expires sw.stp.cfg dt record = false) :
    (aged env (resyncPortsLocked env sw) dt).2 = false := by
  obtain ⟨hfr, hsync⟩ := touches_resync hn env
  rw [← Bool.not_eq_true, Switch.aged_snd hsync env dt, hfr.cfg]
  rintro ⟨other, record, hf, hexp⟩
  have hr : sw.stp.ports.get? other = some record := by
    have htable := ((retains_tickLocked hn env dt).table other).symm.trans (h.table other)
    rw [hf] at htable
    obtain ⟨origin, horigin, -⟩ := Option.map_eq_some_iff.mp htable.symm
    rw [(h.resync hn horigin).record, horigin] at hf
    cases hf
    exact horigin
  by_cases hself : other = id
  · subst hself
    simp [hown record hr] at hexp
  obtain ⟨record', hr', haged⟩ := tickLocked_info hn henabled env dt hf
  obtain ⟨found, hf', -, -, -, hothers⟩ := h.present other record hr
  rw [hr'] at hf'
  cases hf'
  have hi := (hothers hself).1
  rw [expires, Bool.and_eq_true, decide_eq_true_eq] at hexp
  rw [hi, agedRecord, if_pos hexp.1, hexp.1] at haged
  exact absurd (of_decide_eq_true haged.symm) (Int.not_lt.mpr hexp.2)

end Tick

/-- The ticks between two hellos add up to less than the maximum age. -/
def Lasts (cfg : StpConfig) : Prop :=
  cfg.helloTime / tickInterval cfg * tickInterval cfg < cfg.maxAge

instance (cfg : StpConfig) : Decidable (Lasts cfg) :=
  inferInstanceAs (Decidable (_ < _))

theorem Lasts.lt {cfg : StpConfig} (h : Lasts cfg) {since : Int}
    (hrounds : tickInterval cfg ∣ since) (hle : since ≤ cfg.helloTime) :
    since < cfg.maxAge := by
  obtain ⟨count, rfl⟩ := hrounds
  have hpos := tickInterval_pos cfg
  have hcount : count ≤ cfg.helloTime / tickInterval cfg := by
    rw [Int.le_ediv_iff_mul_le hpos, mul_comm]
    exact hle
  refine lt_of_le_of_lt ?_ h
  rw [mul_comm]
  exact Int.mul_le_mul_of_nonneg_right hcount hpos.le

section Steps

variable {id : String} {start sw : Switch} {lost : StpPort} {since : Int}
  (hlost : Lost id start lost) (h : Held id start lost since sw)

include hlost h

theorem Held.record : ∃ record, sw.stp.ports.get? id = some record ∧
    record.hasInfo = true ∧ record.info = lost.info ∧ record.role = .blocked ∧
      (sw.entry record.entry).stpState = .blocking := by
  obtain ⟨record, hr, hrole, hst⟩ := h.blocking
  obtain ⟨origin, horigin, hp⟩ := h.offers.origin hr
  rw [hlost.enrolled] at horigin
  cases horigin
  exact ⟨record, hr, hp.info.2.1.trans hlost.hasInfo, hp.info.2.2, hrole, hst⟩

theorem Held.enabled : sw.stp.cfg.enabled = true := by
  rw [h.cfg]
  exact hlost.enabled

theorem Held.next {since' : Int} (hq : Undisturbed id sw after) {record' : StpPort}
    (hr' : after.stp.ports.get? id = some record') (hh : record'.hasInfo = true)
    (hi : record'.info = lost.info) (hrounds : tickInterval start.stp.cfg ∣ since')
    (hage : -9223372036854775808 ≤ record'.infoAge ∧ record'.infoAge ≤ since')
    (hblocking : SameOffers start after → InBlocking id after) :
    Held id start lost since' after := by
  obtain ⟨record, hr, hheld₀, hinfo₀, -, -⟩ := h.record hlost
  have hoffers := h.offers.trans (hq.sameOffers hr hr'
    (hh.trans hheld₀.symm) (hi.trans hinfo₀.symm))
  refine ⟨hoffers, hq.cfg.trans h.cfg, hrounds, hblocking hoffers, ?_⟩
  intro found hf
  rw [hr'] at hf
  cases hf
  exact hage

theorem Held.inBlocking_effect (htab : Tabled sw) {event : Event}
    (heff : BridgeEffect env sw event after)
    (htick : ∀ dt, event ≠ .op (.stpTick dt)) (hcfg : after.stp.cfg = sw.stp.cfg)
    (hoffers : SameOffers start after) : InBlocking id after := by
  have hon := h.enabled hlost
  obtain ⟨record, hr, -, -, hrole, hst⟩ := h.record hlost
  rcases heff.cases with hrests | ⟨cfg, rfl, rfl⟩ | ⟨rfl, rfl⟩ | ⟨dt, rfl, -⟩ |
    ⟨counted, src, frame, -, hcnt, rfl⟩
  · refine ⟨record, by rw [hrests.stp, hr], hrole, ?_⟩
    rw [hrests.state _ (htab.allocated id record hr), hst]
  · have henabled : cfg.enabled = true := by
      have hkept := congrArg StpConfig.enabled hcfg
      cases hoff : cfg.enabled with
      | true => rfl
      | false =>
        rw [setSTPConfig_of_disabled env sw hoff, hon] at hkept
        exact hoff.symm.trans hkept
    obtain ⟨hfr, hn⟩ := touches_resync (htab.toNamed.configured cfg) env
    rw [setSTPConfig_of_enabled env sw henabled] at hoffers ⊢
    refine hlost.again hn.ownRoot ?_ env (fun other => .refl other _) hoffers
    dsimp only [ownRoot]
    rw [hfr.cfg]
    exact henabled
  · obtain ⟨hfr, hn⟩ := touches_resync htab.toNamed.popped env
    rw [runDeferred_eq, if_pos hon] at hoffers ⊢
    exact hlost.again hn (by rw [hfr.cfg]; exact hon) env (fun other => .refl other _)
      hoffers
  · exact absurd rfl (htick dt)
  · have hheard := hcnt.retains.named htab.toNamed
    have hon' : counted.stp.cfg.enabled = true := by
      rw [hcnt.stp]
      exact hon
    rcases handleBPDU_cases env counted src frame with hagree |
      ⟨found, info, age, -, hf, hstored⟩
    · refine InBlocking.allAgree ⟨record, by rw [hcnt.stp, hr], hrole, ?_⟩ hheard hagree
      rw [hcnt.state, hst]
    have htouch : Touches (counted.entry src).id counted
        (counted.setStpPort (counted.entry src).id (heardRecord found info age)) :=
      touches_setStpPort hheard (hheard.record _ found hf)
    exact hlost.again htouch.named hon' env hstored hoffers

theorem Held.stpTick (htab : Tabled sw) (hlasts : Lasts start.stp.cfg) (env : Env)
    (hsince : since + tickInterval start.stp.cfg ≤ start.stp.cfg.helloTime)
    (hq : Undisturbed id sw (stpTick env sw (tickInterval start.stp.cfg)).1) :
    Held id start lost (since + tickInterval start.stp.cfg)
      (stpTick env sw (tickInterval start.stp.cfg)).1 := by
  have hn := htab.toNamed
  have hon := h.enabled hlost
  obtain ⟨record, hr, hh, hi, hrole, hst⟩ := h.record hlost
  obtain ⟨hlow, hage⟩ := h.age record hr
  set dt := tickInterval start.stp.cfg
  have htick : Switch.stpTick env sw dt = tickLocked env sw dt := by
    unfold Switch.stpTick
    rw [if_pos hon]
  rw [htick] at hq ⊢
  have hyoung : int64 (record.infoAge + dt) ≤ since + dt :=
    (int64_le (by have := tickInterval_pos start.stp.cfg; omega)).trans (by omega)
  have hrounds : dt ∣ since + dt := (Int.dvd_add_right h.rounds).mpr dvd_rfl
  have hfresh : int64 (record.infoAge + dt) < sw.stp.cfg.maxAge := by
    rw [h.cfg]
    exact lt_of_le_of_lt hyoung (hlasts.lt hrounds hsince)
  have hnone : (aged env (resyncPortsLocked env sw) dt).2 = false := by
    refine hq.aged_snd hn hon fun found hf => ?_
    rw [hr] at hf
    cases hf
    rw [expires, decide_eq_false (Int.not_le.mpr hfresh), Bool.and_false]
  have hagree := hq.resync hn hr
  obtain ⟨hfr, hsync⟩ := touches_resync hn env
  obtain ⟨haged, hagedState⟩ := aged_record hsync env dt (hagree.record.trans hr)
  have hout : ageOut env (resyncPortsLocked env sw) dt =
      (aged env (resyncPortsLocked env sw) dt).1 := by
    dsimp only [ageOut]
    exact if_neg (Bool.eq_false_iff.mp hnone)
  obtain ⟨record', hr', hprog⟩ := climb_record (aged_frame hsync env dt).2 env dt haged
  have haging : agedRecord (resyncPortsLocked env sw).stp.cfg dt record =
      { record with infoAge := int64 (record.infoAge + dt) } := by
    rw [agedRecord, if_pos hh, hfr.cfg, decide_eq_true hfresh, ← hh]
  rw [haging] at hprog
  obtain ⟨rfl, hclimb⟩ := hprog.of_blocked hrole
  obtain ⟨hports, -, he⟩ := tickLocked_climb env sw dt
  rw [← hout, ← hports] at hr'
  refine h.next hlost hq hr' hh hi hrounds ⟨le_int64 _, hyoung⟩ fun _ =>
    ⟨_, hr', hrole, ?_⟩
  rw [he, hout]
  refine hclimb.trans (hagedState.trans ?_)
  rw [hagree.state _ (hn.record id record hr)]
  exact hst

theorem Held.hello (htab : Tabled sw) {frame : Bytes} (hhello : Hello frame)
    (hvector : lost.info = configVector (bpduBody frame))
    (hsrc : (sw.entry src).id = id) (hlistens : sw.Listens src) (env : Env)
    (hq : Undisturbed id sw (deliver env sw src frame).1) :
    Held id start lost 0 (deliver env sw src frame).1 := by
  have hcnt := (counted_countRx sw src frame.length).spares
  have hn := hcnt.retains.named htab.toNamed
  obtain ⟨record, hr, hh, hi, -, -⟩ := h.record hlost
  have hon : (sw.countRx src frame.length).stp.cfg.enabled = true := by
    rw [hcnt.stp]
    exact h.enabled hlost
  have hid : ((sw.countRx src frame.length).entry src).id = id := by
    rw [hcnt.name, hsrc]
  have hr' : (sw.countRx src frame.length).stp.ports.get?
      ((sw.countRx src frame.length).entry src).id = some record := by
    rw [hid, hcnt.stp, hr]
  rw [deliver_hello hhello hlistens env] at hq ⊢
  rcases handleBPDU_hello hhello hon hr' env with hstored | ⟨ho, -⟩
  · rw [hid] at hr' hstored
    have htouch : Touches id (sw.countRx src frame.length)
        ((sw.countRx src frame.length).setStpPort id
          (heardRecord record (configVector (bpduBody frame)) 0)) :=
      touches_setStpPort hn (hn.record id record hr')
    have hf := (recompute_record htouch.named env hon (get?_set_self _ _ _)).1
    refine h.next hlost hq ((hstored id).record.trans hf) rfl hvector.symm (dvd_zero _)
      ⟨show (-9223372036854775808 : Int) ≤ 0 by decide, le_rfl⟩ fun hoffers => ?_
    exact hlost.again htouch.named hon env hstored hoffers
  · exact absurd (hi.trans hvector) ho

end Steps

end Switch

/-! ## Whole runs -/

namespace World

def Receives (world : World) (id : String) (frame : Bytes) (event : Event) : Prop :=
  ∃ src, world.arrival event = some (src, frame) ∧ (world.sw.entry src).id = id ∧
    world.sw.Listens src

/-- A run in which port `id` receives the same hello over and over.  The counter
is the tick time since the last one. -/
inductive HelloStep (id : String) (frame : Bytes) :
    World × Int → Env × Event → World × Int → Prop
  | tick {world : World} {since dt : Int} {env : Env} :
      dt = Switch.tickInterval world.sw.stp.cfg →
      since + dt ≤ world.sw.stp.cfg.helloTime →
      Switch.Undisturbed id world.sw (world.step env (.op (.stpTick dt))).1.sw →
      HelloStep id frame (world, since) (env, .op (.stpTick dt))
        ((world.step env (.op (.stpTick dt))).1, since + dt)
  | hello {world : World} {since : Int} {env : Env} {event : Event} :
      world.Receives id frame event →
      Switch.Undisturbed id world.sw (world.step env event).1.sw →
      HelloStep id frame (world, since) (env, event) ((world.step env event).1, 0)
  | other {world : World} {since : Int} {env : Env} {event : Event} :
      (∀ dt, event ≠ .op (.stpTick dt)) →
      Switch.Undisturbed id world.sw (world.step env event).1.sw →
      Switch.KeepsInfo id world.sw (world.step env event).1.sw →
      HelloStep id frame (world, since) (env, event) ((world.step env event).1, since)

/-- Port `id` has just received a hello; it is blocked, and it is this hello that
it has stored. -/
structure Redundant (id : String) (frame : Bytes) (env : Env) (event : Event)
    (world : World) : Prop where
  reached : world.Reached
  enabled : world.sw.stp.cfg.enabled = true
  hello : Switch.Hello frame
  receives : world.Receives id frame event
  blocked : ∃ record ∈ (world.step env event).1.sw.stp.ports.get? id,
    record.role = .blocked ∧ record.hasInfo = true ∧
      record.info = Switch.configVector (Switch.bpduBody frame)

def StaysBlocked (id : String) (frame : Bytes) (world : World) : Prop :=
  ∀ state, Reachable (· = (world, 0)) (HelloStep id frame) state →
    ∃ record ∈ state.1.sw.stp.ports.get? id,
      (state.1.sw.entry record.entry).stpState = .blocking

/-- The hello that blocks a port is stored and loses an election. -/
theorem Redundant.held {world : World} {event : Event} {frame : Bytes}
    (h : world.Redundant id frame env event)
    (huntied : (world.step env event).1.sw.Untied id) :
    ∃ start lost, Lost id start lost ∧
      lost.info = configVector (bpduBody frame) ∧
      start.stp.cfg = (world.step env event).1.sw.stp.cfg ∧
      Held id start lost 0 (world.step env event).1.sw := by
  obtain ⟨src, harrival, hsrc, hlistens⟩ := h.receives
  obtain ⟨blocked, hblocked, hrole, -, hi⟩ := h.blocked
  have hhello := h.hello
  have hstep := step_of_arrival harrival env
  rw [deliver_hello hhello hlistens env] at hstep
  rw [hstep] at hblocked huntied ⊢
  have hcnt := (counted_countRx world.sw src frame.length).spares
  have hn := hcnt.retains.named h.reached.tabled.toNamed
  set counted := world.sw.countRx src frame.length
  have hon : counted.stp.cfg.enabled = true := by
    rw [hcnt.stp]
    exact h.enabled
  have hid : (counted.entry src).id = id := by rw [hcnt.name, hsrc]
  have htable := (retains_handleBPDU hn env src frame).table id
  rw [hblocked] at htable
  obtain ⟨record, hr, -⟩ := Option.map_eq_some_iff.mp htable.symm
  rcases handleBPDU_hello hhello hon (hid ▸ hr) env with hstored | ⟨ho, hagree⟩
  · rw [hid] at hstored
    set start := counted.setStpPort id
      (heardRecord record (configVector (bpduBody frame)) 0)
    have htouch : Touches id counted start := touches_setStpPort hn (hn.record id record hr)
    have hoffers := (sameOffers_recomputeLocked htouch.named env hon).trans
      hstored.sameElection.toSameOffers
    obtain ⟨hf, hst⟩ := recompute_record htouch.named env hon (get?_set_self _ _ _)
    have ha := (hstored id).record.trans hf
    rw [hblocked] at ha
    cases ha
    refine ⟨start, _, ⟨hon, get?_set_self _ _ _, rfl, ?_, env, hrole⟩, rfl, ?_, ?_⟩
    · intro other vector ho hself hoffered
      exact huntied other vector ho (hoffers.offers hself) (hoffers.offers hoffered)
    · rw [(hstored id).cfg]
      exact (recompute_frame htouch.named env hon).1.cfg.symm
    refine ⟨hoffers, ?_, dvd_zero _, ?_, ?_⟩
    · rw [(hstored id).cfg]
      exact (recompute_frame htouch.named env hon).1.cfg
    · refine ⟨_, hblocked, hrole, ?_⟩
      rw [(hstored id).state]
      · exact hst.trans ((settledState_eq_blocking_iff _ _).mpr hrole)
      · exact (recompute_frame htouch.named env hon).2.record id _ hf
    · intro found hf'
      rw [hblocked] at hf'
      cases hf'
      exact ⟨show (-9223372036854775808 : Int) ≤ 0 by decide, le_rfl⟩
  · rw [(hagree id).record, hr] at hblocked
    cases hblocked
    exact absurd hi ho

/-- A port that a hello has blocked stays in blocking while it keeps receiving
that hello and nothing else about the bridge changes, if the ticks between two
hellos add up to less than the maximum age and no other port offers its vector. -/
theorem redundant_port_stays_blocked {world : World} {env : Env} {event : Event}
    {id : String} {frame : Bytes} (h : Redundant id frame env event world)
    (hlasts : Switch.Lasts (world.step env event).1.sw.stp.cfg)
    (huntied : (world.step env event).1.sw.Untied id) :
    (world.step env event).1.StaysBlocked id frame := by
  obtain ⟨start, lost, hlost, hvector, hcfg, hh⟩ := h.held huntied
  intro state hrun
  rw [← hcfg] at hlasts
  have hinvariant : state.1.Reached ∧ Held id start lost state.2 state.1.sw := by
    refine Reachable.induct (motive := fun state : World × Int => state.1.Reached ∧
      Held id start lost state.2 state.1.sw) ?_ ?_ hrun
    · rintro _ rfl
      exact ⟨.next h.reached (show World.Step world (env, event) _ from rfl), hh⟩
    · rintro ⟨world, since⟩ ⟨env, event⟩ _ - ⟨hreach, hh⟩ hstep
      have hnext : World.Reached (world.step env event).1 :=
        .next hreach (show World.Step world (env, event) _ from rfl)
      cases hstep with
      | tick hdt hsince hq =>
        rw [hh.cfg] at hdt hsince
        subst hdt
        exact ⟨hnext, hh.stpTick hlost hreach.tabled hlasts env hsince hq⟩
      | hello hreceives hq =>
        obtain ⟨src, harrival, hsrc, hlistens⟩ := hreceives
        rw [step_of_arrival harrival env] at hq
        have hdel := hh.hello hlost hreach.tabled h.hello hvector hsrc hlistens env hq
        rw [← step_of_arrival harrival env] at hdel
        exact ⟨hnext, hdel⟩
      | other htick hq hkeeps =>
        obtain ⟨record, hr, hheard, hi, -, -⟩ := hh.record hlost
        obtain ⟨record', hr', -⟩ := hq.present id record hr
        obtain ⟨hs, hsameInfo, hage⟩ := hkeeps record hr record' hr'
        refine ⟨hnext, hh.next hlost hq hr' (hs.trans hheard)
          (hsameInfo.trans hi) hh.rounds ?_ fun hoffers =>
            hh.inBlocking_effect hlost hreach.tabled (world.bridgeEffect env event)
              htick hq.cfg hoffers⟩
        rw [hage]
        exact hh.age record hr
  obtain ⟨record, hr, -, hst⟩ := hinvariant.2.blocking
  exact ⟨record, hr, hst⟩

/-! ## A link that stays blocked and links that open -/

/-- Ports `a` and `b` are enrolled, and `a` has heard the root. -/
def twoLinks (cfg : StpConfig) : World :=
  (start 7).run (steadyEnv 1) [
    .op (.addPort ⟨"a", 1⟩ { stp := true }), .op (.addPort ⟨"b", 2⟩ { stp := true }),
    .op .runDeferred, .op .runDeferred, .op (.setSTPConfig cfg),
    .op (.deliver "a" (rootHello 1))]

def reverseEnv (now : Int) : Env :=
  ⟨now, fun _ _ => true, List.reverse, fun keys => List.reverse_perm keys⟩

def steadyTimers : StpConfig := { defaultStpConfig with enabled := true }

def heardOnB (number : UInt8) : Event := .op (.deliver "b" (rootHello number))

def steadyLinks : World := ((twoLinks steadyTimers).step (steadyEnv 1) (heardOnB 2)).1

theorem redundant_port_stays_blocked_steady :
    Redundant "b" (rootHello 2) (steadyEnv 1) (heardOnB 2) (twoLinks steadyTimers) ∧
      (steadyLinks.StaysBlocked "b" (rootHello 2) ∧
        Reachable (· = (steadyLinks, 0)) (HelloStep "b" (rootHello 2))
          ((steadyLinks.step (steadyEnv 2) (.op (.stpTick second))).1, second)) := by
  have hredundant : Redundant "b" (rootHello 2) (steadyEnv 1) (heardOnB 2)
      (twoLinks steadyTimers) := by
    refine ⟨(reached_start 7).run _ _, by decide, ?_, ⟨1, rfl, by decide, ?_⟩, by decide⟩
    · exact ⟨by decide, by decide, by decide, by decide, by decide⟩
    · exact ⟨by decide, by decide, by decide, by decide⟩
  refine ⟨hredundant, redundant_port_stays_blocked hredundant (by decide) (by decide), ?_⟩
  exact .next (.start rfl) (.tick (by decide) (by decide) (by decide))

def shortAge : StpConfig :=
  { steadyTimers with helloTime := 4 * second, maxAge := 3 * second }

def shortLinks : World := ((twoLinks shortAge).step (steadyEnv 1) (heardOnB 2)).1

def heardOnA : Event := .op (.deliver "a" (rootHello 1))

/-- Both ports hear the root from the same port of their neighbour. -/
def tiedLinks : World := ((twoLinks steadyTimers).step (reverseEnv 1) (heardOnB 1)).1

/-- Information that does not last until the next hello opens the port, and so
does an election that ends in a tie. -/
theorem redundant_port_opens :
    (∃ world env event, Redundant "b" (rootHello 2) env event world ∧
      (world.step env event).1.sw.Untied "b" ∧
      ¬ (world.step env event).1.StaysBlocked "b" (rootHello 2)) ∧
    ∃ world env event, Redundant "b" (rootHello 1) env event world ∧
      Switch.Lasts (world.step env event).1.sw.stp.cfg ∧
      ¬ (world.step env event).1.StaysBlocked "b" (rootHello 1) := by
  constructor
  · refine ⟨twoLinks shortAge, steadyEnv 1, heardOnB 2, ?_, by decide, fun h => ?_⟩
    · refine ⟨(reached_start 7).run _ _, by decide, ?_, ⟨1, rfl, by decide, ?_⟩, by decide⟩
      · exact ⟨by decide, by decide, by decide, by decide, by decide⟩
      · exact ⟨by decide, by decide, by decide, by decide⟩
    · have hticked : Reachable (· = (shortLinks, 0)) (HelloStep "b" (rootHello 2))
          (shortLinks.run (steadyEnv 2) [.op (.stpTick (2 * second))], 2 * second) :=
        .next (.start rfl) (.tick (by decide) (by decide) (by decide))
      have hheard : Reachable (· = (shortLinks, 0)) (HelloStep "b" (rootHello 2))
          (shortLinks.run (steadyEnv 2) [.op (.stpTick (2 * second)), heardOnA],
            2 * second) :=
        .next hticked (.other (fun _ h => nomatch h) (by decide) (by decide))
      have hopened : Reachable (· = (shortLinks, 0)) (HelloStep "b" (rootHello 2))
          (shortLinks.run (steadyEnv 2) [.op (.stpTick (2 * second)), heardOnA,
            .op (.stpTick (2 * second))], 4 * second) :=
        .next hheard (.tick (by decide) (by decide) (by decide))
      exact absurd (h _ hopened) (by decide)
  · refine ⟨twoLinks steadyTimers, reverseEnv 1, heardOnB 1, ?_, by decide, fun h => ?_⟩
    · refine ⟨(reached_start 7).run _ _, by decide, ?_, ⟨1, rfl, by decide, ?_⟩, by decide⟩
      · exact ⟨by decide, by decide, by decide, by decide, by decide⟩
      · exact ⟨by decide, by decide, by decide, by decide⟩
    · have hopened : Reachable (· = (tiedLinks, 0)) (HelloStep "b" (rootHello 1))
          ((tiedLinks.step (steadyEnv 2) (heardOnB 1)).1, 0) := by
        refine .next (.start rfl) (.hello ⟨1, rfl, by decide, ?_⟩ (by decide))
        exact ⟨by decide, by decide, by decide, by decide⟩
      exact absurd (h _ hopened) (by decide)

end World

end GvSwitch.SwitchCore
