import GvSwitch.Foundation.Outcome
import GvSwitch.SwitchCore.Announcements
import GvSwitch.SwitchCore.InfoAge

/-!
# Encoding and decoding of BPDUs

What `buildConfig` and `buildTCN` write is classified as a BPDU, and
`handleBPDU` reads back what was written.  The reads are modelled with their
bounds checks: slicing or indexing beyond the frame would panic.  A message age
is carried in 16 bits and wraps.
-/

namespace GvSwitch.SwitchCore

open Foundation

/-! ## Reading with bounds checks -/

inductive Bpdu where
  | ignored
  | tcn
  | config (flags : UInt8) (info : PriorityVector) (age : Int)
  deriving DecidableEq, Repr

def sliced (data : Bytes) (low high : Nat) : Outcome Empty Bytes :=
  if low ≤ high ∧ high ≤ data.length then .ok ((data.take high).drop low) else .panic

def indexed (data : Bytes) (offset : Nat) : Outcome Empty UInt8 :=
  if offset < data.length then .ok (byteAt data offset) else .panic

/-- The reads of `handleBPDU`; the message age is read only if the port stores
the vector. -/
def readBPDU (frame : Bytes) : Outcome Empty Bpdu := do
  let body ← sliced frame (ethHeaderLen + 3) frame.length
  if body.length < 4 then return .ignored
  else
    let kind ← indexed body 3
    if kind = 0x80 then return .tcn
    else if kind ≠ 0x00 ∨ body.length < 35 then return .ignored
    else
      let rootID ← sliced body 5 13
      let cost ← sliced body 13 17
      let bridgeID ← sliced body 17 25
      let port ← sliced body 25 27
      let flags ← indexed body 4
      let age ← sliced body 27 29
      return .config flags ⟨UInt64.ofNat (be64 rootID 0), UInt32.ofNat (be32 cost 0),
        UInt64.ofNat (be64 bridgeID 0), UInt16.ofNat (be16 port 0)⟩
        (Int.ofNat (be16 age 0) * second / 256)

theorem sliced_of_le {data : Bytes} {low high : Nat} (hlow : low ≤ high)
    (hhigh : high ≤ data.length) :
    sliced data low high = .ok ((data.take high).drop low) := if_pos ⟨hlow, hhigh⟩

theorem indexed_of_lt {data : Bytes} {offset : Nat} (h : offset < data.length) :
    indexed data offset = .ok (byteAt data offset) := if_pos h

section Fields

variable (data : Bytes) {low high offset : Nat}

theorem byteAt_sliced (h : low + offset < high) :
    byteAt ((data.take high).drop low) offset = byteAt data (low + offset) := by
  rw [byteAt_drop, byteAt_take data h]

theorem be16_sliced (h : low + offset + 2 ≤ high) :
    be16 ((data.take high).drop low) offset = be16 data (low + offset) := by
  rw [be16, be16, byteAt_sliced data (by omega), byteAt_sliced data (by omega),
    Nat.add_assoc]

theorem be32_sliced (h : low + offset + 4 ≤ high) :
    be32 ((data.take high).drop low) offset = be32 data (low + offset) := by
  rw [be32, be32, be16_sliced data (by omega), be16_sliced data (by omega), Nat.add_assoc]

theorem be64_sliced (h : low + offset + 8 ≤ high) :
    be64 ((data.take high).drop low) offset = be64 data (low + offset) := by
  rw [be64, be64, be32_sliced data (by omega), be32_sliced data (by omega), Nat.add_assoc]

end Fields

namespace Switch

theorem readBPDU_eq {frame : Bytes} (h : ethHeaderLen + 3 ≤ frame.length) :
    readBPDU frame = .ok (
      if (bpduBody frame).length < 4 then .ignored
      else if byteAt (bpduBody frame) 3 = 0x80 then .tcn
      else if byteAt (bpduBody frame) 3 ≠ 0x00 ∨ (bpduBody frame).length < 35 then .ignored
      else .config (byteAt (bpduBody frame) 4) (configVector (bpduBody frame))
        (wireAge frame)) := by
  have hbody : sliced frame (ethHeaderLen + 3) frame.length = .ok (bpduBody frame) := by
    rw [sliced_of_le h le_rfl, List.take_length]
    rfl
  unfold readBPDU wireAge
  rw [hbody]
  generalize bpduBody frame = body
  simp only [Outcome.bind_ok, Outcome.pure_eq_ok]
  split
  · rfl
  rename_i hfour
  rw [indexed_of_lt (by omega)]
  simp only [Outcome.bind_ok]
  split
  · rfl
  split
  · rfl
  rename_i hlong
  rw [sliced_of_le (by omega) (by omega), sliced_of_le (by omega) (by omega),
    sliced_of_le (by omega) (by omega), sliced_of_le (by omega) (by omega),
    indexed_of_lt (by omega), sliced_of_le (by omega) (by omega)]
  simp only [Outcome.bind_ok, configVector]
  rw [be64_sliced body (by omega), be32_sliced body (by omega),
    be64_sliced body (by omega), be16_sliced body (by omega),
    be16_sliced body (by omega)]

/-! ## Acting on what was read -/

def heed (env : Env) (sw : Switch) (src : Ptr) (bpdu : Bpdu) : Switch × List SendCall :=
  let id := (sw.entry src).id
  if !sw.stp.cfg.enabled then (sw, [])
  else
    match sw.stp.ports.get? id with
    | none => (sw, [])
    | some record =>
      match bpdu with
      | .ignored => (sw, [])
      | .tcn =>
        if record.role = .designated then
          let signalled := sw.signalTopologyChangeLocked
          (signalled, [signalled.stpSend record (signalled.buildConfig record 0x80)])
        else (sw, [])
      | .config flags info age =>
        let stored :=
          if record.accepts info then
            recomputeLocked env (sw.setStpPort id (heardRecord record info age))
          else sw
        ((stored.fastAge flags).acknowledge id flags, [])

theorem handleBPDU_eq_heed {frame : Bytes} {bpdu : Bpdu}
    (hlen : ethHeaderLen + 3 ≤ frame.length) (h : readBPDU frame = .ok bpdu) (env : Env)
    (sw : Switch) (src : Ptr) : handleBPDU env sw src frame = sw.heed env src bpdu := by
  rw [readBPDU_eq hlen] at h
  cases h
  unfold handleBPDU heed
  rw [show frame.drop (ethHeaderLen + 3) = bpduBody frame from rfl]
  dsimp only
  split
  · rfl
  cases sw.stp.ports.get? (sw.entry src).id with
  | none => rfl
  | some record =>
    dsimp only
    split
    · rfl
    split
    · rfl
    split
    · rfl
    · rfl

/-! ## Frames that were built -/

structure Classified (frame : Bytes) : Prop where
  untagged : parseFrame frame = some ⟨frame, false, 0⟩
  reserved : isReservedGroupMAC (macAt frame 0) = true
  bpdu : isBPDU (macAt frame 0) frame = true

variable (sw : Switch) (record : StpPort) (flags : UInt8) (bridge : StpBridge)

theorem classified_of_header {payloadLen : Nat} (hpay : payloadLen ≤ 1497)
    (rest : Bytes) : Classified (frameHeader bridge payloadLen ++ rest) := by
  have hmac : macAt (frameHeader bridge payloadLen ++ rest) 0 = bpduDstMAC := rfl
  have hlen : 17 ≤ (frameHeader bridge payloadLen ++ rest).length := by
    rw [List.length_append, length_frameHeader]
    omega
  have hbehind : (frameHeader bridge payloadLen ++ rest).drop 12 =
      putBE16 (3 + payloadLen) ++ ([0x42, 0x42, 0x03] ++ rest) := by
    have hfront : (bpduDstMAC.toList ++ (0x02 : UInt8) :: bridge.mac.toList.drop 1).length =
        12 := by simp
    have hsplit : frameHeader bridge payloadLen ++ rest =
        (bpduDstMAC.toList ++ (0x02 : UInt8) :: bridge.mac.toList.drop 1) ++
          (putBE16 (3 + payloadLen) ++ ([0x42, 0x42, 0x03] ++ rest)) := by
      simp [frameHeader]
    rw [hsplit, ← hfront, List.drop_left]
  have hty : be16 (frameHeader bridge payloadLen ++ rest) 12 = 3 + payloadLen := by
    have hfield := be16_drop (frameHeader bridge payloadLen ++ rest) 12 0
    rw [hbehind, be16_putBE16, Nat.mod_eq_of_lt (by omega)] at hfield
    exact hfield.symm
  have hllc (offset : Nat) : byteAt (frameHeader bridge payloadLen ++ rest) (12 + offset) =
      byteAt (putBE16 (3 + payloadLen) ++ ([0x42, 0x42, 0x03] ++ rest)) offset := by
    rw [← hbehind, byteAt_drop]
  refine ⟨?_, ?_, ?_⟩
  · unfold parseFrame
    rw [if_neg (by simp only [ethHeaderLen]; omega), hty,
      if_neg (by simp only [etherTypeVLAN]; omega)]
  · rw [hmac]
    decide
  unfold isBPDU
  rw [hmac, if_neg (by decide), if_neg (by simp only [ethHeaderLen]; omega), hty,
    if_neg (by omega), hllc 2, hllc 3, hllc 4]
  rfl

theorem classified_buildConfig : Classified (sw.buildConfig record flags) := by
  unfold buildConfig pad60
  simp only [List.append_assoc]
  exact classified_of_header sw.stp (by decide) _

theorem classified_buildTCN : Classified (buildTCN bridge) := by
  unfold buildTCN pad60
  simp only [List.append_assoc]
  exact classified_of_header bridge (by decide) _

/-- The message age a receiver computes from what `buildConfig` writes. -/
def decodedAge (bridge : StpBridge) : Int :=
  Int.ofNat (bpduTime (messageAge bridge)) * second / 256

theorem bpduTime_lt (duration : Int) : bpduTime duration < 65536 := by
  unfold bpduTime
  omega

theorem fields_buildConfig :
    configVector (bpduBody (sw.buildConfig record flags)) = sw.advertised record ∧
      wireAge (sw.buildConfig record flags) = decodedAge sw.stp := by
  have hbody : ∃ rest, bpduBody (sw.buildConfig record flags) = 0 :: 0 :: 0 :: 0 :: flags ::
      (putBE64 sw.stp.rootID.toNat ++ (putBE32 sw.stp.rootCost.toNat ++
        (putBE64 sw.stp.bridgeID.toNat ++ (putBE16 (sw.stpPortID record).toNat ++
          (putBE16 (bpduTime (messageAge sw.stp)) ++ rest))))) := by
    have hhdr := length_frameHeader sw.stp 35
    unfold bpduBody buildConfig pad60
    simp only [List.append_assoc]
    rw [show ethHeaderLen + 3 = (frameHeader sw.stp 35).length from hhdr.symm,
      List.drop_left]
    exact ⟨_, rfl⟩
  obtain ⟨rest, hbody⟩ := hbody
  unfold configVector wireAge
  generalize bpduBody (sw.buildConfig record flags) = body at hbody
  have hrootID : be64 body 5 = sw.stp.rootID.toNat := by
    rw [← be64_drop body 5 0, hbody]
    exact (be64_putBE64 _ _).trans (Nat.mod_eq_of_lt (UInt64.toNat_lt _))
  have hcost : be32 body 13 = sw.stp.rootCost.toNat := by
    rw [← be32_drop body 13 0, hbody]
    exact (be32_putBE32 _ _).trans (Nat.mod_eq_of_lt (UInt32.toNat_lt _))
  have hbridgeID : be64 body 17 = sw.stp.bridgeID.toNat := by
    rw [← be64_drop body 17 0, hbody]
    exact (be64_putBE64 _ _).trans (Nat.mod_eq_of_lt (UInt64.toNat_lt _))
  have hp : be16 body 25 = (sw.stpPortID record).toNat := by
    rw [← be16_drop body 25 0, hbody]
    exact (be16_putBE16 _ _).trans (Nat.mod_eq_of_lt (UInt16.toNat_lt _))
  have hage : be16 body 27 = bpduTime (messageAge sw.stp) := by
    rw [← be16_drop body 27 0, hbody]
    exact (be16_putBE16 _ _).trans (Nat.mod_eq_of_lt (bpduTime_lt _))
  rw [hrootID, hcost, hbridgeID, hp, hage, UInt64.ofNat_toNat, UInt32.ofNat_toNat,
    UInt64.ofNat_toNat, UInt16.ofNat_toNat]
  exact ⟨rfl, rfl⟩

theorem length_bpduBody (frame : Bytes) : (bpduBody frame).length = frame.length - 17 :=
  List.length_drop

theorem readBPDU_buildConfig :
    readBPDU (sw.buildConfig record flags) =
      .ok (.config flags (sw.advertised record) (decodedAge sw.stp)) := by
  have hlen := length_buildConfig sw record flags
  have hk : byteAt (bpduBody (sw.buildConfig record flags)) 3 = 0 := by
    rw [bpduBody, byteAt_drop]
    exact byteAt_buildConfig sw record flags
  obtain ⟨hvector, hage⟩ := fields_buildConfig sw record flags
  rw [readBPDU_eq (by rw [hlen]; decide), length_bpduBody, hlen, hk, hvector, hage,
    byteAt_bpduBody_buildConfig]
  rfl

theorem readBPDU_buildTCN : readBPDU (buildTCN bridge) = .ok .tcn := by
  have hlen : (buildTCN bridge).length = 60 := by
    simp [buildTCN, pad60, frameHeader, putBE16]
  rw [readBPDU_eq (by rw [hlen]; decide), length_bpduBody, hlen, byteAt_bpduBody_buildTCN]
  rfl

theorem length_of_isBPDU {dst : MAC} {frame : Bytes} (h : isBPDU dst frame = true) :
    ethHeaderLen + 3 ≤ frame.length := by
  unfold isBPDU at h
  split at h
  · cases h
  split at h
  · cases h
  · rename_i hlen
    exact Nat.le_of_not_lt hlen

/-- A frame `buildConfig` produces has the minimum length, is classified as an
untagged BPDU, and gives a receiver the sender's fields; a frame of `buildTCN` is
a notification; and no frame that `isBPDU` accepts makes `handleBPDU` read beyond
its end. -/
theorem bpdu_codec_agrees (sender : Switch) (record : StpPort) (flags : UInt8) :
    (60 ≤ (sender.buildConfig record flags).length ∧
      Classified (sender.buildConfig record flags) ∧
      ∃ age, readBPDU (sender.buildConfig record flags) =
        .ok (.config flags ⟨sender.stp.rootID, sender.stp.rootCost, sender.stp.bridgeID,
          sender.stpPortID record⟩ age)) ∧
    (Classified (buildTCN sender.stp) ∧ readBPDU (buildTCN sender.stp) = .ok .tcn) ∧
    ∀ frame, isBPDU (macAt frame 0) frame = true →
      ∃ bpdu, readBPDU frame = .ok bpdu ∧ ∀ env receiver src,
        handleBPDU env receiver src frame = receiver.heed env src bpdu := by
  refine ⟨⟨?_, classified_buildConfig sender record flags, _,
    readBPDU_buildConfig sender record flags⟩, ⟨classified_buildTCN sender.stp,
      readBPDU_buildTCN sender.stp⟩, ?_⟩
  · rw [length_buildConfig]
  · intro frame hbpdu
    have hlen := length_of_isBPDU hbpdu
    exact ⟨_, readBPDU_eq hlen, fun env receiver src =>
      handleBPDU_eq_heed hlen (readBPDU_eq hlen) env receiver src⟩

/-! ## The message age along a relay -/

theorem int64_of_range {value : Int} (hlow : -9223372036854775808 ≤ value)
    (hhigh : value < 9223372036854775808) : int64 value = value := by
  unfold int64
  omega

structure Relaying (sw : Switch) (record : StpPort) : Prop where
  rootPort : sw.stp.rootPort ≠ ""
  held : sw.stp.ports.get? sw.stp.rootPort = some record
  young : record.infoAge < sw.stp.cfg.maxAge

variable {record : StpPort}

theorem Relaying.messageAge {sw : Switch} (h : sw.Relaying record) :
    messageAge sw.stp = int64 (record.infoAge + second) := by
  unfold Switch.messageAge
  rw [if_pos h.rootPort, h.held]

theorem bpduTime_of_lt (age : Int) (hlow : 0 ≤ age) (hhigh : age < 36028797018963968) :
    (bpduTime age : Int) = age * 256 / 1000000000 % 65536 := by
  unfold bpduTime
  rw [int64_of_range (by omega) (by omega), Int.tdiv_eq_ediv_of_nonneg (by omega)]
  have hsnd : second = 1000000000 := rfl
  rw [hsnd]
  omega

theorem Relaying.decodedAge {sw : Switch} (h : sw.Relaying record)
    (hlow : 0 ≤ record.infoAge) (hhigh : record.infoAge < 256 * second) :
    decodedAge sw.stp =
      (record.infoAge + 1000000000) * 256 / 1000000000 % 65536 * 1000000000 / 256 := by
  have hsnd : second = 1000000000 := rfl
  unfold Switch.decodedAge
  rw [h.messageAge, hsnd, int64_of_range (by omega) (by omega)]
  have htime := bpduTime_of_lt (record.infoAge + 1000000000) (by omega) (by omega)
  rw [← htime]
  rfl

theorem Relaying.hop {sw : Switch} (h : sw.Relaying record)
    (hlow : 0 ≤ record.infoAge) (hhigh : record.infoAge < 255 * second) :
    record.infoAge + 996000000 ≤ Switch.decodedAge sw.stp := by
  have hsnd : second = 1000000000 := rfl
  rw [h.decodedAge hlow (by rw [hsnd]; omega)]
  omega

theorem decodedAge_bounds : 0 ≤ decodedAge bridge ∧ decodedAge bridge ≤ 255996093750 := by
  have htime := bpduTime_lt (messageAge bridge)
  have hsnd : second = 1000000000 := rfl
  unfold decodedAge
  rw [hsnd]
  have hcast : Int.ofNat (bpduTime (messageAge bridge)) =
      (bpduTime (messageAge bridge) : Int) := rfl
  omega

theorem Relaying.lt_decodedAge_iff {sw : Switch} (h : sw.Relaying record) :
    record.infoAge < Switch.decodedAge sw.stp ↔ record.infoAge < 255 * second := by
  have hsnd : second = 1000000000 := rfl
  have hbounds := decodedAge_bounds sw.stp
  constructor
  · intro hgrows
    by_contra hold
    have hdecoded := h.decodedAge (by omega) (by rw [hsnd]; omega)
    omega
  · intro hfits
    rcases lt_or_ge record.infoAge 0 with hnegative | hlow
    · omega
    · have hhop := h.hop hlow hfits
      omega

/-- A way of information through bridges that are not the root.  Each holds what
the bridge before it sent, as old as it was received or older. -/
structure RelayChain (limit : Int) (hops : Nat) where
  bridges : Nat → Switch
  records : Nat → StpPort
  relays : ∀ hop ≤ hops, (bridges hop).Relaying (records hop)
  maxAge_le : ∀ hop ≤ hops, (bridges hop).stp.cfg.maxAge ≤ limit
  heard : ∀ hop < hops, decodedAge (bridges hop).stp ≤ (records (hop + 1)).infoAge
  start : 0 ≤ (records 0).infoAge

theorem RelayChain.young {hops : Nat} (chain : RelayChain (255 * second) hops) {hop : Nat}
    (hhop : hop ≤ hops) : (chain.records hop).infoAge < 255 * second :=
  lt_of_lt_of_le (chain.relays hop hhop).young (chain.maxAge_le hop hhop)

theorem RelayChain.age {hops : Nat} (chain : RelayChain (255 * second) hops) {hop : Nat}
    (hhop : hop ≤ hops) : (hop : Int) * 996000000 ≤ (chain.records hop).infoAge := by
  induction hop with
  | zero =>
    have hstart := chain.start
    omega
  | succ hop ih =>
    have hb := ih (by omega)
    have hgrown := (chain.relays hop (by omega)).hop (by omega) (chain.young (by omega))
    have hheard := chain.heard hop (by omega)
    omega

/-- The age a receiver decodes exceeds the age the sender holds, exactly if the
latter is below 255 seconds.  Where no bridge admits more than that, information
is relayed 256 times at most. -/
theorem message_age_grows_iff {sw : Switch} {record : StpPort}
    (h : sw.Relaying record) (port : StpPort) (flags : UInt8) :
    (∃ age, readBPDU (sw.buildConfig port flags) =
        .ok (.config flags (sw.advertised port) age) ∧
      (record.infoAge < age ↔ record.infoAge < 255 * second)) ∧
    ∀ hops, RelayChain (255 * second) hops → hops ≤ 256 := by
  refine ⟨⟨_, readBPDU_buildConfig sw port flags, h.lt_decodedAge_iff⟩, ?_⟩
  intro hops chain
  have hage := chain.age le_rfl
  have hyoung : (chain.records hops).infoAge < 255 * 1000000000 := chain.young le_rfl
  omega

end Switch

/-! ## A relay that counts up and one that starts anew -/

namespace World

/-- Ports `a` and `b` are enrolled, and `a` hears of the root with a message age. -/
def relaying (maxAge : Int) (high low : UInt8) : World :=
  (start 7).run (steadyEnv 1) [
    .op (.addPort ⟨"a", 1⟩ { stp := true }), .op (.addPort ⟨"b", 2⟩ { stp := true }),
    .op (.setSTPConfig { defaultStpConfig with enabled := true, maxAge := maxAge }),
    .op (.deliver "a" (agedHello high low))]

def heldRecord (world : World) : StpPort :=
  (world.sw.stp.ports.get? "a").getD { entry := 0, role := .blocked }

theorem message_age_grows_iff_relaying :
    (relaying (20 * second) 1 0).heldRecord.infoAge = second ∧
      ∃ age, readBPDU ((relaying (20 * second) 1 0).sw.buildConfig
          { entry := 1, role := .designated } 0) =
            .ok (.config 0 ((relaying (20 * second) 1 0).sw.advertised
              { entry := 1, role := .designated }) age) ∧ second < age ∧
        ∃ chain : Switch.RelayChain (255 * second) 1,
          chain.bridges 0 = (relaying (20 * second) 1 0).sw ∧
            (chain.records 1).infoAge = 2 * second := by
  have hrelays : (relaying (20 * second) 1 0).sw.Relaying
      (relaying (20 * second) 1 0).heldRecord := ⟨by decide, by decide, by decide⟩
  have hnext : (relaying (20 * second) 2 0).sw.Relaying
      (relaying (20 * second) 2 0).heldRecord := ⟨by decide, by decide, by decide⟩
  let chain : Switch.RelayChain (255 * second) 1 :=
    { bridges := fun hop => (relaying (20 * second) (if hop = 0 then 1 else 2) 0).sw
      records := fun hop => (relaying (20 * second) (if hop = 0 then 1 else 2) 0).heldRecord
      relays := fun hop hhop => by
        rcases Nat.le_one_iff_eq_zero_or_eq_one.mp hhop with rfl | rfl
        · exact hrelays
        · exact hnext
      maxAge_le := by decide
      heard := by decide
      start := by decide }
  obtain ⟨⟨age, hread, hgrows⟩, -⟩ := Switch.message_age_grows_iff hrelays
    { entry := 1, role := .designated } 0
  have hage : (relaying (20 * second) 1 0).heldRecord.infoAge = second := by decide
  rw [hage] at hgrows
  have hlater : (relaying (20 * second) 2 0).heldRecord.infoAge = 2 * second := by decide
  exact ⟨hage, age, hread, hgrows.mpr (by decide), chain, rfl, hlater⟩

/-- With a maximum age of 300 seconds a bridge relays information that is 255
seconds old, and the age it sends is zero. -/
theorem message_age_wraps :
    (relaying (300 * second) 0xff 0).Reached ∧
      (relaying (300 * second) 0xff 0).sw.Relaying
        (relaying (300 * second) 0xff 0).heldRecord ∧
      (relaying (300 * second) 0xff 0).heldRecord.infoAge = 255 * second ∧
      Switch.wireAge ((relaying (300 * second) 0xff 0).sw.buildConfig
        { entry := 1, role := .designated } 0) = 0 := by
  refine ⟨(reached_start 7).run _ _, ⟨by decide, by decide, by decide⟩, by decide, ?_⟩
  rw [(Switch.fields_buildConfig _ _ _).2]
  decide

end World

end GvSwitch.SwitchCore
