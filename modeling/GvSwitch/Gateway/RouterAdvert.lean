import Mathlib.Algebra.Group.Int.Defs
import GvSwitch.Gateway.Craft
import GvSwitch.Gateway.Dhcp6
import GvSwitch.SwitchCore.Stp

/-!
# Router advertisements

A lifetime passes through three widths: an `int` of seconds, a `time.Duration`
and a field of sixteen or thirty-two bits.  No step checks its range, and each
lifetime has a default of its own.
-/

namespace GvSwitch.Gateway

open Foundation SwitchCore

/-! ## Configuration -/

/-- What `netip.ParsePrefix` returns. -/
structure NetPrefix where
  addr : Addr
  bits : Nat
  bits_le : bits ≤ addr.bitLen
  deriving DecidableEq, Repr

structure RAPrefix where
  net : NetPrefix
  validLifetime : Int := 0
  preferredLifetime : Int := 0
  onLink : Bool := false
  autonomous : Bool := false
  deriving DecidableEq, Repr

structure SLAACConfig where
  enabled : Bool := false
  interval : Int := 0
  managed : Bool := false
  other : Bool := false
  routerLifetime : Int := 0
  prefixes : List RAPrefix := []
  deriving DecidableEq, Repr

structure RaServer where
  ipv6 : Option V6Config
  mac : MAC
  linkLocal : Ip6
  cfg : SLAACConfig := {}

inductive SLAACError where
  | badPrefix (text : String)
  | noNetwork
  | notIPv6 (net : NetPrefix)
  deriving DecidableEq, Repr

def defaultRAInterval : Int := 200 * second

def defaultRouterLifetime : Int := 1800 * second

def defaultValidLifetime : Int := 2592000 * second

def defaultPreferredLifetime : Int := 604800 * second

def orDefault (given default : Int) : Int := if given ≤ 0 then default else given

def RAPrefix.withDefaults (entry : RAPrefix) : RAPrefix :=
  { entry with
    validLifetime := orDefault entry.validLifetime defaultValidLifetime
    preferredLifetime := orDefault entry.preferredLifetime defaultPreferredLifetime }

def SLAACConfig.withDefaults (cfg : SLAACConfig) : SLAACConfig :=
  { cfg with
    interval := orDefault cfg.interval defaultRAInterval
    routerLifetime := orDefault cfg.routerLifetime defaultRouterLifetime
    prefixes := cfg.prefixes.map RAPrefix.withDefaults }

def RaServer.setConfig (server : RaServer) (cfg : SLAACConfig) : Except SLAACError RaServer :=
  if cfg.enabled then
    if server.ipv6.isNone then .error .noNetwork
    else
      match cfg.prefixes.find? fun entry => !is6Only entry.net.addr with
      | some entry => .error (.notIPv6 entry.net)
      | none => .ok { server with cfg := cfg.withDefaults }
  else .ok { server with cfg := cfg }

/-! ## Requests -/

structure RAPrefixRequest where
  text : String
  validLifetime : Int := 0
  preferredLifetime : Int := 0
  onLink : Bool := false
  autonomous : Bool := false

structure SLAACRequest where
  enabled : Bool := false
  intervalSeconds : Int := 0
  managed : Bool := false
  other : Bool := false
  routerLifetimeSeconds : Int := 0
  prefixes : List RAPrefixRequest := []

def duration (count : Int) : Int := int64 (count * second)

def RAPrefixRequest.convert (parsePrefix : String → Option NetPrefix)
    (entry : RAPrefixRequest) : Except SLAACError RAPrefix :=
  match parsePrefix entry.text with
  | none => .error (.badPrefix entry.text)
  | some net => .ok ⟨net, duration entry.validLifetime, duration entry.preferredLifetime,
      entry.onLink, entry.autonomous⟩

def RaServer.setSLAAC (server : RaServer) (parsePrefix : String → Option NetPrefix)
    (req : SLAACRequest) : Except SLAACError RaServer :=
  match req.prefixes.mapM (RAPrefixRequest.convert parsePrefix) with
  | .error reason => .error reason
  | .ok prefixes => server.setConfig {
      enabled := req.enabled
      interval := duration req.intervalSeconds
      managed := req.managed
      other := req.other
      routerLifetime := duration req.routerLifetimeSeconds
      prefixes := prefixes }

/-! ## Frames -/

/-- An unsigned conversion of `lifetime / time.Second`; the field cuts it further. -/
def wholeSeconds (lifetime : Int) : Nat := (lifetime.tdiv second % 2 ^ 64).toNat

def flagBits (bit7 bit6 : Bool) : UInt8 :=
  (if bit7 then 0x80 else 0) ||| (if bit6 then 0x40 else 0)

theorem mapped_lt (value : Ip4) : 0xffff00000000 + value.val < 2 ^ 128 := by
  omega

def addr16 : Addr → Bytes
  | .invalid => as16 0
  | .ip4 value => as16 ⟨0xffff00000000 + value.val, mapped_lt value⟩
  | .ip6 value _ => as16 value

def buildPrefixInfo (entry : RAPrefix) : Bytes :=
  [UInt8.ofNat entry.net.bits, flagBits entry.onLink entry.autonomous] ++
    (putBE32 (wholeSeconds entry.validLifetime) ++
      (putBE32 (wholeSeconds entry.preferredLifetime) ++
        (putBE32 0 ++ addr16 entry.net.addr)))

def prefixOption (entry : RAPrefix) : Bytes := [3, 4] ++ buildPrefixInfo entry

def advertBody (mac : MAC) (cfg : SLAACConfig) : Bytes :=
  [134, 0, 0, 0, 64, flagBits cfg.managed cfg.other] ++
    (putBE16 (wholeSeconds cfg.routerLifetime) ++ ([0, 0, 0, 0, 0, 0, 0, 0] ++
      ([1, 1] ++ mac.toList ++ cfg.prefixes.flatMap prefixOption)))

def icmpv6ProtocolNumber : UInt8 := 58

/-- The checksum takes the place of the two bytes after the type and the code. -/
def craftICMP6 (srcMAC dstMAC : MAC) (srcIP dstIP : Ip6) (icmpBody : Bytes)
    (hopLimit : UInt8) : Bytes :=
  let zeroed := icmpBody.take 2 ++ ([0, 0] ++ icmpBody.drop 4)
  let xsum := pseudoHeaderChecksum icmpv6ProtocolNumber srcIP dstIP icmpBody.length
  let sum := 0xffff - checksum zeroed xsum
  ethernetHeader srcMAC dstMAC ipv6ProtocolNumber ++
    (ipv6Header icmpBody.length icmpv6ProtocolNumber hopLimit srcIP dstIP ++
      (icmpBody.take 2 ++ (putBE16 sum ++ icmpBody.drop 4)))

def RaServer.send (server : RaServer) (cfg : SLAACConfig) (dstMAC : MAC) (dstIP : Ip6) :
    Bytes :=
  craftICMP6 server.mac dstMAC server.linkLocal dstIP (advertBody server.mac cfg) 255

/-! ## What a host reads -/

structure PrefixInfo where
  bits : Nat
  onLink : Bool
  autonomous : Bool
  validLifetime : Nat
  preferredLifetime : Nat
  addr : Nat
  deriving DecidableEq, Repr

structure Advert where
  managed : Bool
  other : Bool
  routerLifetime : Nat
  prefixes : List PrefixInfo
  deriving DecidableEq, Repr

def readPrefixInfo (option : Bytes) : PrefixInfo where
  bits := (byteAt option 2).toNat
  onLink := byteAt option 3 &&& 0x80 != 0
  autonomous := byteAt option 3 &&& 0x40 != 0
  validLifetime := be32 option 4
  preferredLifetime := be32 option 8
  addr := be64 option 16 * 2 ^ 64 + be64 option 24

/-- An option is never empty, so a budget of one step for each byte is enough. -/
def readOptions : Nat → Bytes → Option (List PrefixInfo)
  | 0, _ => none
  | _ + 1, [] => some []
  | fuel + 1, kind :: data =>
    let size := 8 * (byteAt data 0).toNat
    if size = 0 ∨ data.length + 1 < size then none
    else
      (readOptions fuel ((kind :: data).drop size)).map fun rest =>
        if kind = 3 ∧ size = 32 then readPrefixInfo (kind :: data) :: rest else rest

def readAdvert (frame : Bytes) : Option Advert :=
  let packet := frame.drop 14
  let body := (packet.drop 40).take (be16 packet 4)
  if byteAt packet 6 = icmpv6ProtocolNumber ∧ byteAt body 0 = 134 ∧ 16 ≤ body.length then
    (readOptions body.length (body.drop 16)).map fun prefixes =>
      { managed := byteAt body 5 &&& 0x80 != 0
        other := byteAt body 5 &&& 0x40 != 0
        routerLifetime := be16 body 6
        prefixes := prefixes }
  else none

/-! ## Round trip -/

def RAPrefix.info (entry : RAPrefix) : PrefixInfo where
  bits := entry.net.bits
  onLink := entry.onLink
  autonomous := entry.autonomous
  validLifetime := wholeSeconds entry.validLifetime % 4294967296
  preferredLifetime := wholeSeconds entry.preferredLifetime % 4294967296
  addr := entry.net.addr.value

def SLAACConfig.advert (cfg : SLAACConfig) : Advert where
  managed := cfg.managed
  other := cfg.other
  routerLifetime := wholeSeconds cfg.routerLifetime % 65536
  prefixes := cfg.prefixes.map RAPrefix.info

theorem flagBits_and (bit7 bit6 : Bool) :
    (flagBits bit7 bit6 &&& 0x80 != 0) = bit7 ∧ (flagBits bit7 bit6 &&& 0x40 != 0) = bit6 := by
  cases bit7 <;> cases bit6 <;> decide

theorem readPrefixInfo_prefixOption {entry : RAPrefix} (h : is6Only entry.net.addr = true)
    (rest : Bytes) : readPrefixInfo (prefixOption entry ++ rest) = entry.info := by
  obtain ⟨⟨addr, bits, hbits⟩, valid, preferred, onLink, autonomous⟩ := entry
  cases addr with
  | ip6 value =>
    have hvalue := value.isLt
    have hbyte : (UInt8.ofNat bits).toNat = bits := by
      exact Nat.mod_eq_of_lt (Nat.lt_of_le_of_lt hbits (show 128 < 2 ^ 8 by decide))
    have hhigh := be64_putBE64 (value.val / 2 ^ 64) (putBE64 value.val ++ rest)
    have hlow := be64_putBE64 value.val rest
    have hvalid := be32_putBE32 (wholeSeconds valid)
      (putBE32 (wholeSeconds preferred) ++ (putBE32 0 ++ as16 value) ++ rest)
    have hpreferred := be32_putBE32 (wholeSeconds preferred) (putBE32 0 ++ as16 value ++ rest)
    have haddr : value.val / 2 ^ 64 % 2 ^ 64 * 2 ^ 64 + value.val % 2 ^ 64 = value.val := by
      omega
    simp only [readPrefixInfo, RAPrefix.info, PrefixInfo.mk.injEq]
    exact ⟨hbyte, (flagBits_and _ _).1, (flagBits_and _ _).2, hvalid, hpreferred,
      (congrArg₂ (fun high low => high * 2 ^ 64 + low) hhigh hlow).trans haddr⟩
  | invalid | ip4 value => cases h

theorem readOptions_cons (fuel : Nat) {kind units : UInt8} {body : Bytes} (rest : Bytes)
    (h : body.length + 2 = 8 * units.toNat) :
    readOptions (fuel + 1) (kind :: units :: body ++ rest) =
      (readOptions fuel rest).map fun infos =>
        if kind = 3 ∧ 8 * units.toNat = 32 then
          readPrefixInfo (kind :: units :: body ++ rest) :: infos
        else infos := by
  have hdrop : (kind :: units :: body ++ rest).drop (8 * units.toNat) = rest :=
    List.drop_left' (by simpa using h)
  have hunits : byteAt (units :: body ++ rest) 0 = units := rfl
  have hlen : (units :: body ++ rest).length = body.length + rest.length + 1 := by
    simp
  rw [List.cons_append] at hdrop ⊢
  rw [readOptions, hunits, hdrop, if_neg (by omega)]

theorem length_buildPrefixInfo (entry : RAPrefix) :
    (buildPrefixInfo entry).length + 2 = 8 * (4 : UInt8).toNat := by
  unfold buildPrefixInfo
  cases entry.net.addr <;> rfl

theorem readOptions_prefixes {entries : List RAPrefix} {fuel : Nat}
    (h : ∀ entry ∈ entries, is6Only entry.net.addr = true) (hfuel : entries.length < fuel) :
    readOptions fuel (entries.flatMap prefixOption) = some (entries.map RAPrefix.info) := by
  induction entries generalizing fuel with
  | nil =>
    obtain ⟨fuel, rfl⟩ := Nat.exists_eq_add_one_of_ne_zero (Nat.ne_of_gt hfuel)
    rfl
  | cons entry rest ih =>
    obtain ⟨fuel, rfl⟩ :=
      Nat.exists_eq_add_one_of_ne_zero (Nat.ne_of_gt (Nat.zero_lt_of_lt hfuel))
    have hrest := ih (fun other hother => h other (by simp [hother])) (by simpa using hfuel)
    have hinfo := readPrefixInfo_prefixOption (h entry (by simp)) (rest.flatMap prefixOption)
    have hstep : readOptions (fuel + 1) (prefixOption entry ++ rest.flatMap prefixOption) = _ :=
      readOptions_cons fuel _ (length_buildPrefixInfo entry)
    rw [hrest] at hstep
    exact hstep.trans (congrArg some (congrArg (· :: _) hinfo))

theorem length_le_of_readOptions {fuel : Nat} {data : Bytes} {infos : List PrefixInfo}
    (h : readOptions fuel data = some infos) : 32 * infos.length ≤ data.length := by
  fun_induction readOptions fuel data generalizing infos with
  | case1 => cases h
  | case2 => cases h; simp
  | case3 => cases h
  | case4 fuel kind data size hsize =>
    rename_i ih
    obtain ⟨rest, hrest, rfl⟩ := Option.map_eq_some_iff.mp h
    have hlen := ih hrest
    split <;> simp at hlen ⊢ <;> omega

/-- The length field of the packet leaves room for so many options. -/
theorem length_le_of_readAdvert {frame : Bytes} {advert : Advert}
    (h : readAdvert frame = some advert) : advert.prefixes.length ≤ 2047 := by
  dsimp only [readAdvert] at h
  split at h
  · obtain ⟨infos, hinfos, rfl⟩ := Option.map_eq_some_iff.mp h
    have hlen := length_le_of_readOptions hinfos
    have hfield : be16 (frame.drop 14) 4 < 65536 := by
      have hhigh := (byteAt (frame.drop 14) 4).toNat_lt
      have hlow := (byteAt (frame.drop 14) (4 + 1)).toNat_lt
      unfold be16
      omega
    simp only [List.length_drop, List.length_take] at hlen
    dsimp only
    omega
  · cases h

theorem length_advertBody (mac : MAC) (cfg : SLAACConfig) :
    (advertBody mac cfg).length = 24 + 32 * cfg.prefixes.length := by
  have hoptions : (cfg.prefixes.flatMap prefixOption).length = 32 * cfg.prefixes.length := by
    induction cfg.prefixes with
    | nil => rfl
    | cons entry rest ih =>
      have hlen := length_buildPrefixInfo entry
      simp only [List.flatMap_cons, List.length_append, ih, prefixOption, List.length_cons]
      simp at hlen ⊢
      omega
  simp [advertBody, hoptions]
  omega

theorem readAdvert_send (server : RaServer) {cfg : SLAACConfig} (dstMAC : MAC) (dstIP : Ip6)
    (h : ∀ entry ∈ cfg.prefixes, is6Only entry.net.addr = true)
    (hcount : cfg.prefixes.length ≤ 2047) :
    readAdvert (server.send cfg dstMAC dstIP) = some cfg.advert := by
  have hlen := length_advertBody server.mac cfg
  dsimp only [RaServer.send, craftICMP6]
  generalize 0xffff - checksum _ _ = sum
  -- Only the checksum of the body differs from what `send` wrote.
  generalize hwire : (advertBody server.mac cfg).take 2 ++
    (putBE16 sum ++ (advertBody server.mac cfg).drop 4) = wire
  have hsame : wire.length = (advertBody server.mac cfg).length := by
    rw [← hwire]
    simp
    omega
  have hfield : be16 (ipv6Header (advertBody server.mac cfg).length icmpv6ProtocolNumber 255
      server.linkLocal dstIP ++ wire) 4 = wire.length :=
    (be16_putBE16 _ ([icmpv6ProtocolNumber, 255] ++ as16 server.linkLocal ++ as16 dstIP ++
      wire)).trans (by rw [hsame, Nat.mod_eq_of_lt (by omega)])
  have htake : ((ipv6Header (advertBody server.mac cfg).length icmpv6ProtocolNumber 255
      server.linkLocal dstIP ++ wire).drop 40).take wire.length = wire := List.take_length
  rw [readAdvert, drop_ethernetHeader, hfield, htake]
  have hoptions : readOptions wire.length (wire.drop 16) =
      some (cfg.prefixes.map RAPrefix.info) := by
    rw [hsame, hlen, show 24 + 32 * cfg.prefixes.length = 23 + 32 * cfg.prefixes.length + 1
      by omega, ← hwire]
    refine (readOptions_cons _ _ (by simp)).trans ?_
    rw [readOptions_prefixes h (by omega)]
    rfl
  have hlifetime := be16_putBE16 (wholeSeconds cfg.routerLifetime) ([0, 0, 0, 0, 0, 0, 0, 0] ++
    ([1, 1] ++ server.mac.toList ++ cfg.prefixes.flatMap prefixOption))
  rw [if_pos ⟨rfl, by rw [← hwire]; rfl, by omega⟩, hoptions, Option.map_some]
  subst hwire
  simp only [SLAACConfig.advert, Option.some.injEq, Advert.mk.injEq, and_true]
  exact ⟨(flagBits_and _ _).1, (flagBits_and _ _).2, hlifetime⟩

/-! ## Lifetimes -/

/-- `time.Duration` holds about 292 years; beyond them the product wraps.  A number
of seconds reaches its field if it is in the field's range, or by coincidence. -/
def Fits (size : Nat) (default seconds : Int) : Prop :=
  if -9223372036 ≤ seconds ∧ seconds ≤ 9223372036 then
    seconds < size ∨ seconds % size = size - 1
  else if 0 < seconds then
    0 < duration seconds ∧ duration seconds / second % size = size - 1
  else duration seconds ≤ 0 ∨ duration seconds / second % size = default

/-- The fields, by their number of values, and their defaults. -/
inductive Field : Nat → Int → Prop
  | router : Field 65536 1800
  | valid : Field 4294967296 2592000
  | preferred : Field 4294967296 604800

/-- The configured seconds, or the field's maximum where they do not fit. -/
def configured (size : Nat) (default seconds : Int) : Nat :=
  (min (orDefault seconds default) (size - 1)).toNat

theorem wholeSeconds_eq {lifetime : Int} (h : 0 < lifetime) :
    (wholeSeconds lifetime : Int) = lifetime / second % 2 ^ 64 := by
  rw [wholeSeconds, Int.toNat_of_nonneg (Int.emod_nonneg _ (by decide)),
    Int.tdiv_eq_ediv_of_nonneg (Int.le_of_lt h)]

theorem duration_spec (seconds : Int) :
    -2 ^ 63 ≤ duration seconds ∧ duration seconds < 2 ^ 63 ∧
      (-9223372036 ≤ seconds → seconds ≤ 9223372036 →
        duration seconds = seconds * 1000000000) := by
  unfold duration int64 second
  omega

theorem field_eq_iff {size : Nat} {default : Int} (hfield : Field size default)
    (seconds : Int) :
    wholeSeconds (orDefault (duration seconds) (default * second)) % size =
        configured size default seconds ↔
      Fits size default seconds := by
  have hpos : 0 < orDefault (duration seconds) (default * second) := by
    unfold orDefault second
    cases hfield <;> split <;> omega
  have heq := wholeSeconds_eq hpos
  obtain ⟨hlow, hhigh, hkept⟩ := duration_spec seconds
  unfold Fits configured
  generalize wholeSeconds _ = whole at heq ⊢
  generalize duration seconds = held at heq hlow hhigh hkept ⊢
  unfold orDefault second at *
  cases hfield with
  | router | valid | preferred => split_ifs at heq ⊢ <;> omega

/-! ## What is configured -/

def RAPrefixRequest.configured (parsePrefix : String → Option NetPrefix)
    (entry : RAPrefixRequest) : Option PrefixInfo :=
  (parsePrefix entry.text).map fun net =>
    { bits := net.bits
      onLink := entry.onLink
      autonomous := entry.autonomous
      validLifetime := Gateway.configured 4294967296 2592000 entry.validLifetime
      preferredLifetime := Gateway.configured 4294967296 604800 entry.preferredLifetime
      addr := net.addr.value }

def SLAACRequest.configured (parsePrefix : String → Option NetPrefix) (req : SLAACRequest) :
    Advert where
  managed := req.managed
  other := req.other
  routerLifetime := Gateway.configured 65536 1800 req.routerLifetimeSeconds
  prefixes := req.prefixes.filterMap (RAPrefixRequest.configured parsePrefix)

def RAPrefixRequest.Fits (entry : RAPrefixRequest) : Prop :=
  Gateway.Fits 4294967296 2592000 entry.validLifetime ∧
    Gateway.Fits 4294967296 604800 entry.preferredLifetime

/-- Every lifetime fits its field, and the options fit the packet. -/
def SLAACRequest.Fits (req : SLAACRequest) : Prop :=
  Gateway.Fits 65536 1800 req.routerLifetimeSeconds ∧
    (∀ entry ∈ req.prefixes, entry.Fits) ∧ req.prefixes.length ≤ 2047

theorem RaServer.setConfig_spec {server after : RaServer} {cfg : SLAACConfig}
    (h : server.setConfig cfg = .ok after) (hon : cfg.enabled = true) :
    (∀ entry ∈ cfg.prefixes, is6Only entry.net.addr = true) ∧ after.cfg = cfg.withDefaults := by
  rw [setConfig, if_pos hon] at h
  split at h
  · cases h
  split at h
  · cases h
  rename_i hfind
  cases h
  exact ⟨fun entry hmem => by simpa using List.find?_eq_none.mp hfind entry hmem, rfl⟩

theorem infos_eq_iff {parsePrefix : String → Option NetPrefix} {requests : List RAPrefixRequest}
    {entries : List RAPrefix}
    (h : requests.mapM (RAPrefixRequest.convert parsePrefix) = .ok entries) :
    entries.length = requests.length ∧
      (requests.filterMap (RAPrefixRequest.configured parsePrefix)).length = requests.length ∧
      (entries.map (·.withDefaults.info) =
          requests.filterMap (RAPrefixRequest.configured parsePrefix) ↔
        ∀ entry ∈ requests, entry.Fits) := by
  induction requests generalizing entries with
  | nil =>
    cases h
    simp
  | cons entry rest ih =>
    rw [List.mapM_cons] at h
    cases hparse : parsePrefix entry.text with
    | none =>
      rw [RAPrefixRequest.convert, hparse] at h
      cases h
    | some net =>
      rw [RAPrefixRequest.convert, hparse] at h
      cases hrest : rest.mapM (RAPrefixRequest.convert parsePrefix) with
      | error reason =>
        rw [hrest] at h
        cases h
      | ok others =>
        rw [hrest] at h
        cases h
        obtain ⟨hlen, hall, hiff⟩ := ih hrest
        have hvalid := field_eq_iff .valid entry.validLifetime
        have hpreferred := field_eq_iff .preferred entry.preferredLifetime
        rw [List.forall_mem_cons, ← hiff, RAPrefixRequest.Fits, ← hvalid, ← hpreferred]
        simp [RAPrefixRequest.configured, hparse, hlen, hall, RAPrefix.withDefaults, RAPrefix.info,
          defaultValidLifetime, defaultPreferredLifetime, and_assoc]

/-- An advertisement carries what is configured exactly if every lifetime fits its
field and the options fit the packet. -/
theorem advert_configured_iff {server after : RaServer}
    {parsePrefix : String → Option NetPrefix} {req : SLAACRequest}
    (hset : server.setSLAAC parsePrefix req = .ok after) (henabled : req.enabled = true)
    (dstMAC : MAC) (dstIP : Ip6) :
    (readAdvert (after.send after.cfg dstMAC dstIP) = some (req.configured parsePrefix) ↔
        req.Fits) ∧
      0 < (req.configured parsePrefix).routerLifetime := by
  constructor
  · unfold RaServer.setSLAAC at hset
    split at hset
    · cases hset
    · rename_i entries hconvert
      obtain ⟨hfamily, hcfg⟩ := RaServer.setConfig_spec hset henabled
      obtain ⟨hlen, hall, hinfos⟩ := infos_eq_iff hconvert
      have hrouter := field_eq_iff .router req.routerLifetimeSeconds
      have hsame : after.cfg.advert = req.configured parsePrefix ↔
          wholeSeconds (orDefault (duration req.routerLifetimeSeconds) (1800 * second)) % 65536 =
              configured 65536 1800 req.routerLifetimeSeconds ∧
            entries.map (·.withDefaults.info) =
              req.prefixes.filterMap (RAPrefixRequest.configured parsePrefix) := by
        rw [hcfg]
        simp [SLAACConfig.advert, SLAACConfig.withDefaults, SLAACRequest.configured,
          defaultRouterLifetime, Function.comp_def]
      have hsent (hcount : req.prefixes.length ≤ 2047) :
          readAdvert (after.send after.cfg dstMAC dstIP) = some after.cfg.advert := by
        refine readAdvert_send after dstMAC dstIP ?_ ?_
        · rw [hcfg]
          simpa [SLAACConfig.withDefaults, RAPrefix.withDefaults] using hfamily
        · rw [hcfg]
          simpa [SLAACConfig.withDefaults, hlen] using hcount
      rw [SLAACRequest.Fits, ← hinfos, ← hrouter, ← and_assoc, ← hsame]
      constructor
      · intro hread
        have hcount : req.prefixes.length ≤ 2047 := hall ▸ length_le_of_readAdvert hread
        rw [hsent hcount] at hread
        exact ⟨Option.some.inj hread, hcount⟩
      · rintro ⟨hadvert, hcount⟩
        rw [hsent hcount, hadvert]
  · unfold SLAACRequest.configured configured orDefault
    dsimp only
    split <;> omega

def gateway : RaServer where
  ipv6 := some ⟨0xfd990000000000000000000000000002, 64⟩
  mac := #v[0x52, 0x54, 0, 0, 0, 0xfe]
  linkLocal := 0xfe8000000000000050540000000000fe

def fd99 : NetPrefix := ⟨.ip6 0xfd990000000000000000000000000000, 64, by decide⟩

def allNodesMAC : MAC := #v[0x33, 0x33, 0, 0, 0, 1]

def allNodesIP6 : Ip6 := 0xff020000000000000000000000000001

def onePrefix : SLAACRequest where
  enabled := true
  other := true
  prefixes := [⟨"fd99::/64", 0, 0, true, true⟩]

theorem advert_configured_iff_onePrefix :
    ∃ after, gateway.setSLAAC (fun _ => some fd99) onePrefix = .ok after ∧
      readAdvert (after.send after.cfg allNodesMAC allNodesIP6) =
        some ⟨false, true, 1800,
          [⟨64, true, true, 2592000, 604800, 0xfd990000000000000000000000000000⟩]⟩ := by
  have hfits : onePrefix.Fits := by
    simp [SLAACRequest.Fits, onePrefix, RAPrefixRequest.Fits, Fits]
  obtain ⟨after, hset⟩ : ∃ after,
      gateway.setSLAAC (fun _ => some fd99) onePrefix = .ok after := ⟨_, rfl⟩
  exact ⟨after, hset, (advert_configured_iff hset rfl _ _).1.mpr hfits⟩

def longLived : SLAACRequest where
  enabled := true
  routerLifetimeSeconds := 65536

/-- An enabled router that is configured for 65536 seconds is withdrawn. -/
theorem long_lived_router_withdrawn :
    ∃ after, gateway.setSLAAC (fun _ => none) longLived = .ok after ∧
      readAdvert (after.send after.cfg allNodesMAC allNodesIP6) = some ⟨false, false, 0, []⟩ :=
  ⟨_, rfl, by decide⟩

/-! ## Usable prefixes -/

/-- The preferred lifetime is at most the valid one, as the fields have them; a
lifetime that is not given is the default. -/
def RAPrefix.Usable (entry : RAPrefix) : Prop :=
  let valid := entry.validLifetime / second % 4294967296
  let preferred := entry.preferredLifetime / second % 4294967296
  if 0 < entry.validLifetime then
    if 0 < entry.preferredLifetime then preferred ≤ valid else 604800 ≤ valid
  else 0 < entry.preferredLifetime → preferred ≤ 2592000

theorem usable_iff (entry : RAPrefix) :
    entry.withDefaults.info.preferredLifetime ≤ entry.withDefaults.info.validLifetime ↔
      entry.Usable := by
  have hdefault {given default : Int} (h : 0 < default) : 0 < orDefault given default := by
    unfold orDefault
    split <;> omega
  have hvalid := wholeSeconds_eq
    (hdefault (by decide) : 0 < orDefault entry.validLifetime defaultValidLifetime)
  have hpreferred := wholeSeconds_eq
    (hdefault (by decide) : 0 < orDefault entry.preferredLifetime defaultPreferredLifetime)
  dsimp only [RAPrefix.Usable, RAPrefix.info, RAPrefix.withDefaults]
  generalize wholeSeconds _ = preferred at hpreferred ⊢
  generalize wholeSeconds _ = valid at hvalid ⊢
  unfold orDefault defaultValidLifetime defaultPreferredLifetime second at *
  split_ifs at hvalid hpreferred ⊢ <;> omega

/-- Hosts take every prefix exactly if every one is usable. -/
theorem prefixes_usable_iff {server after : RaServer} {cfg : SLAACConfig}
    (hset : server.setConfig cfg = .ok after) (henabled : cfg.enabled = true) :
    (∀ option ∈ after.cfg.prefixes.map prefixOption,
        (readPrefixInfo option).preferredLifetime ≤ (readPrefixInfo option).validLifetime) ↔
      ∀ entry ∈ cfg.prefixes, entry.Usable := by
  obtain ⟨hfamily, hcfg⟩ := RaServer.setConfig_spec hset henabled
  have hread {entry : RAPrefix} (hmem : entry ∈ cfg.prefixes) :
      readPrefixInfo (prefixOption entry.withDefaults) = entry.withDefaults.info := by
    have hinfo : is6Only entry.withDefaults.net.addr = true → _ :=
      fun h => readPrefixInfo_prefixOption h []
    simpa using hinfo (hfamily entry hmem)
  rw [hcfg, SLAACConfig.withDefaults, List.map_map, List.forall_mem_map]
  refine forall₂_congr fun entry hmem => ?_
  rw [Function.comp_apply, hread hmem, usable_iff]

/-- One prefix whose valid lifetime is given, or omitted where it is 0. -/
def validFor (lifetime : Int) : SLAACConfig where
  enabled := true
  prefixes := [{ net := fd99, validLifetime := lifetime }]

theorem prefixes_usable_iff_omitted :
    ∃ after, gateway.setConfig (validFor 0) = .ok after ∧
      ∀ option ∈ after.cfg.prefixes.map prefixOption,
        (readPrefixInfo option).preferredLifetime ≤ (readPrefixInfo option).validLifetime := by
  have husable : ∀ entry ∈ (validFor 0).prefixes, entry.Usable := by
    simp [validFor, RAPrefix.Usable]
  have hset : gateway.setConfig (validFor 0) =
      .ok { gateway with cfg := (validFor 0).withDefaults } := rfl
  exact ⟨_, hset, (prefixes_usable_iff hset rfl).mpr husable⟩

/-- A prefix that is valid for a minute is preferred for a week. -/
theorem short_prefix_unusable :
    ∃ after, gateway.setConfig (validFor (60 * second)) = .ok after ∧
      ∃ option ∈ after.cfg.prefixes.map prefixOption,
        (readPrefixInfo option).validLifetime = 60 ∧
          (readPrefixInfo option).preferredLifetime = 604800 :=
  ⟨_, rfl, _, .head _, by decide, by decide⟩

end GvSwitch.Gateway
