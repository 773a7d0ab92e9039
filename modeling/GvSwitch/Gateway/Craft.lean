import GvSwitch.Foundation.NetAddr
import GvSwitch.Foundation.OnesComplement
import GvSwitch.SwitchCore.Vlan

/-!
# Crafted frames

The layer-2 services answer before the netstack, with frames of their own.  A
UDP checksum of zero means that there is none, which IPv6 does not allow.
-/

namespace GvSwitch.Gateway

open Foundation SwitchCore

/-! ## Headers -/

def as16 (address : Ip6) : Bytes :=
  putBE64 (address.val / 2 ^ 64) ++ putBE64 address.val

@[simp] theorem length_as16 (address : Ip6) : (as16 address).length = 16 := rfl

def ethernetHeader (srcMAC dstMAC : MAC) (etherType : Nat) : Bytes :=
  dstMAC.toList ++ srcMAC.toList ++ putBE16 etherType

def ipv6Header (payloadLength : Nat) (protocol hopLimit : UInt8) (srcIP dstIP : Ip6) : Bytes :=
  [0x60, 0, 0, 0] ++ putBE16 payloadLength ++ [protocol, hopLimit] ++ as16 srcIP ++
    as16 dstIP

def udpHeader (srcPort dstPort : UInt16) (length checksum : Nat) : Bytes :=
  putBE16 srcPort.toNat ++ putBE16 dstPort.toNat ++ putBE16 length ++ putBE16 checksum

@[simp] theorem length_udpHeader (srcPort dstPort : UInt16) (length checksum : Nat) :
    (udpHeader srcPort dstPort length checksum).length = 8 := rfl

def pseudoHeaderChecksum (protocol : UInt8) (srcIP dstIP : Ip6) (totalLen : Nat) : Nat :=
  let addresses := checksum (as16 dstIP) (checksum (as16 srcIP) 0)
  checksum [0, protocol] (checksum (putBE16 totalLen) addresses)

theorem drop_ethernetHeader (srcMAC dstMAC : MAC) (etherType : Nat) (rest : Bytes) :
    (ethernetHeader srcMAC dstMAC etherType ++ rest).drop 14 = rest := by
  have hlen : (ethernetHeader srcMAC dstMAC etherType).length = 14 := by
    simp [ethernetHeader]
  rw [List.drop_left' hlen]

theorem wordSum_udpHeader (srcPort dstPort : UInt16) {length sum : Nat}
    (hlen : length < 65536) (hsum : sum < 65536) :
    wordSum (udpHeader srcPort dstPort length sum) =
      srcPort.toNat + dstPort.toNat + length + sum := by
  simp [udpHeader, wordSum_append, wordSum_putBE16 srcPort.toNat_lt,
    wordSum_putBE16 dstPort.toNat_lt, wordSum_putBE16 hlen, wordSum_putBE16 hsum]
  omega

def ipv6ProtocolNumber : Nat := 0x86dd

def udpProtocolNumber : UInt8 := 17

/-! ## UDP over IPv6 -/

section CraftUDP6

variable (srcMAC dstMAC : MAC) (srcIP dstIP : Ip6) (srcPort dstPort : UInt16)
  (payload : Bytes)

def craftUDP6 : Bytes :=
  let udpLen := 8 + payload.length
  let xsum := checksum payload (pseudoHeaderChecksum udpProtocolNumber srcIP dstIP udpLen)
  let sum := 0xffff - checksum (udpHeader srcPort dstPort udpLen 0) xsum
  ethernetHeader srcMAC dstMAC ipv6ProtocolNumber ++
    (ipv6Header udpLen udpProtocolNumber 64 srcIP dstIP ++
      (udpHeader srcPort dstPort udpLen sum ++ payload))

/-- What an IPv6 receiver asks of a datagram: a checksum, and a sum of 0xffff over
the pseudo-header, the UDP header and the payload. -/
def AcceptsUDP6 (frame : Bytes) : Prop :=
  let packet := frame.drop 14
  let datagram := packet.drop 40
  let pseudoHeader := (packet.drop 8).take 32 ++ putBE32 datagram.length ++
    [0, 0, 0, byteAt packet 6]
  be16 datagram 6 ≠ 0 ∧ checksum (pseudoHeader ++ datagram) 0 = 0xffff

instance (frame : Bytes) : Decidable (AcceptsUDP6 frame) :=
  inferInstanceAs (Decidable (_ ∧ _))

/-- The words that the checksum covers, but for the checksum itself. -/
def coveredSum : Nat :=
  wordSum (as16 srcIP) + wordSum (as16 dstIP) + srcPort.toNat + dstPort.toNat +
    2 * (8 + payload.length) + udpProtocolNumber.toNat + wordSum payload

variable {payload} (h : payload.length ≤ 65527)

include h

theorem xsum_udp6 :
    checksum (udpHeader srcPort dstPort (8 + payload.length) 0)
      (checksum payload (pseudoHeaderChecksum udpProtocolNumber srcIP dstIP
        (8 + payload.length))) =
      folded (coveredSum srcIP dstIP srcPort dstPort payload) := by
  have hhdr := wordSum_udpHeader srcPort dstPort (by omega : 8 + payload.length < 65536)
    (by decide : 0 < 65536)
  have hlen : wordSum (putBE16 (8 + payload.length)) = 8 + payload.length :=
    wordSum_putBE16 (by omega)
  have hproto : wordSum [0, udpProtocolNumber] = udpProtocolNumber.toNat := rfl
  rw [pseudoHeaderChecksum, checksum_zero, checksum_folded, checksum_folded, checksum_folded,
    checksum_folded, checksum_folded, hhdr, hlen, hproto, coveredSum]
  exact congrArg folded (by omega)

/-- The receiver's sum over the datagram and its pseudo-header. -/
theorem wordSum_received {sum : Nat} (hsum : sum < 65536) :
    let datagram := udpHeader srcPort dstPort (8 + payload.length) sum ++ payload
    wordSum (as16 srcIP ++ as16 dstIP ++ putBE32 datagram.length ++
        [0, 0, 0, udpProtocolNumber] ++ datagram) =
      coveredSum srcIP dstIP srcPort dstPort payload + sum := by
  intro datagram
  have hhdr := wordSum_udpHeader srcPort dstPort (by omega : 8 + payload.length < 65536) hsum
  have hlen : wordSum (putBE32 datagram.length) = 8 + payload.length := by
    rw [List.length_append, length_udpHeader]
    exact wordSum_putBE32 (by omega)
  have hproto : wordSum [0, 0, 0, udpProtocolNumber] = udpProtocolNumber.toNat := rfl
  rw [wordSum_append _ _ (by simp), wordSum_append _ _ (by simp), wordSum_append _ _ (by simp),
    wordSum_append _ _ (by simp), wordSum_append _ _ (by simp), hhdr, hlen, hproto,
    coveredSum]
  omega

end CraftUDP6

/-- Every datagram sums to 0xffff, but where the complemented sum is zero it goes
out without a checksum. -/
theorem craftUDP6_accepted_iff (srcMAC dstMAC : MAC) (srcIP dstIP : Ip6)
    (srcPort dstPort : UInt16) (payload : Bytes) (h : payload.length ≤ 65527) :
    AcceptsUDP6 (craftUDP6 srcMAC dstMAC srcIP dstIP srcPort dstPort payload) ↔
      ¬ 65535 ∣ coveredSum srcIP dstIP srcPort dstPort payload := by
  have hpos : coveredSum srcIP dstIP srcPort dstPort payload ≠ 0 := by
    unfold coveredSum
    omega
  unfold craftUDP6
  dsimp only
  rw [xsum_udp6 srcIP dstIP srcPort dstPort h, ← complement_ne_zero_iff _ hpos]
  have hverifies := folded_add_complement (coveredSum srcIP dstIP srcPort dstPort payload)
  generalize hcompl :
    0xffff - folded (coveredSum srcIP dstIP srcPort dstPort payload) = sum at hverifies ⊢
  have hsum : sum < 65536 := by omega
  have hfield := (be16_putBE16 sum payload).trans (Nat.mod_eq_of_lt hsum)
  rw [← wordSum_received srcIP dstIP srcPort dstPort h hsum, ← checksum_zero] at hverifies
  rw [AcceptsUDP6, drop_ethernetHeader]
  constructor
  · intro haccepted
    exact hfield ▸ haccepted.1
  · intro hne
    exact ⟨hfield.symm ▸ hne, hverifies⟩

theorem craftUDP6_accepted_iff_advertise :
    let payload : Bytes := [2, 0x12, 0x34, 0x56, 0, 1, 0, 3, 7, 8, 9]
    payload.length ≤ 65527 ∧
      AcceptsUDP6 (craftUDP6 #v[2, 0, 0, 0, 0, 1] #v[2, 0, 0, 0, 0, 2]
        0xfe800000000000000000000000000001 0xfe800000000000000000000000000002 547 546
        payload) :=
  ⟨by decide, (craftUDP6_accepted_iff _ _ _ _ _ _ _ (by decide)).mpr (by decide)⟩

/-- Two bytes of payload that bring the sum to 0xffff. -/
theorem craftUDP6_without_checksum :
    ¬ AcceptsUDP6 (craftUDP6 #v[2, 0, 0, 0, 0, 1] #v[2, 0, 0, 0, 0, 2]
        0xfe800000000000000000000000000001 0xfe800000000000000000000000000002 547 546
        [0xfe, 0x90]) := by
  decide

end GvSwitch.Gateway
