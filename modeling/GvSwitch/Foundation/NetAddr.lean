import Mathlib.Algebra.GroupWithZero.Nat
import Mathlib.Data.List.Basic

/-!
# IP addresses

An address is invalid, an IPv4 address, or an IPv6 address in a zone, which may be
empty.  Two addresses are equal only if their zones are.  Addresses are ordered by
family, value and zone; the successor of the last address of a family is invalid.
-/

namespace GvSwitch.Foundation

abbrev Ip4 := Fin (2 ^ 32)

abbrev Ip6 := Fin (2 ^ 128)

instance neZeroIp4 : NeZero (2 ^ 32) := ⟨by decide⟩

instance neZeroIp6 : NeZero (2 ^ 128) := ⟨by decide⟩

inductive Addr where
  | invalid
  | ip4 (value : Ip4)
  | ip6 (value : Ip6) (zone : String := "")
  deriving DecidableEq, Repr

namespace Addr

def bitLen : Addr → Nat
  | invalid => 0
  | ip4 _ => 32
  | ip6 _ _ => 128

def value : Addr → Nat
  | invalid => 0
  | ip4 value => value.val
  | ip6 value _ => value.val

def zone : Addr → String
  | ip6 _ zone => zone
  | _ => ""

/-- The address that `AsSlice` has the bytes of. -/
def withoutZone : Addr → Addr
  | ip6 value _ => ip6 value
  | address => address

def isValid (address : Addr) : Bool := address != invalid

def is4 : Addr → Bool
  | ip4 _ => true
  | _ => false

def is6 : Addr → Bool
  | ip6 _ _ => true
  | _ => false

def is4In6 : Addr → Bool
  | ip6 value _ => value.val / 2 ^ 32 == 0xffff
  | _ => false

def isUnspecified : Addr → Bool
  | invalid => false
  | ip4 value => value.val == 0
  | ip6 value zone => value.val == 0 && zone == ""

def less (first second : Addr) : Bool :=
  first.bitLen < second.bitLen ||
    (first.bitLen == second.bitLen && (first.value < second.value ||
      (first.value == second.value && first.zone < second.zone)))

def next : Addr → Addr
  | invalid => invalid
  | ip4 value => if h : value.val + 1 < 2 ^ 32 then ip4 ⟨value.val + 1, h⟩ else invalid
  | ip6 value zone =>
    if h : value.val + 1 < 2 ^ 128 then ip6 ⟨value.val + 1, h⟩ zone else invalid

def remaining (address : Addr) : Nat :=
  match address with
  | invalid => 0
  | ip4 value => 2 ^ 32 - value.val
  | ip6 value _ => 2 ^ 128 - value.val

/-- `netip.PrefixFrom(network, bits).Masked().Contains(address)`. -/
def inNetwork (network : Addr) (bits : Int) (address : Addr) : Bool :=
  network.isValid && address.zone == "" && network.bitLen == address.bitLen &&
    0 ≤ bits && bits ≤ network.bitLen &&
    network.value / 2 ^ (network.bitLen - bits.toNat) ==
      address.value / 2 ^ (network.bitLen - bits.toNat)

/-! ## The order -/

theorem less_eq_true_iff (first second : Addr) :
    first.less second = true ↔ first.bitLen < second.bitLen ∨
      first.bitLen = second.bitLen ∧ (first.value < second.value ∨
        first.value = second.value ∧ first.zone < second.zone) := by
  simp [less]

theorem isValid_eq_of_bitLen_eq {first second : Addr} (h : first.bitLen = second.bitLen) :
    first.isValid = second.isValid := by
  cases first <;> cases second <;> first | rfl | cases h

theorem eq_of_value_eq {first second : Addr} (hfamily : first.bitLen = second.bitLen)
    (hzone : first.zone = second.zone) (hvalue : first.value = second.value) :
    first = second := by
  cases first <;> cases second <;> simp_all [bitLen, value, zone, Fin.ext_iff]

theorem eq_of_is4 {first second : Addr} (hfst : first.is4 = true) (hsnd : second.is4 = true)
    (hvalue : first.value = second.value) : first = second := by
  cases first <;> cases second <;> simp_all [is4, value, Fin.ext_iff]

theorem withoutZone_eq {address : Addr} (h : address.zone = "") :
    address.withoutZone = address := by
  cases address with
  | ip6 value zone =>
    cases h
    rfl
  | _ => rfl

/-- The successor is the next value of the family, or the family has none. -/
theorem next_cases (address : Addr) :
    (address.next.isValid = true ∧ address.next.bitLen = address.bitLen ∧
        address.next.zone = address.zone ∧ address.next.value = address.value + 1 ∧
        address.next.remaining + 1 = address.remaining) ∨
      (address.next = invalid ∧ ∀ other : Addr, other.bitLen = address.bitLen →
        other.value ≤ address.value) := by
  cases address with
  | invalid =>
    refine .inr ⟨rfl, fun other hfamily => ?_⟩
    cases other <;> simp_all [bitLen, value]
  | ip4 number | ip6 number =>
    simp only [next]
    split
    · refine .inl ?_
      simp only [isValid, bitLen, zone, value, remaining]
      exact ⟨rfl, trivial, trivial, trivial, by omega⟩
    · refine .inr ⟨rfl, fun other hfamily => ?_⟩
      cases other <;> simp_all [bitLen, value]
      omega

/-- What lies past an address lies past it by a successor at least. -/
theorem not_less_next {address other : Addr} (h : other.less address = false)
    (hzone : other.zone = address.zone) (hne : other ≠ address) :
    other.less address.next = false := by
  rw [Bool.eq_false_iff, ne_eq, less_eq_true_iff] at h ⊢
  have hvalue (hfamily : other.bitLen = address.bitLen) :=
    mt (eq_of_value_eq hfamily hzone) hne
  rcases next_cases address with ⟨-, hfamily, hsame, hsucc, -⟩ | ⟨hnone, -⟩
  · simp only [hsame, hzone, String.lt_irrefl, and_false, or_false] at h ⊢
    omega
  · cases other <;> simp [hnone, bitLen, value, zone]

end Addr

end GvSwitch.Foundation
