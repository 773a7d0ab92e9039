import Mathlib.Algebra.GroupWithZero.Nat
import Mathlib.Data.List.Basic

/-!
# Byte strings and fixed-width fields

Fields are read at an offset after the caller has checked the length, so a
read past the end returns a zero byte and is never relied upon.
-/

namespace GvSwitch.Foundation

abbrev Bytes := List UInt8

def byteAt (data : Bytes) (offset : Nat) : UInt8 := data.getD offset 0

def be16 (data : Bytes) (offset : Nat) : Nat :=
  (byteAt data offset).toNat * 256 + (byteAt data (offset + 1)).toNat

def be32 (data : Bytes) (offset : Nat) : Nat :=
  be16 data offset * 65536 + be16 data (offset + 2)

def be64 (data : Bytes) (offset : Nat) : Nat :=
  be32 data offset * 4294967296 + be32 data (offset + 4)

def putBE16 (value : Nat) : Bytes :=
  [UInt8.ofNat (value / 256), UInt8.ofNat value]

def putBE32 (value : Nat) : Bytes :=
  putBE16 (value / 65536) ++ putBE16 value

def putBE64 (value : Nat) : Bytes :=
  putBE32 (value / 4294967296) ++ putBE32 value

def le16 (data : Bytes) (offset : Nat) : Nat :=
  (byteAt data offset).toNat + (byteAt data (offset + 1)).toNat * 256

def le32 (data : Bytes) (offset : Nat) : Nat :=
  le16 data offset + le16 data (offset + 2) * 65536

def le64 (data : Bytes) (offset : Nat) : Nat :=
  le32 data offset + le32 data (offset + 4) * 4294967296

def putLE16 (value : Nat) : Bytes :=
  [UInt8.ofNat value, UInt8.ofNat (value / 256)]

def putLE32 (value : Nat) : Bytes :=
  putLE16 value ++ putLE16 (value / 65536)

def putLE64 (value : Nat) : Bytes :=
  putLE32 value ++ putLE32 (value / 4294967296)

theorem byteAt_append_left (first second : Bytes) {offset : Nat} (h : offset < first.length) :
    byteAt (first ++ second) offset = byteAt first offset := by
  simp [byteAt, List.getElem?_append_left h]

theorem byteAt_append_right (first second : Bytes) {offset : Nat}
    (h : first.length ≤ offset) :
    byteAt (first ++ second) offset = byteAt second (offset - first.length) := by
  simp [byteAt, List.getElem?_append_right h]

variable (value : Nat) (rest data : Bytes) (count offset : Nat)

theorem byteAt_take {count offset : Nat} (h : offset < count) :
    byteAt (data.take count) offset = byteAt data offset := by
  simp [byteAt, List.getElem?_take_of_lt h]

theorem byteAt_drop : byteAt (data.drop count) offset = byteAt data (count + offset) := by
  simp [byteAt]

theorem be16_drop : be16 (data.drop count) offset = be16 data (count + offset) := by
  simp only [be16, byteAt_drop, Nat.add_assoc]

theorem be32_drop : be32 (data.drop count) offset = be32 data (count + offset) := by
  simp only [be32, be16_drop, Nat.add_assoc]

theorem be64_drop : be64 (data.drop count) offset = be64 data (count + offset) := by
  simp only [be64, be32_drop, Nat.add_assoc]

theorem be16_putBE16 : be16 (putBE16 value ++ rest) 0 = value % 65536 := by
  simp only [be16, byteAt, putBE16, List.cons_append, List.nil_append,
    List.getD_cons_zero, List.getD_cons_succ, Nat.zero_add, UInt8.toNat_ofNat']
  omega

theorem be32_putBE32 : be32 (putBE32 value ++ rest) 0 = value % 4294967296 := by
  have hhigh : be16 (putBE32 value ++ rest) 0 = value / 65536 % 65536 := by
    rw [putBE32, List.append_assoc, be16_putBE16]
  have hlow : be16 (putBE32 value ++ rest) (0 + 2) = value % 65536 :=
    be16_putBE16 value rest
  rw [be32, hhigh, hlow]
  omega

theorem be64_putBE64 : be64 (putBE64 value ++ rest) 0 = value % 18446744073709551616 := by
  have hhigh : be32 (putBE64 value ++ rest) 0 = value / 4294967296 % 4294967296 := by
    rw [putBE64, List.append_assoc, be32_putBE32]
  have hlow : be32 (putBE64 value ++ rest) (0 + 4) = value % 4294967296 :=
    be32_putBE32 value rest
  rw [be64, hhigh, hlow]
  omega

end GvSwitch.Foundation
