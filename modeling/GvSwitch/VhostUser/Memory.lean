import GvSwitch.Foundation.Bytes
import GvSwitch.Foundation.Outcome

/-!
# Guest memory

Regions of guest memory are mapped into the host's address space.  A slice is a
range of host addresses; its contents are read from the host memory at the time
of the access, since the guest writes there too.  Addresses and sizes are 64-bit
and wrap.
-/

namespace GvSwitch.VhostUser

open Foundation

abbrev Host := Nat → UInt8

/-- A Go slice of mapped memory; its capacity is its length. -/
structure Slice where
  base : Nat
  len : Nat
  deriving DecidableEq, Repr

inductive MemError where
  | shortPayload
  | badRegionCount (count : Nat)
  | missingFds (regions fds : Nat)
  | shortRegions (count : Nat)
  | mmapFailed (index : Nat) (size : UInt64)
  | zeroLength
  | notMapped (address size : UInt64)
  deriving DecidableEq, Repr

/-- `s[low:high]` with 64-bit bounds. -/
def Slice.sub (slice : Slice) (low high : UInt64) : Outcome MemError Slice :=
  if low ≤ high ∧ high.toNat ≤ slice.len then
    .ok ⟨slice.base + low.toNat, (high - low).toNat⟩
  else .panic

/-- `mapped` is the region itself, `raw` the page-aligned mapping around it. -/
structure MemRegion where
  gpa : UInt64
  size : UInt64
  uva : UInt64
  mapped : Slice
  raw : Slice
  deriving DecidableEq, Repr

structure MemTable where
  regions : List MemRegion
  deriving DecidableEq, Repr

/-! ## Translation -/

/-- Resolve a range in the first region whose base, as `base` gives it, lies
below and whose size reaches far enough. -/
def resolve (base : MemRegion → UInt64) (address size : UInt64) :
    List MemRegion → Outcome MemError Slice
  | [] => .error (.notMapped address size)
  | region :: rest =>
    if base region ≤ address ∧ address - base region + size ≤ region.size then
      let off := address - base region
      region.mapped.sub off (off + size)
    else resolve base address size rest

def MemTable.gpaSlice (table : MemTable) (gpa size : UInt64) : Outcome MemError Slice :=
  if size = 0 then .error .zeroLength else resolve (·.gpa) gpa size table.regions

def MemTable.uvaSlice (table : MemTable) (uva size : UInt64) : Outcome MemError Slice :=
  if size = 0 then .error .zeroLength else resolve (·.uva) uva size table.regions

/-! ## The memory table -/

/-- `unix.Getpagesize()`, and `unix.Mmap(fd, offset, length)` with the mapping
made, if any. -/
structure Mmap where
  pageSize : UInt64
  map : Nat → UInt64 → UInt64 → Option Slice

def mapRegion (mmap : Mmap) (payload : Bytes) (fds : List Nat) (index : Nat) :
    Outcome MemError MemRegion :=
  let offset := 8 + index * 32
  let gpa := UInt64.ofNat (le64 payload offset)
  let size := UInt64.ofNat (le64 payload (offset + 8))
  let uva := UInt64.ofNat (le64 payload (offset + 16))
  let mmapOffset := UInt64.ofNat (le64 payload (offset + 24))
  -- The file offset must be page-aligned: map from the aligned-down offset.
  let pad := mmapOffset &&& (mmap.pageSize - 1)
  match mmap.map (fds.getD index 0) (mmapOffset - pad) (size + pad) with
  | none => .error (.mmapFailed index size)
  | some raw => do
      let mapped ← raw.sub pad (pad + size)
      return ⟨gpa, size, uva, mapped, raw⟩

def mapRegions (mmap : Mmap) (payload : Bytes) (fds : List Nat) (count index : Nat)
    (mapped : List MemRegion) : Outcome (MemError × List MemRegion) MemTable :=
  match count with
  | 0 => .ok ⟨mapped⟩
  | count + 1 =>
    match mapRegion mmap payload fds index with
    | .ok region => mapRegions mmap payload fds count (index + 1) (mapped ++ [region])
    | .error reason => .error (reason, mapped)
    | .panic => .panic

/-- On failure the regions mapped so far are returned with the error, to be
unmapped. -/
def parseMemTable (mmap : Mmap) (payload : Bytes) (fds : List Nat) :
    Outcome (MemError × List MemRegion) MemTable :=
  if payload.length < 8 then .error (.shortPayload, [])
  else
    let count := le32 payload 0
    if count = 0 ∨ count > 32 then .error (.badRegionCount count, [])
    else if fds.length < count then .error (.missingFds count fds.length, [])
    else if payload.length < 8 + count * 32 then .error (.shortRegions count, [])
    else mapRegions mmap payload fds count 0 []

/-! ## What a translation returns -/

variable {slice : Slice} {base : MemRegion → UInt64} {address size uva : UInt64}
variable {regions : List MemRegion} {table : MemTable}

theorem Slice.sub_eq_ok {result : Slice} {low high : UInt64}
    (h : slice.sub low high = .ok result) : result.len = (high - low).toNat := by
  unfold Slice.sub at h
  split at h
  · cases h
    rfl
  · cases h

theorem len_resolve (h : resolve base address size regions = .ok slice) :
    slice.len = size.toNat := by
  induction regions with
  | nil => cases h
  | cons region rest ih =>
    simp only [resolve] at h
    split at h
    · rw [Slice.sub_eq_ok h, UInt64.add_comm, UInt64.add_sub_cancel]
    · exact ih h

theorem MemTable.len_uvaSlice (h : table.uvaSlice uva size = .ok slice) :
    slice.len = size.toNat := by
  unfold uvaSlice at h
  split at h
  · cases h
  · exact len_resolve h

def MemTable.Covers (table : MemTable) (uva : UInt64) (size : Nat) : Prop :=
  ∃ region ∈ table.regions, region.uva.toNat ≤ uva.toNat ∧
    uva.toNat + size ≤ region.uva.toNat + region.size.toNat

theorem resolve_ne_error
    (hcovered : ∃ region ∈ regions, (base region).toNat ≤ address.toNat ∧
      address.toNat + size.toNat ≤ (base region).toNat + region.size.toNat)
    (reason : MemError) : resolve base address size regions ≠ .error reason := by
  have hsub (slice : Slice) (low high : UInt64) : slice.sub low high ≠ .error reason := by
    unfold Slice.sub
    split <;> simp
  induction regions with
  | nil => simp at hcovered
  | cons first rest ih =>
    simp only [resolve]
    split
    · exact hsub _ _ _
    rename_i hskip
    refine ih ?_
    obtain ⟨region, hm, hlow, hhigh⟩ := hcovered
    rcases List.mem_cons.mp hm with rfl | hrest
    · -- The covering region is not skipped: nothing wraps inside it.
      refine absurd ⟨UInt64.le_iff_toNat_le.mpr hlow, ?_⟩ hskip
      rw [UInt64.le_iff_toNat_le, UInt64.toNat_add,
        UInt64.toNat_sub_of_le _ _ (UInt64.le_iff_toNat_le.mpr hlow)]
      have hsize := region.size.toNat_lt
      omega
    · exact ⟨region, hrest, hlow, hhigh⟩

theorem covered_of_resolve (h : resolve base address size regions = .ok slice) :
    ∃ region ∈ regions, (base region).toNat ≤ address.toNat ∧
      address.toNat + size.toNat ≤ (base region).toNat + region.size.toNat := by
  induction regions with
  | nil => cases h
  | cons first rest ih =>
    simp only [resolve] at h
    split at h
    · rename_i hfits
      refine ⟨first, .head _, UInt64.le_iff_toNat_le.mp hfits.1, ?_⟩
      unfold Slice.sub at h
      split at h
      · rename_i hbounds
        have hoffset := UInt64.toNat_sub_of_le _ _ hfits.1
        have hlow := UInt64.le_iff_toNat_le.mp hfits.1
        have hsize := UInt64.le_iff_toNat_le.mp hfits.2
        have horder := UInt64.le_iff_toNat_le.mp hbounds.1
        have hbound := size.toNat_lt
        rw [UInt64.toNat_add, hoffset] at hsize horder
        omega
      · cases h
    · obtain ⟨region, hm, hcov⟩ := ih h
      exact ⟨region, List.mem_cons_of_mem first hm, hcov⟩

theorem MemTable.uvaSlice_ne_error (hsize : size ≠ 0) (hcov : table.Covers uva size.toNat)
    (reason : MemError) : table.uvaSlice uva size ≠ .error reason := by
  unfold uvaSlice
  rw [if_neg hsize]
  exact resolve_ne_error hcov reason

theorem MemTable.covers_of_uvaSlice (h : table.uvaSlice uva size = .ok slice) :
    table.Covers uva size.toNat := by
  unfold uvaSlice at h
  split at h
  · cases h
  · exact covered_of_resolve h

end GvSwitch.VhostUser
