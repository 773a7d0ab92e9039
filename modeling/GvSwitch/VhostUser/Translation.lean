import GvSwitch.VhostUser.Memory

/-!
# Exactness of the translation

A range of guest addresses should be translated exactly when one region holds
all of it, and then to the bytes of the first such region.  The bounds check
adds the offset and the size in 64 bits.  A sum that wraps passes the check with
an offset beyond the region, and slicing there panics.
-/

namespace GvSwitch.VhostUser

open Foundation MemRegion

/-! ## The intended translation -/

def MemRegion.covers (base : MemRegion → UInt64) (address size : UInt64)
    (region : MemRegion) : Bool :=
  decide ((base region).toNat ≤ address.toNat ∧
    address.toNat + size.toNat ≤ (base region).toNat + region.size.toNat)

/-- The offset and the size add up to a full turn of 64 bits, and what is left
of the sum stays within the region's size. -/
def MemRegion.wraps (base : MemRegion → UInt64) (address size : UInt64)
    (region : MemRegion) : Bool :=
  decide ((base region).toNat ≤ address.toNat ∧
    18446744073709551616 ≤ address.toNat - (base region).toNat + size.toNat ∧
    address.toNat - (base region).toNat + size.toNat ≤
      18446744073709551616 + region.size.toNat)

def translated (base : MemRegion → UInt64) (address size : UInt64)
    (regions : List MemRegion) : Option Slice :=
  if size.toNat = 0 then none
  else (regions.find? (·.covers base address size)).map fun region =>
    ⟨region.mapped.base + (address.toNat - (base region).toNat), size.toNat⟩

/-- No panic, and a slice exactly where the intended translation has one. -/
def Exact (outcome : Outcome MemError Slice) (intended : Option Slice) : Prop :=
  outcome ≠ .panic ∧ ∀ slice, outcome = .ok slice ↔ intended = some slice

/-- No region ahead of the first that holds the range lets the sum wrap. -/
def NoWrap (base : MemRegion → UInt64) (address size : UInt64)
    (regions : List MemRegion) : Prop :=
  ∀ region ∈ regions.takeWhile (fun region => !region.covers base address size),
    region.wraps base address size = false

/-! ## One region -/

section Region

variable {base : MemRegion → UInt64} {address size : UInt64} {region : MemRegion}

theorem MemRegion.sub_of_covers (hmapped : region.mapped.len = region.size.toNat)
    (hcov : region.covers base address size = true) :
    (base region ≤ address ∧ address - base region + size ≤ region.size) ∧
      region.mapped.sub (address - base region) (address - base region + size) =
        .ok ⟨region.mapped.base + (address.toNat - (base region).toNat),
          size.toNat⟩ := by
  obtain ⟨hlow, hhigh⟩ := of_decide_eq_true hcov
  have hbase : base region ≤ address := UInt64.le_iff_toNat_le.mpr hlow
  have hoffset := UInt64.toNat_sub_of_le _ _ hbase
  have hbound := region.size.toNat_lt
  have hsum : (address - base region + size).toNat =
      address.toNat - (base region).toNat + size.toNat := by
    rw [UInt64.toNat_add, hoffset]
    omega
  have hfits : address - base region + size ≤ region.size := by
    rw [UInt64.le_iff_toNat_le, hsum]
    omega
  have horder : address - base region ≤ address - base region + size := by
    rw [UInt64.le_iff_toNat_le, hsum, hoffset]
    omega
  refine ⟨⟨hbase, hfits⟩, ?_⟩
  unfold Slice.sub
  rw [if_pos ⟨horder, by rw [hmapped, hsum]; omega⟩, hoffset, UInt64.add_comm,
    UInt64.add_sub_cancel]

theorem MemRegion.sub_of_wraps (hwraps : region.wraps base address size = true) :
    (base region ≤ address ∧ address - base region + size ≤ region.size) ∧
      region.mapped.sub (address - base region) (address - base region + size) =
        .panic := by
  obtain ⟨hlow, hturn, hrest⟩ := of_decide_eq_true hwraps
  have hbase : base region ≤ address := UInt64.le_iff_toNat_le.mpr hlow
  have hoffset := UInt64.toNat_sub_of_le _ _ hbase
  have haddress := address.toNat_lt
  have hsize := size.toNat_lt
  have hsum : (address - base region + size).toNat =
      address.toNat - (base region).toNat + size.toNat - 18446744073709551616 := by
    rw [UInt64.toNat_add, hoffset]
    omega
  have hfits : address - base region + size ≤ region.size := by
    rw [UInt64.le_iff_toNat_le, hsum]
    omega
  refine ⟨⟨hbase, hfits⟩, ?_⟩
  unfold Slice.sub
  rw [if_neg]
  rintro ⟨horder, -⟩
  rw [UInt64.le_iff_toNat_le, hsum, hoffset] at horder
  omega

theorem MemRegion.covers_or_wraps (hbase : base region ≤ address)
    (hfits : address - base region + size ≤ region.size) :
    region.covers base address size = true ∨ region.wraps base address size = true := by
  have hlow := UInt64.le_iff_toNat_le.mp hbase
  have haddress := address.toNat_lt
  have hsize := size.toNat_lt
  rw [UInt64.le_iff_toNat_le, UInt64.toNat_add, UInt64.toNat_sub_of_le _ _ hbase] at hfits
  by_cases hturn : address.toNat - (base region).toNat + size.toNat < 18446744073709551616
  · refine .inl (decide_eq_true ⟨hlow, ?_⟩)
    omega
  · refine .inr (decide_eq_true ⟨hlow, by omega, ?_⟩)
    omega

theorem resolve_cons (hmapped : region.mapped.len = region.size.toNat)
    (rest : List MemRegion) :
    resolve base address size (region :: rest) =
      if region.covers base address size then
        .ok ⟨region.mapped.base + (address.toNat - (base region).toNat), size.toNat⟩
      else if region.wraps base address size then .panic
      else resolve base address size rest := by
  rw [resolve]
  split_ifs with hcheck hcov hwraps hcov hwraps
  · exact (sub_of_covers hmapped hcov).2
  · exact (sub_of_wraps hwraps).2
  · rcases covers_or_wraps hcheck.1 hcheck.2 with hcov' | hwraps'
    · exact absurd hcov' hcov
    · exact absurd hwraps' hwraps
  · exact absurd (sub_of_covers hmapped hcov).1 hcheck
  · exact absurd (sub_of_wraps hwraps).1 hcheck
  · rfl

end Region

/-! ## The whole table -/

variable {base : MemRegion → UInt64} {address size : UInt64}

theorem noWrap_cons {region : MemRegion} {rest : List MemRegion} :
    NoWrap base address size (region :: rest) ↔
      region.covers base address size = true ∨
        (region.wraps base address size = false ∧ NoWrap base address size rest) := by
  unfold NoWrap
  cases hcov : region.covers base address size with
  | true | false => simp [hcov]

theorem exact_resolve_iff (hsize : size.toNat ≠ 0) {regions : List MemRegion}
    (hmapped : ∀ region ∈ regions, region.mapped.len = region.size.toNat) :
    Exact (resolve base address size regions) (translated base address size regions) ↔
      NoWrap base address size regions := by
  unfold translated
  rw [if_neg hsize]
  induction regions with
  | nil => simp [Exact, NoWrap, resolve]
  | cons region rest ih =>
    rw [resolve_cons (hmapped region (.head _)), noWrap_cons]
    cases hcov : region.covers base address size with
    | true => simp [Exact, hcov]
    | false =>
      cases hwraps : region.wraps base address size with
      | true => simp [Exact]
      | false =>
        have hrest := ih fun other ho =>
          hmapped other (List.mem_cons_of_mem region ho)
        simpa [hcov] using hrest

theorem noWrap_of_size_zero (hsize : size.toNat = 0) (regions : List MemRegion) :
    NoWrap base address size regions := by
  intro region _
  have haddress := address.toNat_lt
  refine decide_eq_false ?_
  omega

/-- Either translation is exact if and only if the sum of the offset and the
size does not wrap in a region that is tried. -/
theorem translation_exact_iff {table : MemTable}
    (hmapped : ∀ region ∈ table.regions, region.mapped.len = region.size.toNat)
    (address size : UInt64) :
    (Exact (table.gpaSlice address size) (translated (·.gpa) address size table.regions) ↔
      NoWrap (·.gpa) address size table.regions) ∧
    (Exact (table.uvaSlice address size) (translated (·.uva) address size table.regions) ↔
      NoWrap (·.uva) address size table.regions) := by
  by_cases hsize : size = 0
  · subst size
    have hzero : Exact (.error .zeroLength) none := by simp [Exact]
    exact ⟨iff_of_true hzero (noWrap_of_size_zero rfl _),
      iff_of_true hzero (noWrap_of_size_zero rfl _)⟩
  · have hpos : size.toNat ≠ 0 := by
      intro hzero
      exact hsize (UInt64.toNat_inj.mp hzero)
    unfold MemTable.gpaSlice MemTable.uvaSlice
    rw [if_neg hsize, if_neg hsize]
    exact ⟨exact_resolve_iff hpos hmapped, exact_resolve_iff hpos hmapped⟩

def onePage : MemTable := ⟨[⟨0, 4096, 0, ⟨65536, 4096⟩, ⟨65536, 4096⟩⟩]⟩

theorem translation_exact_iff_onePage :
    Exact (onePage.gpaSlice 4080 16) (some ⟨69616, 16⟩) ∧
      Exact (onePage.uvaSlice 4080 16) (some ⟨69616, 16⟩) := by
  have hmapped : ∀ region ∈ onePage.regions,
      region.mapped.len = region.size.toNat := by
    decide
  obtain ⟨hgpa, huva⟩ := translation_exact_iff hmapped 4080 16
  have hempty : NoWrap (·.gpa) 4080 16 onePage.regions ∧
      NoWrap (·.uva) 4080 16 onePage.regions := by
    unfold NoWrap
    decide
  exact ⟨hgpa.mpr hempty.1, huva.mpr hempty.2⟩

/-- Sixteen bytes at the last address: the check passes, the slice expression
panics. -/
theorem last_address_panics :
    (∀ region ∈ onePage.regions, region.mapped.len = region.size.toNat) ∧
      onePage.gpaSlice 0xffffffffffffffff (UInt32.toUInt64 16) = .panic ∧
      onePage.uvaSlice 0xffffffffffffffff (UInt32.toUInt64 16) = .panic ∧
      translated (·.gpa) 0xffffffffffffffff 16 onePage.regions = none ∧
      translated (·.uva) 0xffffffffffffffff 16 onePage.regions = none := by
  decide

end GvSwitch.VhostUser
