import GvSwitch.VhostUser.Device

/-!
# Parsing the memory table

Each region of a SET_MEM_TABLE message is mapped from the page below its file
offset on, and the length asked for is the sum of the size and of the padding,
in 64 bits.  A sum that wraps asks for a short mapping, and slicing that
mapping panics.  Otherwise the table is what the message says, or everything
that was mapped is unmapped again.
-/

namespace GvSwitch.VhostUser

open Foundation

/-! ## What the message says -/

structure RegionFields where
  gpa : UInt64
  size : UInt64
  uva : UInt64
  mmapOffset : UInt64
  deriving DecidableEq, Repr

def fieldsAt (payload : Bytes) (index : Nat) : RegionFields where
  gpa := UInt64.ofNat (le64 payload (8 + index * 32))
  size := UInt64.ofNat (le64 payload (8 + index * 32 + 8))
  uva := UInt64.ofNat (le64 payload (8 + index * 32 + 16))
  mmapOffset := UInt64.ofNat (le64 payload (8 + index * 32 + 24))

def RegionFields.pad (fields : RegionFields) (pageSize : UInt64) : UInt64 :=
  fields.mmapOffset &&& (pageSize - 1)

def RegionFields.Overflows (fields : RegionFields) (pageSize : UInt64) : Prop :=
  18446744073709551616 ≤ fields.size.toNat + (fields.pad pageSize).toNat

/-- `mmap` fails, or maps exactly what it was asked for, which is positive as a
signed number. -/
def MapsExactly (mmap : Mmap) : Prop :=
  ∀ fd offset length raw, mmap.map fd offset length = some raw →
    raw.len = length.toNat ∧ 0 < length.toNat ∧ length.toNat < 9223372036854775808

variable {index : Nat} {regions : List MemRegion}

section Parse

variable (mmap : Mmap) (payload : Bytes) (fds : List Nat)

def mmapCall (index : Nat) : Option Slice :=
  mmap.map (fds.getD index 0)
    ((fieldsAt payload index).mmapOffset - (fieldsAt payload index).pad mmap.pageSize)
    ((fieldsAt payload index).size + (fieldsAt payload index).pad mmap.pageSize)

def regionOf (index : Nat) (raw : Slice) : MemRegion where
  gpa := (fieldsAt payload index).gpa
  size := (fieldsAt payload index).size
  uva := (fieldsAt payload index).uva
  mapped := ⟨raw.base + ((fieldsAt payload index).pad mmap.pageSize).toNat,
    (fieldsAt payload index).size.toNat⟩
  raw := raw

theorem mapRegion_eq (index : Nat) :
    mapRegion mmap payload fds index =
      match mmapCall mmap payload fds index with
      | none => .error (.mmapFailed index (fieldsAt payload index).size)
      | some raw => do
          let mapped ← raw.sub ((fieldsAt payload index).pad mmap.pageSize)
            ((fieldsAt payload index).pad mmap.pageSize + (fieldsAt payload index).size)
          return ⟨(fieldsAt payload index).gpa, (fieldsAt payload index).size,
            (fieldsAt payload index).uva, mapped, raw⟩ :=
  rfl

variable {mmap payload fds}

/-! ## One region -/

theorem mapRegion_of_none (h : mmapCall mmap payload fds index = none) :
    mapRegion mmap payload fds index =
      .error (.mmapFailed index (fieldsAt payload index).size) := by
  rw [mapRegion_eq, h]

theorem mapRegion_of_overflows {raw : Slice}
    (h : mmapCall mmap payload fds index = some raw)
    (hover : (fieldsAt payload index).Overflows mmap.pageSize) :
    mapRegion mmap payload fds index = .panic := by
  have hsize := (fieldsAt payload index).size.toNat_lt
  have hpad := ((fieldsAt payload index).pad mmap.pageSize).toNat_lt
  unfold RegionFields.Overflows at hover
  have hsub : raw.sub ((fieldsAt payload index).pad mmap.pageSize)
      ((fieldsAt payload index).pad mmap.pageSize + (fieldsAt payload index).size) = .panic := by
    refine if_neg ?_
    rintro ⟨horder, -⟩
    rw [UInt64.le_iff_toNat_le, UInt64.toNat_add] at horder
    omega
  simp only [mapRegion_eq, h, hsub, Outcome.bind_panic]

theorem mapRegion_of_fits (hmmap : MapsExactly mmap) {raw : Slice}
    (h : mmapCall mmap payload fds index = some raw)
    (hfits : ¬ (fieldsAt payload index).Overflows mmap.pageSize) :
    mapRegion mmap payload fds index = .ok (regionOf mmap payload index raw) := by
  obtain ⟨hlen, -, -⟩ := hmmap _ _ _ _ h
  unfold RegionFields.Overflows at hfits
  have hsum :
      ((fieldsAt payload index).pad mmap.pageSize + (fieldsAt payload index).size).toNat =
        ((fieldsAt payload index).pad mmap.pageSize).toNat +
          (fieldsAt payload index).size.toNat := by
    rw [UInt64.toNat_add]
    omega
  rw [UInt64.add_comm, hsum] at hlen
  have hsub : raw.sub ((fieldsAt payload index).pad mmap.pageSize)
      ((fieldsAt payload index).pad mmap.pageSize + (fieldsAt payload index).size) =
        .ok (regionOf mmap payload index raw).mapped := by
    unfold Slice.sub
    rw [if_pos, UInt64.add_comm (RegionFields.pad _ _), UInt64.add_sub_cancel]
    · rfl
    · rw [UInt64.le_iff_toNat_le, hsum, hlen]
      omega
  simp only [mapRegion_eq, h, hsub, Outcome.bind_ok]
  rfl

/-! ## The loop -/

variable (mmap payload fds) in
def Mapped (index : Nat) (regions : List MemRegion) : Prop :=
  ∀ offset region, regions[offset]? = some region →
    mapRegion mmap payload fds (index + offset) = .ok region

theorem Mapped.cons {region : MemRegion}
    (hfst : mapRegion mmap payload fds index = .ok region)
    (hrest : Mapped mmap payload fds (index + 1) regions) :
    Mapped mmap payload fds index (region :: regions) := by
  intro offset other ho
  cases offset with
  | zero =>
    cases ho
    exact hfst
  | succ offset =>
    have hidx : index + (offset + 1) = index + 1 + offset := by omega
    rw [hidx]
    exact hrest offset other ho

theorem mapRegions_cases (count index : Nat) (mapped : List MemRegion) :
    ∃ regions, Mapped mmap payload fds index regions ∧
      ((regions.length = count ∧
          mapRegions mmap payload fds count index mapped = .ok ⟨mapped ++ regions⟩) ∨
        (regions.length < count ∧ ∃ reason,
          mapRegion mmap payload fds (index + regions.length) = .error reason ∧
            mapRegions mmap payload fds count index mapped =
              .error (reason, mapped ++ regions)) ∨
        (regions.length < count ∧
          mapRegion mmap payload fds (index + regions.length) = .panic ∧
            mapRegions mmap payload fds count index mapped = .panic)) := by
  induction count generalizing index mapped with
  | zero =>
    refine ⟨[], fun offset region hregion => (nomatch hregion), .inl ⟨rfl, ?_⟩⟩
    rw [mapRegions, List.append_nil]
  | succ count ih =>
    cases hfst : mapRegion mmap payload fds index with
    | ok region =>
      have hstep : mapRegions mmap payload fds (count + 1) index mapped =
          mapRegions mmap payload fds count (index + 1) (mapped ++ [region]) := by
        rw [mapRegions, hfst]
      obtain ⟨regions, hregions, hcases⟩ := ih (index + 1) (mapped ++ [region])
      refine ⟨region :: regions, .cons hfst hregions, ?_⟩
      have hidx : index + (region :: regions).length = index + 1 + regions.length := by
        rw [List.length_cons]
        omega
      rw [hstep, hidx, List.length_cons, Nat.add_right_cancel_iff, Nat.add_lt_add_iff_right]
      simpa only [List.append_assoc, List.singleton_append] using hcases
    | error reason =>
      refine ⟨[], fun offset region hregion => (nomatch hregion),
        .inr (.inl ⟨Nat.succ_pos count, reason, hfst, ?_⟩)⟩
      rw [mapRegions, hfst, List.append_nil]
    | panic =>
      refine ⟨[], fun offset region hregion => (nomatch hregion),
        .inr (.inr ⟨Nat.succ_pos count, hfst, ?_⟩)⟩
      rw [mapRegions, hfst]

/-- Within the loop, a region is mapped, is refused, or wraps. -/
theorem mapRegion_eq_ok_iff (hmmap : MapsExactly mmap) {region : MemRegion} :
    mapRegion mmap payload fds index = .ok region ↔
      ¬ (fieldsAt payload index).Overflows mmap.pageSize ∧
        ∃ raw, mmapCall mmap payload fds index = some raw ∧
          region = regionOf mmap payload index raw := by
  cases hc : mmapCall mmap payload fds index with
  | none => simp [mapRegion_of_none hc]
  | some raw =>
    by_cases hover : (fieldsAt payload index).Overflows mmap.pageSize
    · simp [mapRegion_of_overflows hc hover, hover]
    · simp [mapRegion_of_fits hmmap hc hover, hover, eq_comm]

theorem mapRegion_eq_panic_iff (hmmap : MapsExactly mmap) :
    mapRegion mmap payload fds index = .panic ↔
      (fieldsAt payload index).Overflows mmap.pageSize ∧
        (mmapCall mmap payload fds index).isSome = true := by
  cases hc : mmapCall mmap payload fds index with
  | none => simp [mapRegion_of_none hc]
  | some raw =>
    by_cases hover : (fieldsAt payload index).Overflows mmap.pageSize
    · simp [mapRegion_of_overflows hc hover, hover]
    · simp [mapRegion_of_fits hmmap hc hover, hover]

theorem mmapCall_of_error (hmmap : MapsExactly mmap) {reason : MemError}
    (h : mapRegion mmap payload fds index = .error reason) :
    mmapCall mmap payload fds index = none := by
  cases hc : mmapCall mmap payload fds index with
  | none => rfl
  | some raw =>
    by_cases hover : (fieldsAt payload index).Overflows mmap.pageSize
    · cases (mapRegion_of_overflows hc hover).symm.trans h
    · cases (mapRegion_of_fits hmmap hc hover).symm.trans h

/-! ## The whole table -/

structure Sized (payload : Bytes) (fds : List Nat) : Prop where
  header : 8 ≤ payload.length
  count : 1 ≤ le32 payload 0 ∧ le32 payload 0 ≤ 32
  fds : le32 payload 0 ≤ fds.length
  regions : 8 + le32 payload 0 * 32 ≤ payload.length

theorem parseMemTable_of_sized (h : Sized payload fds) :
    parseMemTable mmap payload fds = mapRegions mmap payload fds (le32 payload 0) 0 [] := by
  have hhdr := h.header
  have hcount := h.count
  have hfds := h.fds
  have hregions := h.regions
  unfold parseMemTable
  rw [if_neg (by omega), if_neg (by omega), if_neg (by omega), if_neg (by omega)]

theorem parseMemTable_of_not_sized (h : ¬ Sized payload fds) :
    ∃ reason, parseMemTable mmap payload fds = .error (reason, []) := by
  dsimp only [parseMemTable]
  split_ifs with hhdr hcount hfds hregions
  · exact ⟨_, rfl⟩
  · exact ⟨_, rfl⟩
  · exact ⟨_, rfl⟩
  · exact ⟨_, rfl⟩
  · exact absurd ⟨by omega, by omega, by omega, by omega⟩ h

variable (mmap payload fds) in
/-- A region whose sum wraps is mapped, and all regions before it were. -/
def SumWraps : Prop :=
  Sized payload fds ∧ ∃ index < le32 payload 0,
    (fieldsAt payload index).Overflows mmap.pageSize ∧
      (mmapCall mmap payload fds index).isSome = true ∧
      ∀ earlier < index, ¬ (fieldsAt payload earlier).Overflows mmap.pageSize ∧
        (mmapCall mmap payload fds earlier).isSome = true

structure Describes (payload : Bytes) (table : MemTable) : Prop where
  count : table.regions.length = le32 payload 0
  bounds : 1 ≤ le32 payload 0 ∧ le32 payload 0 ≤ 32
  gpa : table.regions.map (·.gpa) =
    (List.range (le32 payload 0)).map fun index => (fieldsAt payload index).gpa
  size : table.regions.map (·.size) =
    (List.range (le32 payload 0)).map fun index => (fieldsAt payload index).size
  uva : table.regions.map (·.uva) =
    (List.range (le32 payload 0)).map fun index => (fieldsAt payload index).uva
  mapped : ∀ region ∈ table.regions, region.mapped.len = region.size.toNat

variable (mmap payload fds) in
structure Unwound (mapped : List MemRegion) : Prop where
  raws : ∃ count, mapped.map (fun region => some region.raw) =
      (List.range count).map (mmapCall mmap payload fds) ∧
    ((¬ Sized payload fds ∧ count = 0) ∨
      (count < le32 payload 0 ∧ mmapCall mmap payload fds count = none))
  effects : ∀ (device : NetDevice) (message : Message) (runtime : Runtime),
    message.payload = payload → message.fds = fds → runtime.mmap = mmap →
      ∃ answer, device.setMemTableLocked message runtime = some answer ∧
        answer.effects = mapped.map (.unmap ·.raw)

theorem Mapped.eq_map (hmmap : MapsExactly mmap) (h : Mapped mmap payload fds 0 regions)
    {α : Type} (view : MemRegion → α) (expected : Nat → α)
    (hview : ∀ index raw, mmapCall mmap payload fds index = some raw →
      view (regionOf mmap payload index raw) = expected index) :
    regions.map view = (List.range regions.length).map expected := by
  refine List.ext_getElem (by simp) fun index hleft hright => ?_
  rw [List.length_map] at hleft
  have hregion := h index _ (List.getElem?_eq_getElem hleft)
  rw [Nat.zero_add] at hregion
  obtain ⟨-, raw, hc, hraw⟩ := (mapRegion_eq_ok_iff hmmap).mp hregion
  simp only [List.getElem_map, List.getElem_range, hraw, hview index raw hc]

theorem Mapped.describes (hmmap : MapsExactly mmap) (h : Mapped mmap payload fds 0 regions)
    (hcount : regions.length = le32 payload 0)
    (hbounds : 1 ≤ le32 payload 0 ∧ le32 payload 0 ≤ 32) : Describes payload ⟨regions⟩ := by
  refine ⟨hcount, hbounds, ?_, ?_, ?_, ?_⟩
  · rw [← hcount]
    exact h.eq_map hmmap _ _ fun _ _ _ => rfl
  · rw [← hcount]
    exact h.eq_map hmmap _ _ fun _ _ _ => rfl
  · rw [← hcount]
    exact h.eq_map hmmap _ _ fun _ _ _ => rfl
  intro region hregion
  obtain ⟨index, hidx⟩ := List.mem_iff_getElem?.mp hregion
  obtain ⟨-, raw, -, rfl⟩ := (mapRegion_eq_ok_iff hmmap).mp (h index region hidx)
  rfl

theorem Unwound.of_error {reason : MemError} {mapped : List MemRegion}
    (hparse : parseMemTable mmap payload fds = .error (reason, mapped))
    (hraws : ∃ count, mapped.map (fun region => some region.raw) =
        (List.range count).map (mmapCall mmap payload fds) ∧
      ((¬ Sized payload fds ∧ count = 0) ∨
        (count < le32 payload 0 ∧ mmapCall mmap payload fds count = none))) :
    Unwound mmap payload fds mapped := by
  refine ⟨hraws, ?_⟩
  rintro device message runtime rfl rfl rfl
  refine ⟨{ device.refuse message (.memTable reason) with
    effects := NetDevice.unmapAll mapped }, ?_, rfl⟩
  rw [NetDevice.setMemTableLocked, hparse]

/-- Where the loop stops is where the first region fails or wraps. -/
theorem sumWraps_iff (hmmap : MapsExactly mmap) (hsized : Sized payload fds) :
    mapRegions mmap payload fds (le32 payload 0) 0 [] = .panic ↔
      SumWraps mmap payload fds := by
  obtain ⟨regions, hregions, hcases⟩ :=
    @mapRegions_cases mmap payload fds (le32 payload 0) 0 []
  have hb (index : Nat) (hidx : index < regions.length) :
      ¬ (fieldsAt payload index).Overflows mmap.pageSize ∧
        (mmapCall mmap payload fds index).isSome = true := by
    have hregion := hregions index _ (List.getElem?_eq_getElem hidx)
    rw [Nat.zero_add] at hregion
    obtain ⟨hfits, raw, hc, -⟩ := (mapRegion_eq_ok_iff hmmap).mp hregion
    exact ⟨hfits, by rw [hc]; rfl⟩
  rw [Nat.zero_add] at hcases
  rcases hcases with ⟨hlen, hres⟩ | ⟨hlen, reason, hfailed, hres⟩ | ⟨hlen, hpanic, hres⟩
  · rw [hres]
    refine ⟨fun h => (nomatch h), ?_⟩
    rintro ⟨-, index, hidx, hover, -⟩
    exact absurd hover (hb index (by omega)).1
  · rw [hres]
    refine ⟨fun h => (nomatch h), ?_⟩
    have hnone := mmapCall_of_error hmmap hfailed
    rintro ⟨-, index, hidx, hover, hc, hearlier⟩
    rcases Nat.lt_trichotomy index regions.length with hlt | rfl | hgt
    · exact absurd hover (hb index hlt).1
    · simp [hnone] at hc
    have hsome := (hearlier regions.length hgt).2
    simp [hnone] at hsome
  · obtain ⟨hover, hc⟩ := (mapRegion_eq_panic_iff hmmap).mp hpanic
    exact iff_of_true hres ⟨hsized, regions.length, hlen, hover, hc, hb⟩

/-- The call panics exactly if a sum wraps.  What it returns otherwise is the
table of the message, or nothing stays mapped. -/
theorem memTable_parsed_iff (hmmap : MapsExactly mmap) (payload : Bytes) (fds : List Nat) :
    (parseMemTable mmap payload fds ≠ .panic ↔ ¬ SumWraps mmap payload fds) ∧
      (∀ table, parseMemTable mmap payload fds = .ok table → Describes payload table) ∧
      (∀ reason mapped, parseMemTable mmap payload fds = .error (reason, mapped) →
        Unwound mmap payload fds mapped) := by
  by_cases hsized : Sized payload fds
  · have hparse := @parseMemTable_of_sized mmap payload fds hsized
    obtain ⟨regions, hregions, hcases⟩ :=
      @mapRegions_cases mmap payload fds (le32 payload 0) 0 []
    rw [List.nil_append, ← hparse] at hcases
    refine ⟨?_, fun table htable => ?_, fun reason mapped herror => ?_⟩
    · rw [← sumWraps_iff hmmap hsized, hparse]
    · rcases hcases with ⟨hlen, hres⟩ | ⟨-, _, -, hres⟩ | ⟨-, -, hres⟩
      · cases hres.symm.trans htable
        exact hregions.describes hmmap hlen hsized.count
      · cases hres.symm.trans htable
      · cases hres.symm.trans htable
    · rcases hcases with ⟨-, hres⟩ | ⟨hlen, found, hfailed, hres⟩ | ⟨-, -, hres⟩
      · cases hres.symm.trans herror
      · cases hres.symm.trans herror
        rw [Nat.zero_add] at hfailed
        refine .of_error herror ⟨regions.length, ?_, .inr ⟨hlen, ?_⟩⟩
        · exact hregions.eq_map hmmap _ _ fun _ _ hc => hc.symm
        · exact mmapCall_of_error hmmap hfailed
      · cases hres.symm.trans herror
  · obtain ⟨found, hparse⟩ := @parseMemTable_of_not_sized mmap payload fds hsized
    refine ⟨?_, fun table htable => ?_, fun reason mapped herror => ?_⟩
    · rw [hparse]
      exact iff_of_true (fun h => nomatch h) fun hwraps => hsized hwraps.1
    · cases hparse.symm.trans htable
    · cases hparse.symm.trans herror
      exact .of_error herror ⟨0, rfl, .inl ⟨hsized, rfl⟩⟩

end Parse

/-! ## Two messages -/

def generousMmap : Mmap := .mk 4096 fun _ _ length =>
  if 0 < length.toNat ∧ length.toNat < 9223372036854775808 then some ⟨65536, length.toNat⟩
  else none

theorem mapsExactly_generousMmap : MapsExactly generousMmap := by
  intro fd offset length raw h
  dsimp only [generousMmap] at h
  split at h
  · rename_i hlen
    cases h
    exact ⟨rfl, hlen⟩
  · cases h

def oneRegion (size : Nat) : Bytes :=
  putLE32 1 ++ putLE32 0 ++ putLE64 4096 ++ putLE64 size ++ putLE64 8192 ++ putLE64 2

theorem memTable_parsed_iff_oneRegion :
    Describes (oneRegion 4096) ⟨[⟨4096, 4096, 8192, ⟨65538, 4096⟩, ⟨65536, 4098⟩⟩]⟩ :=
  (memTable_parsed_iff mapsExactly_generousMmap (oneRegion 4096) [3]).2.1 _ (by decide)

/-- A size of 2^64 - 1 and a padding of two add up to one. -/
theorem wrapped_size_panics :
    MapsExactly generousMmap ∧
      parseMemTable generousMmap (oneRegion 18446744073709551615) [3] = .panic :=
  ⟨mapsExactly_generousMmap, by decide⟩

end GvSwitch.VhostUser
