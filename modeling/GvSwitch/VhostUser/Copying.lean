import GvSwitch.Foundation.Stores
import GvSwitch.VhostUser.Conservation

/-!
# Copying a frame into segments

The two inner loops of `WriteFrame` store one stream of bytes, the header and
then the frame, at the addresses of the writable segments in order.  What was
copied is counted once for all of the variables.
-/

namespace GvSwitch.VhostUser

open Foundation Filling

/-! ## Slices as lists of addresses -/

def Slice.addresses (slice : Slice) : List Nat := List.range' slice.base slice.len

def addresses (segments : List Slice) : List Nat := segments.flatMap Slice.addresses

variable (host : Host) (written : UInt32) (slice : Slice)

@[simp] theorem Slice.length_addresses : slice.addresses.length = slice.len :=
  List.length_range'

@[simp] theorem addresses_nil : addresses [] = [] := rfl

@[simp] theorem addresses_cons (segment : Slice) (rest : List Slice) :
    addresses (segment :: rest) = segment.addresses ++ addresses rest := rfl

theorem addresses_append (first second : List Slice) :
    addresses (first ++ second) = addresses first ++ addresses second :=
  List.flatMap_append

theorem Slice.mem_addresses {slice : Slice} {address : Nat} :
    address ∈ slice.addresses ↔ slice.base ≤ address ∧ address < slice.base + slice.len := by
  simp [addresses]

theorem Slice.addresses_split {count : Nat} (h : count ≤ slice.len) :
    slice.addresses =
      List.range' slice.base count ++ List.range' (slice.base + count) (slice.len - count) := by
  rw [addresses, List.range'_append_1, Nat.add_sub_cancel' h]

theorem readAt_eq_map : readAt host slice 0 slice.len = slice.addresses.map host := by
  rw [Slice.addresses, List.range'_eq_map_range, List.map_map]
  rfl

theorem store_range' (start : Nat) {count : Nat} {bytes : Bytes}
    (hroom : bytes.length ≤ count) (address : Nat) :
    store host (List.range' start count) bytes address =
      if start ≤ address ∧ address < start + bytes.length then byteAt bytes (address - start)
      else host address := by
  induction bytes generalizing host start count with
  | nil =>
    rw [store_nil_right, if_neg]
    simp only [List.length_nil]
    omega
  | cons byte bytes ih =>
    obtain ⟨count, rfl⟩ : ∃ rest, count = rest + 1 :=
      ⟨count - 1, by rw [List.length_cons] at hroom; omega⟩
    rw [List.length_cons] at hroom ⊢
    rw [List.range'_succ, store, ih _ _ (by omega)]
    rcases Nat.lt_trichotomy address start with hlt | rfl | hgt
    · rw [if_neg (by omega), if_neg (by omega), Function.update_of_ne (by omega)]
    · rw [if_neg (by omega), if_pos (by omega), Function.update_self, Nat.sub_self]
      rfl
    rw [Function.update_of_ne (by omega)]
    have hnext : address - start = address - (start + 1) + 1 := by omega
    by_cases hinside : address < start + (bytes.length + 1)
    · rw [if_pos (by omega), if_pos (by omega), hnext]
      rfl
    · rw [if_neg (by omega), if_neg (by omega)]

theorem writeAt_eq_store (offset : Nat) {count : Nat} {bytes : Bytes}
    (hroom : bytes.length ≤ count) :
    writeAt host slice offset bytes =
      store host (List.range' (slice.base + offset) count) bytes := by
  funext address
  rw [store_range' host _ hroom]
  rfl

/-! ## The stream -/

namespace Filling

def stream (filling : Filling) : Bytes :=
  List.replicate filling.hdrLeft 0 ++ filling.src

def Whole (filling : Filling) : Prop := filling.remaining = filling.stream.length

def copied (filling : Filling) (count : Nat) : Filling :=
  { filling with
    remaining := filling.remaining - count
    src := filling.src.drop (count - filling.hdrLeft)
    hdrLeft := filling.hdrLeft - count }

def headerIn (filling : Filling) (segment : Option Slice) : Option Slice :=
  if filling.hdrLeft > 0 then filling.hdrSeg.or segment else filling.hdrSeg

def filled (filling : Filling) (count : Nat) (segment : Option Slice) : Filling :=
  { filling.copied count with hdrSeg := filling.headerIn segment }

variable {filling : Filling}

theorem length_stream (filling : Filling) :
    filling.stream.length = filling.hdrLeft + filling.src.length := by
  simp [stream]

@[simp] theorem copied_zero (filling : Filling) : filling.copied 0 = filling := by
  simp [copied]

theorem copied_copied (filling : Filling) (first second : Nat) :
    (filling.copied first).copied second = filling.copied (first + second) := by
  simp only [copied, List.drop_drop, Filling.mk.injEq, true_and]
  refine ⟨?_, ?_, ?_⟩
  · omega
  · congr 1
    omega
  · omega

theorem stream_copied (filling : Filling) (count : Nat) :
    (filling.copied count).stream = filling.stream.drop count := by
  simp [stream, copied, List.drop_append]

theorem Whole.copied (h : filling.Whole) (count : Nat) : (filling.copied count).Whole := by
  unfold Whole at h ⊢
  rw [stream_copied, List.length_drop, ← h]
  rfl

theorem Whole.copied_of_le (h : filling.Whole) {count : Nat}
    (hend : filling.stream.length ≤ count) (more : Nat) :
    filling.copied (count + more) = filling.copied count := by
  have hrem : filling.remaining ≤ count := by
    rw [h]
    exact hend
  rw [length_stream] at hend
  simp only [Filling.copied, Filling.mk.injEq, true_and]
  refine ⟨by omega, ?_, by omega⟩
  rw [List.drop_eq_nil_of_le (by omega), List.drop_eq_nil_of_le (by omega)]

theorem Whole.filled (h : filling.Whole) (count : Nat) (segment : Option Slice) :
    (filling.filled count segment).Whole :=
  h.copied count

theorem stream_filled (filling : Filling) (count : Nat) (segment : Option Slice) :
    (filling.filled count segment).stream = filling.stream.drop count :=
  filling.stream_copied count

@[simp] theorem filled_zero (filling : Filling) : filling.filled 0 none = filling := by
  simp [filled, headerIn]

theorem filled_filled (filling : Filling) (first second : Nat) {segment : Slice}
    (other : Option Slice) :
    (filling.filled first (some segment)).filled second other =
      filling.filled (first + second) (some segment) := by
  have hhdr : (filling.filled first (some segment)).headerIn other =
      filling.headerIn (some segment) := by
    simp only [filled, copied, headerIn]
    by_cases hleft : filling.hdrLeft > 0
    · cases filling.hdrSeg <;> simp [hleft]
    · simp [hleft]
      omega
  rw [filled, hhdr]
  exact congrArg (fun next : Filling => { next with hdrSeg := filling.headerIn (some segment) })
    (filling.copied_copied first second)

theorem Whole.filled_of_le (h : filling.Whole) {count : Nat}
    (hend : filling.stream.length ≤ count) (more : Nat) (segment : Option Slice) :
    filling.filled (count + more) segment = filling.filled count segment := by
  rw [Filling.filled, h.copied_of_le hend]
  rfl

theorem Whole.filled_of_done (h : filling.Whole) (hd : filling.stream.length = 0)
    (count : Nat) (segment : Option Slice) : filling.filled count segment = filling := by
  have hhdr : filling.headerIn segment = filling.hdrSeg := by
    rw [length_stream] at hd
    rw [headerIn, if_neg (by omega)]
  have hkept := h.copied_of_le (Nat.le_of_eq hd) count
  rw [Nat.zero_add, copied_zero] at hkept
  rw [Filling.filled, hhdr, hkept]

end Filling

/-! ## The loops -/

theorem writeAt_take_eq_store (segment : Slice) {source stream : Bytes} {count : Nat}
    (hcount : count ≤ source.length) (hfront : source <+: stream) :
    writeAt host segment 0 (source.take count) =
      store host (List.range' segment.base count) stream := by
  obtain ⟨rest, rfl⟩ := hfront
  rw [writeAt_eq_store host segment 0 (List.length_take_le count source), Nat.add_zero,
    ← store_take host _ (source ++ rest), List.length_range',
    List.take_append_of_le_length hcount]

/-- One turn copies from the header or from the frame, and less than all of a
segment only where one of them ends. -/
theorem fillSegment_succ {fuel : Nat} {host : Host} {filling : Filling} {written : UInt32}
    {segment : Slice} (hwhole : filling.Whole) (hroom : 0 < segment.len)
    (hleft : 0 < filling.stream.length) :
    ∃ count, 0 < count ∧ count ≤ segment.len ∧ count ≤ filling.stream.length ∧
      fillSegment (fuel + 1) host filling written segment =
        fillSegment fuel (store host (List.range' segment.base count) filling.stream)
          (filling.filled count (some segment)) (written + UInt32.ofNat count)
          ⟨segment.base + count, segment.len - count⟩ := by
  have hrem : filling.remaining > 0 := by
    rw [hwhole]
    exact hleft
  have hlen := filling.length_stream
  by_cases hhdr : filling.hdrLeft > 0
  · refine ⟨min segment.len filling.hdrLeft, by omega, by omega, by omega, ?_⟩
    have hsrc : (List.replicate filling.hdrLeft (0 : UInt8)).length = filling.hdrLeft :=
      List.length_replicate
    rw [fillSegment, if_pos ⟨hroom, hrem⟩]
    dsimp only
    rw [if_pos hhdr, if_pos hhdr, hsrc,
      writeAt_take_eq_store host segment (by rw [hsrc]; omega)
        (List.prefix_append _ filling.src)]
    congr 1
    simp only [filled, copied, headerIn, if_pos hhdr, mk.injEq, true_and, and_true]
    rw [Nat.sub_eq_zero_of_le (Nat.min_le_right _ _), List.drop_zero]
  · have hzero : filling.hdrLeft = 0 := Nat.eq_zero_of_not_pos hhdr
    have hstream : filling.stream = filling.src := by
      rw [Filling.stream, hzero]
      rfl
    refine ⟨min segment.len filling.src.length, by omega, by omega, by omega, ?_⟩
    rw [fillSegment, if_pos ⟨hroom, hrem⟩]
    dsimp only
    rw [if_neg hhdr, if_neg hhdr,
      writeAt_take_eq_store host segment (Nat.min_le_right _ _) (List.prefix_refl _), hstream]
    congr 1
    simp [filled, copied, headerIn, hzero]

theorem fillSegment_idle (fuel : Nat) (host : Host) {filling : Filling} (written : UInt32)
    {segment : Slice} (hwhole : filling.Whole)
    (hidle : segment.len = 0 ∨ filling.stream.length = 0) :
    fillSegment fuel host filling written segment = (host, filling, written) := by
  cases fuel with
  | zero => rfl
  | succ fuel =>
    rw [← hwhole] at hidle
    rw [fillSegment, if_neg (by omega)]

theorem fillSegment_eq {fuel : Nat} {filling : Filling} {segment : Slice}
    (hwhole : filling.Whole) (hpos : 0 < segment.len) (hfuel : segment.len ≤ fuel) :
    fillSegment fuel host filling written segment =
      (store host segment.addresses filling.stream,
        filling.filled segment.len (some segment),
        written + UInt32.ofNat (min segment.len filling.stream.length)) := by
  -- Each turn copies something, so that the length is enough fuel.
  induction fuel generalizing host filling written segment with
  | zero => exact absurd hpos (Nat.not_lt.mpr hfuel)
  | succ fuel ih =>
    by_cases hd : filling.stream.length = 0
    · rw [fillSegment_idle _ host written hwhole (.inr hd), hwhole.filled_of_done hd,
        hd, Nat.min_zero, List.eq_nil_of_length_eq_zero hd, store_nil_right]
      simp
    obtain ⟨count, hcount, hseg, hstream, hturn⟩ := @fillSegment_succ fuel host filling
      written segment hwhole hpos (Nat.pos_of_ne_zero hd)
    rw [hturn, segment.addresses_split hseg, store_append, List.length_range',
      ← filling.stream_filled count (some segment)]
    by_cases hfull : segment.len - count = 0
    · have hall : count = segment.len := by omega
      rw [fillSegment_idle _ _ _ (hwhole.filled _ _) (.inl hfull), hfull, ← hall,
        Nat.min_eq_left hstream]
      rfl
    · have hpos' := Nat.pos_of_ne_zero hfull
      have hsum : count + (segment.len - count) = segment.len := by omega
      rw [ih _ _ (hwhole.filled count (some segment)) hpos' (by dsimp only; omega),
        filling.filled_filled, hsum, UInt32.add_assoc, ← UInt32.ofNat_add,
        filling.stream_filled, List.length_drop]
      congr 4
      dsimp only
      omega

/-- The loops store the stream at the addresses of the segments. -/
theorem fillChain_eq {filling : Filling} {segments : List Slice} (hwhole : filling.Whole)
    (hpos : ∀ segment ∈ segments, 0 < segment.len) :
    fillChain host filling written segments =
      (store host (addresses segments) filling.stream,
        filling.filled (addresses segments).length segments.head?,
        written + UInt32.ofNat (min (addresses segments).length filling.stream.length)) := by
  induction segments generalizing host filling written with
  | nil => simp [fillChain]
  | cons segment rest ih =>
    have hseg := hpos segment (.head _)
    rw [fillChain, fillSegment_eq host written hwhole hseg (Nat.le_refl _)]
    dsimp only
    rw [addresses_cons, store_append, Slice.length_addresses,
      List.length_append, Slice.length_addresses, List.head?_cons]
    split
    · rename_i hthrough
      have hend : filling.stream.length ≤ segment.len := by
        rw [← hwhole]
        exact Nat.le_of_sub_eq_zero hthrough
      rw [List.drop_eq_nil_of_le hend, store_nil_right, hwhole.filled_of_le hend,
        Nat.min_eq_right hend, Nat.min_eq_right (by omega)]
    · rw [ih _ _ (hwhole.filled _ _)
        fun other ho => hpos other (List.mem_cons_of_mem segment ho),
        filling.filled_filled, filling.stream_filled, UInt32.add_assoc, ← UInt32.ofNat_add,
        List.length_drop]
      congr 4
      omega

end GvSwitch.VhostUser
