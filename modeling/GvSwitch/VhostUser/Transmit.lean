import GvSwitch.VhostUser.Chains
import GvSwitch.VhostUser.Receive
import GvSwitch.VhostUser.Safety

/-!
# What a drained ring yields

`drainTXLocked` from beginning to end, while the guest keeps still.  Every entry
of the available ring is taken and returned, and the chains that are well formed
and long enough are the frames, in the order of the ring.
-/

namespace GvSwitch.VhostUser

open Foundation Vring Outcome

/-! ## Frames in segments -/

def gathered (host : Host) (segments : List Slice) : Bytes :=
  segments.flatMap fun segment => readAt host segment 0 segment.len

theorem length_readAt (host : Host) (slice : Slice) (offset count : Nat) :
    (readAt host slice offset count).length = count := by
  simp [readAt]

theorem drop_readAt (host : Host) (slice : Slice) (skip : Nat) :
    (readAt host slice 0 slice.len).drop skip = readAt host slice skip (slice.len - skip) := by
  refine List.ext_getElem (by simp [readAt]) fun index hleft hright => ?_
  simp [readAt, Nat.add_assoc]

theorem length_gathered (host : Host) (segments : List Slice) :
    (gathered host segments).length = (segments.map (·.len)).sum := by
  simp only [gathered, List.length_flatMap, length_readAt]

/-- However the header is split over the segments, it is left out. -/
theorem gatherFrom_eq (host : Host) (skip : Nat) (segments : List Slice) :
    gatherFrom host skip segments = (gathered host segments).drop skip := by
  induction segments generalizing skip with
  | nil => simp [gatherFrom, gathered]
  | cons segment rest ih =>
    have hcons : gathered host (segment :: rest) =
        readAt host segment 0 segment.len ++ gathered host rest := rfl
    rw [gatherFrom, hcons, List.drop_append, length_readAt]
    split
    · rename_i hwhole
      have hnone : (readAt host segment 0 segment.len).drop skip = [] :=
        List.drop_eq_nil_of_le (by rw [length_readAt]; exact hwhole)
      rw [ih, hnone, List.nil_append]
    · have hrest : skip - segment.len = 0 := by omega
      rw [ih, hrest, drop_readAt]

theorem gatherTX_eq_some_iff {host : Host} {chain : Chain} {frame : Bytes} :
    gatherTX host chain = some frame ↔
      virtioNetHdrSize < (gathered host chain.readable).length ∧
        (gathered host chain.readable).length ≤ virtioNetHdrSize + maxFrameSize ∧
        frame = (gathered host chain.readable).drop virtioNetHdrSize := by
  dsimp only [gatherTX]
  rw [← length_gathered host, gatherFrom_eq]
  split
  · refine ⟨fun h => (nomatch h), fun ⟨hlong, hshort, _⟩ => ?_⟩
    omega
  · rw [Option.some.injEq]
    exact ⟨fun h => ⟨by omega, by omega, h.symm⟩, fun h => h.2.2.symm⟩

theorem gathered_filterMap (host : Host) (mem : MemTable) (descriptors : List Descriptor) :
    gathered host ((descriptors.filter (·.isReadable)).filterMap (·.segment? mem)) =
      readableBytes host mem descriptors := by
  unfold readableBytes
  induction descriptors.filter (·.isReadable) with
  | nil => rfl
  | cons descriptor rest ih =>
    rw [List.filterMap_cons, List.flatMap_cons, ← ih]
    cases descriptor.segment? mem with
    | none | some segment => rfl

namespace Dataplane

/-! ## The whole call -/

def drainTurns : Nat → Dataplane → Outcome Empty Dataplane
  | 0, plane => .ok plane
  | fuel + 1, plane =>
    match plane.call with
    | .draining frames count => do
        let next ← plane.drainTurn frames count
        drainTurns fuel next
    | _ => .ok plane

/-- `drainTXLocked` while the guest does not write.  Each turn but the last takes
an entry, of which at most 65535 are available. -/
def drainTXLocked (plane : Dataplane) : Outcome Empty Dataplane :=
  drainTurns 65536 { plane with call := .draining [] 0 }

section Offer

variable (plane : Dataplane)

def heads : List UInt16 := (List.range plane.available).filterMap plane.headAt

/-- The frame a chain holds: its readable bytes behind the header. -/
def Holds (head : UInt16) (frame : Bytes) : Prop :=
  ∃ descriptors, Vring.Linked (plane.ring.table plane.host) head descriptors ∧
    descriptors.length ≤ maxChainLen ∧ Vring.WellFormed plane.mem descriptors ∧
    virtioNetHdrSize < (Vring.readableBytes plane.host plane.mem descriptors).length ∧
    (Vring.readableBytes plane.host plane.mem descriptors).length ≤
      virtioNetHdrSize + maxFrameSize ∧
    frame = (Vring.readableBytes plane.host plane.mem descriptors).drop virtioNetHdrSize

/-- A ring that is set up, exact translations, and a used ring apart from the
other rings and from the buffers. -/
structure Transmits : Prop where
  num : plane.ring.num ≠ 0
  fitted : Fitted plane.ring
  exact : plane.ring.Translates plane.host plane.mem
  rings : ∀ used slice, plane.ring.used = some used →
    plane.ring.desc = some slice ∨ plane.ring.avail = some slice → Apart used slice
  buffers : ∀ used head chain, plane.ring.used = some used → head ∈ plane.heads →
    plane.ring.resolveChain plane.host plane.mem head = .ok chain →
      ∀ segment ∈ chain.readable, Apart used segment

/-- All entries were taken and returned, and the frames are those they hold. -/
structure Drained (after : Dataplane) : Prop where
  lastAvail : (plane.ring.availIdx plane.host : Outcome Empty _) = .ok after.ring.lastAvail
  taken : plane.heads.length =
    (after.ring.lastAvail - plane.ring.lastAvail).toNat
  entries : ∀ offset head, plane.heads[offset]? = some head →
    (plane.ring.availEntry plane.host (plane.ring.lastAvail + UInt16.ofNat offset) :
      Outcome Empty _) = .ok head
  frames : ∃ frameOf : UInt16 → Option Bytes,
    (∀ head frame, frameOf head = some frame ↔ plane.Holds head frame) ∧
      after.call = .returned (.frames (plane.heads.filterMap frameOf))
  usedIdx : after.ring.usedIdx = plane.ring.usedIdx + UInt16.ofNat plane.heads.length
  published : after.published = plane.published ++ plane.heads.map (UsedChain.mk · 0)
  slots : plane.ring.num.toNat ∣ 65536 → ∀ slice, plane.ring.used = some slice →
    Shelved after.host slice plane.ring.num.toNat plane.ring.usedIdx.toNat
      (plane.heads.map (UsedChain.mk · 0))

def frameOf (head : UInt16) : Option Bytes :=
  match plane.ring.resolveChain plane.host plane.mem head with
  | .ok chain => gatherTX plane.host chain
  | _ => none

end Offer

section Drain

variable {start plane : Dataplane} {heads : List UInt16}

variable {head : UInt16} {count : Nat}

theorem frameOf_eq_some_iff (h : start.Transmits) {frame : Bytes} :
    start.frameOf head = some frame ↔ start.Holds head frame := by
  have hsegments (descriptors : List Descriptor) :
      gathered start.host ((⟨[], []⟩ : Chain).addAll start.mem descriptors).readable =
        readableBytes start.host start.mem descriptors :=
    gathered_filterMap start.host start.mem descriptors
  unfold frameOf
  constructor
  · intro hfr
    split at hfr
    · rename_i chain hch
      obtain ⟨descriptors, hlinked, hlen, hw, rfl⟩ :=
        (resolveChain_eq_ok_iff h.exact).mp hch
      rw [gatherTX_eq_some_iff, hsegments] at hfr
      exact ⟨descriptors, hlinked, hlen, hw, hfr⟩
    · cases hfr
  · rintro ⟨descriptors, hlinked, hlen, hw, hfr⟩
    rw [(resolveChain_eq_ok_iff h.exact).mpr ⟨descriptors, hlinked, hlen, hw, rfl⟩]
    rw [gatherTX_eq_some_iff, hsegments]
    exact hfr

theorem exists_headAt (h : start.Transmits) (offset : Nat) :
    ∃ head, start.headAt offset = some head ∧
      (start.ring.availEntry start.host (start.ring.lastAvail + UInt16.ofNat offset) :
        Outcome Empty _) = .ok head := by
  obtain ⟨head, he⟩ := @Fitted.availEntry Empty _ h.fitted h.num start.host
    (start.ring.lastAvail + UInt16.ofNat offset)
  exact ⟨head, by rw [headAt, he]; rfl, he⟩

def headsUpTo (plane : Dataplane) (count : Nat) : List UInt16 :=
  (List.range count).filterMap plane.headAt

theorem headsUpTo_succ (h : start.headAt count = some head) :
    start.headsUpTo (count + 1) = start.headsUpTo count ++ [head] := by
  simp [headsUpTo, List.range_succ, h]

theorem length_headsUpTo (h : start.Transmits) (count : Nat) :
    (start.headsUpTo count).length = count := by
  induction count with
  | zero => rfl
  | succ count ih =>
    obtain ⟨head, hhead, -⟩ := exists_headAt h count
    rw [headsUpTo_succ hhead, List.length_append, ih]
    rfl

theorem getElem?_headsUpTo (h : start.Transmits) {offset : Nat} (hlt : offset < count) :
    (start.headsUpTo count)[offset]? = start.headAt offset := by
  induction count with
  | zero => omega
  | succ count ih =>
    obtain ⟨head, hhead, -⟩ := exists_headAt h count
    have hlen := length_headsUpTo h count
    rw [headsUpTo_succ hhead]
    rcases Nat.lt_succ_iff_lt_or_eq.mp hlt with hearlier | rfl
    · rw [List.getElem?_append_left (by omega), ih hearlier]
    · rw [List.getElem?_append_right (by omega), hlen, Nat.sub_self, hhead]
      rfl

structure Draining (start : Dataplane) (count : Nat) (plane : Dataplane) : Prop where
  few : count ≤ start.available
  call : plane.call =
    .draining ((start.headsUpTo count).filterMap start.frameOf) count
  ring : plane.ring = { start.ring with
    lastAvail := start.ring.lastAvail + UInt16.ofNat count
    usedIdx := start.ring.usedIdx + UInt16.ofNat count }
  mem : plane.mem = start.mem
  others : ∀ used slice, start.ring.used = some used → Apart used slice →
    SameBytes slice start.host plane.host
  published : plane.published =
    start.published ++ (start.headsUpTo count).map (UsedChain.mk · 0)
  slots : start.ring.num.toNat ∣ 65536 → ∀ slice, start.ring.used = some slice →
    Shelved plane.host slice start.ring.num.toNat start.ring.usedIdx.toNat
      ((start.headsUpTo count).map (UsedChain.mk · 0))

theorem Draining.fitted (h : Draining start count plane) (hready : start.Transmits) :
    Fitted plane.ring := by
  rw [h.ring]
  exact ⟨hready.fitted.desc, hready.fitted.avail, hready.fitted.used⟩

theorem Transmits.exists_used (h : start.Transmits) :
    ∃ used, start.ring.used = some used ∧ 4 ≤ used.len := by
  obtain ⟨used, hu, -⟩ := @within_of_le Empty start.ring.used 0 1 (by decide)
    (by rw [h.fitted.used]; omega)
  have hlen := h.fitted.used
  rw [hu] at hlen
  simp only [sliceLen, Option.map_some, Option.getD_some] at hlen
  exact ⟨used, hu, by omega⟩

section Ready

variable (h : Draining start count plane) (hready : start.Transmits)

include h hready

theorem Draining.sameBytes {slice : Slice}
    (hsl : start.ring.desc = some slice ∨ start.ring.avail = some slice) :
    SameBytes slice start.host plane.host := by
  obtain ⟨used, hu, -⟩ := hready.exists_used
  exact h.others used slice hu (hready.rings used slice hu hsl)

theorem Draining.availIdx :
    (plane.ring.availIdx plane.host : Outcome Empty _) = start.ring.availIdx start.host := by
  rw [h.ring]
  refine availIdx_congr fun avail havail address hlow hhigh => ?_
  have hlen := hready.fitted.avail
  rw [havail] at hlen
  simp only [sliceLen, Option.map_some, Option.getD_some] at hlen
  dsimp only at hhigh
  exact h.sameBytes hready (.inr havail) address hlow (by omega)

theorem Draining.availEntry (index : UInt16) :
    (plane.ring.availEntry plane.host index : Outcome Empty _) =
      start.ring.availEntry start.host index :=
  availEntry_congr (by rw [h.ring]) (by rw [h.ring])
    (fun slice hsl => h.sameBytes hready (.inr hsl)) index

theorem Draining.resolveChain {ring : Vring} (hnum : ring.num = start.ring.num)
    (hdesc : ring.desc = start.ring.desc) (head : UInt16) :
    ring.resolveChain plane.host plane.mem head =
      start.ring.resolveChain start.host start.mem head := by
  rw [h.mem]
  exact walkChain_congr hnum hdesc (fun slice hsl => h.sameBytes hready (.inl hsl)) _ _ _ _

/-- The chain of an entry yields the frame it held at the start. -/
theorem Draining.frame (hhead : head ∈ start.heads) (ring : Vring)
    (hnum : ring.num = start.ring.num) (hdesc : ring.desc = start.ring.desc) :
    ∃ chain, (noticed (ring.resolveChain plane.host plane.mem head) : Outcome Empty _) =
        .ok chain ∧
      chain.bind (gatherTX plane.host) = start.frameOf head := by
  obtain ⟨used, hu, -⟩ := hready.exists_used
  rw [h.resolveChain hready hnum hdesc]
  unfold frameOf
  cases hch : start.ring.resolveChain start.host start.mem head with
  | panic =>
    have hsafe (index : UInt16) := (hready.fitted.inRange hready.num).descAt start.host index
    exact absurd hch (walkChain_ne_panic hsafe hready.exact _ _ _)
  | error reason => exact ⟨none, rfl, rfl⟩
  | ok chain =>
    refine ⟨some chain, rfl, ?_⟩
    have hs : gathered plane.host chain.readable = gathered start.host chain.readable := by
      refine List.flatMap_congr fun segment hseg => ?_
      have hapart := hready.buffers used head chain hu hhead hch segment hseg
      exact (h.others used segment hu hapart).readAt (by omega)
    refine Option.ext fun frame => ?_
    exact (gatherTX_eq_some_iff.trans (by rw [hs])).trans gatherTX_eq_some_iff.symm

def nextRing (start plane : Dataplane) (count : Nat) : Vring :=
  { plane.ring with lastAvail := start.ring.lastAvail + UInt16.ofNat (count + 1) }

theorem Draining.popAvail (hmore : count < start.available)
    (hhead : start.headAt count = some head) :
    (plane.ring.popAvail plane.host : Outcome Empty _) =
      .ok (some (head, nextRing start plane count)) := by
  obtain ⟨index, hidx⟩ := @Fitted.availIdx Empty _ hready.fitted start.host
  have hcount : start.available = (index - start.ring.lastAvail).toNat :=
    available_of_ok hidx
  have hlast : plane.ring.lastAvail = start.ring.lastAvail + UInt16.ofNat count := by
    rw [h.ring]
  have he : (plane.ring.availEntry plane.host plane.ring.lastAvail : Outcome Empty _) =
      .ok head := by
    rw [h.availEntry hready, hlast]
    exact value?_eq_some hhead
  have hne : plane.ring.lastAvail ≠ index := by
    intro heq
    rw [← heq, hlast, UInt16.add_comm, UInt16.add_sub_cancel, UInt16.toNat_ofNat',
      Nat.mod_eq_of_lt (Nat.lt_trans hmore start.available_lt)] at hcount
    omega
  have hnext : { plane.ring with lastAvail := plane.ring.lastAvail + 1 } =
      nextRing start plane count := by
    rw [nextRing, hlast, UInt16.ofNat_add, ← UInt16.add_assoc]
    rfl
  rw [← h.availIdx hready] at hidx
  simp only [Vring.popAvail, hidx, he, Outcome.bind_ok, if_neg hne, hnext]
  rfl

end Ready

theorem Draining.popAvail_none (h : Draining start start.available plane)
    (hready : start.Transmits) :
    (start.ring.availIdx start.host : Outcome Empty _) = .ok plane.ring.lastAvail ∧
      (plane.ring.popAvail plane.host : Outcome Empty _) = .ok none := by
  obtain ⟨index, hidx⟩ := @Fitted.availIdx Empty _ hready.fitted start.host
  have hcount : start.available = (index - start.ring.lastAvail).toNat :=
    available_of_ok hidx
  have hlast : plane.ring.lastAvail = index := by
    rw [h.ring]
    rw [hcount, UInt16.ofNat_toNat, UInt16.add_comm, UInt16.sub_add_cancel]
  rw [← hlast] at hidx
  refine ⟨hidx, ?_⟩
  rw [← h.availIdx hready] at hidx
  simp only [Vring.popAvail, hidx, Outcome.bind_ok, if_true]
  rfl

def nextPlane (start plane : Dataplane) (count : Nat) (head : UInt16)
    (result : Vring × Host) : Dataplane :=
  { plane with
    ring := result.1
    host := result.2
    call := .draining ((start.headsUpTo (count + 1)).filterMap start.frameOf) (count + 1)
    consumed := plane.consumed ++ [plane.pop head]
    published := plane.published ++ [⟨head, 0⟩] }

theorem Draining.giveBack (h : Draining start count plane) (hready : start.Transmits)
    (hmore : count < start.available) (hhead : start.headAt count = some head)
    {result : Vring × Host}
    (hgive : ((nextRing start plane count).giveBack plane.host [⟨head, 0⟩] :
      Outcome Empty _) = .ok result) :
    Draining start (count + 1) (nextPlane start plane count head result) := by
  have hheads := headsUpTo_succ hhead
  have hring := giveBack_ring hgive
  have hslices : (nextRing start plane count).used = start.ring.used := by
    rw [nextRing, h.ring]
  have hnum : (nextRing start plane count).num = start.ring.num := by
    rw [nextRing, h.ring]
  constructor
  case few => exact hmore
  case call => rfl
  case ring =>
    rw [nextPlane, hring, nextRing, h.ring, UInt16.ofNat_add count 1, ← UInt16.add_assoc,
      ← UInt16.add_assoc]
    rfl
  case mem => exact h.mem
  case others =>
    intro used slice hu hapart
    refine (h.others used slice hu hapart).trans ?_
    exact sameBytes_giveBack (hslices.trans hu) hapart (List.cons_ne_nil _ _) hgive
  case published =>
    simp only [nextPlane, h.published, hheads, List.map_append, List.map_cons, List.map_nil,
      List.append_assoc]
  case slots =>
    intro hdvd slice hsl
    have hpos : 0 < start.ring.num.toNat := Nat.pos_of_dvd_of_pos hdvd (by decide)
    have hmax : start.ring.num.toNat ≤ 65536 := Nat.le_of_dvd (by decide) hdvd
    obtain ⟨-, hpl, hkept⟩ := giveBack_spec (hslices.trans hsl)
      (by rw [hnum]; exact hmax) (by rw [hnum]; exact hpos) hgive
    have hslot (offset : Nat) : (nextRing start plane count).usedSlot offset =
        (start.ring.usedIdx.toNat + ((start.headsUpTo count).map (UsedChain.mk · 0)).length +
          offset) % start.ring.num.toNat := by
      rw [usedSlot, hnum, List.length_map, length_headsUpTo hready]
      exact slot_of_count hdvd (by rw [nextRing, h.ring]) offset
    rw [hheads, List.map_append]
    refine (h.slots hdvd slice hsl).append ?_ ?_
    · intro offset chain hch
      rw [← hslot]
      exact hpl offset chain hch
    intro position hposition
    refine hkept position fun offset hoffset => ?_
    rw [hslot]
    exact hposition offset hoffset

theorem Draining.turn (h : Draining start count plane) (hready : start.Transmits)
    (hmore : count < start.available) :
    ∃ after, plane.drainTurn ((start.headsUpTo count).filterMap start.frameOf) count =
        .ok after ∧ Draining start (count + 1) after := by
  obtain ⟨head, hhead, -⟩ := exists_headAt hready count
  have hm : head ∈ start.heads :=
    List.mem_filterMap.mpr ⟨count, List.mem_range.mpr hmore, hhead⟩
  have hnum : (nextRing start plane count).num = start.ring.num := by
    rw [nextRing, h.ring]
  obtain ⟨chain, hnoticed, hfr⟩ := h.frame hready hm (nextRing start plane count) hnum
    (by rw [nextRing, h.ring])
  have hfitted : Fitted (nextRing start plane count) := by
    have hb := h.fitted hready
    exact ⟨hb.desc, hb.avail, hb.used⟩
  obtain ⟨host, hset⟩ := @Fitted.setUsedElem Empty _ hfitted (by rw [hnum]; exact hready.num)
    plane.host 0 head 0
  obtain ⟨result, hpub⟩ := @Fitted.publishUsed Empty _ hfitted host 1
  refine ⟨nextPlane start plane count head result, ?_,
    h.giveBack hready hmore hhead (giveBack_singleton hset hpub)⟩
  simp only [drainTurn, h.popAvail hready hmore hhead, hnoticed, hset, hpub,
    bind_ok, hfr, nextPlane, headsUpTo_succ hhead, List.filterMap_append,
    List.filterMap_cons, List.filterMap_nil]
  cases start.frameOf head with
  | none | some frame => rfl

theorem exists_drainSignal (plane : Dataplane) (h : Fitted plane.ring) (count : Nat) :
    ∃ signal, plane.drainSignal count = .ok signal := by
  obtain ⟨slice, -, hsl⟩ := @within_of_le Empty plane.ring.avail 0 1 (by decide)
    (by rw [h.avail]; omega)
  unfold drainSignal notify
  split
  · split
    · exact ⟨none, rfl⟩
    exact ⟨_, by
      simp only [availNoInterrupt, atomicLoadU32, headOf, hsl, bind_ok]
      rfl⟩
  · exact ⟨none, rfl⟩

theorem Draining.last (h : Draining start start.available plane) (hready : start.Transmits) :
    ∃ after, plane.drainTurn ((start.headsUpTo start.available).filterMap start.frameOf)
        start.available = .ok after ∧ start.Drained after := by
  obtain ⟨hidx, hpop⟩ := h.popAvail_none hready
  obtain ⟨signal, hsignal⟩ := plane.exists_drainSignal (h.fitted hready) start.available
  refine ⟨_, by simp only [drainTurn, hpop, hsignal, bind_ok]; rfl, ?_⟩
  have hcount := length_headsUpTo hready start.available
  constructor
  case lastAvail => exact hidx
  case taken =>
    exact hcount.trans (available_of_ok hidx)
  case entries =>
    intro offset head hhead
    have hlt : offset < start.available := by
      rw [← hcount]
      exact (List.getElem?_eq_some_iff.mp hhead).1
    exact value?_eq_some ((getElem?_headsUpTo hready hlt).symm.trans hhead)
  case frames =>
    exact ⟨start.frameOf, fun head frame => frameOf_eq_some_iff hready, rfl⟩
  case usedIdx =>
    change plane.ring.usedIdx = _ + UInt16.ofNat (start.headsUpTo start.available).length
    rw [hcount, h.ring]
  case published => exact h.published
  case slots => exact h.slots

theorem Drained.turns {after : Dataplane} (h : start.Drained after) (fuel : Nat) :
    drainTurns fuel after = .ok after := by
  obtain ⟨frameOf, -, hc⟩ := h.frames
  cases fuel with
  | zero => rfl
  | succ fuel => rw [drainTurns, hc]

/-- The turns come to an end, since each of them takes an entry. -/
theorem Draining.turns {fuel : Nat} (h : Draining start count plane)
    (hready : start.Transmits) (hfuel : start.available < fuel + count) :
    ∃ after, drainTurns fuel plane = .ok after ∧ start.Drained after := by
  induction fuel generalizing plane count with
  | zero =>
    have hfew := h.few
    omega
  | succ fuel ih =>
    rw [drainTurns, h.call]
    rcases Nat.lt_or_eq_of_le h.few with hmore | rfl
    · obtain ⟨next, hturn, hnext⟩ := h.turn hready hmore
      obtain ⟨after, hturns, hdrained⟩ := ih hnext (by omega)
      refine ⟨after, ?_, hdrained⟩
      simp only [hturn, bind_ok, hturns]
    · obtain ⟨after, hturn, hdrained⟩ := h.last hready
      refine ⟨after, ?_, hdrained⟩
      simp only [hturn, bind_ok, hdrained.turns]

theorem draining_start (start : Dataplane) :
    Draining start 0 { start with call := .draining [] 0 } := by
  constructor
  case few => exact Nat.zero_le _
  case call => rfl
  case ring => simp
  case mem => rfl
  case others => exact fun _ _ _ _ _ _ _ => rfl
  case published => simp [headsUpTo]
  case slots =>
    intro _ slice _ index chain hch
    cases hch

end Drain

/-! ## Results -/

/-- The call ends, and what it returns and publishes is what the driver queued. -/
theorem drain_delivers_queued {plane : Dataplane} (h : plane.Transmits) :
    ∃ after, plane.drainTXLocked = .ok after ∧ plane.Drained after :=
  (draining_start plane).turns h plane.available_lt

def threeSegments (middle : Nat) : Dataplane where
  ring := {
    num := 4
    desc := some ⟨0, 64⟩
    avail := some ⟨64, 14⟩
    used := some ⟨80, 38⟩
    started := true }
  mem := ⟨[⟨0, 4096, 0, ⟨0, 4096⟩, ⟨0, 4096⟩⟩]⟩
  mrgRxbuf := true
  host := byteAt (putLE64 128 ++ putLE32 12 ++ putLE16 1 ++ putLE16 1 ++
    putLE64 140 ++ putLE32 middle ++ putLE16 1 ++ putLE16 2 ++
    putLE64 144 ++ putLE32 4 ++ putLE16 0 ++ putLE16 0 ++ List.replicate 16 0 ++
    putLE16 0 ++ putLE16 1 ++ List.replicate 72 0 ++ [1, 2, 3, 4, 5, 6, 7, 8])

theorem transmits_threeSegments {middle : Nat}
    (hnoWrap : ∀ index < 4,
      ∀ descriptor ∈ (threeSegments middle).ring.table (threeSegments middle).host
        (UInt16.ofNat index),
        NoWrap (·.gpa) descriptor.addr descriptor.len.toUInt64
          (threeSegments middle).mem.regions) (hheads : (threeSegments middle).heads = [0])
    (hbehind : ∀ chain, (threeSegments middle).ring.resolveChain (threeSegments middle).host
      (threeSegments middle).mem 0 = .ok chain → ∀ segment ∈ chain.readable,
        118 ≤ segment.base) : (threeSegments middle).Transmits := by
  constructor
  case num => exact show (4 : UInt32) ≠ 0 by decide
  case fitted => exact ⟨rfl, rfl, rfl⟩
  case exact =>
    intro index descriptor hf
    have hrange : index.toNat < 4 := by
      have hdesc := table_eq_some_iff.mp hf
      unfold descAt at hdesc
      split at hdesc
      · cases hdesc
      rename_i hlow
      rw [UInt32.le_iff_toNat_le, UInt16.toNat_toUInt32, Nat.not_le] at hlow
      exact hlow
    have hidx : UInt16.ofNat index.toNat = index := UInt16.ofNat_toNat
    have hmapped : ∀ region ∈ (threeSegments middle).mem.regions,
        region.mapped.len = region.size.toNat := by
      intro region hregion
      cases List.mem_singleton.mp hregion
      rfl
    refine (translation_exact_iff hmapped _ _).1.mpr ?_
    exact hnoWrap index.toNat hrange descriptor (by rw [hidx]; exact hf)
  case rings =>
    rintro used slice hu (hdesc | havail)
    · cases hu
      cases hdesc
      exact .inr (by decide)
    · cases hu
      cases havail
      exact .inr (by decide)
  case buffers =>
    intro used head chain hu hhead hch segment hseg
    rw [hheads, List.mem_singleton] at hhead
    subst hhead
    cases hu
    exact .inl (hbehind chain hch segment hseg)

theorem drain_delivers_queued_threeSegments :
    ∃ after, (threeSegments 4).drainTXLocked = .ok after ∧
      after.call = .returned (.frames [[1, 2, 3, 4, 5, 6, 7, 8]]) ∧
      (threeSegments 4).Drained after := by
  have hready : (threeSegments 4).Transmits := by
    refine transmits_threeSegments ?_ (by decide) ?_
    · unfold NoWrap
      decide
    · intro chain hch
      have hsegments : (threeSegments 4).ring.resolveChain (threeSegments 4).host
          (threeSegments 4).mem 0 = .ok ⟨[⟨128, 12⟩, ⟨140, 4⟩, ⟨144, 4⟩], []⟩ := by decide
      cases hsegments.symm.trans hch
      decide
  obtain ⟨after, hdrain, hdrained⟩ := drain_delivers_queued hready
  obtain ⟨found, hf, hc⟩ : ∃ found, (threeSegments 4).drainTXLocked = .ok found ∧
      found.call = .returned (.frames [[1, 2, 3, 4, 5, 6, 7, 8]]) := ⟨_, rfl, rfl⟩
  cases hf.symm.trans hdrain
  exact ⟨after, hdrain, hc, hdrained⟩

/-- A segment without bytes lies in the region like the others, but the chain it
is part of yields no frame. -/
theorem empty_segment_loses_frame :
    (threeSegments 0).Transmits ∧ (threeSegments 0).heads = [0] ∧
      (∃ descriptors, Vring.Linked ((threeSegments 0).ring.table (threeSegments 0).host) 0
          descriptors ∧ descriptors.length = 3 ∧
        (∀ descriptor ∈ descriptors, descriptor.isIndirect = false ∧
          descriptor.isReadable = true ∧ ∃ region ∈ (threeSegments 0).mem.regions,
            region.covers (·.gpa) descriptor.addr descriptor.len.toUInt64 = true) ∧
        (Vring.readableBytes (threeSegments 0).host (threeSegments 0).mem
          descriptors).length = 16) ∧
      ∃ after, (threeSegments 0).drainTXLocked = .ok after ∧
        after.call = .returned (.frames []) ∧ after.published = [⟨0, 0⟩] := by
  have hlinked : Linked ((threeSegments 0).ring.table (threeSegments 0).host) 0
      [⟨128, 12, 1, 1⟩, ⟨140, 0, 1, 2⟩, ⟨144, 4, 0, 0⟩] :=
    .next (by decide) (by decide) (.next (by decide) (by decide)
      (.last (by decide) (by decide)))
  refine ⟨?_, by decide, ⟨_, hlinked, rfl, by decide, by decide⟩, _, rfl, rfl, by decide⟩
  refine transmits_threeSegments ?_ (by decide) ?_
  · unfold NoWrap
    decide
  · intro chain hch
    have hrefused : (threeSegments 0).ring.resolveChain (threeSegments 0).host
        (threeSegments 0).mem 0 = .error (.segment .zeroLength) := by decide
    cases hrefused.symm.trans hch

end Dataplane

end GvSwitch.VhostUser
