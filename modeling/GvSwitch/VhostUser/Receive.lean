import GvSwitch.VhostUser.Copying

/-!
# What a received frame leaves in guest memory

`WriteFrame` from beginning to end, while the guest keeps still.  The writable
segments of the chains it takes, one after the other, then hold the header and
the frame, and the used ring says how many bytes of each chain were written.
-/

namespace GvSwitch.VhostUser

open Foundation Outcome Vring Filling

/-! ## Reading the rings -/

variable {slice : Slice} {offset count : Nat}

theorem SameBytes.readAt {host other : Host} (h : SameBytes slice host other)
    (hbound : offset + count ≤ slice.len) :
    readAt other slice offset count = readAt host slice offset count := by
  refine List.map_congr_left fun index hidx => ?_
  have hlt := List.mem_range.mp hidx
  exact h _ (by omega) (by omega)

theorem MemTable.gpaSlice_pos {table : MemTable} {gpa size : UInt64}
    (h : table.gpaSlice gpa size = .ok slice) : 0 < slice.len := by
  unfold gpaSlice at h
  split at h
  · cases h
  rename_i hsize
  rw [len_resolve h]
  exact Nat.pos_of_ne_zero fun hzero => hsize (UInt64.toNat_inj.mp hzero)

variable {ε : Type}

namespace Vring

variable {ring other : Vring} {host after : Host}

theorem within_congr {α : Type} {slice : Option Slice}
    (h : ∀ found, slice = some found → SameBytes found host after)
    (next : Bytes → Outcome ε α) :
    (within slice offset count >>= fun found => next (readAt after found offset count)) =
      within slice offset count >>= fun found => next (readAt host found offset count) := by
  cases slice with
  | none => simp only [within, bind_panic]
  | some found =>
    dsimp only [within]
    split
    · rename_i hbound
      simp only [bind_ok, (h found rfl).readAt hbound]
    · simp only [bind_panic]

theorem availEntry_congr (hnum : other.num = ring.num) (havail : other.avail = ring.avail)
    (h : ∀ slice, ring.avail = some slice → SameBytes slice host after) (index : UInt16) :
    (other.availEntry after index : Outcome ε _) = ring.availEntry host index := by
  unfold availEntry slot
  rw [hnum, havail]
  split
  · simp only [bind_panic]
  · exact within_congr h fun bytes => pure (UInt16.ofNat (le16 bytes 0))

theorem descAt_congr (hnum : other.num = ring.num) (hdesc : other.desc = ring.desc)
    (h : ∀ slice, ring.desc = some slice → SameBytes slice host after) (index : UInt16) :
    other.descAt after index = ring.descAt host index := by
  unfold descAt
  rw [hnum, hdesc, within_congr h fun bytes => pure
    (⟨UInt64.ofNat (le64 bytes 0), UInt32.ofNat (le32 bytes 8), UInt16.ofNat (le16 bytes 12),
      UInt16.ofNat (le16 bytes 14)⟩ : Descriptor)]

theorem walkChain_congr (hnum : other.num = ring.num) (hdesc : other.desc = ring.desc)
    (h : ∀ slice, ring.desc = some slice → SameBytes slice host after) (mem : MemTable)
    (fuel : Nat) (chain : Chain) (index : UInt16) :
    other.walkChain after mem fuel chain index = ring.walkChain host mem fuel chain index := by
  induction fuel generalizing chain index with
  | zero => rfl
  | succ fuel ih =>
    unfold walkChain
    rw [descAt_congr hnum hdesc h index]
    simp only [ih]

theorem walkChain_pos {mem : MemTable} {fuel : Nat} {chain result : Chain} {index : UInt16}
    (hch : ∀ segment ∈ chain.writable, 0 < segment.len)
    (h : ring.walkChain host mem fuel chain index = .ok result) :
    ∀ segment ∈ result.writable, 0 < segment.len := by
  induction fuel generalizing chain index with
  | zero => cases h
  | succ fuel ih =>
    obtain ⟨descriptor, -, h⟩ := bind_eq_ok_iff.mp h
    split at h
    · cases h
    split at h
    · cases h
    · cases h
    rename_i segment hseg
    have hpos := MemTable.gpaSlice_pos hseg
    split at h
    · cases h
    generalize hextended : (if descriptor.flags &&& descFlagWrite ≠ 0 then
      { chain with writable := chain.writable ++ [segment] }
      else { chain with readable := chain.readable ++ [segment] } : Chain) = extended
      at h
    have hnext : ∀ other ∈ extended.writable, 0 < other.len := by
      rw [← hextended]
      split
      · intro other ho
        rcases List.mem_append.mp ho with hold | hnew
        · exact hch other hold
        · rw [List.mem_singleton.mp hnew]
          exact hpos
      · exact hch
    split at h
    · cases h
      exact hnext
    · exact ih hnext h

def slices (ring : Vring) : List Slice :=
  ring.desc.toList ++ (ring.avail.toList ++ ring.used.toList)

theorem mem_slices_desc (h : ring.desc = some slice) : slice ∈ ring.slices := by
  simp [slices, h]

theorem mem_slices_avail (h : ring.avail = some slice) : slice ∈ ring.slices := by
  simp [slices, h]

theorem mem_slices_used (h : ring.used = some slice) : slice ∈ ring.slices := by
  simp [slices, h]

end Vring

variable {segment : Slice}

namespace Dataplane

/-! ## The whole call -/

def turns : Nat → Dataplane → Outcome Empty Dataplane
  | 0, plane => .ok plane
  | fuel + 1, plane =>
    match plane.call with
    | .writing filling => do
        let next ← plane.writeTurn filling
        turns fuel next
    | _ => .ok plane

/-- `WriteFrame` while the guest does not write.  Each turn but the last takes an
entry, of which at most 65535 are available. -/
def writeFrame (plane : Dataplane) (frame : Bytes) : Outcome Empty Dataplane :=
  turns 65536 (plane.enterWriteFrame frame)

/-! ## What the driver offers -/

section Offer

variable (plane : Dataplane)

def headAt (offset : Nat) : Option UInt16 :=
  value? (plane.ring.availEntry plane.host (plane.ring.lastAvail + UInt16.ofNat offset) :
    Outcome Empty _)

def writable (head : UInt16) : List Slice :=
  match plane.ring.resolveChain plane.host plane.mem head with
  | .ok chain => chain.writable
  | _ => []

def offered (count : Nat) : List Slice :=
  (List.range count).flatMap fun offset => (plane.headAt offset).elim [] plane.writable

def available : Nat := plane.ring.available plane.host

theorem available_lt : plane.available < 65536 := by
  unfold available Vring.available
  split
  · exact UInt16.toNat_lt _
  · decide

/-- The writable segments of all available chains overlap neither each other nor
a ring. -/
structure NonOverlapping : Prop where
  segments : (plane.offered plane.available).Pairwise Apart
  rings : ∀ segment ∈ plane.offered plane.available, ∀ slice ∈ plane.ring.slices,
    Apart segment slice

theorem offered_succ {head : UInt16} (h : plane.headAt offset = some head) :
    plane.offered (offset + 1) = plane.offered offset ++ plane.writable head := by
  simp [offered, List.range_succ, List.flatMap_append, h]

theorem offered_mono {first second : Nat} (h : first ≤ second) :
    plane.offered first <+: plane.offered second := by
  obtain ⟨more, rfl⟩ := Nat.exists_eq_add_of_le h
  rw [offered, offered, List.range_add, List.flatMap_append]
  exact List.prefix_append _ _

theorem writable_pos (head : UInt16) :
    ∀ segment ∈ plane.writable head, 0 < segment.len := by
  unfold writable
  split
  · rename_i chain hch
    exact walkChain_pos (fun _ hm => absurd hm List.not_mem_nil) hch
  · exact fun _ hm => absurd hm List.not_mem_nil

end Offer

section NonOverlapping

variable {plane : Dataplane} {count : Nat}

theorem addresses_nodup {segments : List Slice} (h : segments.Pairwise Apart) :
    (addresses segments).Nodup := by
  refine List.nodup_flatMap.mpr ⟨fun segment _ => List.nodup_range', h.imp ?_⟩
  intro first second hapart address hfst hsnd
  have hin := Slice.mem_addresses.mp hfst
  have hin' := Slice.mem_addresses.mp hsnd
  unfold Apart at hapart
  omega

theorem NonOverlapping.nodup (h : plane.NonOverlapping) (hcount : count ≤ plane.available) :
    (addresses (plane.offered count)).Nodup :=
  addresses_nodup (h.segments.sublist (plane.offered_mono hcount).sublist)

theorem NonOverlapping.apart (h : plane.NonOverlapping) (hcount : count ≤ plane.available)
    (hsl : slice ∈ plane.ring.slices) (hseg : segment ∈ plane.offered count) :
    Apart segment slice :=
  h.rings segment ((plane.offered_mono hcount).subset hseg) slice hsl

theorem NonOverlapping.sameBytes (h : plane.NonOverlapping)
    (hcount : count ≤ plane.available) (values : Bytes) (hsl : slice ∈ plane.ring.slices) :
    SameBytes slice plane.host
      (store plane.host (addresses (plane.offered count)) values) := by
  intro address hlow hhigh
  refine store_of_notMem (fun hm => ?_) values
  obtain ⟨segment, hseg, haddress⟩ := List.mem_flatMap.mp hm
  have hin := Slice.mem_addresses.mp haddress
  have hapart := h.apart hcount hsl hseg
  unfold Apart at hapart
  omega

end NonOverlapping

/-! ## What a call leaves -/

section Outcomes

variable (plane after : Dataplane)

def newlyUsed : List UsedChain := after.published.drop plane.published.length

/-- The bytes a used element accounts for: the first of its chain's segments. -/
def contents (used : UsedChain) : Bytes :=
  ((plane.writable used.head).flatMap fun segment =>
    readAt after.host segment 0 segment.len).take used.written.toNat

/-- What the driver reads out of the chains that came back. -/
def received : Bytes := (plane.newlyUsed after).flatMap (plane.contents after)

def headerFits : Bool :=
  (plane.offered plane.available).head?.any fun segment =>
    decide (virtioNetHdrSize ≤ segment.len)

def numBuffers (count : Nat) : Nat := if plane.headerFits then count % 65536 else 0

/-- The frame is in the chains that were taken, and they are in the used ring. -/
structure Delivered (frame : Bytes) : Prop where
  bytes : plane.received after = List.replicate 10 0 ++
    putLE16 (plane.numBuffers (plane.newlyUsed after).length) ++ frame
  lengths : ((plane.newlyUsed after).map (·.written.toNat)).sum =
    virtioNetHdrSize + frame.length
  single : plane.mrgRxbuf = false → (plane.newlyUsed after).length = 1
  heads : (plane.newlyUsed after).map (fun used => some used.head) =
    (List.range (plane.newlyUsed after).length).map plane.headAt
  few : 1 ≤ (plane.newlyUsed after).length ∧ (plane.newlyUsed after).length ≤ plane.available
  ring : after.ring = { plane.ring with
    lastAvail := plane.ring.lastAvail + UInt16.ofNat (plane.newlyUsed after).length
    usedIdx := plane.ring.usedIdx + UInt16.ofNat (plane.newlyUsed after).length }
  slots : plane.ring.num.toNat ∣ 65536 → ∀ slice, plane.ring.used = some slice →
    ∀ offset used, (plane.newlyUsed after)[offset]? = some used →
      usedAt after.host slice (plane.ring.usedSlot offset) = used.words

structure Untouched : Prop where
  ring : after.ring = plane.ring
  used : ∀ slice, plane.ring.used = some slice → SameBytes slice plane.host after.host
  published : after.published = plane.published

def MetMalformed : Prop :=
  ∃ offset head reason, offset < plane.available ∧ plane.headAt offset = some head ∧
    plane.ring.resolveChain plane.host plane.mem head = .error reason ∧
    after.ring.lastAvail = plane.ring.lastAvail + UInt16.ofNat (offset + 1)

def Returns (frame : Bytes) : Prop :=
  (after.call = .returned (.sent true) ∧ plane.Delivered after frame) ∨
    (after.call = .returned (.sent false) ∧
      (plane.Untouched after ∨ plane.MetMalformed after))

end Outcomes

/-! ## Inside the loop -/

def payload (frame : Bytes) : Bytes := List.replicate virtioNetHdrSize 0 ++ frame

def begin (plane : Dataplane) (frame : Bytes) : Filling where
  startAvail := plane.ring.lastAvail
  used := []
  hdrSeg := none
  remaining := virtioNetHdrSize + frame.length
  src := frame
  hdrLeft := virtioNetHdrSize

def spots (plane : Dataplane) (count : Nat) : List Nat := addresses (plane.offered count)

def fillingOf (plane : Dataplane) (frame : Bytes) (used : List UsedChain) : Filling :=
  { (plane.begin frame).filled (plane.spots used.length).length
    (plane.offered used.length).head? with used := used }

/-- The chains taken so far are filled from the beginning of the payload on. -/
structure Filled (start : Dataplane) (frame : Bytes) (used : List UsedChain)
    (plane : Dataplane) : Prop where
  call : plane.call = .writing (start.fillingOf frame used)
  short : frame.length ≤ maxFrameSize
  ring : plane.ring = { start.ring with
    lastAvail := start.ring.lastAvail + UInt16.ofNat used.length }
  mem : plane.mem = start.mem
  mrgRxbuf : plane.mrgRxbuf = start.mrgRxbuf
  published : plane.published = start.published
  index : (plane.ring.availIdx plane.host : Outcome Empty _) =
    start.ring.availIdx start.host
  few : used.length ≤ start.available
  host : plane.host = store start.host (start.spots used.length) (payload frame)
  heads : used.map (fun chain => some chain.head) =
    (List.range used.length).map start.headAt
  reached : used.flatMap (fun chain =>
      (addresses (start.writable chain.head)).take chain.written.toNat) =
    (start.spots used.length).take (payload frame).length
  lengths : (used.map (·.written.toNat)).sum =
    min (start.spots used.length).length (payload frame).length
  needed : ∀ count < used.length, (start.spots count).length < (payload frame).length
  single : start.mrgRxbuf = false → used.length ≤ 1

section Filled

variable {start plane after : Dataplane} {frame : Bytes} {used : List UsedChain}
  {head : UInt16} {ring : Vring}

theorem whole_begin (start : Dataplane) (frame : Bytes) : (start.begin frame).Whole := by
  simp [Filling.Whole, Filling.stream, begin]

section Begun

variable (start : Dataplane) (frame : Bytes) (used : List UsedChain)

theorem whole_fillingOf : (start.fillingOf frame used).Whole :=
  (start.whole_begin frame).filled _ (start.offered used.length).head?

theorem stream_fillingOf :
    (start.fillingOf frame used).stream =
      (payload frame).drop (start.spots used.length).length :=
  (start.begin frame).stream_filled _ (start.offered used.length).head?

theorem remaining_fillingOf :
    (start.fillingOf frame used).remaining =
      (payload frame).length - (start.spots used.length).length := by
  rw [start.whole_fillingOf frame used, stream_fillingOf, List.length_drop]

theorem hdrSeg_fillingOf :
    (start.fillingOf frame used).hdrSeg = (start.offered used.length).head? := by
  simp [fillingOf, begin, filled, headerIn, virtioNetHdrSize]

end Begun

section Disjoint

variable (h : Filled start frame used plane) (hdisj : start.NonOverlapping)

include h hdisj

theorem Filled.sameBytes (hsl : slice ∈ start.ring.slices) :
    SameBytes slice start.host plane.host := by
  rw [h.host]
  exact hdisj.sameBytes h.few _ hsl

theorem Filled.pop
    (hpop : (plane.ring.popAvail plane.host : Outcome Empty _) = .ok (some (head, ring))) :
    ring = { start.ring with
        lastAvail := start.ring.lastAvail + UInt16.ofNat (used.length + 1) } ∧
      start.headAt used.length = some head ∧ used.length < start.available ∧
      (∀ avail, start.ring.avail = some avail → 4 ≤ avail.len) := by
  obtain ⟨hring, he, index, hidx, hne⟩ := popAvail_some hpop
  have hlast : plane.ring.lastAvail = start.ring.lastAvail + UInt16.ofNat used.length := by
    rw [h.ring]
  have hs : (plane.ring.availEntry plane.host plane.ring.lastAvail : Outcome Empty _) =
      start.ring.availEntry start.host plane.ring.lastAvail :=
    availEntry_congr (by rw [h.ring]) (by rw [h.ring]) (fun slice hsl =>
      h.sameBytes hdisj (mem_slices_avail hsl)) _
  rw [hs] at he
  refine ⟨?_, ?_, ?_, fun avail havail => ?_⟩
  · rw [hring, h.ring, UInt16.ofNat_add, ← UInt16.add_assoc]
    rfl
  · rw [headAt, ← hlast, he]
    rfl
  · have hcount : start.available = (index - start.ring.lastAvail).toNat :=
      available_of_ok (h.index.symm.trans hidx)
    refine Nat.lt_of_le_of_ne h.few fun heq => hne ?_
    rw [hlast, heq, hcount, UInt16.ofNat_toNat, UInt16.add_comm, UInt16.sub_add_cancel]
  · obtain ⟨position, -, he⟩ := bind_eq_ok_iff.mp he
    obtain ⟨found, hf, -⟩ := bind_eq_ok_iff.mp he
    obtain ⟨-, hbound⟩ := within_spec havail hf
    omega

theorem Filled.resolveChain {other : Vring} (hnum : other.num = start.ring.num)
    (hdesc : other.desc = start.ring.desc) (head : UInt16) :
    other.resolveChain plane.host plane.mem head =
      start.ring.resolveChain start.host start.mem head := by
  rw [h.mem]
  exact walkChain_congr hnum hdesc
    (fun slice hsl => h.sameBytes hdisj (mem_slices_desc hsl)) _ _ _ _

end Disjoint

theorem writable_of_ok {chain : Chain}
    (h : start.ring.resolveChain start.host start.mem head = .ok chain) :
    start.writable head = chain.writable := by
  rw [writable, h]

theorem length_payload (frame : Bytes) :
    (payload frame).length = virtioNetHdrSize + frame.length := by
  simp [payload]

theorem spots_succ (h : start.headAt offset = some head) :
    start.spots (offset + 1) = start.spots offset ++ addresses (start.writable head) := by
  rw [spots, start.offered_succ h, addresses_append]
  rfl

theorem fillingOf_concat (h : start.headAt used.length = some head) (written : UInt32) :
    { (start.fillingOf frame used).filled (addresses (start.writable head)).length
        (start.writable head).head? with used := used ++ [⟨head, written⟩] } =
      start.fillingOf frame (used ++ [⟨head, written⟩]) := by
  have hfilled : ((start.begin frame).filled (start.spots used.length).length
      (start.offered used.length).head?).filled (addresses (start.writable head)).length
        (start.writable head).head? =
      (start.begin frame).filled (start.spots (used.length + 1)).length
        (start.offered (used.length + 1)).head? := by
    rw [spots_succ h, start.offered_succ h, List.length_append, spots]
    cases start.offered used.length with
    | nil =>
      simp only [addresses_nil, List.length_nil, List.head?_nil, filled_zero,
        Nat.zero_add, List.nil_append]
    | cons segment rest =>
      rw [List.head?_cons, filled_filled]
      rfl
  rw [fillingOf, fillingOf, List.length_append, List.length_singleton, ← hfilled]
  rfl

theorem Filled.fill (h : Filled start frame used plane) (hdisj : start.NonOverlapping)
    (hleft : (start.fillingOf frame used).remaining ≠ 0)
    (hsing : plane.mrgRxbuf = false → used.length ≠ 1)
    (hpop : (plane.ring.popAvail plane.host : Outcome Empty _) = .ok (some (head, ring)))
    {chain : Chain} (hch : ring.resolveChain plane.host plane.mem head = .ok chain) :
    ∃ written, Filled start frame (used ++ [⟨head, written⟩])
      (plane.fill (start.fillingOf frame used) head ring chain) := by
  obtain ⟨hring, hhead, hlt, havail⟩ := h.pop hdisj hpop
  rw [h.resolveChain hdisj (by rw [hring]) (by rw [hring])] at hch
  have hwritable := writable_of_ok hch
  have hfilled := fillChain_eq plane.host 0 (start.whole_fillingOf frame used)
    (start.writable_pos head)
  rw [stream_fillingOf, List.length_drop, UInt32.zero_add] at hfilled
  have hspots := spots_succ hhead
  rw [remaining_fillingOf] at hleft
  generalize hportion : min (addresses (start.writable head)).length
    ((payload frame).length - (start.spots used.length).length) = portion at hfilled
  have hsmall : (UInt32.ofNat portion).toNat = portion := by
    have hlen := length_payload frame
    have hshort := h.short
    rw [UInt32.toNat_ofNat']
    refine Nat.mod_eq_of_lt ?_
    unfold virtioNetHdrSize at hlen
    unfold maxFrameSize at hshort
    omega
  have hhost : store plane.host (addresses (start.writable head))
        ((payload frame).drop (start.spots used.length).length) =
      store start.host (start.spots (used.length + 1)) (payload frame) := by
    rw [h.host, hspots, store_append]
  refine ⟨UInt32.ofNat portion, ?_⟩
  unfold Dataplane.fill
  rw [← hwritable, hfilled]
  dsimp only
  constructor
  case call => exact congrArg Call.writing (fillingOf_concat hhead _)
  case short => exact h.short
  case ring => simpa using hring
  case mem => exact h.mem
  case mrgRxbuf => exact h.mrgRxbuf
  case published => exact h.published
  case index =>
    rw [hhost, hring]
    refine availIdx_congr fun avail hsl address hlow hhigh => ?_
    have hs := hdisj.sameBytes (Nat.succ_le_of_lt hlt) (payload frame)
      (mem_slices_avail hsl)
    have hlong := havail avail hsl
    dsimp only at hhigh
    exact hs address hlow (by omega)
  case few => simpa using Nat.succ_le_of_lt hlt
  case host => simpa using hhost
  case heads => simp [h.heads, List.range_succ, hhead]
  case reached =>
    have htake : (addresses (start.writable head)).take portion =
        (addresses (start.writable head)).take
          ((payload frame).length - (start.spots used.length).length) := by
      rw [← hportion, List.take_eq_take_iff]
      omega
    simp only [List.flatMap_append, h.reached, List.flatMap_singleton, hsmall, htake,
      List.length_append, List.length_singleton, hspots, List.take_append]
  case lengths =>
    simp only [List.map_append, List.sum_append, h.lengths, List.map_cons, List.map_nil,
      List.sum_singleton, hsmall, List.length_append, List.length_singleton, hspots]
    omega
  case needed =>
    intro count hcount
    rw [List.length_append, List.length_singleton] at hcount
    rcases Nat.lt_succ_iff_lt_or_eq.mp hcount with hearlier | rfl
    · exact h.needed count hearlier
    · omega
  case single =>
    intro hoff
    have hone := h.single hoff
    have hnone := hsing (h.mrgRxbuf.trans hoff)
    rw [List.length_append, List.length_singleton]
    omega

/-! ## The bytes in place -/

theorem contents_eq (plane after : Dataplane) (chain : UsedChain) :
    plane.contents after chain =
      ((addresses (plane.writable chain.head)).take chain.written.toNat).map after.host := by
  simp only [contents, readAt_eq_map, addresses, List.map_take, List.map_flatMap]

/-- The patch changes the last field of the header, or nothing. -/
theorem map_patchHeader {rest : List Slice} (hoffer : start.offered count = segment :: rest)
    (hnodup : (start.spots count).Nodup)
    (hroom : (payload frame).length ≤ (start.spots count).length) (number : Nat) :
    ((start.spots count).take (payload frame).length).map
        (patchHeader (store start.host (start.spots count) (payload frame)) (some segment)
          number) =
      List.replicate 10 0 ++
        putLE16 (if virtioNetHdrSize ≤ segment.len then number % 65536 else 0) ++ frame := by
  have hpl := @map_store _ _ _ start.host _ hnodup _ hroom
  have hpay : payload frame = List.replicate 10 0 ++ (putLE16 0 ++ frame) := rfl
  have hlen := length_payload frame
  dsimp only [patchHeader]
  split
  · rename_i hlong
    obtain ⟨behind, hbehind⟩ : ∃ behind, (start.spots count).take (payload frame).length =
        List.range' segment.base 10 ++ (List.range' (segment.base + 10) 2 ++ behind) := by
      refine ⟨(List.range' (segment.base + 12) (segment.len - 12) ++ addresses rest).take
        ((payload frame).length - 12), ?_⟩
      have hfst := (@List.range'_append_1 segment.base 10 2).symm
      rw [spots, hoffer, addresses_cons, segment.addresses_split hlong, List.append_assoc,
        List.take_append, List.length_range', ← List.append_assoc (List.range' segment.base 10),
        ← hfst, List.take_of_length_le]
      · rfl
      · rw [List.length_range']
        omega
    generalize store start.host (start.spots count) (payload frame) = memory at hpl ⊢
    rw [hbehind, hpay, List.map_append, List.map_append] at hpl
    obtain ⟨hzeros, hrest⟩ := List.append_inj hpl (by simp)
    obtain ⟨-, hfr⟩ := List.append_inj hrest rfl
    have hsplit := hnodup.sublist (List.take_sublist (payload frame).length _)
    rw [hbehind] at hsplit ⊢
    have hbytes : (putLE16 (number % 65536)).length =
        (List.range' (segment.base + 10) 2).length := rfl
    rw [writeAt_eq_store _ segment 10 (Nat.le_of_eq hbytes), List.length_range',
      map_store_middle hsplit hbytes, hzeros, hfr, List.append_assoc]
  · rw [hpl, hpay, List.append_assoc]

/-! ## The chains in the used ring -/

/-- A slot of the available ring comes up again after `num` entries. -/
theorem headAt_add_num (hdvd : start.ring.num.toNat ∣ 65536) (offset : Nat) :
    start.headAt (offset + start.ring.num.toNat) = start.headAt offset := by
  have hidx : (start.ring.slot
        (start.ring.lastAvail + UInt16.ofNat (offset + start.ring.num.toNat)).toUInt32 :
          Outcome Empty Nat) =
      start.ring.slot (start.ring.lastAvail + UInt16.ofNat offset).toUInt32 := by
    unfold slot
    split
    · rfl
    have hfst := slot_of_count hdvd (Eq.refl (start.ring.lastAvail +
      UInt16.ofNat (offset + start.ring.num.toNat))) 0
    have hsnd := slot_of_count hdvd (Eq.refl (start.ring.lastAvail + UInt16.ofNat offset)) 0
    rw [Nat.add_zero, Nat.add_zero] at hfst hsnd
    rw [UInt32.toNat_mod, UInt32.toNat_mod, UInt16.toNat_toUInt32, UInt16.toNat_toUInt32,
      hfst, hsnd, ← Nat.add_assoc, Nat.add_mod_right]
  rw [headAt, headAt, availEntry, availEntry, hidx]

/-- No chain with writable segments comes up twice, so that the chains a frame
needs fit into the used ring. -/
theorem Filled.length_le_num (h : Filled start frame used plane)
    (hdisj : start.NonOverlapping) (hdvd : start.ring.num.toNat ∣ 65536)
    (hfull : (payload frame).length ≤ (start.spots used.length).length) :
    used.length ≤ start.ring.num.toNat := by
  by_contra hmore
  obtain ⟨last, hlast⟩ : ∃ last, used.length = last + 1 := ⟨used.length - 1, by omega⟩
  obtain ⟨earlier, hearlier⟩ : ∃ earlier, last = earlier + start.ring.num.toNat :=
    ⟨last - start.ring.num.toNat, by omega⟩
  have hnum : 0 < start.ring.num.toNat := Nat.pos_of_dvd_of_pos hdvd (by decide)
  obtain ⟨chain, hch⟩ : ∃ chain, used[last]? = some chain :=
    ⟨_, List.getElem?_eq_getElem (by omega)⟩
  have hhead : start.headAt last = some chain.head := by
    have hget := congrArg (·[last]?) h.heads
    simp only [List.getElem?_map, hch, List.getElem?_range (show last < used.length by omega),
      Option.map_some, Option.some.injEq] at hget
    exact hget.symm
  have hagain : start.headAt earlier = some chain.head := by
    rw [← headAt_add_num hdvd, ← hearlier, hhead]
  have hnodup := hdisj.nodup h.few
  change (start.spots used.length).Nodup at hnodup
  have hneeded := h.needed last (by omega)
  rw [hlast, spots_succ hhead] at hnodup hfull
  rw [List.length_append] at hfull
  -- The last chain received something, and had been taken before.
  obtain ⟨address, haddress⟩ : ∃ address,
      address ∈ addresses (start.writable chain.head) :=
    List.exists_mem_of_length_pos (by omega)
  have hb : start.spots (earlier + 1) ⊆ start.spots last := by
    obtain ⟨more, hmore⟩ := start.offered_mono (show earlier + 1 ≤ last by omega)
    rw [spots, spots, ← hmore, addresses_append]
    exact List.subset_append_left _ _
  refine (List.nodup_append'.mp hnodup).2.2 (hb ?_) haddress
  rw [spots_succ hagain]
  exact List.mem_append_right _ haddress

/-! ## The end of the loop -/

theorem headerFits_eq (hcount : count ≤ start.available) {rest : List Slice}
    (hoffer : start.offered count = segment :: rest) :
    start.headerFits = decide (virtioNetHdrSize ≤ segment.len) := by
  obtain ⟨more, hmore⟩ := start.offered_mono hcount
  rw [headerFits, ← hmore, hoffer]
  rfl

theorem Filled.map_giveBack (h : Filled start frame used plane)
    (hdisj : start.NonOverlapping) (hu : used ≠ []) {host : Host} {result : Vring × Host}
    (hgive : (plane.ring.giveBack host used : Outcome Empty _) = .ok result) (count : Nat) :
    ((start.spots used.length).take count).map result.2 =
      ((start.spots used.length).take count).map host := by
  obtain ⟨slice, hsl⟩ := used_of_giveBack hgive
  have hring : start.ring.used = some slice := by rw [← hsl, h.ring]
  refine List.map_congr_left fun address haddress => ?_
  obtain ⟨segment, hseg, hin⟩ := List.mem_flatMap.mp (List.mem_of_mem_take haddress)
  have hapart := hdisj.apart h.few (mem_slices_used hring) hseg
  obtain ⟨hlow, hhigh⟩ := Slice.mem_addresses.mp hin
  exact sameBytes_giveBack hsl (Or.symm hapart) hu hgive address hlow hhigh

theorem Filled.flatMap_contents (h : Filled start frame used plane) (after : Dataplane) :
    used.flatMap (start.contents after) =
      ((start.spots used.length).take (payload frame).length).map after.host := by
  rw [← h.reached, List.map_flatMap]
  exact congrArg used.flatMap (funext (start.contents_eq after))

theorem Filled.complete (h : Filled start frame used plane) (hdisj : start.NonOverlapping)
    (hd : (start.fillingOf frame used).remaining = 0)
    (hcomplete : plane.complete plane.ring
      (patchHeader plane.host (start.fillingOf frame used).hdrSeg used.length) used
      plane.pending true = .ok after) :
    after.call = .returned (.sent true) ∧ start.Delivered after frame := by
  obtain ⟨result, hgive, hcomplete⟩ := bind_eq_ok_iff.mp hcomplete
  obtain ⟨signal, -, hcomplete⟩ := bind_eq_ok_iff.mp hcomplete
  rw [remaining_fillingOf] at hd
  have hfull := Nat.le_of_sub_eq_zero hd
  have hlen := length_payload frame
  obtain ⟨segment, rest, hoffer⟩ : ∃ segment rest,
      start.offered used.length = segment :: rest := by
    cases hoffer : start.offered used.length with
    | nil =>
      rw [spots, hoffer, hlen] at hfull
      exact absurd hfull (by simp [virtioNetHdrSize])
    | cons segment rest => exact ⟨segment, rest, rfl⟩
  have hu : used ≠ [] := by
    rintro rfl
    cases hoffer
  have hnew : start.newlyUsed after = used := by
    cases hcomplete
    rw [newlyUsed, h.published, List.drop_left]
  have hpos : 1 ≤ used.length := List.length_pos_iff.mpr hu
  refine ⟨by cases hcomplete; rfl, ?_⟩
  constructor
  case bytes =>
    have ha : after.host = result.2 := by
      cases hcomplete
      rfl
    rw [hdrSeg_fillingOf, hoffer, List.head?_cons, h.host] at hgive
    rw [received, hnew, h.flatMap_contents, ha, h.map_giveBack hdisj hu hgive,
      map_patchHeader hoffer (hdisj.nodup h.few) hfull, numBuffers,
      headerFits_eq h.few hoffer]
    simp only [decide_eq_true_eq]
  case lengths =>
    rw [hnew, h.lengths, Nat.min_eq_right hfull, hlen]
  case single =>
    intro hoff
    rw [hnew]
    exact Nat.le_antisymm (h.single hoff) hpos
  case heads =>
    rw [hnew]
    exact h.heads
  case few =>
    rw [hnew]
    exact ⟨hpos, h.few⟩
  case ring =>
    rw [hnew]
    cases hcomplete
    dsimp only
    rw [giveBack_ring hgive, h.ring]
  case slots =>
    intro hdvd slice hsl offset chain hch
    rw [hnew] at hch
    have hnum : plane.ring.num = start.ring.num := by rw [h.ring]
    have hroom := h.length_le_num hdisj hdvd hfull
    have hmax : start.ring.num.toNat ≤ 65536 := Nat.le_of_dvd (by decide) hdvd
    rw [← hnum] at hroom hmax
    have hu : plane.ring.used = some slice := by
      rw [h.ring]
      exact hsl
    obtain ⟨-, hpl, -⟩ := giveBack_spec hu hmax hroom hgive
    have hslot : start.ring.usedSlot offset = plane.ring.usedSlot offset := by
      rw [h.ring]
      rfl
    cases hcomplete
    rw [hslot]
    exact (hpl offset chain hch).2

/-- One turn returns, or fills one more chain. -/
theorem Filled.writeTurn (h : Filled start frame used plane) (hdisj : start.NonOverlapping)
    (hturn : plane.writeTurn (start.fillingOf frame used) = .ok after) :
    start.Returns after frame ∨
      ∃ head written, Filled start frame (used ++ [⟨head, written⟩]) after := by
  rcases writeTurn_cases hturn with
    ⟨hd, hturn⟩ | ⟨-, rfl⟩ |
      ⟨head, ring, hleft, hsing, hpop, ⟨reason, hch, hturn⟩ | ⟨chain, hch, rfl⟩⟩
  · exact .inl (.inl (h.complete hdisj hd hturn))
  · refine .inl (.inr ⟨rfl, .inl ⟨?_, ?_, h.published⟩⟩)
    · simp only [rollback]
      rw [h.ring]
      rfl
    · exact fun slice hsl => h.sameBytes hdisj (mem_slices_used hsl)
  · obtain ⟨hring, hhead, hlt, -⟩ := h.pop hdisj hpop
    rw [h.resolveChain hdisj (by rw [hring]) (by rw [hring])] at hch
    obtain ⟨result, hgive, hturn⟩ := bind_eq_ok_iff.mp hturn
    obtain ⟨signal, -, hturn⟩ := bind_eq_ok_iff.mp hturn
    cases hturn
    refine .inl (.inr ⟨rfl, .inr ⟨used.length, head, reason, hlt, hhead, hch, ?_⟩⟩)
    rw [giveBack_ring hgive, hring]
  · obtain ⟨written, hnext⟩ := h.fill hdisj hleft hsing hpop hch
    exact .inr ⟨head, written, hnext⟩

theorem turns_of_returned {result : CallResult} (h : plane.call = .returned result)
    (fuel : Nat) : turns fuel plane = .ok plane := by
  cases fuel with
  | zero => rfl
  | succ fuel => rw [turns, h]

theorem Returns.returned (h : start.Returns after frame) :
    ∃ result, after.call = .returned result := by
  rcases h with ⟨hc, -⟩ | ⟨hc, -⟩
  · exact ⟨_, hc⟩
  · exact ⟨_, hc⟩

/-- The turns come to an end, since each of them takes an entry. -/
theorem Filled.turns {fuel : Nat} (h : Filled start frame used plane)
    (hdisj : start.NonOverlapping) (hfuel : start.available < fuel + used.length)
    (hturns : turns fuel plane = .ok after) : start.Returns after frame := by
  induction fuel generalizing plane used with
  | zero =>
    have hfew := h.few
    omega
  | succ fuel ih =>
    rw [Dataplane.turns, h.call] at hturns
    obtain ⟨next, hturn, hturns⟩ := bind_eq_ok_iff.mp hturns
    rcases h.writeTurn hdisj hturn with hreturns | ⟨head, written, hnext⟩
    · obtain ⟨result, hc⟩ := hreturns.returned
      cases (turns_of_returned hc fuel).symm.trans hturns
      exact hreturns
    · refine ih hnext ?_ hturns
      rw [List.length_append, List.length_singleton]
      omega

theorem filled_enter (hlong : frame.length ≤ maxFrameSize)
    (hstart : start.ring.started = true) :
    Filled start frame [] (start.enterWriteFrame frame) := by
  have henter : start.enterWriteFrame frame = { start with
      call := .writing (start.fillingOf frame []) } := by
    rw [enterWriteFrame, if_neg]
    · rfl
    · rw [hstart]
      simpa using hlong
  rw [henter]
  constructor
  case call => rfl
  case short => exact hlong
  case ring => simp
  case single => simp
  case needed => simp
  all_goals simp [spots, offered]

theorem returns_writeFrame (hdisj : start.NonOverlapping)
    (h : start.writeFrame frame = .ok after) : start.Returns after frame := by
  by_cases hrefused : frame.length > maxFrameSize ∨ start.ring.started = false
  · rw [writeFrame, enterWriteFrame, if_pos hrefused] at h
    cases h
    exact .inr ⟨rfl, .inl ⟨rfl, fun _ _ _ _ _ => rfl, rfl⟩⟩
  · simp only [not_or, Bool.not_eq_false, gt_iff_lt, Nat.not_lt] at hrefused
    exact (filled_enter hrefused.1 hrefused.2).turns hdisj start.available_lt h

end Filled

theorem nonOverlapping_twoChains {first : Nat} (hfst : first ≤ 32)
    (hoffer : (twoChains first 0).offered (twoChains first 0).available =
      [⟨128, first⟩, ⟨160, 20⟩]) : (twoChains first 0).NonOverlapping := by
  refine ⟨?_, ?_⟩
  · rw [hoffer]
    simp [Apart]
    omega
  · rw [hoffer]
    simp [Apart, slices, twoChains]

theorem twoChains_written :
    ∃ after, (twoChains 20 0).writeFrame [1, 2, 3, 4, 5, 6, 7, 8, 9] = .ok after ∧
      after.call = .returned (.sent true) ∧ after.published = [⟨0, 20⟩, ⟨1, 1⟩] :=
  ⟨_, rfl, rfl, by decide⟩

/-! ## Results -/

/-- A frame that was sent is in the chains that came back, and one that was not
leaves the rings alone unless a malformed chain was met. -/
theorem writeFrame_writes_exactly {plane after : Dataplane} {frame : Bytes}
    (hdisjoint : plane.NonOverlapping) (h : plane.writeFrame frame = .ok after) :
    (after.call = .returned (.sent true) ∧ plane.Delivered after frame) ∨
      (after.call = .returned (.sent false) ∧
        (plane.Untouched after ∨ plane.MetMalformed after)) :=
  returns_writeFrame hdisjoint h

theorem writeFrame_writes_exactly_twoChains :
    ∃ after, (twoChains 20 0).writeFrame [1, 2, 3, 4, 5, 6, 7, 8, 9] = .ok after ∧
      after.published = [⟨0, 20⟩, ⟨1, 1⟩] ∧
      (twoChains 20 0).Delivered after [1, 2, 3, 4, 5, 6, 7, 8, 9] := by
  have hdisj := nonOverlapping_twoChains (show 20 ≤ 32 by decide) (by decide)
  obtain ⟨after, hwrite, hc, hpublished⟩ := twoChains_written
  refine ⟨after, hwrite, hpublished, ?_⟩
  rcases writeFrame_writes_exactly hdisj hwrite with ⟨-, hdel⟩ | ⟨hfailed, -⟩
  · exact hdel
  · cases hc.symm.trans hfailed

theorem le16_header (number : Nat) (hnumber : number < 65536) (frame : Bytes) :
    le16 (List.replicate 10 0 ++ putLE16 number ++ frame) 10 = number := by
  simp [le16, byteAt, putLE16, List.replicate]
  omega

/-- The header tells the number of chains exactly if the first writable segment
holds all of it. -/
theorem num_buffers_true_iff {plane after : Dataplane} {frame : Bytes}
    (hdisjoint : plane.NonOverlapping) (h : plane.writeFrame frame = .ok after)
    (hsent : after.call = .returned (.sent true)) :
    le16 (plane.received after) 10 = (plane.newlyUsed after).length ↔
      plane.headerFits = true := by
  rcases returns_writeFrame hdisjoint h with ⟨-, hdel⟩ | ⟨hfailed, -⟩
  · obtain ⟨hpos, hfew⟩ := hdel.few
    have hlimit := Nat.lt_of_le_of_lt hfew plane.available_lt
    have hnumber : plane.numBuffers (plane.newlyUsed after).length < 65536 := by
      unfold numBuffers
      split
      · exact Nat.mod_lt _ (by decide)
      · decide
    rw [hdel.bytes, le16_header _ hnumber, numBuffers]
    cases plane.headerFits with
    | true => simpa using hlimit
    | false =>
      simp only [Bool.false_eq_true, if_false, iff_false]
      omega
  · cases hsent.symm.trans hfailed

theorem num_buffers_true_iff_twoChains :
    ∃ after, (twoChains 20 0).writeFrame [1, 2, 3, 4, 5, 6, 7, 8, 9] = .ok after ∧
      le16 ((twoChains 20 0).received after) 10 = 2 := by
  have hdisj := nonOverlapping_twoChains (show 20 ≤ 32 by decide) (by decide)
  obtain ⟨after, hwrite, hc, hpublished⟩ := twoChains_written
  have hcount : (twoChains 20 0).newlyUsed after = [⟨0, 20⟩, ⟨1, 1⟩] := hpublished
  have htrue := (num_buffers_true_iff hdisj hwrite hc).mpr (by decide)
  rw [hcount] at htrue
  exact ⟨after, hwrite, htrue⟩

/-- The first segment has eight bytes, and the header goes on in the second chain;
its count stays zero. -/
theorem split_header_untold :
    (twoChains 8 0).NonOverlapping ∧
      ∃ after, (twoChains 8 0).writeFrame [1, 2] = .ok after ∧
        after.call = .returned (.sent true) ∧
        (twoChains 8 0).newlyUsed after = [⟨0, 8⟩, ⟨1, 6⟩] ∧
        le16 ((twoChains 8 0).received after) 10 = 0 :=
  ⟨nonOverlapping_twoChains (by decide) (by decide), _, rfl, rfl, by decide, by decide⟩

end Dataplane

end GvSwitch.VhostUser
