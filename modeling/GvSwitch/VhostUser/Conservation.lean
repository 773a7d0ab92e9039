import GvSwitch.Foundation.Runs
import GvSwitch.VhostUser.UsedRing

/-!
# Conservation of buffers

Whatever way a call ends, it returns to the driver exactly the chains it took,
in the order in which it took them.
-/

namespace GvSwitch.VhostUser

open Foundation Outcome Vring

/-! ## Copying leaves the used ring alone -/

def Apart (segment slice : Slice) : Prop :=
  segment.base + segment.len ≤ slice.base ∨ slice.base + slice.len ≤ segment.base

instance Apart.decidable (segment slice : Slice) : Decidable (Apart segment slice) :=
  inferInstanceAs (Decidable (_ ∨ _))

def Filling.HeaderApart (filling : Filling) (slice : Slice) : Prop :=
  ∀ segment, filling.hdrSeg = some segment → Apart segment slice

variable {slice : Slice}

theorem SameBytes.trans {first second third : Host} (h : SameBytes slice first second)
    (h' : SameBytes slice second third) : SameBytes slice first third :=
  fun address hlow hhigh => (h' address hlow hhigh).trans (h address hlow hhigh)

theorem sameBytes_writeAt {segment : Slice} (hapart : Apart segment slice) (host : Host)
    {offset : Nat} {bytes : Bytes} (hinside : offset + bytes.length ≤ segment.len) :
    SameBytes slice host (writeAt host segment offset bytes) := by
  intro address hlow hhigh
  unfold writeAt
  rw [if_neg]
  rcases hapart with hb | hbehind
  · omega
  · omega

structure Copied (slice : Slice) (host : Host) (filling : Filling)
    (result : Host × Filling × UInt32) : Prop where
  bytes : SameBytes slice host result.1
  startAvail : result.2.1.startAvail = filling.startAvail
  used : result.2.1.used = filling.used
  header : result.2.1.HeaderApart slice

theorem copied_fillSegment (fuel : Nat) (host : Host) (filling : Filling) (written : UInt32)
    (segment : Slice) (hapart : Apart segment slice) (hhdr : filling.HeaderApart slice) :
    Copied slice host filling (fillSegment fuel host filling written segment) := by
  induction fuel generalizing host filling written segment with
  | zero => exact ⟨fun _ _ _ => rfl, rfl, rfl, hhdr⟩
  | succ fuel ih =>
    unfold fillSegment
    split
    · dsimp only
      generalize hsrc : (if filling.hdrLeft > 0 then List.replicate filling.hdrLeft 0
        else filling.src) = source
      generalize hcount : min segment.len source.length = count
      have hwrite : SameBytes slice host (writeAt host segment 0 (source.take count)) := by
        refine sameBytes_writeAt hapart host ?_
        rw [List.length_take]
        omega
      have hrest : Apart ⟨segment.base + count, segment.len - count⟩ slice := by
        unfold Apart at hapart ⊢
        dsimp only
        omega
      have hstep (next : Filling) (hstart : next.startAvail = filling.startAvail)
          (hu : next.used = filling.used) (hnext : next.HeaderApart slice) :
          Copied slice host filling
            (fillSegment fuel (writeAt host segment 0 (source.take count)) next
              (written + UInt32.ofNat count)
              ⟨segment.base + count, segment.len - count⟩) := by
        have hcopied := ih (writeAt host segment 0 (source.take count)) next
          (written + UInt32.ofNat count) _ hrest hnext
        exact ⟨hwrite.trans hcopied.bytes, hcopied.startAvail.trans hstart,
          hcopied.used.trans hu, hcopied.header⟩
      split
      · refine hstep _ rfl rfl fun found hf => ?_
        cases hseg : filling.hdrSeg with
        | none =>
          rw [hseg] at hf
          cases hf
          exact hapart
        | some earlier =>
          rw [hseg] at hf
          exact hhdr found (hseg.trans hf)
      · exact hstep _ rfl rfl hhdr
    · exact ⟨fun _ _ _ => rfl, rfl, rfl, hhdr⟩

theorem copied_fillChain (host : Host) (filling : Filling) (written : UInt32)
    (segments : List Slice) (hapart : ∀ segment ∈ segments, Apart segment slice)
    (hhdr : filling.HeaderApart slice) :
    Copied slice host filling (fillChain host filling written segments) := by
  induction segments generalizing host filling written with
  | nil => exact ⟨fun _ _ _ => rfl, rfl, rfl, hhdr⟩
  | cons segment rest ih =>
    have hfst := copied_fillSegment segment.len host filling written segment
      (hapart segment (.head _)) hhdr
    dsimp only [fillChain]
    split
    · exact hfst
    have hsnd := ih (fillSegment segment.len host filling written segment).1
      (fillSegment segment.len host filling written segment).2.1
      (fillSegment segment.len host filling written segment).2.2
      (fun other ho => hapart other (List.mem_cons_of_mem segment ho))
      hfst.header
    exact ⟨hfst.bytes.trans hsnd.bytes, hsnd.startAvail.trans hfst.startAvail,
      hsnd.used.trans hfst.used, hsnd.header⟩

theorem sameBytes_patchHeader (host : Host) {filling : Filling}
    (hhdr : filling.HeaderApart slice) (count : Nat) :
    SameBytes slice host (patchHeader host filling.hdrSeg count) := by
  unfold patchHeader
  split
  · exact fun _ _ _ => rfl
  rename_i segment hsegment
  split
  · rename_i hlong
    refine sameBytes_writeAt (hhdr segment hsegment) host ?_
    simp only [putLE16, List.length_cons, List.length_nil]
    unfold virtioNetHdrSize at hlong
    omega
  · exact fun _ _ _ => rfl

/-! ## Returning chains leaves the rest alone -/

variable {used : List UsedChain} {result : Vring × Host}

namespace Vring

variable {ε : Type} {ring : Vring} {slice other : Slice} {host after : Host}

theorem sameBytes_setUsedElem (hsl : ring.used = some slice) (hapart : Apart slice other)
    {slot head : UInt16} {written : UInt32}
    (h : (ring.setUsedElem host slot head written : Outcome ε Host) = .ok after) :
    12 ≤ slice.len ∧ SameBytes other host after := by
  obtain ⟨position, -, h⟩ := bind_eq_ok_iff.mp h
  obtain ⟨first, hfst, h⟩ := bind_eq_ok_iff.mp h
  obtain ⟨second, hsnd, h⟩ := bind_eq_ok_iff.mp h
  obtain ⟨rfl, hbound⟩ := within_spec hsl hfst
  obtain ⟨rfl, hbound'⟩ := within_spec hsl hsnd
  cases h
  refine ⟨by omega, SameBytes.trans (sameBytes_writeAt hapart host ?_)
    (sameBytes_writeAt hapart _ ?_)⟩
  · exact hbound
  · exact hbound'

theorem sameBytes_publishUsed (hsl : ring.used = some slice)
    (hapart : Apart ⟨slice.base, max 4 slice.len⟩ other) {count : UInt16}
    (h : (ring.publishUsed host count : Outcome ε (Vring × Host)) = .ok result) :
    SameBytes other host result.2 := by
  obtain ⟨found, hf, h⟩ := bind_eq_ok_iff.mp h
  obtain ⟨rfl, -⟩ := within_spec hsl hf
  cases h
  have hroom : 0 + (putLE32 ((ring.usedIdx + count).toNat * 65536)).length ≤
      max 4 found.len := Nat.le_max_left 4 _
  exact sameBytes_writeAt hapart host hroom

theorem sameBytes_setUsedElems (hsl : ring.used = some slice) (hapart : Apart slice other)
    {index : Nat} (h : (ring.setUsedElems host index used : Outcome ε Host) = .ok after) :
    (used ≠ [] → 12 ≤ slice.len) ∧ SameBytes other host after := by
  induction used generalizing host index with
  | nil =>
    cases h
    exact ⟨fun hne => absurd rfl hne, fun _ _ _ => rfl⟩
  | cons first rest ih =>
    obtain ⟨middle, hfst, hrest⟩ := bind_eq_ok_iff.mp h
    obtain ⟨hlong, hs⟩ := sameBytes_setUsedElem hsl hapart hfst
    exact ⟨fun _ => hlong, hs.trans (ih hrest).2⟩

theorem sameBytes_giveBack (hsl : ring.used = some slice) (hapart : Apart slice other)
    (hu : used ≠ []) (h : (ring.giveBack host used : Outcome ε (Vring × Host)) = .ok result) :
    SameBytes other host result.2 := by
  obtain ⟨middle, hset, hpub⟩ := bind_eq_ok_iff.mp h
  obtain ⟨hlong, hs⟩ := sameBytes_setUsedElems hsl hapart hset
  have hlen := hlong hu
  have hmax : max 4 slice.len = slice.len := by omega
  refine hs.trans (sameBytes_publishUsed hsl ?_ hpub)
  rw [hmax]
  exact hapart

end Vring

/-! ## Taking entries -/

variable {index : UInt16}

namespace Vring

variable {ε : Type} {ring : Vring} {host after : Host}

theorem available_of_ok (h : (ring.availIdx host : Outcome Empty _) = .ok index) :
    ring.available host = (index - ring.lastAvail).toNat := by
  unfold available
  rw [h]

theorem availIdx_congr
    (h : ∀ avail, ring.avail = some avail → SameBytes ⟨avail.base, 4⟩ host after) :
    (ring.availIdx after : Outcome ε _) = ring.availIdx host := by
  unfold availIdx atomicLoadU32 headOf within
  cases havail : ring.avail with
  | none => simp only [bind_panic]
  | some avail =>
    have hread : readAt after avail 0 4 = readAt host avail 0 4 := by
      refine List.map_congr_left fun index hidx => ?_
      have hlt : index < 4 := List.mem_range.mp hidx
      exact h avail havail _ (by dsimp only; omega) (by dsimp only; omega)
    dsimp only
    split
    · simp only [bind_ok, hread]
    · simp only [bind_panic]

theorem sub_succ_toNat {last : UInt16} (h : index ≠ last) :
    (index - (last + 1)).toNat + 1 = (index - last).toNat := by
  have hpos : (1 : UInt16).toNat ≤ (index - last).toNat := by
    refine Nat.one_le_iff_ne_zero.mpr fun hzero => h ?_
    have hdiff : index - last = 0 := UInt16.toNat_inj.mp hzero
    exact (UInt16.sub_eq_iff_eq_add.mp hdiff).trans (UInt16.zero_add _)
  have hstep : index - (last + 1) = index - last - 1 := by grind
  rw [hstep, UInt16.toNat_sub_of_le _ _ (UInt16.le_iff_toNat_le.mpr hpos)]
  have hone : (1 : UInt16).toNat = 1 := rfl
  omega

theorem popAvail_none (h : (ring.popAvail host : Outcome ε _) = .ok none) :
    (ring.availIdx host : Outcome ε _) = .ok ring.lastAvail := by
  obtain ⟨index, hidx, h⟩ := bind_eq_ok_iff.mp h
  split at h
  · rename_i hempty
    rw [hidx, hempty]
  · obtain ⟨head, -, h⟩ := bind_eq_ok_iff.mp h
    cases h

theorem popAvail_some {head : UInt16} {after : Vring}
    (h : (ring.popAvail host : Outcome ε _) = .ok (some (head, after))) :
    after = { ring with lastAvail := ring.lastAvail + 1 } ∧
      (ring.availEntry host ring.lastAvail : Outcome ε _) = .ok head ∧
      ∃ index, (ring.availIdx host : Outcome ε _) = .ok index ∧ index ≠ ring.lastAvail := by
  obtain ⟨index, hidx, h⟩ := bind_eq_ok_iff.mp h
  split at h
  · cases h
  rename_i ho
  obtain ⟨found, hf, h⟩ := bind_eq_ok_iff.mp h
  cases h
  exact ⟨rfl, hf, index, hidx, fun heq => ho heq.symm⟩

theorem used_of_publishUsed {count : UInt16}
    (h : (ring.publishUsed host count : Outcome ε _) = .ok result) :
    ∃ slice, ring.used = some slice := by
  obtain ⟨slice, hsl, -⟩ := bind_eq_ok_iff.mp h
  cases hu : ring.used with
  | none =>
    rw [hu] at hsl
    cases hsl
  | some slice => exact ⟨slice, rfl⟩

theorem used_of_giveBack (h : (ring.giveBack host used : Outcome ε _) = .ok result) :
    ∃ slice, ring.used = some slice := by
  obtain ⟨middle, -, hpub⟩ := bind_eq_ok_iff.mp h
  exact used_of_publishUsed hpub

end Vring

variable {after : Dataplane} {ring : Vring}

namespace Dataplane

/-! ## Conforming drivers -/

/-- The used ring is left to the device, at most `num` chains are available or
taken and not yet returned, and the next chain's buffers do not overlap the used
ring. -/
def Conforming (plane : Dataplane) : Move → Prop
  | .guest host => ∀ slice, plane.ring.used = some slice → SameBytes slice plane.host host
  | .turn =>
    (∀ index, (plane.ring.availIdx plane.host : Outcome Empty _) = .ok index →
      (index - plane.ring.lastAvail).toNat + plane.pending.length ≤
        plane.ring.num.toNat) ∧
    (∀ head ring chain slice,
      (plane.ring.popAvail plane.host : Outcome Empty _) = .ok (some (head, ring)) →
        ring.resolveChain plane.host plane.mem head = .ok chain →
          plane.ring.used = some slice →
            ∀ segment ∈ chain.writable, Apart segment slice)
  | _ => True

/-- A power of two as size, no call in progress, nothing recorded yet. -/
structure Fresh (plane : Dataplane) : Prop where
  num : ∃ exponent ≤ 16, plane.ring.num.toNat = 2 ^ exponent
  idle : ∃ result, plane.call = .returned result
  consumed : plane.consumed = []
  pending : plane.pending = []
  published : plane.published = []

/-- Indices, heads and slots agree with what was taken and published. -/
structure Conserved (start plane : Dataplane) : Prop where
  used : plane.ring.usedIdx = start.ring.usedIdx + UInt16.ofNat plane.published.length
  avail : plane.ring.lastAvail = start.ring.lastAvail +
    UInt16.ofNat (plane.consumed.length + plane.pending.length)
  returned : ∀ result, plane.call = .returned result → plane.pending = []
  heads : plane.published.map (·.head) = plane.consumed.map (·.head)
  entries : ∀ index pop, (plane.consumed ++ plane.pending)[index]? = some pop →
    pop.index = start.ring.lastAvail + UInt16.ofNat index ∧
      (start.ring.availEntry pop.memory pop.index : Outcome Empty _) = .ok pop.head
  slots : ∀ slice, start.ring.used = some slice →
    Shelved plane.host slice start.ring.num.toNat start.ring.usedIdx.toNat plane.published

/-! ## The invariant -/

def CallBalanced (start plane : Dataplane) : Call → Prop
  | .writing filling =>
    filling.startAvail =
        start.ring.lastAvail + UInt16.ofNat plane.consumed.length ∧
      filling.used.map (·.head) = plane.pending.map (·.head) ∧
      filling.used.length ≤ start.ring.num.toNat ∧
      ∀ slice, start.ring.used = some slice → filling.HeaderApart slice
  | _ => plane.pending = []

structure Balanced (start plane : Dataplane) : Prop where
  ring : plane.ring = { start.ring with
    lastAvail := plane.ring.lastAvail, usedIdx := plane.ring.usedIdx }
  conserved : Conserved start plane
  call : CallBalanced start plane plane.call

variable {start plane : Dataplane}

theorem Fresh.balanced (h : Fresh start) : Balanced start start := by
  obtain ⟨result, hc⟩ := h.idle
  refine ⟨rfl, ⟨?_, ?_, fun _ _ => h.pending, ?_, ?_, ?_⟩, ?_⟩
  · simp [h.published]
  · simp [h.consumed, h.pending]
  · simp [h.published, h.consumed]
  · simp [h.consumed, h.pending]
  · intro slice _ index chain hch
    simp [h.published] at hch
  · rw [hc]
    exact h.pending

theorem Fresh.dvd (h : Fresh start) : start.ring.num.toNat ∣ 65536 := by
  obtain ⟨exponent, hexponent, hnum⟩ := h.num
  rw [hnum]
  exact Nat.pow_dvd_pow 2 hexponent

variable {count : Nat} {head : UInt16} {filling : Filling} {result : CallResult}

theorem slot_of_count {first : UInt16} {num : Nat} (hdvd : num ∣ 65536)
    (h : index = first + UInt16.ofNat count) (offset : Nat) :
    (index.toNat + offset) % num = (first.toNat + count + offset) % num := by
  have hidx : index.toNat = (first.toNat + count) % 65536 := by
    rw [h, UInt16.toNat_add, UInt16.toNat_ofNat']
    simp
  rw [hidx, Nat.add_mod, Nat.mod_mod_of_dvd _ hdvd, ← Nat.add_mod]

/-- The chains `used` are those of the entries taken, in a ring read past them. -/
structure GivesBack (start plane : Dataplane) (ring : Vring) (host : Host)
    (used : List UsedChain) (pops : List Pop) : Prop where
  ring : ring = { plane.ring with lastAvail :=
    (start.ring.lastAvail + UInt16.ofNat (plane.consumed.length + pops.length)) }
  bytes : ∀ slice, start.ring.used = some slice → SameBytes slice plane.host host
  heads : used.map (·.head) = pops.map (·.head)
  entries : ∀ index pop, (plane.consumed ++ pops)[index]? = some pop →
    pop.index = start.ring.lastAvail + UInt16.ofNat index ∧
      (start.ring.availEntry pop.memory pop.index : Outcome Empty _) = .ok pop.head
  room : used.length ≤ start.ring.num.toNat

/-- Entries taken so far and returned now stay conserved. -/
theorem Balanced.giveBack (hdvd : start.ring.num.toNat ∣ 65536) (h : Balanced start plane)
    {host : Host} {pops : List Pop} {result : Vring × Host}
    (hgives : GivesBack start plane ring host used pops)
    (hgive : (ring.giveBack host used : Outcome Empty _) = .ok result) {call : Call}
    (hc : ∀ after, CallBalanced start after call ↔ after.pending = []) (signals : List Nat) :
    Balanced start { plane with
      ring := result.1
      host := result.2
      call := call
      signals := signals
      consumed := plane.consumed ++ pops
      pending := []
      published := plane.published ++ used } := by
  obtain ⟨hring, hs, hheads, hentries, hroom⟩ := hgives
  have hmax : start.ring.num.toNat ≤ 65536 := Nat.le_of_dvd (by decide) hdvd
  have hsize : ring.num = start.ring.num := by rw [hring, h.ring]
  have hslices : ring.used = start.ring.used := by rw [hring, h.ring]
  have hidx : ring.usedIdx = plane.ring.usedIdx := by rw [hring]
  obtain ⟨slice, hsl⟩ := used_of_giveBack hgive
  rw [← hsize] at hmax hroom
  obtain ⟨ha, hpl, hkept⟩ := giveBack_spec hsl hmax hroom hgive
  have hslot (offset : Nat) : ring.usedSlot offset =
      (start.ring.usedIdx.toNat + plane.published.length + offset) %
        start.ring.num.toNat := by
    rw [usedSlot, hsize]
    exact slot_of_count hdvd (hidx.trans h.conserved.used) offset
  refine ⟨?_, ⟨?_, ?_, fun _ _ => rfl, ?_, ?_, ?_⟩, (hc _).mpr rfl⟩
  · rw [ha, hring, h.ring]
  · rw [ha, List.length_append, UInt16.ofNat_add, ← UInt16.add_assoc,
      ← h.conserved.used, ← hidx]
  · dsimp only
    rw [ha, hring]
    simp
  · simp only [List.map_append, h.conserved.heads, hheads]
  · simpa using hentries
  intro other ho
  have heq : other = slice := Option.some.inj (ho.symm.trans (hslices.symm.trans hsl))
  subst heq
  refine ((h.conserved.slots other ho).sameBytes (hs other ho)).append ?_ ?_
  · intro offset chain hch
    rw [← hslot]
    exact hpl offset chain hch
  intro position hposition
  refine hkept position fun offset hoffset => ?_
  rw [hslot]
  exact hposition offset hoffset

section Popped

variable {ring : Vring} (h : Balanced start plane)
  (hpop : (plane.ring.popAvail plane.host : Outcome Empty _) = .ok (some (head, ring)))
include h hpop

theorem Balanced.entries_pop (index : Nat) (pop : Pop)
    (hget : (plane.consumed ++ (plane.pending ++ [plane.pop head]))[index]? = some pop) :
    pop.index = start.ring.lastAvail + UInt16.ofNat index ∧
      (start.ring.availEntry pop.memory pop.index : Outcome Empty _) = .ok pop.head := by
  rw [← List.append_assoc] at hget
  rcases Nat.lt_trichotomy index (plane.consumed ++ plane.pending).length with
    hlt | heq | hgt
  · rw [List.getElem?_append_left hlt] at hget
    exact h.conserved.entries index pop hget
  · subst heq
    rw [List.getElem?_concat_length] at hget
    cases hget
    obtain ⟨-, he, -⟩ := popAvail_some hpop
    refine ⟨by rw [List.length_append]; exact h.conserved.avail, ?_⟩
    have hs : (start.ring.availEntry plane.host plane.ring.lastAvail : Outcome Empty _) =
        plane.ring.availEntry plane.host plane.ring.lastAvail := by
      rw [h.ring]
      rfl
    exact hs.trans he
  · rw [List.getElem?_eq_none (by simp at hgt ⊢; omega)] at hget
    cases hget

theorem Balanced.ring_pop : ring = { plane.ring with lastAvail := (start.ring.lastAvail +
      UInt16.ofNat (plane.consumed.length + (plane.pending ++ [plane.pop head]).length)) } := by
  obtain ⟨hring, -, -⟩ := popAvail_some hpop
  have hnext : plane.ring.lastAvail + 1 = start.ring.lastAvail +
      UInt16.ofNat (plane.consumed.length + (plane.pending ++ [plane.pop head]).length) := by
    rw [h.conserved.avail, List.length_append, ← Nat.add_assoc,
      UInt16.ofNat_add (plane.consumed.length + plane.pending.length), ← UInt16.add_assoc]
    rfl
  rw [hring, hnext]

/-- A driver that conforms leaves room for the entry that is taken. -/
theorem Balanced.room_pop (hconforms : plane.Conforming .turn) :
    plane.pending.length + 1 ≤ start.ring.num.toNat := by
  obtain ⟨-, -, index, hidx, hne⟩ := popAvail_some hpop
  have hroom := hconforms.1 index hidx
  have hsize : plane.ring.num = start.ring.num := by rw [h.ring]
  have hahead := sub_succ_toNat hne
  rw [hsize] at hroom
  omega

end Popped

theorem drainTurn_cases {frames : List Bytes} (h : plane.drainTurn frames count = .ok after) :
    ((plane.ring.popAvail plane.host : Outcome Empty _) = .ok none ∧
        ∃ signals, after = { plane with
          call := .returned (.frames frames)
          signals := signals }) ∨
      ∃ head ring host result frames',
        (plane.ring.popAvail plane.host : Outcome Empty _) = .ok (some (head, ring)) ∧
          (ring.setUsedElem plane.host 0 head 0 : Outcome Empty _) = .ok host ∧
          (ring.publishUsed host 1 : Outcome Empty _) = .ok result ∧
          after = { plane with
            ring := result.1
            host := result.2
            call := .draining frames' (count + 1)
            consumed := plane.consumed ++ [plane.pop head]
            published := plane.published ++ [⟨head, 0⟩] } := by
  obtain ⟨popped, hpop, h⟩ := bind_eq_ok_iff.mp h
  cases popped with
  | none =>
    obtain ⟨signal, -, h⟩ := bind_eq_ok_iff.mp h
    cases h
    exact .inl ⟨hpop, _, rfl⟩
  | some taken =>
    obtain ⟨head, ring⟩ := taken
    obtain ⟨chain, -, h⟩ := bind_eq_ok_iff.mp h
    obtain ⟨host, hset, h⟩ := bind_eq_ok_iff.mp h
    obtain ⟨result, hpub, h⟩ := bind_eq_ok_iff.mp h
    cases h
    exact .inr ⟨head, ring, host, result, _, hpop, hset, hpub, rfl⟩

def fill (plane : Dataplane) (filling : Filling) (head : UInt16) (ring : Vring)
    (chain : Vring.Chain) : Dataplane :=
  let filled := fillChain plane.host filling 0 chain.writable
  { plane with
    ring := ring
    host := filled.1
    call := .writing { filled.2.1 with used := filled.2.1.used ++ [⟨head, filled.2.2⟩] }
    pending := plane.pending ++ [plane.pop head] }

/-- A turn completes the frame, drops it for want of buffers, meets a malformed
chain, or fills one. -/
theorem writeTurn_cases (h : plane.writeTurn filling = .ok after) :
    (filling.remaining = 0 ∧
        plane.complete plane.ring
          (patchHeader plane.host filling.hdrSeg filling.used.length) filling.used
          plane.pending true = .ok after) ∨
      (filling.remaining ≠ 0 ∧ after = plane.rollback filling) ∨
      ∃ head ring, filling.remaining ≠ 0 ∧
        (plane.mrgRxbuf = false → filling.used.length ≠ 1) ∧
        (plane.ring.popAvail plane.host : Outcome Empty _) = .ok (some (head, ring)) ∧
        ((∃ reason, ring.resolveChain plane.host plane.mem head = .error reason ∧
            plane.complete ring plane.host
              ((filling.used ++ [UsedChain.mk head 0]).map
                fun chain => { chain with written := 0 })
              (plane.pending ++ [plane.pop head]) false = .ok after) ∨
          ∃ chain, ring.resolveChain plane.host plane.mem head = .ok chain ∧
            after = plane.fill filling head ring chain) := by
  unfold writeTurn at h
  split at h
  · rename_i hd
    exact .inl ⟨hd, h⟩
  rename_i hleft
  split at h
  · cases h
    exact .inr (.inl ⟨hleft, rfl⟩)
  rename_i hgoes
  obtain ⟨popped, hpop, h⟩ := bind_eq_ok_iff.mp h
  cases popped with
  | none =>
    cases h
    exact .inr (.inl ⟨hleft, rfl⟩)
  | some taken =>
    obtain ⟨head, ring⟩ := taken
    refine .inr (.inr ⟨head, ring, hleft, ?_, hpop, ?_⟩)
    · intro hsing hone
      simp [hsing, hone] at hgoes
    dsimp only at h
    cases hch : ring.resolveChain plane.host plane.mem head with
    | ok chain =>
      rw [hch] at h
      cases h
      exact .inr ⟨chain, rfl, rfl⟩
    | error reason =>
      rw [hch] at h
      exact .inl ⟨reason, rfl, h⟩
    | panic =>
      rw [hch] at h
      cases h

theorem Balanced.drainTurn (hdvd : start.ring.num.toNat ∣ 65536) (h : Balanced start plane)
    (hconforms : plane.Conforming .turn) {frames : List Bytes}
    (hc : plane.call = .draining frames count)
    (hturn : plane.drainTurn frames count = .ok after) : Balanced start after := by
  have hpend : plane.pending = [] := by
    have hinside := h.call
    rw [hc] at hinside
    exact hinside
  rcases drainTurn_cases hturn with
    ⟨-, signals, rfl⟩ | ⟨head, ring, host, result, frames', hpop, hset, hpub, rfl⟩
  · obtain ⟨hu, havail, -, hheads, hentries, hslots⟩ := h.conserved
    exact ⟨h.ring, ⟨hu, havail, fun _ _ => hpend, hheads, hentries, hslots⟩, hpend⟩
  have hgive : (ring.giveBack plane.host [⟨head, 0⟩] : Outcome Empty _) = .ok result :=
    giveBack_singleton hset hpub
  have hring := h.ring_pop hpop
  have hentries := h.entries_pop hpop
  have hroom := h.room_pop hpop hconforms
  rw [hpend] at hring hentries hroom ⊢
  exact h.giveBack hdvd
    ⟨hring, fun _ _ _ _ _ => rfl, rfl, hentries, by simpa using hroom⟩ hgive
    (fun _ => Iff.rfl) plane.signals

theorem Balanced.complete (hdvd : start.ring.num.toNat ∣ 65536) (h : Balanced start plane)
    {host : Host} {pops : List Pop} {delivered : Bool}
    (hgives : GivesBack start plane ring host used pops)
    (hcomplete : plane.complete ring host used pops delivered = .ok after) :
    Balanced start after := by
  obtain ⟨result, hgive, hcomplete⟩ := bind_eq_ok_iff.mp hcomplete
  obtain ⟨signal, -, hcomplete⟩ := bind_eq_ok_iff.mp hcomplete
  cases hcomplete
  exact h.giveBack hdvd hgives hgive (fun _ => Iff.rfl) _

theorem Balanced.rollback (h : Balanced start plane)
    (hstart : filling.startAvail =
      start.ring.lastAvail + UInt16.ofNat plane.consumed.length) :
    Balanced start (plane.rollback filling) := by
  obtain ⟨hu, -, -, hheads, hentries, hslots⟩ := h.conserved
  refine ⟨?_, ⟨hu, ?_, fun _ _ => rfl, hheads, ?_, hslots⟩, rfl⟩
  · simp only [Dataplane.rollback]
    rw [h.ring]
  · simpa [Dataplane.rollback] using hstart
  intro index pop hget
  simp only [Dataplane.rollback, List.append_nil] at hget
  refine hentries index pop ?_
  rw [List.getElem?_append_left (List.getElem?_eq_some_iff.mp hget).1]
  exact hget

theorem Balanced.fill (h : Balanced start plane) (hc : plane.call = .writing filling)
    (hconforms : plane.Conforming .turn)
    (hpop : (plane.ring.popAvail plane.host : Outcome Empty _) = .ok (some (head, ring)))
    {chain : Chain} (hch : ring.resolveChain plane.host plane.mem head = .ok chain) :
    Balanced start (plane.fill filling head ring chain) := by
  have hinside := h.call
  rw [hc] at hinside
  obtain ⟨hstart, hheads, -, hhdr⟩ := hinside
  have hslices : plane.ring.used = start.ring.used := by rw [h.ring]
  have hcopied (slice : Slice) (hsl : start.ring.used = some slice) :
      Copied slice plane.host filling (fillChain plane.host filling 0 chain.writable) :=
    copied_fillChain _ _ _ _ (hconforms.2 head ring chain slice hpop hch
      (hslices.trans hsl)) (hhdr slice hsl)
  -- The variables of the frame do not depend on where the used ring is.
  have hfields : Copied ⟨0, 0⟩ plane.host filling
      (fillChain plane.host filling 0 chain.writable) :=
    copied_fillChain _ _ _ _ (fun _ _ => .inr (Nat.zero_le _))
      fun _ _ => .inr (Nat.zero_le _)
  have hring := h.ring_pop hpop
  have hroom := h.room_pop hpop hconforms
  unfold Dataplane.fill
  generalize fillChain plane.host filling 0 chain.writable = filled at hcopied hfields ⊢
  have hlen : filling.used.length = plane.pending.length := by
    simpa using congrArg List.length hheads
  obtain ⟨hu, -, -, hpublished, -, hslots⟩ := h.conserved
  refine ⟨?_, ⟨?_, ?_, fun _ hidle => (nomatch hidle), hpublished, h.entries_pop hpop, ?_⟩,
    ?_, ?_, ?_, ?_⟩
  · rw [hring, h.ring]
  · rw [hring]
    exact hu
  · dsimp only
    rw [hring]
  · intro slice hsl
    exact (hslots slice hsl).sameBytes (hcopied slice hsl).bytes
  · exact hfields.startAvail.trans hstart
  · simp only [hfields.used, List.map_append, hheads]
    rfl
  · simp only [hfields.used, List.length_append, List.length_singleton]
    omega
  · intro slice hsl
    exact (hcopied slice hsl).header

theorem Balanced.writeTurn (hdvd : start.ring.num.toNat ∣ 65536) (h : Balanced start plane)
    (hconforms : plane.Conforming .turn) (hc : plane.call = .writing filling)
    (hturn : plane.writeTurn filling = .ok after) : Balanced start after := by
  have hinside := h.call
  rw [hc] at hinside
  obtain ⟨hstart, hheads, hroom, hhdr⟩ := hinside
  rcases writeTurn_cases hturn with
    ⟨-, hturn⟩ | ⟨-, rfl⟩ | ⟨head, ring, -, -, hpop, ⟨reason, -, hturn⟩ | ⟨chain, hch, rfl⟩⟩
  · refine h.complete hdvd ⟨?_, ?_, hheads, h.conserved.entries, hroom⟩ hturn
    · rw [← h.conserved.avail]
    · exact fun slice hsl => sameBytes_patchHeader _ (hhdr slice hsl) _
  · exact h.rollback hstart
  · have hnext := h.room_pop hpop hconforms
    have hlen : filling.used.length = plane.pending.length := by
      simpa using congrArg List.length hheads
    refine h.complete hdvd
      ⟨h.ring_pop hpop, fun _ _ _ _ _ => rfl, ?_, h.entries_pop hpop, ?_⟩ hturn
    · simp only [List.map_append, List.map_map, hheads.symm]
      rfl
    · simp only [List.length_map, List.length_append, List.length_singleton]
      omega
  · exact h.fill hc hconforms hpop hch

/-! ## Whole runs -/

theorem Balanced.enter (h : Balanced start plane) (hc : plane.call = .returned result)
    {call : Call} (hinside : CallBalanced start plane call) :
    Balanced start { plane with call := call } := by
  have hpend := h.conserved.returned result hc
  obtain ⟨hu, havail, -, hheads, hentries, hslots⟩ := h.conserved
  exact ⟨h.ring, ⟨hu, havail, fun _ _ => hpend, hheads, hentries, hslots⟩, hinside⟩

theorem Balanced.enterWriteFrame (h : Balanced start plane)
    (hc : plane.call = .returned result) (frame : Bytes) :
    Balanced start (plane.enterWriteFrame frame) := by
  have hpend := h.conserved.returned result hc
  unfold Dataplane.enterWriteFrame
  split
  · exact h.enter hc hpend
  refine h.enter hc ⟨?_, ?_, Nat.zero_le _, fun _ _ _ hsegment => nomatch hsegment⟩
  · have havail := h.conserved.avail
    rw [hpend] at havail
    exact havail
  · rw [hpend]
    rfl

theorem value?_eq_some {ε α : Type} {outcome : Outcome ε α} {value : α}
    (h : value? outcome = some value) : outcome = .ok value := by
  cases outcome with
  | ok found => exact congrArg ok (Option.some.inj h)
  | error reason | panic => cases h

theorem Balanced.step (hdvd : start.ring.num.toNat ∣ 65536) (h : Balanced start plane)
    {move : Move} (hstep : Guarded Conforming Step plane move after) :
    Balanced start after := by
  obtain ⟨hconforms, hstep⟩ := hstep
  cases move with
  | guest host =>
    cases hstep
    obtain ⟨hu, havail, hidle, hheads, hentries, hslots⟩ := h.conserved
    have hslices : plane.ring.used = start.ring.used := by rw [h.ring]
    refine ⟨h.ring, ⟨hu, havail, hidle, hheads, hentries, ?_⟩, h.call⟩
    intro slice hsl
    exact (hslots slice hsl).sameBytes (hconforms slice (hslices.trans hsl))
  | drainTXLocked =>
    simp only [Step, Dataplane.apply] at hstep
    split at hstep
    · rename_i result hc
      cases hstep
      exact h.enter hc (h.conserved.returned result hc)
    · cases hstep
  | writeFrame frame =>
    simp only [Step, Dataplane.apply] at hstep
    split at hstep
    · rename_i result hc
      cases hstep
      exact h.enterWriteFrame hc frame
    · cases hstep
  | turn =>
    simp only [Step, Dataplane.apply] at hstep
    split at hstep
    · cases hstep
    · rename_i frames count hc
      exact h.drainTurn hdvd hconforms hc (value?_eq_some hstep)
    · rename_i filling hc
      exact h.writeTurn hdvd hconforms hc (value?_eq_some hstep)

theorem Conserved.advance (h : Conserved start plane)
    (hreturned : plane.call = .returned result) :
    plane.published.length = plane.consumed.length ∧
      plane.ring.usedIdx - start.ring.usedIdx =
        plane.ring.lastAvail - start.ring.lastAvail := by
  have hlen : plane.published.length = plane.consumed.length := by
    simpa using congrArg List.length h.heads
  refine ⟨hlen, ?_⟩
  rw [h.used, h.avail, h.returned result hreturned, hlen, List.length_nil, Nat.add_zero,
    UInt16.add_comm, UInt16.add_sub_cancel, UInt16.add_comm, UInt16.add_sub_cancel]

/-- Every call returns the chains it took and no others, in order. -/
theorem used_ring_conserves_chains (hstart : start.Fresh)
    (h : Reachable (fun first => first = start) (Guarded Conforming Step) plane) :
    Conserved start plane ∧
      ∀ result, plane.call = .returned result →
        plane.published.length = plane.consumed.length ∧
          plane.ring.usedIdx - start.ring.usedIdx =
            plane.ring.lastAvail - start.ring.lastAvail := by
  have hbalanced : Balanced start plane := by
    refine Reachable.induct ?_ ?_ h
    · rintro first rfl
      exact hstart.balanced
    · intro state move after _ ih hstep
      exact ih.step hstart.dvd hstep
  exact ⟨hbalanced.conserved, fun _ hreturned => hbalanced.conserved.advance hreturned⟩

/-- Two chains of one segment each, of which the first has the given length, and
indices that stand at `index`. -/
def twoChains (first : Nat) (index : UInt16) : Dataplane where
  ring := {
    num := 2
    desc := some ⟨0, 32⟩
    avail := some ⟨32, 10⟩
    used := some ⟨48, 22⟩
    lastAvail := index
    usedIdx := index
    started := true }
  mem := ⟨[⟨0, 4096, 0, ⟨0, 4096⟩, ⟨0, 4096⟩⟩]⟩
  mrgRxbuf := true
  host := byteAt (putLE64 128 ++ putLE32 first ++ putLE16 2 ++ putLE16 0 ++
    putLE64 160 ++ putLE32 20 ++ putLE16 2 ++ putLE16 0 ++
    putLE16 0 ++ putLE16 (index + 2).toNat ++ putLE16 0 ++ putLE16 1)

/-- Decides `Conforming` where the guest stands still. -/
def conforms (plane : Dataplane) : Move → Bool
  | .guest _ => false
  | .turn =>
    (value? (plane.ring.availIdx plane.host : Outcome Empty _)).all (fun index =>
      (index - plane.ring.lastAvail).toNat + plane.pending.length ≤ plane.ring.num.toNat) &&
    (value? (plane.ring.popAvail plane.host : Outcome Empty _)).join.all fun popped =>
      (value? (popped.2.resolveChain plane.host plane.mem popped.1)).all fun chain =>
        plane.ring.used.all fun slice => chain.writable.all (Apart · slice)
  | _ => true

theorem conforming_of_conforms {move : Move} (h : plane.conforms move = true) :
    plane.Conforming move := by
  cases move with
  | turn =>
    obtain ⟨hroom, hapart⟩ := Bool.and_eq_true_iff.mp h
    refine ⟨fun index hidx => ?_, fun head ring chain slice hpop hch hu segment hseg => ?_⟩
    · rw [hidx] at hroom
      exact of_decide_eq_true hroom
    · simp only [hpop, value?, Option.join_some, Option.all_some, hch, hu] at hapart
      exact of_decide_eq_true (List.all_eq_true.mp hapart segment hseg)
  | guest host => cases h
  | _ => trivial

/-- Both indices wrap while one frame is written into two chains. -/
theorem used_ring_conserves_chains_wrapping :
    ∃ plane, Reachable (fun first => first = twoChains 20 65535)
        (Guarded Conforming Step) plane ∧
      plane.published = [⟨1, 20⟩, ⟨0, 1⟩] ∧ plane.ring.usedIdx = 1 ∧
      plane.ring.lastAvail = 1 ∧ Conserved (twoChains 20 65535) plane := by
  have hfresh : (twoChains 20 65535).Fresh := ⟨⟨1, by decide, rfl⟩, ⟨_, rfl⟩, rfl, rfl, rfl⟩
  obtain ⟨plane, hrun, hpublished, hu, havail⟩ : ∃ plane,
      replay apply (fun state move => state.conforms move = true) (twoChains 20 65535)
        [.writeFrame [1, 2, 3, 4, 5, 6, 7, 8, 9], .turn, .turn, .turn] = some plane ∧
      plane.published = [⟨1, 20⟩, ⟨0, 1⟩] ∧ plane.ring.usedIdx = 1 ∧
      plane.ring.lastAvail = 1 := ⟨_, rfl, by decide, rfl, rfl⟩
  have hreach : Reachable (fun first => first = twoChains 20 65535)
      (Guarded Conforming Step) plane := by
    refine Reachable.mono ?_ (Reachable.replay (.start ?_) hrun)
    · exact fun _ _ _ hstep => ⟨conforming_of_conforms hstep.1, hstep.2⟩
    · rfl
  exact ⟨plane, hreach, hpublished, hu, havail, (used_ring_conserves_chains hfresh hreach).1⟩

end Dataplane

end GvSwitch.VhostUser
