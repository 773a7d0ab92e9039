import GvSwitch.VhostUser.Dataplane

/-!
# The used ring in memory

What a write to the used ring leaves in memory: an element in its own slot and
every other slot as it was.  Slots are counted without a bound and reduced
modulo the ring size, which divides the range of the 16-bit indices.
-/

namespace GvSwitch.VhostUser

open Foundation Outcome

/-! ## Words in memory -/

def wordAt (host : Host) (slice : Slice) (offset : Nat) : Nat :=
  le32 (readAt host slice offset 4) 0

theorem wordAt_eq (host : Host) (slice : Slice) (offset : Nat) :
    wordAt host slice offset =
      (host (slice.base + offset)).toNat + (host (slice.base + offset + 1)).toNat * 256 +
        ((host (slice.base + offset + 2)).toNat +
          (host (slice.base + offset + 3)).toNat * 256) * 65536 := by
  simp [wordAt, le32, le16, byteAt, readAt, List.range_succ]

variable {offset : Nat}

theorem wordAt_congr {host other : Host} {slice : Slice}
    (h : ∀ index < 4, other (slice.base + offset + index) =
      host (slice.base + offset + index)) :
    wordAt other slice offset = wordAt host slice offset := by
  rw [wordAt_eq, wordAt_eq, h 1 (by decide), h 2 (by decide), h 3 (by decide)]
  have hfst := h 0 (by decide)
  rw [Nat.add_zero] at hfst
  rw [hfst]

theorem wordAt_writeAt_of_apart (host : Host) (slice : Slice) {other : Nat} {bytes : Bytes}
    (h : offset + 4 ≤ other ∨ other + bytes.length ≤ offset) :
    wordAt (writeAt host slice other bytes) slice offset = wordAt host slice offset := by
  refine wordAt_congr fun index hidx => ?_
  unfold writeAt
  rw [if_neg]
  omega

theorem wordAt_writeAt_self (host : Host) (slice : Slice) (offset : Nat) {value : Nat}
    (h : value < 2 ^ 32) :
    wordAt (writeAt host slice offset (putLE32 value)) slice offset = value := by
  rw [wordAt_eq]
  have hbyte (index : Nat) (hidx : index < 4) :
      writeAt host slice offset (putLE32 value) (slice.base + offset + index) =
        byteAt (putLE32 value) index := by
    unfold writeAt
    rw [if_pos]
    · congr 1
      omega
    · simp only [putLE32, putLE16, List.length_append, List.length_cons, List.length_nil]
      omega
  have hfst := hbyte 0 (by decide)
  rw [Nat.add_zero] at hfst
  rw [hfst, hbyte 1 (by decide), hbyte 2 (by decide), hbyte 3 (by decide)]
  simp [byteAt, putLE32, putLE16]
  omega

/-! ## Elements -/

def usedAt (host : Host) (slice : Slice) (position : Nat) : Nat × Nat :=
  (wordAt host slice (4 + 8 * position), wordAt host slice (4 + 8 * position + 4))

def UsedChain.words (chain : UsedChain) : Nat × Nat :=
  (chain.head.toNat, chain.written.toNat)

variable {position : Nat}

theorem usedAt_writeAt_of_apart (host : Host) (slice : Slice) {other : Nat} {bytes : Bytes}
    (h : 4 + 8 * position + 8 ≤ other ∨ other + bytes.length ≤ 4 + 8 * position) :
    usedAt (writeAt host slice other bytes) slice position = usedAt host slice position := by
  unfold usedAt
  rw [wordAt_writeAt_of_apart, wordAt_writeAt_of_apart]
  · omega
  · omega

theorem mod_ne {first second num : Nat} (hlt : first < second)
    (hnear : second < first + num) : first % num ≠ second % num := by
  intro heq
  have hzero := Nat.sub_mod_eq_zero_of_mod_eq heq.symm
  rw [Nat.mod_eq_of_lt (by omega)] at hzero
  omega

def SameBytes (slice : Slice) (host other : Host) : Prop :=
  ∀ address, slice.base ≤ address → address < slice.base + slice.len →
    other address = host address

theorem SameBytes.usedAt {slice : Slice} {host other : Host}
    (h : SameBytes slice host other) (hbound : 4 + 8 * position + 8 ≤ slice.len) :
    usedAt other slice position = usedAt host slice position := by
  have hword (offset : Nat) (hoffset : offset + 4 ≤ slice.len) :
      wordAt other slice offset = wordAt host slice offset :=
    wordAt_congr fun index hidx => h _ (by omega) (by omega)
  unfold VhostUser.usedAt
  rw [hword _ (by omega), hword _ (by omega)]

variable {result : Vring × Host} {used : List UsedChain}

namespace Vring

variable {ε : Type} {ring : Vring} {slice : Slice} {host after : Host}

theorem slot_spec {index : UInt32} (h : (ring.slot index : Outcome ε Nat) = .ok position) :
    position = index.toNat % ring.num.toNat := by
  unfold slot at h
  split at h
  · cases h
  · cases h
    rw [UInt32.toNat_mod]

theorem within_spec {part : Option Slice} {count : Nat} {found : Slice}
    (hsl : part = some slice) (h : (within part offset count : Outcome ε Slice) = .ok found) :
    found = slice ∧ offset + count ≤ slice.len := by
  unfold within at h
  rw [hsl] at h
  dsimp only at h
  split at h
  · rename_i hbound
    cases h
    exact ⟨rfl, hbound⟩
  · cases h

def usedSlot (ring : Vring) (index : Nat) : Nat := (ring.usedIdx.toNat + index) % ring.num.toNat

theorem setUsedElem_spec (hsl : ring.used = some slice) {slot head : UInt16}
    {written : UInt32}
    (h : (ring.setUsedElem host slot head written : Outcome ε Host) = .ok after) :
    4 + 8 * ring.usedSlot slot.toNat + 8 ≤ slice.len ∧
      usedAt after slice (ring.usedSlot slot.toNat) = (head.toNat, written.toNat) ∧
      ∀ other, other ≠ ring.usedSlot slot.toNat →
        usedAt after slice other = usedAt host slice other := by
  obtain ⟨position, hpos, h⟩ := bind_eq_ok_iff.mp h
  obtain ⟨found, hf, h⟩ := bind_eq_ok_iff.mp h
  obtain ⟨second, hsnd, h⟩ := bind_eq_ok_iff.mp h
  obtain ⟨rfl, -⟩ := within_spec hsl hf
  obtain ⟨rfl, hbound⟩ := within_spec hsl hsnd
  have hslot : position = ring.usedSlot slot.toNat := by
    have hidx := ring.usedIdx.toNat_lt
    have hoffset := slot.toNat_lt
    have hsum : (ring.usedIdx.toNat + slot.toNat) % 2 ^ 32 =
        ring.usedIdx.toNat + slot.toNat := Nat.mod_eq_of_lt (by omega)
    rw [slot_spec hpos, usedSlot, UInt32.toNat_add, UInt16.toNat_toUInt32,
      UInt16.toNat_toUInt32, hsum]
  have hhead : head.toNat < 2 ^ 32 := Nat.lt_trans head.toNat_lt (by decide)
  cases h
  subst hslot
  refine ⟨by omega, ?_, fun other ho => ?_⟩
  · unfold usedAt
    rw [wordAt_writeAt_self _ _ _ written.toNat_lt, wordAt_writeAt_of_apart,
      wordAt_writeAt_self _ _ _ hhead]
    omega
  · rw [usedAt_writeAt_of_apart, usedAt_writeAt_of_apart]
    · simp only [putLE32, putLE16, List.length_append, List.length_cons, List.length_nil]
      omega
    · simp only [putLE32, putLE16, List.length_append, List.length_cons, List.length_nil]
      omega

theorem publishUsed_spec (hsl : ring.used = some slice) {count : UInt16}
    (h : (ring.publishUsed host count : Outcome ε (Vring × Host)) = .ok result) :
    result.1 = { ring with usedIdx := ring.usedIdx + count } ∧
      ∀ position, usedAt result.2 slice position = usedAt host slice position := by
  obtain ⟨found, hf, h⟩ := bind_eq_ok_iff.mp h
  obtain ⟨rfl, -⟩ := within_spec hsl hf
  cases h
  refine ⟨rfl, fun position => usedAt_writeAt_of_apart _ _ (.inr ?_)⟩
  simp only [putLE32, putLE16, List.length_append, List.length_cons, List.length_nil]
  omega

/-- The loop leaves each element in its slot and all others as they were. -/
theorem setUsedElems_spec (hsl : ring.used = some slice) (hnum : ring.num.toNat ≤ 65536)
    {index : Nat} (hroom : index + used.length ≤ ring.num.toNat)
    (h : (ring.setUsedElems host index used : Outcome ε Host) = .ok after) :
    (∀ offset chain, used[offset]? = some chain →
      4 + 8 * ring.usedSlot (index + offset) + 8 ≤ slice.len ∧
        usedAt after slice (ring.usedSlot (index + offset)) = chain.words) ∧
    (∀ position, (∀ offset < used.length, position ≠ ring.usedSlot (index + offset)) →
      usedAt after slice position = usedAt host slice position) := by
  induction used generalizing host index with
  | nil =>
    cases h
    exact ⟨fun offset chain hch => (nomatch hch), fun position _ => rfl⟩
  | cons first rest ih =>
    obtain ⟨middle, hfst, hrest⟩ := bind_eq_ok_iff.mp h
    rw [List.length_cons] at hroom
    obtain ⟨hbound, hself, hothers⟩ := setUsedElem_spec hsl hfst
    have hidx : (UInt16.ofNat index).toNat = index := by
      exact Nat.mod_eq_of_lt (by omega)
    rw [hidx] at hbound hself hothers
    obtain ⟨hpl, hkept⟩ := ih (by omega) hrest
    refine ⟨fun offset chain hch => ?_, fun position hpos => ?_⟩
    · cases offset with
      | zero =>
        cases hch
        refine ⟨hbound, ?_⟩
        rw [Nat.add_zero, hkept, hself]
        · rfl
        · intro offset hoffset
          exact mod_ne (by omega) (by omega)
      | succ offset =>
        have hsucc : index + (offset + 1) = index + 1 + offset := by omega
        rw [hsucc]
        exact hpl offset chain hch
    · rw [hkept, hothers]
      · exact hpos 0 (by simp)
      intro offset hoffset
      have hsucc : index + 1 + offset = index + (offset + 1) := by omega
      rw [hsucc]
      exact hpos (offset + 1) (by simpa using hoffset)

theorem giveBack_singleton {chain : UsedChain}
    (hset : (ring.setUsedElem host 0 chain.head chain.written : Outcome ε Host) = .ok after)
    (hpub : (ring.publishUsed after 1 : Outcome ε (Vring × Host)) = .ok result) :
    (ring.giveBack host [chain] : Outcome ε (Vring × Host)) = .ok result := by
  have hsetAll := bind_eq_ok_iff.mpr ⟨after, hset, rfl⟩
  exact bind_eq_ok_iff.mpr ⟨after, hsetAll, hpub⟩

theorem giveBack_ring
    (h : (ring.giveBack host used : Outcome ε (Vring × Host)) = .ok result) :
    result.1 = { ring with usedIdx := ring.usedIdx + UInt16.ofNat used.length } := by
  obtain ⟨middle, -, hpub⟩ := bind_eq_ok_iff.mp h
  obtain ⟨found, -, hpub⟩ := bind_eq_ok_iff.mp hpub
  cases hpub
  rfl

/-- Chains that went back are in the next slots, and the index has moved on. -/
theorem giveBack_spec (hsl : ring.used = some slice) (hnum : ring.num.toNat ≤ 65536)
    (hroom : used.length ≤ ring.num.toNat)
    (h : (ring.giveBack host used : Outcome ε (Vring × Host)) = .ok result) :
    result.1 = { ring with usedIdx := ring.usedIdx + UInt16.ofNat used.length } ∧
      (∀ offset chain, used[offset]? = some chain →
        4 + 8 * ring.usedSlot offset + 8 ≤ slice.len ∧
          usedAt result.2 slice (ring.usedSlot offset) = chain.words) ∧
      (∀ position, (∀ offset < used.length, position ≠ ring.usedSlot offset) →
        usedAt result.2 slice position = usedAt host slice position) := by
  obtain ⟨middle, hset, hpub⟩ := bind_eq_ok_iff.mp h
  obtain ⟨hring, hs⟩ := publishUsed_spec hsl hpub
  obtain ⟨hpl, hkept⟩ := setUsedElems_spec hsl hnum (by omega) hset
  simp only [Nat.zero_add] at hpl hkept
  refine ⟨hring, fun offset chain hch => ?_, fun position hpos => ?_⟩
  · rw [hs]
    exact hpl offset chain hch
  · rw [hs]
    exact hkept position hpos

end Vring

/-! ## Elements over a whole run -/

def Shelved (host : Host) (slice : Slice) (num first : Nat) (chains : List UsedChain) : Prop :=
  ∀ index chain, chains[index]? = some chain → chains.length ≤ index + num →
    4 + 8 * ((first + index) % num) + 8 ≤ slice.len ∧
      usedAt host slice ((first + index) % num) = chain.words

section Shelved

variable {host after : Host} {slice : Slice} {num first : Nat} {chains : List UsedChain}

theorem Shelved.sameBytes (h : Shelved host slice num first chains)
    (hs : SameBytes slice host after) : Shelved after slice num first chains := by
  intro index chain hch hrecent
  obtain ⟨hbound, hwords⟩ := h index chain hch hrecent
  exact ⟨hbound, (hs.usedAt hbound).trans hwords⟩

theorem Shelved.append (h : Shelved host slice num first chains) {more : List UsedChain}
    (hpl : ∀ offset chain, more[offset]? = some chain →
      4 + 8 * ((first + chains.length + offset) % num) + 8 ≤ slice.len ∧
        usedAt after slice ((first + chains.length + offset) % num) = chain.words)
    (hkept : ∀ position,
      (∀ offset < more.length, position ≠ (first + chains.length + offset) % num) →
        usedAt after slice position = usedAt host slice position) :
    Shelved after slice num first (chains ++ more) := by
  intro index chain hch hrecent
  rw [List.length_append] at hrecent
  by_cases hold : index < chains.length
  · rw [List.getElem?_append_left hold] at hch
    obtain ⟨hbound, hwords⟩ := h index chain hch (by omega)
    refine ⟨hbound, ?_⟩
    rw [hkept, hwords]
    intro offset hoffset
    exact mod_ne (by omega) (by omega)
  · rw [List.getElem?_append_right (Nat.not_lt.mp hold)] at hch
    have hidx : first + index = first + chains.length + (index - chains.length) := by omega
    rw [hidx]
    exact hpl _ chain hch

end Shelved

end GvSwitch.VhostUser
