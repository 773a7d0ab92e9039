import GvSwitch.VhostUser.Proto

/-!
# Reading control messages

The socket as the chunks that one `recvmsg` each may return, up to the point
where the connection is cut.  `readMsg` takes the descriptors together with the
first bytes of the header; the rest of the header and the payload come from
plain reads, which drop whatever is attached to them.
-/

namespace GvSwitch.VhostUser

open Foundation

def hdrSize : Nat := 12

def maxPayloadSize : Nat := 4096

def maxInFds : Nat := 32

/-- `intact` tells whether `ParseSocketControlMessage` accepts what is attached. -/
structure Chunk where
  bytes : Bytes
  fds : List Nat := []
  intact : Bool := true
  deriving DecidableEq, Repr

def stream (socket : List Chunk) : Bytes := socket.flatMap (·.bytes)

inductive ReadError where
  | cut
  | oversized (size : Nat)
  | badControl
  deriving DecidableEq, Repr

/-- The first call of `readMsg`: part of a header and the descriptors. -/
def readHeader : List Chunk → Option (Chunk × List Chunk)
  | [] => none
  | chunk :: rest =>
    if chunk.bytes = [] then readHeader rest
    else
      some ({ chunk with
          bytes := chunk.bytes.take hdrSize
          fds := chunk.fds.take maxInFds },
        ⟨chunk.bytes.drop hdrSize, [], true⟩ :: rest)

def readFull : Nat → List Chunk → Option (Bytes × List Chunk)
  | 0, socket => some ([], socket)
  | _ + 1, [] => none
  | count + 1, chunk :: rest =>
    if chunk.bytes.length ≤ count + 1 then
      (readFull (count + 1 - chunk.bytes.length) rest).map fun read =>
        (chunk.bytes ++ read.1, read.2)
    else
      some (chunk.bytes.take (count + 1),
        ⟨chunk.bytes.drop (count + 1), [], true⟩ :: rest)

def readRest (head : Chunk) (socket : List Chunk) :
    Except ReadError (Message × List Chunk) :=
  match readFull (hdrSize - head.bytes.length) socket with
  | none => .error .cut
  | some (tail, socket) =>
    let hdr := head.bytes ++ tail
    let size := le32 hdr 8
    if maxPayloadSize < size then .error (.oversized size)
    else
      match readFull size socket with
      | none => .error .cut
      | some (payload, socket) =>
        if head.intact = false then .error .badControl
        else
          .ok (⟨UInt32.ofNat (le32 hdr 0), UInt32.ofNat (le32 hdr 4), payload,
            head.fds⟩, socket)

/-! ## Complete messages -/

/-- The stream holds the rest of the header and a payload of permitted size, and
the control data can be parsed. -/
structure Whole (head : Chunk) (socket : List Chunk) : Prop where
  size : le32 (head.bytes ++ stream socket) 8 ≤ maxPayloadSize
  bytes : hdrSize - head.bytes.length + le32 (head.bytes ++ stream socket) 8 ≤
    (stream socket).length
  intact : head.intact = true

instance (head : Chunk) (socket : List Chunk) : Decidable (Whole head socket) :=
  decidable_of_iff
    (le32 (head.bytes ++ stream socket) 8 ≤ maxPayloadSize ∧
      hdrSize - head.bytes.length + le32 (head.bytes ++ stream socket) 8 ≤
        (stream socket).length ∧ head.intact = true)
    ⟨fun h => ⟨h.1, h.2.1, h.2.2⟩, fun h => ⟨h.size, h.bytes, h.intact⟩⟩

theorem readFull_nil {count : Nat} {bytes : Bytes} {rest : List Chunk}
    (h : readFull count [] = some (bytes, rest)) : rest = [] := by
  cases count with
  | zero =>
    cases h
    rfl
  | succ count => cases h

theorem readFull_eq (socket : List Chunk) {count : Nat}
    (hcount : count ≤ (stream socket).length) :
    ∃ rest, readFull count socket = some ((stream socket).take count, rest) ∧
      stream rest = (stream socket).drop count := by
  induction socket generalizing count with
  | nil =>
    obtain rfl : count = 0 := Nat.le_zero.mp hcount
    exact ⟨[], rfl, rfl⟩
  | cons chunk rest ih =>
    have hstream : stream (chunk :: rest) = chunk.bytes ++ stream rest := rfl
    rw [hstream] at hcount ⊢
    cases count with
    | zero => exact ⟨chunk :: rest, rfl, hstream⟩
    | succ count =>
      rw [readFull]
      split
      · rename_i hshort
        rw [List.length_append] at hcount
        obtain ⟨later, hread, hlater⟩ := @ih (count + 1 - chunk.bytes.length) (by omega)
        refine ⟨later, ?_, ?_⟩
        · rw [hread, List.take_append, List.take_of_length_le hshort]
          rfl
        · rw [hlater, List.drop_append, List.drop_eq_nil_of_le hshort, List.nil_append]
      · rename_i hlong
        have hinside : count + 1 ≤ chunk.bytes.length := by omega
        rw [List.take_append_of_le_length hinside, List.drop_append_of_le_length hinside]
        exact ⟨_, rfl, rfl⟩

theorem byteAt_append_take (first second : Bytes) {count offset : Nat}
    (h : offset < first.length + count) :
    byteAt (first ++ second.take count) offset = byteAt (first ++ second) offset := by
  by_cases hfst : offset < first.length
  · rw [byteAt_append_left _ _ hfst, byteAt_append_left _ _ hfst]
  · rw [byteAt_append_right _ _ (by omega), byteAt_append_right _ _ (by omega),
      byteAt_take _ (by omega)]

theorem readRest_of_whole {head : Chunk} {socket : List Chunk} (h : Whole head socket) :
    ∃ result, readRest head socket = .ok result := by
  obtain ⟨hsize, hbytes, hintact⟩ := h
  obtain ⟨rest, hhdr, hrest⟩ := readFull_eq socket
    (Nat.le_trans (Nat.le_add_right _ _) hbytes)
  have hfield : le32 (head.bytes ++ (stream socket).take (hdrSize - head.bytes.length)) 8 =
      le32 (head.bytes ++ stream socket) 8 := by
    have hbyte (offset : Nat) (hoffset : offset < 12) := byteAt_append_take head.bytes
      (stream socket) (show offset < head.bytes.length + (hdrSize - head.bytes.length) by
        unfold hdrSize
        omega)
    simp only [le32, le16, hbyte 8 (by decide), hbyte 9 (by decide), hbyte 10 (by decide),
      hbyte 11 (by decide), Nat.reduceAdd]
  obtain ⟨last, hpay, -⟩ := readFull_eq rest
    (show le32 (head.bytes ++ stream socket) 8 ≤ (stream rest).length by
      rw [hrest, List.length_drop]
      omega)
  rw [readRest, hhdr]
  dsimp only
  rw [hfield, if_neg (Nat.not_lt.mpr hsize), hpay]
  dsimp only
  rw [if_neg (by simp [hintact])]
  exact ⟨_, rfl⟩

theorem readRest_ok {head : Chunk} {socket rest : List Chunk} {message : Message}
    (h : readRest head socket = .ok (message, rest)) :
    message.fds = head.fds ∧ (socket = [] → rest = []) := by
  dsimp only [readRest] at h
  split at h
  · cases h
  rename_i tail middle hhdr
  split at h
  · cases h
  split at h
  · cases h
  rename_i payload last hpay
  split at h
  · cases h
  cases h
  refine ⟨rfl, ?_⟩
  rintro rfl
  rw [readFull_nil hhdr] at hpay
  exact readFull_nil hpay

end GvSwitch.VhostUser
