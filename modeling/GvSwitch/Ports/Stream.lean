import GvSwitch.Ports.Framing

/-!
# Frames on a stream that arrives in pieces

`readFrame` is stated for the whole stream.  A connection delivers the stream in
chunks of any size, and `io.ReadFull` gathers the bytes of one field from as many
chunks as it needs.
-/

namespace GvSwitch.Ports

open Foundation

inductive StreamError where
  | eof
  | unexpectedEOF
  | badLength (length : Nat)
  deriving DecidableEq, Repr

namespace StreamIO

/-- `io.ReadFull`: the end of the stream is `io.EOF` only before the first byte. -/
def readFull : Nat → List Bytes → Except StreamError (Bytes × List Bytes)
  | 0, chunks => .ok ([], chunks)
  | _ + 1, [] => .error .eof
  | count + 1, chunk :: rest =>
    if chunk.length ≤ count + 1 then
      match readFull (count + 1 - chunk.length) rest with
      | .ok (bytes, rest) => .ok (chunk ++ bytes, rest)
      | .error reason => .error (if chunk.isEmpty then reason else .unexpectedEOF)
    else .ok (chunk.take (count + 1), chunk.drop (count + 1) :: rest)

/-- `streamIO.ReadFrame` on the chunks still to come. -/
def readFrame (chunks : List Bytes) : Except StreamError (Bytes × List Bytes) :=
  match readFull 4 chunks with
  | .error reason => .error reason
  | .ok (hdr, chunks) =>
    let length := be32 hdr 0
    if length = 0 ∨ maxFrameSize < length then .error (.badLength length)
    else readFull length chunks

/-- The frames of repeated calls up to the first error, and the error. -/
def readFrames : Nat → List Bytes → List Bytes × Option StreamError
  | 0, _ => ([], none)
  | calls + 1, chunks =>
    match readFrame chunks with
    | .error reason => ([], some reason)
    | .ok (frame, rest) =>
      let later := readFrames calls rest
      (frame :: later.1, later.2)

/-! ## How the chunks are cut does not matter -/

theorem readFull_of_le {count : Nat} {chunks : List Bytes}
    (hcount : count ≤ chunks.flatten.length) :
    ∃ rest, readFull count chunks = .ok (chunks.flatten.take count, rest) ∧
      rest.flatten = chunks.flatten.drop count := by
  induction chunks generalizing count with
  | nil =>
    obtain rfl : count = 0 := Nat.le_zero.mp hcount
    exact ⟨[], rfl, rfl⟩
  | cons chunk chunks ih =>
    cases count with
    | zero => exact ⟨chunk :: chunks, rfl, rfl⟩
    | succ count =>
      rw [List.flatten_cons, List.length_append] at hcount
      rw [readFull, List.flatten_cons]
      split
      · rename_i hshort
        obtain ⟨rest, hread, hrest⟩ := @ih (count + 1 - chunk.length) (by omega)
        refine ⟨rest, ?_, ?_⟩
        · rw [hread, List.take_append, List.take_of_length_le hshort]
        · rw [hrest, List.drop_append, List.drop_eq_nil_of_le hshort, List.nil_append]
      · rename_i hlong
        have hinside : count + 1 ≤ chunk.length := by omega
        rw [List.take_append_of_le_length hinside, List.drop_append_of_le_length hinside]
        exact ⟨_, rfl, rfl⟩

theorem readFull_of_lt {count : Nat} {chunks : List Bytes}
    (hcount : chunks.flatten.length < count) :
    readFull count chunks =
      .error (if chunks.flatten = [] then .eof else .unexpectedEOF) := by
  obtain ⟨count, rfl⟩ := Nat.exists_eq_succ_of_ne_zero (Nat.ne_of_gt (Nat.zero_lt_of_lt hcount))
  induction chunks generalizing count with
  | nil => rfl
  | cons chunk chunks ih =>
    rw [List.flatten_cons, List.length_append] at hcount
    obtain ⟨left, hleft⟩ := Nat.exists_eq_succ_of_ne_zero
      (show count + 1 - chunk.length ≠ 0 by omega)
    rw [readFull, if_pos (by omega), hleft, ih left (by omega), List.flatten_cons]
    cases chunk with
    | nil | cons byte chunk => rfl

theorem readFrame_ok_iff (chunks : List Bytes) (frame stream : Bytes) :
    (∃ rest, readFrame chunks = .ok (frame, rest) ∧ rest.flatten = stream) ↔
      Ports.readFrame chunks.flatten = .ok (frame, stream) := by
  rw [readFrame, Ports.readFrame]
  by_cases hshort : chunks.flatten.length < 4
  · rw [readFull_of_lt hshort, if_pos hshort]
    simp
  obtain ⟨rest, hhdr, hrest⟩ := readFull_of_le (Nat.le_of_not_lt hshort)
  have hlen : be32 (chunks.flatten.take 4) 0 = be32 chunks.flatten 0 := by
    simp [be32, be16, byteAt_take]
  rw [hhdr, if_neg hshort, ← hrest]
  dsimp only
  rw [hlen]
  split
  · simp
  by_cases hbody : rest.flatten.length < be32 chunks.flatten 0
  · rw [readFull_of_lt hbody, if_pos hbody]
    simp
  obtain ⟨last, hread, hlast⟩ := readFull_of_le (Nat.le_of_not_lt hbody)
  rw [hread, if_neg hbody, ← hlast]
  simp

/-! ## The codec -/

theorem putBE32_be32 (first second third fourth : UInt8) (rest : Bytes) :
    putBE32 (be32 (first :: second :: third :: fourth :: rest) 0) =
      [first, second, third, fourth] := by
  have hbyte (byte : UInt8) : byte.toNat < 256 := byte.toNat_lt
  have h₁ := hbyte first
  have h₂ := hbyte second
  have h₃ := hbyte third
  have h₄ := hbyte fourth
  simp only [putBE32, putBE16, be32, be16, byteAt, List.getD_cons_zero, List.getD_cons_succ,
    List.cons_append, List.nil_append, List.cons.injEq, and_true, Nat.zero_add,
    ← UInt8.toNat_inj, UInt8.toNat_ofNat']
  omega

theorem writeFrame_of_readFrame {stream frame rest : Bytes}
    (h : Ports.readFrame stream = .ok (frame, rest)) : writeFrame frame ++ rest = stream := by
  unfold Ports.readFrame at h
  split at h
  · cases h
  rename_i hlong
  rcases stream with _ | ⟨first, _ | ⟨second, _ | ⟨third, _ | ⟨fourth, body⟩⟩⟩⟩
  iterate 4 exact absurd (by simp) hlong
  dsimp only at h
  split at h
  · cases h
  rename_i hgood
  split at h
  · cases h
  rename_i hbody
  have hsize : maxFrameSize = 65535 := rfl
  cases h
  rw [writeFrame, List.length_take, Nat.min_eq_left (Nat.le_of_not_lt hbody),
    Nat.mod_eq_of_lt (by omega), putBE32_be32, List.append_assoc, List.take_append_drop]
  rfl

theorem readFrames_of_written_append {left : Bytes} {reason : StreamError}
    (hleft : ∀ rest : List Bytes, rest.flatten = left → readFrame rest = .error reason)
    {frames chunks : List Bytes}
    (hlengths : ∀ frame ∈ frames, 1 ≤ frame.length ∧ frame.length ≤ maxFrameSize)
    (hchunks : chunks.flatten = frames.flatMap writeFrame ++ left) {calls : Nat}
    (hcalls : frames.length < calls) : readFrames calls chunks = (frames, some reason) := by
  obtain ⟨calls, rfl⟩ := Nat.exists_eq_succ_of_ne_zero (Nat.ne_of_gt (Nat.zero_lt_of_lt hcalls))
  induction frames generalizing chunks calls with
  | nil => rw [readFrames, hleft chunks hchunks]
  | cons frame frames ih =>
    have hlen := hlengths frame (by simp)
    have hsize : maxFrameSize = 65535 := rfl
    rw [List.length_cons] at hcalls
    obtain ⟨calls, rfl⟩ := Nat.exists_eq_succ_of_ne_zero (show calls ≠ 0 by omega)
    obtain ⟨rest, hread, hrest⟩ := (readFrame_ok_iff chunks frame
      (frames.flatMap writeFrame ++ left)).mpr (by
        rw [hchunks, List.flatMap_cons, List.append_assoc,
          readFrame_writeFrame_iff (by omega)]
        omega)
    rw [readFrames, hread]
    dsimp only
    rw [ih (fun other ho => hlengths other (by simp [ho])) hrest calls (by omega)]

theorem readFrames_of_written (frames chunks : List Bytes)
    (hlengths : ∀ frame ∈ frames, 1 ≤ frame.length ∧ frame.length ≤ maxFrameSize)
    (hchunks : chunks.flatten = frames.flatMap writeFrame) {calls : Nat}
    (hcalls : frames.length < calls) : readFrames calls chunks = (frames, some .eof) := by
  refine readFrames_of_written_append (fun rest hrest => ?_) hlengths
    (hchunks.trans (List.append_nil _).symm) hcalls
  rw [readFrame, readFull_of_lt (by simp [hrest]), if_pos hrest]

theorem flatMap_readFrames_isPrefix (calls : Nat) (chunks : List Bytes) :
    (readFrames calls chunks).1.flatMap writeFrame <+: chunks.flatten := by
  induction calls generalizing chunks with
  | zero => exact List.nil_prefix
  | succ calls ih =>
    rw [readFrames]
    cases hread : readFrame chunks with
    | error reason => exact List.nil_prefix
    | ok result =>
      have hwritten := writeFrame_of_readFrame
        ((readFrame_ok_iff chunks result.1 _).mp ⟨result.2, hread, rfl⟩)
      rw [List.flatMap_cons, ← hwritten]
      exact (List.prefix_append_right_inj _).mpr (ih result.2)

/-- What was written is read back whatever the chunks, and what is read before
the first error is, written again, the beginning of the stream. -/
theorem readFrames_codec (chunks : List Bytes) :
    (∀ frames : List Bytes, (∀ frame ∈ frames, 1 ≤ frame.length ∧ frame.length ≤ 65535) →
      chunks.flatten = frames.flatMap writeFrame →
        ∀ calls, frames.length < calls → readFrames calls chunks = (frames, some .eof)) ∧
      ∀ calls, (readFrames calls chunks).1.flatMap writeFrame <+: chunks.flatten :=
  ⟨fun frames hlengths hchunks _ hcalls =>
      readFrames_of_written frames chunks hlengths hchunks hcalls,
    fun calls => flatMap_readFrames_isPrefix calls chunks⟩

/-! ## Streams that are cut off -/

/-- The error once only `left` of a frame has arrived.  A stream that ends right
behind the length looks as if it ended between two frames. -/
def cutError (left : Bytes) : StreamError :=
  if left.length = 0 ∨ left.length = 4 then .eof else .unexpectedEOF

theorem readFrame_of_cut {frame left : Bytes} {chunks : List Bytes}
    (hgood : 1 ≤ frame.length ∧ frame.length ≤ maxFrameSize)
    (h : left <+: writeFrame frame) (hshort : left.length < 4 + frame.length)
    (hleft : chunks.flatten = left) : readFrame chunks = .error (cutError left) := by
  have hsize : maxFrameSize = 65535 := rfl
  rw [readFrame, cutError]
  by_cases hhdr : left.length < 4
  · rw [readFull_of_lt (hleft ▸ hhdr), hleft]
    simp [show left.length ≠ 4 by omega]
  obtain ⟨rest, hread, hrest⟩ := readFull_of_le (hleft ▸ Nat.le_of_not_lt hhdr)
  obtain ⟨missing, heq⟩ := h
  have hlen : be32 (left.take 4) 0 = frame.length := by
    have htake : (left ++ missing).take 4 = left.take 4 :=
      List.take_append_of_le_length (Nat.le_of_not_lt hhdr)
    rw [← htake, heq]
    change be32 (putBE32 _) 0 = _
    rw [← List.append_nil (putBE32 _), be32_putBE32]
    omega
  rw [hleft] at hread hrest
  rw [hread]
  dsimp only
  have hbody : rest.flatten.length = left.length - 4 := by simp only [hrest, List.length_drop]
  rw [hlen, if_neg (by omega), readFull_of_lt (by omega)]
  simp only [← List.length_eq_zero_iff, hbody]
  congr 2
  simp only [eq_iff_iff]
  omega

/-- A stream that ends within a frame yields the frames before it, and an error
that tells how much of the frame has arrived. -/
theorem readFrames_of_cut {frames chunks : List Bytes} {frame left : Bytes}
    (hlengths : ∀ frame ∈ frames, 1 ≤ frame.length ∧ frame.length ≤ maxFrameSize)
    (hgood : 1 ≤ frame.length ∧ frame.length ≤ maxFrameSize)
    (hleft : left <+: writeFrame frame) (hshort : left.length < 4 + frame.length)
    (hchunks : chunks.flatten = frames.flatMap writeFrame ++ left) {calls : Nat}
    (hcalls : frames.length < calls) :
    readFrames calls chunks = (frames, some (cutError left)) :=
  readFrames_of_written_append (fun _ => readFrame_of_cut hgood hleft hshort) hlengths
    hchunks hcalls

theorem readFrames_of_cut_behind_length :
    readFrames 2 [[0, 0, 0, 2, 1], [2, 0, 0, 0, 1]] = ([[1, 2]], some .eof) :=
  @readFrames_of_cut [[1, 2]] _ [3] [0, 0, 0, 1] (by decide) (by decide) ⟨[3], rfl⟩
    (by decide) rfl 2 (by decide)

end StreamIO

end GvSwitch.Ports
