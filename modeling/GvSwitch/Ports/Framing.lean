import GvSwitch.SwitchCore.Tagging

/-!
# Frames on a byte stream

A stream port writes a four-byte length before every frame and the peer reads
frames of at most `maxFrameSize` bytes.  The switch renders a frame for each
port it leaves through, and the tag it inserts for a trunk makes the frame four
bytes longer than the one it received.
-/

namespace GvSwitch.Ports

open Foundation SwitchCore Switch

def maxFrameSize : Nat := 65535

inductive ReadError where
  | short
  | badLength (length : Nat)
  deriving DecidableEq, Repr

/-- `streamIO.ReadFrame`: the frame and the rest of the stream. -/
def readFrame (stream : Bytes) : Except ReadError (Bytes × Bytes) :=
  if stream.length < 4 then .error .short
  else
    let length := be32 stream 0
    if length = 0 ∨ maxFrameSize < length then .error (.badLength length)
    else
      let body := stream.drop 4
      if body.length < length then .error .short
      else .ok (body.take length, body.drop length)

/-- `streamIO.WriteFrame`: the bytes of its single write. -/
def writeFrame (frame : Bytes) : Bytes :=
  putBE32 (frame.length % 4294967296) ++ frame

/-! ## What was written is read back -/

theorem readFrame_writeFrame {frame : Bytes} (hlen : frame.length < 4294967296)
    (rest : Bytes) :
    readFrame (writeFrame frame ++ rest) =
      if frame.length = 0 ∨ maxFrameSize < frame.length then
        .error (.badLength frame.length)
      else .ok (frame, rest) := by
  have hwritten : writeFrame frame ++ rest = putBE32 frame.length ++ (frame ++ rest) := by
    rw [writeFrame, Nat.mod_eq_of_lt hlen, List.append_assoc]
  have hdrop : (putBE32 frame.length ++ (frame ++ rest)).drop 4 = frame ++ rest := rfl
  have hlong : ¬ (putBE32 frame.length ++ (frame ++ rest)).length < 4 := by
    rw [List.length_append]
    exact Nat.not_lt.mpr (Nat.le_add_right 4 _)
  rw [hwritten, readFrame, if_neg hlong, be32_putBE32, Nat.mod_eq_of_lt hlen]
  dsimp only
  split
  · rfl
  · rw [hdrop, if_neg (by simp), List.take_left, List.drop_left]

theorem readFrame_writeFrame_iff {frame : Bytes} (hlen : frame.length < 4294967296)
    (rest : Bytes) :
    readFrame (writeFrame frame ++ rest) = .ok (frame, rest) ↔
      frame.length ≠ 0 ∧ frame.length ≤ maxFrameSize := by
  rw [readFrame_writeFrame hlen]
  split
  · rename_i hbad
    simp only [reduceCtorEq, false_iff]
    omega
  · simp only [true_iff]
    omega

/-! ## The length of a rendered frame -/

variable {frame : FrameView} {data : Bytes}

theorem length_taggedForm (hparse : parseFrame data = some frame) (key : Int) :
    (taggedForm frame key).length =
      if frame.tagged then data.length else data.length + 4 := by
  have hlen := (parseFrame_length hparse).1
  rw [taggedForm, parseFrame_data hparse]
  split
  · rfl
  · simp only [List.length_append, List.length_take, List.length_drop, length_vlanTag]
    omega

theorem length_untaggedForm (hparse : parseFrame data = some frame) :
    (untaggedForm frame).length =
      if frame.tagged then data.length - 4 else data.length := by
  rw [untaggedForm, parseFrame_data hparse]
  split
  · rename_i htagged
    have hlen := (parseFrame_length hparse).2 htagged
    simp only [List.length_append, List.length_take, List.length_drop]
    omega
  · rfl

/-- An untagged frame of an access port leaves tagged and too long for the
framing: it was within four bytes of the limit. -/
def TagOverflows (sw : Switch) (src : Ptr) (data : Bytes) (port : Port) : Prop :=
  isReservedGroupMAC (macAt data 0) = false ∧ be16 data 12 ≠ etherTypeVLAN ∧
    (sw.entry src).attrs.vlan ≠ vlanUntaggedOnly ∧
    (sw.entry src).attrs.vlan ≠ vlanTrunk ∧
    maxFrameSize - 4 < data.length ∧
    ∃ dst, sw.ports.get? port.id = some dst ∧
      (sw.entry dst).attrs.vlan = vlanTrunk

theorem ingressKey_ne_untaggedKey {attrs : CheckedAttrs} {key : Int}
    (hkey : ingressKey attrs.toPortAttrs frame = some key)
    (huntagged : frame.tagged = false) :
    key ≠ untaggedKey ↔ attrs.vlan ≠ vlanUntaggedOnly ∧ attrs.vlan ≠ vlanTrunk := by
  have hlow := attrs.vlan_nonneg
  have hhigh := attrs.vlan_le
  have hint : int32 attrs.vlan = attrs.vlan := int32_of_range (by omega) (by omega)
  unfold ingressKey at hkey
  simp only [huntagged, Bool.false_eq_true, if_false] at hkey
  split at hkey
  · rename_i htrunk
    cases hkey
    simp [htrunk]
  rename_i htrunk
  split at hkey
  · rename_i hplain
    cases hkey
    simp [hplain]
  rename_i hplain
  cases hkey
  simp only [hint, untaggedKey, htrunk, ne_eq, not_false_eq_true, and_true]
  rfl

theorem length_egressFrame_iff {srcAttrs : CheckedAttrs} (dstAttrs : PortAttrs) {key : Int}
    (hparse : parseFrame data = some frame)
    (hkey : ingressKey srcAttrs.toPortAttrs frame = some key)
    (hlen : data.length ≤ maxFrameSize) :
    (egressFrame frame key dstAttrs).length ≤ maxFrameSize ↔
      ¬ (be16 data 12 ≠ etherTypeVLAN ∧ srcAttrs.vlan ≠ vlanUntaggedOnly ∧
        srcAttrs.vlan ≠ vlanTrunk ∧ maxFrameSize - 4 < data.length ∧
        dstAttrs.vlan = vlanTrunk) := by
  have hty := parseFrame_tagged_iff hparse
  have hsize : maxFrameSize = 65535 := rfl
  unfold egressFrame
  cases htagged : frame.tagged with
  | true =>
    have houter : be16 data 12 = etherTypeVLAN := hty.mp htagged
    have hfits : (if dstAttrs.vlan = vlanTrunk ∧ key ≠ untaggedKey then
        taggedForm frame key else untaggedForm frame).length ≤ maxFrameSize := by
      split
      · rw [length_taggedForm hparse, if_pos htagged]
        exact hlen
      · rw [length_untaggedForm hparse, if_pos htagged]
        omega
    simp only [hfits, houter, ne_eq, not_true_eq_false, false_and, not_false_eq_true]
  | false =>
    have hplain : be16 data 12 ≠ etherTypeVLAN := by simpa [htagged] using hty
    have hacc := ingressKey_ne_untaggedKey hkey htagged
    split
    · rename_i hinsert
      obtain ⟨hnotUntagged, hnotTrunk⟩ := hacc.mp hinsert.2
      rw [length_taggedForm hparse, if_neg (by simp [htagged])]
      omega
    · rename_i hkeep
      rw [length_untaggedForm hparse, if_neg (by simp [htagged])]
      refine iff_of_true hlen ?_
      rintro ⟨-, hnotUntagged, hnotTrunk, -, htrunk⟩
      exact hkeep ⟨htrunk, hacc.mpr ⟨hnotUntagged, hnotTrunk⟩⟩

theorem length_egressFrame_pos (key : Int) (dstAttrs : PortAttrs)
    (hparse : parseFrame data = some frame) :
    (egressFrame frame key dstAttrs).length ≠ 0 ∧
      (egressFrame frame key dstAttrs).length ≤ data.length + 4 := by
  obtain ⟨hhdr, htag⟩ := parseFrame_length hparse
  unfold egressFrame
  split
  · rw [length_taggedForm hparse]
    split <;> omega
  rw [length_untaggedForm hparse]
  split
  · rename_i htagged
    have hlen := htag htagged
    omega
  · omega

/-! ## Every frame handed to a stream -/

theorem ingress_eq_reserved {sw : Switch} {src : Ptr} (h : sw.ingress src data = .reserved) :
    isReservedGroupMAC (macAt data 0) = true := by
  unfold ingress at h
  cases hparse : parseFrame data with
  | none =>
    simp [hparse] at h
  | some frame =>
    have hdst : frame.dstMAC = macAt data 0 := by
      rw [FrameView.dstMAC, parseFrame_data hparse]
    rw [hparse] at h
    dsimp only at h
    rw [hdst] at h
    by_contra hnot
    split at h
    · cases h
    split at h
    · cases h
    split at h
    · cases h
    split at h
    · cases h
    split at h
    · cases h
    · split at h <;> cases h

/-- In every reachable state, the peer of a stream port reads the frame that a
delivery handed to the port exactly when no inserted tag made it too long. -/
theorem deliver_readable_iff {world : World} (hreached : world.Reached) {env : Env}
    {src : Ptr} {data : Bytes} (hlength : data.length ≤ maxFrameSize) {call : SendCall}
    (hcall : call ∈ (Switch.deliver env world.sw src data).2) (rest : Bytes) :
    readFrame (writeFrame call.frame ++ rest) = .ok (call.frame, rest) ↔
      ¬ TagOverflows world.sw src data call.port := by
  have hsize : maxFrameSize = 65535 := rfl
  cases hin : world.sw.ingress src data with
  | admitted frame key =>
    obtain ⟨dst, hdst, hfr⟩ := hreached.wellFormed.call_rendered hin hcall
    obtain ⟨hparse, -, -, -, hgroup, -, hkey, -⟩ := ingress_eq_admitted hin
    rw [FrameView.dstMAC, parseFrame_data hparse] at hgroup
    have hbounds := length_egressFrame_pos key (world.sw.entry dst).attrs.toPortAttrs hparse
    rw [hfr, readFrame_writeFrame_iff (by omega),
      length_egressFrame_iff _ hparse hkey hlength]
    simp only [TagOverflows, hgroup, hdst, hbounds.1, Option.some.injEq, ne_eq,
      not_false_eq_true, true_and, exists_eq_left']
  | reserved =>
    simp only [deliver, hin] at hcall
    obtain ⟨-, record, rfl⟩ := consumeReserved_snd env _ src data hcall
    have hsixty : ((world.sw.countRx src data.length).tcnAnswer record).frame.length =
        60 := length_buildConfig ..
    rw [readFrame_writeFrame_iff (by omega)]
    refine iff_of_true (by omega) ?_
    intro hoverflow
    exact absurd (ingress_eq_reserved hin) (by simp [hoverflow.1])
  | unparsed | gone | disabled | ownProbe | stpBlocked | vlanRefused | insecure =>
    simp [deliver, hin] at hcall

def accessBroadcast (payload : Bytes) : Bytes :=
  [0xff, 0xff, 0xff, 0xff, 0xff, 0xff, 0x02, 0, 0, 0, 0, 1, 0x08, 0] ++ payload

theorem threePorts_ingress (payload : Bytes) :
    threePorts.sw.ingress 1 (accessBroadcast payload) =
      .admitted ⟨accessBroadcast payload, false, 0⟩ 10 := by
  have hparse : parseFrame (accessBroadcast payload) =
      some ⟨accessBroadcast payload, false, 0⟩ := by
    have hhigh : byteAt (accessBroadcast payload) 12 = 8 := rfl
    have hlow : byteAt (accessBroadcast payload) 13 = 0 := rfl
    refine parseFrame_of_untagged ?_ ?_
    · rw [accessBroadcast, List.length_append]
      exact Nat.le_add_right 14 _
    · rw [be16, hhigh, hlow]
      decide
  unfold ingress
  rw [hparse]
  rfl

theorem threePorts_deliver (payload : Bytes) :
    ⟨⟨"trunk", 1⟩, "ten", taggedForm ⟨accessBroadcast payload, false, 0⟩ 10⟩ ∈
      (deliver (steadyEnv 2) threePorts.sw 1 (accessBroadcast payload)).2 := by
  have hin := threePorts_ingress payload
  have heligible : threePorts.sw.Eligible 1 10 "trunk" :=
    ⟨0, by decide, by decide, by decide, by decide, by decide, by decide⟩
  rw [reached_threePorts.wellFormed.deliver_snd _ hin, if_neg (by decide)]
  refine List.mem_filterMap.mpr ⟨"trunk", ?_, ?_⟩
  · refine (reached_threePorts.wellFormed.mem_targets_iff _ hin heligible).mpr ?_
    have hgroup : isMulticast (macAt (accessBroadcast payload) 0) = true := by
      have hfst : byteAt (accessBroadcast payload) 0 = 0xff := rfl
      simp only [isMulticast, macAt, Vector.getElem_ofFn, hfst]
      decide
    exact .flooded (.inl hgroup) (by decide) heligible
  · refine (outgoing_eq_some_iff ..).mpr ⟨heligible, 0, by decide, ?_⟩
    rfl

theorem deliver_readable_iff_short :
    readFrame (writeFrame (taggedForm ⟨accessBroadcast [], false, 0⟩ 10) ++ []) =
        .ok (taggedForm ⟨accessBroadcast [], false, 0⟩ 10, []) ↔
      ¬ TagOverflows threePorts.sw 1 (accessBroadcast []) ⟨"trunk", 1⟩ :=
  deliver_readable_iff reached_threePorts (by decide) (threePorts_deliver []) []

/-- A guest on an access port sends 65532 bytes and the trunk's peer fails. -/
theorem inserted_tag_overflows :
    ∃ (world : World) (env : Env) (src : Ptr) (data : Bytes) (call : SendCall),
      world.Reached ∧ data.length = 65532 ∧
      call ∈ (Switch.deliver env world.sw src data).2 ∧
      call.frame.length = 65536 ∧
      readFrame (writeFrame call.frame) = .error (.badLength 65536) := by
  have hdata : (accessBroadcast (List.replicate 65518 0)).length = 65532 := by
    rw [accessBroadcast, List.length_append, List.length_replicate]
    rfl
  have hparse := (ingress_eq_admitted (threePorts_ingress (List.replicate 65518 0))).1
  have hfr := length_taggedForm hparse 10
  rw [if_neg (by decide), hdata] at hfr
  refine ⟨threePorts, steadyEnv 2, 1, _, _, reached_threePorts, hdata,
    threePorts_deliver _, hfr, ?_⟩
  have hread := readFrame_writeFrame (by rw [hfr]; decide) []
  rw [List.append_nil, hfr] at hread
  exact hread

end GvSwitch.Ports
