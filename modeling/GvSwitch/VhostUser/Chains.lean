import GvSwitch.VhostUser.Conservation
import GvSwitch.VhostUser.Translation

/-!
# Descriptor chains

The driver links descriptors through their `next` fields, into a chain that may
be cyclic.  `resolveChain` follows the links for at most 256 descriptors.  It
succeeds exactly on chains that end within this bound and are well formed, and
returns their segments in order.
-/

namespace GvSwitch.VhostUser

open Foundation

variable {descriptor : Descriptor} {mem : MemTable} {index : UInt16} {result chain : Chain}

namespace Vring

/-! ## What the driver queues -/

namespace Descriptor

def isReadable (descriptor : Descriptor) : Bool := descriptor.flags &&& descFlagWrite = 0

def isIndirect (descriptor : Descriptor) : Bool :=
  descriptor.flags &&& descFlagIndirect ≠ 0

def continues (descriptor : Descriptor) : Bool := descriptor.flags &&& descFlagNext ≠ 0

/-- The host memory behind a descriptor, if one region holds all of it. -/
def segment? (mem : MemTable) (descriptor : Descriptor) : Option Slice :=
  translated (·.gpa) descriptor.addr descriptor.len.toUInt64 mem.regions

end Descriptor

/-- The descriptors that following the links from an index leads through, up to
the one without a link. -/
inductive Linked (table : UInt16 → Option Descriptor) : UInt16 → List Descriptor → Prop
  | last {index : UInt16} {descriptor : Descriptor} (hfound : table index = some descriptor)
      (hlast : descriptor.continues = false) : Linked table index [descriptor]
  | next {index : UInt16} {descriptor : Descriptor} {rest : List Descriptor}
      (hfound : table index = some descriptor) (hnext : descriptor.continues = true)
      (hrest : Linked table descriptor.next rest) : Linked table index (descriptor :: rest)

/-- Direct descriptors, each in one memory region, the readable ones in front. -/
structure WellFormed (mem : MemTable) (descriptors : List Descriptor) : Prop where
  direct : ∀ descriptor ∈ descriptors, descriptor.isIndirect = false
  mapped : ∀ descriptor ∈ descriptors, descriptor.len ≠ 0 ∧
    ∃ region ∈ mem.regions,
      region.covers (·.gpa) descriptor.addr descriptor.len.toUInt64 = true
  ordered : descriptors.Pairwise fun first second =>
    second.isReadable = true → first.isReadable = true

def readableBytes (host : Host) (mem : MemTable) (descriptors : List Descriptor) : Bytes :=
  (descriptors.filter (·.isReadable)).flatMap fun descriptor =>
    (descriptor.segment? mem).elim [] fun segment => readAt host segment 0 segment.len

theorem Descriptor.isSome_segment?_iff :
    (descriptor.segment? mem).isSome = true ↔ descriptor.len ≠ 0 ∧
      ∃ region ∈ mem.regions,
        region.covers (·.gpa) descriptor.addr descriptor.len.toUInt64 = true := by
  have hzero : descriptor.len.toUInt64.toNat = 0 ↔ descriptor.len = 0 := by
    exact ⟨fun hempty => UInt32.toNat_inj.mp hempty, fun hempty => congrArg UInt32.toNat hempty⟩
  unfold segment? translated
  split
  · rename_i hempty
    simp [hzero.mp hempty]
  rename_i hlong
  simp [mt hzero.mpr hlong]

/-! ## The walk -/

def Chain.add (chain : Chain) (descriptor : Descriptor) (segment : Slice) : Chain :=
  if descriptor.flags &&& descFlagWrite ≠ 0 then
    { chain with writable := chain.writable ++ [segment] }
  else { chain with readable := chain.readable ++ [segment] }

def Chain.addAll (mem : MemTable) (chain : Chain) (descriptors : List Descriptor) : Chain where
  readable := chain.readable ++
    (descriptors.filter (·.isReadable)).filterMap (·.segment? mem)
  writable := chain.writable ++
    (descriptors.filter (!·.isReadable)).filterMap (·.segment? mem)

theorem Chain.addAll_cons {segment : Slice} (hseg : descriptor.segment? mem = some segment)
    (chain : Chain) (rest : List Descriptor) :
    chain.addAll mem (descriptor :: rest) = (chain.add descriptor segment).addAll mem rest := by
  by_cases hwrite : descriptor.flags &&& descFlagWrite = 0
  · have hreadable : descriptor.isReadable = true := decide_eq_true hwrite
    simp [addAll, add, hwrite, hreadable, hseg]
  · have hreadable : descriptor.isReadable = false := decide_eq_false hwrite
    simp [addAll, add, hwrite, hreadable, hseg]

structure Accepts (mem : MemTable) (chain : Chain) (descriptors : List Descriptor) : Prop
    extends WellFormed mem descriptors where
  behind : chain.writable ≠ [] → ∀ descriptor ∈ descriptors, descriptor.isReadable = false

theorem accepts_nil (mem : MemTable) (chain : Chain) : Accepts mem chain [] := by
  refine ⟨⟨?_, ?_, .nil⟩, fun _ => ?_⟩ <;> simp

theorem accepts_cons_iff {rest : List Descriptor} {segment : Slice}
    (hseg : descriptor.segment? mem = some segment) :
    Accepts mem chain (descriptor :: rest) ↔ descriptor.isIndirect = false ∧
      ¬ (descriptor.flags &&& descFlagWrite = 0 ∧ chain.writable ≠ []) ∧
        Accepts mem (chain.add descriptor segment) rest := by
  have hmapped := Descriptor.isSome_segment?_iff.mp
    (show (descriptor.segment? mem).isSome = true by rw [hseg]; rfl)
  by_cases hwrite : descriptor.flags &&& descFlagWrite = 0
  · have hreadable : descriptor.isReadable = true := decide_eq_true hwrite
    have hadd : (chain.add descriptor segment).writable = chain.writable := by
      simp [Chain.add, hwrite]
    constructor
    · rintro ⟨⟨hdirect, hregions, hordered⟩, hbehind⟩
      simp only [List.forall_mem_cons] at hdirect hregions hbehind
      refine ⟨hdirect.1, fun hblocked => ?_, ⟨hdirect.2, hregions.2, hordered.of_cons⟩, ?_⟩
      · exact Bool.noConfusion (hreadable.symm.trans (hbehind hblocked.2).1)
      · rw [hadd]
        exact fun hne => (hbehind hne).2
    · rintro ⟨hdirect, hopen, ⟨hrest, hregions, hordered⟩, hbehind⟩
      refine ⟨⟨?_, ?_, List.pairwise_cons.mpr ⟨fun _ _ _ => hreadable, hordered⟩⟩, ?_⟩
      · exact List.forall_mem_cons.mpr ⟨hdirect, hrest⟩
      · exact List.forall_mem_cons.mpr ⟨hmapped, hregions⟩
      · exact fun hne => absurd ⟨hwrite, hne⟩ hopen
  · have hreadable : descriptor.isReadable = false := decide_eq_false hwrite
    have hadd : (chain.add descriptor segment).writable ≠ [] := by
      simp [Chain.add, hwrite]
    constructor
    · rintro ⟨⟨hdirect, hregions, hordered⟩, hbehind⟩
      simp only [List.forall_mem_cons] at hdirect hregions
      refine ⟨hdirect.1, fun hblocked => hwrite hblocked.1,
        ⟨hdirect.2, hregions.2, hordered.of_cons⟩, fun _ other ho => ?_⟩
      by_contra hread
      have hfst := (List.pairwise_cons.mp hordered).1 other ho (Bool.not_eq_false _ ▸ hread)
      exact Bool.noConfusion (hreadable.symm.trans hfst)
    · rintro ⟨hdirect, -, ⟨hrest, hregions, hordered⟩, hbehind⟩
      have hlater := hbehind hadd
      refine ⟨⟨?_, ?_, List.pairwise_cons.mpr ⟨fun other ho hread => ?_, hordered⟩⟩, ?_⟩
      · exact List.forall_mem_cons.mpr ⟨hdirect, hrest⟩
      · exact List.forall_mem_cons.mpr ⟨hmapped, hregions⟩
      · exact Bool.noConfusion (hread.symm.trans (hlater other ho))
      · exact fun _ => List.forall_mem_cons.mpr ⟨hreadable, hlater⟩

section Walk

variable {ring : Vring} {host : Host} {mem : MemTable}

def table (ring : Vring) (host : Host) (index : UInt16) : Option Descriptor :=
  Dataplane.value? (ring.descAt host index)

def Translates (ring : Vring) (host : Host) (mem : MemTable) : Prop :=
  ∀ index descriptor, ring.table host index = some descriptor →
    Exact (mem.gpaSlice descriptor.addr descriptor.len.toUInt64) (descriptor.segment? mem)

theorem table_eq_some_iff :
    ring.table host index = some descriptor ↔ ring.descAt host index = .ok descriptor := by
  refine ⟨Dataplane.value?_eq_some, fun h => ?_⟩
  rw [table, h]
  rfl

theorem walkChain_succ_iff (hexact : ring.Translates host mem) {fuel : Nat} :
    ring.walkChain host mem (fuel + 1) chain index = .ok result ↔
      ∃ descriptor segment, ring.table host index = some descriptor ∧
        descriptor.segment? mem = some segment ∧ descriptor.isIndirect = false ∧
        ¬ (descriptor.flags &&& descFlagWrite = 0 ∧ chain.writable ≠ []) ∧
        if descriptor.continues then
          ring.walkChain host mem fuel (chain.add descriptor segment) descriptor.next =
            .ok result
        else chain.add descriptor segment = result := by
  rw [walkChain, Outcome.bind_eq_ok_iff]
  refine exists_congr fun descriptor => ?_
  rw [← table_eq_some_iff]
  refine ⟨fun ⟨hf, hturn⟩ => ?_, fun ⟨segment, hf, hseg, hdirect, hopen, hturn⟩ =>
    ⟨hf, ?_⟩⟩
  · split at hturn
    · cases hturn
    rename_i hdirect
    split at hturn
    · cases hturn
    · cases hturn
    rename_i segment hsl
    split at hturn
    · cases hturn
    rename_i hopen
    refine ⟨segment, hf, ((hexact index descriptor hf).2 segment).mp hsl,
      decide_eq_false hdirect, hopen, ?_⟩
    dsimp only at hturn
    split at hturn
    · rename_i hlast
      rw [if_neg (by simp [Descriptor.continues, hlast])]
      exact Outcome.ok.inj hturn
    · rename_i hnext
      rw [if_pos (by simp [Descriptor.continues, hnext])]
      exact hturn
  · have hsl := ((hexact index descriptor hf).2 segment).mpr hseg
    rw [if_neg (of_decide_eq_false hdirect), hsl]
    dsimp only
    rw [if_neg hopen]
    split at hturn
    · rename_i hnext
      rw [if_neg (of_decide_eq_true hnext)]
      exact hturn
    · rename_i hlast
      rw [if_pos (by simpa [Descriptor.continues] using hlast)]
      exact congrArg Outcome.ok hturn

/-- The walk succeeds on the chains that end in time and are well formed. -/
theorem walkChain_eq_ok_iff (hexact : ring.Translates host mem) {fuel : Nat} :
    ring.walkChain host mem fuel chain index = .ok result ↔
      ∃ descriptors, Linked (ring.table host) index descriptors ∧
        descriptors.length ≤ fuel ∧ Accepts mem chain descriptors ∧
        result = chain.addAll mem descriptors := by
  induction fuel generalizing chain index with
  | zero =>
    refine ⟨fun h => (nomatch h), ?_⟩
    rintro ⟨descriptors, hlinked, hlen, -⟩
    cases hlinked with
    | last hf hlast | next hf hnext hrest => cases hlen
  | succ fuel ih =>
    rw [walkChain_succ_iff hexact]
    constructor
    · rintro ⟨descriptor, segment, hf, hseg, hdirect, hopen, hturn⟩
      split at hturn
      · rename_i hnext
        obtain ⟨rest, hrest, hlen, haccepts, rfl⟩ := ih.mp hturn
        refine ⟨descriptor :: rest, .next hf hnext hrest, Nat.succ_le_succ hlen,
          (accepts_cons_iff hseg).mpr ⟨hdirect, hopen, haccepts⟩, ?_⟩
        rw [Chain.addAll_cons hseg]
      · rename_i hlast
        refine ⟨[descriptor], .last hf (Bool.eq_false_iff.mpr hlast),
          Nat.succ_le_succ (Nat.zero_le fuel),
          (accepts_cons_iff hseg).mpr ⟨hdirect, hopen, accepts_nil mem _⟩, ?_⟩
        rw [Chain.addAll_cons hseg, ← hturn]
        simp [Chain.addAll]
    · rintro ⟨descriptors, hlinked, hlen, haccepts, rfl⟩
      cases hlinked with
      | @last _ descriptor hf hlast =>
        obtain ⟨segment, hseg⟩ := Option.isSome_iff_exists.mp
          (Descriptor.isSome_segment?_iff.mpr (haccepts.mapped _ (.head _)))
        obtain ⟨hdirect, hopen, -⟩ := (accepts_cons_iff hseg).mp haccepts
        refine ⟨descriptor, segment, hf, hseg, hdirect, hopen, ?_⟩
        rw [hlast, Chain.addAll_cons hseg]
        simp [Chain.addAll]
      | @next _ descriptor rest hf hnext hrest =>
        obtain ⟨segment, hseg⟩ := Option.isSome_iff_exists.mp
          (Descriptor.isSome_segment?_iff.mpr (haccepts.mapped _ (.head _)))
        obtain ⟨hdirect, hopen, htail⟩ := (accepts_cons_iff hseg).mp haccepts
        refine ⟨descriptor, segment, hf, hseg, hdirect, hopen, ?_⟩
        rw [if_pos hnext]
        exact ih.mpr ⟨rest, hrest, Nat.le_of_succ_le_succ hlen, htail,
          Chain.addAll_cons hseg chain rest⟩

theorem resolveChain_eq_ok_iff (hexact : ring.Translates host mem) {head : UInt16} :
    ring.resolveChain host mem head = .ok result ↔
      ∃ descriptors, Linked (ring.table host) head descriptors ∧
        descriptors.length ≤ maxChainLen ∧ WellFormed mem descriptors ∧
        result = (⟨[], []⟩ : Chain).addAll mem descriptors := by
  refine (walkChain_eq_ok_iff hexact).trans (exists_congr fun descriptors => ?_)
  have haccepts : Accepts mem ⟨[], []⟩ descriptors ↔ WellFormed mem descriptors :=
    ⟨fun h => h.toWellFormed, fun h => ⟨h, fun hne => absurd rfl hne⟩⟩
  rw [haccepts]

theorem walkChain_ne_panic (hsafe : ∀ index, ring.descAt host index ≠ .panic)
    (hexact : ring.Translates host mem) (fuel : Nat) (chain : Chain) (index : UInt16) :
    ring.walkChain host mem fuel chain index ≠ .panic := by
  induction fuel generalizing chain index with
  | zero => exact fun h => nomatch h
  | succ fuel ih =>
    unfold walkChain
    cases hf : ring.descAt host index with
    | panic => exact absurd hf (hsafe index)
    | error reason => exact fun h => nomatch h
    | ok descriptor =>
      have hsl := (hexact index descriptor (table_eq_some_iff.mpr hf)).1
      simp only [Outcome.bind_ok]
      split
      · exact fun h => nomatch h
      split
      · rename_i hpanic
        exact absurd hpanic hsl
      · exact fun h => nomatch h
      split
      · exact fun h => nomatch h
      split
      · exact fun h => nomatch h
      · exact ih _ _

end Walk

end Vring

end GvSwitch.VhostUser
