import GvSwitch.Foundation.Forest
import GvSwitch.SwitchCore.Fabric
import Mathlib.Algebra.BigOperators.Fin
import Mathlib.Algebra.Order.BigOperators.Group.Finset

/-!
# Flooding a loop-free fabric

A frame that enters a loop-free fabric at an access port floods it like a token
floods a forest: deliveries at a forwarding end of a link are visits, deliveries
at a blocked end are not noticed.  Each visit hands one copy to each access port
of the VLAN.
-/

namespace GvSwitch.SwitchCore

open Foundation Fabric Switch Packet

variable {V : Type} {links : Links V} {switches : V → Switch}

/-! ## Neighbours -/

theorem active_symm (hwire : Wired links switches) {near far : V × String}
    (h : Active links switches near far) : Active links switches far near :=
  ⟨hwire.symmetric near far h.1, h.2.2, h.2.1⟩

theorem activeGraph_adj (hwire : Wired links switches) (node other : V) :
    (activeGraph links switches).Adj node other ↔
      ∃ near far, Active links switches (node, near) (other, far) := by
  constructor
  · rintro ⟨-, hfwd | ⟨far, near, hback⟩⟩
    · exact hfwd
    · exact ⟨near, far, active_symm hwire hback⟩
  rintro ⟨near, far, hactive⟩
  refine ⟨?_, .inl ⟨near, far, hactive⟩⟩
  rintro rfl
  exact hwire.loopFree.noLoop node near far hactive

def neighbourVia (links : Links V) (switches : V → Switch) (node : V) (port : String) :
    Option V :=
  (links (node, port)).bind fun far =>
    if (switches node).forwards port && (switches far.1).forwards far.2 then some far.1
    else none

variable {node : V}

theorem neighbourVia_eq_some {other : V} {port : String} :
    neighbourVia links switches node port = some other ↔
      ∃ far, Active links switches (node, port) (other, far) := by
  unfold neighbourVia Active
  constructor
  · intro h
    obtain ⟨far, hlink, hboth⟩ := Option.bind_eq_some_iff.mp h
    split at hboth
    · rename_i hfwd
      rw [Bool.and_eq_true] at hfwd
      cases hboth
      exact ⟨far.2, hlink, hfwd⟩
    · cases hboth
  · rintro ⟨far, hlink, hnear, hfar⟩
    rw [hlink]
    simp only [Option.bind_some, hnear, hfar, Bool.and_self, if_true]

/-! ## The abstract flood -/

def Packet.live (switches : V → Switch) (packet : Packet V) : Bool :=
  (switches packet.node).forwards packet.port

def Packet.token (links : Links V) (packet : Packet V) : Token V :=
  ⟨packet.node, (links (packet.node, packet.port)).map Prod.fst⟩

def Fabric.view (links : Links V) (switches : V → Switch) (fabric : Fabric V) : Flood V where
  pending := (fabric.inFlight.filter (Packet.live switches)).map (Packet.token links)
  visited := (fabric.delivered.filter (Packet.live switches)).map (·.node)

/-- Packets are the injected frame or its form on a trunk, sent by a port that
forwards. -/
def Packet.Genuine (links : Links V) (switches : V → Switch) (source : V) (port : String)
    (key : Int) (data : Bytes) (packet : Packet V) : Prop :=
  packet = ⟨source, port, data⟩ ∨
    ∃ far, links (packet.node, packet.port) = some far ∧
      (switches far.1).forwards far.2 = true ∧ packet.frame = wireForm data key

variable {source : V} {port : String} {key : Int} {data : Bytes}

theorem Leaf.range (h : Leaf links switches node port key) : 0 ≤ key ∧ key ≤ 4095 := by
  obtain ⟨-, -, ptr, -, rfl⟩ := h
  exact ⟨((switches node).entry ptr).attrs.vlan_nonneg,
    ((switches node).entry ptr).attrs.vlan_le⟩

section Injected

variable (hwire : Wired links switches) (hsource : Leaf links switches source port key)
  (hfr : Flooded data)

include hwire hsource hfr

theorem Packet.Genuine.carried {packet : Packet V}
    (h : packet.Genuine links switches source port key data) :
    ∃ src frame, (switches packet.node).ports.get? packet.port = some src ∧
      Carried data key ((switches packet.node).entry src).attrs.toPortAttrs packet.frame
        frame := by
  rcases h with rfl | ⟨far, hlink, -, hform⟩
  · obtain ⟨-, hacc, ptr, hptr, rfl⟩ := hsource
    exact ⟨ptr, _, hptr, carried_access hfr hacc⟩
  obtain ⟨src, hsrc, htrunk⟩ := hwire.trunks _ _ _ hlink
  obtain ⟨hlow, hhigh⟩ := hsource.range
  obtain ⟨frame, hcarried⟩ := carried_trunk hfr hlow hhigh htrunk
  rw [hform]
  exact ⟨src, frame, hsrc, hcarried⟩

end Injected

/-! ## What one switch sends on -/

variable {leaf : String} {vlan : Int}

section Relaying

variable {node : V} {ids : List String}

theorem crossing_rendered (hwire : Wired links switches) :
    crossing links node
        (ids.map fun other => (other, (switches node).rendered data key other)) =
      ids.filterMap fun other =>
        (links (node, other)).map fun far => ⟨far.1, far.2, wireForm data key⟩ := by
  rw [crossing, List.filterMap_map]
  refine List.filterMap_congr fun other _ => ?_
  cases hlink : links (node, other) with
  | none => simp [hlink]
  | some far =>
    obtain ⟨dst, hdst, htrunk⟩ := hwire.trunks _ _ _ hlink
    simp [hlink, rendered, hdst, htrunk]

theorem tokens_crossing (hwire : Wired links switches)
    (hids : ∀ other ∈ ids, (switches node).forwards other = true) :
    ((crossing links node
        (ids.map fun other => (other, (switches node).rendered data key other))).filter
          (live switches)).map (token links) =
      (ids.filterMap (neighbourVia links switches node)).map
        fun neighbour => ⟨neighbour, some node⟩ := by
  rw [crossing_rendered hwire, List.filter_filterMap, List.map_filterMap, List.map_filterMap]
  refine List.filterMap_congr fun other ho => ?_
  cases hlink : links (node, other) with
  | none => simp [neighbourVia, hlink]
  | some far =>
    have hback := hwire.symmetric _ _ hlink
    cases hfar : (switches far.1).forwards far.2 with
    | true =>
      simp [neighbourVia, hlink, hids other ho, hfar, live, token, hback]
    | false => simp [neighbourVia, hlink, hfar, live]

theorem nodup_neighbours (hwire : Wired links switches) (hnodup : ids.Nodup) :
    (ids.filterMap (neighbourVia links switches node)).Nodup := by
  refine hnodup.filterMap fun first second neighbour hfst hsnd => ?_
  obtain ⟨far, hactive⟩ := neighbourVia_eq_some.mp hfst
  obtain ⟨far', hactive'⟩ := neighbourVia_eq_some.mp hsnd
  exact hwire.loopFree.single hactive hactive'

theorem relays_forwards {sw : Switch} {id other : String}
    (h : sw.Relays id key other) : sw.forwards other = true := by
  obtain ⟨-, dst, hdst, hst, -⟩ := h
  rw [forwards, hdst]
  simpa using hst

theorem admits_access_iff {attrs : CheckedAttrs} (hacc : attrs.vlan ≠ vlanTrunk) :
    attrs.admits key = true ↔ attrs.vlan = key := by
  have hlow := attrs.vlan_nonneg
  have hhigh := attrs.vlan_le
  have hint : int32 attrs.vlan = attrs.vlan := int32_of_range (by omega) (by omega)
  unfold PortAttrs.admits
  rw [if_neg hacc, hint]
  split
  · rename_i hzero
    rw [hzero, beq_iff_eq]
    exact eq_comm
  · rw [beq_iff_eq]
    exact eq_comm

theorem relays_leaf_iff (hwire : Wired links switches) {id : String}
    (hleaf : Leaf links switches node leaf vlan) :
    (switches node).Relays id key leaf ↔ leaf ≠ id ∧ vlan = key := by
  obtain ⟨hlink, hacc, ptr, hptr, rfl⟩ := hleaf
  constructor
  · rintro ⟨ho, dst, hdst, -, hadm⟩
    cases hptr.symm.trans hdst
    exact ⟨ho, (admits_access_iff hacc).mp hadm⟩
  · rintro ⟨ho, hkey⟩
    exact ⟨ho, ptr, hptr, hwire.leaves node leaf ptr hptr hlink,
      (admits_access_iff hacc).mpr hkey⟩

theorem filterMap_eq_single {α β : Type} [DecidableEq α] {items : List α}
    (hnodup : items.Nodup) (item : α) (value : β) :
    (items.filterMap fun other => if other = item then some value else none) =
      if item ∈ items then [value] else [] := by
  induction items with
  | nil => rfl
  | cons first rest ih =>
    obtain ⟨hnew, hrest⟩ := List.nodup_cons.mp hnodup
    by_cases hfst : first = item
    · subst hfst
      simp [ih hrest, hnew]
    · simp [ih hrest, hfst, Ne.symm hfst]

theorem arriving_leaf [DecidableEq V] {node' : V}
    (hleaf : Leaf links switches node' leaf vlan) (hnodup : ids.Nodup) :
    ((arriving links node
        (ids.map fun other => (other, (switches node).rendered data key other))).filter
          fun packet => packet.node = node' ∧ packet.port = leaf).map (·.frame) =
      if node = node' ∧ leaf ∈ ids then [data] else [] := by
  obtain ⟨hlink, hacc, ptr, hptr, rfl⟩ := hleaf
  have hrendered : (switches node').rendered data key leaf = data := by
    simp [rendered, hptr, hacc]
  have hsing : (if node = node' ∧ leaf ∈ ids then [data] else []) =
      ids.filterMap fun other => if node = node' ∧ other = leaf then some data else none := by
    by_cases hnode : node = node'
    · simp only [hnode, true_and]
      exact (filterMap_eq_single hnodup leaf data).symm
    · simp [hnode]
  rw [hsing, arriving, List.filterMap_map, List.filter_filterMap, List.map_filterMap]
  refine List.filterMap_congr fun other _ => ?_
  by_cases hhere : node = node' ∧ other = leaf
  · obtain ⟨rfl, rfl⟩ := hhere
    simp [hlink, hrendered]
  dsimp only [Function.comp_apply]
  split
  · rfl
  · simpa using hhere

end Relaying

/-! ## The invariant -/

variable [DecidableEq V]

structure Spreading (links : Links V) (switches : V → Switch) (source : V) (port : String)
    (key : Int) (data : Bytes) (fabric : Fabric V) : Prop where
  config : ∀ node, Switch.SameConfig (switches node) (fabric.switches node)
  wellFormed : ∀ node, (fabric.switches node).WellFormed
  packets : ∀ packet ∈ fabric.inFlight,
    packet.Genuine links switches source port key data
  flood : Reachable (fun first => first = Flood.start source)
    (Flood.Step (activeGraph links switches)) (fabric.view links switches)
  copies : ∀ node leaf vlan, Leaf links switches node leaf vlan →
    (node, leaf) ≠ (source, port) → fabric.copies node leaf =
      if vlan = key then
        List.replicate ((fabric.view links switches).visited.count node) data
      else []
  bound : fabric.delivered.length + fabric.inFlight.length ≤
    1 + ((fabric.view links switches).visited.map fun node =>
      (switches node).ports.keys.length).sum

omit [DecidableEq V] in
theorem Leaf.forwards (hwire : Wired links switches)
    (h : Leaf links switches node leaf vlan) : (switches node).forwards leaf = true := by
  obtain ⟨hlink, -, ptr, hptr, -⟩ := h
  rw [Switch.forwards, hptr]
  simpa using hwire.leaves node leaf ptr hptr hlink

theorem spreading_inject (hwire : Wired links switches)
    (hsource : Leaf links switches source port key) :
    Spreading links switches source port key data
      (.inject switches source port data) := by
  have hlive := hsource.forwards hwire
  have hview : (inject switches source port data).view links switches =
      Flood.start source := by
    simp [inject, view, live, hlive, token, hsource.1, Flood.start]
  constructor
  case config => exact fun node => .refl _
  case wellFormed => exact hwire.wellFormed
  case packets => exact fun packet hpacket => .inl (List.mem_singleton.mp hpacket)
  case flood =>
    rw [hview]
    exact .start rfl
  case copies =>
    intro node leaf vlan _ _
    rw [hview]
    simp [copies, inject, Flood.start]
  case bound =>
    rw [hview]
    simp [inject, Flood.start]

/-! ## One delivery -/

section Step

variable (hwire : Wired links switches) (hsource : Leaf links switches source port key)
  (hfr : Flooded data) {fabric : Fabric V} {packet : Packet V}
  {before behind : List (Packet V)}

include hwire hsource hfr

section Spread

variable (h : Spreading links switches source port key data fabric)

include h

/-- What a packet meets: its port, and the frame it is taken for. -/
theorem Spreading.arrival (hpacket : packet ∈ fabric.inFlight) :
    ∃ src frame, (fabric.switches packet.node).ports.get? packet.port = some src ∧
      (((fabric.switches packet.node).entry src).stpState = .forwarding ↔
        packet.live switches = true) ∧
      Carried data key ((fabric.switches packet.node).entry src).attrs.toPortAttrs
        packet.frame frame := by
  obtain ⟨src, frame, hsrc, hcarried⟩ := (h.packets packet hpacket).carried hwire hsource
    hfr
  have hcfg := h.config packet.node
  refine ⟨src, frame, ?_, ?_, ?_⟩
  · rw [hcfg.ports, hsrc]
  · rw [hcfg.stpState, live, forwards, hsrc]
    simp
  · rw [hcfg.attrs]
    exact hcarried

theorem Spreading.config_deliver (hpacket : packet ∈ fabric.inFlight) (env : Env)
    (rest : List (Packet V)) (node : V) :
    SameConfig (switches node)
        ((fabric.deliver links env packet rest).switches node) ∧
      ((fabric.deliver links env packet rest).switches node).WellFormed := by
  obtain ⟨src, frame, -, -, hcarried⟩ := h.arrival hwire hsource hfr hpacket
  by_cases hnode : node = packet.node
  · subst hnode
    simp only [Fabric.deliver, Function.update_self]
    exact ⟨(h.config _).trans (Switch.sameConfig_deliverFrom hfr hcarried env _),
      (h.wellFormed _).deliverFrom env _ _⟩
  · simp only [Fabric.deliver, Function.update_of_ne hnode]
    exact ⟨h.config node, h.wellFormed node⟩

theorem Spreading.blocked (hflight : fabric.inFlight = before ++ packet :: behind)
    (hdead : packet.live switches = false) (env : Env) :
    Spreading links switches source port key data
      (fabric.deliver links env packet (before ++ behind)) := by
  have hpacket : packet ∈ fabric.inFlight := by simp [hflight]
  obtain ⟨src, frame, hsrc, hlive, hcarried⟩ := h.arrival hwire hsource hfr hpacket
  have hcalls := deliverFrom_blocked hsrc (h.wellFormed packet.node)
    (by rw [Ne, hlive, hdead]; decide) hfr hcarried env
  have hflight' : (fabric.deliver links env packet (before ++ behind)).inFlight =
      before ++ behind := by
    simp [Fabric.deliver, hcalls, Fabric.crossing]
  have hview : (fabric.deliver links env packet (before ++ behind)).view links switches =
      fabric.view links switches := by
    rw [Fabric.view, Fabric.view, hflight', hflight]
    simp [Fabric.deliver, hdead]
  constructor
  case config => exact fun node => (h.config_deliver hwire hsource hfr hpacket env _ node).1
  case wellFormed =>
    exact fun node => (h.config_deliver hwire hsource hfr hpacket env _ node).2
  case packets =>
    intro other ho
    rw [hflight'] at ho
    refine h.packets other ?_
    rw [hflight]
    exact List.mem_append.mpr ((List.mem_append.mp ho).imp_right (List.mem_cons_of_mem _))
  case flood =>
    rw [hview]
    exact h.flood
  case copies =>
    have hreceived (node : V) (leaf : String) :
        (fabric.deliver links env packet (before ++ behind)).copies node leaf =
          fabric.copies node leaf := by
      simp [Fabric.copies, Fabric.deliver, hcalls, Fabric.arriving]
    intro node leaf vlan hleaf ho
    rw [hreceived, hview]
    exact h.copies node leaf vlan hleaf ho
  case bound =>
    have hbound := h.bound
    rw [hflight] at hbound
    rw [hview, hflight']
    simp only [Fabric.deliver, List.length_append, List.length_cons,
      List.length_nil] at hbound ⊢
    omega

omit hsource hfr in
theorem Spreading.plain (node : V) : (fabric.switches node).Plain := by
  intro other ptr hptr
  rw [(h.config node).ports] at hptr
  rw [(h.config node).attrs]
  exact hwire.plain node other ptr hptr

omit [DecidableEq V] in
structure Relayed (switches : V → Switch) (key : Int) (data : Bytes) (fabric : Fabric V)
    (packet : Packet V) (env : Env) (ids : List String) : Prop where
  nodup : ids.Nodup
  mem_iff : ∀ other, other ∈ ids ↔ (switches packet.node).Relays packet.port key other
  sent : ((fabric.switches packet.node).deliverFrom env packet.port packet.frame).2.map
      (fun call => (call.port.id, call.frame)) =
    ids.map fun other => (other, (switches packet.node).rendered data key other)

theorem Spreading.relayed (hpacket : packet ∈ fabric.inFlight)
    (hlive : packet.live switches = true) (env : Env) :
    ∃ ids, Relayed switches key data fabric packet env ids := by
  obtain ⟨src, frame, hsrc, hforwards, hcarried⟩ := h.arrival hwire hsource hfr hpacket
  obtain ⟨ids, hnodup, hids, hsent⟩ := deliverFrom_forwarding
    (h.wellFormed packet.node) (h.plain hwire packet.node) hsrc
    (hforwards.mpr hlive) hfr hcarried env
  have hcfg := h.config packet.node
  simp only [hcfg.relays, hcfg.rendered] at hids hsent
  exact ⟨ids, hnodup, hids, hsent⟩

end Spread

omit [DecidableEq V] hfr in
theorem Packet.Genuine.mem_neighbours
    (h : packet.Genuine links switches source port key data)
    (hlive : packet.live switches = true) {ids : List String}
    (hids : ∀ other, other ∈ ids ↔ (switches packet.node).Relays packet.port key other)
    (neighbour : V) :
    neighbour ∈ ids.filterMap (neighbourVia links switches packet.node) ↔
      (activeGraph links switches).Adj packet.node neighbour ∧
        neighbour ∉ (packet.token links).origin := by
  rw [activeGraph_adj hwire, List.mem_filterMap]
  simp only [neighbourVia_eq_some, hids, token, Option.mem_def]
  constructor
  · rintro ⟨other, hrelays, far, hactive⟩
    refine ⟨⟨other, far, hactive⟩, fun hback => ?_⟩
    rcases h with rfl | ⟨far', hlink, hfar, -⟩
    · simp [hsource.1] at hback
    rw [hlink] at hback
    cases hback
    exact hrelays.1 (hwire.loopFree.single hactive ⟨hlink, hlive, hfar⟩)
  · rintro ⟨⟨near, far, hactive⟩, hfwd⟩
    refine ⟨near, ⟨?_, ?_⟩, far, hactive⟩
    · rintro rfl
      rw [hactive.1] at hfwd
      exact hfwd rfl
    obtain ⟨dst, hdst, htrunk⟩ := hwire.trunks _ _ _ hactive.1
    have hst := hactive.2.1
    rw [forwards, hdst] at hst
    exact ⟨dst, hdst, by simpa using hst, by simp [PortAttrs.admits, htrunk]⟩

end Step

section Visit

variable (hwire : Wired links switches) {fabric : Fabric V} {packet : Packet V}
  {before behind : List (Packet V)} (hlive : packet.live switches = true) {env : Env}
  {ids : List String} (hrelayed : Relayed switches key data fabric packet env ids)

omit [DecidableEq V] in
include hrelayed in
theorem Relayed.forwards {other : String} (ho : other ∈ ids) :
    (switches packet.node).forwards other = true :=
  relays_forwards ((hrelayed.mem_iff other).mp ho)

include hlive in
theorem visited_deliver (rest : List (Packet V)) :
    ((fabric.deliver links env packet rest).view links switches).visited =
      (fabric.view links switches).visited ++ [packet.node] := by
  simp [Fabric.view, Fabric.deliver, hlive]

include hwire hrelayed

theorem Relayed.inFlight_deliver (rest : List (Packet V)) :
    (fabric.deliver links env packet rest).inFlight =
      rest ++ ids.filterMap fun other =>
        (links (packet.node, other)).map fun far => ⟨far.1, far.2, wireForm data key⟩ := by
  simp only [Fabric.deliver, hrelayed.sent, crossing_rendered hwire]

include hlive

theorem Relayed.step (hgenuine : packet.Genuine links switches source port key data)
    (hsource : Leaf links switches source port key)
    (hflight : fabric.inFlight = before ++ packet :: behind) :
    Flood.Step (activeGraph links switches) (fabric.view links switches)
      (packet.token links)
      ((fabric.deliver links env packet (before ++ behind)).view links switches) := by
  refine ⟨((before ++ behind).filter (live switches)).map (token links),
    ids.filterMap (neighbourVia links switches packet.node), ?_,
    nodup_neighbours hwire hrelayed.nodup,
    hgenuine.mem_neighbours hwire hsource hlive hrelayed.mem_iff, ?_,
    visited_deliver hlive _⟩
  · have hperm : (before ++ packet :: behind).Perm (packet :: (before ++ behind)) :=
      List.perm_middle
    have hlives := hperm.filter (live switches)
    rw [List.filter_cons_of_pos hlive] at hlives
    rw [Fabric.view, hflight]
    exact hlives.map (Packet.token links)
  · simp only [Fabric.view, Fabric.deliver, hrelayed.sent]
    rw [List.filter_append, List.map_append,
      tokens_crossing hwire fun _ => hrelayed.forwards]
    exact List.Perm.refl _

omit hlive in
theorem Relayed.copies_deliver (hleaf : Leaf links switches node leaf vlan)
    (he : (node, leaf) ≠ (packet.node, packet.port)) (rest : List (Packet V)) :
    (fabric.deliver links env packet rest).copies node leaf = fabric.copies node leaf ++
      if packet.node = node ∧ vlan = key then [data] else [] := by
  have harriving : ((Fabric.arriving links packet.node (ids.map fun other =>
      (other, (switches packet.node).rendered data key other))).filter
        fun arrived => arrived.node = node ∧ arrived.port = leaf).map (·.frame) =
      if packet.node = node ∧ leaf ∈ ids then [data] else [] :=
    arriving_leaf hleaf hrelayed.nodup
  have hm (hnode : packet.node = node) : leaf ∈ ids ↔ vlan = key := by
    subst hnode
    have hp : leaf ≠ packet.port := fun heq => he (by rw [heq])
    exact (hrelayed.mem_iff leaf).trans
      ((relays_leaf_iff hwire hleaf).trans (and_iff_right hp))
  simp only [Fabric.copies, Fabric.deliver, hrelayed.sent, List.filter_append,
    List.map_append, harriving]
  congr 1
  by_cases hnode : packet.node = node
  · simp [hnode, hm hnode]
  · simp [hnode]

omit hlive in
theorem Relayed.length_inFlight (rest : List (Packet V)) :
    (fabric.deliver links env packet rest).inFlight.length ≤
      rest.length + (switches packet.node).ports.keys.length := by
  have hcrossing := List.length_filterMap_le (fun other =>
    (links (packet.node, other)).map fun far =>
      (⟨far.1, far.2, wireForm data key⟩ : Packet V)) ids
  have hkeys : ids.length ≤ (switches packet.node).ports.keys.length := by
    refine (List.subperm_of_subset hrelayed.nodup fun other ho => ?_).length_le
    obtain ⟨-, dst, hdst, -⟩ := (hrelayed.mem_iff other).mp ho
    exact (GoMap.mem_keys_iff _ _).mpr ⟨dst, hdst⟩
  rw [hrelayed.inFlight_deliver hwire, List.length_append]
  omega

end Visit

section Step

variable (hwire : Wired links switches) (hsource : Leaf links switches source port key)
  (hfr : Flooded data) {fabric : Fabric V} {packet : Packet V}
  {before behind : List (Packet V)}

include hwire hsource hfr

/-- A delivery at a port that forwards is a visit. -/
theorem Spreading.visit (h : Spreading links switches source port key data fabric)
    (hflight : fabric.inFlight = before ++ packet :: behind)
    (hlive : packet.live switches = true) (env : Env) :
    Spreading links switches source port key data
      (fabric.deliver links env packet (before ++ behind)) := by
  have hpacket : packet ∈ fabric.inFlight := by simp [hflight]
  have hgenuine := h.packets packet hpacket
  obtain ⟨ids, hrelayed⟩ := h.relayed hwire hsource hfr hpacket hlive env
  constructor
  case config => exact fun node => (h.config_deliver hwire hsource hfr hpacket env _ node).1
  case wellFormed =>
    exact fun node => (h.config_deliver hwire hsource hfr hpacket env _ node).2
  case packets =>
    intro other ho
    rw [hrelayed.inFlight_deliver hwire] at ho
    rcases List.mem_append.mp ho with hold | hnew
    · refine h.packets other ?_
      rw [hflight]
      exact List.mem_append.mpr
        ((List.mem_append.mp hold).imp_right (List.mem_cons_of_mem _))
    · obtain ⟨exit, hexit, hcrossed⟩ := List.mem_filterMap.mp hnew
      obtain ⟨far, hlink, rfl⟩ := Option.map_eq_some_iff.mp hcrossed
      exact .inr ⟨(packet.node, exit), hwire.symmetric _ _ hlink, hrelayed.forwards hexit,
        rfl⟩
  case flood => exact .next h.flood (hrelayed.step hwire hlive hgenuine hsource hflight)
  case copies =>
    intro node leaf vlan hleaf ho
    have he : (node, leaf) ≠ (packet.node, packet.port) := by
      rintro ⟨⟩
      rcases hgenuine with heq | ⟨far, hlink, -⟩
      · exact ho (by rw [heq])
      · cases hleaf.1.symm.trans hlink
    rw [hrelayed.copies_deliver hwire hleaf he, h.copies node leaf vlan hleaf ho,
      visited_deliver hlive, List.count_append, List.count_singleton]
    by_cases hv : vlan = key
    · by_cases hnode : packet.node = node
      · simp [hv, hnode, List.replicate_succ']
      · simp [hv, hnode]
    · simp [hv]
  case bound =>
    have hbound := h.bound
    have hlen := hrelayed.length_inFlight hwire (before ++ behind)
    have hdel : (fabric.deliver links env packet (before ++ behind)).delivered.length =
        fabric.delivered.length + 1 := by
      simp [Fabric.deliver]
    rw [hflight] at hbound
    rw [visited_deliver hlive, List.map_append, List.sum_append, hdel]
    simp only [List.length_append, List.length_cons, List.map_cons, List.map_nil,
      List.sum_singleton] at hbound hlen ⊢
    omega

theorem Spreading.step {after : Fabric V} {label : Env × Packet V}
    (h : Spreading links switches source port key data fabric)
    (hstep : fabric.Step links label after) :
    Spreading links switches source port key data after := by
  obtain ⟨before, behind, hflight, rfl⟩ := hstep
  cases hlive : label.2.live switches with
  | true => exact h.visit hwire hsource hfr hflight hlive label.1
  | false => exact h.blocked hwire hsource hfr hflight hlive label.1

theorem spreading_of_reachable
    (h : Reachable (fun first => first = .inject switches source port data)
      (Step links) fabric) : Spreading links switches source port key data fabric := by
  refine Reachable.induct ?_ ?_ h
  · rintro first rfl
    exact spreading_inject hwire hsource
  · intro state label after _ ih hstep
    exact ih.step hwire hsource hfr hstep

end Step

/-! ## Whole runs -/

theorem Spreading.length_delivered [Fintype V] (hwire : Wired links switches)
    {fabric : Fabric V} (h : Spreading links switches source port key data fabric) :
    fabric.delivered.length ≤ 1 + ∑ node, (switches node).ports.keys.length := by
  have hexact := Flood.exact_of_reachable hwire.loopFree.acyclic h.flood
  have hnodup := List.nodup_iff_count_le_one.mpr hexact.count_le_one
  have hsum := Finset.sum_le_univ_sum_of_nonneg
    (s := (fabric.view links switches).visited.toFinset)
    fun node => Nat.zero_le (switches node).ports.keys.length
  rw [List.sum_toFinset _ hnodup] at hsum
  have hbound := h.bound
  omega

/-- Deliveries go on while a packet is in flight, and come to an end. -/
theorem exists_quiet [Fintype V] (hwire : Wired links switches)
    (hsource : Leaf links switches source port key) (hfr : Flooded data) {fabric : Fabric V}
    (h : Reachable (fun first => first = .inject switches source port data)
      (Step links) fabric) :
    ∃ last, Reachable (fun first => first = fabric) (Step links) last ∧
      last.inFlight = [] := by
  induction hleft : 1 + (∑ node, (switches node).ports.keys.length) -
    fabric.delivered.length using Nat.strong_induction_on generalizing fabric with
  | _ left ih =>
    cases hflight : fabric.inFlight with
    | nil => exact ⟨fabric, .start rfl, hflight⟩
    | cons packet rest =>
      have hstep : fabric.Step links (steadyEnv 1, packet)
          (fabric.deliver links (steadyEnv 1) packet rest) := ⟨[], rest, hflight, rfl⟩
      have hnext := h.next hstep
      have hbound := (spreading_of_reachable hwire hsource hfr hnext).length_delivered hwire
      have hcount : (fabric.deliver links (steadyEnv 1) packet rest).delivered.length =
          fabric.delivered.length + 1 := by
        simp [Fabric.deliver]
      have hfst : Reachable (fun first => first = fabric) (Fabric.Step links)
          (fabric.deliver links (steadyEnv 1) packet rest) := .next (.start rfl) hstep
      obtain ⟨last, hlast, hq⟩ := ih _ (by omega) hnext rfl
      exact ⟨last, hfst.trans hlast, hq⟩

/-- A frame floods a loop-free fabric exactly once: the deliveries come to an
end, and then each port of the VLAN that is connected has one copy of the frame
as it was; ports of other VLANs never have any. -/
theorem flooded_exactly_once [Fintype V] (hwired : Wired links switches)
    (hsource : Leaf links switches source port key) (hframe : Flooded data)
    {fabric : Fabric V}
    (h : Reachable (fun first => first = .inject switches source port data)
      (Fabric.Step links) fabric) :
    fabric.delivered.length ≤ 1 + ∑ node, (switches node).ports.keys.length ∧
      (∃ last, Reachable (fun first => first = fabric) (Fabric.Step links) last ∧
        last.inFlight = []) ∧
      ∀ node leaf vlan, Leaf links switches node leaf vlan →
        (vlan ≠ key → fabric.copies node leaf = []) ∧
        (vlan = key → (node, leaf) ≠ (source, port) →
          (activeGraph links switches).Reachable source node → fabric.inFlight = [] →
            fabric.copies node leaf = [data]) := by
  have hspreading := spreading_of_reachable hwired hsource hframe h
  have hexact := Flood.exact_of_reachable hwired.loopFree.acyclic hspreading.flood
  refine ⟨hspreading.length_delivered hwired, exists_quiet hwired hsource hframe h, ?_⟩
  intro node leaf vlan hleaf
  refine ⟨fun hv => ?_, fun hv ho hreach hq => ?_⟩
  · have ho : (node, leaf) ≠ (source, port) := by
      rintro heq
      cases heq
      obtain ⟨-, -, ptr, hptr, rfl⟩ := hleaf
      obtain ⟨-, -, ptr', hptr', rfl⟩ := hsource
      cases hptr.symm.trans hptr'
      exact hv rfl
    rw [hspreading.copies node leaf vlan hleaf ho, if_neg hv]
  · have hd : (fabric.view links switches).pending = [] := by
      simp [view, hq]
    rw [hspreading.copies node leaf vlan hleaf ho, if_pos hv,
      hexact.count_of_done hd hreach]
    rfl

def joined : Links Bool := fun location =>
  if location.2 = "trunk" then some (!location.1, "trunk") else none

def twoSwitches : Bool → Switch := fun _ => threePorts.sw

def plainBroadcast : Bytes :=
  [0xff, 0xff, 0xff, 0xff, 0xff, 0xff, 0x02, 0, 0, 0, 0, 1, 0x08, 0]

theorem threePorts_get? {port : String} {ptr : Ptr}
    (h : threePorts.sw.ports.get? port = some ptr) :
    (port = "trunk" ∧ ptr = 0) ∨ (port = "ten" ∧ ptr = 1) ∨
      (port = "plain" ∧ ptr = 2) := by
  have hm := (GoMap.get?_eq_some_iff _ _ _).mp h
  have hentries : threePorts.sw.ports.entries =
      [("plain", 2), ("ten", 1), ("trunk", 0)] := by decide
  rw [hentries] at hm
  simp only [List.mem_cons, Prod.mk.injEq, List.not_mem_nil, or_false] at hm
  tauto

theorem joined_eq_some {node : Bool} {port : String} {far : Bool × String}
    (h : joined (node, port) = some far) : port = "trunk" ∧ far = (!node, "trunk") := by
  unfold joined at h
  split at h
  · rename_i htrunk
    cases h
    exact ⟨htrunk, rfl⟩
  · cases h

theorem loopFree_twoSwitches : LoopFree joined twoSwitches := by
  constructor
  case acyclic =>
    have hrank (x y : Bool) (hparent : (if x then some false else none) = some y) :
        y.toNat < x.toNat := by
      cases x
      · cases hparent
      · cases hparent
        decide
    refine isAcyclic_of_parent hrank fun x y hadj => ?_
    have hne := hadj.ne
    cases x <;> cases y <;> simp at hne ⊢
  case noLoop =>
    intro node near far hactive
    have hfar := (joined_eq_some hactive.1).2
    cases node <;> cases hfar
  case single =>
    intro node other near far near' far' hactive hactive'
    rw [(joined_eq_some hactive.1).1, (joined_eq_some hactive'.1).1]

theorem wired_twoSwitches : Wired joined twoSwitches := by
  constructor
  case wellFormed => exact fun _ => reached_threePorts.wellFormed
  case symmetric =>
    rintro ⟨node, near⟩ far hlink
    obtain ⟨rfl, rfl⟩ := joined_eq_some hlink
    simp [joined]
  case trunks =>
    intro node port far hlink
    obtain ⟨rfl, -⟩ := joined_eq_some hlink
    exact ⟨0, rfl, rfl⟩
  case plain =>
    intro node port ptr hptr
    rcases threePorts_get? hptr with ⟨rfl, rfl⟩ | ⟨rfl, rfl⟩ | ⟨rfl, rfl⟩
    · exact ⟨rfl, rfl, rfl, rfl⟩
    · exact ⟨rfl, rfl, rfl, rfl⟩
    · exact ⟨rfl, rfl, rfl, rfl⟩
  case leaves =>
    intro node port ptr hptr _
    rcases threePorts_get? hptr with ⟨rfl, rfl⟩ | ⟨rfl, rfl⟩ | ⟨rfl, rfl⟩
    · rfl
    · rfl
    · rfl
  case loopFree => exact loopFree_twoSwitches

theorem flooded_exactly_once_twoSwitches :
    ∃ fabric, Reachable (fun first => first = .inject twoSwitches false "ten" plainBroadcast)
        (Fabric.Step joined) fabric ∧ fabric.inFlight = [] ∧
      fabric.copies true "ten" = [plainBroadcast] ∧ fabric.copies true "plain" = [] := by
  have hleaf (node : Bool) : Leaf joined twoSwitches node "ten" 10 :=
    ⟨rfl, by decide, 1, rfl, rfl⟩
  have hplain : Leaf joined twoSwitches true "plain" 0 := ⟨rfl, by decide, 2, by decide, rfl⟩
  have hfr : Flooded plainBroadcast :=
    ⟨by decide, by decide, by decide, by decide, by decide⟩
  have hreach : (activeGraph joined twoSwitches).Reachable false true := by
    refine SimpleGraph.Adj.reachable ((activeGraph_adj wired_twoSwitches _ _).mpr ?_)
    exact ⟨"trunk", "trunk", rfl, by decide, by decide⟩
  have hstart : Reachable (fun first => first = .inject twoSwitches false "ten" plainBroadcast)
      (Step joined) (.inject twoSwitches false "ten" plainBroadcast) := .start rfl
  obtain ⟨-, ⟨last, hlast, hq⟩, -⟩ :=
    flooded_exactly_once wired_twoSwitches (hleaf false) hfr hstart
  have hrun := hstart.trans hlast
  obtain ⟨-, -, hcopies⟩ := flooded_exactly_once wired_twoSwitches (hleaf false) hfr hrun
  exact ⟨last, hrun, hq,
    (hcopies true "ten" 10 (hleaf true)).2 rfl (by decide) hreach hq,
    (hcopies true "plain" 0 hplain).1 (by decide)⟩

end GvSwitch.SwitchCore
