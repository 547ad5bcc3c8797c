import Mathlib.Data.Set.Card
import SourceIndex.Proofs.Reachability

/-!
# Resolved calls

The call graph of records is the relation of their resolved calls. Where a call leads to is told
here by the text of the call, and the order of nodes and edges by the places of records and calls:
what occurs first is listed first.
-/

namespace SourceIndex.CallGraph

/-! ## Where calls lead to -/

/-- A record has this node. -/
def HasNode (records : List Record) (name : String) : Prop :=
  ∃ record ∈ records, record.nodeName = name

/-- The characters that separate the segments of a call. -/
def separators : List Char := ['.', ':', '>']

/-- The text after the last separator of a call, or all of a call without separators. -/
def IsLastSegment (call segment : String) : Prop :=
  (∀ c ∈ segment.toList, c ∉ separators) ∧
    ∃ front, call.toList = front ++ segment.toList ∧ ∀ mark ∈ front.getLast?, mark ∈ separators

/-- Where a call leads to. -/
inductive ResolvesTo (records : List Record) (call : String) : (callee : String) → Prop where
  /-- A call that is the name of a node leads there. -/
  | itself (node : HasNode records call) : ResolvesTo records call call
  /-- Any other call leads to the node that its last segment names. -/
  | segment {callee : String} (unknown : ¬HasNode records call) (last : IsLastSegment call callee)
    (nonempty : callee ≠ "") (differs : callee ≠ call) (node : HasNode records callee) :
    ResolvesTo records call callee

theorem lastSegment_eq_iff {call segment : String} :
    lastSegment call = segment ↔ IsLastSegment call segment := by
  have mark (c : Char) : (c == '.' || c == ':' || c == '>') = true ↔ c ∈ separators := by
    simp [separators, or_assoc]
  have inner (c : Char) : (c == '.' || c == ':' || c == '>') = false ↔ c ∉ separators := by
    rw [← mark, Bool.not_eq_true]
  constructor
  · intro same
    rw [← same, IsLastSegment, lastSegment, String.toList_ofList]
    obtain ⟨front, split, ends⟩ := Text.exists_append_afterLast
      (fun c => c == '.' || c == ':' || c == '>') call.toList
    refine ⟨fun c member => (inner c).1 (Text.mem_of_mem_afterLast member).2, front, split, ?_⟩
    intro last here
    exact (mark last).1 (ends last here)
  · intro last
    obtain ⟨plain, front, split, ends⟩ := last
    rw [lastSegment, split, Text.afterLast_append, String.ofList_toList]
    · exact fun last here => (mark last).2 (ends last here)
    · exact fun c member => (inner c).2 (plain c member)

/-- Calls are resolved by their texts and the nodes of all records. -/
theorem resolve_build_iff {records : List Record} {call callee : String} :
    resolve (build records).nodes call = some callee ↔ ResolvesTo records call callee := by
  have known (name : String) :
      (build records).nodes.contains name = true ↔ HasNode records name := by
    rw [List.contains_iff_mem, mem_nodes_build_iff, HasNode]
  rw [resolve]
  by_cases node : HasNode records call
  · rw [if_pos ((known call).2 node), Option.some.injEq]
    constructor
    · intro same
      cases same
      exact .itself node
    · intro resolves
      cases resolves with
      | itself => rfl
      | segment unknown => exact absurd node unknown
  · rw [if_neg (mt (known call).1 node), Option.ite_none_right_eq_some, known, Option.some.injEq,
      lastSegment_eq_iff]
    constructor
    · intro found
      obtain ⟨⟨nonempty, differs, named⟩, last⟩ := found
      rw [lastSegment_eq_iff.2 last] at nonempty differs named
      exact .segment node last nonempty differs named
    · intro resolves
      cases resolves with
      | itself named => exact absurd named node
      | segment _ last nonempty differs named =>
        rw [lastSegment_eq_iff.2 last]
        exact ⟨⟨nonempty, differs, named⟩, last⟩

/-! ## Order of first places -/

/-- The first thing has a place before all places of the second. -/
def Precedes {Place Thing : Type} (occurs : Place → Thing → Prop) (before : Place → Place → Prop)
    (first second : Thing) : Prop :=
  ∃ place, occurs place first ∧ ∀ other, occurs other second → before place other

/-- Things that are listed with increasing places first occur in the order of their first places. -/
theorem pairwise_precedes_firstOccurrences {Place Thing : Type} [BEq Thing] [LawfulBEq Thing]
    {before : Place → Place → Prop} {placed : List (Place × Thing)}
    (increasing : placed.Pairwise fun first second => before first.1 second.1) :
    (Text.firstOccurrences (placed.map Prod.snd)).Pairwise
      (Precedes (fun place thing => (place, thing) ∈ placed) before) := by
  induction placed with
  | nil => exact .nil
  | cons head rest ih =>
    obtain ⟨place, thing⟩ := head
    obtain ⟨least, increasing⟩ := List.pairwise_cons.1 increasing
    rw [List.map_cons, Text.firstOccurrences, List.pairwise_cons]
    -- the places of other things are those in the rest
    have later {other : Thing} (differs : other ≠ thing) {site : Place}
        (member : (site, other) ∈ (place, thing) :: rest) : (site, other) ∈ rest := by
      cases List.mem_cons.1 member with
      | inl same => exact absurd (Prod.mk.inj same).2 differs
      | inr later => exact later
    constructor
    · intro other member
      have differs : other ≠ thing := by simpa using (List.mem_filter.1 member).2
      refine ⟨place, List.mem_cons_self .., ?_⟩
      intro site there
      exact least (site, other) (later differs there)
    · apply ((ih increasing).filter (· != thing)).imp_of_mem
      intro first second _ member precedes
      have differs : second ≠ thing := by simpa using (List.mem_filter.1 member).2
      obtain ⟨site, here, least⟩ := precedes
      exact ⟨site, List.mem_cons_of_mem _ here, fun other there =>
        least other (later differs there)⟩

/-- The places in a list increase. -/
theorem pairwise_zipIdx {α : Type} (items : List α) :
    items.zipIdx.Pairwise fun first second => first.2 < second.2 := by
  apply List.pairwise_map.1
  rw [List.zipIdx_map_snd]
  exact List.pairwise_lt_range'

/-! ## Places of nodes and edges -/

/-- The record at a position has the node. -/
def NodeAt (records : List Record) (position : Nat) (name : String) : Prop :=
  ∃ record, records[position]? = some record ∧ record.nodeName = name

/-- The record at one position makes, at another position of its calls, one that gives rise to the
edge. -/
def EdgeAt (records : List Record) (place : Nat × Nat) (edge : String × String) : Prop :=
  ∃ record call, records[place.1]? = some record ∧ record.calls[place.2]? = some call ∧
    record.nodeName = edge.1 ∧ ResolvesTo records call edge.2

/-- A record with the first node comes before all records with the second. -/
def NodeBefore (records : List Record) (first second : String) : Prop :=
  Precedes (NodeAt records) (· < ·) first second

/-- A call gives rise to the first edge before any call gives rise to the second, as the records are
scanned in order and the calls of each. -/
def EdgeBefore (records : List Record) (first second : String × String) : Prop :=
  Precedes (EdgeAt records) (Prod.Lex (· < ·) (· < ·)) first second

/-- The nodes of the records with their places. -/
def placedNodes (records : List Record) : List (Nat × String) :=
  records.zipIdx.map fun entry => (entry.2, entry.1.nodeName)

theorem map_snd_placedNodes (records : List Record) :
    (placedNodes records).map Prod.snd = records.map Record.nodeName := by
  have names : (placedNodes records).map Prod.snd =
      (records.zipIdx.map Prod.fst).map Record.nodeName := by
    rw [placedNodes, List.map_map, List.map_map]
    rfl
  rw [names, List.zipIdx_map_fst]

theorem mem_placedNodes_iff {records : List Record} {position : Nat} {name : String} :
    (position, name) ∈ placedNodes records ↔ NodeAt records position name := by
  simp only [placedNodes, NodeAt, List.mem_map, Prod.exists, List.mem_zipIdx_iff_getElem?,
    Prod.mk.injEq]
  constructor
  · rintro ⟨record, _, here, rfl, rfl⟩
    exact ⟨record, here, rfl⟩
  · rintro ⟨record, here, rfl⟩
    exact ⟨record, position, here, rfl, rfl⟩

theorem pairwise_nodes_build (records : List Record) :
    (build records).nodes.Pairwise (NodeBefore records) := by
  have increasing : (placedNodes records).Pairwise fun first second => first.1 < second.1 :=
    (pairwise_zipIdx records).map _ fun _ _ less => less
  have ordered := pairwise_precedes_firstOccurrences increasing
  simp only [map_snd_placedNodes, mem_placedNodes_iff] at ordered
  exact ordered

/-- The edges that the calls of a record at a position give rise to, with their places. -/
def placedEdgesOf (nodes : List String) (position : Nat) (record : Record) :
    List ((Nat × Nat) × String × String) :=
  record.calls.zipIdx.filterMap fun entry =>
    (resolve nodes entry.1).map fun callee => ((position, entry.2), (record.nodeName, callee))

theorem map_snd_placedEdgesOf (nodes : List String) (position : Nat) (record : Record) :
    (placedEdgesOf nodes position record).map Prod.snd = edgesOf nodes record := by
  have edges : (placedEdgesOf nodes position record).map Prod.snd =
      ((record.calls.zipIdx.map Prod.fst).filterMap (resolve nodes)).map
        fun callee => (record.nodeName, callee) := by
    simp only [placedEdgesOf, List.map_filterMap, List.filterMap_map, Option.map_map,
      Function.comp_def]
  rw [edges, List.zipIdx_map_fst, edgesOf]

theorem mem_placedEdgesOf_iff {nodes : List String} {position : Nat} {record : Record}
    {place : Nat × Nat} {edge : String × String} :
    (place, edge) ∈ placedEdgesOf nodes position record ↔
      position = place.1 ∧ record.nodeName = edge.1 ∧
        ∃ call, record.calls[place.2]? = some call ∧ resolve nodes call = some edge.2 := by
  simp only [placedEdgesOf, List.mem_filterMap, Prod.exists, List.mem_zipIdx_iff_getElem?,
    Option.map_eq_some_iff, Prod.mk.injEq]
  constructor
  · rintro ⟨call, _, here, _, resolved, rfl, rfl⟩
    exact ⟨rfl, rfl, call, here, resolved⟩
  · rintro ⟨rfl, same, call, here, resolved⟩
    exact ⟨call, place.2, here, edge.2, resolved, rfl, Prod.ext same rfl⟩

/-- The edges that the records give rise to, with their places. -/
def placedEdges (records : List Record) : List ((Nat × Nat) × String × String) :=
  records.zipIdx.flatMap fun entry => placedEdgesOf (build records).nodes entry.2 entry.1

theorem map_snd_placedEdges (records : List Record) :
    (placedEdges records).map Prod.snd = records.flatMap (edgesOf (build records).nodes) := by
  have edges : (placedEdges records).map Prod.snd =
      (records.zipIdx.map Prod.fst).flatMap (edgesOf (build records).nodes) := by
    simp only [placedEdges, List.map_flatMap, map_snd_placedEdgesOf, List.flatMap_map]
  rw [edges, List.zipIdx_map_fst]

theorem mem_placedEdges_iff {records : List Record} {place : Nat × Nat} {edge : String × String} :
    (place, edge) ∈ placedEdges records ↔ EdgeAt records place edge := by
  simp only [placedEdges, EdgeAt, List.mem_flatMap, Prod.exists, List.mem_zipIdx_iff_getElem?,
    mem_placedEdgesOf_iff, resolve_build_iff]
  constructor
  · rintro ⟨record, _, here, rfl, same, call, made, resolves⟩
    exact ⟨record, call, here, made, same, resolves⟩
  · rintro ⟨record, call, here, made, same, resolves⟩
    exact ⟨record, place.1, here, rfl, same, call, made, resolves⟩

/-- Records are scanned in order, and within a record its calls. -/
theorem pairwise_placedEdges (records : List Record) :
    (placedEdges records).Pairwise fun first second =>
      Prod.Lex (· < ·) (· < ·) first.1 second.1 := by
  rw [placedEdges, List.pairwise_flatMap]
  constructor
  · intro entry _
    apply (pairwise_zipIdx entry.1.calls).filterMap
    intro call other less first here second there
    obtain ⟨_, _, rfl⟩ := Option.map_eq_some_iff.1 here
    obtain ⟨_, _, rfl⟩ := Option.map_eq_some_iff.1 there
    exact .right _ less
  · apply (pairwise_zipIdx records).imp
    intro entry other less first here second there
    have one : entry.2 = first.1.1 := (mem_placedEdgesOf_iff.1 here).1
    have two : other.2 = second.1.1 := (mem_placedEdgesOf_iff.1 there).1
    rw [one, two] at less
    exact Prod.lex_def.2 (.inl less)

theorem pairwise_edges_build (records : List Record) :
    (build records).edges.Pairwise (EdgeBefore records) := by
  have ordered := pairwise_precedes_firstOccurrences (pairwise_placedEdges records)
  simp only [map_snd_placedEdges, mem_placedEdges_iff] at ordered
  exact ordered

/-! ## The graph of records -/

/-- A list of the things with a property, each once and in order. -/
structure Enumerates {Thing : Type} (things : List Thing) (property : Thing → Prop)
    (before : Thing → Thing → Prop) : Prop where
  complete : ∀ thing, thing ∈ things ↔ property thing
  distinct : things.Nodup
  inOrder : things.Pairwise before

theorem Enumerates.length_eq {Thing : Type} {things : List Thing} {property : Thing → Prop}
    {before : Thing → Thing → Prop} (enumerates : Enumerates things property before) :
    things.length = {thing | property thing}.ncard := by
  classical
  have same : {thing | property thing} = (things.toFinset : Set Thing) := by
    ext thing
    simp [enumerates.complete]
  rw [same, Set.ncard_coe_finset, List.toFinset_card_of_nodup enumerates.distinct]

/-- A record with the first node makes a call that leads to the second. -/
def MakesCall (records : List Record) (caller callee : String) : Prop :=
  ∃ record ∈ records, record.nodeName = caller ∧
    ∃ call ∈ record.calls, ResolvesTo records call callee

/-- A graph is the relation of the resolved calls of records, and answers in the order in which they
first show it. -/
structure Represents (graph : CallGraph) (records : List Record) : Prop where
  nodes : Enumerates graph.nodes (HasNode records) (NodeBefore records)
  dependencies : ∀ caller, Enumerates (graph.dependencies caller) (MakesCall records caller)
    fun first second => EdgeBefore records (caller, first) (caller, second)
  dependents : ∀ callee, Enumerates (graph.dependents callee)
    (fun caller => callee ∈ graph.dependencies caller)
    fun first second => EdgeBefore records (first, callee) (second, callee)
  edgeCount : graph.edges.length = {edge : String × String | MakesCall records edge.1 edge.2}.ncard
  leaves : Enumerates graph.leaves (fun name => name ∈ graph.nodes ∧ graph.dependencies name = [])
    (NodeBefore records)

variable {records : List Record}

theorem calls_build_iff_makesCall {caller callee : String} :
    (build records).Calls caller callee ↔ MakesCall records caller callee := by
  rw [calls_build_iff, MakesCall]
  simp only [resolve_build_iff]
  constructor
  · rintro ⟨call, ⟨record, member, same, made⟩, resolves⟩
    exact ⟨record, member, same, call, made, resolves⟩
  · rintro ⟨record, member, same, call, made, resolves⟩
    exact ⟨call, ⟨record, member, same, made⟩, resolves⟩

theorem enumerates_edges_build (records : List Record) :
    Enumerates (build records).edges (fun edge => MakesCall records edge.1 edge.2)
      (EdgeBefore records) where
  complete := fun _ => calls_build_iff_makesCall
  distinct := nodup_edges_build records
  inOrder := pairwise_edges_build records

theorem represents_build (records : List Record) : (build records).Represents records where
  nodes := {
    complete := fun _ => mem_nodes_build_iff
    distinct := Text.nodup_firstOccurrences _
    inOrder := pairwise_nodes_build records }
  dependencies := fun caller => {
    complete := fun _ => mem_dependencies_iff.trans calls_build_iff_makesCall
    distinct := nodup_dependencies (nodup_edges_build records) caller
    inOrder := pairwise_dependencies (pairwise_edges_build records) caller }
  dependents := fun callee => {
    complete := fun _ => mem_dependents_iff.trans mem_dependencies_iff.symm
    distinct := nodup_dependents (nodup_edges_build records) callee
    inOrder := pairwise_dependents (pairwise_edges_build records) callee }
  edgeCount := (enumerates_edges_build records).length_eq
  leaves := {
    complete := fun name => by simp [leaves]
    distinct := (Text.nodup_firstOccurrences _).filter _
    inOrder := (pairwise_nodes_build records).filter _ }

/-! ## Calls that lead nowhere -/

/-- The other records are these without one call of one record. -/
def DropsCall (records : List Record) (call : String) (others : List Record) : Prop :=
  ∃ front record back before after, records = front ++ record :: back ∧
    record.calls = before ++ call :: after ∧
    others = front ++ { record with calls := before ++ after } :: back

theorem edgesOf_of_unresolved {nodes before after : List String} {record : Record} {call : String}
    (unresolved : resolve nodes call = none) (calls : record.calls = before ++ call :: after) :
    edgesOf nodes { record with calls := before ++ after } = edgesOf nodes record := by
  rw [edgesOf, edgesOf, calls, List.filterMap_append, List.filterMap_append,
    List.filterMap_cons_none unresolved]
  rfl

/-- A call that leads nowhere can be left out. -/
theorem build_eq_of_dropsCall {others : List Record} {call : String}
    (drops : DropsCall records call others) (nowhere : ∀ callee, ¬ResolvesTo records call callee) :
    build others = build records := by
  obtain ⟨front, record, back, before, after, rfl, calls, rfl⟩ := drops
  have unresolved : resolve (build (front ++ record :: back)).nodes call = none := by
    rw [Option.eq_none_iff_forall_not_mem]
    intro callee resolved
    exact nowhere callee (resolve_build_iff.1 resolved)
  have names : (front ++ { record with calls := before ++ after } :: back).map Record.nodeName =
      (front ++ record :: back).map Record.nodeName := by
    rw [List.map_append, List.map_append]
    rfl
  simp only [build] at unresolved ⊢
  simp only [names, List.flatMap_append, List.flatMap_cons, edgesOf_of_unresolved unresolved calls]

/-- The call graph of records is the relation of their resolved calls, listed in the order in which
the records show it, and calls that lead nowhere do not count. -/
theorem build_is_resolved_call_relation (records : List Record) :
    (build records).Represents records ∧
      ∀ call others, DropsCall records call others → (∀ callee, ¬ResolvesTo records call callee) →
        build others = build records :=
  ⟨represents_build records, fun _ _ => build_eq_of_dropsCall⟩

/-- Two units with one name, of which the second repeats a call of the first and adds one, and a
call of which the last segment is empty. -/
theorem build_is_resolved_call_relation_namesakes :
    let records := [unitCalling "a" ["m.b", "b."], unitCalling "b" ["c", "x->a"],
      unitCalling "a" ["b", "a"], unitCalling "c" []]
    DropsCall records "b." [unitCalling "a" ["m.b"], unitCalling "b" ["c", "x->a"],
        unitCalling "a" ["b", "a"], unitCalling "c" []] ∧
      (∀ callee, ¬ResolvesTo records "b." callee) ∧
      (build records).dependencies "a" = ["b", "a"] ∧
      EdgeBefore records ("a", "b") ("a", "a") ∧
      {edge : String × String | MakesCall records edge.1 edge.2}.ncard = 4 ∧
      build [unitCalling "a" ["m.b"], unitCalling "b" ["c", "x->a"], unitCalling "a" ["b", "a"],
        unitCalling "c" []] = build records := by
  intro records
  obtain ⟨represents, dropping⟩ := build_is_resolved_call_relation records
  have drops : DropsCall records "b." [unitCalling "a" ["m.b"], unitCalling "b" ["c", "x->a"],
      unitCalling "a" ["b", "a"], unitCalling "c" []] :=
    ⟨[], unitCalling "a" ["m.b", "b."], _, ["m.b"], [], rfl, rfl, rfl⟩
  have nowhere (callee : String) : ¬ResolvesTo records "b." callee := by
    have unresolved : resolve (build records).nodes "b." = none := by decide +kernel
    rw [← resolve_build_iff, unresolved]
    exact (Option.some_ne_none callee).symm
  have callees : (build records).dependencies "a" = ["b", "a"] := by decide +kernel
  have order := (represents.dependencies "a").inOrder
  have count : (build records).edges.length = 4 := by decide +kernel
  rw [callees] at order
  exact ⟨drops, nowhere, callees, (List.pairwise_cons.1 order).1 "a" (List.mem_singleton.2 rfl),
    represents.edgeCount ▸ count, dropping _ _ drops nowhere⟩

end SourceIndex.CallGraph
