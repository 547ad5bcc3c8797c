import SourceIndex.Proofs.Cycles

/-!
# Components of call graphs

A node is on a cycle if it leads back to itself: going back to the last visit of each node takes the
detours out of a way. So the components hold the nodes on cycles, those together that lead to each
other. They are listed in byte order. The cycles that a depth-first search closes stay inside of
components, and no component is without one.
-/

namespace SourceIndex.CallGraph

variable {graph : CallGraph}

/-! ## Nodes on cycles -/

/-- A cycle passes the node. -/
def OnCycle (graph : CallGraph) (name : String) : Prop :=
  ∃ walk, graph.SimpleCycle walk ∧ name ∈ walk

/-- The nodes of a round trip lead to each other. -/
theorem RoundTrip.connected {walk : List String} (trip : graph.RoundTrip walk)
    {first second : String} (here : first ∈ walk) (there : second ∈ walk) :
    graph.Connected first second := by
  obtain ⟨start, middle, rfl, chain⟩ := trip
  have around := leads_of_isChain chain
  have passes : ∀ name ∈ start :: (middle ++ [start]), graph.Connected start name := by
    intro name member
    simp only [List.mem_cons, List.mem_append, List.not_mem_nil, or_false] at member
    by_cases same : name = start
    · rw [same]
      exact ⟨around, around⟩
    · have inner : name ∈ middle := by simpa [same] using member
      obtain ⟨front, back, rfl⟩ := List.append_of_mem inner
      rw [List.append_assoc, List.cons_append, List.isChain_cons_split] at chain
      exact ⟨leads_of_isChain chain.1, leads_of_isChain chain.2⟩
  exact (passes first here).symm.trans (passes second there)

/-- A node leads to another on a way that passes no node twice. -/
theorem exists_direct_way {first last : String}
    (leads : Relation.ReflTransGen graph.Calls first last) :
    ∃ way, (first :: way).IsChain graph.Calls ∧ (first :: way).Nodup ∧
      (first :: way).getLast? = some last := by
  induction leads using Relation.ReflTransGen.head_induction_on with
  | refl => exact ⟨[], List.isChain_singleton _, List.nodup_singleton _, rfl⟩
  | @head first next calls _ ih =>
    obtain ⟨way, chain, distinct, ends⟩ := ih
    by_cases again : first ∈ next :: way
    · -- the way comes back to `first`, and can start there
      obtain ⟨detour, rest, split⟩ := List.append_of_mem again
      rw [split] at chain distinct ends
      refine ⟨rest, (List.isChain_split.1 chain).2, ?_, ?_⟩
      · exact List.Nodup.sublist (List.sublist_append_right ..) distinct
      · rw [← ends, List.getLast?_append_cons]
    · exact ⟨next :: way, List.isChain_cons_cons.2 ⟨calls, chain⟩,
        List.nodup_cons.2 ⟨again, distinct⟩, ends⟩

theorem onCycle_iff {name : String} :
    graph.OnCycle name ↔ Relation.TransGen graph.Calls name name := by
  constructor
  · intro cyclic
    obtain ⟨walk, cycle, member⟩ := cyclic
    exact (cycle.roundTrip.connected member member).1
  · intro around
    obtain ⟨next, calls, back⟩ := Relation.TransGen.head'_iff.1 around
    obtain ⟨way, chain, distinct, ends⟩ := exists_direct_way back
    obtain ⟨front, split⟩ := List.getLast?_eq_some_iff.1 ends
    refine ⟨name :: next :: way, ⟨by simp, ?_, ?_, List.isChain_cons_cons.2 ⟨calls, chain⟩⟩,
      List.mem_cons_self ..⟩
    · rw [split, ← List.cons_append, List.getLast?_concat]
      rfl
    · rw [split] at distinct ⊢
      rw [← List.cons_append, List.dropLast_concat]
      exact (List.perm_append_singleton name front).nodup_iff.1 distinct

/-! ## Groups -/

theorem mem_own_group (closed : graph.Closed) {name : String} (cyclic : graph.OnCycle name) :
    name ∈ graph.group name :=
  (mem_group_iff closed).2 ⟨onCycle_iff.1 cyclic, onCycle_iff.1 cyclic⟩

theorem group_mem_components (closed : graph.Closed) {name : String} (cyclic : graph.OnCycle name) :
    graph.group name ∈ graph.components :=
  (mem_components_iff closed).2 ⟨name, onCycle_iff.1 cyclic, rfl⟩

/-- A component is the group of each of its members. -/
theorem group_eq_of_mem (closed : graph.Closed) {members : List String} {name : String}
    (listed : members ∈ graph.components) (member : name ∈ members) :
    graph.OnCycle name ∧ graph.group name = members := by
  obtain ⟨origin, _, rfl⟩ := (mem_components_iff closed).1 listed
  have connected := (mem_group_iff closed).1 member
  exact ⟨onCycle_iff.2 (connected.2.trans connected.1),
    group_eq_of_connected closed connected.symm⟩

theorem exists_cons_of_mem_components (closed : graph.Closed) {members : List String}
    (listed : members ∈ graph.components) : ∃ name rest, members = name :: rest := by
  obtain ⟨name, around, rfl⟩ := (mem_components_iff closed).1 listed
  apply List.exists_cons_of_ne_nil
  exact List.ne_nil_of_mem (mem_own_group closed (onCycle_iff.2 around))

/-! ## Byte order -/

/-- The names of a component are in order. -/
theorem increasing_of_mem_components (closed : graph.Closed) (distinct : graph.nodes.Nodup)
    {members : List String} (listed : members ∈ graph.components) : members.Pairwise (· < ·) := by
  obtain ⟨name, _, rfl⟩ := (mem_components_iff closed).1 listed
  exact Order.increasing_sortTexts ((distinct.filter _).filter _)

/-- The components are in order, since they are in the order of their first names. -/
theorem increasing_components (closed : graph.Closed) : graph.components.Pairwise (· < ·) := by
  have ordered : graph.components.Pairwise fun first second =>
      first.headD "" ≤ second.headD "" ∧ first ≠ second := by
    rw [components_eq]
    apply List.Pairwise.and _ (Text.nodup_firstOccurrences _)
    exact (Order.pairwise_sortBy_text (fun members : List String => members.headD "") _).sublist
      (Text.firstOccurrences_sublist _)
  apply ordered.imp_of_mem
  intro first second here there ordered
  obtain ⟨name, rest, rfl⟩ := exists_cons_of_mem_components closed here
  obtain ⟨other, others, rfl⟩ := exists_cons_of_mem_components closed there
  have apart : name ≠ other := by
    intro same
    have one := (group_eq_of_mem closed here (List.mem_cons_self ..)).2
    have two := (group_eq_of_mem closed there (List.mem_cons_self ..)).2
    exact ordered.2 (one.symm.trans (same ▸ two))
  exact List.cons_lt_cons_iff.2 (.inl (Std.lt_of_le_of_ne ordered.1 apart))

/-- No name is in two components. -/
theorem nodup_flatten_components (closed : graph.Closed) (distinct : graph.nodes.Nodup) :
    graph.components.flatten.Nodup := by
  rw [List.nodup_flatten]
  constructor
  · intro members listed
    exact (increasing_of_mem_components closed distinct listed).imp Std.ne_of_lt
  · apply (increasing_components closed).imp_of_mem
    intro first second here there less name member again
    have one := (group_eq_of_mem closed here member).2
    have two := (group_eq_of_mem closed there again).2
    exact Std.ne_of_lt less (one.symm.trans two)

/-- The lists of names that are the cyclic components of a graph. -/
structure CyclicComponents (graph : CallGraph) (components : List (List String)) : Prop where
  /-- Names are listed together if they lead to each other and are on cycles. -/
  together : ∀ first second, (∃ members ∈ components, first ∈ members ∧ second ∈ members) ↔
    (Relation.ReflTransGen graph.Calls first second ∧
      Relation.ReflTransGen graph.Calls second first) ∧
      graph.OnCycle first ∧ graph.OnCycle second
  listed : ∀ name, (∃ members ∈ components, name ∈ members) ↔ graph.OnCycle name
  /-- No name is listed twice, within a component or in two of them. -/
  distinct : components.flatten.Nodup
  namesInOrder : ∀ members ∈ components, (members.map Order.bytes).Pairwise (· < ·)
  /-- The first name that differs decides. -/
  inOrder : (components.map (List.map Order.bytes)).Pairwise (· < ·)

/-- The names of a component are those that lead to each other. -/
theorem exists_component_iff (closed : graph.Closed) {first second : String} :
    (∃ members ∈ graph.components, first ∈ members ∧ second ∈ members) ↔
      graph.Connected first second := by
  constructor
  · intro together
    obtain ⟨members, listed, here, there⟩ := together
    obtain ⟨_, rfl⟩ := group_eq_of_mem closed listed here
    exact (mem_group_iff closed).1 there
  · intro connected
    have cyclic : graph.OnCycle first := onCycle_iff.2 (connected.1.trans connected.2)
    exact ⟨graph.group first, group_mem_components closed cyclic, mem_own_group closed cyclic,
      (mem_group_iff closed).2 connected⟩

theorem cyclicComponents_components (closed : graph.Closed) (distinct : graph.nodes.Nodup) :
    graph.CyclicComponents graph.components where
  together := by
    intro first second
    rw [exists_component_iff closed, onCycle_iff, onCycle_iff]
    constructor
    · intro connected
      exact ⟨⟨connected.1.to_reflTransGen, connected.2.to_reflTransGen⟩,
        connected.1.trans connected.2, connected.2.trans connected.1⟩
    · intro linked
      obtain ⟨⟨forth, back⟩, around, again⟩ := linked
      exact ⟨around.trans_left forth, again.trans_left back⟩
  listed := by
    intro name
    constructor
    · intro found
      obtain ⟨members, listed, member⟩ := found
      exact (group_eq_of_mem closed listed member).1
    · intro cyclic
      exact ⟨graph.group name, group_mem_components closed cyclic, mem_own_group closed cyclic⟩
  distinct := nodup_flatten_components closed distinct
  namesInOrder := fun _ listed =>
    Order.pairwise_bytes (increasing_of_mem_components closed distinct listed)
  inOrder := (increasing_components closed).map _ fun _ _ =>
    List.map_lt fun _ _ => Order.bytes_lt_bytes_iff.2

/-! ## Components and the cycles that a search closes -/

/-- A round trip stays inside of one component. -/
theorem RoundTrip.exists_component (closed : graph.Closed) {walk : List String}
    (trip : graph.RoundTrip walk) : ∃ members ∈ graph.components, walk ⊆ members := by
  have start : ∃ name, name ∈ walk := by
    obtain ⟨name, _, rfl, _⟩ := trip
    exact ⟨name, List.mem_cons_self ..⟩
  obtain ⟨name, member⟩ := start
  have cyclic : graph.OnCycle name := onCycle_iff.2 (trip.connected member member).1
  refine ⟨graph.group name, group_mem_components closed cyclic, ?_⟩
  intro other passed
  exact (mem_group_iff closed).2 (trip.connected member passed)

/-- The call that closes some cycle is one of a round trip through the component, so that the cycle
does not leave it. -/
theorem exists_cycle_of_mem_components (closed : graph.Closed) {members : List String}
    (listed : members ∈ graph.components) : ∃ walk ∈ graph.cycles, walk ⊆ members := by
  obtain ⟨name, around, rfl⟩ := (mem_components_iff closed).1 listed
  obtain ⟨middle, trip⟩ := exists_roundTrip around
  obtain ⟨cycle, found, step, member, closes⟩ := trip.exists_closing closed
  have here : step.1 ∈ name :: (middle ++ [name]) := (List.of_mem_zip member).1
  have there : step.1 ∈ cycle := (List.of_mem_zip (List.mem_of_getLast? closes)).1
  have shared := trip.connected (List.mem_cons_self ..) here
  refine ⟨cycle, found, ?_⟩
  intro other passed
  exact (mem_group_iff closed).2
    (shared.trans ((roundTrip_of_mem_cycles found).connected there passed))

/-- The components are the cyclic ones, in byte order. Every cycle that a search closes is inside of
a component, and every component has such a cycle. -/
theorem components_are_cyclic_classes (records : List Record) :
    let graph := build records
    graph.CyclicComponents graph.components ∧
      (∀ walk ∈ graph.cycles, ∃ members ∈ graph.components, walk ⊆ members) ∧
      ∀ members ∈ graph.components, ∃ walk ∈ graph.cycles, walk ⊆ members := by
  intro graph
  have closed := closed_build records
  exact ⟨cyclicComponents_components closed (Text.nodup_firstOccurrences _),
    fun walk found => (roundTrip_of_mem_cycles found).exists_component closed,
    fun members => exists_cycle_of_mem_components closed⟩

/-- Two cycles with a node in common, a node that calls itself, and one on no cycle. -/
theorem components_are_cyclic_classes_shared :
    let graph := build [unitCalling "d" ["b", "é"], unitCalling "é" ["m::é"], unitCalling "c" ["b"],
      unitCalling "b" ["c", "a"], unitCalling "a" ["b"]]
    graph.components = [["a", "b", "c"], ["é"]] ∧ graph.OnCycle "é" ∧ ¬graph.OnCycle "d" ∧
      Relation.ReflTransGen graph.Calls "a" "c" ∧ ∃ walk ∈ graph.cycles, walk ⊆ ["é"] := by
  intro graph
  have components : graph.components = [["a", "b", "c"], ["é"]] := by decide +kernel
  have cyclic : graph.CyclicComponents graph.components := (components_are_cyclic_classes _).1
  have cycles : ∀ members ∈ graph.components, ∃ walk ∈ graph.cycles, walk ⊆ members :=
    (components_are_cyclic_classes _).2.2
  rw [components] at cyclic cycles
  have outside : ¬∃ members ∈ [["a", "b", "c"], ["é"]], "d" ∈ members := by decide
  refine ⟨components, (cyclic.listed "é").1 ⟨["é"], by simp⟩, fun on => ?_, ?_,
    cycles ["é"] (by simp)⟩
  · exact outside ((cyclic.listed "d").2 on)
  · exact ((cyclic.together "a" "c").1 ⟨["a", "b", "c"], by simp⟩).1.1

end SourceIndex.CallGraph
