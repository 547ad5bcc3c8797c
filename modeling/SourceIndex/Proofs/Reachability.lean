import Mathlib.Data.List.Nodup
import Mathlib.Logic.Relation
import SourceIndex.CallGraph
import SourceIndex.Proofs.Order
import SourceIndex.Proofs.Text

/-!
# Reachability in call graphs

The graph of records has the calls that resolve as its edges. Searching layer by layer reaches what
steps lead to and, with as many layers as there are names, all of it. So the descendants of a node
are what calls lead to, and the components are the classes of nodes that lead to each other.
-/

namespace SourceIndex

/-! ## Graphs of records -/

/-- What a call graph sees of a record: its node and its calls. -/
def Record.node (record : Record) : String × List String := (record.nodeName, record.calls)

namespace CallGraph

/-- A record of which only the name and the calls are given. -/
def unitCalling (name : String) (calls : List String) : Record where
  id := "lib.rs#" ++ name
  name := name
  file := "lib.rs"
  line := 1
  signature := name ++ "()"
  isAsync := false
  calls := calls
  effects := []
  language := .rust

/-- Where a call leads to depends only on which nodes there are. -/
theorem resolve_congr {first second : List String} (same : ∀ name, name ∈ first ↔ name ∈ second) :
    resolve first = resolve second := by
  have contains (name : String) : first.contains name = second.contains name := by
    rw [Bool.eq_iff_iff, List.contains_iff_mem, List.contains_iff_mem, same]
  funext call
  simp only [resolve, contains]

/-- A call leads to a node: the one it names, or the one its last segment names. -/
theorem resolve_eq_some {nodes : List String} {call callee : String}
    (resolved : resolve nodes call = some callee) :
    callee ∈ nodes ∧ (callee = call ∨ callee = lastSegment call) := by
  rw [resolve] at resolved
  split at resolved
  case isTrue known =>
    cases resolved
    exact ⟨List.contains_iff_mem.1 known, .inl rfl⟩
  case isFalse =>
    simp only [Option.ite_none_right_eq_some] at resolved
    obtain ⟨⟨_, _, known⟩, equal⟩ := resolved
    cases equal
    exact ⟨List.contains_iff_mem.1 known, .inr rfl⟩

theorem mem_nodes_build_iff {records : List Record} {name : String} :
    name ∈ (build records).nodes ↔ ∃ record ∈ records, record.nodeName = name := by
  simp [build, Text.mem_firstOccurrences]

/-- A node calls another. -/
def Calls (graph : CallGraph) (caller callee : String) : Prop := (caller, callee) ∈ graph.edges

instance (graph : CallGraph) (caller callee : String) : Decidable (graph.Calls caller callee) :=
  inferInstanceAs (Decidable ((caller, callee) ∈ graph.edges))

theorem calls_build_iff {records : List Record} {caller callee : String} :
    (build records).Calls caller callee ↔ ∃ call, (∃ record ∈ records,
      record.nodeName = caller ∧ call ∈ record.calls) ∧
        resolve (build records).nodes call = some callee := by
  simp only [Calls, build, Text.mem_firstOccurrences, edgesOf, List.mem_flatMap, List.mem_map,
    List.mem_filterMap]
  constructor
  · rintro ⟨record, member, _, ⟨call, made, resolved⟩, same⟩
    obtain ⟨rfl, rfl⟩ := Prod.mk.inj same
    exact ⟨call, ⟨record, member, rfl, made⟩, resolved⟩
  · rintro ⟨call, ⟨record, member, rfl, made⟩, resolved⟩
    exact ⟨record, member, callee, ⟨call, made, resolved⟩, rfl⟩

theorem nodup_edges_build (records : List Record) : (build records).edges.Nodup :=
  Text.nodup_firstOccurrences _

/-- The graphs of two lists of records have the same nodes and edges, up to their order, if the same
nodes make the same calls. -/
theorem perm_build_of_calls {first second : List Record}
    (nodes : ∀ name, (∃ record ∈ first, record.nodeName = name) ↔
      ∃ record ∈ second, record.nodeName = name)
    (calls : ∀ name call, (∃ record ∈ first, record.nodeName = name ∧ call ∈ record.calls) ↔
      ∃ record ∈ second, record.nodeName = name ∧ call ∈ record.calls) :
    (build first).nodes.Perm (build second).nodes ∧
      (build first).edges.Perm (build second).edges := by
  have known (name : String) : name ∈ (build first).nodes ↔ name ∈ (build second).nodes := by
    rw [mem_nodes_build_iff, mem_nodes_build_iff, nodes]
  constructor
  · exact (List.perm_ext_iff_of_nodup (Text.nodup_firstOccurrences _)
      (Text.nodup_firstOccurrences _)).2 known
  · apply (List.perm_ext_iff_of_nodup (Text.nodup_firstOccurrences _)
      (Text.nodup_firstOccurrences _)).2
    intro edge
    have same : (build first).Calls edge.1 edge.2 ↔ (build second).Calls edge.1 edge.2 := by
      simp only [calls_build_iff, calls, resolve_congr known]
    exact same

/-- Records with the same nodes and calls have the same call graph, up to the order in which it is
listed. -/
theorem perm_build {first second : List Record}
    (same : ∀ node, node ∈ first.map Record.node ↔ node ∈ second.map Record.node) :
    (build first).nodes.Perm (build second).nodes ∧
      (build first).edges.Perm (build second).edges := by
  have occurs (holds : String × List String → Prop) :
      (∃ record ∈ first, holds record.node) ↔ ∃ record ∈ second, holds record.node := by
    have listed (records : List Record) : (∃ record ∈ records, holds record.node) ↔
        ∃ node ∈ records.map Record.node, holds node := by simp
    rw [listed, listed]
    simp only [same]
  exact perm_build_of_calls (fun name => occurs fun node => node.1 = name)
    fun name call => occurs fun node => node.1 = name ∧ call ∈ node.2

/-! ## Edges -/

variable {graph : CallGraph}

theorem mem_dependencies_iff {caller callee : String} :
    callee ∈ graph.dependencies caller ↔ graph.Calls caller callee := by
  simp [dependencies, Calls]

theorem mem_dependents_iff {caller callee : String} :
    caller ∈ graph.dependents callee ↔ graph.Calls caller callee := by
  simp [dependents, Calls]

/-- The other ends of the edges that have `name` at one end are in the order of the edges. -/
theorem pairwise_ends {before : String × String → String × String → Prop}
    {edges : List (String × String)} (ordered : edges.Pairwise before)
    {own other : String × String → String} {name : String} {edgeTo : String → String × String}
    (restored : ∀ edge, own edge = name → edgeTo (other edge) = edge) :
    (edges.filterMap fun edge => if own edge = name then some (other edge) else none).Pairwise
      fun first second => before (edgeTo first) (edgeTo second) := by
  apply ordered.filterMap
  intro edge later ordered first here second there
  rw [Option.ite_none_right_eq_some, Option.some.injEq] at here there
  obtain ⟨isOwn, rfl⟩ := here
  obtain ⟨isOwnLater, rfl⟩ := there
  rw [restored edge isOwn, restored later isOwnLater]
  exact ordered

/-- The nodes that a node calls are in the order of the edges. -/
theorem pairwise_dependencies {before : String × String → String × String → Prop}
    (ordered : graph.edges.Pairwise before) (caller : String) :
    (graph.dependencies caller).Pairwise
      fun first second => before (caller, first) (caller, second) :=
  pairwise_ends ordered fun _ isCaller => Prod.ext isCaller.symm rfl

/-- The nodes that call a node are in the order of the edges. -/
theorem pairwise_dependents {before : String × String → String × String → Prop}
    (ordered : graph.edges.Pairwise before) (callee : String) :
    (graph.dependents callee).Pairwise
      fun first second => before (first, callee) (second, callee) :=
  pairwise_ends ordered fun _ isCallee => Prod.ext rfl isCallee.symm

theorem nodup_dependencies (distinct : graph.edges.Nodup) (name : String) :
    (graph.dependencies name).Nodup :=
  (pairwise_dependencies distinct name).imp fun apart same => apart (congrArg _ same)

theorem nodup_dependents (distinct : graph.edges.Nodup) (name : String) :
    (graph.dependents name).Nodup :=
  (pairwise_dependents distinct name).imp fun apart same => apart (congrArg (·, name) same)

/-- Every edge joins two nodes. -/
def Closed (graph : CallGraph) : Prop :=
  ∀ ⦃caller callee : String⦄, graph.Calls caller callee →
    caller ∈ graph.nodes ∧ callee ∈ graph.nodes

theorem closed_build (records : List Record) : (build records).Closed := by
  intro caller callee calls
  obtain ⟨call, ⟨record, member, same, _⟩, resolved⟩ := calls_build_iff.1 calls
  exact ⟨mem_nodes_build_iff.2 ⟨record, member, same⟩, (resolve_eq_some resolved).1⟩

/-! ## Searching layer by layer -/

section Layers

variable {step : String → List String} {seen frontier : List String} {depth : Nat}

theorem mem_advance_iff {name : String} :
    name ∈ advance step seen frontier ↔
      (∃ origin ∈ frontier, name ∈ step origin) ∧ name ∉ seen := by
  simp [advance, Text.mem_firstOccurrences]

theorem layers_of_advance_nil (stopped : advance step seen frontier = []) :
    layers step depth seen frontier = [] := by
  cases depth with
  | zero => rfl
  | succ depth => rw [layers, stopped]

theorem layers_of_advance (moved : advance step seen frontier ≠ []) :
    layers step (depth + 1) seen frontier = advance step seen frontier ::
      layers step depth (seen ++ advance step seen frontier) (advance step seen frontier) := by
  rw [layers]
  split
  case h_1 stopped => exact absurd stopped moved
  case h_2 => rfl

/-- What a search finds, steps lead to. -/
theorem leads_of_mem_layers {Leads : String → String → Prop}
    (along : ∀ origin, ∀ name ∈ step origin, Leads origin name) {name : String}
    (found : name ∈ (layers step depth seen frontier).flatten) :
    ∃ origin ∈ frontier, Relation.TransGen Leads origin name := by
  induction depth generalizing seen frontier with
  | zero => cases found
  | succ depth ih =>
    by_cases stopped : advance step seen frontier = []
    · rw [layers_of_advance_nil stopped] at found
      cases found
    · rw [layers_of_advance stopped, List.flatten_cons, List.mem_append] at found
      cases found with
      | inl first =>
        obtain ⟨⟨origin, member, next⟩, _⟩ := mem_advance_iff.1 first
        exact ⟨origin, member, .single (along origin name next)⟩
      | inr later =>
        obtain ⟨between, first, leads⟩ := ih later
        obtain ⟨⟨origin, member, next⟩, _⟩ := mem_advance_iff.1 first
        exact ⟨origin, member, .head (along origin between next) leads⟩

/-- The names that have not been seen. -/
def unseen (names seen : List String) : List String := names.filter fun name => name ∉ seen

theorem unseen_append (names seen next : List String) :
    unseen names (seen ++ next) = (unseen names seen).filter fun name => name ∉ next := by
  rw [unseen, unseen, List.filter_filter]
  apply List.filter_congr
  intro name _
  simp [Bool.and_comm]

/-- Seeing a new name leaves fewer of them. -/
theorem length_unseen_append_lt {names next : List String} {name : String} (known : name ∈ names)
    (new : name ∉ seen) (member : name ∈ next) :
    (unseen names (seen ++ next)).length < (unseen names seen).length := by
  rw [unseen_append, List.length_filter_lt_length_iff_exists]
  exact ⟨name, List.mem_filter.2 ⟨known, by simpa using new⟩, by simpa using member⟩

/-- With as many layers as there are unseen names, a search sees everything that steps from seen
names lead to, provided that only the frontier has steps to unseen names. -/
theorem closed_layers {names : List String} (bounded : ∀ origin, ∀ name ∈ step origin, name ∈ names)
    (enough : (unseen names seen).length ≤ depth)
    (inner : ∀ origin ∈ seen, origin ∉ frontier → ∀ name ∈ step origin, name ∈ seen) :
    ∀ origin ∈ seen ++ (layers step depth seen frontier).flatten, ∀ name ∈ step origin,
      name ∈ seen ++ (layers step depth seen frontier).flatten := by
  induction depth generalizing seen frontier with
  | zero =>
    intro origin _ name next
    have all := List.filter_eq_nil_iff.1 (List.eq_nil_of_length_eq_zero (Nat.le_zero.1 enough))
    have known : name ∈ seen := by simpa using all name (bounded origin name next)
    exact List.mem_append_left _ known
  | succ depth ih =>
    -- a step from a seen name stays among the seen ones or leads to the next layer
    have outer : ∀ origin ∈ seen, ∀ name ∈ step origin,
        name ∈ seen ∨ name ∈ advance step seen frontier := by
      intro origin member name next
      by_cases edge : origin ∈ frontier
      · by_cases known : name ∈ seen
        · exact .inl known
        · exact .inr (mem_advance_iff.2 ⟨⟨origin, edge, next⟩, known⟩)
      · exact .inl (inner origin member edge name next)
    by_cases stopped : advance step seen frontier = []
    · rw [layers_of_advance_nil stopped, List.flatten_nil, List.append_nil]
      intro origin member name next
      simpa [stopped] using outer origin member name next
    · rw [layers_of_advance stopped, List.flatten_cons, ← List.append_assoc]
      apply ih
      · obtain ⟨name, first⟩ := List.exists_mem_of_ne_nil _ stopped
        obtain ⟨⟨origin, _, next⟩, new⟩ := mem_advance_iff.1 first
        have fewer := length_unseen_append_lt (bounded origin name next) new first
        omega
      · intro origin member aside name next
        rcases List.mem_append.1 member with old | new
        · exact List.mem_append.2 (outer origin old name next)
        · exact absurd new aside

end Layers

/-! ## Descendants -/

/-- The descendants of a node are the nodes that it leads to over at least one call. -/
theorem mem_descendants_iff (closed : graph.Closed) {start name : String} :
    name ∈ graph.descendants start ↔ Relation.TransGen graph.Calls start name := by
  have first {name : String} :
      name ∈ Text.firstOccurrences (graph.dependencies start) ↔ graph.Calls start name := by
    rw [Text.mem_firstOccurrences, mem_dependencies_iff]
  constructor
  · intro found
    rw [descendants, List.mem_append] at found
    cases found with
    | inl direct => exact .single (first.1 direct)
    | inr later =>
      have along : ∀ origin, ∀ name ∈ graph.dependencies origin, graph.Calls origin name :=
        fun _ _ => mem_dependencies_iff.1
      obtain ⟨origin, member, leads⟩ := leads_of_mem_layers along later
      exact .head (first.1 member) leads
  · intro leads
    have onward : ∀ origin ∈ graph.descendants start, ∀ name ∈ graph.dependencies origin,
        name ∈ graph.descendants start :=
      closed_layers (fun _ _ next => (closed (mem_dependencies_iff.1 next)).2)
        (List.length_filter_le ..) (fun _ member aside => absurd member aside)
    induction leads with
    | single next => exact List.mem_append_left _ (first.2 next)
    | tail _ next ih => exact onward _ ih _ (mem_dependencies_iff.2 next)

/-! ## Components -/

/-- Two nodes that lead to each other. -/
def Connected (graph : CallGraph) (first second : String) : Prop :=
  Relation.TransGen graph.Calls first second ∧ Relation.TransGen graph.Calls second first

theorem Connected.symm {first second : String} (connected : graph.Connected first second) :
    graph.Connected second first :=
  ⟨connected.2, connected.1⟩

theorem Connected.trans {first second third : String} (one : graph.Connected first second)
    (two : graph.Connected second third) : graph.Connected first third :=
  ⟨one.1.trans two.1, two.2.trans one.2⟩

/-- The nodes on cycles. -/
def cyclicNodes (graph : CallGraph) : List String :=
  graph.nodes.filter fun name => (graph.descendants name).contains name

/-- The nodes that a node leads to and that lead to it, in byte order. -/
def group (graph : CallGraph) (name : String) : List String :=
  Order.sortTexts (graph.cyclicNodes.filter fun other =>
    (graph.descendants name).contains other && (graph.descendants other).contains name)

theorem components_eq (graph : CallGraph) :
    graph.components = Text.firstOccurrences
      (Order.sortBy (fun first second => decide (first.headD "" ≤ second.headD ""))
        (graph.cyclicNodes.map graph.group)) := by
  simp only [components, List.filter_map, List.map_map, Function.comp_def, List.map_id']
  rfl

theorem mem_cyclicNodes_iff (closed : graph.Closed) {name : String} :
    name ∈ graph.cyclicNodes ↔ Relation.TransGen graph.Calls name name := by
  rw [cyclicNodes, List.mem_filter, List.contains_iff_mem, mem_descendants_iff closed,
    and_iff_right_iff_imp]
  intro around
  obtain ⟨next, calls, _⟩ := Relation.TransGen.head'_iff.1 around
  exact (closed calls).1

theorem mem_group_iff (closed : graph.Closed) {name other : String} :
    other ∈ graph.group name ↔ graph.Connected name other := by
  rw [group, Order.mem_sortTexts, List.mem_filter, mem_cyclicNodes_iff closed, Bool.and_eq_true,
    List.contains_iff_mem, List.contains_iff_mem, mem_descendants_iff closed,
    mem_descendants_iff closed, Connected, and_iff_right_iff_imp]
  intro connected
  exact connected.2.trans connected.1

/-- Nodes that lead to each other have one group. -/
theorem group_eq_of_connected (closed : graph.Closed) {first second : String}
    (connected : graph.Connected first second) : graph.group first = graph.group second := by
  rw [group, group]
  congr 1
  apply List.filter_congr
  intro other _
  rw [Bool.eq_iff_iff]
  simp only [Bool.and_eq_true, List.contains_iff_mem, mem_descendants_iff closed]
  exact ⟨connected.symm.trans, connected.trans⟩

/-- The groups of cyclic nodes are told apart by their first names. -/
theorem group_eq_of_headD (closed : graph.Closed) {first second : String}
    (here : first ∈ graph.cyclicNodes) (there : second ∈ graph.cyclicNodes)
    (same : (graph.group first).headD "" = (graph.group second).headD "") :
    graph.group first = graph.group second := by
  have head {name : String} (cyclic : name ∈ graph.cyclicNodes) :
      graph.Connected name ((graph.group name).headD "") := by
    have around := (mem_cyclicNodes_iff closed).1 cyclic
    have own : name ∈ graph.group name := (mem_group_iff closed).2 ⟨around, around⟩
    apply (mem_group_iff closed).1
    cases members : graph.group name with
    | nil => rw [members] at own; cases own
    | cons head rest => exact List.mem_cons_self ..
  exact group_eq_of_connected closed ((same ▸ head here).trans (head there).symm)

theorem mem_components_iff (closed : graph.Closed) {members : List String} :
    members ∈ graph.components ↔
      ∃ name, Relation.TransGen graph.Calls name name ∧ graph.group name = members := by
  rw [components_eq, Text.mem_firstOccurrences, (Order.perm_sortBy _ _).mem_iff, List.mem_map]
  simp only [mem_cyclicNodes_iff closed]

end CallGraph

end SourceIndex
