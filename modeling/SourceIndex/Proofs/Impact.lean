import Mathlib.Data.List.GetD
import Mathlib.Data.Nat.Find
import SourceIndex.Proofs.Reachability

/-!
# Impact of a change

A search with a queue looks up callers node by node. It has a layer for every caller that it meets,
and it finds the same layers as a search that goes on layer by layer. Each of them holds the nodes
at one distance from the target, so that a report is a list of all nodes that lead to the target
over a bounded number of calls.
-/

namespace SourceIndex.CallGraph

variable {graph : CallGraph}

/-! ## The search with a queue -/

section Queue

variable {seen left next : List String} {done : List (List String)} {maxDepth fuel : Nat}

/-- The layers that are done, and the next one if it has been begun. -/
def begun (done : List (List String)) (next : List String) : List (List String) :=
  if next = [] then done else done ++ [next]

/-- The callers met so far are the last layer, once one is begun for them. -/
theorem grow_begun (done : List (List String)) (next : List String) :
    grow (begun done next) done.length = done ++ [next] := by
  by_cases first : next = []
  · simp [grow, begun, first]
  · rw [begun, if_neg first, grow, if_neg (by simp)]

/-- A caller has a layer to go to. -/
theorem addAt?_last (done : List (List String)) (next : List String) (caller : String) :
    addAt? (done ++ [next]) done.length caller = some (begun done (next ++ [caller])) := by
  have inRange : done.length < (done ++ [next]).length := by simp
  rw [addAt?, if_pos inRange, List.modify_eq_take_cons_drop inRange]
  simp [begun]

/-- The search while the callers of nodes at one distance are looked up. The layers up to that
distance are done, `left` are the nodes at it that are still to come, and `next` are the callers met
so far. -/
def waveAt (seen : List String) (done : List (List String)) (left next : List String) : Wave where
  visited := seen ++ next
  queue := left.map (·, done.length) ++ next.map (·, done.length + 1)
  affected := Order.sortTexts (done.flatten ++ next)
  byDepth := begun done next

theorem meet?_waveAt (known : ∀ name ∈ done.flatten, name ∈ seen) (caller : String) :
    Wave.meet? done.length (waveAt seen done left next) caller =
      some (waveAt seen done left (if caller ∈ seen ++ next then next else next ++ [caller])) := by
  simp only [Wave.meet?, waveAt, List.contains_iff_mem]
  by_cases visited : caller ∈ seen ++ next
  · rw [if_pos visited, if_pos visited]
  · have new : caller ∉ done.flatten ++ next := by
      intro member
      apply visited
      exact (List.mem_append.1 member).elim (fun old => List.mem_append_left _ (known caller old))
        (List.mem_append_right _)
    rw [if_neg visited, if_neg visited, grow_begun, addAt?_last, Order.insertText_sortTexts new,
      Option.map_some]
    simp only [List.append_assoc, List.map_append, List.map_cons, List.map_nil]

theorem advance_cons (step : String → List String) (seen : List String) (node : String)
    (left : List String) :
    advance step seen (node :: left) = advance step seen [node] ++
      advance step (seen ++ advance step seen [node]) left := by
  have split : (fun name => !(seen ++ advance step seen [node]).contains name) = fun name =>
      !((step node).filter fun name => !seen.contains name).contains name &&
        !seen.contains name := by
    funext name
    rw [Bool.eq_iff_iff]
    simp only [Bool.and_eq_true, Bool.not_eq_true', ← Bool.not_eq_true, List.contains_iff_mem,
      List.mem_append, mem_advance_iff, List.mem_filter, List.mem_singleton, exists_eq_left]
    tauto
  rw [advance, List.flatMap_cons, List.filter_append, Text.firstOccurrences_append]
  congr 1
  · simp [advance]
  · rw [advance, split, ← List.filter_filter, Text.firstOccurrences_filter _ (List.filter ..)]

/-- Looking up the callers of a node finds those of them that are new. -/
theorem foldlM_meet?_waveAt (known : ∀ name ∈ done.flatten, name ∈ seen) (node : String) :
    (graph.dependents node).foldlM (Wave.meet? done.length) (waveAt seen done left next) =
      some (waveAt seen done left (next ++ advance graph.dependents (seen ++ next) [node])) := by
  rw [advance, List.flatMap_singleton]
  induction graph.dependents node generalizing next with
  | nil => simp [Text.firstOccurrences]
  | cons caller callers ih =>
    rw [List.foldlM_cons, meet?_waveAt known, Option.bind_eq_bind, Option.bind_some, ih]
    by_cases visited : caller ∈ seen ++ next
    · rw [if_pos visited, List.filter_cons_of_neg (by simpa [or_iff_not_imp_left] using visited)]
    · have others : callers.filter (fun name => !(seen ++ (next ++ [caller])).contains name) =
          (callers.filter fun name => !(seen ++ next).contains name).filter (· != caller) := by
        rw [List.filter_filter]
        apply List.filter_congr
        intro name _
        rw [Bool.eq_iff_iff]
        simp
        tauto
      rw [if_neg visited, List.filter_cons_of_pos (by simpa using visited), others,
        Text.firstOccurrences_filter, Text.firstOccurrences, List.append_assoc,
        List.singleton_append]

/-- The search looks up the nodes at one distance after each other. -/
theorem spread?_layer (known : ∀ name ∈ done.flatten, name ∈ seen) (near : done.length < maxDepth) :
    graph.spread? maxDepth (left.length + fuel) (waveAt seen done left next) =
      graph.spread? maxDepth fuel
        (waveAt seen done [] (next ++ advance graph.dependents (seen ++ next) left)) := by
  induction left generalizing next with
  | nil => simp [advance, Text.firstOccurrences]
  | cons node left ih =>
    have turn :
        graph.spread? maxDepth (left.length + fuel + 1) (waveAt seen done (node :: left) next) =
        ((graph.dependents node).foldlM (Wave.meet? done.length) (waveAt seen done left next)).bind
          (graph.spread? maxDepth (left.length + fuel)) := by
      rw [spread?]
      exact if_neg (by simpa using near)
    rw [List.length_cons, Nat.add_right_comm, turn, foldlM_meet?_waveAt known, Option.bind_some, ih,
      advance_cons _ _ node left, List.append_assoc, List.append_assoc]

/-- Nodes at the greatest distance are not looked up. -/
theorem spread?_end (far : maxDepth ≤ done.length) :
    graph.spread? maxDepth (left.length + fuel) (waveAt seen done left []) =
      some (waveAt seen done [] []) := by
  induction left with
  | nil => cases fuel <;> simp [spread?, waveAt]
  | cons node left ih =>
    have turn :
        graph.spread? maxDepth (left.length + fuel + 1) (waveAt seen done (node :: left) []) =
        graph.spread? maxDepth (left.length + fuel) (waveAt seen done left []) := by
      rw [spread?]
      exact if_pos far
    rw [List.length_cons, Nat.add_right_comm, turn, ih]

/-- The callers met are the nodes at the next distance. -/
theorem waveAt_next (found : next ≠ []) :
    waveAt seen done [] next = waveAt (seen ++ next) (done ++ [next]) next [] := by
  simp [waveAt, begun, found]

/-- The nodes that call some node. -/
def callers (graph : CallGraph) : List String := graph.edges.map (·.1)

/-- New callers leave fewer that have not been seen. -/
theorem length_unseen_advance (graph : CallGraph) (seen frontier : List String) :
    (advance graph.dependents seen frontier).length +
        (unseen graph.callers (seen ++ advance graph.dependents seen frontier)).length ≤
      (unseen graph.callers seen).length := by
  have new : advance graph.dependents seen frontier ⊆ unseen graph.callers seen := by
    intro name member
    obtain ⟨⟨callee, _, calls⟩, apart⟩ := mem_advance_iff.1 member
    have caller : name ∈ graph.callers := List.mem_map_of_mem (mem_dependents_iff.1 calls)
    exact List.mem_filter.2 ⟨caller, by simpa using apart⟩
  have distinct : (advance graph.dependents seen frontier).Nodup := Text.nodup_firstOccurrences _
  generalize advance graph.dependents seen frontier = next at new distinct
  have inside : next ⊆ (unseen graph.callers seen).filter fun name => name ∈ next := by
    intro name member
    exact List.mem_filter.2 ⟨new member, by simpa using member⟩
  have parts := List.length_eq_length_filter_add (l := unseen graph.callers seen) (· ∈ next)
  have fewer := (List.subperm_of_subset distinct inside).length_le
  rw [unseen_append]
  simp only [decide_not]
  omega

/-- A search with nothing in its queue is over. -/
theorem spread?_waveAt_nil : graph.spread? maxDepth fuel (waveAt seen done [] []) =
    some (waveAt seen done [] []) := by
  cases fuel with
  | zero => rfl
  | succ fuel => rw [spread?]; rfl

/-- The search with a queue finds the layers of the search that goes on layer by layer, if its bound
is above the number of nodes in the queue and of callers that have not been seen. -/
theorem exists_spread?_eq (depth : Nat) (frontier : List String)
    (known : ∀ name ∈ done.flatten, name ∈ seen)
    (enough : (unseen graph.callers seen).length ≤ fuel) :
    ∃ visited, graph.spread? (done.length + depth) (frontier.length + fuel)
        (waveAt seen done frontier []) =
      some (waveAt visited (done ++ layers graph.dependents depth seen frontier) [] []) := by
  induction depth generalizing seen done frontier fuel with
  | zero =>
    rw [layers, List.append_nil]
    exact ⟨seen, spread?_end (Nat.le_refl _)⟩
  | succ depth ih =>
    have fewer := graph.length_unseen_advance seen frontier
    rw [spread?_layer known (by omega), List.nil_append, List.append_nil]
    by_cases stopped : advance graph.dependents seen frontier = []
    · rw [layers_of_advance_nil stopped, stopped, List.append_nil]
      exact ⟨seen, spread?_waveAt_nil⟩
    · rw [waveAt_next stopped, layers_of_advance stopped]
      generalize advance graph.dependents seen frontier = next at fewer
      have onward : ∀ name ∈ (done ++ [next]).flatten, name ∈ seen ++ next := by
        intro name member
        rw [List.flatten_concat, List.mem_append] at member
        exact List.mem_append.2 (member.imp_left (known name))
      obtain ⟨rest, rfl⟩ := Nat.exists_eq_add_of_le (Nat.le_trans (Nat.le_add_right ..)
        (Nat.le_trans fewer enough))
      have remaining : (unseen graph.callers (seen ++ next)).length ≤ rest := by omega
      obtain ⟨visited, same⟩ := ih next onward remaining
      rw [List.length_append, List.length_singleton, Nat.add_assoc, Nat.add_comm 1,
        List.append_assoc, List.singleton_append] at same
      exact ⟨visited, same⟩

/-- The layers of callers up to a depth. -/
def callerLayers (graph : CallGraph) (name : String) (depth : Nat) : List (List String) :=
  if graph.contains name then layers graph.dependents depth [name] [name] else []

/-- There always is a report, and it shows the layers of callers. -/
theorem impact?_eq (graph : CallGraph) (name : String) (depth : Nat) :
    graph.impact? name depth = some ⟨name, depth,
      Order.sortTexts (graph.callerLayers name depth).flatten, graph.callerLayers name depth⟩ := by
  rw [impact?, callerLayers]
  by_cases node : graph.contains name = true
  · have start : waveAt [name] [] [name] [] = ⟨[name], [(name, 0)], [], []⟩ := rfl
    have known : ∀ other ∈ ([] : List (List String)).flatten, other ∈ [name] := by simp
    have enough : (unseen graph.callers [name]).length ≤ graph.edges.length := by
      have all : graph.callers.length = graph.edges.length := List.length_map _
      rw [← all]
      exact List.length_filter_le ..
    obtain ⟨visited, same⟩ := exists_spread?_eq depth [name] known enough
    rw [List.length_nil, Nat.zero_add, List.length_singleton, Nat.add_comm 1, start,
      List.nil_append] at same
    rw [if_pos node, if_pos node, same, Option.map_some]
    simp [waveAt, begun]
  · rw [if_neg node, if_neg node]
    rfl

theorem impact_eq (graph : CallGraph) (name : String) (depth : Nat) :
    graph.impact name depth = ⟨name, depth,
      Order.sortTexts (graph.callerLayers name depth).flatten, graph.callerLayers name depth⟩ := by
  rw [impact, impact?_eq, Option.getD_some]

end Queue

/-! ## Distances -/

/-- One node leads to another over a number of calls. -/
inductive LeadsIn (graph : CallGraph) : (length : Nat) → (start target : String) → Prop where
  | here {name : String} : LeadsIn graph 0 name name
  | call {length : Nat} {caller callee target : String} (calls : graph.Calls caller callee)
    (onward : LeadsIn graph length callee target) : LeadsIn graph (length + 1) caller target

/-- The shortest way from one node to another has a number of calls. -/
structure Distance (graph : CallGraph) (length : Nat) (start target : String) : Prop where
  leads : graph.LeadsIn length start target
  least : ∀ other, graph.LeadsIn other start target → length ≤ other

section Distances

variable {length other depth : Nat} {name target : String}

theorem distance_zero_iff : graph.Distance 0 name target ↔ name = target := by
  constructor
  · intro distance
    cases distance.leads
    rfl
  · rintro rfl
    exact ⟨.here, fun _ _ => Nat.zero_le _⟩

theorem Distance.unique (first : graph.Distance length name target)
    (second : graph.Distance other name target) : length = other :=
  Nat.le_antisymm (first.least other second.leads) (second.least length first.leads)

/-- A way has a shortest one beside it. -/
theorem LeadsIn.exists_distance (leads : graph.LeadsIn length name target) :
    ∃ shortest ≤ length, graph.Distance shortest name target := by
  classical
  have some : ∃ length, graph.LeadsIn length name target := ⟨length, leads⟩
  exact ⟨Nat.find some, Nat.find_min' some leads, Nat.find_spec some, fun _ => Nat.find_min' some⟩

/-- The nodes at a positive distance call a node that is one step nearer, and no nearer one. -/
theorem distance_succ_iff : graph.Distance (length + 1) name target ↔
    (∃ callee, graph.Distance length callee target ∧ graph.Calls name callee) ∧
      ¬∃ nearer ≤ length, graph.LeadsIn nearer name target := by
  constructor
  · intro distance
    constructor
    · cases distance.leads with
      | @call _ _ callee _ calls onward =>
        refine ⟨callee, ⟨onward, fun other leads => ?_⟩, calls⟩
        exact Nat.le_of_succ_le_succ (distance.least (other + 1) (.call calls leads))
    · rintro ⟨nearer, le, leads⟩
      exact Nat.not_succ_le_self length (Nat.le_trans (distance.least nearer leads) le)
  · rintro ⟨⟨callee, distance, calls⟩, none⟩
    refine ⟨.call calls distance.leads, fun other leads => ?_⟩
    by_contra nearer
    exact none ⟨other, by omega, leads⟩

/-- On the way to a node there are nodes at every smaller distance. -/
theorem Distance.exists_nearer (distance : graph.Distance (length + other) name target) :
    ∃ between, graph.Distance length between target := by
  induction other generalizing name with
  | zero => exact ⟨name, distance⟩
  | succ other ih =>
    obtain ⟨⟨callee, nearer, _⟩, _⟩ := distance_succ_iff.1 distance
    exact ih nearer

/-- A shortest way passes different nodes, each at its own distance. -/
theorem Distance.exists_way (closed : graph.Closed) (node : target ∈ graph.nodes)
    (distance : graph.Distance length name target) :
    ∃ way : List String, way.length = length + 1 ∧ way.Nodup ∧ way ⊆ graph.nodes ∧
      ∀ passed ∈ way, ∃ nearer ≤ length, graph.Distance nearer passed target := by
  induction length generalizing name with
  | zero =>
    refine ⟨[target], rfl, List.nodup_singleton _, by simpa using node, ?_⟩
    intro passed member
    rw [List.mem_singleton.1 member]
    exact ⟨0, Nat.le_refl 0, distance_zero_iff.2 rfl⟩
  | succ length ih =>
    obtain ⟨⟨callee, nearer, calls⟩, _⟩ := distance_succ_iff.1 distance
    obtain ⟨way, count, distinct, inside, distances⟩ := ih nearer
    have new : name ∉ way := by
      intro member
      obtain ⟨shorter, le, again⟩ := distances name member
      rw [← distance.unique again] at le
      exact Nat.not_succ_le_self length le
    refine ⟨name :: way, by rw [List.length_cons, count], List.nodup_cons.2 ⟨new, distinct⟩,
      List.cons_subset.2 ⟨(closed calls).1, inside⟩, ?_⟩
    rw [List.forall_mem_cons]
    refine ⟨⟨length + 1, Nat.le_refl _, distance⟩, fun passed member => ?_⟩
    obtain ⟨shorter, le, again⟩ := distances passed member
    exact ⟨shorter, Nat.le_succ_of_le le, again⟩

/-- A shortest way has fewer calls than there are nodes. -/
theorem Distance.lt_length_nodes (closed : graph.Closed) (node : target ∈ graph.nodes)
    (distance : graph.Distance length name target) : length < graph.nodes.length := by
  obtain ⟨way, count, distinct, inside, _⟩ := distance.exists_way closed node
  have fits := (List.subperm_of_subset distinct inside).length_le
  omega

/-- From the nodes at one distance, a search finds the nodes at each greater distance. -/
theorem mem_getD_layers_iff {seen frontier : List String} {position : Nat}
    (nearer : ∀ name, name ∈ seen ↔ ∃ other ≤ length, graph.LeadsIn other name target)
    (border : ∀ name, name ∈ frontier ↔ graph.Distance length name target) :
    name ∈ (layers graph.dependents depth seen frontier).getD position [] ↔
      position < depth ∧ graph.Distance (length + 1 + position) name target := by
  induction depth generalizing seen frontier length position with
  | zero => simp [layers]
  | succ depth ih =>
    have next (name : String) : name ∈ advance graph.dependents seen frontier ↔
        graph.Distance (length + 1) name target := by
      rw [mem_advance_iff, distance_succ_iff, nearer]
      simp only [border, mem_dependents_iff]
    by_cases stopped : advance graph.dependents seen frontier = []
    · rw [layers_of_advance_nil stopped]
      simp only [List.getD_nil, List.not_mem_nil, false_iff]
      rintro ⟨_, distance⟩
      obtain ⟨between, first⟩ := distance.exists_nearer
      have found := (next between).2 first
      rw [stopped] at found
      cases found
    · rw [layers_of_advance stopped]
      have nearer' (name : String) : name ∈ seen ++ advance graph.dependents seen frontier ↔
          ∃ other ≤ length + 1, graph.LeadsIn other name target := by
        rw [List.mem_append, nearer, next]
        constructor
        · rintro (⟨other, le, leads⟩ | distance)
          · exact ⟨other, Nat.le_succ_of_le le, leads⟩
          · exact ⟨length + 1, Nat.le_refl _, distance.leads⟩
        · rintro ⟨other, le, leads⟩
          obtain ⟨shortest, shorter, distance⟩ := leads.exists_distance
          rcases Nat.lt_or_eq_of_le (Nat.le_trans shorter le) with near | rfl
          · exact .inl ⟨shortest, Nat.le_of_lt_succ near, distance.leads⟩
          · exact .inr distance
      cases position with
      | zero => simpa using next name
      | succ position =>
        rw [List.getD_cons_succ, ih nearer' next, Nat.succ_lt_succ_iff,
          Nat.add_right_comm _ 1 position, Nat.add_assoc _ position 1]

end Distances

/-! ## Reports -/

section Reports

variable {name caller : String} {depth position : Nat}

theorem nodup_of_mem_layers {step : String → List String} {seen frontier layer : List String}
    (member : layer ∈ layers step depth seen frontier) : layer.Nodup ∧ layer ≠ [] := by
  induction depth generalizing seen frontier with
  | zero => cases member
  | succ depth ih =>
    by_cases stopped : advance step seen frontier = []
    · rw [layers_of_advance_nil stopped] at member
      cases member
    · rw [layers_of_advance stopped] at member
      rcases List.mem_cons.1 member with rfl | later
      · exact ⟨Text.nodup_firstOccurrences _, stopped⟩
      · exact ih later

theorem nodup_of_mem_callerLayers {layer : List String}
    (member : layer ∈ graph.callerLayers name depth) : layer.Nodup ∧ layer ≠ [] := by
  rw [callerLayers] at member
  split at member
  · exact nodup_of_mem_layers member
  · cases member

/-- Each layer of callers holds the nodes at one distance. -/
theorem mem_getD_callerLayers_iff (node : name ∈ graph.nodes) :
    caller ∈ (graph.callerLayers name depth).getD position [] ↔
      position < depth ∧ graph.Distance (position + 1) caller name := by
  have nearer (other : String) :
      other ∈ [name] ↔ ∃ length ≤ 0, graph.LeadsIn length other name := by
    rw [List.mem_singleton]
    constructor
    · rintro rfl
      exact ⟨0, Nat.le_refl 0, .here⟩
    · rintro ⟨length, le, leads⟩
      obtain rfl := Nat.le_zero.1 le
      cases leads
      rfl
  have border (other : String) : other ∈ [name] ↔ graph.Distance 0 other name := by
    rw [List.mem_singleton, distance_zero_iff]
  rw [callerLayers, contains, if_pos (List.contains_iff_mem.2 node),
    mem_getD_layers_iff nearer border, Nat.zero_add, Nat.add_comm]

theorem mem_flatten_iff_getD {layers : List (List String)} :
    caller ∈ layers.flatten ↔ ∃ position, caller ∈ layers.getD position [] := by
  rw [List.mem_flatten]
  constructor
  · rintro ⟨layer, listed, member⟩
    obtain ⟨position, found⟩ := List.mem_iff_getElem?.1 listed
    exact ⟨position, by simpa [List.getD_eq_getElem?_getD, found] using member⟩
  · rintro ⟨position, member⟩
    rw [List.getD_eq_getElem?_getD] at member
    cases found : layers[position]? with
    | none => simp [found] at member
    | some layer =>
      exact ⟨layer, List.mem_of_getElem? found, by simpa [found] using member⟩

/-- The callers in some layer are the other nodes that lead to the target over a bounded number of
calls. -/
theorem mem_flatten_callerLayers_iff (node : name ∈ graph.nodes) :
    caller ∈ (graph.callerLayers name depth).flatten ↔
      caller ≠ name ∧ ∃ length, 1 ≤ length ∧ length ≤ depth ∧ graph.LeadsIn length caller name := by
  simp only [mem_flatten_iff_getD, mem_getD_callerLayers_iff node]
  constructor
  · rintro ⟨position, near, distance⟩
    refine ⟨?_, position + 1, Nat.le_add_left .., near, distance.leads⟩
    rintro rfl
    cases distance.least 0 .here
  · rintro ⟨differs, length, _, le, leads⟩
    obtain ⟨shortest, shorter, distance⟩ := leads.exists_distance
    cases shortest with
    | zero => exact absurd (distance_zero_iff.1 distance) differs
    | succ position => exact ⟨position, Nat.le_trans shorter le, distance⟩

theorem nodup_flatten_callerLayers (node : name ∈ graph.nodes) :
    (graph.callerLayers name depth).flatten.Nodup := by
  rw [List.nodup_flatten, List.pairwise_iff_getElem]
  refine ⟨fun layer member => (nodup_of_mem_callerLayers member).1, ?_⟩
  intro first second inRange inRange' before caller here there
  have distance {position : Nat} (inRange : position < (graph.callerLayers name depth).length)
      (member : caller ∈ (graph.callerLayers name depth)[position]) :
      graph.Distance (position + 1) caller name := by
    rw [← List.getD_eq_getElem _ [] inRange] at member
    exact ((mem_getD_callerLayers_iff node).1 member).2
  have same := (distance inRange here).unique (distance inRange' there)
  omega

/-- A report on the nodes that lead to a target over at least one and at most `depth` calls: all of
them once and in byte order, and layer by layer those at each distance. -/
structure ReportsCallers (graph : CallGraph) (name : String) (depth : Nat) (impact : Impact) :
    Prop where
  affected : ∀ caller, caller ∈ impact.affected ↔ caller ∈ graph.nodes ∧ caller ≠ name ∧
    ∃ length, 1 ≤ length ∧ length ≤ depth ∧ graph.LeadsIn length caller name
  increasing : (impact.affected.map Order.bytes).Pairwise (· < ·)
  byDepth : ∀ position caller, caller ∈ impact.byDepth.getD position [] ↔
    position < depth ∧ caller ≠ name ∧ graph.Distance (position + 1) caller name
  distinct : ∀ layer ∈ impact.byDepth, layer.Nodup
  inhabited : ∀ layer ∈ impact.byDepth, layer ≠ []

theorem LeadsIn.mem_nodes {length : Nat} (closed : graph.Closed) (positive : 1 ≤ length)
    (leads : graph.LeadsIn length caller name) : caller ∈ graph.nodes := by
  cases leads with
  | here => cases positive
  | call calls onward => exact (closed calls).1

theorem reportsCallers_impact (closed : graph.Closed) (node : name ∈ graph.nodes) (depth : Nat) :
    graph.ReportsCallers name depth (graph.impact name depth) := by
  rw [impact_eq]
  constructor
  case affected =>
    intro caller
    simp only [Order.mem_sortTexts, mem_flatten_callerLayers_iff node]
    refine ⟨fun found => ⟨?_, found⟩, fun found => found.2⟩
    obtain ⟨_, length, positive, _, leads⟩ := found
    exact leads.mem_nodes closed positive
  case increasing =>
    exact Order.pairwise_bytes (Order.increasing_sortTexts (nodup_flatten_callerLayers node))
  case byDepth =>
    intro position caller
    simp only [mem_getD_callerLayers_iff node]
    refine ⟨fun found => ⟨found.1, ?_, found.2⟩, fun found => ⟨found.1, found.2.2⟩⟩
    rintro rfl
    cases found.2.least 0 .here
  case distinct => exact fun layer member => (nodup_of_mem_callerLayers member).1
  case inhabited => exact fun layer member => (nodup_of_mem_callerLayers member).2

theorem callerLayers_of_not_mem (missing : name ∉ graph.nodes) :
    graph.callerLayers name depth = [] := by
  rw [callerLayers, contains, if_neg (mt List.contains_iff_mem.1 missing)]

/-- From the number of nodes on, a greater depth adds nothing. -/
theorem impactSet_of_le (closed : graph.Closed) (enough : graph.nodes.length ≤ depth) :
    graph.impactSet name depth = graph.impactSet name graph.nodes.length := by
  rw [impactSet, impactSet, impact_eq, impact_eq]
  by_cases node : name ∈ graph.nodes
  · apply Order.sortTexts_eq_of_perm
    apply (List.perm_ext_iff_of_nodup (nodup_flatten_callerLayers node)
      (nodup_flatten_callerLayers node)).2
    intro caller
    simp only [mem_flatten_iff_getD, mem_getD_callerLayers_iff node]
    apply exists_congr
    intro position
    apply and_congr_left
    intro distance
    have near := distance.lt_length_nodes closed node
    omega
  · rw [callerLayers_of_not_mem node, callerLayers_of_not_mem node]

theorem impactSet_subset (closed : graph.Closed) {deeper : Nat} (le : depth ≤ deeper) :
    graph.impactSet name depth ⊆ graph.impactSet name deeper := by
  intro caller member
  by_cases node : name ∈ graph.nodes
  · obtain ⟨known, differs, length, positive, near, leads⟩ :=
      ((reportsCallers_impact closed node depth).affected caller).1 member
    apply ((reportsCallers_impact closed node deeper).affected caller).2
    exact ⟨known, differs, length, positive, Nat.le_trans near le, leads⟩
  · rw [impactSet, impact_eq, callerLayers_of_not_mem node] at member
    cases member

/-- The impact of a change is what leads to it over a bounded number of calls. There always is a
report, the number of calls only adds to it, and from the number of nodes on it adds nothing. -/
theorem impact_is_bounded_reachability (records : List Record) (name : String) (depth : Nat) :
    let graph := build records
    graph.impact? name depth = some (graph.impact name depth) ∧
      (name ∉ graph.nodes → (graph.impact name depth).affected = [] ∧
        (graph.impact name depth).byDepth = []) ∧
      (name ∈ graph.nodes → graph.ReportsCallers name depth (graph.impact name depth)) ∧
      graph.impactSet name depth = (graph.impact name depth).affected ∧
      (∀ deeper, depth ≤ deeper → graph.impactSet name depth ⊆ graph.impactSet name deeper) ∧
      (graph.nodes.length ≤ depth →
        graph.impactSet name depth = graph.impactSet name graph.nodes.length) := by
  intro graph
  have closed := closed_build records
  refine ⟨?_, fun missing => ?_, fun node => reportsCallers_impact closed node depth, rfl,
    fun deeper le => impactSet_subset closed le, impactSet_of_le closed⟩
  · rw [impact_eq, impact?_eq]
  · rw [impact_eq, callerLayers_of_not_mem missing]
    exact ⟨rfl, rfl⟩

/-- Two ways of two calls lead to a unit that calls itself and the start of these ways. -/
theorem impact_is_bounded_reachability_diamond :
    let records := [unitCalling "a" ["b", "c"], unitCalling "b" ["d"], unitCalling "c" ["m.d"],
      unitCalling "d" ["d", "a"]]
    ((build records).impact "d" 9).byDepth = [["b", "c"], ["a"]] ∧ "d" ∈ (build records).nodes ∧
      (build records).ReportsCallers "d" 9 ((build records).impact "d" 9) := by
  intro records
  have node : "d" ∈ (build records).nodes := by decide +kernel
  exact ⟨by decide +kernel, node, (impact_is_bounded_reachability records "d" 9).2.2.1 node⟩

end Reports

end SourceIndex.CallGraph
