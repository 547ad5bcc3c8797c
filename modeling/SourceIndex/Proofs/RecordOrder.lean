import Mathlib.Data.List.Forall2
import Mathlib.Data.List.Perm.Lattice
import SourceIndex.Proofs.Cycles
import SourceIndex.Proofs.Impact

/-!
# The order of records

An index lists its records in the order in which they came, which differs between a rebuild and a
history of small updates. The answers of a call graph do not depend on it: lists of the same records
in another order, with their calls in another order or repeated, have graphs that give the same
answers.
-/

namespace SourceIndex

namespace Record

/-- Records that a call graph cannot tell apart: they have the same node and the same calls, in any
order and number. -/
structure SameCalls (first second : Record) : Prop where
  name : first.nodeName = second.nodeName
  calls : ∀ call, call ∈ first.calls ↔ call ∈ second.calls

/-- The records of one list are those of the other in another order, up to the order and number of
their calls. -/
def Rearranged (first second : List Record) : Prop :=
  ∃ reordered, first.Perm reordered ∧ List.Forall₂ SameCalls reordered second

theorem Rearranged.exists_iff {first second : List Record} (rearranged : Rearranged first second)
    {holds : Record → Prop}
    (respects : ∀ {one two : Record}, SameCalls one two → (holds one ↔ holds two)) :
    (∃ record ∈ first, holds record) ↔ ∃ record ∈ second, holds record := by
  obtain ⟨reordered, perm, alike⟩ := rearranged
  simp only [perm.mem_iff]
  clear perm
  induction alike with
  | nil => simp
  | cons same _ ih => simp [respects same, ih]

end Record

namespace CallGraph

/-- Graphs with the same nodes and edges, up to their order. -/
structure Alike (first second : CallGraph) : Prop where
  nodes : first.nodes.Perm second.nodes
  edges : first.edges.Perm second.edges

theorem alike_build {first second : List Record} (rearranged : Record.Rearranged first second) :
    (build first).Alike (build second) := by
  have perm := perm_build_of_calls
    (fun name => rearranged.exists_iff fun same => by rw [same.name])
    (fun name call => rearranged.exists_iff fun same => by rw [same.name, same.calls])
  exact ⟨perm.1, perm.2⟩

/-- Two graphs give the same answers: those that are lists agree up to their order, and the sorted
ones are equal. -/
structure SameAnswers (first second : CallGraph) : Prop where
  contains : ∀ name, first.contains name = second.contains name
  nodeCount : first.nodes.length = second.nodes.length
  edgeCount : first.edges.length = second.edges.length
  dependencies : ∀ name, (first.dependencies name).Perm (second.dependencies name)
  dependents : ∀ name, (first.dependents name).Perm (second.dependents name)
  affected : ∀ name depth, (first.impact name depth).affected = (second.impact name depth).affected
  byDepth : ∀ name depth,
    List.Forall₂ List.Perm (first.impact name depth).byDepth (second.impact name depth).byDepth
  components : first.components = second.components
  leaves : first.leaves.Perm second.leaves
  entryPoints : ∀ maxCallers, (first.entryPoints maxCallers).Perm (second.entryPoints maxCallers)
  acyclic : first.cycles = [] ↔ second.cycles = []

/-- The layers of a search depend only on where steps lead to, up to the order of each layer. -/
theorem forall₂_perm_layers {step other : String → List String}
    (steps : ∀ origin name, name ∈ step origin ↔ name ∈ other origin) (depth : Nat)
    {seen known frontier border : List String} (sameSeen : ∀ name, name ∈ seen ↔ name ∈ known)
    (sameFrontier : ∀ name, name ∈ frontier ↔ name ∈ border) :
    List.Forall₂ List.Perm (layers step depth seen frontier) (layers other depth known border) := by
  induction depth generalizing seen known frontier border with
  | zero => exact .nil
  | succ depth ih =>
    have next : (advance step seen frontier).Perm (advance other known border) := by
      apply Text.perm_firstOccurrences
      intro name
      simp [steps, sameSeen, sameFrontier]
    by_cases stopped : advance step seen frontier = []
    · have halted : advance other known border = [] := (stopped ▸ next).nil_eq.symm
      rw [layers_of_advance_nil stopped, layers_of_advance_nil halted]
      exact .nil
    · have moved : advance other known border ≠ [] := fun halted => stopped (halted ▸ next).eq_nil
      rw [layers_of_advance stopped, layers_of_advance moved]
      refine .cons next (ih ?_ fun name => next.mem_iff)
      intro name
      rw [List.mem_append, List.mem_append, sameSeen, next.mem_iff]

namespace Alike

variable {first second : CallGraph}

theorem calls_eq (alike : first.Alike second) : first.Calls = second.Calls := by
  funext caller callee
  exact propext alike.edges.mem_iff

theorem closed (alike : first.Alike second) (closed : first.Closed) : second.Closed := by
  intro caller callee calls
  rw [← alike.calls_eq] at calls
  exact (closed calls).imp alike.nodes.mem_iff.1 alike.nodes.mem_iff.1

theorem contains_eq (alike : first.Alike second) (name : String) :
    first.contains name = second.contains name := by
  rw [contains, contains, Bool.eq_iff_iff, List.contains_iff_mem, List.contains_iff_mem,
    alike.nodes.mem_iff]

theorem perm_dependencies (alike : first.Alike second) (name : String) :
    (first.dependencies name).Perm (second.dependencies name) :=
  alike.edges.filterMap _

theorem perm_dependents (alike : first.Alike second) (name : String) :
    (first.dependents name).Perm (second.dependents name) :=
  alike.edges.filterMap _

theorem forall₂_perm_byDepth (alike : first.Alike second) (name : String) (depth : Nat) :
    List.Forall₂ List.Perm (first.impact name depth).byDepth
      (second.impact name depth).byDepth := by
  rw [impact_eq, impact_eq, callerLayers, callerLayers, alike.contains_eq]
  split
  case isTrue =>
    exact forall₂_perm_layers (fun origin _ => (alike.perm_dependents origin).mem_iff) depth
      (fun _ => Iff.rfl) (fun _ => Iff.rfl)
  case isFalse => exact .nil

theorem affected_eq (alike : first.Alike second) (name : String) (depth : Nat) :
    (first.impact name depth).affected = (second.impact name depth).affected := by
  have layers := alike.forall₂_perm_byDepth name depth
  rw [impact_eq, impact_eq] at layers ⊢
  exact Order.sortTexts_eq_of_perm (List.Perm.flatten_congr layers)

theorem perm_leaves (alike : first.Alike second) : first.leaves.Perm second.leaves := by
  have same : (fun name => (first.dependencies name).isEmpty) =
      fun name => (second.dependencies name).isEmpty := by
    funext name
    exact (alike.perm_dependencies name).isEmpty_eq
  rw [leaves, leaves, same]
  exact alike.nodes.filter _

theorem perm_entryPoints (alike : first.Alike second) (maxCallers : Nat) :
    (first.entryPoints maxCallers).Perm (second.entryPoints maxCallers) := by
  have same (name : String) :
      (first.dependents name).length = (second.dependents name).length :=
    (alike.perm_dependents name).length_eq
  rw [entryPoints, entryPoints]
  simp only [same]
  exact alike.nodes.filter _

theorem contains_descendants_eq (alike : first.Alike second) (closed : first.Closed)
    (name other : String) :
    (first.descendants name).contains other = (second.descendants name).contains other := by
  rw [Bool.eq_iff_iff, List.contains_iff_mem, List.contains_iff_mem, mem_descendants_iff closed,
    mem_descendants_iff (alike.closed closed), alike.calls_eq]

theorem perm_cyclicNodes (alike : first.Alike second) (closed : first.Closed) :
    first.cyclicNodes.Perm second.cyclicNodes := by
  rw [cyclicNodes, cyclicNodes]
  simp only [alike.contains_descendants_eq closed]
  exact alike.nodes.filter _

theorem group_eq (alike : first.Alike second) (closed : first.Closed) (name : String) :
    first.group name = second.group name := by
  rw [group, group]
  simp only [alike.contains_descendants_eq closed]
  exact Order.sortTexts_eq_of_perm ((alike.perm_cyclicNodes closed).filter _)

/-- Components are sorted by their first names, which tell them apart, so that one order is left. -/
theorem components_eq (alike : first.Alike second) (closed : first.Closed) :
    first.components = second.components := by
  have groups : (first.cyclicNodes.map first.group).Perm (second.cyclicNodes.map second.group) := by
    have same : first.group = second.group := funext (alike.group_eq closed)
    rw [same]
    exact (alike.perm_cyclicNodes closed).map _
  rw [CallGraph.components_eq, CallGraph.components_eq]
  congr 1
  apply Order.sortBy_text_eq_of_perm (fun members => members.headD "") groups
  intro one here two there same
  obtain ⟨name, member, rfl⟩ := List.mem_map.1 here
  obtain ⟨other, listed, rfl⟩ := List.mem_map.1 there
  exact group_eq_of_headD closed member listed same

theorem cycles_eq_nil_iff (alike : first.Alike second) (closed : first.Closed) :
    first.cycles = [] ↔ second.cycles = [] := by
  rw [CallGraph.cycles_eq_nil_iff closed, CallGraph.cycles_eq_nil_iff (alike.closed closed),
    alike.calls_eq]

end Alike

/-- The answers of a call graph do not depend on the order of the records, nor on the order and
number of the calls in a record. -/
theorem answers_ignore_record_order {first second : List Record}
    (rearranged : Record.Rearranged first second) : SameAnswers (build first) (build second) := by
  have alike := alike_build rearranged
  have closed := closed_build first
  exact {
    contains := alike.contains_eq
    nodeCount := alike.nodes.length_eq
    edgeCount := alike.edges.length_eq
    dependencies := alike.perm_dependencies
    dependents := alike.perm_dependents
    affected := alike.affected_eq
    byDepth := alike.forall₂_perm_byDepth
    components := alike.components_eq closed
    leaves := alike.perm_leaves
    entryPoints := alike.perm_entryPoints
    acyclic := alike.cycles_eq_nil_iff closed }

/-- Two units that call each other, in either order, where one of them repeats its call. -/
theorem answers_ignore_record_order_mutual :
    Record.Rearranged [unitCalling "a" ["b", "c"], unitCalling "b" ["m::a"]]
        [unitCalling "b" ["m::a"], unitCalling "a" ["c", "b", "b"]] ∧
      SameAnswers (build [unitCalling "a" ["b", "c"], unitCalling "b" ["m::a"]])
        (build [unitCalling "b" ["m::a"], unitCalling "a" ["c", "b", "b"]]) := by
  have rearranged : Record.Rearranged [unitCalling "a" ["b", "c"], unitCalling "b" ["m::a"]]
      [unitCalling "b" ["m::a"], unitCalling "a" ["c", "b", "b"]] := by
    refine ⟨[unitCalling "b" ["m::a"], unitCalling "a" ["b", "c"]], .swap ..,
      .cons ?_ (.cons ?_ .nil)⟩
    · exact ⟨rfl, fun _ => Iff.rfl⟩
    · refine ⟨rfl, fun call => ?_⟩
      simp [unitCalling, or_comm]
  exact ⟨rearranged, answers_ignore_record_order rearranged⟩

end CallGraph

end SourceIndex
