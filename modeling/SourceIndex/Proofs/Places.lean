import Mathlib.Data.List.Nodup
import SourceIndex.Tree

/-!
# Places in a syntax tree

The named nodes of a tree in preorder: each node comes before those below it, and the nodes below an
earlier child come before those below a later one. A node is told apart from others with the same
content by its place.
-/

namespace SourceIndex

/-- Where a node stands in a tree: which of the named children is taken at each step from the root,
with the last step first. The places of the ancestors are what is left without some of these. -/
abbrev Place := List Nat

/-- A node of a tree with its place. -/
structure Spot where
  place : Place
  node : Node

namespace Node

/-- The node at a place. -/
def at? (root : Node) : Place → Option Node
  | [] => some root
  | step :: above => (root.at? above).bind fun parent => parent.namedChildren[step]?

/-- The node above a place. -/
def parent? (root : Node) : Place → Option Node
  | [] => none
  | _ :: above => root.at? above

mutual

/-- The named nodes of a tree in preorder, given the place of its root. -/
def spots (place : Place) : Node → List Spot
  | ⟨kind, field, named, hasError, start, stop, children⟩ =>
    ⟨place, ⟨kind, field, named, hasError, start, stop, children⟩⟩ :: spotsBelow place 0 children

/-- The named nodes below a place in preorder; `step` is the number of the next named child. -/
def spotsBelow (above : Place) : (step : Nat) → List Node → List Spot
  | _, [] => []
  | step, child :: children =>
    if child.named then child.spots (step :: above) ++ spotsBelow above (step + 1) children
    else spotsBelow above step children

end

/-- What holds of a node if it holds of its children holds of every node. -/
theorem induction {motive : Node → Prop}
    (step : ∀ node, (∀ child ∈ node.children, motive child) → motive node) (node : Node) :
    motive node :=
  @Node.rec motive (fun children => ∀ child ∈ children, motive child)
    (fun _ _ _ _ _ _ _ below => step _ below) (List.forall_mem_nil _)
    (fun _ _ here others => List.forall_mem_cons.2 ⟨here, others⟩) node

theorem spots_eq (place : Place) (node : Node) :
    node.spots place = ⟨place, node⟩ :: spotsBelow place 0 node.children := by
  cases node
  rfl

theorem spotsBelow_eq (above : Place) (step : Nat) (children : List Node) :
    spotsBelow above step children = ((children.filter (·.named)).zipIdx step).flatMap
      fun child => child.1.spots (child.2 :: above) := by
  induction children generalizing step with
  | nil => rfl
  | cons child children ih =>
    rw [spotsBelow, List.filter_cons]
    split
    · rw [ih, List.zipIdx_cons, List.flatMap_cons]
    · exact ih step

end Node

namespace Spot

/-- The named children of a node with their places. -/
def children (spot : Spot) : List Spot :=
  spot.node.namedChildren.zipIdx.map fun child => ⟨child.2 :: spot.place, child.1⟩

/-- The named nodes of the tree below a spot in preorder. -/
def all (spot : Spot) : List Spot := spot.node.spots spot.place

theorem all_eq (spot : Spot) : spot.all = spot :: spot.children.flatMap all := by
  rw [all, Node.spots_eq, Node.spotsBelow_eq, children, List.flatMap_map]
  rfl

theorem mem_children_iff {spot child : Spot} :
    child ∈ spot.children ↔ ∃ step, spot.node.namedChildren[step]? = some child.node ∧
      child.place = step :: spot.place := by
  rw [children, List.mem_map]
  constructor
  · rintro ⟨⟨node, step⟩, member, rfl⟩
    exact ⟨step, List.mem_zipIdx_iff_getElem?.1 member, rfl⟩
  · rintro ⟨step, found, same⟩
    obtain ⟨place, node⟩ := child
    cases same
    exact ⟨(node, step), List.mem_zipIdx_iff_getElem?.2 found, rfl⟩

/-- What holds of a spot if it holds of its children holds of every spot. -/
theorem induction {motive : Spot → Prop}
    (step : ∀ spot, (∀ child ∈ spot.children, motive child) → motive spot) (spot : Spot) :
    motive spot := by
  obtain ⟨place, node⟩ := spot
  induction node using Node.induction generalizing place with
  | step node below =>
    apply step
    rintro ⟨childPlace, child⟩ member
    obtain ⟨index, found, -⟩ := mem_children_iff.1 member
    exact below child (List.mem_filter.1 (List.mem_of_getElem? found)).1 childPlace

/-- Whatever stands at a spot, its children stand among the nodes below. -/
theorem mem_all_of_mem_children (spot : Spot) {other child : Spot} (member : other ∈ spot.all)
    (below : child ∈ other.children) : child ∈ spot.all := by
  induction spot using induction with
  | step spot ih =>
    rw [all_eq] at member ⊢
    cases List.mem_cons.1 member with
    | inl same =>
      subst same
      have here : child ∈ child.all := all_eq child ▸ List.mem_cons_self ..
      exact List.mem_cons_of_mem _ (List.mem_flatMap.2 ⟨child, below, here⟩)
    | inr later =>
      obtain ⟨first, listed, inner⟩ := List.mem_flatMap.1 later
      exact List.mem_cons_of_mem _ (List.mem_flatMap.2 ⟨first, listed, ih first listed inner⟩)

/-- Below a spot, places lead over that of the spot. -/
theorem suffix_of_mem_all {spot other : Spot} (member : other ∈ spot.all) :
    spot.place <:+ other.place := by
  induction spot using induction with
  | step spot ih =>
    rw [all_eq] at member
    cases List.mem_cons.1 member with
    | inl same => exact same ▸ List.suffix_refl _
    | inr later =>
      obtain ⟨child, listed, inner⟩ := List.mem_flatMap.1 later
      obtain ⟨step, -, same⟩ := mem_children_iff.1 listed
      have shorter : spot.place <:+ child.place := same ▸ List.suffix_cons step _
      exact shorter.trans (ih child listed inner)

theorem map_node_children (spot : Spot) : spot.children.map node = spot.node.namedChildren := by
  rw [children, List.map_map]
  exact List.zipIdx_map_fst ..

theorem nodup_children (spot : Spot) : (spot.children.map place).Nodup := by
  have steps : spot.children.map place =
      (List.range' 0 spot.node.namedChildren.length).map fun step => step :: spot.place := by
    rw [children, List.map_map, ← List.zipIdx_map_snd, List.map_map]
    rfl
  rw [steps]
  exact List.Nodup.map (fun _ _ same => (List.cons.inj same).1) List.nodup_range'

/-- No place comes twice. -/
theorem nodup_all (spot : Spot) : (spot.all.map place).Nodup := by
  induction spot using induction with
  | step spot ih =>
    rw [all_eq, List.map_cons, List.nodup_cons, List.map_flatMap, List.nodup_flatMap]
    refine ⟨?_, ih, ?_⟩
    · intro member
      obtain ⟨child, listed, inner⟩ := List.mem_flatMap.1 member
      obtain ⟨other, below, same⟩ := List.mem_map.1 inner
      obtain ⟨step, -, deeper⟩ := mem_children_iff.1 listed
      have longer := (suffix_of_mem_all below).length_le
      rw [same, deeper, List.length_cons] at longer
      omega
    · -- the places below two children differ in the step to the child
      apply (List.pairwise_map.1 (nodup_children spot)).imp_of_mem
      intro first second isChild isOther differs place here there
      obtain ⟨one, belowFirst, rfl⟩ := List.mem_map.1 here
      obtain ⟨other, belowSecond, same⟩ := List.mem_map.1 there
      have upper := suffix_of_mem_all belowFirst
      have lower : second.place <:+ one.place := same ▸ suffix_of_mem_all belowSecond
      obtain ⟨step, -, stepTo⟩ := mem_children_iff.1 isChild
      obtain ⟨otherStep, -, stepToOther⟩ := mem_children_iff.1 isOther
      have even : first.place.length = second.place.length := by rw [stepTo, stepToOther]; rfl
      have shared := List.suffix_of_suffix_length_le upper lower (Nat.le_of_eq even)
      exact differs (shared.eq_of_length even)

end Spot

namespace Node

variable {root : Node}

mutual

theorem length_spots_le (place : Place) (node : Node) : (node.spots place).length ≤ node.size := by
  cases node with
  | mk kind field named hasError start stop children =>
    have below := length_spotsBelow_le place 0 children
    rw [spots, size, List.length_cons]
    omega

theorem length_spotsBelow_le (above : Place) (step : Nat) (children : List Node) :
    (spotsBelow above step children).length ≤ sizeAll children := by
  cases children with
  | nil => exact Nat.le_refl 0
  | cons child children =>
    have here := length_spots_le (step :: above) child
    have others := length_spotsBelow_le above (step + 1) children
    have shifted := length_spotsBelow_le above step children
    rw [spotsBelow, sizeAll]
    split
    · rw [List.length_append]
      omega
    · omega

end

/-- Below a node that is found at its place, all nodes are. -/
theorem at?_of_mem_all (spot : Spot) {other : Spot} (found : root.at? spot.place = some spot.node)
    (member : other ∈ spot.all) : root.at? other.place = some other.node := by
  induction spot using Spot.induction with
  | step spot ih =>
    rw [Spot.all_eq] at member
    cases List.mem_cons.1 member with
    | inl same => rwa [same]
    | inr later =>
      obtain ⟨child, listed, inner⟩ := List.mem_flatMap.1 later
      obtain ⟨step, taken, same⟩ := Spot.mem_children_iff.1 listed
      apply ih child listed _ inner
      rw [same, at?, found]
      exact taken

/-- The named nodes of a tree are those that are found at a place. -/
theorem mem_spots_iff {spot : Spot} :
    spot ∈ root.spots [] ↔ root.at? spot.place = some spot.node := by
  constructor
  · exact fun member => at?_of_mem_all ⟨[], root⟩ rfl member
  · intro found
    obtain ⟨place, node⟩ := spot
    induction place generalizing node with
    | nil =>
      cases found
      rw [spots_eq]
      exact List.mem_cons_self ..
    | cons step above ih =>
      obtain ⟨parent, upper, taken⟩ := Option.bind_eq_some_iff.1 found
      exact Spot.mem_all_of_mem_children ⟨[], root⟩ (ih parent upper)
        (Spot.mem_children_iff.2 ⟨step, taken, rfl⟩)

/-! ## Spans -/

/-- The named children of every node are listed in order inside its span. -/
inductive Ordered : Node → Prop where
  | mk {node : Node} (span : node.start ≤ node.stop)
      (inside : ∀ child ∈ node.namedChildren, node.start ≤ child.start ∧ child.stop ≤ node.stop)
      (inOrder : node.namedChildren.Pairwise fun first second => first.stop ≤ second.start)
      (below : ∀ child ∈ node.namedChildren, Ordered child) : Ordered node

theorem ordered_mk_iff {kind : String} {field : Option String} {named hasError : Bool}
    {start stop : Nat} {children : List Node} :
    (Node.mk kind field named hasError start stop children).Ordered ↔ start ≤ stop ∧
      (∀ child ∈ children.filter (·.named), start ≤ child.start ∧ child.stop ≤ stop) ∧
      ((children.filter (·.named)).Pairwise fun first second => first.stop ≤ second.start) ∧
      ∀ child ∈ children.filter (·.named), child.Ordered :=
  ⟨fun ⟨span, inside, inOrder, below⟩ => ⟨span, inside, inOrder, below⟩,
    fun ⟨span, inside, inOrder, below⟩ => ⟨span, inside, inOrder, below⟩⟩

/-- The spans below a node of an ordered tree are inside its own. -/
theorem Ordered.inside (spot : Spot) {other : Spot} (ordered : spot.node.Ordered)
    (member : other ∈ spot.all) :
    spot.node.start ≤ other.node.start ∧ other.node.start ≤ other.node.stop ∧
      other.node.stop ≤ spot.node.stop := by
  induction spot using Spot.induction with
  | step spot ih =>
    cases ordered with
    | mk span inside inOrder below =>
      rw [Spot.all_eq] at member
      cases List.mem_cons.1 member with
      | inl same =>
        subst same
        exact ⟨Nat.le_refl _, span, Nat.le_refl _⟩
      | inr later =>
        obtain ⟨child, listed, inner⟩ := List.mem_flatMap.1 later
        have named : child.node ∈ spot.node.namedChildren :=
          Spot.map_node_children spot ▸ List.mem_map_of_mem listed
        obtain ⟨after, proper, before⟩ := ih child listed (below _ named) inner
        obtain ⟨fromStart, toStop⟩ := inside _ named
        exact ⟨Nat.le_trans fromStart after, proper, Nat.le_trans before toStop⟩

/-- In an ordered tree no node starts before one that comes earlier in preorder. -/
theorem Ordered.pairwise_start (spot : Spot) (ordered : spot.node.Ordered) :
    spot.all.Pairwise fun first second => first.node.start ≤ second.node.start := by
  induction spot using Spot.induction with
  | step spot ih =>
    have fromStart (other : Spot) (member : other ∈ spot.all) :
        spot.node.start ≤ other.node.start := (ordered.inside spot member).1
    cases ordered with
    | mk span inside inOrder below =>
      have ordered (child : Spot) (listed : child ∈ spot.children) : child.node.Ordered :=
        below _ (Spot.map_node_children spot ▸ List.mem_map_of_mem listed)
      rw [← Spot.map_node_children, List.pairwise_map] at inOrder
      rw [Spot.all_eq] at fromStart ⊢
      rw [List.pairwise_cons, List.pairwise_flatMap]
      refine ⟨fun other later => fromStart other (List.mem_cons_of_mem _ later),
        fun child listed => ih child listed (ordered child listed), ?_⟩
      apply inOrder.imp_of_mem
      intro first second isChild isOther apart one belowFirst other belowSecond
      have upper := (ordered first isChild).inside first belowFirst
      have lower := (ordered second isOther).inside second belowSecond
      omega

end Node

end SourceIndex
