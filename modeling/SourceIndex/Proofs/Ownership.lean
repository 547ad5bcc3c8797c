import SourceIndex.Proofs.Keys
import SourceIndex.Proofs.Places

/-!
# Units and their owners

What is extracted from a tree can be told node by node. The units are the nodes that define one, in
preorder. A call belongs to the unit that is nearest above it, and the name of a unit is qualified
by the nearest named container or unit above it.
-/

namespace SourceIndex.Extraction

/-! ## Above a place -/

section Above

variable (grammar : Grammar) (source : String) (root : Node)

/-- The nodes of a tree that define units, in preorder. -/
def unitSpots : List Spot := (root.spots []).filter fun spot => isUnit grammar spot.node

/-- The place of the nearest unit above a place. -/
def owner? : Place → Option Place
  | [] => none
  | _ :: above => if (root.at? above).any (isUnit grammar) then some above else owner? above

/-- The scope that a node opens for what is below it, if it is a unit or container with a name. -/
def opened? (scope : Option String) (parent : Option Node) (node : Node) : Option String :=
  if isUnit grammar node then
    (declaredName? grammar source parent node).map (qualify (nameScope grammar source scope node))
  else if grammar.containerKinds.contains node.kind then
    (grammar.containerName source node).map (qualify scope)
  else none

/-- The scope around a place: the one that the nearest named unit or container above it opens. -/
def scope? : Place → Option String
  | [] => none
  | _ :: above =>
    ((root.at? above).bind (opened? grammar source (scope? above) (root.parent? above))).or
      (scope? above)

/-- The name of what a node calls. -/
def callee? (node : Node) : Option String :=
  if grammar.callKinds.contains node.kind then (grammar.callee source node).bind Callee.name?
  else none

/-- The number of the unit at a place. -/
def unitNumber (place : Place) : Nat := ((unitSpots grammar root).map Spot.place).idxOf place

/-- The frame with which a node is visited. -/
def frameAt (spot : Spot) : Frame where
  node := spot.node
  parent := root.parent? spot.place
  scope := scope? grammar source root spot.place
  owner := (owner? grammar root spot.place).map (unitNumber grammar root)

/-- What is found at a node. -/
def findingsAt (spot : Spot) : List Finding :=
  (visit grammar source (frameAt grammar source root spot) 0).findings

end Above

/-! ## One visit -/

variable {grammar : Grammar} {source : String} {root : Node}

theorem qualifiedName_draft (frame : Frame) :
    (draft grammar source frame).qualifiedName =
      (declaredName? grammar source frame.parent frame.node).map
        (qualify (nameScope grammar source frame.scope frame.node)) := by
  rw [draft]
  cases declaredName? grammar source frame.parent frame.node <;> rfl

theorem node_draft (frame : Frame) : (draft grammar source frame).node = frame.node := by
  rw [draft]
  cases declaredName? grammar source frame.parent frame.node <;> rfl

/-- How many units were found before does not matter for what is found. -/
theorem findings_visit (frame : Frame) (count : Nat) :
    (visit grammar source frame count).findings = (visit grammar source frame 0).findings := by
  rw [visit, visit]
  split <;> rfl

theorem owner_visit (frame : Frame) (count : Nat) :
    (visit grammar source frame count).owner =
      if isUnit grammar frame.node then some count else frame.owner := by
  rw [visit]
  grind

theorem scope_visit (frame : Frame) (count : Nat) :
    (visit grammar source frame count).scope =
      (opened? grammar source frame.scope frame.parent frame.node).or frame.scope := by
  rw [visit, opened?]
  grind [qualifiedName_draft]

/-- The children of a visited node are visited with the frames of their places. -/
theorem childFrames_visit {spot : Spot} (found : root.at? spot.place = some spot.node) {count : Nat}
    (counted : isUnit grammar spot.node = true → count = unitNumber grammar root spot.place) :
    childFrames (frameAt grammar source root spot)
        (visit grammar source (frameAt grammar source root spot) count) =
      spot.children.map (frameAt grammar source root) := by
  have nodes : (frameAt grammar source root spot).node.namedChildren =
      spot.children.map Spot.node :=
    (Spot.map_node_children spot).symm
  rw [childFrames, nodes, List.map_map]
  apply List.map_congr_left
  intro child listed
  obtain ⟨step, -, place⟩ := Spot.mem_children_iff.1 listed
  have scope : (visit grammar source (frameAt grammar source root spot) count).scope =
      scope? grammar source root child.place := by
    rw [scope_visit, place, scope?, found]
    rfl
  have owner : (visit grammar source (frameAt grammar source root spot) count).owner =
      (owner? grammar root child.place).map (unitNumber grammar root) := by
    rw [owner_visit, place, owner?, found, Option.any_some]
    by_cases unit : isUnit grammar spot.node = true
    · rw [if_pos unit, counted unit]
      exact if_pos unit
    · rw [if_neg unit]
      exact if_neg unit
  have parent : root.parent? child.place = some spot.node := by
    rw [place]
    exact found
  rw [Function.comp_apply, scope, owner]
  simp only [frameAt, parent]

/-! ## A whole walk -/

theorem nodup_unitSpots (grammar : Grammar) (root : Node) :
    ((unitSpots grammar root).map Spot.place).Nodup :=
  (Spot.nodup_all ⟨[], root⟩).sublist (List.filter_sublist.map Spot.place)

/-- The number of a unit is that of the units before it. -/
theorem unitNumber_eq {done rest : List Spot} {spot : Spot}
    (split : unitSpots grammar root = done ++ spot :: rest) :
    unitNumber grammar root spot.place = done.length := by
  have distinct := nodup_unitSpots grammar root
  rw [split, List.map_append] at distinct
  have new : spot.place ∉ done.map Spot.place := by
    intro before
    exact (List.nodup_append.1 distinct).2.2 _ before _ (List.mem_cons_self ..) rfl
  rw [unitNumber, split, List.map_append, List.idxOf_append_of_notMem new, List.map_cons,
    List.idxOf_cons_self, List.length_map]
  rfl

/-- Between two visits, the list of frames stands for the nodes that are left to come in preorder,
and the count for the units among the others. -/
theorem walk_eq {fuel : Nat} {done pending : List Spot}
    (split : root.spots [] = done ++ pending.flatMap Spot.all)
    (enough : (pending.flatMap Spot.all).length ≤ fuel) :
    walk grammar source fuel (pending.map (frameAt grammar source root))
        (done.filter fun spot => isUnit grammar spot.node).length =
      (pending.flatMap Spot.all).flatMap (findingsAt grammar source root) := by
  induction fuel generalizing done pending with
  | zero =>
    rw [List.eq_nil_of_length_eq_zero (Nat.le_zero.1 enough)]
    rfl
  | succ fuel ih =>
    cases pending with
    | nil => rfl
    | cons spot pending =>
      have unfolded : (spot :: pending).flatMap Spot.all =
          spot :: (spot.children ++ pending).flatMap Spot.all := by
        rw [List.flatMap_cons, Spot.all_eq, List.flatMap_append, List.cons_append]
      rw [unfolded] at split enough ⊢
      have found : root.at? spot.place = some spot.node := by
        rw [← Node.mem_spots_iff, split]
        simp
      have next : (if isUnit grammar spot.node then
            (done.filter fun spot => isUnit grammar spot.node).length + 1
          else (done.filter fun spot => isUnit grammar spot.node).length) =
          ((done ++ [spot]).filter fun spot => isUnit grammar spot.node).length := by
        rw [List.filter_append, List.length_append]
        split <;> simp [*]
      have counted (unit : isUnit grammar spot.node = true) :
          (done.filter fun spot => isUnit grammar spot.node).length =
            unitNumber grammar root spot.place := by
        have units := congrArg (List.filter fun spot => isUnit grammar spot.node) split
        rw [List.filter_append, List.filter_cons, if_pos unit] at units
        exact (unitNumber_eq units).symm
      rw [List.map_cons, walk, List.flatMap_cons, findings_visit, childFrames_visit found counted,
        ← List.map_append]
      have later : root.spots [] =
          (done ++ [spot]) ++ (spot.children ++ pending).flatMap Spot.all := by
        rw [split, List.append_assoc, List.singleton_append]
      rw [← ih later (Nat.le_of_succ_le_succ enough), ← next]
      rfl

theorem findings_eq (grammar : Grammar) (source : String) (root : Node) :
    findings grammar source root = (root.spots []).flatMap (findingsAt grammar source root) := by
  have whole : [(⟨[], root⟩ : Spot)].flatMap Spot.all = root.spots [] := List.append_nil _
  have split : root.spots [] = [] ++ [(⟨[], root⟩ : Spot)].flatMap Spot.all := whole.symm
  have enough : ([(⟨[], root⟩ : Spot)].flatMap Spot.all).length ≤ root.size := by
    rw [whole]
    exact Node.length_spots_le [] root
  rw [← whole]
  exact walk_eq split enough

/-! ## Units and calls among the findings -/

/-- No call is a unit or a container. -/
def CallsApart (grammar : Grammar) : Prop :=
  ∀ kind ∈ grammar.callKinds, kind ∉ grammar.functionKinds ∧ kind ∉ grammar.containerKinds

theorem callsApart_ofLanguage (language : Language) : CallsApart (Grammar.ofLanguage language) := by
  have apart (grammar : Grammar) (apart : grammar.callKinds.all fun kind =>
      !grammar.functionKinds.contains kind && !grammar.containerKinds.contains kind) :
      CallsApart grammar := by
    intro kind listed
    simpa using List.all_eq_true.1 apart kind listed
  cases language <;> exact apart _ (by decide)

/-- What a visit finds: the unit of the node, modules that are imported, and a call by the owner. -/
theorem exists_findings_visit (apart : CallsApart grammar) (frame : Frame) (count : Nat) :
    ∃ modules : List String, (visit grammar source frame count).findings =
      (if isUnit grammar frame.node then [Finding.unit (draft grammar source frame)] else []) ++
      modules.map Finding.imported ++
      (frame.owner.bind fun owner =>
        (callee? grammar source frame.node).map (Finding.call owner)).toList := by
  by_cases call : grammar.callKinds.contains frame.node.kind = true
  · obtain ⟨notFunction, notContainer⟩ := apart _ (List.contains_iff_mem.1 call)
    have notUnit : isUnit grammar frame.node = false := by simp [isUnit, notFunction]
    have found :
        (visit grammar source frame count).findings = callFindings grammar source frame := by
      simp [visit, notUnit, notContainer, List.contains_iff_mem.1 call]
    rw [found, notUnit, callee?, if_pos call, callFindings]
    cases named : grammar.callee source frame.node with
    | none => exact ⟨[], by simp⟩
    | some raw =>
      refine ⟨(grammar.loadedModule source frame.node raw).toList, ?_⟩
      cases frame.owner <;> cases called : Callee.name? raw <;> simp [called, Option.toList_map]
  · have noCall : callee? grammar source frame.node = none := if_neg call
    rw [visit, noCall]
    split
    case isTrue unit => exact ⟨[], by simp⟩
    case isFalse =>
      split
      case isTrue => exact ⟨[], by split <;> simp⟩
      case isFalse =>
        split
        case isTrue => exact ⟨grammar.imports source frame.node, by simp⟩
        case isFalse => exact ⟨[], by simp⟩

/-- The unit that a call belongs to, by its number, with the name of what is called. -/
def callAt (grammar : Grammar) (source : String) (root : Node) (spot : Spot) :
    Option (Nat × String) :=
  (owner? grammar root spot.place).bind fun owner =>
    (callee? grammar source spot.node).map fun callee => (unitNumber grammar root owner, callee)

section

variable (apart : CallsApart grammar)
include apart

theorem drafts_findingsAt (spot : Spot) :
    drafts (findingsAt grammar source root spot) =
      if isUnit grammar spot.node then [draft grammar source (frameAt grammar source root spot)]
      else [] := by
  obtain ⟨modules, found⟩ := exists_findings_visit apart (frameAt grammar source root spot) 0
  have node : (frameAt grammar source root spot).node = spot.node := rfl
  rw [findingsAt, found, node]
  cases (frameAt grammar source root spot).owner <;> cases callee? grammar source spot.node <;>
    by_cases unit : isUnit grammar spot.node = true <;> simp [drafts, unit]

theorem calls_findingsAt (spot : Spot) :
    calls (findingsAt grammar source root spot) = (callAt grammar source root spot).toList := by
  obtain ⟨modules, found⟩ := exists_findings_visit apart (frameAt grammar source root spot) 0
  have owner : (frameAt grammar source root spot).owner =
      (owner? grammar root spot.place).map (unitNumber grammar root) := rfl
  have node : (frameAt grammar source root spot).node = spot.node := rfl
  rw [findingsAt, found, owner, node, callAt]
  cases owner? grammar root spot.place <;> cases callee? grammar source spot.node <;>
    by_cases unit : isUnit grammar spot.node = true <;> simp [calls, unit]

theorem drafts_findings :
    drafts (findings grammar source root) =
      (unitSpots grammar root).map fun spot =>
        draft grammar source (frameAt grammar source root spot) := by
  rw [findings_eq, unitSpots]
  induction root.spots [] with
  | nil => rfl
  | cons spot spots ih =>
    have parts : drafts ((spot :: spots).flatMap (findingsAt grammar source root)) =
        drafts (findingsAt grammar source root spot) ++
          drafts (spots.flatMap (findingsAt grammar source root)) := List.filterMap_append
    rw [parts, ih, drafts_findingsAt apart, List.filter_cons]
    split <;> rfl

theorem calls_findings :
    calls (findings grammar source root) =
      (root.spots []).filterMap (callAt grammar source root) := by
  rw [findings_eq]
  induction root.spots [] with
  | nil => rfl
  | cons spot spots ih =>
    have parts : calls ((spot :: spots).flatMap (findingsAt grammar source root)) =
        calls (findingsAt grammar source root spot) ++
          calls (spots.flatMap (findingsAt grammar source root)) := List.filterMap_append
    rw [parts, ih, calls_findingsAt apart, List.filterMap_cons]
    cases callAt grammar source root spot <;> rfl

end

/-! ## Units and nodes -/

/-- What the unit of a node keeps to. Its calls are those below the node that no unit in between
owns. -/
structure Describes (grammar : Grammar) (source : String) (root : Node) (spot : Spot)
    (unit : SourceUnit) : Prop where
  text : unit.source = (spot.node.text? source).getD ""
  startLine : unit.startLine = lineAt source spot.node.start
  endLine : unit.endLine = lineAt source spot.node.stop
  qualifiedName : unit.qualifiedName =
    (declaredName? grammar source (root.parent? spot.place) spot.node).map
      (qualify (nameScope grammar source (scope? grammar source root spot.place) spot.node))
  calls : unit.calls = Text.firstOccurrences
    (((root.spots []).filter fun call => owner? grammar root call.place = some spot.place).filterMap
      fun call => callee? grammar source call.node)

/-- The owner of a place is a unit. -/
theorem mem_unitSpots_of_owner? {place owner : Place}
    (found : owner? grammar root place = some owner) :
    owner ∈ (unitSpots grammar root).map Spot.place := by
  induction place with
  | nil => cases found
  | cons step above ih =>
    rw [owner?] at found
    split at found
    case isTrue unit =>
      obtain rfl := Option.some.inj found
      cases here : root.at? above with
      | none => simp [here] at unit
      | some node =>
        rw [here, Option.any_some] at unit
        have listed : ⟨above, node⟩ ∈ root.spots [] := Node.mem_spots_iff.2 here
        exact List.mem_map.2 ⟨⟨above, node⟩, List.mem_filter.2 ⟨listed, unit⟩, rfl⟩
    case isFalse => exact ih found

/-- The calls with the number of a unit are those that it owns. -/
theorem filterMap_callAt (spot : Spot) :
    ((root.spots []).filterMap (callAt grammar source root)).filterMap
        (fun call => if call.1 = unitNumber grammar root spot.place then some call.2 else none) =
      ((root.spots []).filter fun call =>
        owner? grammar root call.place = some spot.place).filterMap fun call =>
          callee? grammar source call.node := by
  rw [List.filterMap_filterMap, List.filterMap_filter]
  apply List.filterMap_congr
  intro call _
  rw [callAt]
  cases owned : owner? grammar root call.place with
  | none => simp
  | some owner =>
    have same : unitNumber grammar root owner = unitNumber grammar root spot.place ↔
        owner = spot.place :=
      List.idxOf_inj (mem_unitSpots_of_owner? owned)
    cases callee? grammar source call.node <;> simp [same]

theorem describes_finish (apart : CallsApart grammar) (digest : Digest) (used : List String)
    (spot : Spot) :
    Describes grammar source root spot
      (finish grammar source digest (calls (findings grammar source root)) used
        (unitNumber grammar root spot.place)
        (draft grammar source (frameAt grammar source root spot))) := by
  have node : (draft grammar source (frameAt grammar source root spot)).node = spot.node :=
    node_draft _
  constructor
  case text => simp only [finish, node]
  case startLine => simp only [finish, node]
  case endLine => simp only [finish, node]
  case qualifiedName => exact qualifiedName_draft _
  case calls => simp only [finish, calls_findings apart, filterMap_callAt]

/-- The drafts from some unit on become units that describe their nodes. -/
theorem forall₂_finishAll (apart : CallsApart grammar) (source : String) (digest : Digest)
    {done rest : List Spot} (split : unitSpots grammar root = done ++ rest) (used : List String) :
    List.Forall₂ (Describes grammar source root) rest
      (finishAll grammar source digest (calls (findings grammar source root)) used done.length
        (rest.map fun spot => draft grammar source (frameAt grammar source root spot))) := by
  induction rest generalizing done used with
  | nil => exact .nil
  | cons spot rest ih =>
    have later : unitSpots grammar root = (done ++ [spot]) ++ rest := by
      rw [split, List.append_assoc, List.singleton_append]
    have others := ih later
    rw [List.length_append] at others
    rw [List.map_cons, finishAll]
    apply List.Forall₂.cons
    · rw [← unitNumber_eq split]
      exact describes_finish apart digest used spot
    · exact others _

/-! ## Lines -/

theorem lineNumber_mono (source : String) {first second : Nat} (before : first ≤ second) :
    lineNumber source first ≤ lineNumber source second := by
  have bytes (offset : Nat) : (source.toUTF8.extract 0 offset).data.toList =
      source.toUTF8.data.toList.take offset := by
    simp [ByteArray.data_extract]
  rw [lineNumber, lineNumber, bytes, bytes]
  have shorter := List.take_sublist_take_left before (l := source.toUTF8.data.toList)
  exact Nat.succ_le_succ (shorter.filter (· == 10)).length_le

/-- A line whose number fits is stored as it is. -/
theorem toNat_lineAt {offset : Nat} (fits : lineNumber source offset < UInt32.size) :
    (lineAt source offset).toNat = lineNumber source offset :=
  UInt32.toNat_ofNat_of_lt fits

theorem lines_eq {units : List SourceUnit} {spots : List Spot}
    (described : List.Forall₂ (Describes grammar source root) spots units) :
    units.map (fun unit => (unit.startLine, unit.endLine)) =
      spots.map fun spot => (lineAt source spot.node.start, lineAt source spot.node.stop) := by
  induction described with
  | nil => rfl
  | cons here others ih => rw [List.map_cons, List.map_cons, ih, here.startLine, here.endLine]

section

variable (ordered : root.Ordered)
include ordered

/-- No unit starts on an earlier line than the units before it. -/
theorem pairwise_lineNumber :
    (unitSpots grammar root).Pairwise fun first second =>
      lineNumber source first.node.start ≤ lineNumber source second.node.start := by
  have starts := Node.Ordered.pairwise_start ⟨[], root⟩ ordered
  exact (starts.sublist List.filter_sublist).imp (lineNumber_mono source)

/-- A unit ends on the line on which it starts or on a later one, and inside the tree. -/
theorem lineNumber_le_of_mem (source : String) {spot : Spot}
    (member : spot ∈ unitSpots grammar root) :
    lineNumber source spot.node.start ≤ lineNumber source spot.node.stop ∧
      lineNumber source spot.node.stop ≤ lineNumber source root.stop := by
  obtain ⟨-, span, inside⟩ := Node.Ordered.inside ⟨[], root⟩ ordered
    (List.mem_filter.1 member).1
  exact ⟨lineNumber_mono source span, lineNumber_mono source inside⟩

variable (fits : lineNumber source root.stop < UInt32.size) {units : List SourceUnit}
variable (described : List.Forall₂ (Describes grammar source root) (unitSpots grammar root) units)
include fits described

theorem pairwise_startLine :
    units.Pairwise fun first second => first.startLine ≤ second.startLine := by
  have starts : units.map (·.startLine) =
      (unitSpots grammar root).map fun spot => lineAt source spot.node.start := by
    have lines := congrArg (List.map Prod.fst) (lines_eq described)
    rwa [List.map_map, List.map_map] at lines
  have stored (spot : Spot) (member : spot ∈ unitSpots grammar root) :
      (lineAt source spot.node.start).toNat = lineNumber source spot.node.start := by
    obtain ⟨span, inside⟩ := lineNumber_le_of_mem ordered source member
    exact toNat_lineAt (by omega)
  rw [← List.pairwise_map, starts, List.pairwise_map]
  apply (pairwise_lineNumber ordered).imp_of_mem
  intro first second isUnit isOther before
  rw [UInt32.le_iff_toNat_le, stored first isUnit, stored second isOther]
  exact before

theorem lineCount_of_mem {unit : SourceUnit} (member : unit ∈ units) :
    unit.startLine ≤ unit.endLine ∧
      (unit.endLine - unit.startLine + 1).toNat =
        unit.endLine.toNat - unit.startLine.toNat + 1 := by
  have lines : (unit.startLine, unit.endLine) ∈ (unitSpots grammar root).map fun spot =>
      (lineAt source spot.node.start, lineAt source spot.node.stop) :=
    lines_eq described ▸ List.mem_map_of_mem member
  obtain ⟨spot, listed, same⟩ := List.mem_map.1 lines
  obtain ⟨startLine, endLine⟩ := Prod.mk.inj same
  obtain ⟨span, inside⟩ := lineNumber_le_of_mem ordered source listed
  have start : unit.startLine.toNat = lineNumber source spot.node.start := by
    rw [← startLine, toNat_lineAt (by omega)]
  have stop : unit.endLine.toNat = lineNumber source spot.node.stop := by
    rw [← endLine, toNat_lineAt (by omega)]
  have first : 0 < lineNumber source spot.node.start := Nat.succ_pos _
  have least : unit.startLine ≤ unit.endLine := by rwa [UInt32.le_iff_toNat_le, start, stop]
  refine ⟨least, ?_⟩
  rw [UInt32.toNat_add, UInt32.toNat_sub_of_le _ _ least, start, stop]
  apply Nat.mod_eq_of_lt
  have size : UInt32.size = 4294967296 := rfl
  have one : (1 : UInt32).toNat = 1 := rfl
  omega

end

/-- The units that are extracted are those of the nodes of a function kind with a body, one for each
and in preorder. Each has the calls that it owns, and is qualified by the scope around its node. If
the nodes of the tree are in order, then so are the lines on which the units start, and none ends
before it starts, so that the number of its lines can be counted. -/
theorem units_describe_the_unit_nodes (language : Language) (digest : Digest) (path source : String)
    (root : Node) :
    let grammar := Grammar.ofLanguage language
    let units := (ofTree grammar digest path language source root).units
    List.Forall₂ (Describes grammar source root) (unitSpots grammar root) units ∧
    (∀ spot, spot ∈ unitSpots grammar root ↔ root.at? spot.place = some spot.node ∧
      spot.node.kind ∈ grammar.functionKinds ∧ (spot.node.child? "body").isSome) ∧
    ((unitSpots grammar root).map Spot.place).Nodup ∧
    (root.Ordered →
      ((unitSpots grammar root).Pairwise fun first second =>
        lineNumber source first.node.start ≤ lineNumber source second.node.start) ∧
      (∀ spot ∈ unitSpots grammar root,
        lineNumber source spot.node.start ≤ lineNumber source spot.node.stop) ∧
      (lineNumber source root.stop < UInt32.size →
        (units.Pairwise fun first second => first.startLine ≤ second.startLine) ∧
        ∀ unit ∈ units, unit.startLine ≤ unit.endLine ∧
          (unit.endLine - unit.startLine + 1).toNat =
            unit.endLine.toNat - unit.startLine.toNat + 1)) := by
  intro grammar units
  have apart : CallsApart grammar := callsApart_ofLanguage language
  have described : List.Forall₂ (Describes grammar source root) (unitSpots grammar root) units := by
    have drafted := forall₂_finishAll apart source digest
      (List.nil_append (unitSpots grammar root)).symm []
    rw [← drafts_findings apart] at drafted
    exact drafted
  refine ⟨described, fun spot => ?_, nodup_unitSpots grammar root, fun ordered =>
    ⟨pairwise_lineNumber ordered, fun spot member => ?_, ?_⟩⟩
  · simp [unitSpots, isUnit, Node.mem_spots_iff]
  · exact (lineNumber_le_of_mem ordered source member).1
  · intro fits
    exact ⟨pairwise_startLine ordered fits described,
      fun unit member => lineCount_of_mem ordered fits described member⟩

/-! ## A function in a method -/

/-- A method that calls two functions, with a function between these calls that makes one. -/
def nestedSource : String := "class A:\n def f():\n  a()\n  def g(): b()\n  c()\n"

/-- The syntax tree of `nestedSource`. -/
def nestedTree : Node :=
  let node (kind : String) (field : Option String) (start stop : Nat) (children : List Node) :
      Node :=
    ⟨kind, field, true, false, start, stop, children⟩
  let call (start : Nat) : Node :=
    node "expression_statement" none start (start + 3)
      [node "call" none start (start + 3)
        [node "identifier" (some "function") start (start + 1) [],
         node "argument_list" (some "arguments") (start + 1) (start + 3) []]]
  let inner := node "function_definition" none 27 39
    [node "identifier" (some "name") 31 32 [], node "parameters" (some "parameters") 32 34 [],
     node "block" (some "body") 36 39 [call 36]]
  let method := node "function_definition" none 10 45
    [node "identifier" (some "name") 14 15 [], node "parameters" (some "parameters") 15 17 [],
     node "block" (some "body") 21 45 [call 21, inner, call 42]]
  node "module" none 0 46
    [node "class_definition" none 0 45
      [node "identifier" (some "name") 6 7 [], node "block" (some "body") 10 45 [method]]]

theorem ordered_nestedTree : nestedTree.Ordered := by
  simp [Node.ordered_mk_iff, nestedTree]

def nestedUnits : List SourceUnit :=
  (ofTree (Grammar.ofLanguage .python) .sha256 "a.py" .python nestedSource nestedTree).units

theorem units_describe_the_unit_nodes_nested :
    nestedTree.Ordered ∧ lineNumber nestedSource nestedTree.stop < UInt32.size ∧
    nestedUnits.map (·.qualifiedName) = [some "A.f", some "A.f.g"] ∧
    nestedUnits.map (·.calls) = [["a", "c"], ["b"]] ∧
    nestedUnits.Pairwise fun first second => first.startLine ≤ second.startLine := by
  have fits : lineNumber nestedSource nestedTree.stop < UInt32.size := by decide +kernel
  obtain ⟨-, -, -, lines⟩ := units_describe_the_unit_nodes .python .sha256 "a.py" nestedSource
    nestedTree
  exact ⟨ordered_nestedTree, fits, by decide +kernel, by decide +kernel,
    ((lines ordered_nestedTree).2.2 fits).1⟩

end SourceIndex.Extraction
