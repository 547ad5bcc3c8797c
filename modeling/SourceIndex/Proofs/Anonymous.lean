import SourceIndex.Proofs.Cycles
import SourceIndex.Proofs.Extraction
import SourceIndex.Proofs.Impact
import SourceIndex.Proofs.Path
import SourceIndex.UnitRecord

/-!
# Units without a name in call graphs

The node of a unit without a name is its identifier: the path of the file, a `#` and the key. No
call has a `#`, so no call leads to such a node. The path of a source file has a dot, which the name
of a unit has not, so the node is that of no unit with a name. And the key has no `#`, so that the
last `#` of the node tells where the path ends.
-/

namespace SourceIndex

/-! ## Nodes without callers -/

namespace CallGraph

variable {graph : CallGraph} {name : String}

/-- A node that nothing calls, as the answers of a call graph show it. -/
structure Uncalled (graph : CallGraph) (name : String) : Prop where
  node : name ∈ graph.nodes
  calls : ∀ caller, ¬graph.Calls caller name
  dependents : graph.dependents name = []
  affected : ∀ depth, (graph.impact name depth).affected = []
  byDepth : ∀ depth, (graph.impact name depth).byDepth = []
  components : ∀ members ∈ graph.components, name ∉ members
  cycles : ∀ walk ∈ graph.cycles, name ∉ walk

theorem uncalled_of_not_calls (closed : graph.Closed) (node : name ∈ graph.nodes)
    (calls : ∀ caller, ¬graph.Calls caller name) : graph.Uncalled name := by
  have dependents : graph.dependents name = [] := by
    apply List.eq_nil_iff_forall_not_mem.2
    intro caller member
    exact calls caller (mem_dependents_iff.1 member)
  have layers (depth : Nat) : graph.callerLayers name depth = [] := by
    rw [callerLayers]
    split
    · apply layers_of_advance_nil
      simp [advance, dependents, Text.firstOccurrences]
    · rfl
  constructor
  case node => exact node
  case calls => exact calls
  case dependents => exact dependents
  case affected =>
    intro depth
    rw [impact_eq, layers]
    rfl
  case byDepth =>
    intro depth
    rw [impact_eq, layers]
  case components =>
    intro members member inside
    obtain ⟨other, _, rfl⟩ := (mem_components_iff closed).1 member
    obtain ⟨leads, _⟩ := (mem_group_iff closed).1 inside
    obtain ⟨caller, _, last⟩ := Relation.TransGen.tail'_iff.1 leads
    exact calls caller last
  case cycles =>
    intro walk member inside
    obtain ⟨caller, last⟩ := (roundTrip_of_mem_cycles member).exists_caller inside
    exact calls caller last

/-- A call leads to a node whose characters it has. -/
theorem mem_of_mem_resolve {nodes : List String} {call callee : String}
    (resolved : resolve nodes call = some callee) {c : Char} (member : c ∈ callee.toList) :
    c ∈ call.toList := by
  cases (resolve_eq_some resolved).2 with
  | inl whole => exact whole ▸ member
  | inr segment =>
    rw [segment, lastSegment, String.toList_ofList] at member
    exact (Text.mem_of_mem_afterLast member).1

end CallGraph

/-! ## Nodes of extracted units -/

/-- A file with the units of some content. -/
def SourceFile.IsExtracted (file : SourceFile) : Prop :=
  ∃ parser digest content, ofContent? parser digest file.path file.language content = some file

theorem SourceFile.IsExtracted.plain {file : SourceFile} (extracted : file.IsExtracted)
    {unit : SourceUnit} (member : unit ∈ file.units) : unit.Plain := by
  obtain ⟨parser, digest, content, found⟩ := extracted
  exact plain_of_ofContent? found member

theorem SourceFile.IsExtracted.nodup_keys {file : SourceFile} (extracted : file.IsExtracted) :
    (file.units.map (·.key)).Nodup := by
  obtain ⟨parser, digest, content, found⟩ := extracted
  exact nodup_keys_of_ofContent? found

/-- The identifiers of units without a name tell their files and keys. -/
theorem SourceUnit.identifierOf_inj_of_plain {file other first second : String}
    (here : '#' ∉ first.toList) (there : '#' ∉ second.toList)
    (same : identifierOf file first = identifierOf other second) :
    file = other ∧ first = second := by
  have texts : file.toList ++ '#' :: first.toList = other.toList ++ '#' :: second.toList := by
    simpa [identifierOf] using congrArg String.toList same
  obtain ⟨front, last⟩ := Text.append_cons_inj here there texts
  exact ⟨String.toList_injective front, String.toList_injective last⟩

namespace CallGraph

/-- The nodes of the units of files that have no name, or of those that have one. -/
def unitNodes (maxCalls : Nat) (anonymous : Bool) (files : List SourceFile) : List String :=
  files.flatMap fun file => (file.units.filter (·.isAnonymous == anonymous)).map fun unit =>
    (unit.record maxCalls file).nodeName

variable {maxCalls : Nat} {files : List SourceFile} {name : String}

theorem mem_unitNodes_iff {anonymous : Bool} :
    name ∈ unitNodes maxCalls anonymous files ↔ ∃ file ∈ files, ∃ unit ∈ file.units,
      unit.isAnonymous = anonymous ∧ (unit.record maxCalls file).nodeName = name := by
  simp [unitNodes, and_assoc]

theorem mem_nodes_of_mem_unitNodes {anonymous : Bool}
    (member : name ∈ unitNodes maxCalls anonymous files) :
    name ∈ (build (files.flatMap (·.records maxCalls))).nodes := by
  obtain ⟨file, listed, unit, inside, _, same⟩ := mem_unitNodes_iff.1 member
  apply mem_nodes_build_iff.2
  exact ⟨_, List.mem_flatMap.2 ⟨file, listed, List.mem_map_of_mem inside⟩, same⟩

/-- The node of a unit without a name is the identifier of its key. -/
theorem unitNodes_anonymous (maxCalls : Nat) (files : List SourceFile) :
    unitNodes maxCalls true files = files.flatMap fun file =>
      ((file.units.filter (·.isAnonymous)).map (·.key)).map
        (SourceUnit.identifierOf file.path) := by
  rw [unitNodes]
  congr 1
  funext file
  rw [List.map_map]
  simp only [beq_true]
  apply List.map_congr_left
  intro unit member
  rw [SourceUnit.nodeName_record, if_pos (List.mem_filter.1 member).2]
  rfl

theorem exists_key_of_mem_unitNodes (member : name ∈ unitNodes maxCalls true files) :
    ∃ file ∈ files, ∃ key, SourceUnit.identifierOf file.path key = name := by
  rw [unitNodes_anonymous] at member
  obtain ⟨file, listed, ofFile⟩ := List.mem_flatMap.1 member
  obtain ⟨key, _, same⟩ := List.mem_map.1 ofFile
  exact ⟨file, listed, key, same⟩

/-- Units without a name have different nodes. -/
theorem nodup_unitNodes (extracted : ∀ file ∈ files, file.IsExtracted)
    (distinct : (files.map (·.path)).Nodup) : (unitNodes maxCalls true files).Nodup := by
  have plain (file : SourceFile) (listed : file ∈ files) :
      ∀ key ∈ (file.units.filter (·.isAnonymous)).map (·.key), '#' ∉ key.toList := by
    intro key member
    obtain ⟨unit, kept, rfl⟩ := List.mem_map.1 member
    obtain ⟨inside, anonymous⟩ := List.mem_filter.1 kept
    exact ((extracted file listed).plain inside).key anonymous
  rw [unitNodes_anonymous, List.nodup_flatMap]
  constructor
  · intro file listed
    apply List.Nodup.map
    · intro first second same
      exact SourceUnit.identifierOf_inj.1 same
    · exact (extracted file listed).nodup_keys.sublist (List.filter_sublist.map _)
  · -- a path may have a `#` of its own, but the last one of a node is the one before the key
    rw [List.Nodup, List.pairwise_map] at distinct
    apply distinct.imp_of_mem
    intro file other here there apart name one two
    obtain ⟨first, ofFile, rfl⟩ := List.mem_map.1 one
    obtain ⟨second, ofOther, same⟩ := List.mem_map.1 two
    have keys := SourceUnit.identifierOf_inj_of_plain (plain other there second ofOther)
      (plain file here first ofFile) same
    exact apart keys.1.symm

/-- No call of an extracted unit leads to a unit without a name. -/
theorem not_calls_of_mem_unitNodes (extracted : ∀ file ∈ files, file.IsExtracted)
    (member : name ∈ unitNodes maxCalls true files) (caller : String) :
    ¬(build (files.flatMap (·.records maxCalls))).Calls caller name := by
  intro calls
  obtain ⟨call, ⟨record, listed, _, made⟩, resolved⟩ := calls_build_iff.1 calls
  obtain ⟨file, inFiles, ofFile⟩ := List.mem_flatMap.1 listed
  obtain ⟨unit, inside, rfl⟩ := List.mem_map.1 ofFile
  have plain := (extracted file inFiles).plain inside
  apply plain.calls call (List.mem_of_mem_take made)
  apply mem_of_mem_resolve resolved
  obtain ⟨other, _, key, rfl⟩ := exists_key_of_mem_unitNodes member
  simp [SourceUnit.identifierOf]

/-- In the call graph of extracted files with different paths and known extensions, units without a
name have nodes of their own, and nothing calls them. -/
theorem anonymous_units_stay_apart (maxCalls : Nat) {files : List SourceFile}
    (extracted : ∀ file ∈ files, file.IsExtracted)
    (tracked : ∀ file ∈ files, (Language.ofPath? file.path).isSome)
    (distinct : (files.map (·.path)).Nodup) :
    (unitNodes maxCalls true files).Nodup ∧
      (unitNodes maxCalls true files).Disjoint (unitNodes maxCalls false files) ∧
      ∀ name ∈ unitNodes maxCalls true files,
        (build (files.flatMap (·.records maxCalls))).Uncalled name := by
  refine ⟨nodup_unitNodes extracted distinct, ?_, ?_⟩
  · -- the dot of the path is in the node of the one unit, and in no name of the other
    intro name unnamed named
    obtain ⟨file, listed, unit, inside, anonymous, same⟩ := mem_unitNodes_iff.1 named
    rw [SourceUnit.nodeName_record, anonymous, if_neg Bool.false_ne_true] at same
    apply ((extracted file listed).plain inside).name anonymous
    obtain ⟨other, otherListed, key, rfl⟩ := exists_key_of_mem_unitNodes unnamed
    obtain ⟨language, known⟩ := Option.isSome_iff_exists.1 (tracked other otherListed)
    obtain ⟨extension, extended, _⟩ := Option.bind_eq_some_iff.1 known
    rw [same, SourceUnit.identifierOf]
    simp [Path.dot_mem_of_extension? extended]
  · intro name member
    exact uncalled_of_not_calls (closed_build _) (mem_nodes_of_mem_unitNodes member)
      (not_calls_of_mem_unitNodes extracted member)

/-- A function that passes on two functions without a name, the first of which calls it. -/
def callbackSource : String := "function stop() { run(() => stop(), () => 0) }"

/-- The syntax tree of `callbackSource`. -/
def callbackTree : Node :=
  let node (kind : String) (field : Option String) (start stop : Nat) (children : List Node) :
      Node :=
    ⟨kind, field, true, false, start, stop, children⟩
  let inner := node "call_expression" (some "body") 28 34
    [node "identifier" (some "function") 28 32 [], node "arguments" (some "arguments") 32 34 []]
  let first := node "arrow_function" none 22 34
    [node "formal_parameters" (some "parameters") 22 24 [], inner]
  let second := node "arrow_function" none 36 43
    [node "formal_parameters" (some "parameters") 36 38 [], node "number" (some "body") 42 43 []]
  let outer := node "call_expression" none 18 44
    [node "identifier" (some "function") 18 21 [],
     node "arguments" (some "arguments") 21 44 [first, second]]
  node "program" none 0 46
    [node "function_declaration" none 0 46
      [node "identifier" (some "name") 9 13 [],
       node "formal_parameters" (some "parameters") 13 15 [],
       node "statement_block" (some "body") 16 46
        [node "expression_statement" none 18 44 [outer]]]]

/-- The file with this function at a path. -/
def callbackFile (path : String) : SourceFile :=
  Extraction.ofTree (Grammar.ofLanguage .javascript) .sha256 path .javascript callbackSource
    callbackTree

/-- Two files that have one function and two callbacks on one line each. -/
theorem anonymous_units_stay_apart_callbacks :
    let files := [callbackFile "a.js", callbackFile "lib/b.js"]
    unitNodes 9 true files = ["a.js#1", "a.js#1@1", "lib/b.js#1", "lib/b.js#1@1"] ∧
      unitNodes 9 false files = ["stop", "stop"] ∧
      (build (files.flatMap (·.records 9))).edges = [("a.js#1", "stop"), ("lib/b.js#1", "stop")] ∧
      (unitNodes 9 true files).Nodup ∧
      (unitNodes 9 true files).Disjoint (unitNodes 9 false files) ∧
      ∀ name ∈ unitNodes 9 true files, (build (files.flatMap (·.records 9))).Uncalled name := by
  have extracted (path : String) : (callbackFile path).IsExtracted := by
    have decoded : String.fromUTF8? callbackSource.toUTF8 = some callbackSource :=
      dif_pos callbackSource.isValidUTF8
    refine ⟨fun _ _ => callbackTree, .sha256, callbackSource.toUTF8, ?_⟩
    rw [SourceFile.ofContent?, decoded]
    rfl
  refine ⟨by decide +kernel, by decide +kernel, by decide +kernel, ?_⟩
  apply anonymous_units_stay_apart
  · intro file member
    rcases List.mem_pair.1 member with rfl | rfl
    · exact extracted "a.js"
    · exact extracted "lib/b.js"
  · decide +kernel
  · decide +kernel

end CallGraph

end SourceIndex
