import SourceIndex.Proofs.Anonymous

/-!
# Units that call themselves

A record says of a unit that it is recursive if the last segment of one of its calls is the name of
the unit. The call graph of the record alone has an edge from the node of the unit to itself under
nearly the same condition: for the graph an arrow separates segments too, and for the pattern it
does not.
-/

namespace SourceIndex

namespace CallGraph

variable {record : Record}

/-- The only node of the call graph of one record leads to itself by a call of its name, or by one
of which the name is the last segment. -/
theorem calls_self_iff :
    (build [record]).Calls record.nodeName record.nodeName ↔ ∃ call ∈ record.calls,
      call = record.nodeName ∨ record.nodeName ≠ "" ∧ lastSegment call = record.nodeName := by
  have node : (build [record]).nodes = [record.nodeName] := rfl
  have leads (call : String) : resolve [record.nodeName] call = some record.nodeName ↔
      call = record.nodeName ∨ record.nodeName ≠ "" ∧ lastSegment call = record.nodeName := by
    by_cases same : call = record.nodeName
    · simp [resolve, same]
    · constructor
      · intro resolved
        obtain ⟨_, whole | segment⟩ := resolve_eq_some resolved
        · exact absurd whole.symm same
        · rw [resolve, if_neg (by simpa using same), Option.ite_none_right_eq_some] at resolved
          exact .inr ⟨segment ▸ resolved.1.1, segment.symm⟩
      · intro either
        obtain ⟨nonempty, segment⟩ := either.resolve_left same
        rw [resolve, if_neg (by simpa using same), segment]
        simp [nonempty, Ne.symm same]
  rw [calls_build_iff, node]
  constructor
  · rintro ⟨call, ⟨other, listed, _, made⟩, resolved⟩
    cases List.mem_singleton.1 listed
    exact ⟨call, made, (leads call).1 resolved⟩
  · rintro ⟨call, made, either⟩
    exact ⟨call, ⟨record, List.mem_singleton.2 rfl, rfl, made⟩, (leads call).2 either⟩

/-- The call graph of one record has a cycle only by a call of the unit to itself. -/
theorem cycles_build_singleton_ne_nil_iff :
    (build [record]).cycles ≠ [] ↔ (build [record]).Calls record.nodeName record.nodeName := by
  have only {caller callee : String} (calls : (build [record]).Calls caller callee) :
      caller = record.nodeName ∧ callee = record.nodeName := by
    obtain ⟨call, ⟨other, listed, same, _⟩, resolved⟩ := calls_build_iff.1 calls
    cases List.mem_singleton.1 listed
    exact ⟨same.symm, List.mem_singleton.1 (resolve_eq_some resolved).1⟩
  rw [Ne, cycles_eq_nil_iff (closed_build _)]
  constructor
  · intro around
    simp only [not_forall, Classical.not_not] at around
    obtain ⟨name, leads⟩ := around
    obtain ⟨caller, _, last⟩ := Relation.TransGen.tail'_iff.1 leads
    obtain ⟨rfl, rfl⟩ := only last
    exact last
  · intro calls acyclic
    exact acyclic record.nodeName (.single calls)

end CallGraph

/-! ## The pattern -/

namespace SourceUnit

variable {unit : SourceUnit} {file : SourceFile} {maxCalls : Nat}

theorem recursive_mem_patterns_iff (named : unit.isAnonymous = false) :
    "recursive" ∈ unit.patterns ↔ ∃ call ∈ unit.calls,
      Text.afterLast (fun c => c == '.' || c == ':') call.toList = unit.name.toList := by
  have shown : "recursive" ∈ unit.patterns ↔ unit.isRecursive = true := by
    rw [patterns]
    cases unit.isRecursive <;> cases unit.isDelegate <;> decide
  simp [shown, isRecursive, named, ← String.toList_inj]

/-- A name is the last segment of a call, where `marks` separate the segments. -/
structure IsSegment (marks : List Char) (name call : String) : Prop where
  plain : ∀ mark ∈ marks, mark ∉ name.toList
  ends : call = name ∨ ∃ mark ∈ marks, (mark :: name.toList) <:+ call.toList

theorem isSegment_iff {marks : List Char} {isMark : Char → Bool}
    (same : ∀ c, isMark c = true ↔ c ∈ marks) {name call : String} :
    Text.afterLast isMark call.toList = name.toList ↔ IsSegment marks name call := by
  have plain : (∀ c ∈ name.toList, isMark c = false) ↔ ∀ mark ∈ marks, mark ∉ name.toList := by
    simp only [← Bool.not_eq_true, same]
    exact ⟨fun none mark listed member => none mark member listed,
      fun none c member listed => none c listed member⟩
  rw [Text.afterLast_eq_iff, plain]
  simp only [same, String.toList_inj]
  exact ⟨fun ⟨plain, ends⟩ => ⟨plain, ends⟩, fun ⟨plain, ends⟩ => ⟨plain, ends⟩⟩

/-- Without an arrow in front of the name, the segments for the graph and for the pattern agree. -/
theorem isSegment_arrow_iff {name call : String} (arrow : '>' ∉ name.toList)
    (direct : ¬('>' :: name.toList) <:+ call.toList) :
    IsSegment ['.', ':', '>'] name call ↔ IsSegment ['.', ':'] name call := by
  have more {mark : Char} (listed : mark ∈ ['.', ':']) : mark ∈ ['.', ':', '>'] :=
    List.mem_append_left ['>'] listed
  constructor
  · rintro ⟨plain, ends⟩
    refine ⟨fun mark listed => plain mark (more listed), ends.imp_right ?_⟩
    rintro ⟨mark, listed, behind⟩
    refine ⟨mark, ?_, behind⟩
    have notArrow : mark ≠ '>' := fun same => direct (same ▸ behind)
    simpa [notArrow] using listed
  · rintro ⟨plain, ends⟩
    refine ⟨?_, ends.imp_right fun ⟨mark, listed, behind⟩ => ⟨mark, more listed, behind⟩⟩
    simpa [arrow] using plain

open CallGraph

/-- What makes a named unit of an extracted file call itself in the call graph of its record, and
what makes the record say that it is recursive. They differ in the arrow, which separates segments
for the graph only, and in calls that are the name as a whole: the pattern looks for a segment then
as well. So they agree if the name is not empty and has no separators, and no call has it behind an
arrow. The graph has a cycle exactly if the unit calls itself. -/
theorem recursive_is_self_call (extracted : file.IsExtracted) (member : unit ∈ file.units)
    (named : unit.isAnonymous = false) (few : unit.calls.length ≤ maxCalls) :
    let record := unit.record maxCalls file
    let callsItself := (build [record]).Calls record.nodeName record.nodeName
    (callsItself ↔ (build [record]).cycles ≠ []) ∧
      (callsItself ↔ ∃ call ∈ unit.calls, call = unit.name ∨
        unit.name ≠ "" ∧ IsSegment ['.', ':', '>'] unit.name call) ∧
      ("recursive" ∈ record.patterns ↔ ∃ call ∈ unit.calls, IsSegment ['.', ':'] unit.name call) ∧
      (unit.name ≠ "" → ':' ∉ unit.name.toList → '>' ∉ unit.name.toList →
        (∀ call ∈ unit.calls, ¬('>' :: unit.name.toList) <:+ call.toList) →
        ("recursive" ∈ record.patterns ↔ callsItself)) := by
  intro record callsItself
  have node : record.nodeName = unit.name := by
    rw [nodeName_record, named, if_neg Bool.false_ne_true]
  have calls : record.calls = unit.calls := List.take_of_length_le few
  have itself : callsItself ↔ ∃ call ∈ unit.calls, call = unit.name ∨
      unit.name ≠ "" ∧ IsSegment ['.', ':', '>'] unit.name call := by
    have segment (call : String) :
        lastSegment call = unit.name ↔ IsSegment ['.', ':', '>'] unit.name call := by
      rw [lastSegment, ← String.toList_inj, String.toList_ofList]
      exact isSegment_iff (by simp [or_assoc])
    simp only [callsItself, calls_self_iff, calls, node, segment]
  have pattern : "recursive" ∈ record.patterns ↔
      ∃ call ∈ unit.calls, IsSegment ['.', ':'] unit.name call := by
    have segment (call : String) :
        Text.afterLast (fun c => c == '.' || c == ':') call.toList = unit.name.toList ↔
          IsSegment ['.', ':'] unit.name call := isSegment_iff (by simp)
    simp only [← segment]
    exact recursive_mem_patterns_iff named
  refine ⟨cycles_build_singleton_ne_nil_iff.symm, itself, pattern, ?_⟩
  intro nonempty colon arrow direct
  have dot := (extracted.plain member).name named
  have whole : IsSegment ['.', ':'] unit.name unit.name := ⟨by simp [dot, colon], .inl rfl⟩
  rw [pattern, itself]
  apply exists_congr
  intro call
  apply and_congr_right
  intro made
  rw [isSegment_arrow_iff arrow (direct call made)]
  constructor
  · exact fun segment => .inr ⟨nonempty, segment⟩
  · rintro (rfl | ⟨-, segment⟩)
    · exact whole
    · exact segment

/-! ## A method that calls itself -/

/-- A method that calls what ten characters name. -/
def methodSource (callee : String) : String :=
  "void Tree::walk() \x7b\n  " ++ callee ++ "();\n\x7d\n"

/-- The syntax tree of `methodSource`. -/
def methodTree : Node :=
  let node (kind : String) (field : Option String) (start stop : Nat) (children : List Node) :
      Node :=
    ⟨kind, field, true, false, start, stop, children⟩
  let declarator := node "function_declarator" (some "declarator") 5 17
    [node "qualified_identifier" (some "declarator") 5 15 [],
     node "parameter_list" (some "parameters") 15 17 []]
  let call := node "call_expression" none 22 34
    [node "field_expression" (some "function") 22 32 [],
     node "argument_list" (some "arguments") 32 34 []]
  node "translation_unit" none 0 38
    [node "function_definition" none 0 37
      [node "primitive_type" (some "type") 0 4 [], declarator,
       node "compound_statement" (some "body") 18 37
        [node "expression_statement" none 22 35 [call]]]]

/-- The file with this method. -/
def methodFile (callee : String) : SourceFile :=
  Extraction.ofTree (Grammar.ofLanguage .cpp) .sha256 "a.cpp" .cpp (methodSource callee) methodTree

theorem isExtracted_methodFile (callee : String) : (methodFile callee).IsExtracted := by
  have decoded : String.fromUTF8? (methodSource callee).toUTF8 = some (methodSource callee) :=
    dif_pos (methodSource callee).isValidUTF8
  refine ⟨fun _ _ => methodTree, .sha256, (methodSource callee).toUTF8, ?_⟩
  simp only [SourceFile.ofContent?, methodFile, Extraction.ofTree]
  rw [decoded]
  rfl

/-- A method that calls itself by its qualified name: the pattern and the graph agree. -/
theorem recursive_is_self_call_qualified : ∃ unit ∈ (methodFile "Tree::walk").units,
    unit.name = "walk" ∧ unit.calls = ["Tree::walk"] ∧ unit.isAnonymous = false ∧
      let record := unit.record 50 (methodFile "Tree::walk")
      "recursive" ∈ record.patterns ∧
        (build [record]).Calls record.nodeName record.nodeName ∧ (build [record]).cycles ≠ [] := by
  have shape : (methodFile "Tree::walk").units.map
      (fun unit => (unit.name, unit.calls, unit.isAnonymous, unit.isRecursive)) =
        [("walk", ["Tree::walk"], false, true)] := by decide +kernel
  obtain ⟨unit, listed, fields⟩ := List.map_eq_singleton_iff.1 shape
  simp only [Prod.mk.injEq] at fields
  obtain ⟨name, calls, named, recursive⟩ := fields
  have member : unit ∈ (methodFile "Tree::walk").units := listed ▸ List.mem_singleton.2 rfl
  have plain : unit.name ≠ "" ∧ ':' ∉ unit.name.toList ∧ '>' ∉ unit.name.toList := by
    rw [name]
    decide
  have pattern : "recursive" ∈ (unit.record 50 (methodFile "Tree::walk")).patterns := by
    simp [record, patterns, recursive]
  have few : unit.calls.length ≤ 50 := by simp [calls]
  have direct : ∀ call ∈ unit.calls, ¬('>' :: unit.name.toList) <:+ call.toList := by
    rw [name, calls]
    decide
  obtain ⟨cycle, -, -, agrees⟩ :=
    recursive_is_self_call (isExtracted_methodFile "Tree::walk") member named few
  have calling := (agrees plain.1 plain.2.1 plain.2.2 direct).1 pattern
  exact ⟨unit, member, name, calls, named, pattern, calling, cycle.1 calling⟩

/-- A method that calls itself through an arrow: the graph has the call and a cycle, and the record
does not say that the method is recursive. -/
theorem arrow_call_is_not_recursive : ∃ unit ∈ (methodFile "this->walk").units,
    unit.isAnonymous = false ∧ unit.calls.length ≤ 50 ∧
      "recursive" ∉ (unit.record 50 (methodFile "this->walk")).patterns ∧
      (unit.record 50 (methodFile "this->walk")).nodeName = "walk" ∧
      (build [unit.record 50 (methodFile "this->walk")]).Calls "walk" "walk" ∧
      (build [unit.record 50 (methodFile "this->walk")]).cycles = [["walk", "walk"]] := by
  decide +kernel

end SourceUnit

end SourceIndex
