import SourceIndex.Proofs.Layout
import SourceIndex.Proofs.Ownership
import SourceIndex.Proofs.Pass
import SourceIndex.Proofs.Quotient

/-!
# What the similarity of sources tells

The similarity of two texts is a quotient of two counts: the positions at which their layout-free
forms agree, and the length of the longer form. The counts are the same only for texts of the same
form, so at a threshold of one a rename pairs nothing but reformatted sources.
-/

namespace SourceIndex

namespace Text

variable {a b : List Char}

/-! ## Agreeing positions -/

/-- The positions at which two texts have the same character. -/
def agreeing (a b : List Char) : List Nat :=
  (List.range (min a.length b.length)).filter fun place => a[place]? = b[place]?

theorem agreeing_cons (c d : Char) (a b : List Char) :
    agreeing (c :: a) (d :: b) = (if c = d then [0] else []) ++ (agreeing a b).map (· + 1) := by
  rw [agreeing, List.length_cons, List.length_cons, Nat.add_min_add_right, List.range_succ_eq_map,
    List.filter_cons, List.filter_map]
  split_ifs <;> simp_all [agreeing, Function.comp_def]

theorem agreements_eq_length (a b : List Char) : agreements a b = (agreeing a b).length := by
  induction a generalizing b with
  | nil => simp [agreements, agreeing]
  | cons c a ih =>
    cases b with
    | nil => simp [agreements, agreeing]
    | cons d b =>
      rw [agreements, agreeing_cons, ih]
      split_ifs <;> simp [Nat.add_comm]

theorem agreements_comm (a b : List Char) : agreements a b = agreements b a := by
  induction a generalizing b with
  | nil => cases b <;> rfl
  | cons c a ih =>
    cases b with
    | nil => rfl
    | cons d b =>
      rw [agreements, agreements, ih]
      simp only [eq_comm (a := c)]

theorem agreements_le_left (a b : List Char) : agreements a b ≤ a.length := by
  rw [agreements_eq_length]
  refine Nat.le_trans (List.length_filter_le ..) ?_
  rw [List.length_range]
  exact Nat.min_le_left ..

/-- Texts agree at as many positions as the longer one has only if they are the same. -/
theorem agreements_eq_max_iff : agreements a b = max a.length b.length ↔ a = b := by
  induction a generalizing b with
  | nil => cases b <;> simp [agreements]
  | cons c a ih =>
    cases b with
    | nil => simp [agreements]
    | cons d b =>
      have most := Nat.le_trans (agreements_le_left a b) (Nat.le_max_left a.length b.length)
      rw [agreements, List.length_cons, List.length_cons, Nat.add_max_add_right, List.cons.injEq,
        ← ih]
      split_ifs with same
      · simp only [same, true_and]
        omega
      · simp only [same, false_and, iff_false]
        omega

/-! ## The counts of two texts -/

theorem overlap_eq (text other : String) :
    overlap text other = (agreements (normalize text).toList (normalize other).toList,
      max (normalize text).toList.length (normalize other).toList.length) := rfl

theorem overlap_comm (text other : String) : overlap other text = overlap text other := by
  rw [overlap_eq, overlap_eq, agreements_comm, Nat.max_comm]

theorem fst_overlap_le (text other : String) : (overlap text other).1 ≤ (overlap text other).2 :=
  Nat.le_trans (agreements_le_left ..) (Nat.le_max_left ..)

theorem fst_overlap_eq_iff {text other : String} :
    (overlap text other).1 = (overlap text other).2 ↔ normalize text = normalize other := by
  rw [overlap_eq, agreements_eq_max_iff, String.toList_inj]

/-- The layout-free form is not longer than the text and the space that may stand before it. -/
theorem length_unlay_le (last : Option Char) (gap : Bool) (text : List Char) :
    (unlay last gap text).length ≤ text.length + gap.toNat := by
  induction text generalizing last gap with
  | nil => simp [unlay]
  | cons c rest ih =>
    rw [unlay]
    split_ifs with blank kept
    · have later := ih last true
      simp only [Bool.toNat_true] at later
      simp only [List.length_cons]
      omega
    · have later := ih (some c) false
      have apart : gap = true := by
        simp only [Bool.and_eq_true] at kept
        exact kept.1.1
      simp only [Bool.toNat_false] at later
      simp only [List.length_cons, apart, Bool.toNat_true]
      omega
    · have later := ih (some c) false
      simp only [Bool.toNat_false] at later
      simp only [List.length_cons]
      omega

/-- Two texts agree at no more positions than either has characters. -/
theorem fst_overlap_le_length (text other : String) :
    (overlap text other).1 ≤ min text.toList.length other.toList.length := by
  have first (text other : String) : (overlap text other).1 ≤ text.toList.length := by
    rw [overlap_eq]
    refine Nat.le_trans (agreements_le_left ..) ?_
    rw [normalize, String.toList_ofList]
    exact length_unlay_le none false text.toList
  have second := first other text
  rw [overlap_comm] at second
  exact Nat.le_min.2 ⟨first text other, second⟩

theorem similarity_eq (text other : String) :
    similarity text other = if (overlap text other).2 = 0 then 1.0
      else Float.ofNat (overlap text other).1 / Float.ofNat (overlap text other).2 := rfl

/-- The similarity of texts that agree at fewer than 2 ^ 53 positions reaches one only if they have
the same layout-free form. -/
theorem one_le_similarity_iff {text other : String} (small : (overlap text other).1 < 2 ^ 53) :
    1.0 ≤ similarity text other ↔ normalize text = normalize other := by
  rw [similarity_eq, ← fst_overlap_eq_iff]
  have most := fst_overlap_le text other
  split_ifs with empty
  · refine iff_of_true (by decide) ?_
    omega
  · exact Score.one_le_ofNat_div_ofNat_iff small most (Nat.pos_of_ne_zero empty)

end Text

/-! ## Renames -/

namespace UnitChanges

/-- A rename joins units whose sources are similar enough. -/
theorem scored_of_mem_pairAll {threshold : Float} {deleted : List UnitState} {offers : List Offer}
    {rename : UnitRename} (member : rename ∈ (pairAll threshold deleted offers).renamed) :
    Scored (oldSide rename) (newSide rename) rename.similarity ∧ threshold ≤ rename.similarity := by
  induction deleted generalizing offers with
  | nil => cases member
  | cons old rest ih =>
    cases found : bestFrom threshold old 0 none offers with
    | none =>
      rw [pairAll_of_none found] at member
      exact ih member
    | some best =>
      rw [pairAll_of_some found] at member
      rcases List.mem_cons.1 member with rfl | later
      · have isBest := isBest_bestFrom threshold old offers
        rw [found] at isBest
        obtain ⟨-, scored, reaches, -⟩ := highest_of_isBest isBest
        exact ⟨scored, reaches⟩
      · exact ih later

variable {file : String} {prior : Option (KeyMap Fingerprint)} {current : List UnitState}
variable {tracking : Tracking} {rename : UnitRename}

theorem of_mem_renamed (member : rename ∈ (compare file prior current tracking).renamed) :
    newSide rename ∈ current ∧ tracking.threshold ≤ rename.similarity ∧
      Scored (oldSide rename) (newSide rename) rename.similarity := by
  cases prior with
  | none => cases member
  | some prior =>
    rw [compare] at member
    split_ifs at member
    case pos =>
      have fresh : newSide rename ∈ (classify file prior current).added := by
        have all :=
          (perm_matchRenames_added tracking.threshold (classify file prior current)).subset
        have listed := all (List.mem_append_right _ (List.mem_map_of_mem member))
        simpa [classify] using listed
      have paired := scored_of_mem_pairAll (by simpa [matchRenames, classify] using member)
      exact ⟨(List.mem_filter.1 fresh).1, paired.2, paired.1⟩
    case neg => cases member

/-- At a threshold of one, a rename joins sources that differ in nothing but their layout, unless
both are too long for their positions to be counted by floats. -/
theorem reformats_of_mem_renamed (threshold : tracking.threshold = 1.0)
    (member : rename ∈ (compare file prior current tracking).renamed) :
    ∃ old new, rename.old.source = some old ∧ rename.new.source = some new ∧
      (min old.toList.length new.toList.length < 2 ^ 53 →
        Text.Reformats old.toList new.toList) := by
  obtain ⟨-, reaches, old, new, isOld, isNew, scored⟩ := of_mem_renamed member
  refine ⟨old, new, isOld, isNew, fun small => ?_⟩
  have few := Nat.lt_of_le_of_lt (Text.fst_overlap_le_length old new) small
  rw [threshold, ← scored, Text.one_le_similarity_iff few] at reaches
  exact Text.normalize_eq_iff.1 reaches

end UnitChanges

/-! ## Sources of units -/

/-- A text has no more characters than bytes. -/
theorem Text.length_le_size (text : String) : text.toList.length ≤ text.toUTF8.size := by
  have encoded (chars : List Char) : chars.length ≤ chars.utf8Encode.size := by
    induction chars with
    | nil => simp
    | cons c chars ih =>
      have first : 0 < [c].utf8Encode.size := by
        rw [List.utf8Encode_singleton, List.size_toByteArray, String.length_utf8EncodeChar]
        exact c.utf8Size_pos
      rw [List.utf8Encode_cons, ByteArray.size_append, List.length_cons]
      omega
  have bytes := encoded text.toList
  rwa [String.utf8Encode_toList] at bytes

theorem Node.length_text?_le {node : Node} {source text : String}
    (found : node.text? source = some text) : text.toList.length ≤ node.stop := by
  rw [Node.text?, String.fromUTF8?] at found
  split at found
  case isTrue valid =>
    cases found
    refine Nat.le_trans (Text.length_le_size _) ?_
    change (source.toUTF8.extract node.start node.stop).size ≤ _
    rw [ByteArray.size_extract]
    omega
  case isFalse => cases found

/-- The positions in the trees of a parser are words of 32 bits. -/
def Parser.Narrow (parser : Parser) : Prop :=
  ∀ language source place node, (parser language source).at? place = some node →
    node.stop < UInt32.size

theorem Extraction.texts_eq {grammar : Grammar} {source : String} {root : Node}
    {units : List SourceUnit} {spots : List Spot}
    (described : List.Forall₂ (Describes grammar source root) spots units) :
    units.map (·.source) = spots.map fun spot => (spot.node.text? source).getD "" := by
  induction described with
  | nil => rfl
  | cons here others ih => rw [List.map_cons, List.map_cons, ih, here.text]

namespace SourceFile

/-- The source of a unit is the text of a node. -/
theorem exists_node_of_mem {parser : Parser} {digest : Digest} {path : String} {language : Language}
    {content : ByteArray} {file : SourceFile}
    (read : ofContent? parser digest path language content = some file) {unit : SourceUnit}
    (member : unit ∈ file.units) :
    ∃ source place node, (parser language source).at? place = some node ∧
      unit.source = (node.text? source).getD "" := by
  obtain ⟨source, -, rfl⟩ := Option.map_eq_some_iff.1 read
  let grammar := Grammar.ofLanguage language
  let root := parser language source
  have apart : Extraction.CallsApart grammar := Extraction.callsApart_ofLanguage language
  have described := Extraction.forall₂_finishAll apart source digest
    (List.nil_append (Extraction.unitSpots grammar root)).symm []
  rw [← Extraction.drafts_findings apart] at described
  have texts : unit.source ∈ (Extraction.unitSpots grammar root).map fun spot =>
      (spot.node.text? source).getD "" :=
    Extraction.texts_eq described ▸ List.mem_map_of_mem member
  obtain ⟨spot, listed, same⟩ := List.mem_map.1 texts
  exact ⟨source, spot.place, spot.node, Node.mem_spots_iff.1 (List.mem_filter.1 listed).1,
    same.symm⟩

theorem length_source_lt {parser : Parser} (narrow : parser.Narrow) {digest : Digest}
    {path : String} {language : Language} {content : ByteArray} {file : SourceFile}
    (read : ofContent? parser digest path language content = some file) {unit : SourceUnit}
    (member : unit ∈ file.units) : unit.source.toList.length < UInt32.size := by
  obtain ⟨source, place, node, found, same⟩ := exists_node_of_mem read member
  rw [same]
  cases text : node.text? source with
  | none => exact (by decide : 0 < UInt32.size)
  | some text' =>
    exact Nat.lt_of_le_of_lt (Node.length_text?_le text) (narrow language source place node found)

end SourceFile

namespace Pass

theorem renames_advance (input : Input) (baseline : Option Baseline) :
    (advance input baseline (input.changes baseline)).summary.renames =
      ((updates input baseline).filterMap (·.changes)).flatMap (·.renamed) := by
  rw [updates, List.filterMap_map]
  rfl

theorem mem_renames_advance {input : Input} {baseline : Option Baseline} {rename : UnitRename}
    (member : rename ∈ (run input baseline).summary.renames) :
    rename ∈ (advance input baseline (input.changes baseline)).summary.renames := by
  cases baseline with
  | none => exact member
  | some state =>
    rw [run_some] at member
    split_ifs at member
    case pos => cases member
    case neg => exact member

/-- A rename that a pass reports comes from the comparison of the units of a file. -/
theorem exists_compare_of_mem_renames {input : Input} {baseline : Option Baseline}
    {rename : UnitRename} (member : rename ∈ (run input baseline).summary.renames) :
    ∃ path language content file prior, SourceFile.ofContent? input.parser
        input.config.tracking.digest path language content = some file ∧
      rename ∈ (UnitChanges.compare file.path prior
        (file.states input.config.tracking.retainsSource) input.config.tracking).renamed := by
  have advanced := mem_renames_advance member
  rw [renames_advance] at advanced
  obtain ⟨changes, listed, renamed⟩ := List.mem_flatMap.1 advanced
  obtain ⟨update, found, compared⟩ := List.mem_filterMap.1 listed
  obtain ⟨source, analysis, -, -, analyzed, rfl⟩ := mem_updates_iff.1 found
  obtain ⟨file, read, -, updated⟩ := FileAnalysis.exists_file_of_ofSource? analyzed
  rw [updated] at compared
  cases granularity : input.config.granularity with
  | file =>
    rw [FileAnalysis.derive_of_file granularity] at compared
    cases compared
  | unit =>
    rw [FileAnalysis.derive_of_unit granularity, FileAnalysis.deriveUnits_eq] at compared
    cases compared
    exact ⟨_, _, _, file, _, read, renamed⟩

/-- At a threshold of one, a pass over trees with positions of 32 bits reports no rename but of
units whose sources differ in nothing but their layout. -/
theorem reformats_of_mem_renames {input : Input} (narrow : input.parser.Narrow)
    (threshold : input.config.tracking.threshold = 1.0) {baseline : Option Baseline}
    {rename : UnitRename} (member : rename ∈ (run input baseline).summary.renames) :
    ∃ old new, rename.old.source = some old ∧ rename.new.source = some new ∧
      Text.Reformats old.toList new.toList := by
  obtain ⟨_, _, _, file, _, read, renamed⟩ := exists_compare_of_mem_renames member
  obtain ⟨old, new, isOld, isNew, reformats⟩ :=
    UnitChanges.reformats_of_mem_renamed threshold renamed
  refine ⟨old, new, isOld, isNew, reformats ?_⟩
  obtain ⟨unit, listed, same⟩ := List.mem_map.1 (UnitChanges.of_mem_renamed renamed).1
  have kept : unit.source = new := by
    have fingerprint :
        unit.fingerprint input.config.tracking.retainsSource file.path = rename.new :=
      congrArg UnitState.fingerprint same
    rw [← fingerprint, SourceUnit.fingerprint, Option.ite_none_right_eq_some] at isNew
    exact Option.some.inj isNew.2
  have short := SourceFile.length_source_lt narrow read (List.mem_filter.1 listed).1
  rw [kept] at short
  have size : UInt32.size = 4294967296 := rfl
  omega

end Pass

namespace Text

/-- The counts whose quotient is the similarity of two texts: the positions at which their
layout-free forms agree, and the length of the longer form. -/
structure Counts (text other : String) (matching longest : Nat) : Prop where
  matching_eq : matching = (agreeing (normalize text).toList (normalize other).toList).length
  longest_eq : longest = max (normalize text).toList.length (normalize other).toList.length
  quotient : similarity text other =
    if longest = 0 then 1.0 else Float.ofNat matching / Float.ofNat longest

theorem counts_overlap (text other : String) :
    Counts text other (overlap text other).1 (overlap text other).2 where
  matching_eq := agreements_eq_length ..
  longest_eq := rfl
  quotient := similarity_eq text other

theorem overlap_congr {text text' other other' : String} (same : normalize text' = normalize text)
    (also : normalize other' = normalize other) : overlap text' other' = overlap text other := by
  rw [overlap_eq, overlap_eq, same, also]

/-- The similarity of two texts tells layout from content. Of the counts whose quotient it is, the
first is at most the second, and they are the same exactly if the texts have the same layout-free
form. They stay if the texts change places or change their layout. At a threshold of one, the
sources of a renamed unit thus differ in nothing but their layout, unless both have 2 ^ 53
characters or more, where different counts can be the same float. No unit of a tree with positions
of 32 bits is as long. -/
theorem similarity_tells_layout_from_content :
    (∀ text other, ∃ matching longest, Counts text other matching longest ∧ matching ≤ longest ∧
      Counts other text matching longest ∧
      (∀ text' other', normalize text' = normalize text → normalize other' = normalize other →
        Counts text' other' matching longest) ∧
      (matching = longest ↔ normalize text = normalize other)) ∧
    (∀ file prior current tracking rename, tracking.threshold = 1.0 →
      rename ∈ (UnitChanges.compare file prior current tracking).renamed →
      ∃ old new, rename.old.source = some old ∧ rename.new.source = some new ∧
        (min old.toList.length new.toList.length < 2 ^ 53 → Reformats old.toList new.toList)) ∧
    ∀ (input : Pass.Input) (baseline : Option Baseline) (rename : UnitRename), input.parser.Narrow →
      input.config.tracking.threshold = 1.0 → rename ∈ (Pass.run input baseline).summary.renames →
      ∃ old new, rename.old.source = some old ∧ rename.new.source = some new ∧
        Reformats old.toList new.toList := by
  refine ⟨fun text other => ?_, ?_, ?_⟩
  · refine ⟨_, _, counts_overlap text other, fst_overlap_le text other, ?_, ?_, fst_overlap_eq_iff⟩
    · rw [← overlap_comm]
      exact counts_overlap other text
    · intro text' other' same also
      rw [← overlap_congr same also]
      exact counts_overlap text' other'
  · intro file prior current tracking rename threshold member
    exact UnitChanges.reformats_of_mem_renamed threshold member
  · intro input baseline rename narrow threshold member
    exact Pass.reformats_of_mem_renames narrow threshold member

/-! ## A method that moves to another class -/

/-- The syntax tree of a class with a method whose body starts at a position. -/
def methodTree (start : Nat) : Node :=
  let node (kind : String) (field : Option String) (start stop : Nat) (children : List Node) :
      Node :=
    ⟨kind, field, true, false, start, stop, children⟩
  let method := node "function_definition" none 10 (start + 4)
    [node "identifier" (some "name") 14 15 [], node "parameters" (some "parameters") 15 17 [],
     node "block" (some "body") start (start + 4) [node "pass_statement" none start (start + 4) []]]
  node "module" none 0 (start + 5)
    [node "class_definition" none 0 (start + 4)
      [node "identifier" (some "name") 6 7 [], node "block" (some "body") 10 (start + 4) [method]]]

/-- The source before the move. -/
def formerSource : String := "class A:\n def f():\n  pass\n"

/-- The source after the move, with the method on one line. -/
def latterSource : String := "class B:\n def f(): pass\n"

/-- A pass over one of these sources that looks for renames at a threshold of one. -/
def movedInput (source : String) : Pass.Input where
  parser _ text := methodTree (if text = formerSource then 21 else 19)
  config := { granularity := .unit, tracking := { detectRenames := true, threshold := 1.0 } }
  now := Instant.ofUnix 0 0
  sources := [⟨"a.py", .python, source.toUTF8, none⟩]

/-- The renames that are found after the move. -/
def movedRenames : List UnitRename :=
  let state := (Pass.run (movedInput formerSource) none).next
  (Pass.run (movedInput latterSource) state).summary.renames

theorem narrow_movedInput (source : String) : (movedInput source).parser.Narrow := by
  have narrow : ∀ start ∈ [19, 21], ∀ spot ∈ (methodTree start).spots [],
      spot.node.stop < UInt32.size := by decide
  intro language text place node found
  have listed : ⟨place, node⟩ ∈ (methodTree (if text = formerSource then 21 else 19)).spots [] :=
    Node.mem_spots_iff.2 found
  refine narrow _ ?_ _ listed
  split_ifs <;> decide

/-- The units of a file of which one was given another name and layout. -/
def relaidChanges : UnitChanges :=
  let unit (name source : String) : UnitState := ⟨name, ⟨name, "", 1, 1, 0, false, some source⟩⟩
  let old := unit "old" "go( a )"
  .compare "a.js" (some (KeyMap.ofList [(old.name, old.fingerprint)])) [unit "new" "go(a)"]
    { detectRenames := true, threshold := 1.0 }

theorem exists_of_sources_eq {renames : List UnitRename} {old new : String}
    (found : renames.map (fun rename => (rename.old.source, rename.new.source)) =
      [(some old, some new)]) :
    ∃ rename ∈ renames, rename.old.source = some old ∧ rename.new.source = some new := by
  have listed : (some old, some new) ∈
      renames.map fun rename => (rename.old.source, rename.new.source) := by
    rw [found]
    exact List.mem_cons_self ..
  obtain ⟨rename, member, same⟩ := List.mem_map.1 listed
  exact ⟨rename, member, Prod.mk.inj same⟩

theorem similarity_tells_layout_from_content_moved :
    (movedInput latterSource).parser.Narrow ∧
    (movedInput latterSource).config.tracking.threshold = 1.0 ∧
    movedRenames.map (fun rename => (rename.old.source, rename.new.source)) =
      [(some "def f():\n  pass", some "def f(): pass")] ∧
    relaidChanges.renamed.map (fun rename => (rename.old.source, rename.new.source)) =
      [(some "go( a )", some "go(a)")] ∧
    Reformats "def f():\n  pass".toList "def f(): pass".toList ∧
    Reformats "go( a )".toList "go(a)".toList := by
  have narrow := narrow_movedInput latterSource
  have moved : movedRenames.map (fun rename => (rename.old.source, rename.new.source)) =
      [(some "def f():\n  pass", some "def f(): pass")] := by decide +kernel
  have relaid : relaidChanges.renamed.map (fun rename => (rename.old.source, rename.new.source)) =
      [(some "go( a )", some "go(a)")] := by decide +kernel
  obtain ⟨-, compared, passed⟩ := similarity_tells_layout_from_content
  refine ⟨narrow, rfl, moved, relaid, ?_, ?_⟩
  · obtain ⟨rename, member, isOld, isNew⟩ := exists_of_sources_eq moved
    obtain ⟨old, new, sameOld, sameNew, reformats⟩ := passed _ _ rename narrow rfl member
    cases isOld.symm.trans sameOld
    cases isNew.symm.trans sameNew
    exact reformats
  · obtain ⟨rename, member, isOld, isNew⟩ := exists_of_sources_eq relaid
    obtain ⟨old, new, sameOld, sameNew, reformats⟩ := compared _ _ _ _ rename rfl member
    cases isOld.symm.trans sameOld
    cases isNew.symm.trans sameNew
    exact reformats (by decide +kernel)

end Text

end SourceIndex
