import SourceIndex.Proofs.Order
import SourceIndex.Walk

/-!
# Layers of a walk

A walk that reads folders from a queue finds the files of a tree layer by layer: first the files of
the root, then those one folder deeper, and so on. The layers of a folder are composed of those of
its entries, so that what a walk finds can be told entry by entry.
-/

namespace SourceIndex.Walk

/-! ## Layers -/

section Layers

variable {α : Type}

/-- Layers side by side. -/
def beside : List (List α) → List (List α) → List (List α)
  | [], second => second
  | layer :: first, [] => layer :: first
  | layer :: first, other :: second => (layer ++ other) :: beside first second

@[simp] theorem beside_nil (layers : List (List α)) : beside layers [] = layers := by
  cases layers <;> rfl

theorem beside_assoc (first second third : List (List α)) :
    beside (beside first second) third = beside first (beside second third) := by
  induction first generalizing second third with
  | nil => rfl
  | cons layer first ih =>
    cases second with
    | nil => rfl
    | cons other second =>
      cases third with
      | nil => rfl
      | cons last third => simp only [beside, ih, List.append_assoc]

/-- The first layer comes first. -/
theorem flatten_cons_beside (layer : List α) (first second : List (List α)) :
    (beside (layer :: first) second).flatten = layer ++ (beside ([] :: first) second).flatten := by
  cases second <;> simp [beside]

/-- An empty first layer adds nothing. -/
theorem flatten_beside_empty (layers : List (List α)) :
    (beside [[]] layers).flatten = layers.flatten := by
  cases layers <;> rfl

theorem perm_flatten_beside (first second : List (List α)) :
    (beside first second).flatten.Perm (first.flatten ++ second.flatten) := by
  induction first generalizing second with
  | nil => exact .refl _
  | cons layer first ih =>
    cases second with
    | nil => rw [beside_nil, List.flatten_nil, List.append_nil]
    | cons other second =>
      simp only [beside, List.flatten_cons, List.append_assoc]
      apply List.Perm.append_left
      apply ((ih second).append_left other).trans
      exact List.perm_append_comm_assoc ..

theorem mem_flatten_beside {item : α} {first second : List (List α)} :
    item ∈ (beside first second).flatten ↔ item ∈ first.flatten ∨ item ∈ second.flatten := by
  rw [(perm_flatten_beside first second).mem_iff, List.mem_append]

end Layers

/-! ## Layers of folders -/

mutual

/-- The files of an entry of a folder, by their depth in it. -/
def nodeLayers (filter : Filter) (above : List String) (name : String) :
    DiskNode → List (List WalkedFile)
  | .file file => ((filter.tracked? above name file).map fun walked => [walked]).toList
  | .link _ => []
  | .folder entries =>
    if filter.enters above name then [] :: folderLayers filter (above ++ [name]) entries else []

/-- The files of a folder, by their depth. -/
def folderLayers (filter : Filter) (above : List String) :
    List (String × DiskNode) → List (List WalkedFile)
  | [] => [[]]
  | (name, node) :: rest =>
    beside (nodeLayers filter above name node) (folderLayers filter above rest)

end

variable (filter : Filter)

/-- A file is tracked if it is seen, in a known language, not ignored and not too large. -/
theorem tracked?_eq_some_iff {above : List String} {name : String} {file : DiskFile}
    {walked : WalkedFile} :
    filter.tracked? above name file = some walked ↔
      walked.file = file ∧ walked.path = Path.key (above ++ [name]) ∧
      Language.ofPath? walked.path = some walked.language ∧ filter.sees above name = true ∧
      filter.ignored (above ++ [name]) false = false ∧ file.content.size ≤ filter.maxFileSize := by
  obtain ⟨path, language, held⟩ := walked
  rw [Filter.tracked?]
  cases known : Language.ofPath? (Path.key (above ++ [name])) with
  | none => grind
  | some _ => grind

theorem mem_nodeLayers_iff {above : List String} {name : String} {node : DiskNode}
    {walked : WalkedFile} :
    walked ∈ (nodeLayers filter above name node).flatten ↔
      (∃ file, node = .file file ∧ filter.tracked? above name file = some walked) ∨
      ∃ inside, node = .folder inside ∧ filter.enters above name = true ∧
        walked ∈ (folderLayers filter (above ++ [name]) inside).flatten := by
  cases node with
  | file file =>
    rw [nodeLayers]
    cases found : filter.tracked? above name file with
    | none => simp [found]
    | some tracked => simp [found, eq_comm (a := walked)]
  | link target => simp [nodeLayers]
  | folder inside =>
    rw [nodeLayers]
    split
    case isTrue entered => simp [entered]
    case isFalse left => simp [left]

/-- The files of the folders of a queue, by their depth. -/
def queueLayers : List Unread → List (List WalkedFile)
  | [] => []
  | folder :: queue => beside (folderLayers filter folder.above folder.entries) (queueLayers queue)

theorem queueLayers_append (first second : List Unread) :
    queueLayers filter (first ++ second) =
      beside (queueLayers filter first) (queueLayers filter second) := by
  induction first with
  | nil => rfl
  | cons folder first ih => rw [List.cons_append, queueLayers, queueLayers, ih, beside_assoc]

/-- The first layer of a folder holds the files that it lists, and the others are those of the
folders that it lists. -/
theorem folderLayers_eq (above : List String) (entries : Folder) :
    folderLayers filter above entries =
      filter.filesOf ⟨above, entries⟩ ::
        queueLayers filter (filter.foldersOf ⟨above, entries⟩) := by
  induction entries with
  | nil => rfl
  | cons entry rest ih =>
    obtain ⟨name, node⟩ := entry
    rw [folderLayers, ih]
    cases node with
    | file file =>
      rw [nodeLayers]
      cases found : filter.tracked? above name file with
      | none => simp [beside, Filter.filesOf, Filter.foldersOf, found]
      | some walked => simp [beside, Filter.filesOf, Filter.foldersOf, found]
    | link target => rfl
    | folder entries =>
      rw [nodeLayers]
      by_cases entered : filter.enters above name = true
      · simp [beside, Filter.filesOf, Filter.foldersOf, entered, queueLayers]
      · simp [beside, Filter.filesOf, Filter.foldersOf, entered]

/-! ## Reading a queue -/

/-- The number of folders of a queue, with those below them. -/
def queueCount : List Unread → Nat
  | [] => 0
  | folder :: queue => folderCountAll folder.entries + 1 + queueCount queue

theorem queueCount_append (first second : List Unread) :
    queueCount (first ++ second) = queueCount first + queueCount second := by
  induction first with
  | nil => exact (Nat.zero_add _).symm
  | cons folder first ih => simp only [List.cons_append, queueCount, ih]; omega

theorem queueCount_foldersOf_le (folder : Unread) :
    queueCount (filter.foldersOf folder) ≤ folderCountAll folder.entries := by
  obtain ⟨above, entries⟩ := folder
  induction entries with
  | nil => exact Nat.le_refl 0
  | cons entry rest ih =>
    obtain ⟨name, node⟩ := entry
    cases node with
    | file file => simpa [Filter.foldersOf, folderCountAll, folderCount] using ih
    | link target => simpa [Filter.foldersOf, folderCountAll, folderCount] using ih
    | folder entries =>
      by_cases entered : filter.enters above name = true
      · simp [Filter.foldersOf, folderCountAll, folderCount, entered, queueCount] at ih ⊢
        omega
      · simp [Filter.foldersOf, folderCountAll, folderCount, entered] at ih ⊢
        omega

/-- A queue holds the rest of one layer and the part of the next that was already found. Reading it
gives the files of both, layer by layer. -/
theorem readAll?_eq {bound : Nat} {current next : List Unread}
    (enough : queueCount (current ++ next) ≤ bound) (found : List WalkedFile) :
    filter.readAll? bound (current ++ next) found =
      some (found ++
        (beside ([] :: queueLayers filter next) (queueLayers filter current)).flatten) := by
  induction bound generalizing current next found with
  | zero =>
    have empty : current ++ next = [] := by
      cases queued : current ++ next with
      | nil => rfl
      | cons folder queue => rw [queued, queueCount] at enough; omega
    obtain ⟨rfl, rfl⟩ := List.append_eq_nil_iff.1 empty
    simp [Filter.readAll?, queueLayers]
  | succ bound ih =>
    have step (folder : Unread) (current next : List Unread)
        (enough : queueCount (folder :: current ++ next) ≤ bound + 1) :
        filter.readAll? (bound + 1) (folder :: current ++ next) found =
          some (found ++ (beside ([] :: queueLayers filter next)
            (queueLayers filter (folder :: current))).flatten) := by
      have left : queueCount (current ++ (next ++ filter.foldersOf folder)) ≤ bound := by
        have inner := queueCount_foldersOf_le filter folder
        simp only [List.cons_append, queueCount, queueCount_append] at enough ⊢
        omega
      rw [List.cons_append, Filter.readAll?, List.append_assoc, ih left, queueLayers_append,
        queueLayers, folderLayers_eq, ← beside_assoc, beside, List.nil_append,
        flatten_cons_beside (filter.filesOf _), List.append_assoc]
    -- once a layer is read to its end, the next one is what the queue holds
    cases current with
    | cons folder current => exact step folder current next enough
    | nil =>
      cases next with
      | nil => simp [Filter.readAll?, queueLayers]
      | cons folder next =>
        have whole := step folder next [] (by simpa using enough)
        rw [List.append_nil, queueLayers, flatten_beside_empty] at whole
        rw [List.nil_append, whole, queueLayers, beside_nil, List.flatten_cons, List.nil_append]

/-- A walk reads every folder, and finds the files of the root layer by layer. -/
theorem found?_eq (root : Folder) :
    found? filter root = some (folderLayers filter [] root).flatten := by
  have enough : queueCount ([⟨[], root⟩] ++ []) ≤ folderCountAll root + 1 := Nat.le_refl _
  rw [found?, ← List.append_nil [_], readAll?_eq filter enough, queueLayers, flatten_beside_empty]
  simp [queueLayers]

theorem files_eq_sortBy (root : Folder) :
    files filter root = Order.sortBy (fun a b => decide (a.path ≤ b.path))
      (folderLayers filter [] root).flatten := by
  rw [files, found?_eq, Option.getD_some]

theorem mem_files_iff {walked : WalkedFile} {root : Folder} :
    walked ∈ files filter root ↔ walked ∈ (folderLayers filter [] root).flatten := by
  rw [files_eq_sortBy, (Order.perm_sortBy ..).mem_iff]

end SourceIndex.Walk
