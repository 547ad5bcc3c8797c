import SourceIndex.Proofs.Keys
import SourceIndex.Proofs.Text

/-!
# Characters of what is extracted

The identifier of a unit has a `#` between the file and the key. The name of a unit has no dot, and
neither the calls of a unit nor the key of a unit without a name have a `#`, whatever tree the
parser gives.
-/

namespace SourceIndex

/-! ## Callees -/

namespace Callee

/-- The characters of names and separators. -/
theorem isPathChar_of_mem {text : List Char} (path : isPath text = true) {c : Char}
    (member : c ∈ text) : Text.isNameChar c = true ∨ isSeparator c = true ∨ c = '!' := by
  fun_induction isPath text with
  | case1 => cases member
  | case2 => exact .inr (.inr (List.mem_singleton.1 member))
  | case3 first rest _ ih =>
    rw [Bool.and_eq_true, Bool.or_eq_true] at path
    cases List.mem_cons.1 member with
    | inl here =>
      cases here
      exact path.1.imp_right .inl
    | inr later => exact ih path.2 later

theorem mark_not_mem_of_name? {raw name : String} (found : name? raw = some name) :
    '#' ∉ name.toList := by
  intro member
  simp only [name?, Option.ite_none_right_eq_some, Bool.and_eq_true, Option.some.injEq] at found
  obtain ⟨⟨⟨_, path⟩, _⟩, rfl⟩ := found
  rw [String.toList_ofList] at member
  have outside : ¬(Text.isNameChar '#' = true ∨ isSeparator '#' = true ∨ '#' = '!') := by
    decide +kernel
  exact outside (isPathChar_of_mem path member)

end Callee

/-! ## Keys -/

namespace Extraction

theorem mark_not_mem_toDigits (value : Nat) : '#' ∉ Nat.toDigits 10 value := by
  intro member
  exact absurd (Text.isDigit_of_mem_toDigits member) (by decide)

theorem mark_not_mem_freeKey {used : List String} {base : String} {line : UInt32}
    {bound number : Nat} (plain : '#' ∉ base.toList) :
    '#' ∉ (freeKey used base line bound number).toList := by
  have numbered (number : Nat) : '#' ∉ (numberedKey base line number).toList := by
    change '#' ∉ (base ++ "@" ++ toString line.toNat ++ "." ++ toString number).toList
    simp [plain, mark_not_mem_toDigits]
  induction bound generalizing number with
  | zero => exact numbered number
  | succ bound ih =>
    rw [freeKey]
    split
    · exact ih
    · exact numbered number

/-- Making a key unique brings in no mark. -/
theorem mark_not_mem_uniqueKey {used : List String} {base : String} {line : UInt32}
    (plain : '#' ∉ base.toList) : '#' ∉ (uniqueKey used base line).toList := by
  rw [uniqueKey]
  split
  · simp only
    split
    · exact mark_not_mem_freeKey plain
    · change '#' ∉ (base ++ "@" ++ toString line.toNat).toList
      simp [plain, mark_not_mem_toDigits]
  · exact plain

/-! ## Findings -/

/-- What every finding keeps to: the name of a unit has no dot, and a call has the name of a
callee. -/
def Finding.Sound : Finding → Prop
  | .unit draft => draft.qualifiedName.isSome → '.' ∉ draft.name.toList
  | .call _ callee => ∃ raw, Callee.name? raw = some callee
  | .imported _ => True

variable {grammar : Grammar} {source : String}

theorem sound_draft (frame : Frame) : (Finding.unit (draft grammar source frame)).Sound := by
  rw [Finding.Sound, draft]
  split
  case h_1 =>
    intro named
    cases named
  case h_2 declared _ =>
    intro _ member
    rw [String.toList_ofList] at member
    exact absurd (Text.mem_of_mem_afterLast member).2 (by decide)

theorem sound_of_mem_callFindings {frame : Frame} {finding : Finding}
    (member : finding ∈ callFindings grammar source frame) : finding.Sound := by
  rw [callFindings] at member
  split at member
  case h_1 => cases member
  case h_2 raw _ =>
    cases List.mem_append.1 member with
    | inl loaded =>
      obtain ⟨name, _, rfl⟩ := by simpa using loaded
      trivial
    | inr called =>
      split at called
      case h_1 owner callee _ named =>
        cases List.mem_singleton.1 called
        exact ⟨raw, named⟩
      case h_2 => cases called

/-- What a visit finds is sound. -/
theorem sound_of_mem_visit {frame : Frame} {count : Nat} {finding : Finding}
    (member : finding ∈ (visit grammar source frame count).findings) : finding.Sound := by
  rw [visit] at member
  split at member
  · cases List.mem_singleton.1 member
    exact sound_draft frame
  · split at member
    · split at member <;> cases member
    · split at member
      · exact sound_of_mem_callFindings member
      · split at member
        · obtain ⟨name, _, rfl⟩ := List.mem_map.1 member
          trivial
        · cases member

/-- What a walk finds is sound. -/
theorem sound_of_mem_walk {fuel : Nat} {frames : List Frame} {count : Nat} {finding : Finding}
    (member : finding ∈ walk grammar source fuel frames count) : finding.Sound := by
  induction fuel generalizing frames count with
  | zero => cases member
  | succ fuel ih =>
    cases frames with
    | nil => cases member
    | cons frame frames =>
      rw [walk] at member
      cases List.mem_append.1 member with
      | inl here => exact sound_of_mem_visit here
      | inr later => exact ih later

end Extraction

/-! ## Units -/

/-- What the characters of an extracted unit keep to. -/
structure SourceUnit.Plain (unit : SourceUnit) : Prop where
  name : unit.isAnonymous = false → '.' ∉ unit.name.toList
  key : unit.isAnonymous = true → '#' ∉ unit.key.toList
  calls : ∀ call ∈ unit.calls, '#' ∉ call.toList

namespace Extraction

variable {grammar : Grammar} {source : String} {digest : Digest} {calls : List (Nat × String)}

theorem plain_finish {used : List String} {index : Nat} {draft : Draft}
    (sound : (Finding.unit draft).Sound) (callees : ∀ call ∈ calls, '#' ∉ call.2.toList) :
    (finish grammar source digest calls used index draft).Plain where
  name named := by
    apply sound
    simpa [finish, SourceUnit.isAnonymous] using named
  key anonymous := by
    have unnamed : draft.qualifiedName = none := by
      simpa [finish, SourceUnit.isAnonymous] using anonymous
    rw [finish, unnamed]
    apply mark_not_mem_uniqueKey
    simp [mark_not_mem_toDigits]
  calls call member := by
    rw [finish] at member
    obtain ⟨made, listed, same⟩ := List.mem_filterMap.1 (Text.mem_firstOccurrences.1 member)
    rw [Option.ite_none_right_eq_some] at same
    cases same.2
    exact callees made listed

theorem plain_of_mem_finishAll {used : List String} {index : Nat} {drafts : List Draft}
    (sound : ∀ draft ∈ drafts, (Finding.unit draft).Sound)
    (callees : ∀ call ∈ calls, '#' ∉ call.2.toList) {unit : SourceUnit}
    (member : unit ∈ finishAll grammar source digest calls used index drafts) : unit.Plain := by
  induction drafts generalizing used index with
  | nil => cases member
  | cons draft drafts ih =>
    rw [finishAll] at member
    cases List.mem_cons.1 member with
    | inl here => exact here ▸ plain_finish (sound draft (List.mem_cons_self ..)) callees
    | inr later => exact ih (fun draft listed => sound draft (List.mem_cons_of_mem _ listed)) later

end Extraction

namespace SourceFile

theorem plain_of_ofContent? {parser : Parser} {digest : Digest} {path : String}
    {language : Language} {content : ByteArray} {file : SourceFile}
    (found : ofContent? parser digest path language content = some file) {unit : SourceUnit}
    (member : unit ∈ file.units) : unit.Plain := by
  obtain ⟨source, _, rfl⟩ := Option.map_eq_some_iff.1 found
  apply Extraction.plain_of_mem_finishAll _ _ member
  · intro draft listed
    obtain ⟨finding, among, same⟩ := List.mem_filterMap.1 listed
    have sound := Extraction.sound_of_mem_walk among
    cases finding with
    | unit => cases same; exact sound
    | call => cases same
    | imported => cases same
  · intro call listed
    obtain ⟨finding, among, same⟩ := List.mem_filterMap.1 listed
    have sound := Extraction.sound_of_mem_walk among
    cases finding with
    | unit => cases same
    | call owner callee =>
      cases same
      obtain ⟨raw, named⟩ := sound
      exact Callee.mark_not_mem_of_name? named
    | imported => cases same

end SourceFile

end SourceIndex
