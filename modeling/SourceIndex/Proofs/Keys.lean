import Mathlib.Data.List.Nodup
import Mathlib.Data.List.Perm.Subperm
import SourceIndex.Extraction
import SourceIndex.Proofs.Store
import SourceIndex.UnitRecord

/-!
# Keys of units

The units of a file have distinct keys, whatever tree the parser gives, and so distinct identifiers.
The search for a key that is free ends, and a store keeps the records of all units.
-/

namespace SourceIndex

namespace SourceUnit

/-- Units of a file with different keys have different identifiers. -/
theorem identifierOf_inj {file first second : String} :
    identifierOf file first = identifierOf file second ↔ first = second := by
  simp [identifierOf]

end SourceUnit

namespace Extraction

/-- Keys with different numbers differ. -/
theorem numberedKey_inj {base : String} {line : UInt32} {first second : Nat} :
    numberedKey base line first = numberedKey base line second ↔ first = second := by
  refine ⟨fun same => ?_, fun same => same ▸ rfl⟩
  have digits : Nat.toDigits 10 first = Nat.toDigits 10 second := by
    simpa [numberedKey, Nat.repr_eq_ofList_toDigits] using congrArg String.toList same
  have value := congrArg (Nat.ofDigitChars 10 · 0) digits
  simpa [Nat.ofDigitChars_toDigits] using value

/-- If the search ends at a used key, all the keys that it went through are used. -/
theorem used_of_freeKey {used : List String} {base : String} {line : UInt32} {bound number : Nat}
    (taken : freeKey used base line bound number ∈ used) :
    ∀ step ≤ bound, numberedKey base line (number + step) ∈ used := by
  induction bound generalizing number with
  | zero =>
    intro step small
    cases Nat.le_zero.1 small
    exact taken
  | succ bound ih =>
    rw [freeKey] at taken
    split at taken
    case isTrue here =>
      intro step small
      cases step with
      | zero => exact List.contains_iff_mem.1 here
      | succ step =>
        have later := ih taken step (by omega)
        rwa [Nat.add_right_comm] at later
    case isFalse free => exact absurd (List.contains_iff_mem.2 taken) free

/-- The search finds a key that is not used: there are more candidates than used keys. -/
theorem freeKey_not_mem (used : List String) (base : String) (line : UInt32) (number : Nat) :
    freeKey used base line used.length number ∉ used := by
  intro taken
  have all := used_of_freeKey taken
  have distinct : ((List.range (used.length + 1)).map fun step =>
      numberedKey base line (number + step)).Nodup := by
    refine List.Nodup.map (fun first second same => ?_) List.nodup_range
    have equal := numberedKey_inj.1 same
    omega
  have inside : ((List.range (used.length + 1)).map fun step =>
      numberedKey base line (number + step)) ⊆ used := by
    intro key member
    obtain ⟨step, small, rfl⟩ := List.mem_map.1 member
    exact all step (Nat.le_of_lt_succ (List.mem_range.1 small))
  have count := (distinct.subperm inside).length_le
  rw [List.length_map, List.length_range] at count
  omega

theorem uniqueKey_not_mem (used : List String) (base : String) (line : UInt32) :
    uniqueKey used base line ∉ used := by
  rw [uniqueKey]
  split
  · simp only
    split
    · exact freeKey_not_mem used base line 2
    case isFalse free => exact fun taken => free (List.contains_iff_mem.2 taken)
  case isFalse free => exact fun taken => free (List.contains_iff_mem.2 taken)

/-- The search goes through used keys up to the one at which it ends. -/
theorem exists_freeKey_eq (used : List String) (base : String) (line : UInt32)
    (bound number : Nat) :
    ∃ steps ≤ bound, freeKey used base line bound number = numberedKey base line (number + steps) ∧
      ∀ earlier < steps, numberedKey base line (number + earlier) ∈ used := by
  induction bound generalizing number with
  | zero => exact ⟨0, Nat.le_refl 0, rfl, fun earlier less => absurd less (Nat.not_lt_zero earlier)⟩
  | succ bound ih =>
    rw [freeKey]
    split
    case isTrue here =>
      obtain ⟨steps, small, ends, taken⟩ := ih (number + 1)
      refine ⟨steps + 1, Nat.succ_le_succ small, ?_, ?_⟩
      · rw [ends, Nat.add_right_comm, Nat.add_assoc]
      · intro earlier less
        cases earlier with
        | zero => exact List.contains_iff_mem.1 here
        | succ earlier =>
          rw [← Nat.add_assoc, Nat.add_right_comm]
          exact taken earlier (Nat.lt_of_succ_lt_succ less)
    case isFalse =>
      exact ⟨0, Nat.zero_le _, rfl, fun earlier less => absurd less (Nat.not_lt_zero earlier)⟩

/-- The key at which the search for a free one ends: the given one, or else the one with the line
behind it, or else the one with the first number from two on that is free. -/
inductive FirstFree (used : List String) (base : String) (line : UInt32) :
    (key : String) → Prop where
  | plain (free : base ∉ used) : FirstFree used base line base
  | marked (taken : base ∈ used) (free : s!"{base}@{line.toNat}" ∉ used) :
    FirstFree used base line s!"{base}@{line.toNat}"
  | numbered {number : Nat} (taken : base ∈ used) (also : s!"{base}@{line.toNat}" ∈ used)
    (start : 2 ≤ number) (bounded : number ≤ used.length + 2)
    (earlier : ∀ other, 2 ≤ other → other < number → numberedKey base line other ∈ used)
    (free : numberedKey base line number ∉ used) :
    FirstFree used base line (numberedKey base line number)

theorem firstFree_uniqueKey (used : List String) (base : String) (line : UInt32) :
    FirstFree used base line (uniqueKey used base line) := by
  rw [uniqueKey]
  split
  case isTrue taken =>
    simp only
    split
    case isTrue also =>
      have free := freeKey_not_mem used base line 2
      obtain ⟨steps, small, ends, earlier⟩ := exists_freeKey_eq used base line used.length 2
      rw [ends] at free ⊢
      refine .numbered (List.contains_iff_mem.1 taken) (List.contains_iff_mem.1 also)
        (Nat.le_add_right 2 steps) (by omega) ?_ free
      intro other start less
      obtain ⟨step, rfl⟩ := Nat.exists_eq_add_of_le start
      exact earlier step (by omega)
    case isFalse free =>
      exact .marked (List.contains_iff_mem.1 taken) fun member =>
        free (List.contains_iff_mem.2 member)
  case isFalse free => exact .plain fun member => free (List.contains_iff_mem.2 member)

/-- The unit at a position is that of the draft there. Its key avoids those of the units before it,
the latest of which comes first. -/
theorem getElem?_finishAll (grammar : Grammar) (source : String) (digest : Digest)
    (calls : List (Nat × String)) (used : List String) (index : Nat) (drafts : List Draft)
    (position : Nat) :
    (finishAll grammar source digest calls used index drafts)[position]? =
      drafts[position]?.map (finish grammar source digest calls
        ((((finishAll grammar source digest calls used index drafts).take position).map
          (·.key)).reverse ++ used) (index + position)) := by
  induction drafts generalizing used index position with
  | nil => rfl
  | cons draft drafts ih =>
    rw [finishAll]
    cases position with
    | zero => rfl
    | succ position =>
      simp only [List.getElem?_cons_succ]
      rw [ih, List.take_succ_cons, List.map_cons, List.reverse_cons, List.append_assoc,
        List.singleton_append, Nat.add_right_comm, Nat.add_assoc]

/-- The keys of finished units are distinct, and none was used before. -/
theorem nodup_keys_finishAll (grammar : Grammar) (source : String) (digest : Digest)
    (calls : List (Nat × String)) (used : List String) (index : Nat) (drafts : List Draft) :
    ((finishAll grammar source digest calls used index drafts).map (·.key)).Nodup ∧
      ∀ unit ∈ finishAll grammar source digest calls used index drafts, unit.key ∉ used := by
  induction drafts generalizing used index with
  | nil => simp [finishAll]
  | cons draft drafts ih =>
    have here : (finish grammar source digest calls used index draft).key ∉ used :=
      uniqueKey_not_mem used _ _
    obtain ⟨distinct, apart⟩ :=
      ih ((finish grammar source digest calls used index draft).key :: used) (index + 1)
    rw [finishAll]
    constructor
    · rw [List.map_cons, List.nodup_cons]
      refine ⟨fun member => ?_, distinct⟩
      obtain ⟨unit, listed, same⟩ := List.mem_map.1 member
      exact apart unit listed (same ▸ List.mem_cons_self ..)
    · intro unit member
      cases List.mem_cons.1 member with
      | inl first => exact first ▸ here
      | inr later => exact fun taken => apart unit later (List.mem_cons_of_mem _ taken)

theorem nodup_keys_ofTree (grammar : Grammar) (digest : Digest) (path : String)
    (language : Language) (source : String) (root : Node) :
    ((ofTree grammar digest path language source root).units.map (·.key)).Nodup :=
  (nodup_keys_finishAll ..).1

/-- Whatever the tree, the search for the key of a unit ends at the first that is free. So the units
of a file have different keys, their records have different identifiers, and a store keeps all of
them in source order, one for each unit. -/
theorem units_keep_their_records (grammar : Grammar) (digest : Digest) (path : String)
    (language : Language) (source : String) (root : Node) (maxCalls : Nat) :
    let file := ofTree grammar digest path language source root
    (∀ position unit, file.units[position]? = some unit →
        FirstFree ((file.units.take position).map (·.key)).reverse
          (unit.qualifiedName.getD (toString unit.startLine.toNat)) unit.startLine unit.key) ∧
      (file.units.map (·.key)).Nodup ∧
      ((file.records maxCalls).map (·.id)).Nodup ∧
      (Store.ofRecords (file.records maxCalls)).records =
        file.units.map (·.record maxCalls file) := by
  intro file
  have keys : (file.units.map (·.key)).Nodup := nodup_keys_ofTree ..
  have ids : ((file.records maxCalls).map (·.id)).Nodup := by
    have same : (file.records maxCalls).map (·.id) =
        (file.units.map (·.key)).map (SourceUnit.identifierOf file.path) := by
      rw [SourceFile.records, List.map_map, List.map_map]
      rfl
    rw [same]
    exact keys.map fun first second equal => SourceUnit.identifierOf_inj.1 equal
  refine ⟨?_, keys, ids, ?_⟩
  · intro position unit here
    have made :=
      getElem?_finishAll grammar source digest (calls (findings grammar source root)) [] 0
      (drafts (findings grammar source root)) position
    rw [List.append_nil] at made
    obtain ⟨draft, _, rfl⟩ := Option.map_eq_some_iff.1 (made.symm.trans here)
    exact firstFree_uniqueKey ..
  · apply Store.records_ofRecords
    apply List.Nodup.of_map Prod.snd
    rw [List.map_map]
    exact ids

end Extraction

namespace SourceFile

/-- The units of a file have distinct keys. -/
theorem nodup_keys_of_ofContent? {parser : Parser} {digest : Digest} {path : String}
    {language : Language} {content : ByteArray} {file : SourceFile}
    (found : ofContent? parser digest path language content = some file) :
    (file.units.map (·.key)).Nodup := by
  obtain ⟨source, _, rfl⟩ := Option.map_eq_some_iff.1 found
  exact Extraction.nodup_keys_ofTree ..

theorem path_of_ofContent? {parser : Parser} {digest : Digest} {path : String}
    {language : Language} {content : ByteArray} {file : SourceFile}
    (found : ofContent? parser digest path language content = some file) : file.path = path := by
  obtain ⟨source, _, rfl⟩ := Option.map_eq_some_iff.1 found
  rfl

end SourceFile

end SourceIndex
