import SourceIndex.Proofs.Reload
import SourceIndex.Proofs.Site

/-!
# Manifests that were saved

Saving an artifact puts its text under its name, wherever the state folder of a tree stands. So a
manifest that was saved is loaded as it was, and a manifest that was read can be saved and read
again without loss.
-/

namespace SourceIndex

namespace Manifest

variable {text : String} {manifest : Manifest}

/-- Which texts hold a manifest that can be used. -/
theorem read_eq_usable_iff :
    read text = .usable manifest ↔
      parse? text = some manifest ∧ manifest.version = currentVersion := by
  rw [read]
  cases parse? text with
  | none =>
    constructor
    · intro known
      cases known
    · intro known
      cases known.1
  | some found =>
    by_cases current : found.version = currentVersion
    · simp only [current, if_true, Reading.usable.injEq, Option.some.injEq]
      constructor
      · rintro rfl
        exact ⟨rfl, current⟩
      · intro known
        exact known.1
    · simp only [current, if_false, Option.some.injEq]
      constructor
      · intro known
        cases known
      · rintro ⟨rfl, version⟩
        exact absurd version current

/-- A manifest of this version with valid times is read back from its text. -/
theorem read_write_of_dated (version : manifest.version = currentVersion) (dated : manifest.Dated) :
    read manifest.write = .usable manifest :=
  read_eq_usable_iff.2 ⟨parse?_write_of_dated dated, version⟩

/-- A manifest that was read is of this version and its times are valid. -/
theorem dated_of_read (found : read text = .usable manifest) :
    manifest.version = currentVersion ∧ manifest.Dated := by
  obtain ⟨parsed, version⟩ := read_eq_usable_iff.1 found
  exact ⟨version, dated_of_parse? parsed⟩

end Manifest

namespace Workspace

variable {disk middle : Disk} {home : Location} {artifact : Artifact}

/-! ## Saving an artifact -/

/-- Nothing is in the way of an artifact. Either there is no state folder yet, or no folder stands
under the name of the artifact or of its draft where the state folder stands. The draft is no link,
and a path through a link in place of the artifact leads to no folder. -/
inductive Receives (disk : Disk) (home : Location) (artifact : Artifact) : Prop where
  | created {outside : Folder} (upper : disk.node? home = some (.folder outside))
    (absent : disk.node? (stateLocation home) = none)
  | replaced {place : Location} {inside : Folder} (site : Sited disk home place inside)
    (draft : isFolder inside artifact.draftName = false)
    (plain : ∀ target, inside.get? artifact.draftName ≠ some (.link target))
    (name : isFolder inside artifact.name = false)
    (futile : ∀ target, inside.get? artifact.name = some (.link target) → disk.Futile place target)

/-- Saving starts with the state folder. -/
theorem save_of_ensureFolder {root : String} (made : ensureFolder root disk = (.ok (), middle))
    (again : ensureFolder root middle = (.ok (), middle)) (artifact : Artifact) (text : String) :
    save root artifact text disk = save root artifact text middle := by
  rw [save, bind_apply, bind_apply, made, again]

section

variable (isDraft : Path.Proper artifact.draftName) (isName : Path.Proper artifact.name)
variable (differs : artifact.draftName ≠ artifact.name)
include isDraft isName differs

/-- A text that is saved in a state folder stands there under the name of the artifact. -/
theorem Sited.exists_save {place : Location} {inside : Folder} (site : Sited disk home place inside)
    (draft : isFolder inside artifact.draftName = false)
    (plain : ∀ target, inside.get? artifact.draftName ≠ some (.link target))
    (name : isFolder inside artifact.name = false)
    (futile : ∀ target, inside.get? artifact.name = some (.link target) → disk.Futile place target)
    (text : String) :
    ∃ after next, save (Path.absolute home) artifact text disk = (.ok (), after) ∧
      Sited after home place next ∧
      next.get? artifact.name = some (.file { content := text.toUTF8 }) := by
  have links : ∀ listed ∈ [artifact.draftName, artifact.name], ∀ target,
      inside.get? listed = some (.link target) → disk.Futile place target := by
    simpa using ⟨fun target known => absurd known (plain target), futile⟩
  have grows := Disk.grows_replace site.node? (keeps_saved text draft name) links
  refine ⟨_, _, (site.save_eq_ok_iff artifact isDraft isName differs plain text).2
    ⟨draft, name, rfl⟩, site.replace grows, ?_⟩
  rw [get?_saved, if_pos rfl]

/-- Saving succeeds if nothing is in the way, and then the text is read under the name of the
artifact. -/
theorem Receives.exists_save (proper : Disk.Proper home) (receives : Receives disk home artifact)
    (text : String) :
    ∃ after, save (Path.absolute home) artifact text disk = (.ok (), after) ∧
      readText? (artifact.path (Path.absolute home)) after = (.ok (some text), after) := by
  cases receives with
  | created upper absent =>
    have site := sited_created proper upper []
    obtain ⟨after, next, done, moved, known⟩ := site.exists_save isDraft isName differs rfl
      (by simp) rfl (by simp) text
    rw [← save_of_ensureFolder (ensureFolder_apply_of_absent proper upper absent)
      site.ensureFolder] at done
    exact ⟨after, done, moved.readText?_file isName known⟩
  | replaced site draft plain name futile =>
    obtain ⟨after, next, done, moved, known⟩ :=
      site.exists_save isDraft isName differs draft plain name futile text
    exact ⟨after, done, moved.readText?_file isName known⟩

end

/-! ## Manifests -/

/-- The manifest format round-trips. A manifest of this version with valid times is what its text is
read as, and what is loaded after it was saved, on every disk on which nothing is in the way. A
manifest that any text is read as is such a manifest. -/
theorem saved_manifest_is_read_back :
    (∀ manifest : Manifest, manifest.version = Manifest.currentVersion → manifest.Dated →
      Manifest.read manifest.write = .usable manifest ∧
      ∀ disk home, Disk.Proper home → Receives disk home manifestFile →
        ∃ after, save (Path.absolute home) manifestFile manifest.write disk = (.ok (), after) ∧
          readText? (manifestFile.path (Path.absolute home)) after =
            (.ok (some manifest.write), after) ∧
          loadManifest? (Path.absolute home) after = (.ok (some manifest), after)) ∧
    ∀ text manifest, Manifest.read text = .usable manifest →
      manifest.version = Manifest.currentVersion ∧ manifest.Dated ∧
        Manifest.read manifest.write = .usable manifest := by
  constructor
  · intro manifest version dated
    refine ⟨Manifest.read_write_of_dated version dated, fun disk home proper receives => ?_⟩
    obtain ⟨after, done, text⟩ := receives.exists_save (by decide) (by decide) (by decide) proper
      manifest.write
    exact ⟨after, done, text, loadManifest?_of_text text dated version⟩
  · intro text manifest found
    obtain ⟨version, dated⟩ := Manifest.dated_of_read found
    exact ⟨version, dated, Manifest.read_write_of_dated version dated⟩

/-- A manifest with one file, whose only unit keeps its source. -/
def remembered : Manifest where
  version := 1
  granularity := .unit
  digest := .blake3
  generated := ⟨9999, 12, 31, 23, 59, 60, 999999999⟩
  files := KeyMap.ofList [("übung/\u2028 \"a\".py", {
    hash := "00", size := 18446744073709551615, lastModified := some ⟨0, 2, 29, 0, 0, 0, 1⟩
    units := ["a#é"]
    fingerprints := some (KeyMap.ofList
      [("é", ⟨"a#é", "01", 4294967295, 0, 7, true, some "def é():\n\tpass"⟩)]) })]
  totals := ⟨1, 1, 1, .incremental⟩

theorem dated_remembered : remembered.Dated := by
  refine ⟨by decide, fun {path entry} known => ?_⟩
  have member := KeyMap.mem_of_get?_ofList known
  cases List.mem_singleton.1 member
  rintro time ⟨⟩
  decide

/-- A text with its fields in another order, a local time and no totals. -/
def relaxedText : String :=
  "\x7b \"generated\": \"2024-03-01t05:29:59.5+05:30\", \"files\": \x7b\x7d, \"other\": [],
    \"granularity\": \"file\", \"version\": 1 \x7d"

theorem read_relaxedText :
    Manifest.read relaxedText = .usable
      ⟨1, .file, .sha256, ⟨2024, 2, 29, 23, 59, 59, 500000000⟩, KeyMap.empty, Totals.zero⟩ :=
  Manifest.read_eq_usable_iff.2 ⟨by decide +kernel, rfl⟩

theorem saved_manifest_is_read_back_sample :
    Manifest.read remembered.write = .usable remembered ∧
      (∃ after, save "/tree" manifestFile remembered.write { top := [("tree", .folder [])] } =
          (.ok (), after) ∧
        loadManifest? "/tree" after = (.ok (some remembered), after)) ∧
      ∃ manifest, Manifest.read relaxedText = .usable manifest ∧
        Manifest.read manifest.write = .usable manifest := by
  obtain ⟨first, second⟩ := saved_manifest_is_read_back
  obtain ⟨read, saved⟩ := first remembered rfl dated_remembered
  obtain ⟨after, done, _, loaded⟩ := saved { top := [("tree", .folder [])] } ["tree"] (by decide)
    (.created rfl rfl)
  have again := second relaxedText _ read_relaxedText
  exact ⟨read, ⟨after, done, loaded⟩, _, read_relaxedText, again.2.2⟩

end Workspace

end SourceIndex
