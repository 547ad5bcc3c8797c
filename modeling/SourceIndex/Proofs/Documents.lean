import SourceIndex.Manifest
import SourceIndex.Record
import SourceIndex.Proofs.Instant
import SourceIndex.Proofs.Json
import SourceIndex.Proofs.KeyMap

/-!
# Values read back from their documents

Records, fingerprints and totals are what their documents describe. A manifest reads back up to its
times: an instant that names no day is refused, and then the whole manifest is. If all its times are
valid, it reads back as it is.
-/

namespace SourceIndex

namespace Json

/-! ## Parts of documents -/

@[simp] theorem text?_text (value : String) : (text value).text? = some value := rfl

@[simp] theorem bool?_bool (value : Bool) : (bool value).bool? = some value := rfl

@[simp] theorem word32?_natural (value : UInt32) : (natural value.toNat).word32? = some value := by
  have small := value.toNat_lt
  simp [word32?, natural?, natural, small]

@[simp] theorem word64?_natural (value : UInt64) : (natural value.toNat).word64? = some value := by
  have small := value.toNat_lt
  simp [word64?, natural?, natural, small]

@[simp] theorem choice?_text {α : Type} (ofName? : String → Option α) (name : String) :
    choice? ofName? (text name) = ofName? name := rfl

@[simp] theorem list?_texts (values : List String) : list? text? (texts values) = some values := by
  rw [texts, list?, List.mapM_map]
  induction values with
  | nil => rfl
  | cons value values ih => simp [ih]

@[simp] theorem required?_some {α : Type} (value : Json → Option α) (document : Json) :
    required? value (some document) = value document := rfl

@[simp] theorem defaulted?_some {α : Type} (value : Json → Option α) (default : α)
    (document : Json) : defaulted? value default (some document) = value document := rfl

@[simp] theorem defaulted?_none {α : Type} (value : Json → Option α) (default : α) :
    defaulted? value default none = some default := rfl

@[simp] theorem plain_text (value : String) : Plain (text value) := .string _

@[simp] theorem plain_natural (value : Nat) : Plain (natural value) := .natural value

@[simp] theorem plain_bool (value : Bool) : Plain (.bool value) := .bool value

@[simp] theorem plain_texts (values : List String) : Plain (texts values) := by
  refine .array fun item member => ?_
  obtain ⟨value, _, rfl⟩ := List.mem_map.1 member
  exact plain_text value

theorem plain_ofMap {α : Type} {toJson : α → Json} (plain : ∀ value, Plain (toJson value))
    (m : KeyMap α) : Plain (ofMap toJson m) := by
  refine .object fun field member => ?_
  obtain ⟨entry, _, rfl⟩ := List.mem_map.1 member
  exact plain entry.2

/-! ## Maps -/

/-- The entries of a map whose values are read back one by one. -/
theorem map?_ofMap {α β : Type} (value : Json → Option β) (toJson : α → Json) (m : KeyMap α) :
    map? value (ofMap toJson m) =
      (m.entries.mapM fun entry => (value (toJson entry.2)).map (entry.1, ·)).map
        KeyMap.ofList := by
  rw [ofMap, map?, List.mapM_map]
  congr 2
  funext entry
  cases found : value (toJson entry.2) <;> simp [found]

/-- A map reads back if its values do. -/
theorem map?_ofMap_eq_some {α : Type} {value : Json → Option α} {toJson : α → Json} {m : KeyMap α}
    (back : ∀ entry ∈ m.entries, value (toJson entry.2) = some entry.2) :
    map? value (ofMap toJson m) = some m := by
  have same {entries : List (String × α)}
      (each : ∀ entry ∈ entries, value (toJson entry.2) = some entry.2) :
      entries.mapM (fun entry => (value (toJson entry.2)).map (entry.1, ·)) = some entries := by
    induction entries with
    | nil => rfl
    | cons entry rest ih =>
      rw [List.mapM_cons, each entry (List.mem_cons_self ..),
        ih fun other member => each other (List.mem_cons_of_mem _ member)]
      rfl
  rw [map?_ofMap, same back, Option.map_some, KeyMap.ofList_entries]

/-- A value that is there was read. -/
theorem of_option? {α : Type} {value : Json → Option α} {document : Json} {found : α}
    (read : option? value document = some (some found)) : value document = some found := by
  rw [option?.eq_def] at read
  split at read
  · cases read
  · obtain ⟨_, known, same⟩ := Option.map_eq_some_iff.1 read
    cases same
    exact known

/-- The values of a map that was read were read one by one. -/
theorem exists_of_map? {α : Type} {value : Json → Option α} {document : Json} {m : KeyMap α}
    (read : map? value document = some m) {key : String} {found : α}
    (known : m.get? key = some found) : ∃ part, value part = some found := by
  cases document with
  | object fields =>
    obtain ⟨entries, listed, rfl⟩ := Option.map_eq_some_iff.1 read
    have member := KeyMap.mem_of_get?_ofList known
    clear read known
    induction fields generalizing entries with
    | nil =>
      cases listed
      cases member
    | cons field rest ih =>
      rw [List.mapM_cons] at listed
      obtain ⟨first, taken, listed⟩ := Option.bind_eq_some_iff.1 listed
      obtain ⟨others, more, listed⟩ := Option.bind_eq_some_iff.1 listed
      cases listed
      rcases List.mem_cons.1 member with here | later
      · obtain ⟨_, _, taken⟩ := Option.bind_eq_some_iff.1 taken
        obtain ⟨_, part, taken⟩ := Option.bind_eq_some_iff.1 taken
        cases taken
        cases here
        exact ⟨_, part⟩
      · exact ih others more later
  | _ => cases read

/-- What is read for the entries of a list has their keys and, under `image`, their values. -/
theorem map_of_mapM_eq_some {α β : Type} {value : α → Option α} {image : α → β}
    (back : ∀ a b, value a = some b → image b = image a) {entries found : List (String × α)}
    (read : entries.mapM (fun entry => (value entry.2).map (entry.1, ·)) = some found) :
    found.map (fun entry => (entry.1, image entry.2)) =
      entries.map fun entry => (entry.1, image entry.2) := by
  induction entries generalizing found with
  | nil =>
    cases read
    rfl
  | cons entry rest ih =>
    rw [List.mapM_cons] at read
    cases first : value entry.2 with
    | none => simp [first] at read
    | some b =>
      cases others : rest.mapM fun entry => (value entry.2).map (entry.1, ·) with
      | none => simp [first, others] at read
      | some more =>
        simp only [first, others, Option.map_some, Option.bind_eq_bind, Option.bind_some,
          Option.pure_def, Option.some.injEq] at read
        subst read
        simp [ih others, back _ _ first]

/-- A map whose values are read back up to `image` is read back up to `image`. -/
theorem map_of_map?_ofMap {α β : Type} {value : Json → Option α} {toJson : α → Json} {image : α → β}
    (back : ∀ a b, value (toJson a) = some b → image b = image a) {m found : KeyMap α}
    (read : map? value (ofMap toJson m) = some found) : found.map image = m.map image := by
  rw [map?_ofMap] at read
  obtain ⟨entries, listed, rfl⟩ := Option.map_eq_some_iff.1 read
  have same := map_of_mapM_eq_some back listed
  have sorted : entries.Pairwise fun a b => a.1 < b.1 := by
    have keys : entries.map (·.1) = m.entries.map (·.1) := by
      simpa [Function.comp_def] using congrArg (List.map (·.1)) same
    rw [← List.pairwise_map (R := fun a b : String => a < b) (f := fun e : String × α => e.1), keys,
      List.pairwise_map]
    exact m.sorted
  apply KeyMap.ext
  simpa [KeyMap.map, KeyMap.entries_ofList sorted] using same

end Json

/-! ## Records -/

namespace Record

theorem plain_listField (name : String) (values : List String) :
    ∀ field ∈ listField name values, Json.Plain field.2 := by
  intro field member
  cases values with
  | nil => simp [listField] at member
  | cons value values =>
    simp only [listField, List.isEmpty_cons, Bool.false_eq_true, if_false,
      List.mem_singleton] at member
    exact member ▸ Json.plain_texts _

theorem plain_toJson (record : Record) : Json.Plain record.toJson := by
  refine .object ?_
  simp only [List.forall_mem_append]
  exact ⟨⟨⟨by simp, plain_listField _ _⟩, plain_listField _ _⟩, by simp⟩

/-- The fields that the document of a record gives; an empty list is left out. -/
theorem slots?_toJson (record : Record) :
    record.toJson.slots? fieldNames =
      some [some (.text record.id), some (.text record.name), some (.text record.file),
        some (.natural record.line.toNat), some (.text record.signature),
        some (.bool record.isAsync), some (.texts record.calls), some (.texts record.effects),
        if record.tags.isEmpty then none else some (.texts record.tags),
        if record.patterns.isEmpty then none else some (.texts record.patterns),
        some (.text record.language.name)] := by
  obtain ⟨id, name, file, line, signature, isAsync, calls, effects, tags, patterns, language⟩ :=
    record
  cases tags <;> cases patterns <;> rfl

/-- A record is what its document describes. -/
theorem ofJson?_toJson (record : Record) : ofJson? record.toJson = some record := by
  have lists (values : List String) : Json.defaulted? (Json.list? Json.text?) []
      (if values.isEmpty then none else some (.texts values)) = some values := by
    cases values <;> simp
  rw [ofJson?, slots?_toJson, Option.bind_eq_bind, Option.bind_some]
  simp only [Json.required?_some, Json.text?_text, Json.word32?_natural, Json.bool?_bool,
    Json.list?_texts, lists, Json.choice?_text, Language.ofName?_name]
  rfl

end Record

/-! ## Fingerprints -/

namespace Fingerprint

theorem plain_toJson (fingerprint : Fingerprint) : Json.Plain fingerprint.toJson := by
  refine .object ?_
  cases fingerprint.source <;> simp

theorem slots?_toJson (fingerprint : Fingerprint) :
    fingerprint.toJson.slots? fieldNames =
      some [some (.text fingerprint.id), some (.text fingerprint.hash),
        some (.natural fingerprint.line.toNat), some (.natural fingerprint.endLine.toNat),
        some (.natural fingerprint.size.toNat), some (.bool fingerprint.isAsync),
        fingerprint.source.map Json.text] := by
  obtain ⟨id, hash, line, endLine, size, isAsync, source⟩ := fingerprint
  cases source <;> rfl

/-- A fingerprint is what its document describes. -/
theorem ofJson?_toJson (fingerprint : Fingerprint) :
    ofJson? fingerprint.toJson = some fingerprint := by
  have kept (source : Option String) : Json.defaulted? (Json.option? Json.text?) none
      (source.map Json.text) = some source := by
    cases source <;> rfl
  rw [ofJson?, slots?_toJson, Option.bind_eq_bind, Option.bind_some]
  simp only [Json.required?_some, Json.text?_text, Json.word32?_natural, Json.word64?_natural,
    Json.bool?_bool, kept]
  rfl

end Fingerprint

/-! ## File entries -/

namespace FileEntry

/-- The entry without the time of the file. -/
def timeless (entry : FileEntry) : FileEntry := { entry with lastModified := none }

theorem plain_toJson (entry : FileEntry) : Json.Plain entry.toJson := by
  refine .object ?_
  cases entry.lastModified <;> cases entry.fingerprints <;>
    simp [Json.Plain.null, instantJson, Json.plain_ofMap Fingerprint.plain_toJson]

/-- The time of a file as it is read back. -/
def rereadTime : Option Instant → Option (Option Instant)
  | none => some none
  | some instant => (Instant.read instant.write).map some

theorem slots?_toJson (entry : FileEntry) :
    entry.toJson.slots? fieldNames =
      some [some (.text entry.hash), some (.natural entry.size.toNat),
        some ((entry.lastModified.map instantJson).getD .null), some (.texts entry.units),
        entry.fingerprints.map (Json.ofMap Fingerprint.toJson)] := by
  obtain ⟨hash, size, lastModified, units, fingerprints⟩ := entry
  cases fingerprints <;> rfl

/-- A file entry is what its document describes, with its time read back. -/
theorem ofJson?_toJson (entry : FileEntry) :
    ofJson? entry.toJson =
      (rereadTime entry.lastModified).map fun time => { entry with lastModified := time } := by
  have reread (time : Option Instant) :
      Json.option? instant? ((time.map instantJson).getD .null) = rereadTime time := by
    cases time with
    | none => rfl
    | some instant => simp [Json.option?, instantJson, instant?, rereadTime, Json.text, Json.text?]
  have maps (fingerprints : Option (KeyMap Fingerprint)) :
      Json.defaulted? (Json.option? (Json.map? Fingerprint.ofJson?)) none
        (fingerprints.map (Json.ofMap Fingerprint.toJson)) = some fingerprints := by
    cases fingerprints with
    | none => rfl
    | some fingerprints =>
      have back : Json.map? Fingerprint.ofJson? (Json.ofMap Fingerprint.toJson fingerprints) =
          some fingerprints :=
        Json.map?_ofMap_eq_some fun entry _ => Fingerprint.ofJson?_toJson entry.2
      exact congrArg (Option.map some) back
  rw [ofJson?, slots?_toJson, Option.bind_eq_bind, Option.bind_some]
  simp only [Json.required?_some, Json.defaulted?_some, Json.text?_text, Json.word64?_natural,
    Json.list?_texts, reread, maps]
  cases rereadTime entry.lastModified <;> rfl

/-- Reading an entry back changes at most its time. -/
theorem timeless_of_ofJson? {entry found : FileEntry} (read : ofJson? entry.toJson = some found) :
    found.timeless = entry.timeless := by
  rw [ofJson?_toJson] at read
  obtain ⟨time, _, rfl⟩ := Option.map_eq_some_iff.1 read
  rfl

end FileEntry

/-! ## Manifests -/

namespace Totals

theorem plain_toJson (totals : Totals) : Json.Plain totals.toJson := by
  refine .object ?_
  simp

/-- Totals are what their document describes. -/
theorem ofJson?_toJson (totals : Totals) : ofJson? totals.toJson = some totals := by
  have slots : totals.toJson.slots? fieldNames =
      some [some (.natural totals.files.toNat), some (.natural totals.units.toNat),
        some (.natural totals.records.toNat), some (.text totals.lastRun.name)] := rfl
  rw [ofJson?, slots, Option.bind_eq_bind, Option.bind_some]
  simp only [Json.required?_some, Json.word64?_natural, Json.choice?_text, Mode.ofName?_name]
  rfl

end Totals

namespace Manifest

/-- Manifests that differ at most in their times. -/
structure Similar (left right : Manifest) : Prop where
  version : left.version = right.version
  granularity : left.granularity = right.granularity
  digest : left.digest = right.digest
  files : left.files.map FileEntry.timeless = right.files.map FileEntry.timeless
  totals : left.totals = right.totals

theorem Similar.symm {left right : Manifest} (similar : Similar left right) : Similar right left :=
  ⟨similar.version.symm, similar.granularity.symm, similar.digest.symm, similar.files.symm,
    similar.totals.symm⟩

/-- A view of entries that shows their units shows how many there are. -/
theorem unitCount_eq {view : FileEntry → FileEntry}
    (shown : ∀ entry, (view entry).units = entry.units) (manifest : Manifest) :
    manifest.unitCount = ((manifest.files.map view).values.flatMap (·.units)).length := by
  simp [unitCount, KeyMap.values, KeyMap.map, List.flatMap_map, shown]

/-- Similar manifests remember the same of a file, apart from its time. -/
theorem Similar.file? {left right : Manifest} (similar : Similar left right) (path : String) :
    (left.file? path).map FileEntry.timeless = (right.file? path).map FileEntry.timeless := by
  rw [Manifest.file?, Manifest.file?, ← KeyMap.get?_map, ← KeyMap.get?_map, similar.files]

theorem compatible_iff {manifest : Manifest} {granularity : Granularity} {digest : Digest} :
    manifest.compatible granularity digest = true ↔
      manifest.version = currentVersion ∧ manifest.granularity = granularity ∧
        manifest.digest = digest := by
  simp [compatible, and_assoc]

theorem plain_toJson (manifest : Manifest) : Json.Plain manifest.toJson := by
  refine .object ?_
  simp [FileEntry.instantJson, Json.plain_ofMap FileEntry.plain_toJson, Totals.plain_toJson]

/-- The manifest that is read back from the text of a manifest, if there is one. -/
theorem parse?_write (manifest : Manifest) :
    parse? manifest.write =
      (FileEntry.instant? (FileEntry.instantJson manifest.generated)).bind fun generated =>
        (Json.map? FileEntry.ofJson? (Json.ofMap FileEntry.toJson manifest.files)).map fun files =>
          { manifest with generated, files } := by
  have slots : manifest.toJson.slots? fieldNames =
      some [some (.natural manifest.version.toNat), some (.text manifest.granularity.name),
        some (.text manifest.digest.name), some (FileEntry.instantJson manifest.generated),
        some (Json.ofMap FileEntry.toJson manifest.files), some manifest.totals.toJson] := rfl
  rw [parse?, write, Json.pretty, String.toList_ofList, Json.read_write (plain_toJson _),
    Option.bind_some, ofJson?, slots, Option.bind_eq_bind, Option.bind_some]
  simp only [Json.required?_some, Json.defaulted?_some, Json.word32?_natural, Json.choice?_text,
    Granularity.ofName?_name, Digest.ofName?_name, Totals.ofJson?_toJson]
  cases FileEntry.instant? (FileEntry.instantJson manifest.generated) with
  | none => rfl
  | some generated =>
    cases Json.map? FileEntry.ofJson? (Json.ofMap FileEntry.toJson manifest.files) <;> rfl

/-- Reading a manifest back changes at most its times. -/
theorem similar_of_parse? {manifest found : Manifest} (read : parse? manifest.write = some found) :
    Similar found manifest := by
  rw [parse?_write] at read
  obtain ⟨generated, _, read⟩ := Option.bind_eq_some_iff.1 read
  obtain ⟨files, listed, rfl⟩ := Option.map_eq_some_iff.1 read
  exact ⟨rfl, rfl, rfl, Json.map_of_map?_ofMap (fun _ _ => FileEntry.timeless_of_ofJson?) listed,
    rfl⟩

end Manifest

/-! ## Times -/

namespace FileEntry

/-- The time of a file is valid, if it is known. -/
def Dated (entry : FileEntry) : Prop := ∀ time, entry.lastModified = some time → time.valid = true

theorem instant?_instantJson {time : Instant} (valid : time.valid = true) :
    instant? (instantJson time) = some time := by
  rw [instant?, instantJson, Json.text?_text, Option.bind_some, String.toList_ofList,
    Instant.read_write valid]

theorem valid_of_instant? {document : Json} {time : Instant}
    (found : instant? document = some time) : time.valid = true := by
  obtain ⟨_, _, read⟩ := Option.bind_eq_some_iff.1 found
  exact Instant.valid_of_read read

/-- An entry with a valid time is what its document describes. -/
theorem ofJson?_toJson_of_dated {entry : FileEntry} (dated : entry.Dated) :
    ofJson? entry.toJson = some entry := by
  have time : rereadTime entry.lastModified = some entry.lastModified := by
    cases known : entry.lastModified with
    | none => rfl
    | some time => rw [rereadTime, Instant.read_write (dated time known), Option.map_some]
  rw [ofJson?_toJson, time, Option.map_some]

/-- The time of an entry that was read is valid. -/
theorem dated_of_ofJson? {document : Json} {entry : FileEntry}
    (read : ofJson? document = some entry) : entry.Dated := by
  obtain ⟨slots, _, read⟩ := Option.bind_eq_some_iff.1 read
  split at read
  case h_1 lastModified units fingerprints listed =>
    simp only [Option.bind_eq_bind, Option.bind_eq_some_iff] at read
    obtain ⟨_, _, _, _, time, found, _, _, _, _, rest⟩ := read
    cases rest
    rintro time rfl
    cases lastModified with
    | none => cases found
    | some document =>
      rw [Json.defaulted?_some] at found
      exact valid_of_instant? (Json.of_option? found)
  case h_2 => cases read

end FileEntry

namespace Manifest

/-- All times of a manifest are valid. -/
structure Dated (manifest : Manifest) : Prop where
  generated : manifest.generated.valid = true
  files : ∀ {path entry}, manifest.file? path = some entry → entry.Dated

/-- A manifest whose times are valid is read back as it is. -/
theorem parse?_write_of_dated {manifest : Manifest} (dated : manifest.Dated) :
    parse? manifest.write = some manifest := by
  have files : Json.map? FileEntry.ofJson? (Json.ofMap FileEntry.toJson manifest.files) =
      some manifest.files :=
    Json.map?_ofMap_eq_some fun entry member =>
      FileEntry.ofJson?_toJson_of_dated (dated.files (KeyMap.get?_eq_some_iff.2 member))
  rw [parse?_write, FileEntry.instant?_instantJson dated.generated, Option.bind_some, files,
    Option.map_some]

/-- The times of a manifest that was read are valid. -/
theorem dated_of_parse? {text : String} {manifest : Manifest} (read : parse? text = some manifest) :
    manifest.Dated := by
  obtain ⟨document, _, read⟩ := Option.bind_eq_some_iff.1 read
  obtain ⟨slots, _, read⟩ := Option.bind_eq_some_iff.1 read
  split at read
  case h_1 =>
    simp only [Option.bind_eq_bind, Option.bind_eq_some_iff] at read
    obtain ⟨_, _, _, _, _, _, time, written, found, listed, _, _, rest⟩ := read
    cases rest
    obtain ⟨_, _, instant⟩ := Option.bind_eq_some_iff.1 written
    obtain ⟨_, _, mapped⟩ := Option.bind_eq_some_iff.1 listed
    refine ⟨FileEntry.valid_of_instant? instant, fun known => ?_⟩
    obtain ⟨part, entry⟩ := Json.exists_of_map? mapped known
    exact FileEntry.dated_of_ofJson? entry
  case h_2 => cases read

end Manifest

end SourceIndex
