import SourceIndex.Extraction
import SourceIndex.Manifest
import SourceIndex.UnitRecord
import SourceIndex.Update

/-!
# Analysis of a file

What a pass derives from one file whose content is new: the records to put into the store, the entry
of the manifest, and the units that could not be analysed. Those keep what was known of them.
-/

namespace SourceIndex

/-- A tracked file with its content. -/
structure Source where
  path : String
  language : Language
  content : ByteArray
  modified : Option Instant

/-- The manifest and the store that a pass builds on. -/
structure Baseline where
  manifest : Manifest
  store : Store

/-- A file or a unit that could not be analysed. -/
structure Failure where
  file : String
  /-- The key of the unit, unless the whole file failed. -/
  unit : Option String
  reason : String
  deriving DecidableEq, Repr

namespace Failure

/-- The text that reports a failure. -/
def text (failure : Failure) : String :=
  match failure.unit with
  | some unit => SourceUnit.identifierOf failure.file unit ++ ": " ++ failure.reason
  | none => failure.file ++ ": " ++ failure.reason

/-- The failure of a file that is not text. -/
def ofBinary (path : String) : Failure := ⟨path, none, path ++ " is not valid UTF-8"⟩

/-- The failure of a unit with a syntax error. -/
def ofUnit (path : String) (unit : SourceUnit) : Failure :=
  ⟨path, some unit.key,
    s!"syntax error in lines {unit.startLine.toNat}-{unit.endLine.toNat}"⟩

end Failure

namespace SourceFile

/-- The units without a syntax error. -/
def soundUnits (file : SourceFile) : List SourceUnit := file.units.filter (!·.hasError)

/-- The units with a syntax error. -/
def brokenUnits (file : SourceFile) : List SourceUnit := file.units.filter (·.hasError)

/-- The keys and fingerprints of the sound units. -/
def states (keepSource : Bool) (file : SourceFile) : List UnitState :=
  file.soundUnits.map (·.state keepSource file.path)

end SourceFile

/-- What a pass derives from a file. -/
structure FileAnalysis where
  entry : FileEntry
  update : AnalyzedFile
  failures : List Failure
  /-- The number of records that were carried over for broken units. -/
  carried : Nat

/-- The part of an analysis that depends on the granularity. -/
structure Derivation where
  records : List Record
  changes : Option UnitChanges
  /-- The identifiers kept for broken units. -/
  keptIds : List String
  fingerprints : Option (KeyMap Fingerprint)
  carried : Nat

namespace FileAnalysis

/-- The old record of a unit. -/
def oldRecord? (store : Store) (file : SourceFile) (unit : SourceUnit) : Option Record :=
  store.get? file.path (unit.identifier file.path)

/-- The records of a file that is replaced as a whole. Broken units keep their old records. -/
def deriveFile (maxCalls : Nat) (store : Store) (file : SourceFile) : Derivation :=
  let kept := file.brokenUnits.filterMap (oldRecord? store file)
  { records := file.units.filterMap fun unit =>
      if unit.hasError then oldRecord? store file unit else some (unit.record maxCalls file)
    changes := none
    keptIds := kept.map (·.id)
    fingerprints := none
    carried := kept.length }

/-- Whether the record of a unit has to be derived: the unit has changed, or its record is gone. -/
def needsRecord (store : Store) (file : SourceFile) (changes : UnitChanges) (unit : SourceUnit) :
    Bool :=
  let id := unit.identifier file.path
  changes.freshIds.contains id
    || (changes.unchanged.any (·.fingerprint.id = id) && (store.get? file.path id).isNone)

/-- The records of the units of a file that have changed. Broken units keep their old fingerprints
and stay out of the comparison. -/
def deriveUnits (maxCalls : Nat) (tracking : Tracking) (prior : Option (KeyMap Fingerprint))
    (store : Store) (file : SourceFile) : Derivation :=
  let isBroken (key : String) : Bool := file.brokenUnits.any (·.key = key)
  let states := file.states tracking.retainsSource
  let kept := (prior.getD .empty).filter fun key _ => isBroken key
  let compared := prior.map fun fingerprints => fingerprints.filter fun key _ => !isBroken key
  let changes := UnitChanges.compare file.path compared states tracking
  { records := (file.units.filter (needsRecord store file changes)).map (·.record maxCalls file)
    changes := some changes
    keptIds := kept.values.map (·.id)
    fingerprints := some (KeyMap.ofList
      (states.map (fun state => (state.name, state.fingerprint)) ++ kept.entries))
    carried := 0 }

/-- The derivation that a configuration asks for. -/
def derive (config : Config) (manifest : Option Manifest) (store : Store) (file : SourceFile) :
    Derivation :=
  let maxCalls := config.analysis.maxCallsPerUnit.toNat
  match config.granularity with
  | .file => deriveFile maxCalls store file
  | .unit =>
    let prior := manifest.bind (·.fingerprints? file.path)
    deriveUnits maxCalls config.tracking prior store file

/-- Analyses a file, unless its content is not text. -/
def ofSource? (parser : Parser) (config : Config) (manifest : Option Manifest) (store : Store)
    (source : Source) : Option FileAnalysis := do
  let digest := config.tracking.digest
  let file ← SourceFile.ofContent? parser digest source.path source.language source.content
  let derived := derive config manifest store file
  let ids := (file.states config.tracking.retainsSource).map (·.fingerprint.id)
  return {
    entry :=
      { hash := digest.ofBytes source.content
        size := UInt64.ofNat source.content.size
        lastModified := source.modified
        units := ids ++ derived.keptIds
        fingerprints := derived.fingerprints }
    update := ⟨file.path, derived.records, derived.changes⟩
    failures := file.brokenUnits.map (Failure.ofUnit file.path)
    carried := derived.carried }

end FileAnalysis

end SourceIndex
