import SourceIndex.Fingerprint
import SourceIndex.KeyMap
import SourceIndex.Order
import SourceIndex.Text.Layout

/-!
# Changes of units

The units of a file compared with the fingerprints that are remembered of them. A unit that is gone
can be paired with a new one whose source is similar: a rename.
-/

namespace SourceIndex

/-- A unit whose source differs from what is remembered of it. -/
structure UnitDelta where
  name : String
  old : Fingerprint
  new : Fingerprint
  deriving DecidableEq

/-- A unit that is gone and the new unit that it became. -/
structure UnitRename where
  oldName : String
  newName : String
  old : Fingerprint
  new : Fingerprint
  similarity : Float

/-- How the units of a file relate to what is remembered of them. -/
structure UnitChanges where
  file : String
  added : List UnitState := []
  modified : List UnitDelta := []
  deleted : List UnitState := []
  unchanged : List UnitState := []
  renamed : List UnitRename := []
  /-- Whether fingerprints were remembered at all. -/
  hasBaseline : Bool := false

namespace UnitDelta

/-- By how many lines the unit has moved. -/
def lineShift (delta : UnitDelta) : Int := (delta.new.line.toNat : Int) - delta.old.line.toNat

end UnitDelta

namespace UnitChanges

/-- Whether nothing has changed. -/
def isEmpty (changes : UnitChanges) : Bool :=
  changes.added.isEmpty && changes.modified.isEmpty && changes.deleted.isEmpty
    && changes.renamed.isEmpty

/-- The identifiers whose records have to go. -/
def staleIds (changes : UnitChanges) : List String :=
  changes.modified.map (·.old.id) ++ changes.deleted.map (·.fingerprint.id)
    ++ changes.renamed.map (·.old.id)

/-- The identifiers whose records have to be derived. -/
def freshIds (changes : UnitChanges) : List String :=
  changes.modified.map (·.new.id) ++ changes.added.map (·.fingerprint.id)
    ++ changes.renamed.map (·.new.id)

/-- The similarity of two units whose sources are known. -/
def score? (old new : UnitState) : Option Float := do
  return Text.similarity (← old.fingerprint.source) (← new.fingerprint.source)

/-- An added unit, and whether it is already the new side of a rename. -/
structure Offer where
  unit : UnitState
  taken : Bool := false

/-- The offer after it was taken. -/
def Offer.take (offer : Offer) : Offer := { offer with taken := true }

/-- The units of the offers that are free. -/
def freeUnits (offers : List Offer) : List UnitState := (offers.filter (!·.taken)).map (·.unit)

/-- A candidate for a rename: its place among the offers, and its similarity. -/
structure Candidate where
  place : Nat
  unit : UnitState
  similarity : Float

/-- The better of a candidate so far and an offer at `place`. An offer has to be free, to reach the
threshold and to be more similar than the candidate. -/
def better (threshold : Float) (old : UnitState) (place : Nat) (offer : Offer)
    (best : Option Candidate) : Option Candidate :=
  if offer.taken then best
  else
    match score? old offer.unit with
    | none => best
    | some score =>
      if score ≥ threshold && best.all (fun top => score > top.similarity) then
        some ⟨place, offer.unit, score⟩
      else best

/-- The best candidate for a unit among the offers from `place` on. -/
def bestFrom (threshold : Float) (old : UnitState) :
    (place : Nat) → (best : Option Candidate) → List Offer → Option Candidate
  | _, best, [] => best
  | place, best, offer :: rest =>
    bestFrom threshold old (place + 1) (better threshold old place offer best) rest

/-- The units that stay deleted, the renames, and what has become of the offers. -/
structure Matching where
  deleted : List UnitState
  renamed : List UnitRename
  offers : List Offer

/-- Pairs deleted units, in order, each with its best candidate among the offers that are free. -/
def pairAll (threshold : Float) : (deleted : List UnitState) → (offers : List Offer) → Matching
  | [], offers => ⟨[], [], offers⟩
  | old :: rest, offers =>
    match bestFrom threshold old 0 none offers with
    | none =>
      let found := pairAll threshold rest offers
      { found with deleted := old :: found.deleted }
    | some best =>
      let found := pairAll threshold rest (offers.modify best.place Offer.take)
      { found with
        renamed :=
          ⟨old.name, best.unit.name, old.fingerprint, best.unit.fingerprint, best.similarity⟩
            :: found.renamed }

/-- Turns deleted and added units that are similar into renames. -/
def matchRenames (threshold : Float) (changes : UnitChanges) : UnitChanges :=
  let found := pairAll threshold changes.deleted (changes.added.map fun unit => { unit })
  { changes with
    deleted := found.deleted
    renamed := changes.renamed ++ found.renamed
    added := freeUnits found.offers }

/-- The units of the prior fingerprints that are gone, in order of their old lines and then of their
names. -/
def gone (prior : KeyMap Fingerprint) (current : List UnitState) : List UnitState :=
  Order.sortBy (fun a b => decide (a.fingerprint.line ≤ b.fingerprint.line))
    ((prior.entries.filter fun entry => !current.any (·.name = entry.1)).map fun entry =>
      ⟨entry.1, entry.2⟩)

/-- The delta of a unit that is remembered with another digest. -/
def delta? (prior : KeyMap Fingerprint) (unit : UnitState) : Option UnitDelta := do
  let old ← prior.get? unit.name
  if old.hash = unit.fingerprint.hash then none else some ⟨unit.name, old, unit.fingerprint⟩

/-- Compares the units of a file with prior fingerprints, before renames are looked for. -/
def classify (file : String) (prior : KeyMap Fingerprint) (current : List UnitState) :
    UnitChanges where
  file := file
  added := current.filter fun unit => !prior.contains unit.name
  modified := current.filterMap (delta? prior)
  deleted := gone prior current
  unchanged := current.filter fun unit =>
    prior.contains unit.name && (delta? prior unit).isNone
  hasBaseline := true

/-- Compares the units of a file with what is remembered of them. Without fingerprints every unit is
added. -/
def compare (file : String) (prior : Option (KeyMap Fingerprint)) (current : List UnitState)
    (tracking : Tracking) : UnitChanges :=
  match prior with
  | none => { file, added := current }
  | some prior =>
    let changes := classify file prior current
    if tracking.detectRenames then matchRenames tracking.threshold changes else changes

end UnitChanges

end SourceIndex
