import Mathlib.Data.List.Forall2
import Mathlib.Data.List.Perm.Basic
import Mathlib.Data.Prod.Lex
import SourceIndex.Proofs.Order
import SourceIndex.UnitChanges

/-!
# Matching of renamed units

Deleted units choose among the added ones, each of them the most similar unit that is still free.
What they choose is described by the places of the units: a matching that is one to one, greedy and
maximal. Nothing is assumed of the similarities but the order of numbers, which is proved first.
-/

namespace SourceIndex

/-! ## The order of numbers -/

namespace Score

open Float.Model

variable {x y z : Float}

/-- The place of a number among all numbers: by its sign and kind, then by its exponent and then by
its mantissa. -/
def rank? : UnpackedFloat → Option (Int ×ₗ Int ×ₗ Int)
  | .notANumber => none
  | .infinity .negative => some (toLex (-2, toLex (0, 0)))
  | .finite .negative mantissa exponent _ => some (toLex (-1, toLex (-exponent, -(mantissa : Int))))
  | .zero _ => some (toLex (0, toLex (0, 0)))
  | .finite .positive mantissa exponent _ => some (toLex (1, toLex (exponent, (mantissa : Int))))
  | .infinity .positive => some (toLex (2, toLex (0, 0)))

theorem compare_ranks (kind exponent exponent' mantissa mantissa' : Int) :
    compare (toLex (kind, toLex (exponent, mantissa)))
      (toLex (kind, toLex (exponent', mantissa'))) =
      (compare exponent exponent').then (compare mantissa mantissa') := by
  have same : compare kind kind = .eq := compare_eq_iff_eq.2 rfl
  simp only [Prod.Lex.compare_def, compareLex, compareOn, ofLex_toLex, same, Ordering.eq_then]

theorem compare_neg (first second : Int) :
    compare (-first) (-second) = (compare first second).swap := by
  rw [← cmp_eq_compare, ← cmp_eq_compare, cmp_swap]
  exact StrictAnti.cmp_map_eq (fun _ _ => Int.neg_lt_neg) first second

theorem compare_cast (first second : Nat) :
    compare (first : Int) (second : Int) = compare first second := by
  rw [← cmp_eq_compare, ← cmp_eq_compare]
  exact StrictMono.cmp_map_eq (fun _ _ => Int.ofNat_lt.2) first second

/-- Numbers are compared by their places. -/
theorem compare_eq_compare (x y : UnpackedFloat) :
    x.compare y = (rank? x).bind fun first => (rank? y).map fun second => compare first second := by
  -- only numbers of the same sign need more than a look at their kinds
  rcases x with (_ | _) | _ | (_ | _) | ⟨_ | _, mantissa, exponent, _⟩ <;>
    rcases y with (_ | _) | _ | (_ | _) | ⟨_ | _, mantissa', exponent', _⟩ <;>
    try rfl
  case finite.negative.finite.negative =>
    have ranks := compare_ranks (-1) (-exponent) (-exponent') (-mantissa) (-mantissa')
    rw [compare_neg, compare_neg, compare_cast, ← Ordering.swap_then] at ranks
    exact congrArg some ranks.symm
  case finite.positive.finite.positive =>
    have ranks := compare_ranks 1 exponent exponent' mantissa mantissa'
    rw [compare_cast] at ranks
    exact congrArg some ranks.symm

/-- The place of a float among all numbers. -/
def rank (x : Float) : Option (Int ×ₗ Int ×ₗ Int) := rank? x.toModel.unpack

theorem lt_iff : x < y ↔ ∃ first ∈ rank x, ∃ second ∈ rank y, first < second := by
  have unpacked : x < y ↔ x.toModel.unpack.lt y.toModel.unpack = true := by
    change Float.lt x y = true ↔ _
    rw [Float.lt, decide_eq_true_eq]
    rfl
  rw [unpacked, UnpackedFloat.lt, compare_eq_compare, beq_iff_eq]
  simp only [Option.bind_eq_some_iff, Option.map_eq_some_iff, compare_lt_iff_lt, Option.mem_def,
    rank]

theorem le_iff : x ≤ y ↔ ∃ first ∈ rank x, ∃ second ∈ rank y, first ≤ second := by
  have unpacked : x ≤ y ↔ x.toModel.unpack.le y.toModel.unpack = true := by
    change Float.le x y = true ↔ _
    rw [Float.le, decide_eq_true_eq]
    rfl
  rw [unpacked, UnpackedFloat.le, compare_eq_compare, Option.any_eq_true]
  simp only [Option.bind_eq_some_iff, Option.map_eq_some_iff, Ordering.isLE_iff_ne_gt,
    ← compare_le_iff_le, Option.mem_def, rank]
  constructor
  · rintro ⟨_, ⟨first, here, second, there, rfl⟩, least⟩
    exact ⟨first, here, second, there, least⟩
  · rintro ⟨first, here, second, there, least⟩
    exact ⟨_, ⟨first, here, second, there, rfl⟩, least⟩

theorem lt_irrefl (x : Float) : ¬x < x := by
  rw [lt_iff]
  rintro ⟨first, here, second, there, less⟩
  cases Option.mem_unique here there
  exact less.false

theorem le_of_lt (less : x < y) : x ≤ y := by
  obtain ⟨first, here, second, there, less⟩ := lt_iff.1 less
  exact le_iff.2 ⟨first, here, second, there, less.le⟩

theorem lt_of_lt_of_le (less : x < y) (least : y ≤ z) : x < z := by
  obtain ⟨first, here, second, there, less⟩ := lt_iff.1 less
  obtain ⟨second', there', third, yonder, least⟩ := le_iff.1 least
  cases Option.mem_unique there there'
  exact lt_iff.2 ⟨first, here, third, yonder, less.trans_le least⟩

theorem le_trans (least : x ≤ y) (least' : y ≤ z) : x ≤ z := by
  obtain ⟨first, here, second, there, least⟩ := le_iff.1 least
  obtain ⟨second', there', third, yonder, least'⟩ := le_iff.1 least'
  cases Option.mem_unique there there'
  exact le_iff.2 ⟨first, here, third, yonder, least.trans least'⟩

end Score

/-! ## The best candidate -/

namespace UnitChanges

variable {threshold : Float} {old : UnitState} {offers : List Offer}

/-- Two units have known sources of a similarity. -/
def Scored (old new : UnitState) (score : Float) : Prop :=
  ∃ source source', old.fingerprint.source = some source ∧ new.fingerprint.source = some source' ∧
    Text.similarity source source' = score

theorem score?_eq_some_iff {new : UnitState} {score : Float} :
    score? old new = some score ↔ Scored old new score := by
  simp [score?, Scored, Option.bind_eq_some_iff]

theorem Scored.unique {new : UnitState} {score score' : Float} (scored : Scored old new score)
    (scored' : Scored old new score') : score = score' :=
  Option.some.inj ((score?_eq_some_iff.2 scored).symm.trans (score?_eq_some_iff.2 scored'))

/-- An offer is free, and its unit is similar enough. -/
def Offer.Fits (threshold : Float) (old : UnitState) (offer : Offer) (score : Float) : Prop :=
  offer.taken = false ∧ Scored old offer.unit score ∧ threshold ≤ score

/-- What the best candidate among offers is: none if no offer fits, and otherwise one that fits,
with none that is more similar and none before it that is as similar. -/
inductive IsBest (threshold : Float) (old : UnitState) (offers : List Offer) :
    Option Candidate → Prop where
  | nothing
    (unfit : ∀ (place : Nat) (offer : Offer) (score : Float), offers[place]? = some offer →
      ¬offer.Fits threshold old score) :
    IsBest threshold old offers none
  | chosen {best : Candidate} {offer : Offer} (here : offers[best.place]? = some offer)
    (unit : offer.unit = best.unit) (fits : offer.Fits threshold old best.similarity)
    (highest : ∀ (place : Nat) (other : Offer) (score : Float), offers[place]? = some other →
      other.Fits threshold old score → ¬best.similarity < score ∧
        (place < best.place → ¬best.similarity ≤ score)) :
    IsBest threshold old offers (some best)

/-- A candidate stays unless the offer fits and is more similar. -/
theorem better_cases (threshold : Float) (old : UnitState) (place : Nat) (offer : Offer)
    (best : Option Candidate) :
    (better threshold old place offer best = best ∧
      ∀ score, offer.Fits threshold old score → ∃ top ∈ best, ¬top.similarity < score) ∨
    ∃ score, better threshold old place offer best = some ⟨place, offer.unit, score⟩ ∧
      offer.Fits threshold old score ∧ ∀ top ∈ best, top.similarity < score := by
  rw [better]
  split
  case isTrue taken => exact .inl ⟨rfl, fun score fits => absurd fits.1 (by simp [taken])⟩
  case isFalse free =>
    split
    case h_1 unscored =>
      refine .inl ⟨rfl, fun score fits => ?_⟩
      rw [score?_eq_some_iff.2 fits.2.1] at unscored
      cases unscored
    case h_2 score scored =>
      have fits (reaches : threshold ≤ score) : offer.Fits threshold old score :=
        ⟨eq_false_of_ne_true free, score?_eq_some_iff.1 scored, reaches⟩
      split
      case isTrue higher =>
        simp only [Bool.and_eq_true, decide_eq_true_eq, Option.all_eq_true] at higher
        exact .inr ⟨score, rfl, fits higher.1, higher.2⟩
      case isFalse lower =>
        refine .inl ⟨rfl, fun other fits => ?_⟩
        cases scored.symm.trans (score?_eq_some_iff.2 fits.2.1)
        cases best with
        | none => simp [fits.2.2] at lower
        | some top => exact ⟨top, rfl, by simpa [fits.2.2] using lower⟩

theorem getElem?_concat {front : List Offer} {offer other : Offer} {place : Nat} :
    (front ++ [offer])[place]? = some other ↔
      front[place]? = some other ∨ place = front.length ∧ offer = other := by
  rcases Nat.lt_trichotomy place front.length with before | rfl | after
  · rw [List.getElem?_append_left before]
    exact ⟨.inl, fun found => found.resolve_right fun last => absurd last.1 (Nat.ne_of_lt before)⟩
  · simp
  · have beyond : (front ++ [offer]).length ≤ place := by
      rw [List.length_append]
      exact after
    rw [List.getElem?_eq_none beyond, List.getElem?_eq_none (Nat.le_of_lt after)]
    simp [Nat.ne_of_gt after]

/-- What is best among some offers and one more. -/
theorem isBest_better {front : List Offer} {best : Option Candidate}
    (isBest : IsBest threshold old front best) (offer : Offer) :
    IsBest threshold old (front ++ [offer]) (better threshold old front.length offer best) := by
  rcases better_cases threshold old front.length offer best with
    ⟨same, covered⟩ | ⟨score, same, fits, higher⟩
  · rw [same]
    cases isBest with
    | nothing unfit =>
      refine .nothing fun place other score found fits => ?_
      rcases getElem?_concat.1 found with before | ⟨rfl, rfl⟩
      · exact unfit place other score before fits
      · obtain ⟨top, member, -⟩ := covered score fits
        cases member
    | @chosen best _ here unit fits highest =>
      refine .chosen (getElem?_concat.2 (.inl here)) unit fits
        fun place other score found fits' => ?_
      rcases getElem?_concat.1 found with before | ⟨rfl, rfl⟩
      · exact highest place other score before fits'
      · obtain ⟨top, member, lower⟩ := covered score fits'
        cases member
        have bound := (List.getElem?_eq_some_iff.1 here).1
        exact ⟨lower, fun before => absurd before (by omega)⟩
  · rw [same]
    refine .chosen (getElem?_concat.2 (.inr ⟨rfl, rfl⟩)) rfl fits
      fun place other score' found fits' => ?_
    rcases getElem?_concat.1 found with before | ⟨rfl, rfl⟩
    · cases isBest with
      | nothing unfit => exact absurd fits' (unfit place other score' before)
      | @chosen best _ here unit fits highest =>
        have lower := (highest place other score' before fits').1
        have rises := higher best rfl
        constructor
        · exact fun less => lower (Score.lt_of_lt_of_le rises (Score.le_of_lt less))
        · exact fun _ least => lower (Score.lt_of_lt_of_le rises least)
    · rw [← fits.2.1.unique fits'.2.1]
      exact ⟨Score.lt_irrefl score, fun before => absurd before (Nat.lt_irrefl _)⟩

/-- What the search finds among the offers that are left is best among all. -/
theorem isBest_append {front : List Offer} {best : Option Candidate}
    (isBest : IsBest threshold old front best) (rest : List Offer) :
    IsBest threshold old (front ++ rest) (bestFrom threshold old front.length best rest) := by
  induction rest generalizing front best with
  | nil =>
    rw [List.append_nil, bestFrom]
    exact isBest
  | cons offer rest ih =>
    have later := ih (isBest_better isBest offer)
    rwa [List.append_assoc, List.singleton_append, List.length_append,
      List.length_singleton] at later

theorem isBest_bestFrom (threshold : Float) (old : UnitState) (offers : List Offer) :
    IsBest threshold old offers (bestFrom threshold old 0 none offers) := by
  have nothing : IsBest threshold old [] none :=
    .nothing fun place offer score found => by cases found
  exact isBest_append nothing offers

/-! ## Pairing -/

theorem pairAll_of_none {rest : List UnitState}
    (nothing : bestFrom threshold old 0 none offers = none) :
    pairAll threshold (old :: rest) offers =
      { pairAll threshold rest offers with
        deleted := old :: (pairAll threshold rest offers).deleted } := by
  rw [pairAll, nothing]

/-- The rename of a unit into a candidate. -/
def renameTo (old : UnitState) (best : Candidate) : UnitRename :=
  ⟨old.name, best.unit.name, old.fingerprint, best.unit.fingerprint, best.similarity⟩

theorem pairAll_of_some {rest : List UnitState} {best : Candidate}
    (found : bestFrom threshold old 0 none offers = some best) :
    pairAll threshold (old :: rest) offers =
      { pairAll threshold rest (offers.modify best.place Offer.take) with
        renamed := renameTo old best ::
          (pairAll threshold rest (offers.modify best.place Offer.take)).renamed } := by
  rw [pairAll, found]
  rfl

/-- The places of the offers that the deleted units take, in their order. -/
def choices (threshold : Float) :
    (deleted : List UnitState) → (offers : List Offer) → List (Option Nat)
  | [], _ => []
  | old :: rest, offers =>
    match bestFrom threshold old 0 none offers with
    | none => none :: choices threshold rest offers
    | some best => some best.place :: choices threshold rest (offers.modify best.place Offer.take)

/-- What stands at a place and is free. -/
def standing (offers : List Offer) (place : Nat) : Option UnitState :=
  (offers[place]?.filter (!·.taken)).map (·.unit)

theorem standing_eq_some_iff {place : Nat} {unit : UnitState} :
    standing offers place = some unit ↔
      ∃ offer, offers[place]? = some offer ∧ offer.taken = false ∧ offer.unit = unit := by
  simp [standing, Option.filter_eq_some_iff, and_assoc]

/-- What stands after a place was taken. -/
def without (place : Nat) (standing : Nat → Option UnitState) (other : Nat) : Option UnitState :=
  if other = place then none else standing other

theorem without_eq_some_iff {standing : Nat → Option UnitState} {place other : Nat}
    {unit : UnitState} :
    without place standing other = some unit ↔ other ≠ place ∧ standing other = some unit := by
  rw [without, Option.ite_none_left_eq_some]

theorem standing_take (offers : List Offer) (place : Nat) :
    standing (offers.modify place Offer.take) = without place (standing offers) := by
  funext other
  rw [standing, without, standing]
  split_ifs with same
  · cases found : offers[other]? with
    | none => simp [← same, found]
    | some offer => simp [← same, found, Offer.take]
  · rw [List.getElem?_modify_ne _ _ (Ne.symm same)]

/-- A matching of deleted units with what stands at some places, given by the place of each unit's
partner. No place is taken twice. A unit with a partner is similar enough to it, and of what no
earlier unit has taken nothing is more similar and nothing before the partner is as similar. Nothing
that is left to a unit without a partner is similar enough. -/
structure GreedyMatching (threshold : Float) (deleted : List UnitState)
    (standing : Nat → Option UnitState) (partners : List (Option Nat)) : Prop where
  length_eq : partners.length = deleted.length
  one_to_one : (partners.filterMap id).Nodup
  takes : ∀ {position place : Nat}, partners[position]? = some (some place) →
    ∃ old new score, deleted[position]? = some old ∧ standing place = some new ∧
      Scored old new score ∧ threshold ≤ score ∧
      ∀ place' other score', standing place' = some other → some place' ∉ partners.take position →
        Scored old other score' → ¬score < score' ∧ (place' < place → ¬score ≤ score')
  leaves : ∀ {position : Nat} {old : UnitState}, partners[position]? = some none →
    deleted[position]? = some old → ∀ place new score, standing place = some new →
      some place ∉ partners.take position → Scored old new score → ¬threshold ≤ score

namespace GreedyMatching

variable {deleted : List UnitState} {standing : Nat → Option UnitState}
  {partners : List (Option Nat)}

theorem nil : GreedyMatching threshold [] standing [] where
  length_eq := rfl
  one_to_one := .nil
  takes := by simp
  leaves := by simp

/-- A unit that nothing is similar to stays without a partner. -/
theorem skip (greedy : GreedyMatching threshold deleted standing partners)
    (unfit : ∀ place new score, standing place = some new → Scored old new score →
      ¬threshold ≤ score) :
    GreedyMatching threshold (old :: deleted) standing (none :: partners) where
  length_eq := by rw [List.length_cons, List.length_cons, greedy.length_eq]
  one_to_one := by simpa using greedy.one_to_one
  takes := by
    intro position place found
    cases position with
    | zero => simp at found
    | succ position => simpa using greedy.takes (by simpa using found)
  leaves := by
    intro position other here listed
    cases position with
    | zero =>
      cases listed
      exact fun place new score stands _ => unfit place new score stands
    | succ position => simpa using greedy.leaves (by simpa using here) (by simpa using listed)

/-- A unit takes the most similar of what stands, and the others choose from the rest. -/
theorem take {place : Nat} {new : UnitState} {score : Float}
    (greedy : GreedyMatching threshold deleted (without place standing) partners)
    (stands : standing place = some new) (scored : Scored old new score)
    (reaches : threshold ≤ score)
    (highest : ∀ place' other score', standing place' = some other → Scored old other score' →
      ¬score < score' ∧ (place' < place → ¬score ≤ score')) :
    GreedyMatching threshold (old :: deleted) standing (some place :: partners) where
  length_eq := by rw [List.length_cons, List.length_cons, greedy.length_eq]
  one_to_one := by
    have fresh : some place ∉ partners := by
      intro member
      obtain ⟨position, found⟩ := List.mem_iff_getElem?.1 member
      obtain ⟨_, _, _, _, stands, _⟩ := greedy.takes found
      exact (without_eq_some_iff.1 stands).1 rfl
    simpa using ⟨fresh, greedy.one_to_one⟩
  takes := by
    intro position other found
    cases position with
    | zero =>
      cases found
      exact ⟨old, new, score, rfl, stands, scored, reaches,
        fun place' other score' stands _ => highest place' other score' stands⟩
    | succ position =>
      obtain ⟨old, new, score, listed, stands, scored, reaches, highest⟩ := greedy.takes found
      refine ⟨old, new, score, listed, (without_eq_some_iff.1 stands).2, scored, reaches, ?_⟩
      intro place' other score' stands' free
      rw [List.take_succ_cons, List.mem_cons, not_or, Option.some_inj] at free
      exact highest place' other score' (without_eq_some_iff.2 ⟨free.1, stands'⟩) free.2
  leaves := by
    intro position unit here listed place' other score' stands' free
    cases position with
    | zero => cases here
    | succ position =>
      rw [List.take_succ_cons, List.mem_cons, not_or, Option.some_inj] at free
      exact greedy.leaves here listed place' other score'
        (without_eq_some_iff.2 ⟨free.1, stands'⟩) free.2

end GreedyMatching

/-- What is best among offers is most similar among all that stand. -/
theorem highest_of_isBest {best : Candidate} (isBest : IsBest threshold old offers (some best)) :
    standing offers best.place = some best.unit ∧ Scored old best.unit best.similarity ∧
      threshold ≤ best.similarity ∧ ∀ place other score, standing offers place = some other →
        Scored old other score →
          ¬best.similarity < score ∧ (place < best.place → ¬best.similarity ≤ score) := by
  cases isBest with
  | @chosen _ offer here unit fits highest =>
    obtain ⟨free, scored, reaches⟩ := fits
    refine ⟨standing_eq_some_iff.2 ⟨offer, here, free, unit⟩, unit ▸ scored, reaches, ?_⟩
    intro place other score stands scored'
    obtain ⟨offer', there, free', rfl⟩ := standing_eq_some_iff.1 stands
    by_cases reaches' : threshold ≤ score
    · exact highest place offer' score there ⟨free', scored', reaches'⟩
    · exact ⟨fun less => reaches' (Score.le_trans reaches (Score.le_of_lt less)),
        fun _ least => reaches' (Score.le_trans reaches least)⟩

/-- The choices of the deleted units are a greedy matching. -/
theorem greedyMatching_choices (threshold : Float) (deleted : List UnitState)
    (offers : List Offer) :
    GreedyMatching threshold deleted (standing offers) (choices threshold deleted offers) := by
  induction deleted generalizing offers with
  | nil => exact .nil
  | cons old rest ih =>
    have isBest := isBest_bestFrom threshold old offers
    rw [choices]
    cases found : bestFrom threshold old 0 none offers with
    | none =>
      rw [found] at isBest
      cases isBest with
      | nothing unfit =>
        refine (ih offers).skip fun place new score stands scored reaches => ?_
        obtain ⟨offer, here, free, rfl⟩ := standing_eq_some_iff.1 stands
        exact unfit place offer score here ⟨free, scored, reaches⟩
    | some best =>
      rw [found] at isBest
      obtain ⟨stands, scored, reaches, highest⟩ := highest_of_isBest isBest
      have later := ih (offers.modify best.place Offer.take)
      rw [standing_take] at later
      exact later.take stands scored reaches highest

/-! ## What becomes of a report -/

/-- The deleted units with a partner, each with its place. -/
def paired (deleted : List UnitState) (partners : List (Option Nat)) : List (UnitState × Nat) :=
  (deleted.zip partners).filterMap fun entry => entry.2.map fun place => (entry.1, place)

/-- A rename of a deleted unit into what stands at a place. -/
def Renames (standing : Nat → Option UnitState) (pair : UnitState × Nat) (rename : UnitRename) :
    Prop :=
  ∃ new, standing pair.2 = some new ∧ Scored pair.1 new rename.similarity ∧
    rename = ⟨pair.1.name, new.name, pair.1.fingerprint, new.fingerprint, rename.similarity⟩

/-- A report after matching: the deleted units with a partner are renamed into it, in order, and all
other units stay where they are. -/
structure Realizes (partners : List (Option Nat)) (before after : UnitChanges) : Prop where
  renamed : ∃ renames, after.renamed = before.renamed ++ renames ∧
    List.Forall₂ (Renames (before.added[·]?)) (paired before.deleted partners) renames
  deleted : after.deleted = ((before.deleted.zip partners).filter (·.2.isNone)).map (·.1)
  added : after.added = (before.added.zipIdx.filter fun entry => some entry.2 ∉ partners).map (·.1)
  modified : after.modified = before.modified
  unchanged : after.unchanged = before.unchanged

theorem choices_of_none {rest : List UnitState}
    (nothing : bestFrom threshold old 0 none offers = none) :
    choices threshold (old :: rest) offers = none :: choices threshold rest offers := by
  rw [choices, nothing]

theorem choices_of_some {rest : List UnitState} {best : Candidate}
    (found : bestFrom threshold old 0 none offers = some best) :
    choices threshold (old :: rest) offers =
      some best.place :: choices threshold rest (offers.modify best.place Offer.take) := by
  rw [choices, found]

theorem deleted_pairAll (threshold : Float) (deleted : List UnitState) (offers : List Offer) :
    (pairAll threshold deleted offers).deleted =
      ((deleted.zip (choices threshold deleted offers)).filter (·.2.isNone)).map (·.1) := by
  induction deleted generalizing offers with
  | nil => rfl
  | cons old rest ih =>
    cases found : bestFrom threshold old 0 none offers with
    | none => simp [pairAll_of_none found, choices_of_none found, ih]
    | some best => simp [pairAll_of_some found, choices_of_some found, ih]

theorem renamed_pairAll (threshold : Float) (deleted : List UnitState) (offers : List Offer) :
    List.Forall₂ (Renames (standing offers)) (paired deleted (choices threshold deleted offers))
      (pairAll threshold deleted offers).renamed := by
  induction deleted generalizing offers with
  | nil => exact .nil
  | cons old rest ih =>
    cases found : bestFrom threshold old 0 none offers with
    | none =>
      rw [pairAll_of_none found, choices_of_none found]
      exact ih offers
    | some best =>
      have isBest := isBest_bestFrom threshold old offers
      rw [found] at isBest
      obtain ⟨stands, scored, -⟩ := highest_of_isBest isBest
      rw [pairAll_of_some found, choices_of_some found]
      refine .cons ⟨best.unit, stands, scored, rfl⟩ ((ih _).imp ?_)
      rintro pair rename ⟨new, stands, scored, same⟩
      rw [standing_take, without_eq_some_iff] at stands
      exact ⟨new, stands.2, scored, same⟩

/-- The offers that are chosen are taken, and the others are as before. -/
theorem offers_pairAll (threshold : Float) (deleted : List UnitState) (offers : List Offer) :
    (pairAll threshold deleted offers).offers = offers.mapIdx fun place offer =>
      if some place ∈ choices threshold deleted offers then offer.take else offer := by
  induction deleted generalizing offers with
  | nil =>
    apply List.ext_getElem?
    simp [pairAll, choices]
  | cons old rest ih =>
    cases found : bestFrom threshold old 0 none offers with
    | none => simp [pairAll_of_none found, choices_of_none found, ih]
    | some best =>
      simp only [pairAll_of_some found, choices_of_some found, ih]
      apply List.ext_getElem?
      intro place
      rw [List.getElem?_mapIdx, List.getElem?_mapIdx]
      by_cases same : place = best.place
      · rw [same, List.getElem?_modify_eq]
        cases offers[best.place]? with
        | none => rfl
        | some offer => simp [Offer.take]
      · rw [List.getElem?_modify_ne _ _ (Ne.symm same)]
        simp [same]

theorem standing_map (added : List UnitState) :
    standing (added.map fun unit => { unit }) = (added[·]?) := by
  funext place
  rw [standing, List.getElem?_map]
  cases added[place]? with
  | none => rfl
  | some unit => rfl

/-- The units that are free after some places were taken. -/
theorem freeUnits_mapIdx (added : List UnitState) (partners : List (Option Nat)) :
    freeUnits ((added.map fun unit => { unit }).mapIdx fun place offer =>
      if some place ∈ partners then offer.take else offer) =
      (added.zipIdx.filter fun entry => some entry.2 ∉ partners).map (·.1) := by
  have kept (unit : UnitState) (place : Nat) :
      (if some place ∈ partners then Offer.take { unit } else { unit }) =
        ⟨unit, decide (some place ∈ partners)⟩ := by
    split_ifs with taken <;> simp [Offer.take, taken]
  rw [freeUnits, List.mapIdx_eq_zipIdx_map, List.zipIdx_map, List.map_map, List.filter_map,
    List.map_map]
  simp only [Function.comp_def, Prod.map, kept]
  simp

theorem realizes_matchRenames (threshold : Float) (changes : UnitChanges) :
    Realizes
      (choices threshold changes.deleted (changes.added.map fun unit => { unit })) changes
      (matchRenames threshold changes) := by
  rw [matchRenames]
  constructor
  case renamed =>
    rw [← standing_map]
    exact ⟨_, rfl, renamed_pairAll ..⟩
  case deleted => exact deleted_pairAll ..
  case added => rw [offers_pairAll, freeUnits_mapIdx]
  case modified => rfl
  case unchanged => rfl

/-- After matching, nothing that is still added is similar enough to a unit that is still
deleted. -/
theorem Realizes.maximal {partners : List (Option Nat)} {before after : UnitChanges}
    (realizes : Realizes partners before after)
    (greedy : GreedyMatching threshold before.deleted (before.added[·]?) partners)
    {old new : UnitState} {score : Float} (gone : old ∈ after.deleted) (fresh : new ∈ after.added)
    (scored : Scored old new score) : ¬threshold ≤ score := by
  rw [realizes.deleted, List.mem_map] at gone
  rw [realizes.added, List.mem_map] at fresh
  obtain ⟨⟨_, partner⟩, listed, rfl⟩ := gone
  obtain ⟨⟨other, place⟩, listed', rfl⟩ := fresh
  obtain ⟨member, single⟩ := List.mem_filter.1 listed
  obtain ⟨member', free⟩ := List.mem_filter.1 listed'
  obtain ⟨position, found⟩ := List.mem_iff_getElem?.1 member
  obtain ⟨here, there⟩ := List.getElem?_zip_eq_some.1 found
  rw [Option.isNone_iff_eq_none] at single
  refine greedy.leaves (single ▸ there) here place other score
    (List.mem_zipIdx_iff_getElem?.1 member') ?_ scored
  exact fun taken => of_decide_eq_true free (List.mem_of_mem_take taken)

theorem Realizes.deleted_sublist {partners : List (Option Nat)} {before after : UnitChanges}
    (realizes : Realizes partners before after) (whole : partners.length = before.deleted.length) :
    after.deleted.Sublist before.deleted := by
  have all : (before.deleted.zip partners).map (·.1) = before.deleted :=
    List.map_fst_zip (Nat.le_of_eq whole.symm)
  have part : (((before.deleted.zip partners).filter (·.2.isNone)).map (·.1)).Sublist
      ((before.deleted.zip partners).map (·.1)) := List.filter_sublist.map _
  rwa [all, ← realizes.deleted] at part

theorem Realizes.added_sublist {partners : List (Option Nat)} {before after : UnitChanges}
    (realizes : Realizes partners before after) : after.added.Sublist before.added := by
  have all : before.added.zipIdx.map (·.1) = before.added := List.zipIdx_map_fst ..
  have part : ((before.added.zipIdx.filter fun entry => some entry.2 ∉ partners).map (·.1)).Sublist
      (before.added.zipIdx.map (·.1)) := List.filter_sublist.map _
  rwa [all, ← realizes.added] at part

/-- The order of units by their lines and then by their names. -/
def Earlier (first second : UnitState) : Prop :=
  first.fingerprint.line < second.fingerprint.line ∨
    first.fingerprint.line = second.fingerprint.line ∧ first.name < second.name

/-- The units that are gone are in the order of their old lines and then of their names. -/
theorem pairwise_gone (prior : KeyMap Fingerprint) (current : List UnitState) :
    (gone prior current).Pairwise Earlier := by
  have named : ((prior.entries.filter fun entry => !current.any (·.name = entry.1)).map
      fun entry => (⟨entry.1, entry.2⟩ : UnitState)).Pairwise
        fun first second => first.name < second.name := by
    rw [List.pairwise_map]
    exact prior.sorted.filter _
  rw [gone]
  refine (Order.pairwise_sortBy_stable (fun first second after => ?_) (fun before after => ?_)
    named).imp ?_
  · rw [decide_eq_false_iff_not, UInt32.not_le] at after
    exact decide_eq_true (UInt32.le_of_lt after)
  · rw [decide_eq_true_eq] at before after ⊢
    exact UInt32.le_trans before after
  · rintro first second ⟨before, stable⟩
    rw [decide_eq_true_eq] at before stable
    rcases UInt32.lt_or_eq_of_le before with less | same
    · exact .inl less
    · exact .inr ⟨same, stable (same ▸ UInt32.le_refl _)⟩

/-! ## Nothing is lost -/

theorem perm_freeUnits_take {offers : List Offer} {place : Nat} {unit : UnitState}
    (stands : standing offers place = some unit) :
    (unit :: freeUnits (offers.modify place Offer.take)).Perm (freeUnits offers) := by
  induction offers generalizing place with
  | nil => simp [standing] at stands
  | cons first rest ih =>
    cases place with
    | zero =>
      obtain ⟨offer, here, free, rfl⟩ := standing_eq_some_iff.1 stands
      cases here
      simp [freeUnits, free, Offer.take]
    | succ place =>
      have later : (unit :: freeUnits (rest.modify place Offer.take)).Perm (freeUnits rest) :=
        ih (by simpa [standing] using stands)
      cases taken : first.taken with
      | true => simpa [freeUnits, taken] using later
      | false =>
        have swapped := (List.Perm.swap first.unit unit _).trans (later.cons first.unit)
        simpa [freeUnits, taken] using swapped

/-- The old side of a rename. -/
def oldSide (rename : UnitRename) : UnitState := ⟨rename.oldName, rename.old⟩

/-- The new side of a rename. -/
def newSide (rename : UnitRename) : UnitState := ⟨rename.newName, rename.new⟩

theorem perm_pairAll_deleted (threshold : Float) (deleted : List UnitState) (offers : List Offer) :
    ((pairAll threshold deleted offers).deleted ++
      (pairAll threshold deleted offers).renamed.map oldSide).Perm deleted := by
  induction deleted generalizing offers with
  | nil => exact .refl _
  | cons old rest ih =>
    cases found : bestFrom threshold old 0 none offers with
    | none =>
      rw [pairAll_of_none found]
      exact (ih offers).cons old
    | some best =>
      rw [pairAll_of_some found]
      exact List.perm_middle.trans ((ih _).cons old)

theorem perm_pairAll_offers (threshold : Float) (deleted : List UnitState) (offers : List Offer) :
    (freeUnits (pairAll threshold deleted offers).offers ++
      (pairAll threshold deleted offers).renamed.map newSide).Perm (freeUnits offers) := by
  induction deleted generalizing offers with
  | nil => simp [pairAll]
  | cons old rest ih =>
    cases found : bestFrom threshold old 0 none offers with
    | none =>
      rw [pairAll_of_none found]
      exact ih offers
    | some best =>
      have isBest := isBest_bestFrom threshold old offers
      rw [found] at isBest
      have taken := perm_freeUnits_take (highest_of_isBest isBest).1
      rw [pairAll_of_some found]
      exact List.perm_middle.trans (((ih _).cons best.unit).trans taken)

/-- The old sides of the renames are units that were deleted. -/
theorem perm_matchRenames_deleted (threshold : Float) (changes : UnitChanges) :
    ((matchRenames threshold changes).deleted ++
      (matchRenames threshold changes).renamed.map oldSide).Perm
        (changes.deleted ++ changes.renamed.map oldSide) := by
  rw [matchRenames, List.map_append]
  refine (List.perm_append_comm.append_left _).trans ?_
  rw [← List.append_assoc]
  exact (perm_pairAll_deleted ..).append_right _

/-- The new sides of the renames are units that were added. -/
theorem perm_matchRenames_added (threshold : Float) (changes : UnitChanges) :
    ((matchRenames threshold changes).added ++
      (matchRenames threshold changes).renamed.map newSide).Perm
        (changes.added ++ changes.renamed.map newSide) := by
  have free : freeUnits (changes.added.map fun unit => { unit }) = changes.added := by
    rw [freeUnits, List.filter_eq_self.2 (by simp), List.map_map]
    exact List.map_id _
  rw [matchRenames, List.map_append]
  refine (List.perm_append_comm.append_left _).trans ?_
  rw [← List.append_assoc]
  exact (free ▸ perm_pairAll_offers ..).append_right _

/-- Looking for renames is a maximal greedy matching that is one to one, whatever the report and the
threshold. The deleted units of a comparison are matched in the order of their old lines and then of
their names. -/
theorem renames_are_greedy_matching (threshold : Float) (changes : UnitChanges) :
    (∃ partners, GreedyMatching threshold changes.deleted (changes.added[·]?) partners ∧
      Realizes partners changes (matchRenames threshold changes)) ∧
    (∀ old ∈ (matchRenames threshold changes).deleted,
      ∀ new ∈ (matchRenames threshold changes).added, ∀ score, Scored old new score →
        ¬threshold ≤ score) ∧
    ∀ file prior current, (classify file prior current).deleted.Pairwise Earlier := by
  have greedy := greedyMatching_choices threshold changes.deleted
    (changes.added.map fun unit => { unit })
  rw [standing_map] at greedy
  have realizes := realizes_matchRenames threshold changes
  refine ⟨⟨_, greedy, realizes⟩, ?_, fun file prior current => pairwise_gone prior current⟩
  intro old gone new fresh score scored
  exact realizes.maximal greedy gone fresh scored

end UnitChanges

end SourceIndex
