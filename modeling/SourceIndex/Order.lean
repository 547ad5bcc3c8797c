/-!
# Sorting

A stable sort by insertion, for lists of any kind. It recurses on the list, so that sorted lists can
be computed in proofs, which `List.mergeSort` does not allow.
-/

namespace SourceIndex.Order

variable {α : Type}

/-- `item` in front of the first element that it does not have to follow. -/
def insertBy (le : α → α → Bool) (item : α) : List α → List α
  | [] => [item]
  | other :: rest => if le item other then item :: other :: rest else other :: insertBy le item rest

/-- The items in the order of `le`; items that `le` does not tell apart keep their order. -/
def sortBy (le : α → α → Bool) : List α → List α
  | [] => []
  | item :: rest => insertBy le item (sortBy le rest)

/-- The items without those that repeat their predecessor. -/
def dropRepeats [DecidableEq α] : List α → List α
  | [] => []
  | [item] => [item]
  | item :: next :: rest =>
    if item = next then dropRepeats (next :: rest) else item :: dropRepeats (next :: rest)

/-- Texts in byte order. -/
def sortTexts (texts : List String) : List String := sortBy (fun a b => decide (a ≤ b)) texts

/-- A text put in its place among texts in byte order, unless it is one of them. -/
def insertText (text : String) (texts : List String) : List String :=
  if texts.contains text then texts else insertBy (fun a b => decide (a ≤ b)) text texts

/-- Texts in byte order, each one once. -/
def distinctTexts (texts : List String) : List String := dropRepeats (sortTexts texts)

end SourceIndex.Order
