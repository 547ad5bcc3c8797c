import SourceIndex.Text.Basic

/-!
# Layout of source text

The layout-free form of a source text: white space disappears, except that one space stays between
two identifier characters, so that words do not run together. Two texts have the same form exactly
when one is a reformatting of the other.
-/

namespace SourceIndex.Text

/-- The layout-free form of the characters that follow `last`, where `gap` tells whether white
space stood since. -/
def unlay (last : Option Char) (gap : Bool) : List Char → List Char
  | [] => []
  | c :: rest =>
    if isBlank c then unlay last true rest
    else if gap && last.any isNameChar && isNameChar c then ' ' :: c :: unlay (some c) false rest
    else c :: unlay (some c) false rest

/-- The layout-free form of a source text. -/
def normalize (source : String) : String := String.ofList (unlay none false source.toList)

/-- How many positions hold the same character in both texts. -/
def agreements : List Char → List Char → Nat
  | a :: as, b :: bs => (if a = b then 1 else 0) + agreements as bs
  | _, _ => 0

/-- The positions that agree in the layout-free forms, and the length of the longer form. -/
def overlap (a b : String) : Nat × Nat :=
  let a := (normalize a).toList
  let b := (normalize b).toList
  (agreements a b, max a.length b.length)

/-- The share of agreeing positions; two texts without content are alike. -/
def similarity (a b : String) : Float :=
  let (matching, longest) := overlap a b
  if longest = 0 then 1.0 else Float.ofNat matching / Float.ofNat longest

end SourceIndex.Text
