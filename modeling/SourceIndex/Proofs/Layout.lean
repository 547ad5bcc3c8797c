import Mathlib.Data.List.Basic
import SourceIndex.Text.Layout

/-!
# What the layout-free form tells

The layout-free form of a text tells which characters the text has besides white space, and between
which name characters of them white space stands. It tells nothing else, so two texts have the same
form exactly if one is a reformatting of the other.
-/

namespace SourceIndex.Text

/-! ## Reformatting -/

/-- The characters of a text that are not white space. -/
def ink (text : List Char) : List Char := text.filter (!isBlank ·)

/-- White space stands between the ink at a place and the ink that follows it. -/
def Parted (text : List Char) (place : Nat) : Prop :=
  ∃ front first gap second back, text = front ++ first :: (gap ++ second :: back) ∧
    (ink front).length = place ∧ isBlank first = false ∧ isBlank second = false ∧
    gap ≠ [] ∧ ∀ c ∈ gap, isBlank c = true

/-- Two texts have the same ink, and name characters that follow one another there are parted in
both texts or in neither. -/
structure Reformats (text other : List Char) : Prop where
  ink_eq : ink text = ink other
  parted_iff : ∀ {place : Nat} {first second : Char}, (ink text)[place]? = some first →
    (ink text)[place + 1]? = some second → isNameChar first = true → isNameChar second = true →
    (Parted text place ↔ Parted other place)

/-- White space occurs only as single spaces, each of them between two name characters. -/
def SingleSpaced (text : List Char) : Prop :=
  ∀ front c back, text = front ++ c :: back → isBlank c = true →
    c = ' ' ∧ (∃ before ∈ front.getLast?, isNameChar before = true) ∧
      ∃ after ∈ back.head?, isNameChar after = true

/-! ## Glyphs -/

/-- A character that is not white space, and whether white space stands right before it. -/
structure Glyph where
  char : Char
  apart : Bool

/-- The glyphs of a text, where `gap` tells whether white space stands before the text. -/
def glyphs (gap : Bool) : List Char → List Glyph
  | [] => []
  | c :: rest => if isBlank c then glyphs true rest else ⟨c, gap⟩ :: glyphs false rest

theorem glyphs_cons_of_blank {gap : Bool} {c : Char} {rest : List Char} (blank : isBlank c = true) :
    glyphs gap (c :: rest) = glyphs true rest := if_pos blank

theorem glyphs_cons {gap : Bool} {c : Char} {rest : List Char} (inked : isBlank c = false) :
    glyphs gap (c :: rest) = ⟨c, gap⟩ :: glyphs false rest := if_neg (by simp [inked])

theorem map_char_glyphs (gap : Bool) (text : List Char) :
    (glyphs gap text).map Glyph.char = ink text := by
  induction text generalizing gap with
  | nil => rfl
  | cons c rest ih =>
    cases kind : isBlank c with
    | true =>
      rw [glyphs_cons_of_blank kind, ih, ink, ink]
      simp [kind]
    | false =>
      rw [glyphs_cons kind, List.map_cons, ih, ink, ink]
      simp [kind]

theorem not_blank_of_mem_glyphs {gap : Bool} {text : List Char} {glyph : Glyph}
    (member : glyph ∈ glyphs gap text) : isBlank glyph.char = false := by
  have inked := List.mem_map_of_mem (f := Glyph.char) member
  rw [map_char_glyphs, ink, List.mem_filter] at inked
  simpa using inked.2

/-- White space in front of a text only leaves a gap there. -/
theorem glyphs_append_of_blank {blanks : List Char} (blank : ∀ c ∈ blanks, isBlank c = true)
    (gap : Bool) (text : List Char) :
    glyphs gap (blanks ++ text) = glyphs (gap || !blanks.isEmpty) text := by
  induction blanks generalizing gap with
  | nil => simp
  | cons c blanks ih =>
    rw [List.cons_append, glyphs_cons_of_blank (blank c (List.mem_cons_self ..)),
      ih fun d member => blank d (List.mem_cons_of_mem _ member)]
    simp

/-- The first glyph of a text is its first character that is not white space. -/
theorem exists_of_glyphs_eq_cons {gap : Bool} {text : List Char} {glyph : Glyph}
    {later : List Glyph} (found : glyphs gap text = glyph :: later) :
    ∃ blanks rest, text = blanks ++ glyph.char :: rest ∧ (∀ c ∈ blanks, isBlank c = true) ∧
      isBlank glyph.char = false ∧ glyph.apart = (gap || !blanks.isEmpty) ∧
      later = glyphs false rest := by
  induction text generalizing gap with
  | nil => simp [glyphs] at found
  | cons c rest ih =>
    cases kind : isBlank c with
    | true =>
      rw [glyphs_cons_of_blank kind] at found
      obtain ⟨blanks, rest', same, blank, inked, apart, later⟩ := ih found
      refine ⟨c :: blanks, rest', by rw [same, List.cons_append], ?_, inked, by simp [apart], later⟩
      intro d member
      cases List.mem_cons.1 member with
      | inl here => exact here ▸ kind
      | inr there => exact blank d there
    | false =>
      rw [glyphs_cons kind] at found
      cases found
      exact ⟨[], rest, rfl, by simp, kind, by simp, rfl⟩

theorem exists_glyphs_append (gap : Bool) (front text : List Char) :
    ∃ gap', glyphs gap (front ++ text) = glyphs gap front ++ glyphs gap' text := by
  induction front generalizing gap with
  | nil => exact ⟨gap, rfl⟩
  | cons c front ih =>
    rw [List.cons_append]
    cases kind : isBlank c with
    | true =>
      rw [glyphs_cons_of_blank kind, glyphs_cons_of_blank kind]
      exact ih true
    | false =>
      obtain ⟨gap', split⟩ := ih false
      exact ⟨gap', by rw [glyphs_cons kind, glyphs_cons kind, split, List.cons_append]⟩

theorem ink_eq_nil_of_blank {blanks : List Char} (blank : ∀ c ∈ blanks, isBlank c = true) :
    ink blanks = [] := by
  rw [ink, List.filter_eq_nil_iff]
  intro c member
  simp [blank c member]

/-- A gap in front of ink carries over to a longer text. -/
theorem Parted.append {text : List Char} {place : Nat} (parted : Parted text place)
    (before : List Char) : Parted (before ++ text) ((ink before).length + place) := by
  obtain ⟨front, first, gap, second, back, rfl, rfl, rest⟩ := parted
  refine ⟨before ++ front, first, gap, second, back, by rw [List.append_assoc], ?_, rest⟩
  simp [ink]

theorem parted_of_apart {gap : Bool} {text : List Char} {place : Nat} {glyph : Glyph}
    (found : (glyphs gap text)[place + 1]? = some glyph) (apart : glyph.apart = true) :
    Parted text place := by
  induction place generalizing gap text with
  | zero =>
    cases listed : glyphs gap text with
    | nil => simp [listed] at found
    | cons first later =>
      obtain ⟨blanks, rest, rfl, blank, inked, -, rfl⟩ := exists_of_glyphs_eq_cons listed
      rw [listed, List.getElem?_cons_succ, ← List.head?_eq_getElem?] at found
      obtain ⟨later, listed⟩ := List.head?_eq_some_iff.1 found
      obtain ⟨gap, back, rfl, blank', inked', apart', -⟩ := exists_of_glyphs_eq_cons listed
      refine ⟨blanks, first.char, gap, glyph.char, back, rfl, ?_, inked, inked', ?_, blank'⟩
      · rw [ink_eq_nil_of_blank blank, List.length_nil]
      · rintro rfl
        simp [apart] at apart'
  | succ place ih =>
    cases listed : glyphs gap text with
    | nil => simp [listed] at found
    | cons first later =>
      obtain ⟨blanks, rest, rfl, blank, inked, -, rfl⟩ := exists_of_glyphs_eq_cons listed
      rw [listed, List.getElem?_cons_succ] at found
      have parted := (ih found).append (blanks ++ [first.char])
      have count : (ink (blanks ++ [first.char])).length = 1 := by
        rw [ink, List.filter_append, ← ink, ink_eq_nil_of_blank blank]
        simp [inked]
      rw [count, List.append_assoc, List.singleton_append, Nat.add_comm] at parted
      exact parted

/-- Ink is parted from the ink before it if its glyph says so. -/
theorem parted_iff {text : List Char} {place : Nat} :
    Parted text place ↔
      ∃ glyph, (glyphs false text)[place + 1]? = some glyph ∧ glyph.apart = true := by
  constructor
  · rintro ⟨front, first, gap, second, back, rfl, rfl, inked, inked', nonempty, blank⟩
    obtain ⟨gap', split⟩ := exists_glyphs_append false front (first :: (gap ++ second :: back))
    have count : (glyphs false front).length = (ink front).length := by
      rw [← map_char_glyphs false front, List.length_map]
    have wide : gap.isEmpty = false := by simpa using nonempty
    refine ⟨⟨second, true⟩, ?_, rfl⟩
    rw [split, glyphs_cons inked, glyphs_append_of_blank blank, glyphs_cons inked', ← count,
      List.getElem?_append_right (Nat.le_succ _), wide]
    simp
  · rintro ⟨glyph, found, apart⟩
    exact parted_of_apart found apart

/-! ## Writing glyphs -/

/-- The text of glyphs that follow `last`, with a space only between two name characters. -/
def spell (last : Option Char) : List Glyph → List Char
  | [] => []
  | glyph :: rest =>
    if glyph.apart && last.any isNameChar && isNameChar glyph.char then
      ' ' :: glyph.char :: spell (some glyph.char) rest
    else glyph.char :: spell (some glyph.char) rest

/-- Glyphs that follow `last`, apart only where two name characters meet. -/
def settle (last : Option Char) : List Glyph → List Glyph
  | [] => []
  | glyph :: rest =>
    ⟨glyph.char, glyph.apart && last.any isNameChar && isNameChar glyph.char⟩
      :: settle (some glyph.char) rest

theorem unlay_eq_spell (last : Option Char) (gap : Bool) (text : List Char) :
    unlay last gap text = spell last (glyphs gap text) := by
  induction text generalizing last gap with
  | nil => rfl
  | cons c rest ih =>
    rw [unlay]
    cases kind : isBlank c with
    | true => rw [if_pos rfl, ih, glyphs_cons_of_blank kind]
    | false => rw [if_neg Bool.false_ne_true, ih, glyphs_cons kind, spell]

theorem spell_settle (last : Option Char) (items : List Glyph) :
    spell last (settle last items) = spell last items := by
  induction items generalizing last with
  | nil => rfl
  | cons glyph rest ih =>
    have twice (apart before here : Bool) :
        (apart && before && here && before && here) = (apart && before && here) := by
      cases apart <;> cases before <;> cases here <;> rfl
    rw [settle, spell, spell, twice, ih]

theorem map_char_settle (last : Option Char) (items : List Glyph) :
    (settle last items).map Glyph.char = items.map Glyph.char := by
  induction items generalizing last with
  | nil => rfl
  | cons glyph rest ih => rw [settle, List.map_cons, List.map_cons, ih]

/-- Settled glyphs are the glyphs of their text. -/
theorem glyphs_spell {items : List Glyph} (inked : ∀ glyph ∈ items, isBlank glyph.char = false)
    (last : Option Char) : glyphs false (spell last items) = settle last items := by
  induction items generalizing last with
  | nil => rfl
  | cons glyph rest ih =>
    have first := inked glyph (List.mem_cons_self ..)
    have later := ih (fun other member => inked other (List.mem_cons_of_mem _ member))
      (some glyph.char)
    rw [spell, settle]
    split
    case isTrue kept =>
      rw [glyphs_cons_of_blank isBlank_space, glyphs_cons first, later, kept]
    case isFalse dropped =>
      rw [glyphs_cons first, later, eq_false_of_ne_true dropped]

theorem getElem?_zero_settle (items : List Glyph) :
    (settle none items)[0]? = items[0]?.map fun glyph => ⟨glyph.char, false⟩ := by
  cases items with
  | nil => rfl
  | cons glyph rest => simp [settle]

theorem getElem?_settle (last : Option Char) (items : List Glyph) (place : Nat) :
    (settle last items)[place + 1]? = items[place]?.bind fun before =>
      items[place + 1]?.map fun glyph =>
        ⟨glyph.char, glyph.apart && isNameChar before.char && isNameChar glyph.char⟩ := by
  induction items generalizing last place with
  | nil => rfl
  | cons glyph rest ih =>
    rw [settle, List.getElem?_cons_succ]
    cases place with
    | zero =>
      cases rest with
      | nil => rfl
      | cons next rest => simp [settle]
    | succ place => rw [ih, List.getElem?_cons_succ, List.getElem?_cons_succ]

/-! ## The layout-free form -/

/-- The settled glyphs of a text. -/
def settled (text : List Char) : List Glyph := settle none (glyphs false text)

theorem unlay_eq (text : List Char) : unlay none false text = spell none (settled text) := by
  rw [unlay_eq_spell, settled, spell_settle]

theorem glyphs_unlay (text : List Char) : glyphs false (unlay none false text) = settled text := by
  rw [unlay_eq_spell, glyphs_spell fun _ => not_blank_of_mem_glyphs, settled]

/-- The layout-free form tells the settled glyphs and nothing else. -/
theorem unlay_eq_unlay_iff {text other : List Char} :
    unlay none false text = unlay none false other ↔ settled text = settled other := by
  constructor
  · intro same
    rw [← glyphs_unlay, same, glyphs_unlay]
  · intro same
    rw [unlay_eq, same, ← unlay_eq]

theorem map_char_settled (text : List Char) : (settled text).map Glyph.char = ink text := by
  rw [settled, map_char_settle, map_char_glyphs]

/-- A glyph behind another one is settled by whether the two are parted and name characters. -/
theorem exists_getElem?_settled {text : List Char} {place : Nat} {first second : Char}
    (here : (ink text)[place]? = some first) (next : (ink text)[place + 1]? = some second) :
    ∃ apart, (apart = true ↔ Parted text place) ∧ (settled text)[place + 1]? =
      some ⟨second, apart && isNameChar first && isNameChar second⟩ := by
  rw [← map_char_glyphs false, List.getElem?_map, Option.map_eq_some_iff] at here next
  obtain ⟨before, listed, rfl⟩ := here
  obtain ⟨glyph, found, rfl⟩ := next
  refine ⟨glyph.apart, ?_, ?_⟩
  · rw [parted_iff, found]
    simp
  · rw [settled, getElem?_settle, listed, Option.bind_some, found, Option.map_some]

theorem getElem?_zero_settled (text : List Char) :
    (settled text)[0]? = (ink text)[0]?.map fun c => ⟨c, false⟩ := by
  rw [settled, getElem?_zero_settle, ← map_char_glyphs false, List.getElem?_map, Option.map_map]
  rfl

/-- Texts have the same settled glyphs if one is a reformatting of the other. -/
theorem settled_eq_iff {text other : List Char} :
    settled text = settled other ↔ Reformats text other := by
  constructor
  · intro same
    have ink_eq : ink text = ink other := by rw [← map_char_settled, same, map_char_settled]
    refine ⟨ink_eq, ?_⟩
    intro place first second here next name name'
    obtain ⟨apart, tells, found⟩ := exists_getElem?_settled here next
    obtain ⟨apart', tells', found'⟩ := exists_getElem?_settled (ink_eq ▸ here) (ink_eq ▸ next)
    rw [same, found'] at found
    have equal : apart' = apart := by simpa [name, name'] using found
    rw [← tells, ← tells', equal]
  · intro reformats
    obtain ⟨ink_eq, parted_iff⟩ := reformats
    apply List.ext_getElem?
    intro place
    cases place with
    | zero => rw [getElem?_zero_settled, getElem?_zero_settled, ink_eq]
    | succ place =>
      cases next : (ink text)[place + 1]? with
      | none =>
        have ends (text : List Char) (next : (ink text)[place + 1]? = none) :
            (settled text)[place + 1]? = none := by
          rwa [← map_char_settled, List.getElem?_map, Option.map_eq_none_iff] at next
        rw [ends text next, ends other (ink_eq ▸ next)]
      | some second =>
        obtain ⟨first, here⟩ : ∃ first, (ink text)[place]? = some first := by
          obtain ⟨bound, -⟩ := List.getElem?_eq_some_iff.1 next
          exact ⟨_, List.getElem?_eq_getElem (Nat.lt_of_succ_lt bound)⟩
        obtain ⟨apart, tells, found⟩ := exists_getElem?_settled here next
        obtain ⟨apart', tells', found'⟩ := exists_getElem?_settled (ink_eq ▸ here) (ink_eq ▸ next)
        rw [found, found']
        by_cases names : isNameChar first = true ∧ isNameChar second = true
        · have equal : apart = apart' := by
            rw [Bool.eq_iff_iff, tells, tells']
            exact parted_iff here next names.1 names.2
          rw [equal]
        · have neither : (isNameChar first && isNameChar second) = false := by simpa using names
          rw [Bool.and_assoc, Bool.and_assoc, neither, Bool.and_false, Bool.and_false]

/-- The text of glyphs has no white space but the spaces that are kept. -/
theorem singleSpaced_spell {items : List Glyph}
    (inked : ∀ glyph ∈ items, isBlank glyph.char = false) {last : Option Char}
    {front back : List Char} {c : Char} (split : spell last items = front ++ c :: back)
    (blank : isBlank c = true) :
    c = ' ' ∧ (∃ before ∈ front.getLast?.or last, isNameChar before = true) ∧
      ∃ after ∈ back.head?, isNameChar after = true := by
  induction items generalizing last front with
  | nil => simp [spell] at split
  | cons glyph rest ih =>
    have first := inked glyph (List.mem_cons_self ..)
    have differs : glyph.char ≠ c := by
      rintro rfl
      simp [blank] at first
    -- behind the character of the glyph, what comes last before `c` is that character or later
    have later {front : List Char}
        (split : glyph.char :: spell (some glyph.char) rest = front ++ c :: back) :
        c = ' ' ∧ (∃ before ∈ front.getLast?, isNameChar before = true) ∧
          ∃ after ∈ back.head?, isNameChar after = true := by
      cases front with
      | nil => exact absurd (List.cons.inj split).1 differs
      | cons d front =>
        obtain ⟨rfl, rest⟩ := List.cons.inj split
        have found := ih (fun other member => inked other (List.mem_cons_of_mem _ member)) rest
        rwa [List.getLast?_cons, ← Option.or_some]
    rw [spell] at split
    split at split
    case isTrue kept =>
      rw [Bool.and_eq_true, Bool.and_eq_true] at kept
      cases front with
      | nil =>
        obtain ⟨rfl, rfl⟩ := List.cons.inj split
        exact ⟨rfl, (Option.any_eq_true ..).1 kept.1.2, glyph.char, rfl, kept.2⟩
      | cons d front =>
        obtain ⟨plain, ⟨before, ends, name⟩, after⟩ := later (List.cons.inj split).2
        refine ⟨plain, ⟨before, ?_, name⟩, after⟩
        rw [List.getLast?_cons, ends]
        rfl
    case isFalse =>
      obtain ⟨plain, ⟨before, ends, name⟩, after⟩ := later split
      refine ⟨plain, ⟨before, ?_, name⟩, after⟩
      rw [ends]
      rfl

/-- Texts have the same layout-free form exactly if one is a reformatting of the other. -/
theorem normalize_eq_iff {text other : String} :
    normalize text = normalize other ↔ Reformats text.toList other.toList := by
  rw [normalize, normalize, String.ofList_inj, unlay_eq_unlay_iff, settled_eq_iff]

/-- The layout-free form of a text is a complete invariant of its layout: texts have the same form
exactly if one is a reformatting of the other. It is its own form, and it has no white space but
single spaces between name characters. -/
theorem normalize_tells_reformatting (text other : String) :
    (normalize text = normalize other ↔ Reformats text.toList other.toList) ∧
      normalize (normalize text) = normalize text ∧ SingleSpaced (normalize text).toList := by
  refine ⟨normalize_eq_iff, ?_, ?_⟩
  · rw [normalize, normalize, String.toList_ofList, unlay_eq_spell none false (unlay ..),
      glyphs_unlay, ← unlay_eq]
  · rw [normalize, String.toList_ofList, unlay_eq_spell]
    intro front c back split blank
    simpa using singleSpaced_spell (fun _ => not_blank_of_mem_glyphs) split blank

end SourceIndex.Text
