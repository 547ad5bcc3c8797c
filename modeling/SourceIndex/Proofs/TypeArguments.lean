import SourceIndex.Callee

/-!
# Type arguments of callees

A callee is written with characters, arrows, and groups of type arguments in angle brackets, which
may hold the same again. Its name is found without the groups. One counter of open brackets does
that as long as no arrow stands inside a group: the end of such an arrow is taken for the end of a
group, and what follows it is kept.
-/

namespace SourceIndex.Callee

/-! ## Written callees -/

/-- A callee as it is written, from left to right. -/
inductive Written where
  | done
  /-- A character that is no angle bracket. -/
  | char (c : Char) (plain : c ≠ '<' ∧ c ≠ '>') (rest : Written)
  /-- An arrow, as in the access to a member or in the type of a function. -/
  | arrow (rest : Written)
  /-- Type arguments in angle brackets. -/
  | group (inside rest : Written)

namespace Written

/-- The text of a callee. -/
def text : Written → List Char
  | done => []
  | char c _ rest => c :: rest.text
  | arrow rest => '-' :: '>' :: rest.text
  | group inside rest => '<' :: (inside.text ++ '>' :: rest.text)

/-- A text without two colons at its end. -/
def withoutMark (kept : List Char) : List Char :=
  if [':', ':'] <:+ kept then kept.dropLast.dropLast else kept

/-- What is kept of a callee behind what is kept already: everything but the outermost groups, each
with the two colons in front of it. -/
def keptAfter (kept : List Char) : Written → List Char
  | done => kept
  | char c _ rest => rest.keptAfter (kept ++ [c])
  | arrow rest => rest.keptAfter (kept ++ ['-', '>'])
  | group _ rest => rest.keptAfter (withoutMark kept)

/-- A callee without its type arguments. -/
def kept (written : Written) : List Char := written.keptAfter []

/-- The number of arrows. -/
def arrows : Written → Nat
  | done => 0
  | char _ _ rest => rest.arrows
  | arrow rest => rest.arrows + 1
  | group inside rest => inside.arrows + rest.arrows

/-- The number of arrows that stand inside a group. -/
def groupArrows : Written → Nat
  | done => 0
  | char _ _ rest => rest.groupArrows
  | arrow rest => rest.groupArrows
  | group inside rest => inside.arrows + rest.groupArrows

/-- No angle bracket is among some characters. -/
def Plain (front : List Char) : Prop := ∀ c ∈ front, c ≠ '<' ∧ c ≠ '>'

instance (front : List Char) : Decidable (Plain front) := List.decidableBAll _ front

/-- Some characters in front of a callee. -/
def spell (front : List Char) (plain : Plain front) (rest : Written) : Written :=
  match front with
  | [] => rest
  | c :: front =>
    char c (plain c (List.mem_cons_self ..))
      (spell front (fun d member => plain d (List.mem_cons_of_mem _ member)) rest)

theorem withoutMark_sublist (kept : List Char) : (withoutMark kept).Sublist kept := by
  rw [withoutMark]
  split
  · exact (List.dropLast_sublist _).trans (List.dropLast_sublist _)
  · exact List.Sublist.refl _

/-- What is kept was kept before or comes from the text. -/
theorem mem_keptAfter {c : Char} {written : Written} {kept : List Char}
    (member : c ∈ written.keptAfter kept) : c ∈ kept ∨ c ∈ written.text ∧ c ≠ '<' := by
  induction written generalizing kept with
  | done => exact .inl member
  | char d plain rest ih =>
    rcases ih member with before | ⟨later, proper⟩
    · rcases List.mem_append.1 before with old | here
      · exact .inl old
      · cases List.mem_singleton.1 here
        exact .inr ⟨List.mem_cons_self .., plain.1⟩
    · exact .inr ⟨List.mem_cons_of_mem _ later, proper⟩
  | arrow rest ih =>
    rcases ih member with before | ⟨later, proper⟩
    · rcases List.mem_append.1 before with old | here
      · exact .inl old
      · refine .inr ⟨List.mem_append_left rest.text here, ?_⟩
        rintro rfl
        simp at here
    · exact .inr ⟨List.mem_cons_of_mem _ (List.mem_cons_of_mem _ later), proper⟩
  | group inside rest _ ih =>
    rcases ih member with before | ⟨later, proper⟩
    · exact .inl ((withoutMark_sublist kept).subset before)
    · refine .inr ⟨?_, proper⟩
      rw [text]
      simp [later]

/-! ## Counting -/

theorem count_withoutMark (kept : List Char) : (withoutMark kept).count '>' = kept.count '>' := by
  rw [withoutMark]
  split
  case isTrue ends =>
    obtain ⟨front, rfl⟩ := ends
    simp
  case isFalse => rfl

/-- Each group has two brackets, and each arrow looks like a closing one. -/
theorem count_text (written : Written) :
    written.text.count '>' = written.text.count '<' + written.arrows := by
  induction written with
  | done => rfl
  | char c plain rest ih => simp [text, arrows, plain.1, plain.2, ih]
  | arrow rest ih => simp [text, arrows, ih]; omega
  | group inside rest inner outer => simp [text, arrows, inner, outer]; omega

/-- Of the arrows those outside of groups are kept. -/
theorem count_keptAfter (kept : List Char) (written : Written) :
    (written.keptAfter kept).count '>' + written.groupArrows =
      kept.count '>' + written.arrows := by
  induction written generalizing kept with
  | done => rfl
  | char c plain rest ih => simp [keptAfter, groupArrows, arrows, ih, plain.2]
  | arrow rest ih =>
    have later := ih (kept ++ ['-', '>'])
    simp only [List.count_append, keptAfter, groupArrows, arrows] at later ⊢
    simp at later
    omega
  | group inside rest _ ih =>
    have later := ih (withoutMark kept)
    rw [count_withoutMark] at later
    simp only [keptAfter, groupArrows, arrows]
    omega

end Written

/-! ## Reading -/

section

attribute [local simp] stripFrom

/-- Outside of groups every character but an opening bracket is kept. -/
theorem stripFrom_keep {c : Char} (proper : c ≠ '<') (kept rest : List Char) :
    stripFrom kept 0 (c :: rest) = stripFrom (c :: kept) 0 rest := by
  rw [stripFrom]
  exact proper

/-- Inside of groups every character but a bracket is left out. -/
theorem stripFrom_skip {c : Char} (plain : c ≠ '<' ∧ c ≠ '>') (kept : List Char) (depth : Nat)
    (rest : List Char) :
    stripFrom kept (depth + 1) (c :: rest) = stripFrom kept (depth + 1) rest := by
  simp [plain.1, plain.2]

/-- The first bracket of a group takes two colons with it. -/
theorem stripFrom_open (kept rest : List Char) :
    stripFrom kept.reverse 0 ('<' :: rest) =
      stripFrom (Written.withoutMark kept).reverse 1 rest := by
  rw [Written.withoutMark]
  split
  case isTrue ends =>
    obtain ⟨front, rfl⟩ := ends
    simp
  case isFalse other =>
    rw [stripFrom]
    intro before ends
    refine other ?_
    rw [← List.reverse_reverse kept, ends]
    simp

end

/-- A text without opening brackets is kept as it is. -/
theorem stripFrom_of_not_mem {text : List Char} (none : '<' ∉ text) (kept : List Char) :
    stripFrom kept 0 text = kept.reverse ++ text := by
  induction text generalizing kept with
  | nil => simp [stripFrom]
  | cons c rest ih =>
    rw [List.mem_cons, not_or] at none
    rw [stripFrom_keep (Ne.symm none.1), ih none.2]
    simp

/-- Inside of a group a text without arrows is left out, and the groups in it are closed again. -/
theorem stripFrom_inside {written : Written} (free : written.arrows = 0) (kept : List Char)
    (depth : Nat) (rest : List Char) :
    stripFrom kept (depth + 1) (written.text ++ rest) = stripFrom kept (depth + 1) rest := by
  induction written generalizing depth rest with
  | done => rfl
  | char c plain later ih =>
    rw [Written.text, List.cons_append, stripFrom_skip plain]
    exact ih free depth rest
  | arrow later => cases free
  | group inside later inner outer =>
    obtain ⟨freeInside, freeLater⟩ := Nat.add_eq_zero_iff.1 free
    calc stripFrom kept (depth + 1) ((Written.group inside later).text ++ rest)
        = stripFrom kept (depth + 2) (inside.text ++ '>' :: (later.text ++ rest)) := by
          simp [Written.text, stripFrom]
      _ = stripFrom kept (depth + 2) ('>' :: (later.text ++ rest)) := inner freeInside _ _
      _ = stripFrom kept (depth + 1) (later.text ++ rest) := by rw [stripFrom]
      _ = stripFrom kept (depth + 1) rest := outer freeLater _ _

/-- Without arrows in groups, reading on after what is kept keeps what is left without them. -/
theorem stripFrom_text {written : Written} (free : written.groupArrows = 0) (kept : List Char) :
    stripFrom kept.reverse 0 written.text = written.keptAfter kept := by
  induction written generalizing kept with
  | done => simp [Written.text, Written.keptAfter, stripFrom]
  | char c plain rest ih =>
    rw [Written.text, stripFrom_keep plain.1, Written.keptAfter, ← ih free]
    simp
  | arrow rest ih =>
    rw [Written.text, stripFrom_keep (by decide), stripFrom_keep (by decide), Written.keptAfter,
      ← ih free]
    simp
  | group inside rest _ ih =>
    obtain ⟨freeInside, freeRest⟩ := Nat.add_eq_zero_iff.1 free
    rw [Written.text, stripFrom_open, stripFrom_inside freeInside, stripFrom, ih freeRest,
      Written.keptAfter]

/-- A closing bracket is kept unless it closes a group that is open or opens later. -/
theorem count_stripFrom_ge (kept : List Char) (depth : Nat) (text : List Char) :
    kept.count '>' + text.count '>' ≤
      (stripFrom kept depth text).count '>' + depth + text.count '<' := by
  fun_induction stripFrom kept depth text with
  | case1 => simp
  | case2 rest before ih => simp at ih ⊢; omega
  | case3 kept rest _ ih => simp at ih ⊢; omega
  | case4 kept depth rest ih => simp at ih ⊢; omega
  | case5 kept depth rest ih => simp at ih ⊢; omega
  | case6 kept c rest opening ih =>
    rw [List.count_cons] at ih
    rw [List.count_cons, List.count_cons_of_ne opening]
    omega
  | case7 kept depth c rest opening closing ih =>
    rw [List.count_cons_of_ne closing, List.count_cons_of_ne opening]
    exact ih

/-- Exactly the groups are left out if no arrow stands inside one. Otherwise a bracket is left over
for each of those arrows. -/
theorem stripTypeArguments_text_eq_iff (written : Written) :
    stripTypeArguments written.text = written.kept ↔ written.groupArrows = 0 := by
  constructor
  · intro same
    -- Closing brackets are counted: at least as many are left as there are arrows, and no more than
    -- the arrows outside of groups are wanted.
    have left := count_stripFrom_ge [] 0 written.text
    rw [← stripTypeArguments, same, Written.count_text] at left
    have wanted := written.count_keptAfter []
    rw [← Written.kept] at wanted
    simp only [List.count_nil] at left wanted
    omega
  · intro free
    exact stripFrom_text free []

/-! ## Names -/

/-- The name of a callee is found in what is left without white space and type arguments. -/
theorem name?_congr {raw other : String}
    (same : stripTypeArguments (raw.toList.filter fun c => !Text.isBlank c) =
      stripTypeArguments (other.toList.filter fun c => !Text.isBlank c)) :
    name? raw = name? other := by
  simp only [name?, same]

/-- A callee without its type arguments has nothing more to leave out. -/
theorem stripTypeArguments_kept (written : Written) :
    stripTypeArguments written.kept = written.kept := by
  have none : '<' ∉ written.kept := by
    intro member
    rcases Written.mem_keptAfter member with old | ⟨_, proper⟩
    · cases old
    · exact proper rfl
  rw [stripTypeArguments, stripFrom_of_not_mem none]
  simp

/-- Type arguments are left out of callees, and nothing else is: of a callee as it is written
exactly the outermost groups go, each with the two colons in front of it in what is kept so far, and
arrows outside of groups stay. That is so if and only if no arrow stands inside a group. Then the
callee has the same name with and without its type arguments, whatever white space it is written
with. -/
theorem type_arguments_are_left_out (written : Written) :
    (stripTypeArguments written.text = written.kept ↔ written.groupArrows = 0) ∧
      (written.groupArrows = 0 → ∀ raw : String,
        (raw.toList.filter fun c => !Text.isBlank c) = written.text →
          name? raw = name? (String.ofList written.kept)) := by
  refine ⟨stripTypeArguments_text_eq_iff written, fun free raw compact => ?_⟩
  have solid : (written.kept.filter fun c => !Text.isBlank c) = written.kept := by
    rw [List.filter_eq_self]
    intro c member
    rcases Written.mem_keptAfter member with old | ⟨member, _⟩
    · cases old
    · rw [← compact] at member
      exact (List.mem_filter.1 member).2
  apply name?_congr
  rw [compact, String.toList_ofList, solid, stripTypeArguments_kept,
    (stripTypeArguments_text_eq_iff written).2 free]

/-- The call `Vec::<Pair<u8>>::new`, with an access by arrow in front of it. -/
def nestedCallee : Written :=
  .spell "it".toList (by decide) <| .arrow <| .spell "Vec::".toList (by decide) <|
    .group (.spell "Pair".toList (by decide) <|
      .group (.spell "u8".toList (by decide) .done) .done) <|
        .spell "::new".toList (by decide) .done

theorem type_arguments_are_left_out_nested :
    nestedCallee.groupArrows = 0 ∧
      stripTypeArguments "it->Vec::<Pair<u8>>::new".toList = "it->Vec::new".toList ∧
      name? "it -> Vec :: < Pair<u8> > :: new" = name? "it->Vec::new" := by
  have free : nestedCallee.groupArrows = 0 := by decide +kernel
  have kept : nestedCallee.kept = "it->Vec::new".toList := by decide +kernel
  have text : nestedCallee.text = "it->Vec::<Pair<u8>>::new".toList := by decide +kernel
  obtain ⟨same, name⟩ := type_arguments_are_left_out nestedCallee
  refine ⟨free, by rw [← text, ← kept]; exact same.2 free, ?_⟩
  rw [name free "it -> Vec :: < Pair<u8> > :: new" (by decide +kernel), kept, String.ofList_toList]

/-- The call `a::<fn(u8)->u8>::b`, with the type of a function as its argument. -/
def arrowCallee : Written :=
  .spell "a::".toList (by decide) <|
    .group (.spell "fn(u8)".toList (by decide) <| .arrow <| .spell "u8".toList (by decide) .done) <|
      .spell "::b".toList (by decide) .done

/-- Its name is not the one that it has without the argument. -/
theorem arrow_in_group_ends_it :
    arrowCallee.text = "a::<fn(u8)->u8>::b".toList ∧ arrowCallee.kept = "a::b".toList ∧
      stripTypeArguments arrowCallee.text = "au8>::b".toList ∧
      name? "a::<fn(u8) -> u8>::b" = some "au8>::b" ∧ name? "a::b" = some "a::b" := by
  decide +kernel

end SourceIndex.Callee
