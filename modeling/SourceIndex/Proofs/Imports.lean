import SourceIndex.Effect.Rules
import SourceIndex.Proofs.Text

/-!
# Modules in imports

A gated rule asks for an import of one of its modules. A module without separators in its name is
found in an import exactly if the name is one of the segments of the import. A name that has
separators itself is found wherever it occurs, also within longer segments.
-/

namespace SourceIndex

namespace Text

/-! ## Words between separators -/

variable {p : Char → Bool} {word text : List Char}

/-- A word may start behind this text: there is nothing, or a separator comes last. -/
def EndsApart (p : Char → Bool) (before : List Char) : Prop := ∀ c ∈ before.getLast?, p c = true

/-- A word may end in front of this text: there is nothing, or a separator comes first. -/
def StartsApart (p : Char → Bool) (after : List Char) : Prop := ∀ c ∈ after.head?, p c = true

/-- A word occurs in a text between separators or the ends of the text. -/
def Delimited (p : Char → Bool) (word text : List Char) : Prop :=
  ∃ before after, text = before ++ word ++ after ∧ EndsApart p before ∧ StartsApart p after

instance (before : List Char) : Decidable (EndsApart p before) :=
  decidable_of_iff (before.getLast?.all p = true) (Option.all_eq_true ..)

instance (after : List Char) : Decidable (StartsApart p after) :=
  decidable_of_iff (after.head?.all p = true) (Option.all_eq_true ..)

/-- Where a word occurs is a position of the text, of which there are finitely many. -/
theorem delimited_iff_position :
    Delimited p word text ↔ ∃ position ∈ List.range (text.length + 1),
      text = text.take position ++ word ++ text.drop (position + word.length) ∧
        EndsApart p (text.take position) ∧ StartsApart p (text.drop (position + word.length)) := by
  constructor
  · rintro ⟨before, after, rfl, starts, ends⟩
    have front : (before ++ word ++ after).take before.length = before := by simp
    have back : (before ++ word ++ after).drop (before.length + word.length) = after := by
      rw [← List.length_append, List.drop_left]
    refine ⟨before.length, List.mem_range.2 ?_, by rw [front, back], by rwa [front], by rwa [back]⟩
    rw [List.length_append, List.length_append]
    omega
  · rintro ⟨position, _, split, starts, ends⟩
    exact ⟨_, _, split, starts, ends⟩

instance : Decidable (Delimited p word text) := decidable_of_iff _ delimited_iff_position.symm

theorem delimited_self (p : Char → Bool) (word : List Char) : Delimited p word word :=
  ⟨[], [], by simp, by simp [EndsApart], by simp [StartsApart]⟩

theorem Delimited.isInfix (delimited : Delimited p word text) : word <:+: text := by
  obtain ⟨before, after, split, _⟩ := delimited
  exact ⟨before, after, split.symm⟩

/-- What is put before a separator does not matter for the words behind it. -/
theorem Delimited.prepend (delimited : Delimited p word text) {mark : Char}
    (separator : p mark = true) (front : List Char) : Delimited p word (front ++ mark :: text) := by
  obtain ⟨before, after, rfl, starts, ends⟩ := delimited
  refine ⟨front ++ mark :: before, after, by simp, ?_, ends⟩
  intro c last
  cases before with
  | nil =>
    have same : mark = c := by simpa using last
    exact same ▸ separator
  | cons first others =>
    rw [List.getLast?_append_cons, List.getLast?_cons_cons] at last
    exact starts c last

/-! ## Pieces -/

theorem pieces_ne_nil (p : Char → Bool) (text : List Char) : pieces p text ≠ [] := by
  cases text with
  | nil => simp [pieces]
  | cons c rest =>
    rw [pieces]
    split
    · simp
    · split <;> simp

/-- A text comes apart at a separator. -/
theorem pieces_append_mark {mark : Char} (separator : p mark = true) (front rest : List Char) :
    pieces p (front ++ mark :: rest) = pieces p front ++ pieces p rest := by
  induction front with
  | nil => simp [pieces, separator]
  | cons c front ih =>
    rw [List.cons_append, pieces, pieces, ih]
    split
    · rfl
    · obtain ⟨first, others, split⟩ := List.exists_cons_of_ne_nil (pieces_ne_nil p front)
      rw [split]
      rfl

/-- A piece has no separator, and stands between separators. -/
theorem delimited_of_mem_pieces {text : List Char} (listed : word ∈ pieces p text) :
    (∀ c ∈ word, p c = false) ∧ Delimited p word text := by
  cases found : text.find? p with
  | none =>
    have inner : ∀ c ∈ text, p c = false := by simpa using found
    rw [pieces_of_not_mem inner, List.mem_singleton] at listed
    subst listed
    exact ⟨inner, delimited_self p word⟩
  | some mark =>
    obtain ⟨separator, front, rest, rfl, others⟩ := List.find?_eq_some_iff_append.1 found
    have inner : ∀ c ∈ front, p c = false := by simpa using others
    rw [pieces_append_cons inner separator, List.mem_cons] at listed
    -- The pieces behind the first separator are those of a shorter text.
    rcases listed with rfl | later
    · exact ⟨inner, [], mark :: rest, by simp, by simp [EndsApart], by simpa [StartsApart]⟩
    · obtain ⟨plain, delimited⟩ := delimited_of_mem_pieces later
      exact ⟨plain, delimited.prepend separator front⟩
termination_by text.length

/-- The pieces of a text are the words without separators that stand between separators. -/
theorem mem_pieces_iff :
    word ∈ pieces p text ↔ (∀ c ∈ word, p c = false) ∧ Delimited p word text := by
  refine ⟨delimited_of_mem_pieces, ?_⟩
  rintro ⟨plain, before, after, rfl, starts, ends⟩
  have first : word ∈ pieces p (word ++ after) := by
    cases after with
    | nil => simp [pieces_of_not_mem plain]
    | cons mark rest =>
      rw [pieces_append_cons plain (ends mark rfl)]
      exact List.mem_cons_self ..
  rcases List.eq_nil_or_concat before with rfl | ⟨front, mark, rfl⟩
  · simpa using first
  · have split : front.concat mark ++ word ++ after = front ++ mark :: (word ++ after) := by simp
    rw [split, pieces_append_mark (starts mark (by simp))]
    exact List.mem_append_right _ first

theorem hasInfix_iff {needle text : List Char} :
    hasInfix needle text = true ↔ needle <:+: text := by
  induction text with
  | nil => simp [hasInfix]
  | cons c rest ih =>
    rw [hasInfix, Bool.or_eq_true, ih, List.isPrefixOf_iff_prefix, List.infix_cons_iff]

end Text

/-! ## Gates -/

namespace Effect

/-- Whether the name of a module has separators itself. -/
def isCompound (wanted : String) : Bool :=
  wanted.toList.any fun c => c == '/' || c == '.' || c == '-'

/-- The name of a module stands in an import between separators or the ends of the import. -/
def StandsIn (wanted imported : String) : Prop :=
  Text.Delimited isSegmentBreak wanted.toList imported.toList

instance (wanted imported : String) : Decidable (StandsIn wanted imported) :=
  inferInstanceAs (Decidable (Text.Delimited isSegmentBreak wanted.toList imported.toList))

/-- An import mentions a module: the name stands in it, or is compound and occurs anywhere. -/
def Mentions (imported wanted : String) : Prop :=
  StandsIn wanted imported ∨ isCompound wanted = true ∧ wanted.toList <:+: imported.toList

instance (imported wanted : String) : Decidable (Mentions imported wanted) :=
  inferInstanceAs (Decidable (_ ∨ _))

theorem mentions_of_compound {imported wanted : String} (compound : isCompound wanted = true) :
    Mentions imported wanted ↔ wanted.toList <:+: imported.toList := by
  constructor
  · rintro (delimited | ⟨_, occurs⟩)
    · exact delimited.isInfix
    · exact occurs
  · exact fun occurs => .inr ⟨compound, occurs⟩

/-- Which imports refer to a module, if the name is compound as soon as it has a separator. -/
theorem importMatches_iff {imported wanted : String}
    (parts : wanted.toList.any isSegmentBreak = isCompound wanted) :
    importMatches imported wanted = true ↔ Mentions imported wanted := by
  have shape : importMatches imported wanted = true ↔ imported = wanted ∨
      wanted.toList ∈ Text.pieces isSegmentBreak imported.toList ∨
        isCompound wanted = true ∧ wanted.toList <:+: imported.toList := by
    rw [importMatches, ← isCompound, Bool.or_eq_true, Bool.or_eq_true, Bool.and_eq_true, beq_iff_eq,
      List.contains_iff_mem, Text.hasInfix_iff, or_assoc]
  rw [shape, Text.mem_pieces_iff]
  cases compound : isCompound wanted with
  | true =>
    rw [mentions_of_compound compound]
    constructor
    · rintro (rfl | ⟨_, delimited⟩ | ⟨_, occurs⟩)
      · exact List.infix_rfl
      · exact delimited.isInfix
      · exact occurs
    · exact fun occurs => .inr (.inr ⟨rfl, occurs⟩)
  | false =>
    have plain : ∀ c ∈ wanted.toList, isSegmentBreak c = false := by
      rw [compound, List.any_eq_false] at parts
      simpa using parts
    constructor
    · rintro (rfl | ⟨_, delimited⟩ | ⟨impossible, _⟩)
      · exact .inl (Text.delimited_self _ _)
      · exact .inl delimited
      · cases impossible
    · rintro (delimited | ⟨simple, _⟩)
      · exact .inr (.inl ⟨plain, delimited⟩)
      · cases compound.symm.trans simple

/-- The names that rules ask for are compound as soon as they have a separator. -/
theorem any_isSegmentBreak_of_mem :
    ∀ rule ∈ rules, ∀ wanted ∈ rule.modules,
      wanted.toList.any isSegmentBreak = isCompound wanted := by
  decide +kernel

/-- What opens the gate of a rule. A module without separators in its name is found in an import
exactly if the name stands there between separators or ends, so that a longer segment never opens
the gate. A module whose name has separators is found wherever the name occurs, also if the segments
at its ends are longer. -/
theorem gates_open_for_segments {rule : Rule} (listed : rule ∈ rules) (gated : rule.modules ≠ []) :
    (∀ wanted ∈ rule.modules, ∀ imported, importMatches imported wanted = true ↔
      StandsIn wanted imported ∨ isCompound wanted = true ∧ wanted.toList <:+: imported.toList) ∧
    ∀ calls imports, rule.applies calls imports = true ↔
      (∃ imported ∈ imports, ∃ wanted ∈ rule.modules, Mentions imported wanted) ∧
      ∃ call ∈ calls, ∃ pattern ∈ rule.patterns, pattern.matches call = true := by
  have found : ∀ wanted ∈ rule.modules, ∀ imported,
      importMatches imported wanted = true ↔ Mentions imported wanted := fun wanted asked _ =>
    importMatches_iff (any_isSegmentBreak_of_mem rule listed wanted asked)
  refine ⟨found, fun calls imports => ?_⟩
  have closed : rule.modules.isEmpty = false := by simpa using gated
  rw [Rule.applies, closed, Bool.false_or, Bool.and_eq_true]
  simp only [List.any_eq_true]
  exact and_congr_left fun _ => exists_congr fun imported => and_congr_right fun _ =>
    exists_congr fun wanted => and_congr_right fun asked => found wanted asked imported

/-- The rule for database modules tells `pg` from `pgettext`. -/
theorem gates_open_for_segments_database :
    databaseImports ∈ rules ∧ databaseImports.modules ≠ [] ∧
      importMatches "pgettext" "pg" = false ∧
      databaseImports.applies ["client.connect"] ["pgettext"] = false ∧
      databaseImports.applies ["client.connect"] ["@types/pg-pool"] = true := by
  have listed : databaseImports ∈ rules := by simp [rules]
  have gated : databaseImports.modules ≠ [] := by simp [databaseImports]
  obtain ⟨found, applies⟩ := gates_open_for_segments listed gated
  refine ⟨listed, gated, ?_, ?_, ?_⟩
  · rw [← Bool.not_eq_true, found "pg" (by simp [databaseImports])]
    decide +kernel
  · rw [← Bool.not_eq_true, applies]
    decide +kernel
  · rw [applies]
    decide +kernel

/-- A compound name opens the gate from within longer segments. -/
theorem compound_module_in_longer_segments :
    "net/http" ∈ networkImports.modules ∧ importMatches "subnet/https" "net/http" = true ∧
      (∀ wanted ∈ networkImports.modules, ¬StandsIn wanted "subnet/https") ∧
      networkImports.applies ["session.get"] ["subnet/https"] = true := by
  decide +kernel

end Effect

end SourceIndex
