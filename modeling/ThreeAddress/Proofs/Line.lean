import ThreeAddress.Language
import ThreeAddress.Proofs.Text.Words
import ThreeAddress.Text.Case

/-!
# The content of a line

What a line means is decided by what stands before its comment. Here the words of that part are
found in the line itself, and the one question is answered that is asked about a line as a whole:
whether it is the header. The reader compares the content from its first word to its last with the
header, so that it could hope for a header with blanks inside. There is none (`isHeader_iff`):
a blank is its own lower case form, and the header has no blank.
-/

namespace ThreeAddress

open Text

/-- The content of a line: what stands before its comment, without the blanks at the ends. -/
def content (line : Text) : Text := (uncommented line).trimmed

/-- The content of the line is the header, in any letter case. -/
def IsHeader (line : Text) : Prop := (content line).lower = header.lower

instance (line : Text) : Decidable (IsHeader line) := inferInstanceAs (Decidable (_ = _))

/-! ### Lists put together -/

/-- An element of two lists put together stands in the first or in the second. -/
theorem exists_of_append_eq_append_cons {α : Type} {xs ys before after : List α} {a : α}
    (h : xs ++ ys = before ++ a :: after) :
    (∃ later, xs = before ++ a :: later ∧ after = later ++ ys) ∨
      ∃ later, before = xs ++ later ∧ ys = later ++ a :: after := by
  rcases List.append_eq_append_iff.1 h with ⟨later, rfl, rfl⟩ | ⟨later, rfl, hlater⟩
  · exact .inr ⟨later, rfl, rfl⟩
  · cases later with
    | nil => exact .inr ⟨[], by simp, hlater.symm⟩
    | cons b later =>
      obtain ⟨rfl, rfl⟩ := List.cons.inj hlater
      exact .inl ⟨later, rfl, rfl⟩

/-! ### The words in their line -/

theorem exists_eq_uncommented_append (line : Text) :
    ∃ comment, line = uncommented line ++ comment :=
  ⟨_, List.takeWhile_append_dropWhile.symm⟩

/-- A line without a comment mark has no comment. -/
theorem uncommented_of_not_mem {line : Text} (h : commentMark ∉ line) : uncommented line = line :=
  List.takeWhile_eq_self_iff.2 fun c hc ↦ by
    have hne : c ≠ commentMark := fun heq ↦ h (heq ▸ hc)
    simpa using hne

/-- What is added to a comment is part of it. -/
theorem uncommented_append_of_mem {line : Text} (h : commentMark ∈ line) (t : Text) :
    uncommented (line ++ t) = uncommented line := by
  obtain ⟨before, behind, rfl, hbefore⟩ := List.eq_append_cons_of_mem h
  have hinside : ∀ c ∈ before, (c != commentMark) = true := fun c hc ↦
    bne_iff_ne.2 fun heq ↦ hbefore (heq ▸ hc)
  rw [List.append_assoc, List.cons_append, uncommented, uncommented,
    List.takeWhile_append_of_pos hinside, List.takeWhile_append_of_pos hinside,
    List.takeWhile_cons_of_neg (by simp), List.takeWhile_cons_of_neg (by simp)]

/-- A line without a comment mark takes nothing away from what is added to it. -/
theorem uncommented_append_of_not_mem {line : Text} (h : commentMark ∉ line) (t : Text) :
    uncommented (line ++ t) = line ++ uncommented t :=
  List.takeWhile_append_of_pos fun _ hc ↦ bne_iff_ne.2 fun heq ↦ h (heq ▸ hc)

/-- What stands before a first comment mark is what the comment leaves of the line. -/
theorem uncommented_append_mark {before : Text} (h : commentMark ∉ before) (comment : Text) :
    uncommented (before ++ commentMark :: comment) = before := by
  have hend : uncommented (commentMark :: comment) = [] := List.takeWhile_cons_of_neg (by simp)
  rw [uncommented_append_of_not_mem h, hend, List.append_nil]

/-- The text is what stands before the comment of the line: all of it if there is no comment mark,
and otherwise what is before the first of them. -/
inductive BeforeComment : Text → Text → Prop
  | whole {line : Text} (h : commentMark ∉ line) : BeforeComment line line
  | cut {text : Text} (h : commentMark ∉ text) (comment : Text) :
    BeforeComment (text ++ commentMark :: comment) text

/-- Cutting a line at its comment gives what stands before it, and nothing else does. -/
theorem uncommented_eq_iff {line text : Text} :
    uncommented line = text ↔ BeforeComment line text := by
  constructor
  · rintro rfl
    by_cases hmark : commentMark ∈ line
    · obtain ⟨before, comment, rfl, hbefore⟩ := List.eq_append_cons_of_mem hmark
      rw [uncommented_append_mark hbefore]
      exact .cut hbefore comment
    · rw [uncommented_of_not_mem hmark]
      exact .whole hmark
  · intro h
    cases h with
    | whole h => exact uncommented_of_not_mem h
    | cut h comment => exact uncommented_append_mark h comment

/-- A slice of what is before the comment is one of the line. -/
theorem slice?_of_uncommented {line inside : Text} {s : Span}
    (h : (uncommented line).slice? s = some inside) : line.slice? s = some inside := by
  obtain ⟨comment, hline⟩ := exists_eq_uncommented_append line
  rw [hline]
  exact slice?_append h comment

/-- A word of the content is the slice of the line at its span. -/
theorem slice?_of_mem_contentWords {line : Text} {w : Word} (hw : w ∈ contentWords line) :
    line.slice? w.span = some w.text :=
  slice?_of_uncommented (slice?_of_mem_words hw)

/-- From the first word to the last it is the content. -/
theorem slice?_spanOfWords_contentWords {line : Text} (h : contentWords line ≠ []) :
    line.slice? (spanOfWords (contentWords line)) = some (content line) :=
  slice?_of_uncommented (slice?_spanOfWords h)

/-! ### The header -/

/-- The case tables have no entry for the blank code points. -/
theorem lower_tables_blank : ∀ block ∈ blankBlocks,
    ∀ n ∈ List.range' block.1 (block.2 + 1 - block.1),
      lowerSpelled.lookup n = none ∧ lowerRuns.find? (·.covers n) = none := by
  decide +kernel

/-- A blank is its own lower case form. -/
theorem lowerChar_of_isBlank {c : Char} (h : isBlank c = true) : lowerChar c = [c] := by
  obtain ⟨block, hblock, hle, hge⟩ := isBlank_iff.1 h
  obtain ⟨hspelled, hruns⟩ := lower_tables_blank block hblock c.toNat
    (List.mem_range'_1.2 ⟨hle, by omega⟩)
  rw [lowerChar, mapCase, hspelled]
  simp only [hruns]

theorem solid_lower_header : Solid header.lower := by decide +kernel

/-- What is a header in lower case has no blank, for the blank would still be there. -/
theorem solid_of_lower_eq_header {t : Text} (h : t.lower = header.lower) : Solid t := by
  intro c hc
  by_contra hblank
  have hchar : lowerChar c = [c] := lowerChar_of_isBlank (by simpa using hblank)
  have hlower : c ∈ t.lower := List.mem_flatMap.2 ⟨c, hc, by simp [hchar]⟩
  exact hblank (solid_lower_header c (h ▸ hlower))

/-- **A header line has a single word.** -/
theorem isHeader_iff {line : Text} :
    IsHeader line ↔ ∃ w, contentWords line = [w] ∧ w.text.lower = header.lower := by
  constructor
  · intro h
    have hne : content line ≠ [] := by
      intro hnil
      rw [IsHeader, hnil] at h
      exact absurd h (by decide +kernel)
    obtain ⟨w, hw, htext⟩ := words_eq_singleton_of_solid (solid_of_lower_eq_header h) hne
    exact ⟨w, hw, htext ▸ h⟩
  · rintro ⟨w, hw, h⟩
    rwa [IsHeader, content, trimmed_of_words_eq_singleton hw]

theorem contentWords_ne_nil_of_isHeader {line : Text} (h : IsHeader line) :
    contentWords line ≠ [] := by
  obtain ⟨w, hw, -⟩ := isHeader_iff.1 h
  simp [hw]

end ThreeAddress
