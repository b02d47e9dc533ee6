import ThreeAddress.Proofs.Program.Language
import ThreeAddress.Proofs.Text.Case

/-!
# Changes of a line that change no word

A line means the words before its comment, and much of what is written in it is none of these: the
comment, the blanks at its ends, which blanks stand between two words. `LineEdit` has a constructor
for each of the changes that leave the words alone, and one for the letter case of the first word,
which names an operation or is the header. `LineEdit.sameLineWords` says what they have in common:
the words stay what they are, but for the case of the first.

A comment mark may stand anywhere, also within what would be a word. So each change is followed
through `uncommented` first, which either never gets to the changed place or goes through it.
-/

namespace ThreeAddress

open Text

/-- The words of two lines are the same, but for the letter case of the first. -/
inductive SameLineWords : List Text → List Text → Prop
  | blank : SameLineWords [] []
  | content {first first' : Text} (hfirst : SameButCase first first') (args : List Text) :
      SameLineWords (first :: args) (first' :: args)

/-- One line is got from the other by a change that does not matter. -/
inductive LineEdit : Text → Text → Prop
  /-- A comment is written behind the line, or behind the comment that it has. -/
  | comment (line comment : Text) : LineEdit line (line ++ commentMark :: comment)
  /-- Blanks are put in front of the line. -/
  | blanksBefore {gap : Text} (hgap : AllBlank gap) (line : Text) : LineEdit line (gap ++ line)
  /-- Blanks are put behind the line. -/
  | blanksBehind {gap : Text} (hgap : AllBlank gap) (line : Text) : LineEdit line (line ++ gap)
  /-- Some blanks give place to others. -/
  | blanksBetween {gap gap' : Text} (hgap : AllBlank gap) (hne : gap ≠ []) (hgap' : AllBlank gap')
      (hne' : gap' ≠ []) (before behind : Text) :
      LineEdit (before ++ gap ++ behind) (before ++ gap' ++ behind)
  /-- The first word, or its beginning, is written in another letter case. -/
  | letterCase {gap word word' : Text} (hgap : AllBlank gap) (hword : Solid word)
      (hmark : commentMark ∉ word) (hcase : SameButCase word word') (behind : Text) :
      LineEdit (gap ++ word ++ behind) (gap ++ word' ++ behind)

theorem SameLineWords.refl (ws : List Text) : SameLineWords ws ws := by
  cases ws with
  | nil => exact .blank
  | cons first args => exact .content (.refl first) args

/-! ### The part before the comment -/

theorem Text.AllBlank.commentMark_not_mem {gap : Text} (h : AllBlank gap) : commentMark ∉ gap :=
  fun hmem ↦ absurd (h _ hmem) (by decide)

theorem contentTexts_eq (line : Text) :
    contentTexts line = (words (uncommented line)).map (·.text) := rfl

/-! ### The words stay what they are -/

/-- A comment has no words. -/
theorem contentTexts_append_comment (line comment : Text) :
    contentTexts (line ++ commentMark :: comment) = contentTexts line := by
  have h : uncommented (line ++ commentMark :: comment) = uncommented line := by
    by_cases hmark : commentMark ∈ line
    · exact uncommented_append_of_mem hmark _
    · rw [uncommented_append_mark hmark, uncommented_of_not_mem hmark]
  rw [contentTexts_eq, h, contentTexts_eq]

/-- Blanks before a line add no words. -/
theorem contentTexts_append_left {gap : Text} (hgap : AllBlank gap) (line : Text) :
    contentTexts (gap ++ line) = contentTexts line := by
  rw [contentTexts_eq, uncommented_append_of_not_mem hgap.commentMark_not_mem,
    map_text_words_append_left hgap, contentTexts_eq]

/-- With blanks behind it a text has the words that it has, and then those of what follows, unless
a comment has begun. -/
theorem contentTexts_append_gap {gap : Text} (hgap : AllBlank gap) (hne : gap ≠ [])
    (before behind : Text) : contentTexts (before ++ gap ++ behind) =
      if commentMark ∈ before then contentTexts before
      else contentTexts before ++ contentTexts behind := by
  simp only [contentTexts_eq]
  split_ifs with hmark
  · rw [List.append_assoc, uncommented_append_of_mem hmark]
  · rw [List.append_assoc, uncommented_append_of_not_mem hmark,
      uncommented_append_of_not_mem hgap.commentMark_not_mem, ← List.append_assoc,
      map_text_words_append_gap hgap hne, uncommented_of_not_mem hmark]

/-- Blanks behind a line add no words, also where they lengthen the comment. -/
theorem contentTexts_append_right {gap : Text} (hgap : AllBlank gap) (line : Text) :
    contentTexts (line ++ gap) = contentTexts line := by
  rcases eq_or_ne gap [] with rfl | hne
  · rw [List.append_nil]
  · have h := contentTexts_append_gap hgap hne line []
    have hnil : contentTexts [] = [] := rfl
    rwa [hnil, List.append_nil, List.append_nil, ite_self] at h

/-! ### The first word -/

theorem Text.SameButCase.solid {s t : Text} (h : SameButCase s t) (hs : Solid s) : Solid t := by
  have hmap : ∀ t : Text, Solid (t.map Char.toLower) = Solid t := fun t ↦ by
    simp [Solid, isBlank_toLower]
  exact (h.apply_eq hmap).mp hs

theorem Text.SameButCase.commentMark_not_mem {s t : Text} (h : SameButCase s t)
    (hs : commentMark ∉ s) : commentMark ∉ t := by
  have hmark : ∀ c : Char, c.toLower = commentMark ↔ c = commentMark := fun c ↦ by
    simpa using apply_toLower (f := (· == commentMark)) (by decide +kernel) c
  have hmap : ∀ t : Text, (commentMark ∈ t.map Char.toLower) = (commentMark ∈ t) := fun t ↦ by
    simp [hmark]
  exact fun hmem ↦ hs ((h.apply_eq hmap).mpr hmem)

/-- What begins with the same word, but for its letter case, goes on with the same words. -/
theorem sameLineWords_append {word word' : Text} (hword : Solid word) (hmark : commentMark ∉ word)
    (hcase : SameButCase word word') (behind : Text) :
    SameLineWords (contentTexts (word ++ behind)) (contentTexts (word' ++ behind)) := by
  rw [contentTexts_eq, contentTexts_eq, uncommented_append_of_not_mem hmark,
    uncommented_append_of_not_mem (hcase.commentMark_not_mem hmark)]
  rcases eq_or_ne word [] with rfl | hne
  · rw [hcase.eq_nil_iff.1 rfl]
    exact .refl _
  · obtain ⟨rest, ws, h⟩ := exists_map_text_words_append (uncommented behind)
    rw [h word hne hword, h word' (fun heq ↦ hne (hcase.eq_nil_iff.2 heq)) (hcase.solid hword)]
    exact .content (hcase.append rest) ws

/-- **A change that does not matter leaves the words of the line**, but for the letter case of the
first. -/
theorem LineEdit.sameLineWords {line line' : Text} (h : LineEdit line line') :
    SameLineWords (contentTexts line) (contentTexts line') := by
  cases h with
  | comment line comment =>
    rw [contentTexts_append_comment]
    exact .refl _
  | blanksBefore hgap line =>
    rw [contentTexts_append_left hgap]
    exact .refl _
  | blanksBehind hgap line =>
    rw [contentTexts_append_right hgap]
    exact .refl _
  | blanksBetween hgap hne hgap' hne' before behind =>
    rw [contentTexts_append_gap hgap hne, contentTexts_append_gap hgap' hne']
    exact .refl _
  | letterCase hgap hword hmark hcase behind =>
    rw [List.append_assoc, List.append_assoc, contentTexts_append_left hgap,
      contentTexts_append_left hgap]
    exact sameLineWords_append hword hmark hcase behind

end ThreeAddress
