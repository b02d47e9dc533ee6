import ThreeAddress.Diagnostic.Excerpt

/-!
# The marked range

A fault has its place in bytes, and a diagnostic marks characters. The range of a span is computed
from two slices of the line, the text before the span and the text in it, and each of them can fail
where the other does not: the line may be too short, an offset may lie inside a character, and the
span may be reversed. `CharRange.Measures` says what the range is in all of these cases.

A slice fails for no other reasons (`Text.isSome_slice?_iff`). How many characters come before the
range depends on the beginning of the span alone (`CharRange.start_ofSpan`), and so the ranges of
two spans meet where the spans do.
-/

namespace ThreeAddress

open Text

/-! ### Offsets between characters -/

/-- The offset stands between two characters of the text, or at one of its ends. -/
def Text.IsBoundary (t : Text) (n : Nat) : Prop :=
  ∃ front back, t = front ++ back ∧ byteLength front = n

/-- The span is in order, and its offsets stand between characters of the text. -/
structure Span.IsSliceOf (span : Span) (t : Text) : Prop where
  start_le_stop : span.start ≤ span.stop
  start : t.IsBoundary span.start
  stop : t.IsBoundary span.stop

variable {t line front back before inside after : Text} {span : Span}

/-- A span is in order and between characters when the text falls into three parts at it. -/
theorem Span.isSliceOf_iff : span.IsSliceOf t ↔ ∃ before inside after,
    t = before ++ inside ++ after ∧ byteLength before = span.start ∧
      byteLength (before ++ inside) = span.stop := by
  constructor
  · rintro ⟨hle, ⟨front, back, rfl, hstart⟩, front', back', heq, hstop⟩
    obtain ⟨inside, rfl, -⟩ := exists_of_append_eq_append heq (by omega)
    exact ⟨front, inside, back', heq, hstart, hstop⟩
  · rintro ⟨before, inside, after, rfl, hstart, hstop⟩
    refine ⟨?_, ⟨before, inside ++ after, List.append_assoc _ _ _, hstart⟩,
      before ++ inside, after, rfl, hstop⟩
    rw [← hstart, ← hstop, byteLength_append]
    exact Nat.le_add_right _ _

/-- **A span has a slice unless it is reversed or an offset does not stand between characters.** -/
theorem Text.isSome_slice?_iff : (t.slice? span).isSome ↔ span.IsSliceOf t := by
  rw [Option.isSome_iff_exists, Span.isSliceOf_iff]
  constructor
  · rintro ⟨inside, hslice⟩
    obtain ⟨before, after, h⟩ := slice?_eq_some_iff.1 hslice
    exact ⟨before, inside, after, h⟩
  · rintro ⟨before, inside, after, h⟩
    exact ⟨inside, slice?_eq_some_iff.2 ⟨before, after, h⟩⟩

instance (span : Span) (t : Text) : Decidable (span.IsSliceOf t) :=
  decidable_of_iff _ isSome_slice?_iff

/-- There is no slice in the other cases, and only in these. -/
theorem Text.slice?_eq_none_iff : t.slice? span = none ↔ ¬span.IsSliceOf t := by
  rw [← isSome_slice?_iff, Option.not_isSome_iff_eq_none]

namespace Diagnostic.CharRange

/-! ### The range of a span -/

/-- The range of characters is that of the span of bytes in the line. -/
structure Measures (range : CharRange) (line : Text) (span : Span) : Prop where
  start_le_stop : range.start ≤ range.stop
  stop_le_length : range.stop ≤ line.length
  /-- The range begins behind the characters before the span. -/
  start_eq : ∀ front back, line = front ++ back → byteLength front = span.start →
    range.start = front.length
  /-- It begins at the beginning of the line if the span begins inside of a character or behind the
  end. -/
  start_eq_zero : ¬line.IsBoundary span.start → range.start = 0
  /-- It has as many characters as the text in the span. -/
  length_eq : ∀ before inside after, line = before ++ inside ++ after →
    byteLength before = span.start → byteLength (before ++ inside) = span.stop →
    range.stop - range.start = inside.length
  /-- It is empty if the span is not a slice of the line. -/
  start_eq_stop : ¬span.IsSliceOf line → range.start = range.stop

/-- The first of the two slices goes up to the beginning of the span. -/
theorem slice?_zero_eq_some (hline : line = front ++ back)
    (hstart : byteLength front = span.start) :
    line.slice? ⟨0, span.start⟩ = some front :=
  slice?_eq_some_iff.2 ⟨[], back, by simpa using hline, rfl, hstart⟩

/-- Where the span begins between two characters, the range begins with the second. -/
theorem start_ofSpan (hline : line = front ++ back) (hstart : byteLength front = span.start) :
    (ofSpan line span).start = front.length := by
  rw [ofSpan, slice?_zero_eq_some hline hstart]
  rfl

/-- A span that begins inside of a character or behind the line is marked at the beginning of the
line. -/
theorem start_ofSpan_eq_zero (h : ¬line.IsBoundary span.start) : (ofSpan line span).start = 0 := by
  have hnone : line.slice? ⟨0, span.start⟩ = none :=
    slice?_eq_none_iff.2 fun hslice ↦ h hslice.stop
  rw [ofSpan, hnone]
  rfl

/-- The range of a span that cuts the line in three. -/
theorem ofSpan_eq (hline : line = before ++ inside ++ after)
    (hstart : byteLength before = span.start) (hstop : byteLength (before ++ inside) = span.stop) :
    ofSpan line span = ⟨before.length, (before ++ inside).length⟩ := by
  have hbefore := slice?_zero_eq_some (hline.trans (List.append_assoc _ _ _)) hstart
  have hinside : line.slice? span = some inside :=
    slice?_eq_some_iff.2 ⟨before, after, hline, hstart, hstop⟩
  rw [ofSpan, hbefore, hinside, List.length_append]
  rfl

/-- What has no slice is marked by an empty range. -/
theorem stop_ofSpan_of_not_isSliceOf (h : ¬span.IsSliceOf line) :
    (ofSpan line span).stop = (ofSpan line span).start := by
  rw [ofSpan, slice?_eq_none_iff.2 h]
  rfl

/-- The range begins in the line or at its end. -/
theorem start_ofSpan_le_length (line : Text) (span : Span) :
    (ofSpan line span).start ≤ line.length := by
  by_cases h : line.IsBoundary span.start
  · obtain ⟨front, back, hline, hstart⟩ := h
    rw [start_ofSpan hline hstart, hline, List.length_append]
    exact Nat.le_add_right _ _
  · rw [start_ofSpan_eq_zero h]
    exact Nat.zero_le _

/-- The range does not end behind the line. -/
theorem stop_ofSpan_le_length (line : Text) (span : Span) :
    (ofSpan line span).stop ≤ line.length := by
  by_cases h : span.IsSliceOf line
  · obtain ⟨before, inside, after, hline, hstart, hstop⟩ := Span.isSliceOf_iff.1 h
    rw [ofSpan_eq hline hstart hstop, hline]
    exact (List.prefix_append _ after).length_le
  · rw [stop_ofSpan_of_not_isSliceOf h]
    exact start_ofSpan_le_length line span

/-- The range that is computed has all that is asked of it. -/
theorem measures_ofSpan (line : Text) (span : Span) : (ofSpan line span).Measures line span where
  start_le_stop := Nat.le_add_right _ _
  stop_le_length := stop_ofSpan_le_length line span
  start_eq _ _ := start_ofSpan
  start_eq_zero := start_ofSpan_eq_zero
  length_eq before inside after hline hstart hstop := by
    rw [ofSpan_eq hline hstart hstop, List.length_append]
    exact Nat.add_sub_cancel_left _ _
  start_eq_stop h := (stop_ofSpan_of_not_isSliceOf h).symm

/-- No other range is that of the span. -/
theorem Measures.eq {range range' : CharRange} (h : range.Measures line span)
    (h' : range'.Measures line span) : range = range' := by
  have hstart : range.start = range'.start := by
    by_cases hboundary : line.IsBoundary span.start
    · obtain ⟨front, back, hline, hfront⟩ := hboundary
      rw [h.start_eq front back hline hfront, h'.start_eq front back hline hfront]
    · rw [h.start_eq_zero hboundary, h'.start_eq_zero hboundary]
  have hstop : range.stop = range'.stop := by
    by_cases hslice : span.IsSliceOf line
    · obtain ⟨before, inside, after, hline, hbefore, hinside⟩ := Span.isSliceOf_iff.1 hslice
      have hlength := h.length_eq before inside after hline hbefore hinside
      have hlength' := h'.length_eq before inside after hline hbefore hinside
      have hle := h.start_le_stop
      have hle' := h'.start_le_stop
      omega
    · rw [← h.start_eq_stop hslice, ← h'.start_eq_stop hslice, hstart]
  cases range
  cases range'
  exact congr (congrArg CharRange.mk hstart) hstop

/-- The range of a slice ends where the range of any span begins that begins at its end. -/
theorem stop_ofSpan_eq_start {u v : Nat} (h : (⟨u, v⟩ : Span).IsSliceOf line) (w : Nat) :
    (ofSpan line ⟨u, v⟩).stop = (ofSpan line ⟨v, w⟩).start := by
  obtain ⟨before, inside, after, hline, hstart, hstop⟩ := Span.isSliceOf_iff.1 h
  rw [ofSpan_eq hline hstart hstop, start_ofSpan hline hstop]

/-- **The marked range lies in the line.** Whatever the span is, its range counts the characters
before it and in it, and no other range does; it meets the range of a slice that ends where the span
begins. -/
theorem ofSpan_inside_line (line : Text) :
    (∀ span, (ofSpan line span).Measures line span) ∧
      (∀ span range, range.Measures line span → range = ofSpan line span) ∧
      ∀ u v w, (⟨u, v⟩ : Span).IsSliceOf line →
        (ofSpan line ⟨u, v⟩).stop = (ofSpan line ⟨v, w⟩).start :=
  ⟨measures_ofSpan line, fun span _ h ↦ h.eq (measures_ofSpan line span),
    fun _ _ w h ↦ stop_ofSpan_eq_start h w⟩

/-- Two slices that meet behind a letter of two bytes, and spans that are none: one begins inside of
that letter, one is reversed, and one goes beyond the end. -/
theorem ofSpan_inside_line_wide_letters :
    ((⟨0, 3⟩ : Span).IsSliceOf "xěš".toList ∧ (⟨3, 5⟩ : Span).IsSliceOf "xěš".toList ∧
      (ofSpan "xěš".toList ⟨0, 3⟩).stop = (ofSpan "xěš".toList ⟨3, 5⟩).start) ∧
    ∀ span ∈ ([⟨2, 3⟩, ⟨3, 1⟩, ⟨3, 6⟩] : List Span), ¬span.IsSliceOf "xěš".toList ∧
      (ofSpan "xěš".toList span).Measures "xěš".toList span ∧
      (ofSpan "xěš".toList span).start = (ofSpan "xěš".toList span).stop := by
  obtain ⟨hmeasures, -, hmeet⟩ := ofSpan_inside_line "xěš".toList
  have hfirst : (⟨0, 3⟩ : Span).IsSliceOf "xěš".toList := by decide
  have hnone : ∀ span ∈ ([⟨2, 3⟩, ⟨3, 1⟩, ⟨3, 6⟩] : List Span),
      ¬span.IsSliceOf "xěš".toList := by decide
  refine ⟨⟨hfirst, by decide, hmeet 0 3 5 hfirst⟩, fun span hspan ↦ ?_⟩
  exact ⟨hnone span hspan, hmeasures span, (hmeasures span).start_eq_stop (hnone span hspan)⟩

end Diagnostic.CharRange

end ThreeAddress
