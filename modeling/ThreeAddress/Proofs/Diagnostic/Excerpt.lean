import ThreeAddress.Proofs.Diagnostic.Marked
import ThreeAddress.Proofs.Diagnostic.Range
import ThreeAddress.Proofs.Diagnostic.Rows

/-!
# What is underlined

The rows of an excerpt are drawn one by one, and each is drawn according to how it meets the range
that is to be marked. Six ways to meet it are too many to follow through a list of rows, but only
two of them end the drawing: the row in which the range ends meets it as `whole` or as `closes`
(`SourceRow.meet_of_stop_le`), and no row before it does (`SourceRow.meet_ne`). So the label comes
right after that row and nowhere else, whatever the rows before it are (`exists_annotate_eq`).

For this the range must end in a row and may not be empty. Marked texts begin and end with a
character that is not blank, which therefore stands in a row.
-/

namespace ThreeAddress.Diagnostic

open Text

/-! ### The range in the line -/

variable {fault : Fault} {line before inside after : Text} {span : Span}

/-- The range is what the fault is about, counted in characters. -/
theorem ofSpan_of_marksIn (h : fault.MarksIn line span before inside after) :
    CharRange.ofSpan line span = ⟨before.length, (before ++ inside).length⟩ := by
  obtain ⟨rfl, rfl, -, -⟩ := h
  exact CharRange.ofSpan_eq rfl rfl rfl

/-- The characters that break a line are blank. -/
theorem ne_break_of_not_isBlank {c : Char} (h : isBlank c = false) : c ≠ '\r' ∧ c ≠ '\n' :=
  (solid_cons_iff.2 ⟨h, solid_nil⟩).unbroken c List.mem_cons_self

/-! ### The position -/

variable {number start : Nat} {c : Char} {t front back : Text} {row : SourceRow}
  {rows : List SourceRow} {range : CharRange}

/-- The row holds all of the characters up to there. -/
theorem SourceRow.ReachesTo.le_stop (h : row.ReachesTo number start front) :
    start + front.length ≤ row.stop := by
  have hlength := h.lastRow_prefix.length_le
  have hstart := h.start_add
  rw [SourceRow.stop]
  omega

/-- The range begins in the row of its first character, and in no other row. -/
theorem ShownIn.position_eq (h : ShownIn number 0 t rows) (hr : c ≠ '\r') (hn : c ≠ '\n')
    (ht : t = front ++ c :: back) (hstart : range.start = front.length) :
    position number rows range = (number + front.count '\n', front.lastRow.length + 1) := by
  obtain ⟨row, hrow, hreaches⟩ := h.exists_reachesTo hr hn ht
  obtain ⟨earlier, later, rfl⟩ := List.append_of_mem hrow
  have hstop := hreaches.le_stop
  have hadd := hreaches.start_add
  rw [lastRow_concat hn] at hadd
  simp only [List.length_append, List.length_singleton] at hstop hadd
  have hfind : (earlier ++ row :: later).find?
      (fun row ↦ row.start ≤ range.start && range.start ≤ row.stop) = some row := by
    refine List.find?_eq_some_iff_append.2 ⟨by simp; omega, earlier, later, rfl, ?_⟩
    intro other hother
    -- it ends before the row begins
    have hapart : other.stop < row.start :=
      (List.pairwise_append.1 h.pairwise_apart).2.2 _ hother _ List.mem_cons_self
    simp
    omega
  rw [position, hfind]
  refine Prod.ext ?_ ?_
  · show row.number = _
    rw [hreaches.number_eq, List.count_append, List.count_singleton, if_neg (by simpa using hn),
      Nat.add_zero]
  · show range.start - row.start + 1 = _
    omega

/-! ### The lines of the excerpt -/

/-- The label in a line of the excerpt. -/
def ExcerptLine.label? (line : ExcerptLine) : Option Text :=
  match line.content with
  | .source _ _ => none
  | .drawing _ label? => label?

/-- The number and the text of the row in a line of the excerpt. -/
def ExcerptLine.source? (line : ExcerptLine) : Option (Nat × Text) :=
  match line.content with
  | .source number text => some (number, text)
  | .drawing _ _ => none

/-- The line of the excerpt shows one of the rows or draws a stroke to the place where the range
begins. It has no label. -/
inductive ExcerptLine.IsUnlabelled (rows : List SourceRow) : ExcerptLine → Prop
  | row {row : SourceRow} {mark? : Option Char} (hrow : row ∈ rows)
      (hmark : mark? ∈ [none, some '/', some '|']) : IsUnlabelled rows (row.shown mark?)
  | stroke (column : Nat) : IsUnlabelled rows ⟨none, .drawing (strokeTo column) none⟩

theorem ExcerptLine.IsUnlabelled.label?_eq {line : ExcerptLine} (h : line.IsUnlabelled rows) :
    line.label? = none := by
  cases h <;> rfl

theorem ExcerptLine.IsUnlabelled.mono {line : ExcerptLine} {rows' : List SourceRow}
    (h : line.IsUnlabelled rows) (hrows : rows ⊆ rows') : line.IsUnlabelled rows' := by
  cases h with
  | row hrow hmark => exact .row (hrows hrow) hmark
  | stroke column => exact .stroke column

/-- What is drawn under the row in which the range ends: marks under each of its characters if it
began in this row, and else a stroke to the last one. -/
def SourceRow.underline (row : SourceRow) (range : CharRange) (label : Text) : ExcerptLine :=
  if row.start ≤ range.start then
    ⟨none, .drawing (List.replicate (range.start - row.start + 1) ' ' ++
      List.replicate (range.stop - range.start) '^') (some label)⟩
  else ⟨some '|', .drawing (strokeTo (range.stop - row.start)) (some label)⟩

/-- The row in which the range ends, and right under it what is drawn there. -/
def SourceRow.underlined (row : SourceRow) (range : CharRange) (label : Text) :
    List ExcerptLine :=
  [row.shown (row.underline range label).mark?, row.underline range label]

/-- The row in which the range ends. -/
theorem SourceRow.meet_of_stop_le (hne : range.start < range.stop) (hstart : row.start < range.stop)
    (hstop : range.stop ≤ row.stop) :
    row.meet range = if row.start ≤ range.start then .whole else .closes := by
  unfold SourceRow.meet
  split_ifs <;> first | rfl | omega

/-- A row that is followed by another one before the range ends. -/
theorem SourceRow.meet_ne (hstop : row.stop + 1 < range.stop) :
    row.meet range ≠ .whole ∧ row.meet range ≠ .closes := by
  unfold SourceRow.meet
  split_ifs <;> first | omega | simp

variable {label : Text}

/-- A range that ends in the first row is drawn there, and the other rows are shown as they are. -/
theorem annotate_cons_of_stop_le (hne : range.start < range.stop) (hstart : row.start < range.stop)
    (hstop : range.stop ≤ row.stop) (rows : List SourceRow) :
    annotate range label (row :: rows) =
      row.underlined range label ++ rows.map (·.shown none) := by
  rw [annotate, SourceRow.meet_of_stop_le hne hstart hstop, SourceRow.underlined,
    SourceRow.underline]
  split_ifs <;> rfl

/-- A row in which the range does not end is shown, with a stroke under it perhaps, but without the
label. -/
theorem exists_annotate_cons (h : row.meet range ≠ .whole ∧ row.meet range ≠ .closes)
    (label : Text) (rows : List SourceRow) : ∃ lines,
      annotate range label (row :: rows) = lines ++ annotate range label rows ∧
        lines.filterMap (·.source?) = [(row.number, row.text)] ∧
        ∀ l ∈ lines, l.IsUnlabelled [row] := by
  have hshown : ∀ mark? ∈ [none, some '/', some '|'],
      (row.shown mark?).IsUnlabelled [row] := fun _ ↦ .row (List.mem_singleton_self row)
  rw [annotate]
  cases hmeet : row.meet range with
  | apart => exact ⟨[row.shown none], rfl, rfl, by simpa using hshown none (by simp)⟩
  | whole => exact absurd hmeet h.1
  | opensAtStart =>
    exact ⟨[row.shown (some '/')], rfl, rfl, by simpa using hshown (some '/') (by simp)⟩
  | opens =>
    refine ⟨[row.shown none, ⟨none, .drawing (strokeTo (range.start - row.start)) none⟩], rfl, rfl,
      List.forall_mem_cons.2 ⟨hshown none (by simp), ?_⟩⟩
    simpa using ExcerptLine.IsUnlabelled.stroke (range.start - row.start)
  | continues =>
    exact ⟨[row.shown (some '|')], rfl, rfl, by simpa using hshown (some '|') (by simp)⟩
  | closes => exact absurd hmeet h.2

/-- **The label is drawn once, after the row in which the range ends.** All rows are shown, in their
order. -/
theorem exists_annotate_eq (range : CharRange) (label : Text) {earlier later : List SourceRow}
    (hapart : (earlier ++ row :: later).Pairwise (·.stop < ·.start))
    (hne : range.start < range.stop) (hstart : row.start < range.stop)
    (hstop : range.stop ≤ row.stop) : ∃ above,
      annotate range label (earlier ++ row :: later) =
        above ++ row.underlined range label ++ later.map (·.shown none) ∧
        above.filterMap (·.source?) = earlier.map (fun row ↦ (row.number, row.text)) ∧
        ∀ l ∈ above, l.IsUnlabelled earlier := by
  induction earlier with
  | nil => exact ⟨[], annotate_cons_of_stop_le hne hstart hstop later, rfl, by simp⟩
  | cons first earlier ih =>
    obtain ⟨hfirst, hrest⟩ := List.pairwise_cons.1 hapart
    have hbefore : first.stop < row.start :=
      hfirst row (List.mem_append_right _ List.mem_cons_self)
    -- another row begins behind this one before the range ends, so that it does not end here
    have hends : first.stop + 1 < range.stop := by omega
    obtain ⟨lines, hlines, hsources, hunlabelled⟩ :=
      exists_annotate_cons (SourceRow.meet_ne hends) label (earlier ++ row :: later)
    obtain ⟨above, habove, hsources', hunlabelled'⟩ := ih hrest
    refine ⟨lines ++ above, ?_, ?_, ?_⟩
    · simp [hlines, habove]
    · rw [List.filterMap_append, hsources, hsources']
      rfl
    · exact List.forall_mem_append.2
        ⟨fun l hl ↦ (hunlabelled l hl).mono (by simp),
          fun l hl ↦ (hunlabelled' l hl).mono (by simp)⟩

theorem filterMap_source?_underlined (row : SourceRow) (range : CharRange) (label : Text) :
    (row.underlined range label).filterMap (·.source?) = [(row.number, row.text)] := by
  rw [SourceRow.underlined, SourceRow.underline]
  split_ifs <;> rfl

theorem filterMap_label?_underlined (row : SourceRow) (range : CharRange) (label : Text) :
    (row.underlined range label).filterMap (·.label?) = [label] := by
  rw [SourceRow.underlined, SourceRow.underline]
  split_ifs <;> rfl

theorem filterMap_source?_map_shown (rows : List SourceRow) :
    (rows.map (·.shown none)).filterMap (·.source?) =
      rows.map fun row ↦ (row.number, row.text) := by
  rw [List.filterMap_map]
  exact congrFun (List.filterMap_eq_map (f := fun row : SourceRow ↦ (row.number, row.text))) rows

theorem filterMap_label?_map_shown (rows : List SourceRow) :
    (rows.map (·.shown none)).filterMap (·.label?) = [] := by
  rw [List.filterMap_map]
  exact List.filterMap_eq_nil_iff.2 fun _ _ ↦ rfl

end ThreeAddress.Diagnostic
