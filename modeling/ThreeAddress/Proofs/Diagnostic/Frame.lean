import ThreeAddress.Proofs.Diagnostic.Excerpt
import ThreeAddress.Proofs.Diagnostic.Title

/-!
# The rows below the title

`framed` writes down, as texts, the rows of a diagnostic below its title: the position, and the
lines of the excerpt in their frame. None of them has a line feed in it
(`lineFeed_not_mem_of_mem_framed`), so that they can be told apart in the diagnostic, which is one
text. For a line that is shown in one row they are five, `underlinedRows`.

How wide the gutter is does not concern the text that is marked. It is as wide as the number of the
last row, except where the number is so close to a power of ten that the two have the same logarithm
in double precision; then it is one column wider (`columns_eq_iff`).
-/

namespace ThreeAddress.Diagnostic

open Text

/-! ### Rows as texts -/

/-- The column of marks in a row of text. -/
def markText (marked : Bool) (mark? : Option Char) : Text :=
  if marked then [' ', mark?.getD ' '] else []

/-- The text of a line of the excerpt. -/
def printed (width : Nat) (marked : Bool) (line : ExcerptLine) : Text :=
  match line.content with
  | .source number text =>
    List.replicate (width - (ofNat number).length) ' ' ++ ofNat number ++ " |".toList ++
      markText marked line.mark? ++ ' ' :: text
  | .drawing strokes label? =>
    List.replicate width ' ' ++ " |".toList ++ markText marked line.mark? ++ strokes ++
      (label?.map (' ' :: ·)).getD []

/-- The texts of the position and of the lines of the excerpt in their frame. -/
def framed (width : Nat) (origin : Text) (position : Nat × Nat) (lines : List ExcerptLine) :
    List Text :=
  (List.replicate width ' ' ++ "--> ".toList ++ origin ++ ':' :: ofNat position.1 ++
      ':' :: ofNat position.2) ::
    (List.replicate width ' ' ++ " |".toList) ::
    lines.map (printed width (lines.any fun line ↦ line.mark?.isSome)) ++
    [List.replicate width ' ' ++ " |".toList]

/-- Without colour the column of marks is two characters, or nothing. -/
theorem renderRow_markColumn (marked : Bool) (mark? : Option Char) :
    renderRow false (markColumn marked mark?) = markText marked mark? := by
  cases marked <;> cases mark? <;> rfl

theorem renderRow_append (coloured : Bool) (r s : Row) :
    renderRow coloured (r ++ s) = renderRow coloured r ++ renderRow coloured s :=
  List.flatMap_append

theorem renderRow_cons (piece : Piece) (row : Row) :
    renderRow false (piece :: row) = piece.text ++ renderRow false row := rfl

/-- Without colour a line of the excerpt is the text that is printed for it. -/
theorem renderRow_excerptRow (width : Nat) (marked : Bool) (line : ExcerptLine) :
    renderRow false (excerptRow width marked line) = printed width marked line := by
  obtain ⟨mark?, content⟩ := line
  cases content with
  | source number text =>
    rw [excerptRow, renderRow_append, renderRow_cons, renderRow_markColumn, printed]
    simp [numberedGutter, renderRow_false]
  | drawing strokes label? =>
    rw [excerptRow, renderRow_append, renderRow_cons, renderRow_markColumn, printed]
    cases label? <;> simp [gutter, renderRow_false]

/-- The rows below the title as texts. -/
theorem map_renderRow_placedRows (origin label : Text) (place : Location) :
    (placedRows (some origin) place label).map (renderRow false) =
      let range := CharRange.ofSpan place.line place.span
      let rows := sourceRows place.lineNumber place.line
      framed (gutterWidth rows) origin (position place.lineNumber rows range)
        (annotate range label rows) := by
  simp [placedRows, framed, originRow, gutter, renderRow_false, Function.comp_def,
    ← renderRow_excerptRow]

/-! ### No line feed -/

/-- Nothing in the line of the excerpt is a line feed. -/
structure ExcerptLine.Unbroken (line : ExcerptLine) : Prop where
  mark : line.mark? ≠ some '\n'
  source : ∀ number text, line.content = .source number text → '\n' ∉ text
  drawing : ∀ strokes label?, line.content = .drawing strokes label? →
    '\n' ∉ strokes ∧ ∀ label ∈ label?, '\n' ∉ label

variable {origin label : Text} {width number : Nat} {range : CharRange} {row : SourceRow}
  {rows : List SourceRow} {lines : List ExcerptLine} {mark? : Option Char}

/-- A row that is shown stays in its line of the output. -/
theorem SourceRow.unbroken_shown (hrow : '\n' ∉ row.text) (hmark : mark? ≠ some '\n') :
    (row.shown mark?).Unbroken where
  mark := hmark
  source := by
    rintro _ _ ⟨⟩
    exact hrow
  drawing := by simp [SourceRow.shown]

theorem lineFeed_not_mem_strokeTo (column : Nat) : '\n' ∉ strokeTo column := by
  simp [strokeTo]

/-- An underline stays in its line if the label does. -/
theorem SourceRow.unbroken_underline (hlabel : '\n' ∉ label) :
    (row.underline range label).Unbroken := by
  rw [SourceRow.underline]
  split_ifs
  · refine ⟨by simp, by simp, ?_⟩
    rintro _ _ ⟨⟩
    exact ⟨by simp, by simpa using hlabel⟩
  · refine ⟨by simp, by simp, ?_⟩
    rintro _ _ ⟨⟩
    exact ⟨lineFeed_not_mem_strokeTo _, by simpa using hlabel⟩

/-- The lines above the underline are made from rows of the source and strokes. -/
theorem ExcerptLine.IsUnlabelled.unbroken {line : ExcerptLine} (h : line.IsUnlabelled rows)
    (hrows : ∀ row ∈ rows, '\n' ∉ row.text) : line.Unbroken := by
  cases h with
  | row hrow hmark =>
    refine SourceRow.unbroken_shown (hrows _ hrow) ?_
    rintro rfl
    exact absurd hmark (by decide)
  | stroke column =>
    refine ⟨by simp, by simp, ?_⟩
    rintro _ _ ⟨⟩
    exact ⟨lineFeed_not_mem_strokeTo column, by simp⟩

/-- No line of an excerpt breaks: neither what is above the underline, nor the underline, nor the
rows below it. -/
theorem unbroken_lines {earlier later : List SourceRow} {last : SourceRow}
    {above : List ExcerptLine} (habove : ∀ l ∈ above, l.IsUnlabelled earlier)
    (hrows : ∀ row ∈ earlier ++ last :: later, '\n' ∉ row.text) (hlabel : '\n' ∉ label) :
    ∀ l ∈ above ++ last.underlined range label ++ later.map (·.shown none), l.Unbroken := by
  have hunderline : (last.underline range label).Unbroken := SourceRow.unbroken_underline hlabel
  obtain ⟨hearlier, hrest⟩ := List.forall_mem_append.1 hrows
  obtain ⟨hlast, hlater⟩ := List.forall_mem_cons.1 hrest
  rw [List.forall_mem_append, List.forall_mem_append, List.forall_mem_map]
  refine ⟨⟨fun l hl ↦ (habove l hl).unbroken hearlier, ?_⟩,
    fun row hrow ↦ SourceRow.unbroken_shown (hlater row hrow) (by simp)⟩
  rw [SourceRow.underlined, List.forall_mem_cons, List.forall_mem_singleton]
  exact ⟨SourceRow.unbroken_shown hlast hunderline.mark, hunderline⟩

/-- The frame adds a number, blanks and a rule, which break no line either. -/
theorem ExcerptLine.Unbroken.lineFeed_not_mem {line : ExcerptLine} (h : line.Unbroken)
    (width : Nat) (marked : Bool) : '\n' ∉ printed width marked line := by
  have hmark : '\n' ∉ markText marked line.mark? := by
    obtain ⟨mark?, content⟩ := line
    cases marked with
    | false => simp [markText]
    | true =>
      cases mark? with
      | none => simp [markText]
      | some mark => simpa [markText, eq_comm] using h.mark
  have hnumber := fun n ↦ (isWording_ofNat n).lineFeed_not_mem
  obtain ⟨mark?, content⟩ := line
  cases content with
  | source number text => simp [printed, hmark, hnumber, h.source number text rfl]
  | drawing strokes label? =>
    obtain ⟨hstrokes, hlabel⟩ := h.drawing strokes label? rfl
    cases label? with
    | none => simp [printed, hmark, hstrokes]
    | some label => simp [printed, hmark, hstrokes, hlabel label rfl]

/-- No row has a line feed in it, so that these are the rows of the diagnostic as one text. -/
theorem lineFeed_not_mem_of_mem_framed {t : Text} {position : Nat × Nat} (horigin : '\n' ∉ origin)
    (hlines : ∀ line ∈ lines, line.Unbroken) (ht : t ∈ framed width origin position lines) :
    '\n' ∉ t := by
  have hnumber := fun n ↦ (isWording_ofNat n).lineFeed_not_mem
  rw [framed, List.mem_append, List.mem_cons, List.mem_cons, List.mem_singleton] at ht
  rcases ht with (rfl | rfl | ht) | rfl
  · simp [horigin, hnumber]
  · simp
  · obtain ⟨line, hline, rfl⟩ := List.mem_map.1 ht
    exact (hlines line hline).lineFeed_not_mem _ _
  · simp

/-! ### A line that is shown in one row -/

/-- The five rows below the title for a line that is shown in one row. -/
def underlinedRows (width : Nat) (origin : Text) (number : Nat) (line : Text) (range : CharRange)
    (label : Text) : List Text :=
  [List.replicate width ' ' ++ "--> ".toList ++ origin ++ ':' :: ofNat number ++
      ':' :: ofNat (range.start + 1),
    List.replicate width ' ' ++ " |".toList,
    List.replicate (width - (ofNat number).length) ' ' ++ ofNat number ++ " | ".toList ++ line,
    List.replicate width ' ' ++ " |".toList ++ List.replicate (range.start + 1) ' ' ++
      List.replicate (range.stop - range.start) '^' ++ ' ' :: label,
    List.replicate width ' ' ++ " |".toList]

/-- A single row with its underline is these five rows when it is framed. -/
theorem framed_eq_underlinedRows (width : Nat) (origin : Text) (number : Nat) (line : Text)
    (range : CharRange) (label : Text) :
    let row : SourceRow := ⟨number, 0, line⟩
    framed width origin (number, range.start + 1) (row.underlined range label) =
      underlinedRows width origin number line range label := by
  simp [framed, underlinedRows, SourceRow.underlined, SourceRow.underline, SourceRow.shown,
    printed, markText]

/-- A number gets as many columns as it has digits unless it is just below a power of ten. -/
theorem columns_eq_iff {n : Nat} : columns n = (ofNat n).length ↔
    ∀ block ∈ roundedBlocks, n < block.1 ∨ block.2 ≤ n := by
  have hblock : (roundedBlocks.any fun block ↦ block.1 ≤ n && n < block.2) = true ↔
      ∃ block ∈ roundedBlocks, block.1 ≤ n ∧ n < block.2 := by simp
  have houtside : (∀ block ∈ roundedBlocks, n < block.1 ∨ block.2 ≤ n) ↔
      ¬∃ block ∈ roundedBlocks, block.1 ≤ n ∧ n < block.2 := by
    simp only [not_exists, not_and_or, not_le, not_lt]
    simp [or_iff_not_imp_left]
  rw [columns, houtside, ← hblock]
  split_ifs with h
  · simp [h]
  · simp [h]

/-- The rows of two diagnostics are different if the gutters are. -/
theorem underlinedRows_inj {width width' : Nat} {origin : Text} {number : Nat} {line : Text}
    {range : CharRange} {label : Text} :
    underlinedRows width origin number line range label =
      underlinedRows width' origin number line range label ↔ width = width' := by
  refine ⟨fun h ↦ ?_, fun h ↦ h ▸ rfl⟩
  have hrule : List.replicate width ' ' ++ " |".toList = List.replicate width' ' ' ++ " |".toList :=
    (List.cons.inj (List.cons.inj h).2).1
  simpa using congrArg List.length hrule

theorem gutterWidth_singleton {number : Nat} (h : number ≠ 0) (start : Nat) (text : Text) :
    gutterWidth [⟨number, start, text⟩] = columns number := if_neg h

end ThreeAddress.Diagnostic
