import ThreeAddress.Fault

/-!
# The excerpt of a diagnostic

A diagnostic shows the line of a fault and marks the text that the fault is about. The marked range
is counted in characters, while a fault has its place in bytes: `CharRange.ofSpan` makes the one
from the other, and counts nothing where the bytes do not cut the line between characters.

A line that was given by hand may contain line feeds. It is then shown in several rows, and the
range may begin in one row and end in another. `SourceRow.meet` says how a row meets the range that
is still to be marked, in six cases that exclude each other; `annotate` draws them.
-/

namespace ThreeAddress.Diagnostic

/-- A range of characters, from `start` up to and not including `stop`. -/
structure CharRange where
  /-- The number of characters before the range. -/
  start : Nat
  /-- The number of characters up to the end of the range. -/
  stop : Nat
  deriving DecidableEq, Repr

/-- The characters of a line that lie in a span of bytes. -/
def CharRange.ofSpan (line : Text) (span : Span) : CharRange :=
  let before := ((line.slice? ⟨0, span.start⟩).map List.length).getD 0
  let inside := ((line.slice? span).map List.length).getD 0
  ⟨before, before + inside⟩

/-! ### Rows -/

/-- A row of the excerpt. -/
structure SourceRow where
  /-- The number that is shown beside it. -/
  number : Nat
  /-- The number of characters of the whole line before the row. -/
  start : Nat
  /-- The text of the row, without the line break. -/
  text : Text
  deriving DecidableEq, Repr

/-- The number of characters of the whole line up to the end of the row. -/
def SourceRow.stop (row : SourceRow) : Nat := row.start + row.text.length

/-- The texts of the rows, each with the number of characters of the break after it. A row ends at a
line feed and drops one carriage return before it; nothing follows the last line feed. -/
def rowTexts : Text → List (Text × Nat)
  | [] => []
  | '\r' :: '\n' :: t => ([], 2) :: rowTexts t
  | '\n' :: t => ([], 1) :: rowTexts t
  | c :: t =>
    match rowTexts t with
    | [] => [([c], 0)]
    | (text, width) :: rest => (c :: text, width) :: rest

/-- The rows of some texts, numbered from `number`, the first of which starts at `start`. -/
def placeRows (number start : Nat) : List (Text × Nat) → List SourceRow
  | [] => []
  | (text, width) :: rest =>
    ⟨number, start, text⟩ :: placeRows (number + 1) (start + text.length + width) rest

/-- The rows in which a line is shown. -/
def sourceRows (number : Nat) (line : Text) : List SourceRow := placeRows number 0 (rowTexts line)

/-- The row and the column where the range begins, counted from one. A start that lies in no row is
given the row after the last. -/
def position (number : Nat) (rows : List SourceRow) (range : CharRange) : Nat × Nat :=
  match rows.find? fun row ↦ row.start ≤ range.start && range.start ≤ row.stop with
  | some row => (row.number, range.start - row.start + 1)
  | none => (number + rows.length, 1)

/-! ### Marks -/

/-- How a row meets a range that is still to be marked. -/
inductive Meeting
  /-- The range is not in the row. -/
  | apart
  /-- The range lies in the row. -/
  | whole
  /-- The range begins where the row begins and ends in a later row. -/
  | opensAtStart
  /-- The range begins inside the row and ends in a later row. -/
  | opens
  /-- The range began in an earlier row and ends in a later one. -/
  | continues
  /-- The range began in an earlier row and ends in this one. -/
  | closes
  deriving DecidableEq, Repr

/-- How the row meets the range. A range of one character at most that begins at the end of the row
lies in the row. -/
def SourceRow.meet (row : SourceRow) (range : CharRange) : Meeting :=
  if row.stop < range.start then .apart
  else if (row.start ≤ range.start ∧ range.stop ≤ row.stop) ∨
      (range.start = row.stop ∧ range.stop - range.start ≤ 1) then .whole
  else if row.start ≤ range.start then
    if range.start = row.start then .opensAtStart else .opens
  else if row.stop < range.stop then .continues
  else if row.start ≤ range.stop then .closes
  else .apart

/-- What a line of the excerpt shows. -/
inductive Content
  /-- A row of the source. -/
  | source (number : Nat) (text : Text)
  /-- A line drawn under a row, and the label that explains it. -/
  | drawing (strokes : Text) (label? : Option Text)
  deriving DecidableEq, Repr

/-- A line of the excerpt. -/
structure ExcerptLine where
  /-- The stroke at the left, where a range of several rows passes. -/
  mark? : Option Char
  /-- What the line shows. -/
  content : Content
  deriving DecidableEq, Repr

/-- The line that shows the row, with a mark at its left. -/
def SourceRow.shown (row : SourceRow) (mark? : Option Char) : ExcerptLine :=
  ⟨mark?, .source row.number row.text⟩

/-- The stroke from the left edge of the text to the given column, counted from zero. -/
def strokeTo (column : Nat) : Text := List.replicate (column + 1) '_' ++ ['^']

/-- The lines of the excerpt. The range is drawn once: after the row in which it ends, the rows are
shown without marks. -/
def annotate (range : CharRange) (label : Text) : List SourceRow → List ExcerptLine
  | [] => []
  | row :: rows =>
    match row.meet range with
    | .apart => row.shown none :: annotate range label rows
    | .whole =>
      let strokes := List.replicate (range.start - row.start + 1) ' ' ++
        List.replicate (range.stop - range.start) '^'
      row.shown none :: ⟨none, .drawing strokes (some label)⟩ :: rows.map (·.shown none)
    | .opensAtStart => row.shown (some '/') :: annotate range label rows
    | .opens =>
      row.shown none :: ⟨none, .drawing (strokeTo (range.start - row.start)) none⟩ ::
        annotate range label rows
    | .continues => row.shown (some '|') :: annotate range label rows
    | .closes =>
      row.shown (some '|') ::
        ⟨some '|', .drawing (strokeTo (range.stop - row.start)) (some label)⟩ ::
        rows.map (·.shown none)

end ThreeAddress.Diagnostic
