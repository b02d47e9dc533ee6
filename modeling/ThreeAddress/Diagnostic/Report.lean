import ThreeAddress.Diagnostic.Excerpt
import ThreeAddress.Diagnostic.Paint

/-!
# Diagnostics

A failure as a user sees it: a title with the message, and, where the failure has a place, the
position and an excerpt of the source, set in a frame with the numbers of the rows.

The numbers are set flush right in a gutter, which is wide enough for the greatest of them and so
for all. Its width follows from the decimal logarithm of that number in double precision. This is
the number of digits as long as a logarithm can be told from the whole number above it; just below a
power of ten with fifteen zeros or more it cannot, and one column is left empty.
-/

namespace ThreeAddress.Diagnostic

/-! ### The gutter -/

/-- The blocks of numbers below a power of ten whose logarithm in double precision is that of the
power, each with its first number and the power. The blocks are those of numbers of 64 bits. -/
def roundedBlocks : List (Nat × Nat) :=
  [(999999999999998, 1000000000000000), (9999999999999979, 10000000000000000),
   (99999999999999593, 100000000000000000), (999999999999995840, 1000000000000000000),
   (9999999999999958016, 10000000000000000000)]

/-- The number of columns that are kept for a number. -/
def columns (n : Nat) : Nat :=
  if roundedBlocks.any fun block ↦ block.1 ≤ n && n < block.2 then (Text.ofNat n).length + 1
  else (Text.ofNat n).length

/-- The width of the gutter for rows of which the last has the greatest number. No room is kept for
the number zero. -/
def gutterWidth (rows : List SourceRow) : Nat :=
  match rows.getLast? with
  | some row => if row.number = 0 then 0 else columns row.number
  | none => 0

/-- The gutter beside a line that has no number. -/
def gutter (width : Nat) : Piece := ⟨.frame, List.replicate width ' ' ++ " |".toList⟩

/-- The gutter beside the row with a number, which is set flush right. -/
def numberedGutter (width number : Nat) : Piece :=
  ⟨.frame, List.replicate (width - (Text.ofNat number).length) ' ' ++ Text.ofNat number ++
    " |".toList⟩

/-! ### The rows of a diagnostic -/

/-- The pieces of a text between double underscores, which are taken from left to right. -/
def splitUnderscores : Text → List Text
  | [] => [[]]
  | '_' :: '_' :: t => [] :: splitUnderscores t
  | c :: t => (splitUnderscores t).modifyHead (c :: ·)

/-- The title. A double underscore in the message separates two pieces of it and is not shown; a
message of which nothing is left is left out together with its colon. -/
def title (message : Text) : Row :=
  ⟨.accent, "error".toList⟩ ::
    if (splitUnderscores message).all List.isEmpty then []
    else ⟨.plain, ": ".toList⟩ :: (splitUnderscores message).map (⟨.strong, ·⟩)

/-- The line that names the origin of the source and the position in it. -/
def originRow (width : Nat) (origin : Text) (row column : Nat) : Row :=
  [⟨.plain, List.replicate width ' '⟩, ⟨.frame, "-->".toList⟩,
   ⟨.plain, ' ' :: origin ++ ':' :: Text.ofNat row ++ ':' :: Text.ofNat column⟩]

/-- The column of marks, which is there if any line of the excerpt has a mark. -/
def markColumn (marked : Bool) (mark? : Option Char) : Row :=
  if marked then
    ⟨.plain, [' ']⟩ ::
      match mark? with
      | some mark => [⟨.accent, [mark]⟩]
      | none => [⟨.plain, [' ']⟩]
  else []

/-- One line of the excerpt in its frame. -/
def excerptRow (width : Nat) (marked : Bool) (line : ExcerptLine) : Row :=
  match line.content with
  | .source number text =>
    numberedGutter width number :: markColumn marked line.mark? ++ [⟨.plain, ' ' :: text⟩]
  | .drawing strokes label? =>
    gutter width :: markColumn marked line.mark? ++ ⟨.accent, strokes⟩ ::
      match label? with
      | some label => [⟨.plain, [' ']⟩, ⟨.accent, label⟩]
      | none => []

/-- The position and the excerpt of a place in a source, with a label for the marked text. -/
def placedRows (origin? : Option Text) (place : Location) (label : Text) : List Row :=
  let range := CharRange.ofSpan place.line place.span
  let rows := sourceRows place.lineNumber place.line
  let width := gutterWidth rows
  let lines := annotate range label rows
  let marked := lines.any fun line ↦ line.mark?.isSome
  let begin := position place.lineNumber rows range
  (origin?.map fun origin ↦ originRow width origin begin.1 begin.2).toList ++
    [gutter width] :: lines.map (excerptRow width marked) ++ [[gutter width]]

/-- All rows of the diagnostic of a failure. -/
def rows (origin? : Option Text) : Failure → List Row
  | .source fault (some place) =>
    title fault.message :: placedRows origin? place fault.label
  | failure => [title failure.message]

end ThreeAddress.Diagnostic

namespace ThreeAddress

/-- The diagnostic of a failure, with the name of the source it came from if there is one. -/
def Failure.render (failure : Failure) (origin? : Option Text) (coloured : Bool) : Text :=
  Diagnostic.renderRows coloured (Diagnostic.rows origin? failure)

end ThreeAddress
