import ThreeAddress.Text.Basic

/-!
# Painted text

A diagnostic is laid out once, as rows of pieces that carry their paint, and shown in two ways:
plainly, or with every painted piece between two escape sequences. Layout therefore cannot depend on
colour. A piece with paint is wrapped even if it is empty.
-/

namespace ThreeAddress.Diagnostic

/-- The paints of a diagnostic. -/
inductive Paint
  /-- As it is. -/
  | plain
  /-- The word for the severity, and everything that marks the offending text. -/
  | accent
  /-- The message. -/
  | strong
  /-- The frame around the source: line numbers and rules. -/
  | frame
  deriving DecidableEq, Repr

/-- The parameters of the escape sequence that selects the paint. -/
def Paint.codes? : Paint → Option Text
  | plain => none
  | accent => some "1;38;5;9".toList
  | strong => some "1".toList
  | frame => some "1;38;5;12".toList

/-- A piece of text in one paint. -/
structure Piece where
  /-- The paint. -/
  paint : Paint
  /-- The text. -/
  text : Text
  deriving DecidableEq, Repr

/-- One line of a diagnostic. -/
abbrev Row := List Piece

/-- The escape character. -/
def escape : Char := '\x1b'

/-- An escape sequence with the given parameters. -/
def escapeSequence (codes : Text) : Text := escape :: '[' :: codes ++ ['m']

/-- The piece as it is shown. -/
def Piece.render (coloured : Bool) (piece : Piece) : Text :=
  match coloured, piece.paint.codes? with
  | true, some codes => escapeSequence codes ++ piece.text ++ escapeSequence ['0']
  | _, _ => piece.text

/-- The row as it is shown. -/
def renderRow (coloured : Bool) (row : Row) : Text := row.flatMap (Piece.render coloured)

/-- The rows as they are shown, with a line feed between two. -/
def renderRows (coloured : Bool) (rows : List Row) : Text :=
  List.intercalate ['\n'] (rows.map (renderRow coloured))

end ThreeAddress.Diagnostic
