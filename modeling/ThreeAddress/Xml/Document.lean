import ThreeAddress.Program
import ThreeAddress.Language
import ThreeAddress.Xml.Escape

/-!
# The XML document of a program

One line for the declaration, one for each tag of an element that has children, one for each element
that has none; children are indented by two spaces. An element with nothing in it is closed in its
own tag: a program without instructions, an instruction without operands, an operand without text.

The document is defined as the list of its lines, which is also the sequence of pieces in which it
is written out.
-/

namespace ThreeAddress.Xml

/-- An attribute of a tag, with the blank before it. -/
def attr (name value : Text) : Text :=
  ' ' :: name ++ "=\"".toList ++ escapeAttribute value ++ ['"']

/-- The declaration with which a document begins. -/
def declaration : Text := "<?xml version=\"1.0\" encoding=\"UTF-8\"?>".toList

/-- The indentation of one level. -/
def indent : Text := [' ', ' ']

/-- The name of the element of the operand at a position, counted from one. -/
def operandName (position : Nat) : Text := "arg".toList ++ Text.ofNat position

/-- The line of an operand. -/
def operandLine (position : Nat) (x : Operand) : Text :=
  let tag := '<' :: operandName position ++ attr "type".toList x.tag
  indent ++ indent ++
    if x.value.isEmpty then tag ++ "/>".toList
    else
      tag ++ '>' :: escapeText x.value ++ "</".toList ++ operandName position ++ ['>']

/-- The lines of operands, the first of which stands at `position`. -/
def operandLines (position : Nat) : List Operand → List Text
  | [] => []
  | x :: xs => operandLine position x :: operandLines (position + 1) xs

/-- The position of an operand is one more than its index. -/
theorem operandLines_succ (k : Nat) (xs : List Operand) :
    operandLines (k + 1) xs = (xs.zipIdx k).map fun e ↦ operandLine (e.2 + 1) e.1 := by
  induction xs generalizing k with
  | nil => rfl
  | cons x xs ih => rw [operandLines, ih, List.zipIdx_cons, List.map_cons]

/-- The tag of a statement up to its closing bracket. -/
def statementTag (s : Statement) : Text :=
  indent ++ "<instruction".toList ++ attr "order".toList (Text.ofNat s.order) ++
    attr "opcode".toList s.instruction.opcode.name

/-- The lines of a statement. -/
def statementLines (s : Statement) : List Text :=
  match s.instruction.operands with
  | [] => [statementTag s ++ "/>".toList]
  | xs =>
    (statementTag s ++ ['>']) :: operandLines 1 xs ++ [indent ++ "</instruction>".toList]

/-- An instruction with operands has an opening tag and a closing tag, each on a line. -/
theorem statementLines_of_ne_nil {s : Statement} (h : s.instruction.operands ≠ []) :
    statementLines s = (statementTag s ++ ['>']) ::
      (operandLines 1 s.instruction.operands ++ [indent ++ "</instruction>".toList]) := by
  rw [statementLines]
  split
  · contradiction
  · rfl

/-- The tag of a program up to its closing bracket. -/
def programTag : Text := "<program".toList ++ attr "language".toList languageName

/-- The lines of the document of a program. -/
def documentLines (p : Program) : List Text :=
  declaration ::
    match p.statements with
    | [] => [programTag ++ "/>".toList]
    | ss => (programTag ++ ['>']) :: ss.flatMap statementLines ++ ["</program>".toList]

/-- A program with instructions has an opening tag and a closing tag, each on a line. -/
theorem documentLines_of_ne_nil {p : Program} (h : p.statements ≠ []) :
    documentLines p = declaration :: (programTag ++ ['>']) ::
      (p.statements.flatMap statementLines ++ ["</program>".toList]) := by
  rw [documentLines]
  split
  · contradiction
  · rfl

/-- The pieces in which the document is written: its lines, each with a line feed. -/
def pieces (p : Program) : List Text := (documentLines p).map (· ++ ['\n'])

end ThreeAddress.Xml

namespace ThreeAddress

/-- The XML document of a program. -/
def Program.toXml (p : Program) : Text := (Xml.pieces p).flatten

end ThreeAddress
