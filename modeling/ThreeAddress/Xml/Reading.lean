import ThreeAddress.Operand.Reading
import ThreeAddress.Language
import ThreeAddress.Xml.Document

/-!
# Reading a document back

The reader knows the layout that `ThreeAddress.Xml.Document` writes and nothing more general: one
tag or element to a line, attributes in one order, four entities. What the writer leaves out comes
back from what it writes: the frame of a variable and the base of an integer from the text of the
operand, the form of a literal from its tag.

Lines are read one at a time. Between two of them the reader remembers the statement that is open,
if one is; the recursion is on the lines that are left.
-/

namespace ThreeAddress.Xml

/-- The text that is written with these entities. -/
def unescape : Text → Text
  | '&' :: 'a' :: 'm' :: 'p' :: ';' :: t => '&' :: unescape t
  | '&' :: 'l' :: 't' :: ';' :: t => '<' :: unescape t
  | '&' :: 'g' :: 't' :: ';' :: t => '>' :: unescape t
  | '&' :: 'q' :: 'u' :: 'o' :: 't' :: ';' :: t => '"' :: unescape t
  | c :: t => c :: unescape t
  | [] => []

/-- The value of the attribute that the text begins with, and what follows it. -/
def readAttr? (name t : Text) : Option (Text × Text) := do
  let rest ← Text.after? (' ' :: name ++ "=\"".toList) t
  match rest.dropWhile (· != '"') with
  | '"' :: rest' => some (unescape (rest.takeWhile (· != '"')), rest')
  | _ => none

/-- The operand with the tag and the value. -/
def operandOf? (tag value : Text) : Option Operand :=
  if tag = "var".toList then (Variable.ofToken? value).map .var
  else if tag = "label".toList then some (.label value)
  else if tag = "type".toList then (TypeName.ofText? value).map .type
  else if tag = "bool".toList then
    if value = "true".toList then some (.literal (.bool true))
    else if value = "false".toList then some (.literal (.bool false))
    else none
  else if tag = "nil".toList then
    if value = "nil".toList then some (.literal .nil) else none
  else if tag = "int".toList then (Base.of? value).map fun base ↦ .literal (.int value base)
  else if tag = "string".toList then some (.literal (.string value))
  else none

/-- The operand on a line, which has to stand at the position. -/
def readOperandLine? (position : Nat) (line : Text) : Option Operand := do
  let rest ← Text.after? (indent ++ indent ++ '<' :: operandName position) line
  let (tag, rest) ← readAttr? "type".toList rest
  if rest = "/>".toList then operandOf? tag []
  else
    let rest ← Text.after? ['>'] rest
    let value := rest.takeWhile (· != '<')
    if rest.dropWhile (· != '<') = "</".toList ++ operandName position ++ ['>'] then
      operandOf? tag (unescape value)
    else none

/-- The number and the operation in the tag of a statement, and whether the tag closes it. -/
def readStatementTag? (line : Text) : Option (Nat × Opcode × Bool) := do
  let rest ← Text.after? (indent ++ "<instruction".toList) line
  let (order, rest) ← readAttr? "order".toList rest
  let (name, rest) ← readAttr? "opcode".toList rest
  let order ← Text.toNat? order
  let op ← Opcode.all.find? fun op ↦ op.name == name
  if rest = "/>".toList then some (order, op, true)
  else if rest = ['>'] then some (order, op, false)
  else none

/-- The statements on some lines, up to the closing tag of the program and the end of the text. If
a statement is open, its number, its operation and its operands so far are given. -/
def readStatements? : Option Statement → List Text → Option (List Statement)
  | _, [] => none
  | none, line :: rest =>
    if line = "</program>".toList then if rest = [[]] then some [] else none
    else
      match readStatementTag? line with
      | some (order, op, true) => (readStatements? none rest).map (⟨order, op, []⟩ :: ·)
      | some (order, op, false) => readStatements? (some ⟨order, op, []⟩) rest
      | none => none
  | some s, line :: rest =>
    if line = indent ++ "</instruction>".toList then (readStatements? none rest).map (s :: ·)
    else
      match readOperandLine? (s.instruction.operands.length + 1) line with
      | some x =>
        readStatements? (some ⟨s.order, s.instruction.opcode, s.instruction.operands ++ [x]⟩) rest
      | none => none

end ThreeAddress.Xml

namespace ThreeAddress

/-- The program of an XML document. -/
def Program.ofXml? (document : Text) : Option Program :=
  match document.lines with
  | first :: tag :: rest =>
    if first ≠ Xml.declaration then none
    else if tag = Xml.programTag ++ "/>".toList then if rest = [[]] then some ⟨[]⟩ else none
    else if tag = Xml.programTag ++ ['>'] then (Xml.readStatements? none rest).map Program.mk
    else none
  | _ => none

end ThreeAddress
