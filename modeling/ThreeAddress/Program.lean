import ThreeAddress.Instruction
import ThreeAddress.Language

/-!
# Programs

A program is a list of statements, each an instruction with its number. The numbers begin at one
and have no gaps; they are part of the statement because the written document repeats them.

The plainest source of a program is the header, and one line for each instruction, with the name of
the operation and the operands as they were written, a single space between two words. Numbers are
not written; they follow from the order of the lines.
-/

namespace ThreeAddress

/-- An instruction with its number in the program. -/
structure Statement where
  /-- The number, counted from one. -/
  order : Nat
  /-- The instruction. -/
  instruction : Instruction
  deriving DecidableEq, Repr

/-- The statements of a source, in order. -/
structure Program where
  /-- The statements, the first in front. -/
  statements : List Statement
  deriving DecidableEq, Repr

/-- The words of an instruction. -/
def Instruction.words (i : Instruction) : List Text :=
  i.opcode.name :: i.operands.map Operand.spelling

namespace Program

/-- The number of instructions. -/
def size (p : Program) : Nat := p.statements.length

/-- Whether the program has no instructions. -/
def isEmpty (p : Program) : Bool := p.statements.isEmpty

/-- The lines of the plainest source of the program. -/
def sourceLines (p : Program) : List Text :=
  header :: p.statements.map fun s ↦ List.intercalate [' '] s.instruction.words

/-- The plainest source of the program. -/
def toSource (p : Program) : Text := List.intercalate ['\n'] p.sourceLines

end Program

end ThreeAddress
