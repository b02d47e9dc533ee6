import ThreeAddress.Operand.Reading

/-!
# Instructions

An instruction is an operation with its operands. Reading one checks, in this order, that the
operation exists, that the number of operands is the one it takes, and then the operands from left
to right; the first fault found is the one reported.
-/

namespace ThreeAddress

/-- An operation with its operands. -/
structure Instruction where
  /-- What is done. -/
  opcode : Opcode
  /-- To what it is done. -/
  operands : List Operand
  deriving DecidableEq, Repr

/-- The operation that a word names. -/
def Opcode.ofWord (word : Text) : Except Fault Opcode :=
  match ofWord? word with
  | some op => .ok op
  | none => .error (.unknownOpcode word.upper)

/-- The operand of a token at a position where the operation expects the kind. -/
def Operand.readAt (op : Opcode) (position : Nat) (expected : Kind) (token : Text) :
    Logged Event Fault Operand := do
  let operand ← Operand.read token (some expected)
  if expected.accepts operand then
    return operand
  else
    Logged.ofExcept (.error (.operandMismatch op position expected operand.category))

namespace Instruction

/-- The operands that the tokens spell, where the first of them stands at `position` and the
expected kinds are given one for one. -/
def readOperands (op : Opcode) (position : Nat) :
    List Kind → List Text → Logged Event Fault (List Operand)
  | kind :: kinds, token :: tokens => do
    let operand ← Operand.readAt op position kind token
    let operands ← readOperands op (position + 1) kinds tokens
    return operand :: operands
  | _, _ => return []

/-- The instruction that a word and the tokens after it spell. -/
def read (word : Text) (tokens : List Text) : Logged Event Fault Instruction := do
  let op ← Logged.ofExcept (Opcode.ofWord word)
  if tokens.length = op.arity then
    let operands ← readOperands op 1 op.signature tokens
    return ⟨op, operands⟩
  else
    Logged.ofExcept (.error (.wrongArity op op.arity tokens.length))

end Instruction

end ThreeAddress
