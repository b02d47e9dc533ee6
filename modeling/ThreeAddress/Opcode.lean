import ThreeAddress.Operand
import ThreeAddress.Text.Case

/-!
# Operation codes

The instruction set: the name of every operation and the kinds of operands it takes, in order. In a
source the name may be written in any letter case; the comparison is made in upper case, for which
the whole of Unicode is asked, so that a dotless `ı` is as good as an `I`.
-/

namespace ThreeAddress

/-- An operation of the language. -/
inductive Opcode
  | move
  | createFrame
  | pushFrame
  | popFrame
  | defVar
  | call
  | returnCall
  | pushS
  | popS
  | add
  | sub
  | mul
  | idiv
  | lt
  | gt
  | eq
  | and
  | or
  | not
  | int2char
  | stri2int
  | str2int
  | read
  | write
  | concat
  | strlen
  | getChar
  | setChar
  | type
  | label
  | jump
  | jumpIfEq
  | jumpIfNeq
  | exit
  | dprint
  | breakpoint
  deriving DecidableEq, Repr

namespace Opcode

/-- The operations, in the order in which the language lists them: frames and calls, the data
stack, arithmetic and comparison, input and output, strings, types, control flow, debugging. -/
def all : List Opcode :=
  [move, createFrame, pushFrame, popFrame, defVar, call, returnCall, pushS, popS, add, sub, mul,
   idiv, lt, gt, eq, and, or, not, int2char, stri2int, str2int, read, write, concat, strlen,
   getChar, setChar, type, label, jump, jumpIfEq, jumpIfNeq, exit, dprint, breakpoint]

/-- The name of the operation. -/
def name : Opcode → Text
  | move => "MOVE".toList
  | createFrame => "CREATEFRAME".toList
  | pushFrame => "PUSHFRAME".toList
  | popFrame => "POPFRAME".toList
  | defVar => "DEFVAR".toList
  | call => "CALL".toList
  | returnCall => "RETURN".toList
  | pushS => "PUSHS".toList
  | popS => "POPS".toList
  | add => "ADD".toList
  | sub => "SUB".toList
  | mul => "MUL".toList
  | idiv => "IDIV".toList
  | lt => "LT".toList
  | gt => "GT".toList
  | eq => "EQ".toList
  | and => "AND".toList
  | or => "OR".toList
  | not => "NOT".toList
  | int2char => "INT2CHAR".toList
  | stri2int => "STRI2INT".toList
  | str2int => "STR2INT".toList
  | read => "READ".toList
  | write => "WRITE".toList
  | concat => "CONCAT".toList
  | strlen => "STRLEN".toList
  | getChar => "GETCHAR".toList
  | setChar => "SETCHAR".toList
  | type => "TYPE".toList
  | label => "LABEL".toList
  | jump => "JUMP".toList
  | jumpIfEq => "JUMPIFEQ".toList
  | jumpIfNeq => "JUMPIFNEQ".toList
  | exit => "EXIT".toList
  | dprint => "DPRINT".toList
  | breakpoint => "BREAK".toList

/-- The kinds of operands that the operation takes, in order. -/
def signature : Opcode → List Kind
  | createFrame | pushFrame | popFrame | returnCall | breakpoint => []
  | defVar | popS => [.var]
  | call | label | jump => [.label]
  | pushS | write | exit | dprint => [.symb]
  | move | not | int2char | strlen | type => [.var, .symb]
  | read => [.var, .type]
  | add | sub | mul | idiv | lt | gt | eq | and | or | stri2int | str2int | concat | getChar |
    setChar => [.var, .symb, .symb]
  | jumpIfEq | jumpIfNeq => [.label, .symb, .symb]

/-- The number of operands that the operation takes. -/
def arity (op : Opcode) : Nat := op.signature.length

/-- The operation that a word names, in any letter case. -/
def ofWord? (word : Text) : Option Opcode := all.find? fun op ↦ op.name == word.upper

theorem mem_all (op : Opcode) : op ∈ all := by cases op <;> decide

/-- No two operations have one name. -/
theorem name_injective {op op' : Opcode} (h : op.name = op'.name) : op = op' := by
  have unique : ∀ a ∈ all, ∀ b ∈ all, a.name = b.name → a = b := by decide
  exact unique op (mem_all op) op' (mem_all op') h

/-- An operation is found by its name in any letter case. -/
theorem ofWord?_eq_some_iff {word : Text} {op : Opcode} :
    ofWord? word = some op ↔ op.name = word.upper := by
  constructor
  · intro h
    simpa using List.find?_some h
  · intro h
    unfold ofWord?
    rw [← h]
    have here : ∀ a ∈ all, all.find? (fun b ↦ b.name == a.name) = some a := by decide
    exact here op (mem_all op)

end Opcode

/-- Kinds as they are shown in messages, each in angle brackets and a space between two. -/
def displaySignature (kinds : List Kind) : Text :=
  List.intercalate [' '] (kinds.map fun kind ↦ '<' :: kind.name ++ ['>'])

end ThreeAddress
