import ThreeAddress.Language
import ThreeAddress.Opcode

/-!
# What can be wrong

A *fault* is a cause: something in a source that keeps it from being a program. A *failure* is what
a run reports: a fault with the place where it was found, or a reason that lies outside the source.
The wording of messages is in one function per type; everything else that depends on the cause, the
exit code and the label under the marked text, is a function beside it.

A fault says what is wrong, not where; where follows from the words of the line (`Fault.spanIn`).
The faults of an operand are about that operand. A token that is no operand at all is looked for
among the operands: reading stops at the first such token, so the first word with its text is the
one that was read.
-/

namespace ThreeAddress

/-- A reason why a source is not a program. -/
inductive Fault
  /-- No line has any content. -/
  | missingHeader
  /-- The first line with content, which is `found`, is not the header. -/
  | incorrectHeader (found : Text)
  /-- No operation has this name; the word is in upper case already. -/
  | unknownOpcode (word : Text)
  /-- The operation takes `expected` operands and got `actual`. -/
  | wrongArity (opcode : Opcode) (expected actual : Nat)
  /-- The token belongs to no lexical class. -/
  | invalidOperand (token : Text)
  /-- The operand at this position, counted from one, is not of the kind that belongs there. -/
  | operandMismatch (opcode : Opcode) (position : Nat) (expected : Kind) (actual : Category)
  /-- Two parts of the reader disagree about a token; no source brings this about. -/
  | internal (detail : Text)
  deriving DecidableEq, Repr

namespace Fault

/-- The header as messages quote it. -/
def quotedHeader : Text := '`' :: header ++ ['`']

/-- The message of the fault. -/
def message : Fault → Text
  | missingHeader => "missing header, the first line with content must be ".toList ++ quotedHeader
  | incorrectHeader found =>
    "incorrect header `".toList ++ found ++ "`, expected ".toList ++ quotedHeader
  | unknownOpcode word => "unknown or incorrect operation code `".toList ++ word ++ ['`']
  | wrongArity opcode expected actual =>
    opcode.name ++ " takes ".toList ++ Text.ofNat expected ++ " operand(s), found ".toList ++
      Text.ofNat actual
  | invalidOperand token =>
    '`' :: token ++ "` is not a valid variable, literal, label or type".toList
  | operandMismatch opcode position expected actual =>
    "operand ".toList ++ Text.ofNat position ++ " of ".toList ++ opcode.name ++
      " must be <".toList ++ expected.name ++ ">, found a ".toList ++ actual.name
  | internal detail => "internal error: ".toList ++ detail

/-- The exit code of a run that ends with the fault. -/
def exitCode : Fault → Nat
  | missingHeader => 21
  | incorrectHeader _ => 21
  | unknownOpcode _ => 22
  | wrongArity _ _ _ => 23
  | invalidOperand _ => 23
  | operandMismatch _ _ _ _ => 23
  | internal _ => 99

/-- What is written under the marked text. -/
def label : Fault → Text
  | missingHeader => "header expected here".toList
  | incorrectHeader _ => "expected ".toList ++ quotedHeader
  | unknownOpcode _ => "unknown opcode".toList
  | wrongArity opcode _ _ =>
    "expected `".toList ++ opcode.name ++ ' ' :: displaySignature opcode.signature ++ ['`']
  | invalidOperand _ => "invalid operand".toList
  | operandMismatch _ _ expected _ => "expected <".toList ++ expected.name ++ ['>']
  | internal _ => "while parsing this".toList

end Fault

/-! ### Places -/

/-- The bytes of the word, if there is one. -/
def spanOfWord (word? : Option Word) : Span := (word?.map (·.span)).getD ⟨0, 0⟩

/-- The bytes of a line that the fault is about, when the line has these words, the first of which
names the operation. -/
def Fault.spanIn (ws : List Word) : Fault → Span
  | operandMismatch _ position _ _ => spanOfWord (ws[position]?.or ws.head?)
  | invalidOperand token => spanOfWord ((ws.tail.find? fun w ↦ w.text == token).or ws.head?)
  | unknownOpcode _ => spanOfWord ws.head?
  | wrongArity _ _ _ => spanOfWord ws.head?
  | missingHeader => Text.spanOfWords ws
  | incorrectHeader _ => Text.spanOfWords ws
  | internal _ => Text.spanOfWords ws

/-- Where in a source a fault was found. -/
structure Location where
  /-- The number of the line, counted from one. -/
  lineNumber : Nat
  /-- The whole line. -/
  line : Text
  /-- The bytes of the line that the fault is about. -/
  span : Span
  deriving DecidableEq, Repr

/-! ### Failures -/

/-- Why a run fails. -/
inductive Failure
  /-- The command line makes no sense. -/
  | invalidInvocation (detail : Text)
  /-- The input cannot be read. -/
  | input (detail : Text)
  /-- The output cannot be written. -/
  | output (detail : Text)
  /-- The source has a fault, which has a place unless something is missing as a whole. -/
  | source (fault : Fault) (location? : Option Location)
  deriving DecidableEq, Repr

namespace Failure

/-- The message of the failure. -/
def message : Failure → Text
  | invalidInvocation detail => detail
  | input detail => "cannot read input: ".toList ++ detail
  | output detail => "cannot write output: ".toList ++ detail
  | source fault _ => fault.message

/-- The exit code of a run that ends with the failure. -/
def exitCode : Failure → Nat
  | invalidInvocation _ => 10
  | input _ => 11
  | output _ => 12
  | source fault _ => fault.exitCode

/-- The fault in the source, if that is the reason. -/
def fault? : Failure → Option Fault
  | source fault _ => some fault
  | _ => none

/-- The place in the source, if there is one. -/
def location? : Failure → Option Location
  | source _ location? => location?
  | _ => none

end Failure

end ThreeAddress
