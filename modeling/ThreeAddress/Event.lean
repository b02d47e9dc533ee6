import ThreeAddress.Logged
import ThreeAddress.Opcode

/-!
# Events

What reading a source notes on its way. Each line brings exactly one event about itself, unless it
has a fault; the operands of an instruction bring theirs before the line does.
-/

namespace ThreeAddress

/-- Something that happens while a source is read. -/
inductive Event
  /-- The token is an operand of the kind that was expected. -/
  | operandMatched (token : Text) (expected : Kind)
  /-- The token is an operand, though not of an expected kind; `tag` says of which. -/
  | operandClassified (token : Text) (tag : Text)
  /-- The line has no content. -/
  | lineSkipped (line : Nat)
  /-- The line is the header. -/
  | headerAccepted (line : Nat)
  /-- The line is the instruction with the number `order`. -/
  | instructionParsed (order : Nat) (opcode : Opcode) (operands : Nat) (line : Nat)
  /-- The source is a program of so many instructions. -/
  | programParsed (instructions : Nat)
  deriving DecidableEq, Repr

/-- How much an event matters to a reader of the log. -/
inductive Level
  | trace
  | debug
  | info
  deriving DecidableEq, Repr

/-- The name of the level. -/
def Level.name : Level → Text
  | trace => "trace".toList
  | debug => "debug".toList
  | info => "info".toList

namespace Event

/-- How much the event matters. -/
def level : Event → Level
  | operandMatched _ _ => .trace
  | operandClassified _ _ => .trace
  | lineSkipped _ => .trace
  | headerAccepted _ => .debug
  | instructionParsed _ _ _ _ => .debug
  | programParsed _ => .info

/-- The event in words. -/
def message : Event → Text
  | operandMatched _ _ => "operand matched expected kind".toList
  | operandClassified _ _ => "operand classified".toList
  | lineSkipped _ => "skipping line without content".toList
  | headerAccepted _ => "header accepted".toList
  | instructionParsed _ _ _ _ => "instruction parsed".toList
  | programParsed _ => "program parsed".toList

/-- The number of the line that the event is about, if it is about a line. -/
def line? : Event → Option Nat
  | lineSkipped line => some line
  | headerAccepted line => some line
  | instructionParsed _ _ _ line => some line
  | _ => none

end Event

end ThreeAddress
