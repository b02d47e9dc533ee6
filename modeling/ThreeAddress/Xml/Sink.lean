import ThreeAddress.Fault
import ThreeAddress.Xml.Document

/-!
# Writing to a limited sink

A sink takes bytes until it is full and then refuses: of the piece that overflows it, it takes as
much as still fits. A document is written line by line, in the order of its elements, and the
writing stops at the first line that is refused.
-/

namespace ThreeAddress

/-- A place that bytes are written to. -/
structure Sink where
  /-- The number of bytes that it can still take. -/
  room : Nat
  /-- What it says when it can take no more. -/
  complaint : Text
  /-- The bytes that it has taken. -/
  taken : List UInt8
  deriving DecidableEq, Repr

namespace Sink

/-- An empty sink for `room` bytes. -/
def empty (room : Nat) (complaint : Text) : Sink := ⟨room, complaint, []⟩

/-- Writes one piece. -/
def put (s : Sink) (bytes : List UInt8) : Sink × Except Failure Unit :=
  ({ s with room := s.room - bytes.length, taken := s.taken ++ bytes.take s.room },
    if bytes.length ≤ s.room then .ok () else .error (.output s.complaint))

end Sink

/-- A piece of work that writes to one sink and ends with the first refusal. -/
abbrev Writing := ExceptT Failure (StateM Sink) Unit

/-- Does the work on a sink. -/
def Writing.into (w : Writing) (s : Sink) : Sink × Except Failure Unit := (w.run.run s).swap

namespace Xml

/-- Writes a line and its line feed. -/
def writeLine (line : Text) : Writing :=
  ExceptT.mk (modifyGet fun s ↦ (s.put (Text.utf8 (line ++ ['\n']))).swap)

/-- Writes the element of a statement. -/
def writeStatement (s : Statement) : Writing := do
  let operands := s.instruction.operands
  if operands.isEmpty then
    return ← writeLine (statementTag s ++ "/>".toList)
  writeLine (statementTag s ++ ['>'])
  for (x, index) in operands.zipIdx do
    writeLine (operandLine (index + 1) x)
  writeLine (indent ++ "</instruction>".toList)

/-- Writes the declaration and the element of a program. -/
def writeDocument (p : Program) : Writing := do
  writeLine declaration
  if p.statements.isEmpty then
    return ← writeLine (programTag ++ "/>".toList)
  writeLine (programTag ++ ['>'])
  for s in p.statements do
    writeStatement s
  writeLine "</program>".toList

end Xml

/-- Writes the XML document of a program to a sink. -/
def Program.writeXml (p : Program) (s : Sink) : Sink × Except Failure Unit :=
  (Xml.writeDocument p).into s

end ThreeAddress
