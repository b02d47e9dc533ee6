import ThreeAddress.Fault
import ThreeAddress.Program

/-!
# Drafts

A draft is a program in the making: whether the header has been seen, how many lines there were, and
the statements so far. A source is read into it line by line. A line without content is skipped; the
first line with content has to be the header, and every later one an instruction.

`accept` is the meaning of one line: the next draft, or a failure. A line that fails leaves the
draft as it was, except that the line is counted; `after` is the draft with which reading can go on
in either case.

Reading a whole source does not go on: a source is a program if every one of its lines is accepted
in turn and the draft is complete after the last, and the first line that fails ends the reading,
and with it the log (`Program.read`). Who reads lines as they come keeps one draft and changes it
with every line (`Draft.feed`). A line is counted before it is looked at, and the other changes are
made when its checks are over; a failure leaves the draft as it is at that moment.
-/

namespace ThreeAddress

/-- Whether the header has been seen. -/
inductive Phase
  | awaitingHeader
  | body
  deriving DecidableEq, Repr

/-- A program in the making. -/
structure Draft where
  /-- Whether the header has been seen. -/
  phase : Phase
  /-- The number of lines so far. -/
  lineNumber : Nat
  /-- The statements so far. -/
  statements : Array Statement
  deriving DecidableEq, Repr

namespace Draft

/-! ### Line by line -/

/-- The draft before the first line. -/
def start : Draft := ⟨.awaitingHeader, 0, #[]⟩

instance : Inhabited Draft := ⟨start⟩

/-- The draft with one more line counted. -/
def countLine (d : Draft) : Draft := { d with lineNumber := d.lineNumber + 1 }

/-- The failure of the current line, which is `line` and has the words `ws`, by a fault in it. -/
def failure (d : Draft) (line : Text) (ws : List Word) (fault : Fault) : Failure :=
  .source fault (some ⟨d.lineNumber, line, fault.spanIn ws⟩)

/-- Accepts the current line as the header, in any letter case. What is compared is the line from
its first word to its last. -/
def acceptHeader (d : Draft) (line : Text) (ws : List Word) : Logged Event Failure Draft :=
  match line.slice? (Text.spanOfWords ws) with
  | some found =>
    if found.lower = header.lower then do
      Logged.note (.headerAccepted d.lineNumber)
      return { d with phase := .body }
    else
      Logged.ofExcept (.error (d.failure line ws (.incorrectHeader found)))
  | none =>
    Logged.ofExcept (.error (d.failure line ws (.internal "words outside of their line".toList)))

/-- Accepts the current line as an instruction: the operation `first` with the operands `rest`. -/
def acceptInstruction (d : Draft) (line : Text) (first : Word) (rest : List Word) :
    Logged Event Failure Draft := do
  let instruction ←
    (Instruction.read first.text (rest.map (·.text))).mapError (d.failure line (first :: rest))
  let order := d.statements.size + 1
  Logged.note
    (.instructionParsed order instruction.opcode instruction.operands.length d.lineNumber)
  return { d with statements := d.statements.push ⟨order, instruction⟩ }

/-- Accepts the next line. -/
def accept (d : Draft) (line : Text) : Logged Event Failure Draft :=
  match contentWords line with
  | [] => do
    Logged.note (.lineSkipped d.countLine.lineNumber)
    return d.countLine
  | first :: rest =>
    match d.phase with
    | .awaitingHeader => d.countLine.acceptHeader line (first :: rest)
    | .body => d.countLine.acceptInstruction line first rest

/-- The draft after the next line, whether the line is accepted or fails. -/
def after (d : Draft) (line : Text) : Draft :=
  match (d.accept line).outcome with
  | .ok next => next
  | .error _ => d.countLine

/-- The draft after some lines, of which any may fail. -/
def afterAll (d : Draft) (ls : List Text) : Draft := ls.foldl after d

/-- What each of some lines gets for an answer, when reading goes on after a failure. -/
def answers (d : Draft) : List Text → List (Except Failure Unit)
  | [] => []
  | line :: ls => (d.accept line).outcome.map (fun _ ↦ ()) :: (d.after line).answers ls

/-- The program, once all lines are read. -/
def complete (d : Draft) : Logged Event Failure Program :=
  match d.phase with
  | .awaitingHeader => Logged.ofExcept (.error (.source .missingHeader none))
  | .body => do
    Logged.note (.programParsed d.statements.size)
    return ⟨d.statements.toList⟩

/-- The draft after some lines, of which none may fail. -/
def acceptAll (d : Draft) (ls : List Text) : Logged Event Failure Draft := ls.foldlM accept d

/-- More lines are accepted by the draft after the first. -/
theorem acceptAll_append (d : Draft) (ls more : List Text) :
    d.acceptAll (ls ++ more) = d.acceptAll ls >>= fun d' ↦ d'.acceptAll more := List.foldlM_append

/-! ### Changes in place -/

/-- Reads the next line into the draft that is kept. -/
def feed (line : Text) : ExceptT Failure (StateM Draft) Unit := do
  modify countLine
  match contentWords line with
  | [] => return
  | first :: rest =>
    let d ← get
    match d.phase with
    | .awaitingHeader =>
      -- the draft that follows is made below, here only the check is wanted
      let _ ← MonadExcept.ofExcept (d.acceptHeader line (first :: rest)).outcome
      modify fun d ↦ { d with phase := .body }
    | .body =>
      let instruction ← MonadExcept.ofExcept <|
        (Instruction.read first.text (rest.map (·.text))).outcome.mapError
          (d.failure line (first :: rest))
      modify fun d ↦
        { d with statements := d.statements.push ⟨d.statements.size + 1, instruction⟩ }

/-- Reads some lines into the draft that is kept, also those after a line that fails, and returns
what each of them gets for an answer. -/
def feedAll (ls : List Text) : StateM Draft (List (Except Failure Unit)) :=
  ls.mapM fun line ↦ (feed line).run

end Draft

/-! ### Whole sources -/

namespace Program

/-- Reads a whole source, with the log of what happens. -/
def read (source : Text) : Logged Event Failure Program := do
  let draft ← Draft.start.acceptAll source.lines
  draft.complete

/-- The program that a source is, or the first failure. -/
def ofSource (source : Text) : Except Failure Program := (read source).outcome

/-- The program that the bytes of a source are. They have to be UTF-8 to the last byte, whatever
is wrong in an earlier line; a byte order mark is text like any other. -/
def ofBytes (bytes : ByteArray) : Except Failure Program :=
  match String.fromUTF8? bytes with
  | some source => ofSource source.toList
  | none => .error (.input "stream did not contain valid UTF-8".toList)

end Program

end ThreeAddress
