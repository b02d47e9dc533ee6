import ThreeAddress.Proofs.Draft.Run

/-!
# What was read before only moves numbers

A line is accepted or refused by what is in it and by the phase. What the draft held before decides
two numbers and nothing else: the number of the line in a failure and that of a statement. So a
draft is compared here with the one that it would be if more lines had been read first.
`d.offset n ss` is `d` after `n` more lines that brought the statements `ss`, and every way to go on
from it ends as from `d`, with the numbers moved: one line (`Accepts.offset`, `Refuses.offset`), any
number of lines (`outcome_acceptAll_offset`), and a whole reading (`readAll_offset`).
-/

namespace ThreeAddress

/-- The failure, with `n` more lines before the one in which it was found. -/
def Failure.offset (n : Nat) : Failure → Failure
  | source fault (some place) =>
    source fault (some { place with lineNumber := place.lineNumber + n })
  | e => e

/-- The statement, with `n` more statements before it. -/
def Statement.offset (n : Nat) (s : Statement) : Statement := { s with order := s.order + n }

theorem Statement.offset_zero : Statement.offset 0 = id := rfl

/-- The statements of one program and then those of another, which are numbered on. -/
def Program.append (p q : Program) : Program :=
  ⟨p.statements ++ q.statements.map (Statement.offset p.size)⟩

namespace Draft

/-- The draft as it would be if `n` more lines had been read first, with the statements `ss`. -/
def offset (d : Draft) (n : Nat) (ss : Array Statement) : Draft :=
  ⟨d.phase, d.lineNumber + n, ss ++ d.statements.map (Statement.offset ss.size)⟩

variable {d d' : Draft} {line : Text} {ls : List Text} {n : Nat} {ss : Array Statement}

/-! ### One line -/

theorem offset_countLine (d : Draft) (n : Nat) (ss : Array Statement) :
    (d.offset n ss).countLine = d.countLine.offset n ss := by
  have hlines : d.lineNumber + n + 1 = d.lineNumber + 1 + n := by omega
  simp [offset, countLine, hlines]

theorem offset_withHeader (d : Draft) (n : Nat) (ss : Array Statement) :
    (d.offset n ss).withHeader = d.withHeader.offset n ss := by
  rw [withHeader, offset_countLine]
  rfl

/-- The next statement is numbered on from those that were there before. -/
theorem offset_withInstruction (d : Draft) (n : Nat) (ss : Array Statement) (i : Instruction) :
    (d.offset n ss).withInstruction i = (d.withInstruction i).offset n ss := by
  have horder : ss.size + d.statements.size + 1 = d.statements.size + 1 + ss.size := by omega
  have hlines : d.lineNumber + n + 1 = d.lineNumber + 1 + n := by omega
  simp [offset, withInstruction, countLine, Statement.offset, Array.push_append, horder, hlines]

/-- The same lines are accepted, and the drafts that follow differ by the same offset. -/
theorem Accepts.offset (h : d.Accepts line d') (n : Nat) (ss : Array Statement) :
    (d.offset n ss).Accepts line (d'.offset n ss) := by
  rcases h with hwords | ⟨hphase, h⟩ | ⟨hphase, h⟩
  · rw [← offset_countLine]
    exact .blank hwords
  · rw [← offset_withHeader]
    exact .header hphase h
  · rw [← offset_withInstruction]
    exact Accepts.instruction (d := d.offset n ss) hphase h

/-- A failure is at the same bytes of the same line, with another number. -/
theorem failure_offset (d : Draft) (n : Nat) (ss : Array Statement) (line : Text)
    (ws : List Word) (fault : Fault) :
    (d.offset n ss).countLine.failure line ws fault =
      (d.countLine.failure line ws fault).offset n := by
  rw [offset_countLine]
  rfl

/-- The same lines are refused, for the same reasons. -/
theorem Refuses.offset {e : Failure} (h : d.Refuses line e) (n : Nat) (ss : Array Statement) :
    (d.offset n ss).Refuses line (e.offset n) := by
  rcases h with ⟨hphase, hwords, h⟩ | ⟨hphase, hwords, h⟩
  · rw [← failure_offset d n ss]
    exact Refuses.header (d := d.offset n ss) hphase hwords h
  · rw [← failure_offset d n ss]
    exact Refuses.instruction (d := d.offset n ss) hphase hwords h

/-! ### Any number of lines -/

/-- A run over more lines goes on from where the first ends, if it does not fail. -/
theorem outcome_acceptAll_append (d : Draft) (ls more : List Text) :
    (d.acceptAll (ls ++ more)).outcome =
      (d.acceptAll ls).outcome >>= fun d' ↦ (d'.acceptAll more).outcome := by
  rw [acceptAll_append, Logged.outcome_bind]

theorem Accepts.outcome_acceptAll_cons (h : d.Accepts line d') (ls : List Text) :
    (d.acceptAll (line :: ls)).outcome = (d'.acceptAll ls).outcome := by
  rw [acceptAll, List.foldlM_cons, Logged.outcome_bind, h.outcome_eq]
  rfl

theorem Refuses.outcome_acceptAll_cons {e : Failure} (h : d.Refuses line e) (ls : List Text) :
    (d.acceptAll (line :: ls)).outcome = .error e := by
  rw [acceptAll, List.foldlM_cons, Logged.outcome_bind, h.outcome_eq]
  rfl

/-- **A run goes as it would without what was read before**, with the numbers moved. -/
theorem outcome_acceptAll_offset (d : Draft) (n : Nat) (ss : Array Statement) (ls : List Text) :
    ((d.offset n ss).acceptAll ls).outcome =
      ((d.acceptAll ls).outcome.map (·.offset n ss)).mapError (Failure.offset n) := by
  induction ls generalizing d with
  | nil => rfl
  | cons line ls ih =>
    rcases d.accepts_or_refuses line with ⟨d', hline⟩ | ⟨e, hline⟩
    · rw [(hline.offset n ss).outcome_acceptAll_cons, hline.outcome_acceptAll_cons]
      exact ih d'
    · rw [(hline.offset n ss).outcome_acceptAll_cons, hline.outcome_acceptAll_cons]
      rfl

/-! ### A whole reading -/

/-- The program that comes of reading some lines into the draft, or the first failure. -/
def readAll (d : Draft) (ls : List Text) : Except Failure Program :=
  (d.acceptAll ls).outcome >>= fun d' ↦ d'.complete.outcome

/-- What was read before comes before the statements of the program. -/
theorem outcome_complete_offset (d : Draft) (n : Nat) (ss : Array Statement) :
    (d.offset n ss).complete.outcome =
      (d.complete.outcome.map (Program.append ⟨ss.toList⟩)).mapError (Failure.offset n) := by
  cases hphase : d.phase with
  | awaitingHeader =>
    rw [outcome_complete_awaitingHeader (d := d.offset n ss) hphase,
      outcome_complete_awaitingHeader hphase]
    rfl
  | body =>
    rw [outcome_complete_body (d := d.offset n ss) hphase, outcome_complete_body hphase]
    simp [offset, Program.append, Program.size, Except.map, Except.mapError]

/-- A whole reading ends as it would without what was read before, with the numbers moved. -/
theorem readAll_offset (d : Draft) (n : Nat) (ss : Array Statement) (ls : List Text) :
    (d.offset n ss).readAll ls =
      ((d.readAll ls).map (Program.append ⟨ss.toList⟩)).mapError (Failure.offset n) := by
  rw [readAll, outcome_acceptAll_offset, readAll]
  cases (d.acceptAll ls).outcome with
  | error e => rfl
  | ok d' => exact outcome_complete_offset d' n ss

/-- Lines that are read without a failure leave the draft that the next ones are read into. -/
theorem readAll_append_of_ok (h : (d.acceptAll ls).outcome = .ok d') (more : List Text) :
    d.readAll (ls ++ more) = d'.readAll more := by
  rw [readAll, outcome_acceptAll_append, h]
  rfl

/-- A line that fails ends the reading, whatever follows. -/
theorem readAll_append_of_error {e : Failure} (h : (d.acceptAll ls).outcome = .error e)
    (more : List Text) : d.readAll (ls ++ more) = .error e := by
  rw [readAll, outcome_acceptAll_append, h]
  rfl

end Draft

end ThreeAddress
