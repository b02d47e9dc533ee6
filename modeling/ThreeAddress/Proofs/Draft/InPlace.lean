import ThreeAddress.Draft
import ThreeAddress.Proofs.Draft.Step

/-!
# Changing a draft in place

A draft that is kept and changed goes through the same states as one that is passed on, and its
lines get the same answers (`feedAll_apply`). What makes this true is that a line which fails has
been counted by then and has changed nothing else: every check comes before the first change
(`Refuses.run_feed`).
-/

namespace ThreeAddress.Draft

variable {d d' : Draft} {line : Text}

/-! ### What a line does -/

/-- A check that fails ends the run in the state in which it is made. -/
theorem run_ofExcept_bind {ε σ α β : Type} (x : Except ε α) (next : α → ExceptT ε (StateM σ) β)
    (s : σ) : (MonadExcept.ofExcept x >>= next : ExceptT ε (StateM σ) β).run s =
      match x with
      | .ok a => (next a).run s
      | .error e => (.error e, s) := by
  cases x <;> rfl

/-- In place a line is first checked as the header, and the draft changes only after that. -/
theorem run_feed_of_awaitingHeader (hphase : d.phase = .awaitingHeader)
    (hwords : contentWords line ≠ []) :
    (feed line).run d =
      match (d.countLine.acceptHeader line (contentWords line)).outcome with
      | .ok _ => (.ok (), d.withHeader)
      | .error e => (.error e, d.countLine) := by
  obtain ⟨phase, n, statements⟩ := d
  obtain rfl : phase = .awaitingHeader := hphase
  obtain ⟨first, rest, heq⟩ := List.exists_cons_of_ne_nil hwords
  rw [feed, heq]
  refine (run_ofExcept_bind _ _ (countLine ⟨.awaitingHeader, n, statements⟩)).trans ?_
  cases (acceptHeader (countLine ⟨.awaitingHeader, n, statements⟩) line
    (first :: rest)).outcome with
  | ok next => rfl
  | error e => rfl

/-- In place a line is first read as an instruction, and the draft gets it only after that. -/
theorem run_feed_of_body (hphase : d.phase = .body) {first : Word} {rest : List Word}
    (hwords : contentWords line = first :: rest) :
    (feed line).run d =
      match (Instruction.read first.text (rest.map (·.text))).outcome with
      | .ok i => (.ok (), d.withInstruction i)
      | .error fault =>
        (.error (d.countLine.failure line (contentWords line) fault), d.countLine) := by
  obtain ⟨phase, n, statements⟩ := d
  obtain rfl : phase = .body := hphase
  rw [feed, hwords]
  refine (run_ofExcept_bind _ _ (countLine ⟨.body, n, statements⟩)).trans ?_
  cases (Instruction.read first.text (rest.map (·.text))).outcome with
  | ok i => rfl
  | error fault => rfl

/-- A line that is accepted changes the draft into the one that follows. -/
theorem Accepts.run_feed (h : d.Accepts line d') : (feed line).run d = (.ok (), d') := by
  rcases h with hwords | ⟨hphase, h⟩ | ⟨hphase, first, rest, hwords, h⟩
  · rw [feed, hwords]
    rfl
  · have hwords := contentWords_ne_nil_of_isHeader h
    rw [run_feed_of_awaitingHeader hphase hwords, outcome_acceptHeader _ hwords, if_pos h]
  · rw [run_feed_of_body hphase hwords, h]

/-- **A line that fails is counted, and the draft is otherwise as it was.** -/
theorem Refuses.run_feed {e : Failure} (h : d.Refuses line e) :
    (feed line).run d = (.error e, d.countLine) := by
  rcases h with ⟨hphase, hwords, h⟩ | ⟨hphase, hwords, h⟩
  · rw [run_feed_of_awaitingHeader hphase hwords, outcome_acceptHeader _ hwords, if_neg h]
  · rw [run_feed_of_body hphase hwords, h]

/-- A line that is read in place gets the same answer, and leaves the same draft. -/
theorem run_feed (d : Draft) (line : Text) :
    (feed line).run d = ((d.accept line).outcome.map (fun _ ↦ ()), d.after line) := by
  rcases d.accepts_or_refuses line with ⟨d', h⟩ | ⟨e, h⟩
  · rw [h.run_feed, h.outcome_eq, h.after_eq]
    rfl
  · rw [h.run_feed, h.outcome_eq, h.after_eq]
    rfl

/-! ### What some lines do -/

theorem feedAll_cons (line : Text) (ls : List Text) (d : Draft) :
    feedAll (line :: ls) d =
      let fed := (feed line).run d
      let more := feedAll ls fed.2
      (fed.1 :: more.1, more.2) := by
  rw [feedAll, List.mapM_cons]
  rfl

/-- **Reading in place gives the answers of the lines and the draft after them.** -/
theorem feedAll_apply (d : Draft) (ls : List Text) :
    feedAll ls d = (d.answers ls, d.afterAll ls) := by
  induction ls generalizing d with
  | nil => rfl
  | cons line ls ih =>
    rw [feedAll_cons, run_feed]
    show (_ :: (feedAll ls (d.after line)).1, (feedAll ls (d.after line)).2) = _
    rw [ih (d.after line)]
    rfl

end ThreeAddress.Draft
