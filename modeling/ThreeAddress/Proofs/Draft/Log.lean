import ThreeAddress.Proofs.Draft.Run
import ThreeAddress.Proofs.Instruction.Log

/-!
# What a run over some lines notes

A line that is accepted brings a block of events: one about the line itself, and before it, if the
line is an instruction, one for each operand (`Notes`). So the log of a run is a sequence of such
blocks (`Run`), and what is asked of the log is shown by following the run block by block: the
numbers of the lines, the instructions, and that the header comes before them.

A question about the events around a given one is answered by cutting the run there
(`Run.exists_cut`). The event about a line is the last of its block, so that what comes before it in
the log is the log of the lines before and then the operands of its own line.
-/

namespace ThreeAddress

namespace Event

/-- What the event says about an instruction: its number, its operation and how many operands it
has. -/
def instruction? : Event → Option (Nat × Opcode × Nat)
  | instructionParsed order opcode operands _ => some (order, opcode, operands)
  | _ => none

/-- The number of the line that the event says is the header. -/
def header? : Event → Option Nat
  | headerAccepted line => some line
  | _ => none

variable {e : Event}

theorem instruction?_eq_none (h : e.line? = none) : e.instruction? = none := by
  cases e with
  | instructionParsed => exact absurd h (Option.some_ne_none _)
  | _ => rfl

theorem header?_eq_none (h : e.line? = none) : e.header? = none := by
  cases e with
  | headerAccepted => exact absurd h (Option.some_ne_none _)
  | _ => rfl

end Event

/-- What is noted about a statement. -/
def Statement.summary (s : Statement) : Nat × Opcode × Nat :=
  (s.order, s.instruction.opcode, s.instruction.operands.length)

/-- Nothing but matches is among the events of the operands. -/
theorem exists_of_mem_matchedEvents {kinds : List Kind} {tokens : List Text} {e : Event}
    (h : e ∈ matchedEvents kinds tokens) : ∃ token kind, e = .operandMatched token kind := by
  rw [matchedEvents, ← List.map_uncurry_zip_eq_zipWith] at h
  obtain ⟨p, -, rfl⟩ := List.mem_map.1 h
  exact ⟨p.2, p.1, rfl⟩

/-- An event that is not about an operand and comes with only such events before the last is the
last. -/
theorem eq_of_append_cons_eq_concat {before after matched : List Event} {e own : Event}
    (hmatched : ∀ e ∈ matched, ∃ token kind, e = .operandMatched token kind)
    (he : ∀ token kind, e ≠ .operandMatched token kind)
    (h : before ++ e :: after = matched ++ [own]) : before = matched ∧ e = own ∧ after = [] := by
  rcases after.eq_nil_or_concat with rfl | ⟨after, last, rfl⟩
  · obtain ⟨hbefore, hown⟩ := List.append_inj' h rfl
    exact ⟨hbefore, List.singleton_inj.1 hown, rfl⟩
  · -- the event would be among those about the operands
    have hmem : e ∈ matched := by
      have hcut : (before ++ e :: after) ++ [last] = matched ++ [own] := by simpa using h
      rw [← (List.append_inj' hcut rfl).1]
      simp
    obtain ⟨token, kind, heq⟩ := hmatched e hmem
    exact absurd heq (he token kind)

/-- What is asked about lines has no answer in the events about operands. -/
theorem filterMap_eq_nil_of_matched {β : Type} {f : Event → Option β} {es : List Event}
    (hes : ∀ e ∈ es, ∃ token kind, e = .operandMatched token kind)
    (hf : ∀ token kind, f (.operandMatched token kind) = none) : es.filterMap f = [] := by
  refine List.filterMap_eq_nil_iff.2 fun e he ↦ ?_
  obtain ⟨token, kind, rfl⟩ := hes e he
  exact hf token kind

/-- Who does not look at matches sees none of the events of the operands. -/
theorem filterMap_matchedEvents {β : Type} {f : Event → Option β} {kinds : List Kind}
    {tokens : List Text} (hf : ∀ token kind, f (.operandMatched token kind) = none) :
    (matchedEvents kinds tokens).filterMap f = [] :=
  filterMap_eq_nil_of_matched (fun _ ↦ exists_of_mem_matchedEvents) hf

namespace Draft

variable {d d' d₁ : Draft} {line : Text} {ls : List Text} {log block : List Event} {e : Event}

/-! ### One line -/

/-- The header is noted when it is accepted, and a refusal is not noted. -/
theorem log_acceptHeader (d : Draft) (hwords : contentWords line ≠ []) :
    (d.acceptHeader line (contentWords line)).log =
      if IsHeader line then [.headerAccepted d.lineNumber] else [] := by
  rw [acceptHeader, slice?_spanOfWords_contentWords hwords]
  by_cases h : IsHeader line
  · rw [if_pos h]
    exact congrArg Logged.log (if_pos h)
  · rw [if_neg h]
    exact congrArg Logged.log (if_neg h)

/-- A line on which the header is awaited notes one event or none. -/
theorem log_accept_awaitingHeader (hphase : d.phase = .awaitingHeader)
    (hwords : contentWords line ≠ []) :
    (d.accept line).log = if IsHeader line then [.headerAccepted (d.lineNumber + 1)] else [] := by
  have hlog := log_acceptHeader d.countLine hwords
  obtain ⟨first, rest, heq⟩ := List.exists_cons_of_ne_nil hwords
  rw [heq] at hlog
  rw [accept, heq, hphase]
  exact hlog

/-- An instruction is noted after its operands, with the number that it gets. -/
theorem log_accept_body_of_ok (hphase : d.phase = .body) {first : Word} {rest : List Word}
    (hwords : contentWords line = first :: rest) {i : Instruction}
    (h : (Instruction.read first.text (rest.map (·.text))).outcome = .ok i) :
    (d.accept line).log = (Instruction.read first.text (rest.map (·.text))).log ++
      [.instructionParsed (d.statements.size + 1) i.opcode i.operands.length
        (d.lineNumber + 1)] := by
  have hread : ((Instruction.read first.text (rest.map (·.text))).mapError
      (d.countLine.failure line (first :: rest))).outcome = .ok i := by
    rw [Logged.outcome_mapError, h]
    rfl
  rw [accept, hwords, hphase]
  show (d.countLine.acceptInstruction line first rest).log = _
  rw [acceptInstruction, Logged.log_bind_ok hread, Logged.log_mapError]
  rfl

/-- An instruction that fails leaves the events of the operands before the fault. -/
theorem log_accept_body_of_error (hphase : d.phase = .body) {first : Word} {rest : List Word}
    (hwords : contentWords line = first :: rest) {fault : Fault}
    (h : (Instruction.read first.text (rest.map (·.text))).outcome = .error fault) :
    (d.accept line).log = (Instruction.read first.text (rest.map (·.text))).log := by
  have hread : ((Instruction.read first.text (rest.map (·.text))).mapError
      (d.countLine.failure line (first :: rest))).outcome =
        .error (d.countLine.failure line (first :: rest) fault) := by
    rw [Logged.outcome_mapError, h]
    rfl
  rw [accept, hwords, hphase]
  show (d.countLine.acceptInstruction line first rest).log = _
  rw [acceptInstruction, Logged.log_bind_error hread, Logged.log_mapError]

/-- The line is accepted with these events, and `d'` is the draft with it. -/
inductive Notes (d : Draft) (line : Text) : List Event → Draft → Prop
  | blank (hwords : contentWords line = []) :
      Notes d line [.lineSkipped (d.lineNumber + 1)] d.countLine
  | header (hphase : d.phase = .awaitingHeader) (h : IsHeader line) :
      Notes d line [.headerAccepted (d.lineNumber + 1)] d.withHeader
  | instruction (hphase : d.phase = .body) {first : Word} {rest : List Word} {i : Instruction}
      (hwords : contentWords line = first :: rest)
      (h : (Instruction.read first.text (rest.map (·.text))).outcome = .ok i) :
      Notes d line
        (matchedEvents i.opcode.signature (rest.map (·.text)) ++
          [.instructionParsed (d.statements.size + 1) i.opcode i.operands.length
            (d.lineNumber + 1)])
        (d.withInstruction i)

/-- **What is noted of a line that is accepted.** -/
theorem Accepts.notes (h : d.Accepts line d') : d.Notes line (d.accept line).log d' := by
  rcases h with hwords | ⟨hphase, h⟩ | @⟨hphase, i, first, rest, hwords, h⟩
  · have hlog : (d.accept line).log = [.lineSkipped (d.lineNumber + 1)] := by
      rw [accept, hwords]
      rfl
    rw [hlog]
    exact .blank hwords
  · rw [log_accept_awaitingHeader hphase (contentWords_ne_nil_of_isHeader h), if_pos h]
    exact .header hphase h
  · rw [log_accept_body_of_ok hphase hwords h, Instruction.log_read_of_ok h]
    exact .instruction hphase hwords h

/-- A line that is accepted brings one event about itself, behind those about its operands. -/
theorem Notes.exists_block (h : d.Notes line block d') : ∃ matched own, block = matched ++ [own] ∧
    (∀ e ∈ matched, ∃ token kind, e = .operandMatched token kind) ∧
    own.line? = some (d.lineNumber + 1) := by
  rcases h with - | - | -
  · exact ⟨[], _, rfl, by simp, rfl⟩
  · exact ⟨[], _, rfl, by simp, rfl⟩
  · exact ⟨_, _, rfl, fun _ ↦ exists_of_mem_matchedEvents, rfl⟩

/-- Whatever a line notes, it is counted. -/
theorem Notes.lineNumber_eq (h : d.Notes line block d') : d'.lineNumber = d.lineNumber + 1 := by
  cases h <;> rfl

/-! ### Any number of lines -/

/-- The lines are accepted one after the other with these events, and `d'` is the draft with
them. -/
inductive Run : Draft → List Text → List Event → Draft → Prop
  | nil (d : Draft) : Run d [] [] d
  | cons {d d₁ d' : Draft} {line : Text} {ls : List Text} {block log : List Event}
      (hline : d.Notes line block d₁) (hrest : Run d₁ ls log d') :
      Run d (line :: ls) (block ++ log) d'

/-- The reading that stops at the first failure is a run, if there is no failure. -/
theorem run_of_outcome_acceptAll (h : (d.acceptAll ls).outcome = .ok d') :
    d.Run ls (d.acceptAll ls).log d' := by
  induction ls generalizing d with
  | nil =>
    obtain rfl : d = d' := Except.ok.inj h
    exact .nil d
  | cons line ls ih =>
    obtain ⟨d₁, hline, hrest⟩ := outcome_acceptAll_cons_eq_ok_iff.1 h
    have hlog : (d.acceptAll (line :: ls)).log = (d.accept line).log ++ (d₁.acceptAll ls).log :=
      Logged.log_bind_ok hline.outcome_eq _
    rw [hlog]
    exact .cons hline.notes (ih hrest)

namespace Run

/-- A run counts every one of its lines. -/
theorem lineNumber_eq (h : d.Run ls log d') : d'.lineNumber = d.lineNumber + ls.length := by
  induction h with
  | nil d => rfl
  | cons hline _ ih =>
    rw [ih, hline.lineNumber_eq, List.length_cons]
    omega

/-- **The lines are noted in their order**, each of them once. -/
theorem filterMap_line? (h : d.Run ls log d') :
    log.filterMap Event.line? = List.range' (d.lineNumber + 1) ls.length := by
  induction h with
  | nil d => rfl
  | @cons d d₁ d' line ls block log hline _ ih =>
    obtain ⟨matched, own, rfl, hmatched, hown⟩ := hline.exists_block
    have hnone := filterMap_eq_nil_of_matched hmatched fun _ _ ↦ (rfl : Event.line? _ = none)
    have hblock : (matched ++ [own]).filterMap Event.line? = [d.lineNumber + 1] := by
      rw [List.filterMap_append, hnone, List.nil_append, List.filterMap_cons_some hown,
        List.filterMap_nil]
    rw [List.filterMap_append, hblock, ih, hline.lineNumber_eq, List.length_cons,
      List.range'_succ]
    rfl

/-- **The instructions are noted as they join the draft.** -/
theorem map_summary_statements (h : d.Run ls log d') :
    d'.statements.toList.map Statement.summary =
      d.statements.toList.map Statement.summary ++ log.filterMap Event.instruction? := by
  induction h with
  | nil d => simp
  | @cons d d₁ d' line ls block log hline _ ih =>
    rw [ih, List.filterMap_append, ← List.append_assoc]
    congr 1
    rcases hline with - | - | -
    · simp [countLine, Event.instruction?]
    · simp [withHeader, countLine, Event.instruction?]
    · rw [List.filterMap_append, filterMap_matchedEvents fun _ _ ↦ rfl]
      simp [withInstruction, countLine, Event.instruction?, Statement.summary]

end Run

/-! ### The header -/

/-- A line is the header, and the first to be so, or it changes nothing about the header. -/
theorem Notes.header_cases (h : d.Notes line block d') :
    d'.phase = d.phase ∧ block.filterMap Event.header? = [] ∨
      d.phase = .awaitingHeader ∧ d'.phase = .body ∧
        ∃ n, block.filterMap Event.header? = [n] := by
  rcases h with - | ⟨hphase, -⟩ | ⟨hphase, -, -⟩
  · exact .inl ⟨rfl, rfl⟩
  · exact .inr ⟨hphase, rfl, _, rfl⟩
  · refine .inl ⟨rfl, ?_⟩
    rw [List.filterMap_append, filterMap_matchedEvents fun _ _ ↦ rfl]
    rfl

namespace Run

/-- **The header is noted once**, when the phase changes. -/
theorem header_cases (h : d.Run ls log d') :
    d'.phase = d.phase ∧ log.filterMap Event.header? = [] ∨
      d.phase = .awaitingHeader ∧ d'.phase = .body ∧ ∃ n, log.filterMap Event.header? = [n] := by
  induction h with
  | nil d => exact .inl ⟨rfl, rfl⟩
  | @cons d d₁ d' line ls block log hline _ ih =>
    rw [List.filterMap_append]
    rcases hline.header_cases with ⟨hphase, hblock⟩ | ⟨hawaiting, hbody, hblock⟩
    · rw [hblock, List.nil_append, ← hphase]
      exact ih
    · rcases ih with ⟨hphase, hlog⟩ | ⟨habs, -⟩
      · rw [hlog, List.append_nil, hphase]
        exact .inr ⟨hawaiting, hbody, hblock⟩
      · exact absurd (hbody.symm.trans habs) (by simp)

/-! ### Cutting a run at an event -/

/-- Each event of a run is a match or about one of its lines. -/
theorem exists_matched_or_line (h : d.Run ls log d') (he : e ∈ log) :
    (∃ token kind, e = .operandMatched token kind) ∨ e.line? ≠ none := by
  induction h with
  | nil d => exact absurd he (by simp)
  | cons hline _ ih =>
    obtain ⟨matched, own, rfl, hmatched, hown⟩ := hline.exists_block
    rcases List.mem_append.1 he with he | he
    · rcases List.mem_append.1 he with he | he
      · exact .inl (hmatched e he)
      · obtain rfl := List.mem_singleton.1 he
        exact .inr (by simp [hown])
    · exact ih he

/-- The log of a run ends with the event about its last line. -/
theorem line?_ne_none_of_mem_getLast? (h : d.Run ls log d') :
    ∀ e ∈ log.getLast?, e.line? ≠ none := by
  induction h with
  | nil d => simp
  | @cons d d₁ d' line ls block log hline _ ih =>
    obtain ⟨matched, own, rfl, -, hown⟩ := hline.exists_block
    intro e he
    rw [List.getLast?_append] at he
    cases hlast : log.getLast? with
    | some last =>
      rw [hlast] at he ih
      exact ih e he
    | none =>
      rw [hlast] at he
      obtain rfl : own = e := by simpa using he
      simp [hown]

end Run

/-- The event about a line is the last of its block. -/
theorem Notes.eq_nil_of_line? {before after : List Event}
    (h : d.Notes line (before ++ e :: after) d') (he : e.line? ≠ none) : after = [] := by
  obtain ⟨matched, own, hblock, hmatched, -⟩ := h.exists_block
  refine (eq_of_append_cons_eq_concat hmatched (fun token kind ↦ ?_) hblock).2.2
  rintro rfl
  exact he rfl

/-- **A run is cut at the event about a line**: before it there is the log of the lines before and
what is noted about the operands of its own line, after it the log of the lines after. -/
theorem Run.exists_cut {before after : List Event} (h : d.Run ls log d')
    (hlog : log = before ++ e :: after) (he : e.line? ≠ none) :
    ∃ ls₁ line ls₂ earlier matched d₁ d₂, ls = ls₁ ++ line :: ls₂ ∧ d.Run ls₁ earlier d₁ ∧
      d₁.Notes line (matched ++ [e]) d₂ ∧ d₂.Run ls₂ after d' ∧ before = earlier ++ matched := by
  induction h generalizing before with
  | nil d => exact absurd hlog (by simp)
  | @cons d d₁ d' line ls block log hline hrest ih =>
    rcases exists_of_append_eq_append_cons hlog with ⟨later, rfl, rfl⟩ | ⟨later, rfl, hlater⟩
    · obtain rfl := hline.eq_nil_of_line? he
      exact ⟨[], line, ls, [], before, d, d₁, rfl, .nil d, hline, hrest, rfl⟩
    · -- the event is in the log of the lines after the first
      obtain ⟨ls₁, line', ls₂, earlier, matched, d₂, d₃, rfl, hrun, hnotes, hafter, rfl⟩ :=
        ih hlater
      exact ⟨line :: ls₁, line', ls₂, _, matched, d₂, d₃, rfl, .cons hline hrun, hnotes, hafter,
        (List.append_assoc ..).symm⟩

/-- What the event about an instruction says, and what is noted before it. -/
theorem Notes.exists_of_instructionParsed {matched : List Event} {order n k : Nat} {op : Opcode}
    (h : d.Notes line (matched ++ [.instructionParsed order op n k]) d') :
    d.phase = .body ∧ d'.phase = .body ∧ k = d.lineNumber + 1 ∧
      ∃ first args, contentWords line = first :: args ∧ op.name = first.text.upper ∧
        op.arity = n ∧ args.length = n ∧
        matched = matchedEvents op.signature (args.map (·.text)) := by
  generalize hblock : matched ++ [.instructionParsed order op n k] = block at h
  rcases h with - | - | @⟨hphase, first, args, i, hwords, hread⟩
  · exact absurd (congrArg List.getLast? hblock) (by simp)
  · exact absurd (congrArg List.getLast? hblock) (by simp)
  · obtain ⟨rfl, hown⟩ := List.append_inj' hblock rfl
    obtain ⟨⟨rfl, rfl, rfl, rfl⟩, -⟩ : (_ ∧ _ ∧ _ ∧ _) ∧ True := by simpa using hown
    obtain ⟨hop, hi, hargs⟩ := Instruction.outcome_read_eq_ok_iff.1 hread
    have hlength : i.operands.length = args.length := by simpa using congrArg List.length hargs
    exact ⟨hphase, hphase, rfl, first, args, hwords, hop, hi.accepts.length_eq, hlength.symm, rfl⟩

/-! ### The end -/

/-- Reading ends behind the lines that were accepted, with a line that fails or because there is
none: this is what is still noted, and the outcome. -/
inductive Ends (d : Draft) : List Text → List Event → Except Failure Program → Prop
  | incorrectHeader {line : Text} (hphase : d.phase = .awaitingHeader)
      (hwords : contentWords line ≠ []) (h : ¬IsHeader line) (after : List Text) :
      Ends d (line :: after) []
        (.error (d.countLine.failure line (contentWords line) (.incorrectHeader (content line))))
  | instruction {line : Text} {first : Word} {rest : List Word} {fault : Fault}
      {events : List Event} (hphase : d.phase = .body) (hwords : contentWords line = first :: rest)
      (h : Instruction.NotesFault first.text (rest.map (·.text)) fault events)
      (after : List Text) :
      Ends d (line :: after) events
        (.error (d.countLine.failure line (contentWords line) fault))
  | missingHeader (hphase : d.phase = .awaitingHeader) :
      Ends d [] [] (.error (.source .missingHeader none))
  | program (hphase : d.phase = .body) :
      Ends d [] [.programParsed d.statements.size] (.ok ⟨d.statements.toList⟩)

/-- A line that is refused ends the reading, whatever comes after it. -/
theorem Refuses.ends {e : Failure} (h : d.Refuses line e) (after : List Text) :
    d.Ends (line :: after) (d.accept line).log (.error e) := by
  rcases h with ⟨hphase, hwords, hheader⟩ | ⟨hphase, hwords, hread⟩
  · rw [log_accept_awaitingHeader hphase hwords, if_neg hheader]
    exact .incorrectHeader hphase hwords hheader after
  · rw [log_accept_body_of_error hphase hwords hread]
    exact .instruction hphase hwords (Instruction.notesFault_of_outcome_read hread) after

/-- The end of the source ends the reading too, with a program or without. -/
theorem ends_complete (d : Draft) : d.Ends [] d.complete.log d.complete.outcome := by
  cases hphase : d.phase with
  | awaitingHeader =>
    rw [complete, hphase]
    exact .missingHeader hphase
  | body =>
    rw [complete, hphase]
    exact .program hphase

end Draft

end ThreeAddress
