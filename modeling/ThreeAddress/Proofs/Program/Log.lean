import ThreeAddress.Proofs.Draft.Log
import ThreeAddress.Proofs.Program.FirstFault

/-!
# The log is a faithful account of the reading

Whoever has only the log of a reading can tell from it what happened to each line and how the
reading ended. `IsAccount` says what can be told, and `Program.isAccount_log` that every log is such
an account, also that of a reading that fails.

The log is that of a run over the lines that are accepted, and then what is noted at the end
(`Program.exists_run`). Nothing that is noted at the end is about a line, and what is noted in the
run is about lines and operands that were expected. So each question about an event is one about the
run or one about the end, and not about both.
-/

namespace ThreeAddress

/-- The number of lines that were accepted: those before the line that fails, or all of them. -/
def acceptedCount (source : Text) : Except Failure Program → Nat
  | .error (.source _ (some place)) => place.lineNumber - 1
  | _ => source.lines.length

/-- What is noted behind the event about the last line that was accepted, by the outcome. -/
inductive Ending : Except Failure Program → List Event → Prop
  | program (p : Program) : Ending (.ok p) [.programParsed p.size]
  | missingHeader (place? : Option Location) : Ending (.error (.source .missingHeader place?)) []
  | incorrectHeader (found : Text) (place? : Option Location) :
      Ending (.error (.source (.incorrectHeader found) place?)) []
  | unknownOpcode (name : Text) (place? : Option Location) :
      Ending (.error (.source (.unknownOpcode name) place?)) []
  | wrongArity (op : Opcode) (expected actual : Nat) (place? : Option Location) :
      Ending (.error (.source (.wrongArity op expected actual) place?)) []
  /-- The operands before the one that is marked have been noted. -/
  | invalidOperand {place : Location} {op : Opcode} {first w : Word} {args : List Word} {i : Nat}
      (hwords : contentWords place.line = first :: args) (hop : op.name = first.text.upper)
      (hlength : args.length = op.arity) (hw : args[i]? = some w) (hspan : place.span = w.span) :
      Ending (.error (.source (.invalidOperand w.text) (some place)))
        ((matchedEvents op.signature (args.map (·.text))).take i)
  /-- So they have if it is an operand of another kind, and then what it is. -/
  | operandMismatch {place : Location} {op : Opcode} {first w : Word} {args : List Word} {i : Nat}
      {kind : Kind} {x : Operand} (hwords : contentWords place.line = first :: args)
      (hop : op.name = first.text.upper) (hlength : args.length = op.arity)
      (hw : args[i]? = some w) (hspan : place.span = w.span)
      (hkind : op.signature[i]? = some kind) (hx : Operand.ofToken w.text = .ok x) :
      Ending (.error (.source (.operandMismatch op (i + 1) kind x.category) (some place)))
        ((matchedEvents op.signature (args.map (·.text))).take i ++
          [.operandClassified w.text x.tag])

/-- The log accounts for the reading of the source with the outcome. -/
structure IsAccount (source : Text) (log : List Event) (outcome : Except Failure Program) :
    Prop where
  /-- The lines that were accepted are noted, each once and in their order. -/
  lines : log.filterMap Event.line? = List.range' 1 (acceptedCount source outcome)
  /-- The header is noted once at most. -/
  header : (log.filterMap Event.header?).length ≤ 1
  /-- It is noted before every instruction. -/
  headerFirst : ∀ before after order op n k,
    log = before ++ .instructionParsed order op n k :: after → ∃ k, .headerAccepted k ∈ before
  /-- The instructions that were accepted are noted with their numbers, which go up from one. -/
  instructions : ∃ is,
    List.Forall₂ IsInstruction
      (contentLines (source.lines.take (acceptedCount source outcome))).tail is ∧
    log.filterMap Event.instruction? = (Statement.numbered 1 is).map Statement.summary ∧
    ∀ p, outcome = .ok p → p.statements = Statement.numbered 1 is
  /-- Right before an instruction its operands are noted, and nothing else. -/
  operands : ∀ before after order op n k,
    log = before ++ .instructionParsed order op n k :: after →
    ∃ line first args earlier, source.lines[k - 1]? = some line ∧
      contentWords line = first :: args ∧ op.name = first.text.upper ∧ op.arity = n ∧
      args.length = n ∧ before = earlier ++ matchedEvents op.signature (args.map (·.text)) ∧
      ∀ e ∈ earlier.getLast?, e.line? ≠ none
  /-- Only a program is noted as one, and then nothing more. -/
  program : ∀ before after n, log = before ++ .programParsed n :: after →
    after = [] ∧ ∃ p, outcome = .ok p ∧ n = p.size
  /-- Only an operand of another kind than expected is noted as such, and then nothing more. -/
  classified : ∀ before after token tag, log = before ++ .operandClassified token tag :: after →
    after = [] ∧ ∃ op position kind category place w,
      outcome = .error (.source (.operandMismatch op position kind category) (some place)) ∧
      (contentWords place.line)[position]? = some w ∧ w.text = token ∧ w.span = place.span
  /-- Behind the event about the last line that was accepted there is what belongs to the
  outcome. -/
  ending : ∃ earlier events, log = earlier ++ events ∧ (∀ e ∈ earlier.getLast?, e.line? ≠ none) ∧
    Ending outcome events

/-! ### The end -/

namespace Program

/-- **Reading is a run over the lines that are accepted, and then it ends.** -/
theorem exists_run (source : Text) : ∃ ls rest log events d, source.lines = ls ++ rest ∧
    (Draft.start.acceptAll ls).outcome = .ok d ∧ Draft.start.Run ls log d ∧
    d.Ends rest events (ofSource source) ∧ (read source).log = log ++ events := by
  cases hrun : (Draft.start.acceptAll source.lines).outcome with
  | ok d =>
    have houtcome : ofSource source = d.complete.outcome := by
      rw [ofSource, read, Logged.outcome_bind, hrun]
      rfl
    refine ⟨source.lines, [], _, _, d, (List.append_nil _).symm, hrun,
      Draft.run_of_outcome_acceptAll hrun, ?_, Logged.log_bind_ok hrun _⟩
    rw [houtcome]
    exact d.ends_complete
  | error e =>
    obtain ⟨before, line, after, d, hlines, hbefore, hline⟩ :=
      Draft.outcome_acceptAll_eq_error_iff.1 hrun
    have houtcome : ofSource source = .error e := by
      rw [ofSource, read, Logged.outcome_bind, hrun]
      rfl
    have hlog : (Draft.start.acceptAll source.lines).log =
        (Draft.start.acceptAll before).log ++ (d.accept line).log := by
      rw [hlines, Draft.acceptAll_append, Logged.log_bind_ok hbefore]
      congr 1
      exact Logged.log_bind_error hline.outcome_eq _
    refine ⟨before, line :: after, _, (d.accept line).log, d, hlines, hbefore,
      Draft.run_of_outcome_acceptAll hbefore, ?_, ?_⟩
    · rw [houtcome]
      exact hline.ends after
    · rw [← hlog]
      exact Logged.log_bind_error hrun _

end Program

variable {source : Text} {ls rest : List Text} {log events before after : List Event}
  {outcome : Except Failure Program} {d : Draft}

/-- The lines that were accepted can be counted from the outcome: a failure says at which line it
was, and otherwise they are all. -/
theorem Draft.Ends.acceptedCount_eq (h : d.Ends rest events outcome)
    (hlines : source.lines = ls ++ rest) (hd : d.lineNumber = ls.length) :
    acceptedCount source outcome = ls.length := by
  have hall : rest = [] → source.lines.length = ls.length := by
    rintro rfl
    rw [hlines, List.append_nil]
  cases h with
  | incorrectHeader => exact hd
  | instruction => exact hd
  | missingHeader => exact hall rfl
  | program => exact hall rfl

/-- What is noted at the end belongs to the outcome. -/
theorem Draft.Ends.ending (h : d.Ends rest events outcome) : Ending outcome events := by
  cases h with
  | incorrectHeader => exact .incorrectHeader _ _
  | missingHeader => exact .missingHeader _
  | program => exact .program _
  | @instruction line first args fault events hphase hwords h =>
    have hword : ∀ {i : Nat} {token : Text}, (args.map (·.text))[i]? = some token →
        ∃ w, args[i]? = some w ∧ w.text = token := fun h ↦ by simpa using h
    have hargs : ∀ {n : Nat}, (args.map (·.text)).length = n → args.length = n := fun h ↦ by
      simpa using h
    cases h with
    | unknownOpcode => exact .unknownOpcode _ _
    | wrongArity => exact .wrongArity _ _ _ _
    | invalidOperand hop hlength hmisfit hinvalid =>
      obtain ⟨w, hw, rfl⟩ := hword hmisfit.token_eq
      refine .invalidOperand hwords hop (hargs hlength) hw ?_
      rw [← Fault.spanIn_invalidOperand hmisfit hw hinvalid, ← hwords]
    | operandMismatch hop hlength hmisfit hx =>
      obtain ⟨w, hw, rfl⟩ := hword hmisfit.token_eq
      refine .operandMismatch hwords hop (hargs hlength) hw ?_ hmisfit.kind_eq hx
      rw [← Fault.spanIn_operandMismatch hw, ← hwords]

namespace Ending

theorem exists_of_mem_take_matchedEvents {i : Nat} {kinds : List Kind} {tokens : List Text} :
    ∀ e ∈ (matchedEvents kinds tokens).take i, ∃ token kind, e = .operandMatched token kind :=
  fun _ he ↦ exists_of_mem_matchedEvents (List.mem_of_mem_take he)

/-- What is noted at the end is not about a line. -/
theorem line?_eq_none (h : Ending outcome events) : ∀ e ∈ events, e.line? = none := by
  have hmatched : ∀ {i : Nat} {kinds : List Kind} {tokens : List Text},
      ∀ e ∈ (matchedEvents kinds tokens).take i, e.line? = none := fun e he ↦ by
    obtain ⟨token, kind, rfl⟩ := exists_of_mem_take_matchedEvents e he
    rfl
  cases h with
  | program => exact List.forall_mem_singleton.2 rfl
  | invalidOperand => exact hmatched
  | operandMismatch =>
    exact List.forall_mem_append.2 ⟨hmatched, List.forall_mem_singleton.2 rfl⟩
  | _ => exact List.forall_mem_nil _

/-- An event at the end that is not about an operand of the expected kind is the last one, and says
that there is a program or which operand is of another kind. -/
theorem eq_nil_and_own {e : Event} (h : Ending outcome (before ++ e :: after))
    (he : ∀ token kind, e ≠ .operandMatched token kind) :
    after = [] ∧
      ((∃ p, outcome = .ok p ∧ e = .programParsed p.size) ∨
        ∃ op position kind category place w tag,
          outcome = .error (.source (.operandMismatch op position kind category) (some place)) ∧
          (contentWords place.line)[position]? = some w ∧ w.span = place.span ∧
          e = .operandClassified w.text tag) := by
  generalize hevents : before ++ e :: after = events at h
  have hmem : e ∈ events := by simp [← hevents]
  cases h with
  | program p =>
    have hnone : ∀ e ∈ ([] : List Event), ∃ token kind, e = .operandMatched token kind :=
      List.forall_mem_nil _
    obtain ⟨-, rfl, hafter⟩ := eq_of_append_cons_eq_concat hnone he hevents
    exact ⟨hafter, .inl ⟨p, rfl, rfl⟩⟩
  | invalidOperand =>
    obtain ⟨token, kind, heq⟩ := exists_of_mem_take_matchedEvents e hmem
    exact absurd heq (he token kind)
  | @operandMismatch place op first w args i kind x hwords hop hlength hw hspan hkind hx =>
    obtain ⟨-, rfl, hafter⟩ :=
      eq_of_append_cons_eq_concat exists_of_mem_take_matchedEvents he hevents
    have hposition : (contentWords place.line)[i + 1]? = some w := by
      rw [hwords]
      exact hw
    exact ⟨hafter, .inr ⟨op, i + 1, kind, x.category, place, w, x.tag, rfl, hposition, hspan.symm,
      rfl⟩⟩
  | _ => exact absurd hmem List.not_mem_nil

/-- The event about the program is the last, and tells the size of the program. -/
theorem of_programParsed {n : Nat} (h : Ending outcome (before ++ .programParsed n :: after)) :
    after = [] ∧ ∃ p, outcome = .ok p ∧ n = p.size := by
  obtain ⟨hafter, ⟨p, houtcome, hown⟩ | ⟨_, _, _, _, _, _, _, -, -, -, hown⟩⟩ :=
    h.eq_nil_and_own (by simp)
  · exact ⟨hafter, p, houtcome, Event.programParsed.inj hown⟩
  · cases hown

/-- The event about a class is the last, and is about the operand that did not fit. -/
theorem of_operandClassified {token tag : Text}
    (h : Ending outcome (before ++ .operandClassified token tag :: after)) :
    after = [] ∧ ∃ op position kind category place w,
      outcome = .error (.source (.operandMismatch op position kind category) (some place)) ∧
      (contentWords place.line)[position]? = some w ∧ w.text = token ∧ w.span = place.span := by
  obtain ⟨hafter, ⟨p, -, hown⟩ |
    ⟨op, position, kind, category, place, w, tag', houtcome, hw, hspan, hown⟩⟩ :=
      h.eq_nil_and_own (by simp)
  · cases hown
  · obtain ⟨rfl, -⟩ := Event.operandClassified.inj hown
    exact ⟨hafter, op, position, kind, category, place, w, houtcome, hw, rfl, hspan⟩

end Ending

/-! ### The run and the end -/

section Account

/-! In each of these the log is that of a run and then what is noted at the end, and each answers
one of the questions about it. -/

variable (hrun : Draft.start.Run ls log d) (hends : d.Ends rest events outcome)

include hrun

theorem Draft.Run.lineNumber_of_start : d.lineNumber = ls.length :=
  hrun.lineNumber_eq.trans (Nat.zero_add _)

include hends

/-- Every line that was accepted is noted once, in order. -/
theorem Draft.Run.filterMap_line?_append (hlines : source.lines = ls ++ rest) :
    (log ++ events).filterMap Event.line? = List.range' 1 (acceptedCount source outcome) := by
  rw [List.filterMap_append, List.filterMap_eq_nil_iff.2 hends.ending.line?_eq_none,
    List.append_nil, hrun.filterMap_line?, hends.acceptedCount_eq hlines hrun.lineNumber_of_start]
  rfl

/-- The header is noted at most once. -/
theorem Draft.Run.length_filterMap_header?_append :
    ((log ++ events).filterMap Event.header?).length ≤ 1 := by
  have hnone : events.filterMap Event.header? = [] :=
    List.filterMap_eq_nil_iff.2 fun e he ↦
      Event.header?_eq_none (hends.ending.line?_eq_none e he)
  rw [List.filterMap_append, hnone, List.append_nil]
  rcases hrun.header_cases with ⟨-, h⟩ | ⟨-, -, n, h⟩
  · simp [h]
  · simp [h]

/-- The event about an instruction is noted in the run. -/
theorem Draft.Run.exists_cut_instructionParsed {order n k : Nat} {op : Opcode}
    (hlog : log ++ events = before ++ .instructionParsed order op n k :: after) :
    ∃ ls₁ line ls₂ earlier matched d₁ d₂, ls = ls₁ ++ line :: ls₂ ∧
      Draft.start.Run ls₁ earlier d₁ ∧
      d₁.Notes line (matched ++ [.instructionParsed order op n k]) d₂ ∧
      before = earlier ++ matched := by
  rcases exists_of_append_eq_append_cons hlog with ⟨later, hlog, -⟩ | ⟨later, -, hevents⟩
  · obtain ⟨ls₁, line, ls₂, earlier, matched, d₁, d₂, hls, hearlier, hnotes, -, hbefore⟩ :=
      hrun.exists_cut hlog (by simp [Event.line?])
    exact ⟨ls₁, line, ls₂, earlier, matched, d₁, d₂, hls, hearlier, hnotes, hbefore⟩
  · -- what is noted at the end is not about a line
    have hnone := hends.ending.line?_eq_none (.instructionParsed order op n k) (by simp [hevents])
    exact absurd hnone (Option.some_ne_none _)

/-- Before an instruction is noted, the header was. -/
theorem Draft.Run.exists_headerAccepted_mem {order n k : Nat} {op : Opcode}
    (hlog : log ++ events = before ++ .instructionParsed order op n k :: after) :
    ∃ k, .headerAccepted k ∈ before := by
  obtain ⟨_, _, _, earlier, matched, d₁, _, -, hearlier, hnotes, rfl⟩ :=
    hrun.exists_cut_instructionParsed hends hlog
  -- an instruction is only read behind the header, so the run up to it has changed the phase
  obtain ⟨hphase, -⟩ := hnotes.exists_of_instructionParsed
  rcases hearlier.header_cases with ⟨hsame, -⟩ | ⟨-, -, k, hheader⟩
  · exact absurd (hphase.symm.trans hsame) (by simp [Draft.start])
  · obtain ⟨e, he, hk⟩ : ∃ e ∈ earlier, e.header? = some k :=
      List.mem_filterMap.1 (by simp [hheader])
    cases e with
    | headerAccepted => exact ⟨_, List.mem_append_left _ he⟩
    | _ => exact absurd hk (by simp [Event.header?])

/-- Right before an instruction its operands are noted, each as a match, and before these comes an
event about an earlier line. -/
theorem Draft.Run.exists_operands (hlines : source.lines = ls ++ rest) {order n k : Nat}
    {op : Opcode} (hlog : log ++ events = before ++ .instructionParsed order op n k :: after) :
    ∃ line first args earlier, source.lines[k - 1]? = some line ∧
      contentWords line = first :: args ∧ op.name = first.text.upper ∧ op.arity = n ∧
      args.length = n ∧ before = earlier ++ matchedEvents op.signature (args.map (·.text)) ∧
      ∀ e ∈ earlier.getLast?, e.line? ≠ none := by
  obtain ⟨ls₁, line, ls₂, earlier, matched, d₁, _, rfl, hearlier, hnotes, rfl⟩ :=
    hrun.exists_cut_instructionParsed hends hlog
  obtain ⟨-, -, rfl, first, args, hwords, hop, harity, hlength, rfl⟩ :=
    hnotes.exists_of_instructionParsed
  have hline : source.lines[d₁.lineNumber + 1 - 1]? = some line := by
    rw [Nat.add_sub_cancel, hearlier.lineNumber_of_start, hlines]
    simp
  exact ⟨line, first, args, earlier, hline, hwords, hop, harity, hlength, rfl,
    hearlier.line?_ne_none_of_mem_getLast?⟩

/-- What is noted neither about a line nor about an operand that was expected is noted at the
end. -/
theorem Draft.Run.exists_ending_append_cons {e : Event} (hline : e.line? = none)
    (he : ∀ token kind, e ≠ .operandMatched token kind)
    (hlog : log ++ events = before ++ e :: after) :
    ∃ later, Ending outcome (later ++ e :: after) := by
  rcases exists_of_append_eq_append_cons hlog with ⟨later, rfl, -⟩ | ⟨later, -, rfl⟩
  · rcases hrun.exists_matched_or_line (List.mem_append_right _ List.mem_cons_self) with
      ⟨token, kind, rfl⟩ | habs
    · exact absurd rfl (he token kind)
    · exact absurd hline habs
  · exact ⟨later, hends.ending⟩

/-- The instructions that are noted are those of the lines with content behind the header, numbered
on from one, and they are the statements of the program if there is one. The events follow the
statements of the draft (`map_summary_statements`), and these follow the lines
(`outcome_acceptAll_awaitingHeader_iff`); what is noted at the end is about no instruction. -/
theorem Draft.Run.exists_instructions (hlines : source.lines = ls ++ rest)
    (hok : (Draft.start.acceptAll ls).outcome = .ok d) : ∃ is,
    List.Forall₂ IsInstruction
      (contentLines (source.lines.take (acceptedCount source outcome))).tail is ∧
    (log ++ events).filterMap Event.instruction? = (Statement.numbered 1 is).map Statement.summary ∧
    ∀ p, outcome = .ok p → p.statements = Statement.numbered 1 is := by
  have htake : source.lines.take (acceptedCount source outcome) = ls := by
    rw [hends.acceptedCount_eq hlines hrun.lineNumber_of_start, hlines, List.take_left]
  have hnone : events.filterMap Event.instruction? = [] :=
    List.filterMap_eq_nil_iff.2 fun e he ↦
      Event.instruction?_eq_none (hends.ending.line?_eq_none e he)
  have hstatements : d.statements.toList.map Statement.summary =
      log.filterMap Event.instruction? := by
    simpa [Draft.start] using hrun.map_summary_statements
  have hprogram : ∀ p, outcome = .ok p → p.statements = d.statements.toList := by
    rintro p rfl
    cases hends
    rfl
  rw [htake, List.filterMap_append, hnone, List.append_nil, ← hstatements]
  rcases (Draft.outcome_acceptAll_awaitingHeader_iff rfl).1 hok with
    ⟨hcontent, rfl⟩ | ⟨first, others, is, hcontent, -, his, rfl⟩
  · -- without a header there are no instructions
    exact ⟨[], by simp [hcontent], by simp [Draft.start], hprogram⟩
  · have hextend : (Draft.start.extend ls.length is).statements.toList =
        Statement.numbered 1 is := by
      simp [Draft.extend, Draft.start]
    exact ⟨is, by simpa [hcontent] using his, by rw [hextend], fun p hp ↦
      (hprogram p hp).trans hextend⟩

end Account

/-- **Every log is a faithful account** of the reading that it was written in. -/
theorem Program.isAccount_log (source : Text) :
    IsAccount source (Program.read source).log (ofSource source) := by
  obtain ⟨ls, rest, log, events, d, hlines, hok, hrun, hends, heq⟩ := exists_run source
  rw [heq]
  exact {
    lines := hrun.filterMap_line?_append hends hlines
    header := hrun.length_filterMap_header?_append hends
    headerFirst := fun _ _ _ _ _ _ ↦ hrun.exists_headerAccepted_mem hends
    instructions := hrun.exists_instructions hends hlines hok
    operands := fun _ _ _ _ _ _ ↦ hrun.exists_operands hends hlines
    program := fun _ _ _ hlog ↦ by
      obtain ⟨_, hending⟩ := hrun.exists_ending_append_cons hends rfl (by simp) hlog
      exact hending.of_programParsed
    classified := fun _ _ _ _ hlog ↦ by
      obtain ⟨_, hending⟩ := hrun.exists_ending_append_cons hends rfl (by simp) hlog
      exact hending.of_operandClassified
    ending := ⟨log, events, rfl, hrun.line?_ne_none_of_mem_getLast?, hends.ending⟩ }

example : (Program.read ".IPPcode24\n\nPUSHS int@1\nPOPS int@2".toList).log =
    [.headerAccepted 1, .lineSkipped 2, .operandMatched "int@1".toList .symb,
      .instructionParsed 1 .pushS 1 3, .operandClassified "int@2".toList "int".toList] := by
  decide +kernel

end ThreeAddress
