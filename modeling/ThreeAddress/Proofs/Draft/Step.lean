import ThreeAddress.Draft
import ThreeAddress.Proofs.Instruction
import ThreeAddress.Proofs.Line

/-!
# What one line does to a draft

`Draft.accept` is an inspection of the line, of the phase and of the words, several calls deep. The
two relations here say all that can come of it. `Accepts d line d'` has a constructor for each way
in which a line is accepted, with the draft that follows; `Refuses d line e` has one for each way in
which it fails. They are exact (`outcome_accept_eq_ok_iff`, `outcome_accept_eq_error_iff`), and
later statements about whole runs use them and never look into `Draft.accept` again.
-/

namespace ThreeAddress

/-- The words of the line spell the instruction. -/
def IsInstruction (line : Text) (i : Instruction) : Prop :=
  ∃ first rest, contentWords line = first :: rest ∧
    (Instruction.read first.text (rest.map (·.text))).outcome = .ok i

namespace Draft

/-- The draft after a line that is the header. -/
def withHeader (d : Draft) : Draft := { d.countLine with phase := .body }

/-- The draft after a line that is the instruction. -/
def withInstruction (d : Draft) (i : Instruction) : Draft :=
  { d.countLine with statements := d.statements.push ⟨d.statements.size + 1, i⟩ }

/-- The line is accepted, and `d'` is the draft with it. -/
inductive Accepts (d : Draft) (line : Text) : Draft → Prop
  | blank (hwords : contentWords line = []) : Accepts d line d.countLine
  | header (hphase : d.phase = .awaitingHeader) (h : IsHeader line) : Accepts d line d.withHeader
  | instruction (hphase : d.phase = .body) {i : Instruction} (h : IsInstruction line i) :
      Accepts d line (d.withInstruction i)

/-- The line fails, with this failure. -/
inductive Refuses (d : Draft) (line : Text) : Failure → Prop
  | header (hphase : d.phase = .awaitingHeader) (hwords : contentWords line ≠ [])
      (h : ¬IsHeader line) :
      Refuses d line
        (d.countLine.failure line (contentWords line) (.incorrectHeader (content line)))
  | instruction (hphase : d.phase = .body) {first : Word} {rest : List Word} {fault : Fault}
      (hwords : contentWords line = first :: rest)
      (h : (Instruction.read first.text (rest.map (·.text))).outcome = .error fault) :
      Refuses d line (d.countLine.failure line (contentWords line) fault)

/-! ### The two readings of a line with content -/

/-- The comparison is with the content of the line, since the words never lie outside of it. -/
theorem outcome_acceptHeader (d : Draft) {line : Text} (hwords : contentWords line ≠ []) :
    (d.acceptHeader line (contentWords line)).outcome =
      if IsHeader line then .ok { d with phase := .body }
      else .error (d.failure line (contentWords line) (.incorrectHeader (content line))) := by
  rw [acceptHeader, slice?_spanOfWords_contentWords hwords]
  by_cases h : IsHeader line
  · rw [if_pos h]
    exact congrArg Logged.outcome (if_pos h)
  · rw [if_neg h]
    exact congrArg Logged.outcome (if_neg h)

/-- A line becomes a statement if it is read as an instruction, and fails with what keeps it from
being one. -/
theorem outcome_acceptInstruction (d : Draft) (line : Text) (first : Word) (rest : List Word) :
    (d.acceptInstruction line first rest).outcome =
      match (Instruction.read first.text (rest.map (·.text))).outcome with
      | .ok i => .ok { d with statements := d.statements.push ⟨d.statements.size + 1, i⟩ }
      | .error fault => .error (d.failure line (first :: rest) fault) := by
  rw [acceptInstruction, Logged.outcome_bind, Logged.outcome_mapError]
  cases (Instruction.read first.text (rest.map (·.text))).outcome with
  | error fault => rfl
  | ok i => rfl

/-! ### The relations are exact -/

/-- A line without content is counted and nothing else. -/
theorem outcome_accept_blank (d : Draft) {line : Text} (hwords : contentWords line = []) :
    (d.accept line).outcome = .ok d.countLine := by
  rw [accept, hwords]
  rfl

/-- While the header is awaited, a line with content is the header or fails. -/
theorem outcome_accept_header {d : Draft} (hphase : d.phase = .awaitingHeader) {line : Text}
    (hwords : contentWords line ≠ []) :
    (d.accept line).outcome = if IsHeader line then .ok d.withHeader
      else .error (d.countLine.failure line (contentWords line)
        (.incorrectHeader (content line))) := by
  rw [withHeader, ← outcome_acceptHeader d.countLine hwords]
  obtain ⟨first, rest, heq⟩ := List.exists_cons_of_ne_nil hwords
  rw [accept, heq, hphase]

/-- After the header, a line with content is an instruction or fails. -/
theorem outcome_accept_instruction {d : Draft} (hphase : d.phase = .body) {line : Text}
    {first : Word} {rest : List Word} (hwords : contentWords line = first :: rest) :
    (d.accept line).outcome =
      match (Instruction.read first.text (rest.map (·.text))).outcome with
      | .ok i => .ok (d.withInstruction i)
      | .error fault => .error (d.countLine.failure line (contentWords line) fault) := by
  rw [accept, hwords, hphase]
  exact outcome_acceptInstruction d.countLine line first rest

/-- A line that is accepted by its description is accepted by the reader. -/
theorem Accepts.outcome_eq {d d' : Draft} {line : Text} (h : d.Accepts line d') :
    (d.accept line).outcome = .ok d' := by
  rcases h with hwords | ⟨hphase, h⟩ | ⟨hphase, first, rest, hwords, h⟩
  · exact outcome_accept_blank d hwords
  · rw [outcome_accept_header hphase (contentWords_ne_nil_of_isHeader h), if_pos h]
  · rw [outcome_accept_instruction hphase hwords, h]

/-- A line that is refused by its description fails in the reader. -/
theorem Refuses.outcome_eq {d : Draft} {line : Text} {e : Failure} (h : d.Refuses line e) :
    (d.accept line).outcome = .error e := by
  rcases h with ⟨hphase, hwords, h⟩ | ⟨hphase, hwords, h⟩
  · rw [outcome_accept_header hphase hwords, if_neg h]
  · rw [outcome_accept_instruction hphase hwords, h]

/-- A line is accepted or refused; there is no third case. -/
theorem accepts_or_refuses (d : Draft) (line : Text) :
    (∃ d', d.Accepts line d') ∨ ∃ e, d.Refuses line e := by
  by_cases hwords : contentWords line = []
  · exact .inl ⟨_, .blank hwords⟩
  cases hphase : d.phase with
  | awaitingHeader =>
    by_cases h : IsHeader line
    · exact .inl ⟨_, .header hphase h⟩
    · exact .inr ⟨_, .header hphase hwords h⟩
  | body =>
    obtain ⟨first, rest, heq⟩ := List.exists_cons_of_ne_nil hwords
    cases h : (Instruction.read first.text (rest.map (·.text))).outcome with
    | ok i => exact .inl ⟨_, .instruction hphase ⟨first, rest, heq, h⟩⟩
    | error fault => exact .inr ⟨_, .instruction hphase heq h⟩

/-- **The lines that a draft accepts**, and the draft that follows. -/
theorem outcome_accept_eq_ok_iff {d d' : Draft} {line : Text} :
    (d.accept line).outcome = .ok d' ↔ d.Accepts line d' := by
  refine ⟨fun h ↦ ?_, Accepts.outcome_eq⟩
  rcases d.accepts_or_refuses line with ⟨d'', h'⟩ | ⟨e, h'⟩
  · rw [h'.outcome_eq] at h
    exact Except.ok.inj h ▸ h'
  · rw [h'.outcome_eq] at h
    exact absurd h (by simp)

/-- **The lines that a draft refuses**, and the failure. -/
theorem outcome_accept_eq_error_iff {d : Draft} {line : Text} {e : Failure} :
    (d.accept line).outcome = .error e ↔ d.Refuses line e := by
  refine ⟨fun h ↦ ?_, Refuses.outcome_eq⟩
  rcases d.accepts_or_refuses line with ⟨d', h'⟩ | ⟨e', h'⟩
  · rw [h'.outcome_eq] at h
    exact absurd h (by simp)
  · rw [h'.outcome_eq] at h
    exact Except.error.inj h ▸ h'

/-! ### What is accepted, by the line and the phase -/

/-- An instruction has at least the name of its operation. -/
theorem contentWords_ne_nil_of_isInstruction {line : Text} {i : Instruction}
    (h : IsInstruction line i) : contentWords line ≠ [] := by
  obtain ⟨first, rest, hwords, -⟩ := h
  simp [hwords]

/-- A line without content is accepted in either phase. -/
theorem accepts_iff_of_eq_nil {d d' : Draft} {line : Text} (hline : contentWords line = []) :
    d.Accepts line d' ↔ d' = d.countLine := by
  constructor
  · rintro (- | ⟨-, h⟩ | ⟨-, h⟩)
    · rfl
    · exact absurd hline (contentWords_ne_nil_of_isHeader h)
    · exact absurd hline (contentWords_ne_nil_of_isInstruction h)
  · rintro rfl
    exact .blank hline

/-- While the header is awaited, only the header is accepted of the lines with content. -/
theorem accepts_iff_of_awaitingHeader {d d' : Draft} (hphase : d.phase = .awaitingHeader)
    {line : Text} (hline : contentWords line ≠ []) :
    d.Accepts line d' ↔ IsHeader line ∧ d' = d.withHeader := by
  constructor
  · rintro (h | ⟨-, h⟩ | ⟨hbody, -⟩)
    · exact absurd h hline
    · exact ⟨h, rfl⟩
    · exact absurd (hphase.symm.trans hbody) (by simp)
  · rintro ⟨h, rfl⟩
    exact .header hphase h

/-- After the header, only instructions are accepted of the lines with content. -/
theorem accepts_iff_of_body {d d' : Draft} (hphase : d.phase = .body) {line : Text}
    (hline : contentWords line ≠ []) :
    d.Accepts line d' ↔ ∃ i, IsInstruction line i ∧ d' = d.withInstruction i := by
  constructor
  · rintro (h | ⟨hawaiting, -⟩ | ⟨-, h⟩)
    · exact absurd h hline
    · exact absurd (hphase.symm.trans hawaiting) (by simp)
    · exact ⟨_, h, rfl⟩
  · rintro ⟨i, h, rfl⟩
    exact .instruction hphase h

/-! ### Going on after a failure -/

theorem Accepts.after_eq {d d' : Draft} {line : Text} (h : d.Accepts line d') :
    d.after line = d' := by
  rw [after, h.outcome_eq]

/-- A line that fails is counted and leaves no other trace. -/
theorem Refuses.after_eq {d : Draft} {line : Text} {e : Failure} (h : d.Refuses line e) :
    d.after line = d.countLine := by
  rw [after, h.outcome_eq]

/-- A line is counted whether it is accepted or fails. -/
@[simp] theorem lineNumber_after (d : Draft) (line : Text) :
    (d.after line).lineNumber = d.lineNumber + 1 := by
  rcases d.accepts_or_refuses line with ⟨d', h⟩ | ⟨e, h⟩
  · rw [h.after_eq]
    cases h <;> rfl
  · rw [h.after_eq]
    rfl

end Draft

end ThreeAddress
