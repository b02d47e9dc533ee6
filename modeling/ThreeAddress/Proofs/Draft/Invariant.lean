import ThreeAddress.Proofs.Draft.Run

/-!
# What every draft satisfies

Lines may be read on after a line that failed, so a draft is met in more states than a run without
failures passes through. `Draft.Invariant` holds of all of them: the statements are numbered from 1
on without a gap, each is an operation with operands that fit its signature and are well spelled,
and there is none before the header.

A draft changes in one of the three ways of `Draft.Accepts`, or it is only counted on, which gives
one case of the invariant each; a run is an induction over its lines. What the phase is after a run
does not need the invariant: it is `body` from the first line on that is the header.
-/

namespace ThreeAddress

/-! ### What a signature says -/

namespace Opcode

/-- No operation has more than three operands, which bounds the positions to look at. -/
theorem length_signature_le (op : Opcode) : op.signature.length ≤ 3 := by cases op <;> decide

/-- The name of a type is expected in one position of one operation only. -/
theorem eq_read_of_signature {op : Opcode} {j : Nat} (h : op.signature[j]? = some .type) :
    op = .read ∧ j = 1 := by
  have hall : ∀ op ∈ all, ∀ j < 3, op.signature[j]? = some .type → op = .read ∧ j = 1 := by decide
  have hj : j < op.signature.length := (List.getElem?_eq_some_iff.1 h).1
  exact hall op (mem_all op) j (Nat.lt_of_lt_of_le hj op.length_signature_le) h

/-- The operations that have the name of a label for an operand. -/
def labelled : List Opcode := [call, label, jump, jumpIfEq, jumpIfNeq]

/-- The name of a label is expected in the first position of a few operations only. -/
theorem mem_labelled_of_signature {op : Opcode} {j : Nat} (h : op.signature[j]? = some .label) :
    op ∈ labelled ∧ j = 0 := by
  have hall : ∀ op ∈ all, ∀ j < 3, op.signature[j]? = some .label → op ∈ labelled ∧ j = 0 := by
    decide
  have hj : j < op.signature.length := (List.getElem?_eq_some_iff.1 h).1
  exact hall op (mem_all op) j (Nat.lt_of_lt_of_le hj op.length_signature_le) h

end Opcode

namespace Instruction

/-- The operands are what the signature of the operation asks for. -/
structure FitsSignature (i : Instruction) : Prop where
  /-- There are as many operands as there are kinds. -/
  length_eq : i.operands.length = i.opcode.signature.length
  /-- The kind in a position accepts the operand in it. -/
  accepts : ∀ (j : Nat) kind x, i.opcode.signature[j]? = some kind → i.operands[j]? = some x →
    kind.accepts x = true
  /-- The name of a type occurs as the second operand of `READ` only. -/
  type_position : ∀ (j : Nat) t, i.operands[j]? = some (.type t) → i.opcode = .read ∧ j = 1
  /-- The name of a label occurs as the first operand of a few operations only. -/
  label_position : ∀ (j : Nat) name, i.operands[j]? = some (.label name) →
    i.opcode ∈ [.call, .label, .jump, .jumpIfEq, .jumpIfNeq] ∧ j = 0

/-- In the position of an operand a kind is expected that accepts it. -/
theorem WellFormed.exists_kind {i : Instruction} (hi : i.WellFormed) {j : Nat} {x : Operand}
    (hx : i.operands[j]? = some x) :
    ∃ kind, i.opcode.signature[j]? = some kind ∧ kind.accepts x = true := by
  obtain ⟨hj, rfl⟩ := List.getElem?_eq_some_iff.1 hx
  have hlength := hi.accepts.length_eq
  have hj' : j < i.opcode.signature.length := by omega
  refine ⟨i.opcode.signature[j], List.getElem?_eq_getElem hj', ?_⟩
  exact hi.accepts.get hj' hj

/-- What is said kind by kind is said here position by position. -/
theorem WellFormed.fitsSignature {i : Instruction} (hi : i.WellFormed) : i.FitsSignature where
  length_eq := hi.accepts.length_eq.symm
  accepts := by
    intro j kind x hkind hx
    obtain ⟨kind', hkind', haccepts⟩ := hi.exists_kind hx
    obtain rfl : kind' = kind := Option.some.inj (hkind'.symm.trans hkind)
    exact haccepts
  type_position := by
    intro j t hx
    obtain ⟨kind, hkind, haccepts⟩ := hi.exists_kind hx
    obtain rfl := Kind.accepts_type_iff.1 haccepts
    exact Opcode.eq_read_of_signature hkind
  label_position := by
    intro j name hx
    obtain ⟨kind, hkind, haccepts⟩ := hi.exists_kind hx
    obtain rfl := Kind.accepts_label_iff.1 haccepts
    exact Opcode.mem_labelled_of_signature hkind

end Instruction

namespace Draft

variable {d d' : Draft} {line : Text}

/-! ### The invariant -/

/-- What holds of a draft, whatever lines it was built from. -/
structure Invariant (d : Draft) : Prop where
  /-- The statement at index `k` has the number `k + 1`. -/
  order : ∀ (k : Nat) s, d.statements[k]? = some s → s.order = k + 1
  /-- Every statement has operands that fit the signature of its operation. -/
  fitsSignature : ∀ s ∈ d.statements, s.instruction.FitsSignature
  /-- Every operand could have come from a source. -/
  wellSpelled : ∀ s ∈ d.statements, ∀ x ∈ s.instruction.operands, x.WellSpelled
  /-- Before the header there are no statements. -/
  awaitingHeader : d.phase = .awaitingHeader → d.statements = #[]

/-- Before the first line there is nothing that could be wrong. -/
theorem invariant_start : start.Invariant :=
  ⟨by simp [start], by simp [start], by simp [start], fun _ ↦ rfl⟩

/-- The invariant does not speak of the number of lines. -/
theorem Invariant.countLine (h : d.Invariant) : d.countLine.Invariant :=
  ⟨h.order, h.fitsSignature, h.wellSpelled, h.awaitingHeader⟩

/-- With the header there are still no statements. -/
theorem Invariant.withHeader (h : d.Invariant) : d.withHeader.Invariant :=
  ⟨h.order, h.fitsSignature, h.wellSpelled, fun hphase ↦ absurd hphase (by simp [Draft.withHeader])⟩

/-- The step that matters: the new statement has the next number, and its instruction is well
formed. -/
theorem Invariant.withInstruction (h : d.Invariant) (hphase : d.phase = .body) {i : Instruction}
    (hi : i.WellFormed) : (d.withInstruction i).Invariant where
  order := by
    intro k s hs
    rcases Array.getElem?_push.symm.trans hs with hs
    -- the new statement stands at the index that is the number of those before it
    split_ifs at hs with hk
    · obtain rfl := Option.some.inj hs
      rw [hk]
    · exact h.order k s hs
  fitsSignature := by
    intro s hs
    rcases Array.mem_push.1 hs with hs | rfl
    · exact h.fitsSignature s hs
    · exact hi.fitsSignature
  wellSpelled := by
    intro s hs
    rcases Array.mem_push.1 hs with hs | rfl
    · exact h.wellSpelled s hs
    · exact hi.wellSpelled
  awaitingHeader := by
    intro hawaiting
    exact absurd (hphase.symm.trans hawaiting) (by simp)

/-- A line that spells an instruction spells a well formed one. -/
theorem wellFormed_of_isInstruction {i : Instruction} (h : IsInstruction line i) :
    i.WellFormed := by
  obtain ⟨first, rest, -, hread⟩ := h
  exact (Instruction.outcome_read_eq_ok_iff.1 hread).2.1

/-- A line that is accepted keeps the invariant, whichever of the three kinds it is of. -/
theorem Accepts.invariant (hline : d.Accepts line d') (h : d.Invariant) : d'.Invariant := by
  rcases hline with - | - | ⟨hphase, hi⟩
  · exact h.countLine
  · exact h.withHeader
  · exact h.withInstruction hphase (wellFormed_of_isInstruction hi)

/-- **One line keeps the invariant**, also if it fails. -/
theorem Invariant.after (h : d.Invariant) (line : Text) : (d.after line).Invariant := by
  rcases d.accepts_or_refuses line with ⟨d', hline⟩ | ⟨e, hline⟩
  · rw [hline.after_eq]
    exact hline.invariant h
  · rw [hline.after_eq]
    exact h.countLine

/-- **A run keeps the invariant**, whichever of its lines fail. -/
theorem Invariant.afterAll (h : d.Invariant) (ls : List Text) : (d.afterAll ls).Invariant := by
  induction ls generalizing d with
  | nil => exact h
  | cons line ls ih => exact ih (h.after line)

/-! ### The phase and the number of lines -/

theorem afterAll_append (d : Draft) (ls more : List Text) :
    d.afterAll (ls ++ more) = (d.afterAll ls).afterAll more := List.foldl_append

/-- Every line is counted, also one that fails. -/
theorem lineNumber_afterAll (d : Draft) (ls : List Text) :
    (d.afterAll ls).lineNumber = d.lineNumber + ls.length := by
  induction ls generalizing d with
  | nil => rfl
  | cons line ls ih =>
    show ((d.after line).afterAll ls).lineNumber = _
    rw [ih, lineNumber_after, List.length_cons]
    omega

/-- The header is the one line that changes the phase. -/
theorem phase_after_eq_body_iff :
    (d.after line).phase = .body ↔ d.phase = .body ∨ IsHeader line := by
  rcases d.accepts_or_refuses line with ⟨d', hline⟩ | ⟨e, hline⟩
  · rw [hline.after_eq]
    rcases hline with hwords | ⟨-, hheader⟩ | ⟨hphase, hi⟩
    -- a line without words is not the header, whose only word is the header itself
    · have hheader : ¬IsHeader line := fun h ↦ contentWords_ne_nil_of_isHeader h hwords
      simp [countLine, hheader]
    · simp [withHeader, hheader]
    · simp [withInstruction, countLine, hphase]
  · rw [hline.after_eq]
    rcases hline with ⟨hphase, -, hheader⟩ | ⟨hphase, -, -⟩
    · simp [countLine, hheader]
    · simp [countLine, hphase]

/-- The header has been seen once a line was the header; no line undoes this. -/
theorem phase_afterAll_eq_body_iff {ls : List Text} :
    (d.afterAll ls).phase = .body ↔ d.phase = .body ∨ ∃ line ∈ ls, IsHeader line := by
  induction ls generalizing d with
  | nil => simp [afterAll]
  | cons line ls ih =>
    show ((d.after line).afterAll ls).phase = .body ↔ _
    rw [ih, phase_after_eq_body_iff, or_assoc, List.exists_mem_cons_iff]

/-- **What every draft satisfies.** After any lines, failed ones among them, the invariant holds,
every line was counted, and the phase is `body` from the first line on that is the header. -/
theorem invariant_afterAll_start (ls : List Text) :
    (start.afterAll ls).Invariant ∧ (start.afterAll ls).lineNumber = ls.length ∧
      ((start.afterAll ls).phase = .body ↔ ∃ line ∈ ls, IsHeader line) ∧
      ∀ more, (start.afterAll ls).phase = .body → (start.afterAll (ls ++ more)).phase = .body := by
  refine ⟨invariant_start.afterAll ls, ?_, ?_, fun more hphase ↦ ?_⟩
  · rw [lineNumber_afterAll]
    simp [start]
  · rw [phase_afterAll_eq_body_iff]
    simp [start]
  · rw [afterAll_append, phase_afterAll_eq_body_iff]
    exact .inl hphase

end Draft

end ThreeAddress
