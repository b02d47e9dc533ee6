import Mathlib.Data.List.Forall2
import ThreeAddress.Proofs.Draft.Step

/-!
# What a run over some lines does to a draft

A run that stops at the first failure is followed line by line. Where it succeeds, only the lines
with content have left a trace: the first of them is the header, and the others are instructions,
which are numbered on from the statements that are there (`outcome_acceptAll_body_iff`,
`outcome_acceptAll_awaitingHeader_iff`). Where it fails, a first part of the lines was accepted and
the line after it was refused (`outcome_acceptAll_eq_error_iff`).
-/

namespace ThreeAddress

/-- The lines that have a word before their comment. -/
def contentLines (ls : List Text) : List Text := ls.filter fun line ↦ contentWords line ≠ []

@[simp] theorem contentLines_nil : contentLines [] = [] := rfl

theorem contentLines_cons_of_eq_nil {line : Text} (h : contentWords line = []) (ls : List Text) :
    contentLines (line :: ls) = contentLines ls := List.filter_cons_of_neg (by simpa using h)

theorem contentLines_cons_of_ne_nil {line : Text} (h : contentWords line ≠ []) (ls : List Text) :
    contentLines (line :: ls) = line :: contentLines ls :=
  List.filter_cons_of_pos (by simpa using h)

/-- No line is left if none has a word. -/
theorem contentLines_eq_nil_iff {ls : List Text} :
    contentLines ls = [] ↔ ∀ line ∈ ls, contentWords line = [] := by
  simp [contentLines, List.filter_eq_nil_iff]

/-- The instructions as statements, numbered on from `n`. -/
def Statement.numbered (n : Nat) (is : List Instruction) : List Statement :=
  (is.zipIdx n).map fun p ↦ ⟨p.2, p.1⟩

namespace Statement

@[simp] theorem numbered_nil (n : Nat) : numbered n [] = [] := rfl

@[simp] theorem numbered_cons (n : Nat) (i : Instruction) (is : List Instruction) :
    numbered n (i :: is) = ⟨n, i⟩ :: numbered (n + 1) is := rfl

end Statement

namespace Draft

variable {d d' : Draft} {line : Text} {ls : List Text}

/-- The draft with the header, after `n` more lines of which the instructions came. -/
def extend (d : Draft) (n : Nat) (is : List Instruction) : Draft :=
  ⟨.body, d.lineNumber + n, d.statements ++ Statement.numbered (d.statements.size + 1) is⟩

/-- A draft with the header is its own extension by nothing. -/
theorem extend_zero_nil (hphase : d.phase = .body) : d.extend 0 [] = d := by
  obtain ⟨phase, n, statements⟩ := d
  obtain rfl : phase = .body := hphase
  simp [extend]

theorem extend_countLine (d : Draft) (n : Nat) (is : List Instruction) :
    d.countLine.extend n is = d.extend (n + 1) is := by
  have hlines : d.lineNumber + 1 + n = d.lineNumber + (n + 1) := by omega
  simp [extend, countLine, hlines]

theorem extend_withHeader (d : Draft) (n : Nat) (is : List Instruction) :
    d.withHeader.extend n is = d.extend (n + 1) is := extend_countLine d n is

theorem extend_withInstruction (d : Draft) (n : Nat) (i : Instruction) (is : List Instruction) :
    (d.withInstruction i).extend n is = d.extend (n + 1) (i :: is) := by
  have hlines : d.lineNumber + 1 + n = d.lineNumber + (n + 1) := by omega
  simp [extend, withInstruction, countLine, hlines]

/-! ### Runs that succeed -/

@[simp] theorem outcome_acceptAll_nil (d : Draft) : (d.acceptAll []).outcome = .ok d := rfl

/-- A run succeeds if its first line is accepted and the rest succeeds from there. -/
theorem outcome_acceptAll_cons_eq_ok_iff : (d.acceptAll (line :: ls)).outcome = .ok d' ↔
    ∃ d₁, d.Accepts line d₁ ∧ (d₁.acceptAll ls).outcome = .ok d' := by
  rw [acceptAll, List.foldlM_cons, Logged.outcome_bind_eq_ok_iff]
  simp only [outcome_accept_eq_ok_iff]
  rfl

/-- Where no line fails, going on after failures makes no difference. -/
theorem afterAll_eq_of_outcome_acceptAll (h : (d.acceptAll ls).outcome = .ok d') :
    d.afterAll ls = d' := by
  induction ls generalizing d with
  | nil => exact Except.ok.inj h
  | cons line ls ih =>
    obtain ⟨d₁, hline, hrest⟩ := outcome_acceptAll_cons_eq_ok_iff.1 h
    show (d.after line).afterAll ls = d'
    rw [hline.after_eq]
    exact ih hrest

/-- A line without content is only counted, whatever the phase. -/
theorem outcome_acceptAll_cons_of_eq_nil (hline : contentWords line = []) :
    (d.acceptAll (line :: ls)).outcome = .ok d' ↔ (d.countLine.acceptAll ls).outcome = .ok d' := by
  simp only [outcome_acceptAll_cons_eq_ok_iff, accepts_iff_of_eq_nil hline, exists_eq_left]

/-- **Once the header is there, every line with content is an instruction.** -/
theorem outcome_acceptAll_body_iff (hphase : d.phase = .body) :
    (d.acceptAll ls).outcome = .ok d' ↔
      ∃ is, List.Forall₂ IsInstruction (contentLines ls) is ∧ d' = d.extend ls.length is := by
  induction ls generalizing d with
  | nil =>
    simp only [outcome_acceptAll_nil, contentLines_nil, List.forall₂_nil_left_iff,
      exists_eq_left, List.length_nil, extend_zero_nil hphase, Except.ok.injEq, eq_comm]
  | cons line ls ih =>
    rw [List.length_cons]
    by_cases hline : contentWords line = []
    · rw [outcome_acceptAll_cons_of_eq_nil hline, ih (d := d.countLine) hphase,
        contentLines_cons_of_eq_nil hline]
      simp only [extend_countLine]
    · rw [outcome_acceptAll_cons_eq_ok_iff, contentLines_cons_of_ne_nil hline]
      simp only [accepts_iff_of_body hphase hline]
      constructor
      · rintro ⟨d₁, ⟨i, hi, rfl⟩, hrest⟩
        obtain ⟨is, his, rfl⟩ := (ih (d := d.withInstruction i) hphase).1 hrest
        exact ⟨i :: is, .cons hi his, extend_withInstruction d ls.length i is⟩
      · rintro ⟨is, his, rfl⟩
        obtain ⟨i, more, hi, hmore, rfl⟩ := List.forall₂_cons_left_iff.1 his
        refine ⟨_, ⟨i, hi, rfl⟩, (ih (d := d.withInstruction i) hphase).2 ⟨more, hmore, ?_⟩⟩
        exact (extend_withInstruction d ls.length i more).symm

/-- **Before that, the first line with content is the header.** -/
theorem outcome_acceptAll_awaitingHeader_iff (hphase : d.phase = .awaitingHeader) :
    (d.acceptAll ls).outcome = .ok d' ↔
      contentLines ls = [] ∧ d' = { d with lineNumber := d.lineNumber + ls.length } ∨
      ∃ h rest is, contentLines ls = h :: rest ∧ IsHeader h ∧
        List.Forall₂ IsInstruction rest is ∧ d' = d.extend ls.length is := by
  induction ls generalizing d with
  | nil => simp [eq_comm]
  | cons line ls ih =>
    rw [List.length_cons]
    by_cases hline : contentWords line = []
    · have hlines : d.lineNumber + 1 + ls.length = d.lineNumber + (ls.length + 1) := by omega
      rw [outcome_acceptAll_cons_of_eq_nil hline, ih (d := d.countLine) hphase,
        contentLines_cons_of_eq_nil hline]
      simp only [extend_countLine]
      simp only [countLine, hlines]
    · -- the line is the header, and the lines after it are read in the other phase
      rw [outcome_acceptAll_cons_eq_ok_iff, contentLines_cons_of_ne_nil hline]
      simp only [accepts_iff_of_awaitingHeader hphase hline]
      constructor
      · rintro ⟨d₁, ⟨hheader, rfl⟩, hrest⟩
        obtain ⟨is, his, rfl⟩ := (outcome_acceptAll_body_iff (d := d.withHeader) rfl).1 hrest
        exact .inr ⟨line, _, is, rfl, hheader, his, extend_withHeader d ls.length is⟩
      · rintro (⟨habs, -⟩ | ⟨h, rest, is, heq, hheader, his, rfl⟩)
        · exact absurd habs (by simp)
        · obtain ⟨rfl, rfl⟩ := List.cons.inj heq
          refine ⟨_, ⟨hheader, rfl⟩, (outcome_acceptAll_body_iff rfl).2 ⟨is, his, ?_⟩⟩
          exact (extend_withHeader d ls.length is).symm

/-! ### Runs that fail -/

/-- **A run fails at the first line that is refused.** -/
theorem outcome_acceptAll_eq_error_iff {e : Failure} : (d.acceptAll ls).outcome = .error e ↔
    ∃ before line after d', ls = before ++ line :: after ∧
      (d.acceptAll before).outcome = .ok d' ∧ d'.Refuses line e := by
  induction ls generalizing d with
  | nil => simp
  | cons line ls ih =>
    rw [acceptAll, List.foldlM_cons, Logged.outcome_bind_eq_error_iff]
    simp only [outcome_accept_eq_ok_iff, outcome_accept_eq_error_iff]
    constructor
    · rintro (h | ⟨d₁, hline, hrest⟩)
      · exact ⟨[], line, ls, d, rfl, rfl, h⟩
      · -- the first line is one more of those that are accepted
        obtain ⟨before, line', after, d', rfl, hbefore, h⟩ := ih.1 hrest
        exact ⟨line :: before, line', after, d', rfl,
          outcome_acceptAll_cons_eq_ok_iff.2 ⟨d₁, hline, hbefore⟩, h⟩
    · rintro ⟨- | ⟨first, before⟩, line', after, d', heq, hbefore, h⟩
      · obtain ⟨rfl, rfl⟩ := List.cons.inj heq
        obtain rfl : d = d' := Except.ok.inj hbefore
        exact .inl h
      · obtain ⟨rfl, rfl⟩ := List.cons.inj heq
        obtain ⟨d₁, hline, hbefore⟩ := outcome_acceptAll_cons_eq_ok_iff.1 hbefore
        exact .inr ⟨d₁, hline, ih.2 ⟨before, line', after, d', rfl, hbefore, h⟩⟩

/-! ### Completing a draft -/

theorem outcome_complete_body (hphase : d.phase = .body) :
    d.complete.outcome = .ok ⟨d.statements.toList⟩ := by
  rw [complete, hphase]
  rfl

theorem outcome_complete_awaitingHeader (hphase : d.phase = .awaitingHeader) :
    d.complete.outcome = .error (.source .missingHeader none) := by
  rw [complete, hphase]
  rfl

/-- A draft is complete once the header has been seen, and its program has the statements so far. -/
theorem outcome_complete_eq_ok_iff {p : Program} :
    d.complete.outcome = .ok p ↔ d.phase = .body ∧ p = ⟨d.statements.toList⟩ := by
  cases hphase : d.phase with
  | awaitingHeader => simp [outcome_complete_awaitingHeader hphase]
  | body => simp [outcome_complete_body hphase, eq_comm]

/-- Nothing but a missing header keeps a draft from being complete. -/
theorem outcome_complete_eq_error_iff {e : Failure} : d.complete.outcome = .error e ↔
    d.phase = .awaitingHeader ∧ e = .source .missingHeader none := by
  cases hphase : d.phase with
  | awaitingHeader => simp [outcome_complete_awaitingHeader hphase, eq_comm]
  | body => simp [outcome_complete_body hphase]

end Draft

end ThreeAddress
