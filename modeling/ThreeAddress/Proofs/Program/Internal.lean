import ThreeAddress.Draft
import ThreeAddress.Proofs.Draft.InPlace
import ThreeAddress.Proofs.Draft.Run
import ThreeAddress.Proofs.Offsets

/-!
# No source brings about an internal fault

Two parts of the reader look at the same token, and two at the same line, and each time the second
relies on what the first has found. Where it could be let down there is an internal fault instead of
a value. It never is: a token is in a lexical class because it spells an operand, which is all that
taking it apart asks for, and the words of a line are where their spans say. So the failures of
a source are by faults that are its own (`Failure.IsExternal`), and have the exit codes of those.
-/

namespace ThreeAddress

open Text

/-- The failure is by a fault of the source and not of the reader. -/
inductive Failure.IsExternal : Failure → Prop
  | intro {fault : Fault} {location? : Option Location} (h : ∀ detail, fault ≠ .internal detail) :
      IsExternal (.source fault location?)

namespace Failure.IsExternal

variable {e : Failure}

/-- What is wrong with a source is no fault of the reader. -/
theorem ne_internal (h : e.IsExternal) (detail : Text) (location? : Option Location) :
    e ≠ .source (.internal detail) location? := by
  rintro rfl
  obtain ⟨h⟩ := h
  exact h detail rfl

/-- What is wrong with a source has one of three exit codes. -/
theorem exitCode_mem (h : e.IsExternal) : e.exitCode ∈ [21, 22, 23] := by
  obtain @⟨fault, -, h⟩ := h
  cases fault with
  | internal detail => exact absurd rfl (h detail)
  | _ => simp [exitCode, Fault.exitCode]

end Failure.IsExternal

/-! ### Tokens -/

/-- A token in a class is taken apart with success. -/
theorem Token.exists_of_isVariable {token : Text} (h : isVariable token = true) :
    ∃ v, Variable.ofToken? token = some v := by
  obtain ⟨v, rfl, -⟩ := isVariable_iff.1 h
  exact ⟨v, v.ofToken?_spelling⟩

/-- A token that is recognised as a literal can be taken apart as one. -/
theorem Token.exists_of_literalForm? {token : Text} {form : LiteralForm}
    (h : literalForm? token = some form) : ∃ l, Literal.ofToken? form token = some l := by
  obtain ⟨l, -, rfl, rfl⟩ := literalForm?_eq_some_iff.1 h
  exact ⟨l, l.ofToken?_spelling⟩

/-- A token that is recognised as the name of a type is that of some type. -/
theorem Token.exists_of_isType {token : Text} (h : isType token = true) :
    ∃ t, TypeName.ofText? token = some t := by
  obtain ⟨t, rfl⟩ := isType_iff.1 h
  exact ⟨t, t.ofText?_spelling⟩

namespace Operand

/-- No token brings the reader into disagreement with itself. -/
theorem ofToken_ne_internal (token detail : Text) : ofToken token ≠ .error (.internal detail) := by
  intro h
  obtain ⟨hfault, -⟩ := ofToken_eq_error_iff.1 h
  exact absurd hfault (by simp)

/-- No token brings the reader into disagreement with itself, whatever is expected of it. -/
theorem outcome_read_ne_internal (token : Text) (expected? : Option Kind) (detail : Text) :
    (read token expected?).outcome ≠ .error (.internal detail) := by
  cases expected? with
  | none =>
    rw [read, outcome_readAny]
    exact ofToken_ne_internal token detail
  | some kind =>
    cases hkind : Token.hasKind kind token with
    | true =>
      obtain ⟨x, haccepts, hx, rfl⟩ := Token.hasKind_iff.1 hkind
      simp [outcome_read_spelling haccepts hx]
    | false =>
      rw [outcome_read_of_hasKind_eq_false hkind]
      exact ofToken_ne_internal token detail

end Operand

/-! ### Lines -/

/-- A misfit is reported as an invalid operand or as a mismatch. -/
theorem Fault.ofMisfit_ne_internal (op : Opcode) (position : Nat) (kind : Kind)
    (token detail : Text) : ofMisfit op position kind token ≠ .internal detail := by
  rw [ofMisfit]
  cases h : Operand.ofToken token with
  | ok x => simp
  | error fault =>
    rintro rfl
    exact Operand.ofToken_ne_internal token detail h

/-- No words of a line bring the reader into disagreement with itself. -/
theorem Instruction.outcome_read_ne_internal (word : Text) (tokens : List Text) (detail : Text) :
    (read word tokens).outcome ≠ .error (.internal detail) := by
  intro h
  generalize hfault : Fault.internal detail = fault at h
  rcases isFault_of_outcome_read h with - | - | -
  · exact absurd hfault (by simp)
  · exact absurd hfault (by simp)
  · exact Fault.ofMisfit_ne_internal _ _ _ _ detail hfault.symm

namespace Draft

variable {d : Draft} {line : Text} {ls : List Text} {e : Failure}

/-- A line is refused for something that is wrong with it. -/
theorem Refuses.isExternal (h : d.Refuses line e) : e.IsExternal := by
  rcases h with - | ⟨-, -, h⟩
  · exact .intro (by simp)
  · refine .intro ?_
    rintro detail rfl
    exact Instruction.outcome_read_ne_internal _ _ detail h

/-- Also when reading goes on after failures, every answer is about something that is wrong with a
line. -/
theorem isExternal_of_mem_answers (h : .error e ∈ d.answers ls) : e.IsExternal := by
  induction ls generalizing d with
  | nil => exact absurd h (by simp [answers])
  | cons line ls ih =>
    rcases List.mem_cons.1 h with h | h
    · rcases d.accepts_or_refuses line with ⟨d', hline⟩ | ⟨e', hline⟩
      · rw [hline.outcome_eq] at h
        exact absurd h (by simp [Except.map])
      · rw [hline.outcome_eq] at h
        obtain rfl : e = e' := by simpa [Except.map] using h
        exact hline.isExternal
    · exact ih h

/-- A draft that is not complete lacks the header, which is something that is wrong with the source.
-/
theorem isExternal_of_outcome_complete (h : d.complete.outcome = .error e) : e.IsExternal := by
  obtain ⟨-, rfl⟩ := outcome_complete_eq_error_iff.1 h
  exact .intro (by simp)

end Draft

/-! ### Sources -/

/-- A source is no program for something that is wrong with it. -/
theorem Program.isExternal_of_ofSource_eq_error {source : Text} {e : Failure}
    (h : ofSource source = .error e) : e.IsExternal := by
  rcases Logged.outcome_bind_eq_error_iff.1 h with hrun | ⟨d, -, hcomplete⟩
  · obtain ⟨_, _, _, d, -, -, hline⟩ := Draft.outcome_acceptAll_eq_error_iff.1 hrun
    exact hline.isExternal
  · exact Draft.isExternal_of_outcome_complete hcomplete

/-- **No token, no line and no source brings about an internal fault**, since whatever is in a
lexical class is taken apart with success, and no cut that is made on the way misses a character. -/
theorem no_internal_fault :
    (∀ token expected? detail, (Operand.read token expected?).outcome ≠ .error (.internal detail)) ∧
    (∀ word tokens detail, (Instruction.read word tokens).outcome ≠ .error (.internal detail)) ∧
    (∀ ls detail location?, ∀ answers d, Draft.feedAll ls Draft.start = (answers, d) →
      .error (.source (.internal detail) location?) ∉ answers ∧
        d.complete.outcome ≠ .error (.source (.internal detail) location?)) ∧
    (∀ source e, Program.ofSource source = .error e → e.exitCode ∈ [21, 22, 23]) ∧
    -- what the lexical classes promise
    (∀ token, Token.isVariable token = true → ∃ v, Variable.ofToken? token = some v) ∧
    (∀ token form, Token.literalForm? token = some form →
      ∃ l, Literal.ofToken? form token = some l) ∧
    (∀ token, Token.isType token = true → ∃ t, TypeName.ofText? token = some t) ∧
    -- the cuts
    (∀ line, uncommentedAt? line = some (uncommented line)) ∧
    (∀ line, contentWords line ≠ [] →
      line.slice? (spanOfWords (contentWords line)) = some (content line)) ∧
    (∀ (b : Base) payload, b.digitsAt? payload = some (b.digits payload)) := by
  refine ⟨Operand.outcome_read_ne_internal, Instruction.outcome_read_ne_internal, ?_,
    fun _ _ h ↦ (Program.isExternal_of_ofSource_eq_error h).exitCode_mem,
    fun _ ↦ Token.exists_of_isVariable, fun _ _ ↦ Token.exists_of_literalForm?,
    fun _ ↦ Token.exists_of_isType, uncommentedAt?_eq,
    fun _ ↦ slice?_spanOfWords_contentWords, Base.digitsAt?_eq⟩
  intro ls detail location? answers d hfeed
  obtain ⟨rfl, rfl⟩ := Prod.mk.inj ((Draft.feedAll_apply Draft.start ls).symm.trans hfeed)
  constructor
  · intro h
    exact (Draft.isExternal_of_mem_answers h).ne_internal detail location? rfl
  · intro h
    exact (Draft.isExternal_of_outcome_complete h).ne_internal detail location? rfl

/-- A token of each class that is taken apart, a source that fails, and a line that is cut between
characters of several bytes. -/
theorem no_internal_fault_where_asked :
    (∃ v, Variable.ofToken? "TF@int".toList = some v) ∧
    (∃ l, Literal.ofToken? (.int .hexadecimal) "int@-0X_1F".toList = some l) ∧
    (∃ t, TypeName.ofText? "int".toList = some t) ∧
    (∃ e, Program.ofSource ".IPPcode24\nıd".toList = .error e ∧ e.exitCode ∈ [21, 22, 23]) ∧
    slice? "\u2028é ü #ß".toList ⟨3, 8⟩ = some (content "\u2028é ü #ß".toList) := by
  obtain ⟨-, -, -, hexit, hvariable, hliteral, htype, -, hcontent, -⟩ := no_internal_fault
  refine ⟨hvariable _ (by decide), hliteral _ _ (by decide), htype _ (by decide), ?_, ?_⟩
  · have hfault : Program.ofSource ".IPPcode24\nıd".toList =
        .error (.source (.unknownOpcode "ID".toList) (some ⟨2, "ıd".toList, 0, 3⟩)) := by
      decide +kernel
    exact ⟨_, hfault, hexit _ _ hfault⟩
  · have hspan : spanOfWords (contentWords "\u2028é ü #ß".toList) = ⟨3, 8⟩ := by decide +kernel
    exact hspan ▸ hcontent _ (by decide +kernel)

end ThreeAddress
