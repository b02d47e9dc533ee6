import ThreeAddress.Proofs.Instruction
import ThreeAddress.Proofs.Operand.Expected

/-!
# The verdict on an instruction

What becomes of a word and the tokens after it can be said without reading anything, from the name
of the operation, the number of the tokens and the lexical classes of each (`Instruction.Verdict`).
An operation that does not exist comes before a wrong number of tokens, whatever the tokens are, and
that before the first token which is not of the kind that is expected in its place. Such a token is
called invalid if it is no operand at all, and otherwise it is told what it is, which is one thing
only (`Token.isJust_of_ofToken`).

`outcome_read_eq_iff` says that reading comes to the verdict. For failures this needs the converse
of what is said of them in general, that where there is a first misfit it is the one reported
(`outcome_readOperands_of_firstMisfit`).
-/

namespace ThreeAddress

/-! ### What a token is -/

/-- The token is in the lexical class of the category and in no other, the names of types not
counted, which are labels as well. -/
def Token.IsJust (category : Category) (token : Text) : Prop :=
  category ≠ .type ∧ ∀ c : Category, c ≠ .type → (Token.hasCategory c token = true ↔ c = category)

/-- The token is no variable, no literal and no label. -/
def Token.IsInvalid (token : Text) : Prop :=
  ∀ c : Category, c ≠ .type → Token.hasCategory c token = false

/-- A token that is an operand is just of the class of that operand. -/
theorem Token.isJust_of_ofToken {token : Text} {x : Operand} (h : Operand.ofToken token = .ok x) :
    IsJust x.category token := by
  obtain ⟨hx, hc, hspelling⟩ := Operand.ofToken_eq_ok_iff.1 h
  have hcategory : hasCategory x.category token = true := hasCategory_iff.2 ⟨x, rfl, hx, hspelling⟩
  refine ⟨hc, fun c hne ↦ ⟨fun h ↦ eq_of_hasCategory hne hc h hcategory, ?_⟩⟩
  rintro rfl
  exact hcategory

/-- A token that is no operand is in none of the classes. -/
theorem Token.isInvalid_of_ofToken {token : Text} {fault : Fault}
    (h : Operand.ofToken token = .error fault) : IsInvalid token := by
  obtain ⟨-, hkind⟩ := Operand.ofToken_eq_error_iff.1 h
  intro c hc
  cases c with
  | var => exact hkind .var
  | literal => exact (Bool.or_eq_false_iff.1 (hkind .symb)).2
  | label => exact hkind .label
  | type => exact absurd rfl hc

namespace Fault

variable {op : Opcode} {position : Nat} {kind : Kind} {token : Text}

/-- A misfit of no class is an invalid operand. -/
theorem ofMisfit_of_isInvalid (h : Token.IsInvalid token) :
    ofMisfit op position kind token = .invalidOperand token := by
  have hof : Operand.ofToken token = .error (.invalidOperand token) :=
    Operand.ofToken_of_forall_hasKind (Token.hasKind_eq_false_of_forall_hasCategory h)
  rw [ofMisfit, hof]

/-- A misfit that is just of one class is reported with that class. -/
theorem ofMisfit_of_isJust {actual : Category} (h : Token.IsJust actual token) :
    ofMisfit op position kind token = .operandMismatch op position kind actual := by
  cases hof : Operand.ofToken token with
  | ok x =>
    obtain ⟨hc, hunique⟩ := Token.isJust_of_ofToken hof
    obtain rfl : actual = x.category := (hunique actual h.1).1 ((h.2 actual h.1).2 rfl)
    rw [ofMisfit, hof]
  | error fault =>
    have hnone := Token.isInvalid_of_ofToken hof actual h.1
    exact absurd (((h.2 actual h.1).2 rfl).symm.trans hnone) (by simp)

end Fault

/-- Where the kind is expected, the token is in its class and is read as the operand. -/
structure Operand.IsReadAs (kind : Kind) (token : Text) (x : Operand) : Prop where
  hasKind : Token.hasKind kind token = true
  outcome_eq : (Operand.read token (some kind)).outcome = .ok x
  accepts : kind.accepts x = true

/-- Reading a token is what is said of it by its class, its kind and its spelling. -/
theorem Operand.outcome_readAt_eq_ok_iff_isReadAs {op : Opcode} {position : Nat} {kind : Kind}
    {token : Text} {x : Operand} :
    (readAt op position kind token).outcome = .ok x ↔ x.IsReadAs kind token := by
  rw [outcome_readAt_eq_ok_iff]
  constructor
  · rintro ⟨haccepts, hx, rfl⟩
    exact ⟨Token.hasKind_iff.2 ⟨x, haccepts, hx, rfl⟩, outcome_read_spelling haccepts hx, haccepts⟩
  · rintro ⟨-, hread, haccepts⟩
    exact ⟨haccepts, wellSpelled_of_outcome_read hread⟩

namespace Instruction

variable {op : Opcode} {position : Nat} {kinds : List Kind} {word : Text} {tokens : List Text}

/-- What becomes of a word and the tokens after it. -/
inductive Verdict (word : Text) (tokens : List Text) : Except Fault Instruction → Prop
  /-- No operation has the name, whatever the tokens are. -/
  | unknownOpcode (hop : ∀ op : Opcode, op.name ≠ word.upper) :
      Verdict word tokens (.error (.unknownOpcode word.upper))
  /-- The operation takes another number of operands, whatever the tokens are. -/
  | wrongArity {op : Opcode} (hop : op.name = word.upper) (hlength : tokens.length ≠ op.arity) :
      Verdict word tokens (.error (.wrongArity op op.arity tokens.length))
  /-- Every token is of the kind that is expected in its place, and read as such. -/
  | instruction {op : Opcode} {operands : List Operand} (hop : op.name = word.upper)
      (hlength : tokens.length = op.arity)
      (hoperands : List.Forall₂ (fun (place : Kind × Text) x ↦ x.IsReadAs place.1 place.2)
        (op.signature.zip tokens) operands) :
      Verdict word tokens (.ok ⟨op, operands⟩)
  /-- The first token that is not of the kind expected in its place is no operand. -/
  | invalidOperand {op : Opcode} {i : Nat} {kind : Kind} {token : Text} (hop : op.name = word.upper)
      (hlength : tokens.length = op.arity) (h : FirstMisfit op.signature tokens i kind token)
      (hinvalid : Token.IsInvalid token) :
      Verdict word tokens (.error (.invalidOperand token))
  /-- The first token that is not of the kind expected in its place is an operand of the category
  `actual`. -/
  | operandMismatch {op : Opcode} {i : Nat} {kind : Kind} {token : Text} {actual : Category}
      (hop : op.name = word.upper) (hlength : tokens.length = op.arity)
      (h : FirstMisfit op.signature tokens i kind token) (hactual : Token.IsJust actual token) :
      Verdict word tokens (.error (.operandMismatch op (i + 1) kind actual))

/-! ### The operands -/

/-- Reading tokens is reading each of them where it stands. -/
theorem outcome_readOperands_eq_ok_iff_isReadAs (hlength : tokens.length = kinds.length)
    {xs : List Operand} : (readOperands op position kinds tokens).outcome = .ok xs ↔
      List.Forall₂ (fun (place : Kind × Text) x ↦ x.IsReadAs place.1 place.2)
        (kinds.zip tokens) xs := by
  induction kinds generalizing position tokens xs with
  | nil =>
    obtain rfl := List.length_eq_zero_iff.1 hlength
    simp [readOperands, eq_comm]
  | cons kind kinds ih =>
    obtain ⟨token, tokens, rfl⟩ := List.exists_cons_of_length_eq_add_one hlength
    have ih := fun ys ↦ @ih (position + 1) tokens (by simpa using hlength) ys
    rw [List.zip_cons_cons, List.forall₂_cons_left_iff]
    simp only [readOperands, Logged.outcome_bind_eq_ok_iff,
      Operand.outcome_readAt_eq_ok_iff_isReadAs, ih, Logged.outcome_pure, Except.ok.injEq]
    constructor
    · rintro ⟨x, hx, ys, hys, rfl⟩
      exact ⟨x, ys, hx, hys, rfl⟩
    · rintro ⟨x, ys, hx, hys, rfl⟩
      exact ⟨x, hx, ys, hys, rfl⟩

/-- **Where there is a first token that does not fit, its fault is the one reported.** -/
theorem outcome_readOperands_of_firstMisfit {i : Nat} {kind : Kind} {token : Text}
    (h : FirstMisfit kinds tokens i kind token) :
    (readOperands op position kinds tokens).outcome =
      .error (.ofMisfit op (position + i) kind token) := by
  induction i generalizing position kinds tokens with
  | zero =>
    obtain ⟨kinds, tokens, rfl, rfl⟩ := h.of_zero
    rw [readOperands]
    exact Logged.outcome_bind_eq_error_iff.2
      (.inl (Operand.outcome_readAt_of_hasKind_eq_false h.misfit))
  | succ i ih =>
    obtain ⟨kind', kinds, token', tokens, rfl, rfl, hkind, hrest⟩ := h.of_succ
    obtain ⟨x, hx⟩ := Token.hasKind_iff.1 hkind
    have hrest : (readOperands op (position + 1) kinds tokens).outcome =
        .error (.ofMisfit op (position + 1 + i) kind token) := ih hrest
    rw [Nat.add_assoc, Nat.add_comm 1 i] at hrest
    rw [readOperands]
    refine Logged.outcome_bind_eq_error_iff.2 (.inr ⟨x, Operand.outcome_readAt_eq_ok_iff.2 hx, ?_⟩)
    exact Logged.outcome_bind_eq_error_iff.2 (.inl hrest)

/-! ### The instruction -/

/-- Once the operation is known, the number of operands is looked at before the first of them. -/
theorem outcome_read_of_name (hop : op.name = word.upper) : (read word tokens).outcome =
    if tokens.length = op.arity then
      (readOperands op 1 op.signature tokens).outcome.map fun xs ↦ ⟨op, xs⟩
    else .error (.wrongArity op op.arity tokens.length) := by
  rw [read, Logged.outcome_bind, Logged.outcome_ofExcept, Opcode.ofWord_eq_ok_iff.2 hop]
  show (if tokens.length = op.arity then _ else _ : Logged Event Fault Instruction).outcome = _
  split_ifs
  · rw [Logged.outcome_bind]
    cases (readOperands op 1 op.signature tokens).outcome with
    | ok xs => rfl
    | error fault => rfl
  · rfl

/-- With the right number of operands all depends on the operands. -/
theorem outcome_read_of_length_eq (hop : op.name = word.upper)
    (hlength : tokens.length = op.arity) : (read word tokens).outcome =
      (readOperands op 1 op.signature tokens).outcome.map fun xs ↦ ⟨op, xs⟩ := by
  rw [outcome_read_of_name hop, if_pos hlength]

/-- What the verdict is, the reader comes to. -/
theorem Verdict.outcome_eq {r : Except Fault Instruction} (h : Verdict word tokens r) :
    (read word tokens).outcome = r := by
  cases h with
  | unknownOpcode hop =>
    rw [read, Logged.outcome_bind, Logged.outcome_ofExcept, Opcode.ofWord_eq_error_iff.2 ⟨rfl, hop⟩]
    rfl
  | wrongArity hop hlength =>
    rw [outcome_read_of_name hop, if_neg hlength]
  | instruction hop hlength hoperands =>
    rw [outcome_read_of_length_eq hop hlength,
      (outcome_readOperands_eq_ok_iff_isReadAs hlength).2 hoperands]
    rfl
  | @invalidOperand op i kind token hop hlength h hinvalid =>
    rw [outcome_read_of_length_eq hop hlength, outcome_readOperands_of_firstMisfit h,
      Fault.ofMisfit_of_isInvalid hinvalid]
    rfl
  | @operandMismatch op i kind token actual hop hlength h hactual =>
    rw [outcome_read_of_length_eq hop hlength, outcome_readOperands_of_firstMisfit h,
      Fault.ofMisfit_of_isJust hactual, Nat.add_comm 1 i]
    rfl

/-- There is a verdict on every word and tokens. -/
theorem verdict_outcome_read (word : Text) (tokens : List Text) :
    Verdict word tokens (read word tokens).outcome := by
  cases h : (read word tokens).outcome with
  | ok i =>
    obtain ⟨hop, hi, hmap⟩ := outcome_read_eq_ok_iff.1 h
    have hlength : tokens.length = i.opcode.arity := by
      rw [← hmap, List.length_map, Opcode.arity, hi.accepts.length_eq]
    have hread : (readOperands i.opcode 1 i.opcode.signature tokens).outcome = .ok i.operands :=
      (outcome_readOperands_eq_ok_iff hlength).2 ⟨hi.accepts, hi.wellSpelled, hmap⟩
    exact .instruction hop hlength ((outcome_readOperands_eq_ok_iff_isReadAs hlength).1 hread)
  | error fault =>
    rcases isFault_of_outcome_read h with hop | ⟨hop, hlength⟩ |
      @⟨op, i, kind, token, hop, hlength, hmisfit⟩
    · exact .unknownOpcode hop
    · exact .wrongArity hop hlength
    · cases hof : Operand.ofToken token with
      | ok x =>
        have hjust := Token.isJust_of_ofToken hof
        rw [Fault.ofMisfit_of_isJust hjust]
        exact .operandMismatch hop hlength hmisfit hjust
      | error _ =>
        have hinvalid := Token.isInvalid_of_ofToken hof
        rw [Fault.ofMisfit_of_isInvalid hinvalid]
        exact .invalidOperand hop hlength hmisfit hinvalid

/-- **Reading comes to the verdict on a word and the tokens after it**, and to no other. -/
theorem outcome_read_eq_iff {r : Except Fault Instruction} :
    (read word tokens).outcome = r ↔ Verdict word tokens r := by
  constructor
  · rintro rfl
    exact verdict_outcome_read word tokens
  · exact Verdict.outcome_eq

/-- Everything is wrong with the first of these words, and less with each that follows. -/
example : (read "jmp".toList ["1".toList, "2".toList]).outcome =
      .error (.unknownOpcode "JMP".toList) ∧
    (read "jump".toList ["1".toList, "2".toList]).outcome = .error (.wrongArity .jump 1 2) ∧
    (read "read".toList ["int".toList, "1".toList]).outcome =
      .error (.operandMismatch .read 1 .var .label) ∧
    (read "read".toList ["GF@a".toList, "1".toList]).outcome = .error (.invalidOperand "1".toList) ∧
    (read "read".toList ["GF@a".toList, "int".toList]).outcome =
      .ok ⟨.read, [.var ⟨.globals, "a".toList⟩, .type .int]⟩ := by decide

end Instruction

end ThreeAddress
