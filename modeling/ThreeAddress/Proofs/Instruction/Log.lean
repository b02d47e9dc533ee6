import ThreeAddress.Proofs.Instruction

/-!
# What reading an instruction notes

Operands are read from left to right, and each that is of the kind expected of it is noted as such.
So the log of an instruction that is read tells its tokens and its signature (`log_read_of_ok`), and
where reading fails, the log tells how far it came. An operation that does not exist or does not
take so many operands fails before any operand, with nothing noted; at the first token that does not
fit, the tokens before it have been noted (`NotesFault`).

The token that does not fit is read once more, as if nothing were expected. If it is an operand
after all, that is noted too, and it is the last that is noted: since the token is not of the
expected kind, the operand is not accepted. If it is none, there is nothing to note.
-/

namespace ThreeAddress

/-- The tokens are noted to be of the kinds that were expected of them. -/
def matchedEvents (kinds : List Kind) (tokens : List Text) : List Event :=
  List.zipWith (fun kind token ↦ .operandMatched token kind) kinds tokens

/-- A step that only changes the value notes nothing. -/
theorem Logged.log_bind_pure {ω ε α β : Type} (x : Logged ω ε α) (f : α → β) :
    (x >>= fun a ↦ pure (f a)).log = x.log := by
  cases h : x.outcome with
  | ok a => rw [log_bind_ok h, log_pure, List.append_nil]
  | error e => exact log_bind_error h _

/-! ### One operand -/

namespace Operand

variable {op : Opcode} {position : Nat} {kind : Kind} {token : Text}

/-- A token that is classified without a hint is noted with its class. -/
theorem log_readAny_of_ok {x : Operand} (h : ofToken token = .ok x) :
    (readAny token).log = [.operandClassified token x.tag] := by
  rw [readAny, h]
  rfl

/-- A token of no class is not noted. -/
theorem log_readAny_of_error {fault : Fault} (h : ofToken token = .error fault) :
    (readAny token).log = [] := by
  rw [readAny, h]
  rfl

/-- A token of the kind that is expected is noted as a match, and is not classified. -/
theorem log_read_of_hasKind (h : Token.hasKind kind token = true) :
    (read token (some kind)).log = [.operandMatched token kind] := by
  obtain ⟨x, haccepts, hx, rfl⟩ := Token.hasKind_iff.1 h
  rw [read, ofExpected_spelling haccepts hx]
  rfl

/-- A token of another kind is classified as if nothing had been expected. -/
theorem log_read_of_hasKind_eq_false (h : Token.hasKind kind token = false) :
    (read token (some kind)).log = (readAny token).log := by
  rw [read, ofExpected_of_hasKind_eq_false h]
  rfl

/-- Whether the operand is accepted is not noted. -/
theorem log_readAt : (readAt op position kind token).log = (read token (some kind)).log := by
  cases h : (read token (some kind)).outcome with
  | error fault => exact Logged.log_bind_error h _
  | ok x =>
    rw [readAt, Logged.log_bind_ok h]
    split_ifs
    · exact List.append_nil _
    · exact List.append_nil _

end Operand

/-! ### The operands -/

namespace Instruction

variable {op : Opcode} {position : Nat} {kinds : List Kind} {tokens : List Text}

/-- When all operands are read, each of them was a match. -/
theorem log_readOperands_of_ok (hlength : tokens.length = kinds.length) {xs : List Operand}
    (h : (readOperands op position kinds tokens).outcome = .ok xs) :
    (readOperands op position kinds tokens).log = matchedEvents kinds tokens := by
  induction kinds generalizing position tokens xs with
  | nil =>
    obtain rfl := List.length_eq_zero_iff.1 hlength
    rfl
  | cons kind kinds ih =>
    obtain ⟨token, tokens, rfl⟩ := List.exists_cons_of_length_eq_add_one hlength
    rw [readOperands] at h ⊢
    obtain ⟨x, hx, h⟩ := Logged.outcome_bind_eq_ok_iff.1 h
    obtain ⟨ys, hys, -⟩ := Logged.outcome_bind_eq_ok_iff.1 h
    have hkind : Token.hasKind kind token = true :=
      Token.hasKind_iff.2 ⟨x, Operand.outcome_readAt_eq_ok_iff.1 hx⟩
    rw [Logged.log_bind_ok hx, Logged.log_bind_pure, Operand.log_readAt,
      Operand.log_read_of_hasKind hkind, ih (by simpa using hlength) hys]
    rfl

/-- The tokens before the first that does not fit are noted, and then what that one is, if it is
anything. -/
theorem log_readOperands_of_firstMisfit {i : Nat} {kind : Kind} {token : Text}
    (h : FirstMisfit kinds tokens i kind token) :
    (readOperands op position kinds tokens).log =
      (matchedEvents kinds tokens).take i ++ (Operand.readAny token).log := by
  induction i generalizing position kinds tokens with
  | zero =>
    obtain ⟨kinds, tokens, rfl, rfl⟩ := h.of_zero
    rw [readOperands,
      Logged.log_bind_error (Operand.outcome_readAt_of_hasKind_eq_false h.misfit),
      Operand.log_readAt, Operand.log_read_of_hasKind_eq_false h.misfit]
    rfl
  | succ i ih =>
    obtain ⟨kind', kinds, token', tokens, rfl, rfl, hkind, hrest⟩ := h.of_succ
    obtain ⟨x, hx⟩ := Token.hasKind_iff.1 hkind
    have hread : (Operand.readAt op position kind' token').outcome = .ok x :=
      Operand.outcome_readAt_eq_ok_iff.2 hx
    rw [readOperands, Logged.log_bind_ok hread, Logged.log_bind_pure, Operand.log_readAt,
      Operand.log_read_of_hasKind hkind, ih hrest]
    rfl

/-! ### The instruction -/

variable {word : Text}

/-- An operation that takes so many operands notes what reading these notes. -/
theorem log_read_of_ofWord (hop : op.name = word.upper) (hlength : tokens.length = op.arity) :
    (read word tokens).log = (readOperands op 1 op.signature tokens).log := by
  have hword : (Logged.ofExcept (Opcode.ofWord word) : Logged Event Fault Opcode).outcome =
      .ok op := Opcode.ofWord_eq_ok_iff.2 hop
  rw [read, Logged.log_bind_ok hword, if_pos hlength, Logged.log_bind_pure]
  rfl

/-- **An instruction that is read has noted all its tokens.** -/
theorem log_read_of_ok {i : Instruction} (h : (read word tokens).outcome = .ok i) :
    (read word tokens).log = matchedEvents i.opcode.signature tokens := by
  obtain ⟨hop, hi, rfl⟩ := outcome_read_eq_ok_iff.1 h
  have hlength : (i.operands.map Operand.spelling).length = i.opcode.signature.length := by
    rw [List.length_map, hi.accepts.length_eq]
  rw [log_read_of_ofWord hop hlength]
  exact log_readOperands_of_ok hlength
    ((outcome_readOperands_eq_ok_iff hlength).2 ⟨hi.accepts, hi.wellSpelled, rfl⟩)

/-- The fault for which the word and the tokens after it are no instruction, and what is noted until
it is found. -/
inductive NotesFault (word : Text) (tokens : List Text) : Fault → List Event → Prop
  | unknownOpcode : NotesFault word tokens (.unknownOpcode word.upper) []
  | wrongArity {op : Opcode} : NotesFault word tokens (.wrongArity op op.arity tokens.length) []
  /-- The first token that does not fit is no operand. -/
  | invalidOperand {op : Opcode} {i : Nat} {kind : Kind} {token : Text} (hop : op.name = word.upper)
      (hlength : tokens.length = op.arity) (h : FirstMisfit op.signature tokens i kind token)
      (hinvalid : ∀ kind, Token.hasKind kind token = false) :
      NotesFault word tokens (.invalidOperand token) ((matchedEvents op.signature tokens).take i)
  /-- The first token that does not fit is another operand. -/
  | operandMismatch {op : Opcode} {i : Nat} {kind : Kind} {token : Text} {x : Operand}
      (hop : op.name = word.upper) (hlength : tokens.length = op.arity)
      (h : FirstMisfit op.signature tokens i kind token) (hx : Operand.ofToken token = .ok x) :
      NotesFault word tokens (.operandMismatch op (i + 1) kind x.category)
        ((matchedEvents op.signature tokens).take i ++ [.operandClassified token x.tag])

/-- **Where reading fails, it has noted the tokens before the one that does not fit**, and of that
one what it is instead. -/
theorem notesFault_of_outcome_read {fault : Fault} (h : (read word tokens).outcome = .error fault) :
    NotesFault word tokens fault (read word tokens).log := by
  rcases isFault_of_outcome_read h with hop | @⟨op, hop, hlength⟩ |
    @⟨op, i, kind, token, hop, hlength, hmisfit⟩
  · have hlog : (read word tokens).log = [] :=
      Logged.log_bind_error (Opcode.ofWord_eq_error_iff.2 ⟨rfl, hop⟩) _
    rw [hlog]
    exact .unknownOpcode
  · have hword : (Logged.ofExcept (Opcode.ofWord word) : Logged Event Fault Opcode).outcome =
        .ok op := Opcode.ofWord_eq_ok_iff.2 hop
    have hlog : (read word tokens).log = [] := by
      rw [read, Logged.log_bind_ok hword, if_neg hlength]
      rfl
    rw [hlog]
    exact .wrongArity
  · -- what the token is instead is noted behind the matches, if it is anything
    rw [log_read_of_ofWord hop hlength, log_readOperands_of_firstMisfit hmisfit, Fault.ofMisfit]
    cases hof : Operand.ofToken token with
    | ok x =>
      rw [Operand.log_readAny_of_ok hof]
      exact .operandMismatch hop hlength hmisfit hof
    | error fault =>
      obtain ⟨rfl, hinvalid⟩ := Operand.ofToken_eq_error_iff.1 hof
      rw [Operand.log_readAny_of_error hof, List.append_nil]
      exact .invalidOperand hop hlength hmisfit hinvalid

end Instruction

end ThreeAddress
