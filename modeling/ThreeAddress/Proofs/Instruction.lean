import Mathlib.Data.List.Forall2
import ThreeAddress.Instruction
import ThreeAddress.Proofs.Operand.Reading

/-!
# Reading an instruction

A *well formed* instruction has an operand of the expected kind in every position of its signature,
and each could have come from a source. `outcome_read_eq_ok_iff` says that reading accepts exactly
the words of the well formed instructions, with the operation in any letter case, and inverts
writing on them.

Where it fails, `IsFault` says which fault is reported: an unknown operation before a wrong number
of operands before the first operand that does not fit. What is wrong with that operand depends on
its token alone, see `Fault.ofMisfit`.
-/

namespace ThreeAddress

/-! ### One operand -/

/-- The fault of a token at a position where the kind is expected and the token is not of it. -/
def Fault.ofMisfit (op : Opcode) (position : Nat) (kind : Kind) (token : Text) : Fault :=
  match Operand.ofToken token with
  | .ok x => .operandMismatch op position kind x.category
  | .error fault => fault

namespace Operand

variable {op : Opcode} {position : Nat} {kind : Kind} {token : Text}

/-- The spelling of an operand is read as the operand wherever its kind is expected. -/
theorem outcome_readAt_spelling {x : Operand} (haccepts : kind.accepts x = true)
    (hx : x.WellSpelled) : (readAt op position kind x.spelling).outcome = .ok x := by
  rw [readAt, Logged.outcome_bind, outcome_read_spelling haccepts hx]
  show (if kind.accepts x = true then _ else _ : Logged Event Fault Operand).outcome = _
  rw [if_pos haccepts, Logged.outcome_pure]

/-- A token that is not of the kind is a misfit, whether it is of another kind or of none. -/
theorem outcome_readAt_of_hasKind_eq_false (h : Token.hasKind kind token = false) :
    (readAt op position kind token).outcome = .error (.ofMisfit op position kind token) := by
  rw [readAt, Logged.outcome_bind, outcome_read_of_hasKind_eq_false h, Fault.ofMisfit]
  cases hof : ofToken token with
  | error fault => rfl
  | ok x =>
    -- the operand is not accepted, for then the token would be of the kind
    have haccepts : ¬kind.accepts x = true := by
      intro haccepts
      obtain ⟨hx, -, hspelling⟩ := ofToken_eq_ok_iff.1 hof
      rw [Token.hasKind_iff.2 ⟨x, haccepts, hx, hspelling⟩] at h
      exact absurd h (by simp)
    show (if kind.accepts x = true then _ else _ : Logged Event Fault Operand).outcome = _
    rw [if_neg haccepts, Logged.outcome_ofExcept]

/-- A token is read as an operand that the kind accepts and of which it is the spelling. -/
theorem outcome_readAt_eq_ok_iff {x : Operand} : (readAt op position kind token).outcome = .ok x ↔
    kind.accepts x = true ∧ x.WellSpelled ∧ x.spelling = token := by
  constructor
  · intro h
    cases hkind : Token.hasKind kind token with
    | true =>
      obtain ⟨y, haccepts, hy, rfl⟩ := Token.hasKind_iff.1 hkind
      rw [outcome_readAt_spelling haccepts hy] at h
      obtain rfl := Except.ok.inj h
      exact ⟨haccepts, hy, rfl⟩
    | false =>
      rw [outcome_readAt_of_hasKind_eq_false hkind] at h
      exact absurd h (by simp)
  · rintro ⟨haccepts, hx, rfl⟩
    exact outcome_readAt_spelling haccepts hx

/-- A token fails where its kind is not the one that is expected, and for no other reason. -/
theorem outcome_readAt_eq_error_iff {fault : Fault} :
    (readAt op position kind token).outcome = .error fault ↔
      Token.hasKind kind token = false ∧ fault = .ofMisfit op position kind token := by
  cases hkind : Token.hasKind kind token with
  | true =>
    obtain ⟨x, haccepts, hx, rfl⟩ := Token.hasKind_iff.1 hkind
    simp [outcome_readAt_spelling haccepts hx]
  | false => simp [outcome_readAt_of_hasKind_eq_false hkind, eq_comm]

end Operand

/-! ### The operands -/

/-- At index `i` stands the first token that is not of the kind expected of it. -/
structure FirstMisfit (kinds : List Kind) (tokens : List Text) (i : Nat) (kind : Kind)
    (token : Text) : Prop where
  kind_eq : kinds[i]? = some kind
  token_eq : tokens[i]? = some token
  misfit : Token.hasKind kind token = false
  before : ∀ j < i, ∀ kind token, kinds[j]? = some kind → tokens[j]? = some token →
    Token.hasKind kind token = true

/-- A token that fits in front moves the first misfit by one place. -/
theorem FirstMisfit.cons {kinds : List Kind} {tokens : List Text} {i : Nat} {kind kind' : Kind}
    {token token' : Text} (h : FirstMisfit kinds tokens i kind token)
    (hfirst : Token.hasKind kind' token' = true) :
    FirstMisfit (kind' :: kinds) (token' :: tokens) (i + 1) kind token where
  kind_eq := h.kind_eq
  token_eq := h.token_eq
  misfit := h.misfit
  before := by
    rintro (- | j) hj k t hk ht
    · obtain rfl : kind' = k := Option.some.inj hk
      obtain rfl : token' = t := Option.some.inj ht
      exact hfirst
    · exact h.before j (by omega) k t hk ht

/-- The first token fits, and the misfit is the first of those behind it. -/
theorem FirstMisfit.of_succ {kinds : List Kind} {tokens : List Text} {i : Nat} {kind : Kind}
    {token : Text} (h : FirstMisfit kinds tokens (i + 1) kind token) :
    ∃ kind' kinds' token' tokens', kinds = kind' :: kinds' ∧ tokens = token' :: tokens' ∧
      Token.hasKind kind' token' = true ∧ FirstMisfit kinds' tokens' i kind token := by
  cases kinds with
  | nil => exact absurd h.kind_eq (by simp)
  | cons kind' kinds =>
    cases tokens with
    | nil => exact absurd h.token_eq (by simp)
    | cons token' tokens =>
      exact ⟨kind', kinds, token', tokens, rfl, rfl, h.before 0 (by omega) _ _ rfl rfl,
        h.kind_eq, h.token_eq, h.misfit, fun j hj ↦ h.before (j + 1) (by omega)⟩

theorem FirstMisfit.of_zero {kinds : List Kind} {tokens : List Text} {kind : Kind} {token : Text}
    (h : FirstMisfit kinds tokens 0 kind token) :
    ∃ kinds' tokens', kinds = kind :: kinds' ∧ tokens = token :: tokens' := by
  obtain ⟨kinds', hkinds⟩ := List.head?_eq_some_iff.1 (List.head?_eq_getElem? ▸ h.kind_eq)
  obtain ⟨tokens', htokens⟩ := List.head?_eq_some_iff.1 (List.head?_eq_getElem? ▸ h.token_eq)
  exact ⟨kinds', tokens', hkinds, htokens⟩

namespace Instruction

variable {op : Opcode} {position : Nat} {kinds : List Kind} {tokens : List Text}

/-- Tokens are read as operands one by one. The position only counts for failures. -/
theorem outcome_readOperands_eq_ok_iff (hlength : tokens.length = kinds.length)
    {xs : List Operand} : (readOperands op position kinds tokens).outcome = .ok xs ↔
      List.Forall₂ (fun kind x ↦ kind.accepts x = true) kinds xs ∧
        (∀ x ∈ xs, x.WellSpelled) ∧ xs.map Operand.spelling = tokens := by
  induction kinds generalizing position tokens xs with
  | nil =>
    obtain rfl := List.length_eq_zero_iff.1 hlength
    constructor
    · intro h
      obtain rfl : [] = xs := Except.ok.inj h
      simp
    · rintro ⟨h, -⟩
      rw [List.forall₂_nil_left_iff.1 h]
      rfl
  | cons kind kinds ih =>
    obtain ⟨token, tokens, rfl⟩ := List.exists_cons_of_length_eq_add_one hlength
    have ih := fun ys ↦ @ih (position + 1) tokens (by simpa using hlength) ys
    simp only [readOperands, Logged.outcome_bind_eq_ok_iff, Operand.outcome_readAt_eq_ok_iff, ih,
      Logged.outcome_pure, Except.ok.injEq]
    constructor
    · rintro ⟨x, ⟨haccepts, hx, rfl⟩, ys, ⟨hys, hspelled, rfl⟩, rfl⟩
      exact ⟨.cons haccepts hys, List.forall_mem_cons.2 ⟨hx, hspelled⟩, rfl⟩
    · rintro ⟨h, hspelled, hmap⟩
      obtain ⟨x, ys, haccepts, hys, rfl⟩ := List.forall₂_cons_left_iff.1 h
      obtain ⟨hx, hspelled⟩ := List.forall_mem_cons.1 hspelled
      obtain ⟨hfirst, hrest⟩ := List.cons.inj hmap
      exact ⟨x, ⟨haccepts, hx, hfirst⟩, ys, ⟨hys, hspelled, hrest⟩, rfl⟩

/-- Where the operands cannot be read, the fault is that of the first token that does not fit. -/
theorem exists_firstMisfit_of_outcome_readOperands (hlength : tokens.length = kinds.length)
    {fault : Fault} (h : (readOperands op position kinds tokens).outcome = .error fault) :
    ∃ i kind token, FirstMisfit kinds tokens i kind token ∧
      fault = .ofMisfit op (position + i) kind token := by
  induction kinds generalizing position tokens with
  | nil =>
    obtain rfl := List.length_eq_zero_iff.1 hlength
    exact absurd h (by simp [readOperands])
  | cons kind kinds ih =>
    obtain ⟨token, tokens, rfl⟩ := List.exists_cons_of_length_eq_add_one hlength
    rw [readOperands] at h
    rcases Logged.outcome_bind_eq_error_iff.1 h with h | ⟨x, hx, h⟩
    · obtain ⟨hkind, rfl⟩ := Operand.outcome_readAt_eq_error_iff.1 h
      exact ⟨0, kind, token, ⟨rfl, rfl, hkind, by simp⟩, rfl⟩
    · rcases Logged.outcome_bind_eq_error_iff.1 h with h | ⟨ys, -, h⟩
      · -- the first token fits, so the misfit is one place further on than in the rest
        obtain ⟨i, kind', token', hfirst, rfl⟩ := ih (by simpa using hlength) h
        have hkind : Token.hasKind kind token = true :=
          Token.hasKind_iff.2 ⟨x, Operand.outcome_readAt_eq_ok_iff.1 hx⟩
        refine ⟨i + 1, kind', token', hfirst.cons hkind, ?_⟩
        rw [Nat.add_assoc, Nat.add_comm 1 i]
      · exact absurd h (by simp)

/-! ### The instruction -/

/-- Every operand is of the kind that is expected in its position, and well spelled. -/
structure WellFormed (i : Instruction) : Prop where
  accepts : List.Forall₂ (fun kind x ↦ kind.accepts x = true) i.opcode.signature i.operands
  wellSpelled : ∀ x ∈ i.operands, x.WellSpelled

/-- The fault is the one for which the word and the tokens after it are no instruction. -/
inductive IsFault (word : Text) (tokens : List Text) : Fault → Prop
  | unknownOpcode (hop : ∀ op : Opcode, op.name ≠ word.upper) :
      IsFault word tokens (.unknownOpcode word.upper)
  | wrongArity {op : Opcode} (hop : op.name = word.upper) (hlength : tokens.length ≠ op.arity) :
      IsFault word tokens (.wrongArity op op.arity tokens.length)
  | misfit {op : Opcode} {i : Nat} {kind : Kind} {token : Text} (hop : op.name = word.upper)
      (hlength : tokens.length = op.arity) (h : FirstMisfit op.signature tokens i kind token) :
      IsFault word tokens (.ofMisfit op (i + 1) kind token)

end Instruction

/-- A word names an operation if its upper case form is the name. -/
theorem Opcode.ofWord_eq_ok_iff {word : Text} {op : Opcode} :
    ofWord word = .ok op ↔ op.name = word.upper := by
  rw [← ofWord?_eq_some_iff, ofWord]
  cases ofWord? word <;> simp

/-- A word that names no operation is reported in upper case. -/
theorem Opcode.ofWord_eq_error_iff {word : Text} {fault : Fault} :
    ofWord word = .error fault ↔
      fault = .unknownOpcode word.upper ∧ ∀ op : Opcode, op.name ≠ word.upper := by
  simp only [ne_eq, ← ofWord?_eq_some_iff, ← Option.eq_none_iff_forall_ne_some, ofWord]
  cases ofWord? word <;> simp [eq_comm]

namespace Instruction

variable {word : Text} {tokens : List Text}

/-- **Reading accepts the words of the well formed instructions**, with the operation in any letter
case. -/
theorem outcome_read_eq_ok_iff {i : Instruction} : (read word tokens).outcome = .ok i ↔
    i.opcode.name = word.upper ∧ i.WellFormed ∧ i.operands.map Operand.spelling = tokens := by
  rw [read, Logged.outcome_bind_eq_ok_iff]
  simp only [Logged.outcome_ofExcept, Opcode.ofWord_eq_ok_iff]
  constructor
  · rintro ⟨op, hop, h⟩
    split_ifs at h with hlength
    · obtain ⟨xs, hxs, h⟩ := Logged.outcome_bind_eq_ok_iff.1 h
      obtain rfl : ⟨op, xs⟩ = i := Except.ok.inj h
      obtain ⟨haccepts, hspelled, hmap⟩ := (outcome_readOperands_eq_ok_iff hlength).1 hxs
      exact ⟨hop, ⟨haccepts, hspelled⟩, hmap⟩
    · exact absurd h (by simp)
  · rintro ⟨hop, hi, rfl⟩
    have hlength : (i.operands.map Operand.spelling).length = i.opcode.arity := by
      rw [List.length_map, Opcode.arity, hi.accepts.length_eq]
    refine ⟨i.opcode, hop, ?_⟩
    rw [if_pos hlength]
    have hxs : (readOperands i.opcode 1 i.opcode.signature
        (i.operands.map Operand.spelling)).outcome = .ok i.operands :=
      (outcome_readOperands_eq_ok_iff hlength).2 ⟨hi.accepts, hi.wellSpelled, rfl⟩
    exact Logged.outcome_bind_eq_ok_iff.2 ⟨i.operands, hxs, rfl⟩

/-- **Where reading fails, the fault is the first one** in the order operation, number of operands,
operands from left to right. -/
theorem isFault_of_outcome_read {fault : Fault} (h : (read word tokens).outcome = .error fault) :
    IsFault word tokens fault := by
  rw [read] at h
  rcases Logged.outcome_bind_eq_error_iff.1 h with h | ⟨op, hop, h⟩
  · obtain ⟨rfl, hop⟩ := Opcode.ofWord_eq_error_iff.1 h
    exact .unknownOpcode hop
  · have hop : op.name = word.upper := Opcode.ofWord_eq_ok_iff.1 hop
    split_ifs at h with hlength
    · rcases Logged.outcome_bind_eq_error_iff.1 h with h | ⟨xs, -, h⟩
      · obtain ⟨i, kind, token, hfirst, rfl⟩ :=
          exists_firstMisfit_of_outcome_readOperands hlength h
        rw [Nat.add_comm 1 i]
        exact .misfit hop hlength hfirst
      · exact absurd h (by simp)
    · obtain rfl : Fault.wrongArity op op.arity tokens.length = fault := Except.error.inj h
      exact .wrongArity hop hlength

end Instruction

end ThreeAddress
