import ThreeAddress.Operand.Reading
import ThreeAddress.Proofs.Operand.Spelling

/-!
# Reading an operand gives the one that is spelled

Reading looks at a token twice: its class is found, and then the operand is made from its parts.
The second look never fails on what the first let pass, so that reading inverts spelling. Without
an expected kind the value is *the* well spelled operand with that spelling which is no name of a
type (`ofToken_eq_ok_iff`); with one it is the well spelled operand of that kind
(`ofExpected_eq_some_iff`). A token is invalid when it is in no class at all
(`ofToken_eq_error_iff`), a question in which the expected kind has no say.
-/

namespace ThreeAddress

open Text

/-! ### Taking a spelling apart -/

/-- The spelling of a variable is read as the variable. -/
theorem Variable.ofToken?_spelling (v : Variable) : ofToken? v.spelling = some v := by
  have hcode : '@' ∉ v.frame.code := by cases v.frame <;> decide
  simp [ofToken?, spelling, splitAtSign?_append hcode]

/-- The spelling of a literal is read as the literal, once its form is known. -/
theorem Literal.ofToken?_spelling (l : Literal) : ofToken? l.form l.spelling = some l := by
  have htag : after? l.form.tag l.spelling = some ('@' :: l.payload) := after?_eq_some_iff.2 rfl
  have hat : after? ['@'] ('@' :: l.payload) = some l.payload := after?_eq_some_iff.2 rfl
  rw [ofToken?, htag]
  simp only [Option.bind_eq_bind, Option.bind_some, hat]
  cases l with
  | bool value => cases value <;> rfl
  | nil => rfl
  | int payload base => rfl
  | string payload => rfl

namespace Operand

theorem ofVariable_spelling (v : Variable) : ofVariable v.spelling = .ok (.var v) := by
  rw [ofVariable, v.ofToken?_spelling]

theorem ofLiteral_spelling (l : Literal) : ofLiteral l.form l.spelling = .ok (.literal l) := by
  rw [ofLiteral, l.ofToken?_spelling]

theorem ofTypeName_spelling (t : TypeName) : ofTypeName t.spelling = .ok (.type t) := by
  rw [ofTypeName, TypeName.ofText?_spelling]

end Operand

/-! ### The lexical classes -/

namespace Kind

theorem accepts_var_iff {kind : Kind} {v : Variable} :
    kind.accepts (.var v) = true ↔ kind = .var ∨ kind = .symb := by
  cases kind <;> simp [accepts, Operand.isSymb]

theorem accepts_literal_iff {kind : Kind} {l : Literal} :
    kind.accepts (.literal l) = true ↔ kind = .symb := by
  cases kind <;> simp [accepts, Operand.isSymb]

theorem accepts_label_iff {kind : Kind} {name : Text} :
    kind.accepts (.label name) = true ↔ kind = .label := by
  cases kind <;> simp [accepts, Operand.isSymb]

theorem accepts_type_iff {kind : Kind} {t : TypeName} :
    kind.accepts (.type t) = true ↔ kind = .type := by
  cases kind <;> simp [accepts, Operand.isSymb]

end Kind

namespace Token

/-- A token in the class of variables spells one. -/
theorem exists_var_of_isVariable {token : Text} (h : isVariable token = true) :
    ∃ v : Variable, (Operand.var v).WellSpelled ∧ (Operand.var v).spelling = token := by
  obtain ⟨v, rfl, hname⟩ := isVariable_iff.1 h
  exact ⟨v, isIdentifier_iff.1 hname, rfl⟩

/-- **A token is of a kind when it spells a well spelled operand of that kind.** -/
theorem hasKind_iff {kind : Kind} {token : Text} : hasKind kind token = true ↔
    ∃ x : Operand, kind.accepts x = true ∧ x.WellSpelled ∧ x.spelling = token := by
  constructor
  · intro h
    cases kind with
    | var =>
      obtain ⟨v, hv⟩ := exists_var_of_isVariable h
      exact ⟨.var v, rfl, hv⟩
    | symb =>
      rcases Bool.or_eq_true_iff.1 h with h | h
      · obtain ⟨v, hv⟩ := exists_var_of_isVariable h
        exact ⟨.var v, rfl, hv⟩
      · obtain ⟨l, hl⟩ := isLiteral_iff.1 h
        exact ⟨.literal l, rfl, hl⟩
    | label => exact ⟨.label token, rfl, isLabel_iff.1 h, rfl⟩
    | type =>
      obtain ⟨t, ht⟩ := isType_iff.1 h
      exact ⟨.type t, rfl, trivial, ht.symm⟩
  · rintro ⟨x, haccepts, hx, rfl⟩
    rcases x with v | l | name | t
    · have h : isVariable v.spelling = true := isVariable_iff.2 ⟨v, rfl, isIdentifier_iff.2 hx⟩
      rcases Kind.accepts_var_iff.1 haccepts with rfl | rfl
      · exact h
      · exact Bool.or_eq_true_iff.2 (.inl h)
    · obtain rfl := Kind.accepts_literal_iff.1 haccepts
      exact Bool.or_eq_true_iff.2 (.inr (isLiteral_iff.2 ⟨l, hx, rfl⟩))
    · obtain rfl := Kind.accepts_label_iff.1 haccepts
      exact isLabel_iff.2 hx
    · obtain rfl := Kind.accepts_type_iff.1 haccepts
      exact isType_iff.2 ⟨t, rfl⟩

/-- A token in a class is the spelling of an operand that is no name of a type: those are labels
as well. -/
theorem exists_spelling_of_hasKind {kind : Kind} {token : Text} (h : hasKind kind token = true) :
    ∃ x : Operand, x.WellSpelled ∧ x.category ≠ .type ∧ x.spelling = token := by
  obtain ⟨x, -, hx, rfl⟩ := hasKind_iff.1 h
  rcases x with v | l | name | t
  · exact ⟨.var v, hx, by simp [Operand.category], rfl⟩
  · exact ⟨.literal l, hx, by simp [Operand.category], rfl⟩
  · exact ⟨.label name, hx, by simp [Operand.category], rfl⟩
  · exact ⟨.label t.spelling, isName_spelling_typeName t, by simp [Operand.category], rfl⟩

end Token

namespace Operand

/-! ### When nothing is expected -/

/-- The spelling of an operand is read as the operand, except that the name of a type is taken for a
label. -/
theorem ofToken_spelling {x : Operand} (hx : x.WellSpelled) (hc : x.category ≠ .type) :
    ofToken x.spelling = .ok x := by
  rcases x with v | l | name | t
  · have hvar : Token.isVariable v.spelling = true :=
      Token.isVariable_iff.2 ⟨v, rfl, isIdentifier_iff.2 hx⟩
    exact (if_pos hvar).trans (ofVariable_spelling v)
  · show ofToken l.spelling = _
    have hform : Token.literalForm? l.spelling = some l.form :=
      Token.literalForm?_eq_some_iff.2 ⟨l, hx, rfl, rfl⟩
    rw [ofToken, if_neg (by simp [Token.isVariable_spelling_literal]), hform]
    exact ofLiteral_spelling l
  · show ofToken name = _
    have hat := at_not_mem_of_isName hx
    rw [ofToken, if_neg (by simp [Token.isVariable_of_at_not_mem hat]),
      Token.literalForm?_of_at_not_mem hat]
    exact if_pos (Token.isLabel_iff.2 hx)
  · exact absurd rfl hc

/-- A token of none of the kinds is refused. -/
theorem ofToken_of_forall_hasKind {token : Text}
    (h : ∀ kind, Token.hasKind kind token = false) :
    ofToken token = .error (.invalidOperand token) := by
  have hvar : Token.isVariable token = false := h .var
  have hliteral : Token.literalForm? token = none := by
    have := h .symb
    rw [Token.hasKind, hvar, Bool.false_or, Token.isLiteral] at this
    simpa using this
  have hlabel : Token.isLabel token = false := h .label
  have htype : Token.isType token = false := h .type
  simp [ofToken, hvar, hliteral, hlabel, htype]

/-- **Without an expected kind a token is read as the operand that it spells**, and as a label
where it is also the name of a type. -/
theorem ofToken_eq_ok_iff {token : Text} {x : Operand} :
    ofToken token = .ok x ↔ x.WellSpelled ∧ x.category ≠ .type ∧ x.spelling = token := by
  constructor
  · intro h
    by_cases hkind : ∃ kind, Token.hasKind kind token = true
    · obtain ⟨kind, hkind⟩ := hkind
      obtain ⟨y, hy, hc, rfl⟩ := Token.exists_spelling_of_hasKind hkind
      rw [ofToken_spelling hy hc] at h
      obtain rfl := Except.ok.inj h
      exact ⟨hy, hc, rfl⟩
    · rw [ofToken_of_forall_hasKind (by simpa using hkind)] at h
      exact absurd h (by simp)
  · rintro ⟨hx, hc, rfl⟩
    exact ofToken_spelling hx hc

/-- **A token is invalid exactly when it is in no class.** There is no other fault. -/
theorem ofToken_eq_error_iff {token : Text} {fault : Fault} :
    ofToken token = .error fault ↔
      fault = .invalidOperand token ∧ ∀ kind, Token.hasKind kind token = false := by
  constructor
  · intro h
    by_cases hkind : ∃ kind, Token.hasKind kind token = true
    · obtain ⟨kind, hkind⟩ := hkind
      obtain ⟨x, hx, hc, rfl⟩ := Token.exists_spelling_of_hasKind hkind
      rw [ofToken_spelling hx hc] at h
      exact absurd h (by simp)
    · have hkind : ∀ kind, Token.hasKind kind token = false := by simpa using hkind
      rw [ofToken_of_forall_hasKind hkind] at h
      exact ⟨(Except.error.inj h).symm, hkind⟩
  · rintro ⟨rfl, hkind⟩
    exact ofToken_of_forall_hasKind hkind

/-! ### When a kind is expected -/

/-- The spelling of an operand is read as the operand where its kind is expected, also if it is the
name of a type. -/
theorem ofExpected_spelling {kind : Kind} {x : Operand} (haccepts : kind.accepts x = true)
    (hx : x.WellSpelled) : ofExpected x.spelling kind = .ok (some x) := by
  rcases x with v | l | name | t
  · have hvar : Token.isVariable v.spelling = true :=
      Token.isVariable_iff.2 ⟨v, rfl, isIdentifier_iff.2 hx⟩
    have hof : (ofVariable v.spelling).map some = .ok (some (.var v)) := by
      rw [ofVariable_spelling, Except.map]
    rcases Kind.accepts_var_iff.1 haccepts with rfl | rfl
    · exact (if_pos hvar).trans hof
    · exact (if_pos hvar).trans hof
  · obtain rfl := Kind.accepts_literal_iff.1 haccepts
    show ofExpected l.spelling .symb = _
    have hform : Token.literalForm? l.spelling = some l.form :=
      Token.literalForm?_eq_some_iff.2 ⟨l, hx, rfl, rfl⟩
    rw [ofExpected, if_neg (by simp [Token.isVariable_spelling_literal]), hform]
    simp only [ofLiteral_spelling, Except.map]
  · obtain rfl := Kind.accepts_label_iff.1 haccepts
    exact if_pos (Token.isLabel_iff.2 hx)
  · obtain rfl := Kind.accepts_type_iff.1 haccepts
    show ofExpected t.spelling .type = _
    rw [ofExpected, if_pos (Token.isType_iff.2 ⟨t, rfl⟩), ofTypeName_spelling, Except.map]

/-- A token of another kind is passed on to who reads without a hint. -/
theorem ofExpected_of_hasKind_eq_false {kind : Kind} {token : Text}
    (h : Token.hasKind kind token = false) : ofExpected token kind = .ok none := by
  cases kind with
  | var => exact if_neg (by simpa [Token.hasKind] using h)
  | symb =>
    obtain ⟨hvar, hliteral⟩ := Bool.or_eq_false_iff.1 h
    have hform : Token.literalForm? token = none := by simpa [Token.isLiteral] using hliteral
    simp [ofExpected, hvar, hform]
  | label => exact if_neg (by simpa [Token.hasKind] using h)
  | type => exact if_neg (by simpa [Token.hasKind] using h)

/-- **Where a kind is expected, a token is read as the operand of that kind that it spells.** -/
theorem ofExpected_eq_some_iff {kind : Kind} {token : Text} {x : Operand} :
    ofExpected token kind = .ok (some x) ↔
      kind.accepts x = true ∧ x.WellSpelled ∧ x.spelling = token := by
  constructor
  · intro h
    cases hkind : Token.hasKind kind token with
    | true =>
      obtain ⟨y, haccepts, hy, rfl⟩ := Token.hasKind_iff.1 hkind
      rw [ofExpected_spelling haccepts hy] at h
      obtain rfl := Option.some.inj (Except.ok.inj h)
      exact ⟨haccepts, hy, rfl⟩
    | false =>
      rw [ofExpected_of_hasKind_eq_false hkind] at h
      exact absurd h (by simp)
  · rintro ⟨haccepts, hx, rfl⟩
    exact ofExpected_spelling haccepts hx

/-- Without a hint a class is noted on the way, which does not change the outcome. -/
@[simp] theorem outcome_readAny (token : Text) : (readAny token).outcome = ofToken token := by
  rw [readAny, Logged.outcome_bind, Logged.outcome_ofExcept]
  cases ofToken token with
  | error fault => rfl
  | ok x => rfl

/-- With the right hint the spelling of an operand is read as the operand. -/
theorem outcome_read_spelling {kind : Kind} {x : Operand} (haccepts : kind.accepts x = true)
    (hx : x.WellSpelled) : (read x.spelling (some kind)).outcome = .ok x := by
  rw [read, Logged.outcome_bind, Logged.outcome_ofExcept, ofExpected_spelling haccepts hx]
  rfl

/-- The expected kind has no influence on a token that is not of it. -/
theorem outcome_read_of_hasKind_eq_false {kind : Kind} {token : Text}
    (h : Token.hasKind kind token = false) :
    (read token (some kind)).outcome = ofToken token := by
  rw [read, Logged.outcome_bind, Logged.outcome_ofExcept, ofExpected_of_hasKind_eq_false h]
  exact outcome_readAny token

/-- **What is read is well spelled, and spelled by the token**, whatever is expected. -/
theorem wellSpelled_of_outcome_read {token : Text} {expected? : Option Kind} {x : Operand}
    (h : (read token expected?).outcome = .ok x) : x.WellSpelled ∧ x.spelling = token := by
  cases expected? with
  | none =>
    obtain ⟨hx, -, hspelling⟩ := ofToken_eq_ok_iff.1 ((outcome_readAny token).symm.trans h)
    exact ⟨hx, hspelling⟩
  | some kind =>
    cases hkind : Token.hasKind kind token with
    | true =>
      obtain ⟨y, haccepts, hy, rfl⟩ := Token.hasKind_iff.1 hkind
      rw [outcome_read_spelling haccepts hy] at h
      obtain rfl := Except.ok.inj h
      exact ⟨hy, rfl⟩
    | false =>
      rw [outcome_read_of_hasKind_eq_false hkind] at h
      obtain ⟨hx, -, hspelling⟩ := ofToken_eq_ok_iff.1 h
      exact ⟨hx, hspelling⟩

end Operand

end ThreeAddress
