import ThreeAddress.Proofs.Operand.Reading

/-!
# What is expected of a token

Reading asks the kind that is expected first and goes through the lexical classes afterwards. The
order decides nothing where a token is in one class only, and so it is: a token spells one operand
that is no name of a type (`Token.eq_of_hasCategory`). The names of types are the exception. They
are labels too, and read as labels unless the name of a type is expected.

`Operand.expectation` puts together what follows for reading with an expected kind and without one.
-/

namespace ThreeAddress

namespace Token

variable {token : Text} {category category' : Category}

/-- Whether the token is in the lexical class of the category. -/
def hasCategory : Category → Text → Bool
  | .var, token => isVariable token
  | .literal, token => isLiteral token
  | .label, token => isLabel token
  | .type, token => isType token

/-- A token is of a class if it spells some operand of the class. -/
theorem hasCategory_iff : hasCategory category token = true ↔
    ∃ x : Operand, x.category = category ∧ x.WellSpelled ∧ x.spelling = token := by
  constructor
  · intro h
    cases category with
    | var =>
      obtain ⟨v, hv⟩ := exists_var_of_isVariable h
      exact ⟨.var v, rfl, hv⟩
    | literal =>
      obtain ⟨l, hl⟩ := isLiteral_iff.1 h
      exact ⟨.literal l, rfl, hl⟩
    | label => exact ⟨.label token, rfl, isLabel_iff.1 h, rfl⟩
    | type =>
      obtain ⟨t, ht⟩ := isType_iff.1 h
      exact ⟨.type t, rfl, trivial, ht.symm⟩
  · rintro ⟨x, rfl, hx, rfl⟩
    cases x with
    | var v => exact isVariable_iff.2 ⟨v, rfl, isIdentifier_iff.2 hx⟩
    | literal l => exact isLiteral_iff.2 ⟨l, hx, rfl⟩
    | label name => exact isLabel_iff.2 hx
    | type t => exact isType_iff.2 ⟨t, rfl⟩

/-- **No two of the classes of variables, literals and labels have a token in common.** -/
theorem eq_of_hasCategory (hc : category ≠ .type) (hc' : category' ≠ .type)
    (h : hasCategory category token = true) (h' : hasCategory category' token = true) :
    category = category' := by
  obtain ⟨x, rfl, hx, rfl⟩ := hasCategory_iff.1 h
  obtain ⟨y, rfl, hy, hspelling⟩ := hasCategory_iff.1 h'
  have hread : Operand.ofToken x.spelling = .ok y := by
    rw [← hspelling]
    exact Operand.ofToken_spelling hy hc'
  rw [Operand.ofToken_spelling hx hc] at hread
  rw [Except.ok.inj hread]

/-- No token is of two classes, but for the names of types, which are labels as well. -/
theorem not_hasCategory_and (c c' : Category) (hc : c ≠ .type) (hc' : c' ≠ .type) (hne : c ≠ c') :
    ¬(hasCategory c token = true ∧ hasCategory c' token = true) := fun h ↦
  hne (eq_of_hasCategory hc hc' h.1 h.2)

/-- The name of a type could be a label. -/
theorem isLabel_of_isType (h : isType token = true) : isLabel token = true := by
  obtain ⟨t, rfl⟩ := isType_iff.1 h
  exact isLabel_iff.2 (isName_spelling_typeName t)

/-- A token is in none of the classes if it is in none of the three. -/
theorem hasKind_eq_false_of_forall_hasCategory
    (h : ∀ c : Category, c ≠ .type → hasCategory c token = false) (kind : Kind) :
    hasKind kind token = false := by
  rw [Bool.eq_false_iff]
  intro hkind
  obtain ⟨x, hx, hc, hspelling⟩ := exists_spelling_of_hasKind hkind
  have hcategory : hasCategory x.category token = true := hasCategory_iff.2 ⟨x, rfl, hx, hspelling⟩
  exact absurd (hcategory.symm.trans (h x.category hc)) (by simp)

end Token

namespace Operand

variable {token : Text} {kind : Kind} {x : Operand} {fault : Fault}

/-- Without a hint there is only the order in which the classes are tried. -/
theorem outcome_read_none (token : Text) : (read token none).outcome = ofToken token :=
  outcome_readAny token

/-- What is accepted as the name of a type is one, and nothing else is. -/
theorem category_eq_type_iff_of_accepts (haccepts : kind.accepts x = true) :
    x.category = .type ↔ kind = .type := by
  cases x with
  | var v => rcases Kind.accepts_var_iff.1 haccepts with rfl | rfl <;> simp [category]
  | literal l => simp [category, Kind.accepts_literal_iff.1 haccepts]
  | label name => simp [category, Kind.accepts_label_iff.1 haccepts]
  | type t => simp [category, Kind.accepts_type_iff.1 haccepts]

/-- Apart from the names of types where one is expected, what is expected makes no difference. -/
theorem outcome_read_eq_ofToken (h : ¬(kind = .type ∧ Token.isType token = true)) :
    (read token (some kind)).outcome = ofToken token := by
  cases hkind : Token.hasKind kind token with
  | false => exact outcome_read_of_hasKind_eq_false hkind
  | true =>
    obtain ⟨x, haccepts, hx, rfl⟩ := Token.hasKind_iff.1 hkind
    have hc : x.category ≠ .type := by
      rw [ne_eq, category_eq_type_iff_of_accepts haccepts]
      rintro rfl
      exact h ⟨rfl, hkind⟩
    rw [outcome_read_spelling haccepts hx, ofToken_spelling hx hc]

/-- A name of a type is read as what is expected. -/
theorem exists_outcome_read_of_isType (h : Token.isType token = true) :
    ∃ t : TypeName, t.spelling = token ∧ (read token (some .type)).outcome = .ok (.type t) ∧
      (read token none).outcome = .ok (.label token) := by
  obtain ⟨t, rfl⟩ := Token.isType_iff.1 h
  have hlabel : (label t.spelling).WellSpelled := Token.isName_spelling_typeName t
  refine ⟨t, rfl, outcome_read_spelling (x := .type t) rfl trivial, ?_⟩
  rw [outcome_read_none]
  exact ofToken_spelling hlabel (by simp [category])

/-- A hint is the cause of no failure: a token that fails with it fails without. -/
theorem outcome_read_eq_error_iff (expected? : Option Kind) :
    (read token expected?).outcome = .error fault ↔ ofToken token = .error fault := by
  cases expected? with
  | none => rw [outcome_read_none]
  | some kind =>
    by_cases h : kind = .type ∧ Token.isType token = true
    · obtain ⟨rfl, htype⟩ := h
      obtain ⟨t, -, hread, hany⟩ := exists_outcome_read_of_isType htype
      have hof : ofToken token = .ok (.label token) := (outcome_read_none token).symm.trans hany
      rw [hread, hof]
      exact iff_of_false (by simp) (by simp)
    · rw [outcome_read_eq_ofToken h]

/-- A token is read as an operand that the hint accepts if it is of the kind of the hint. -/
theorem exists_outcome_read_iff :
    (∃ x, (read token (some kind)).outcome = .ok x ∧ kind.accepts x = true) ↔
      Token.hasKind kind token = true := by
  rw [Token.hasKind_iff]
  constructor
  · rintro ⟨x, hx, haccepts⟩
    exact ⟨x, haccepts, wellSpelled_of_outcome_read hx⟩
  · rintro ⟨x, haccepts, hx, rfl⟩
    exact ⟨x, outcome_read_spelling haccepts hx, haccepts⟩

/-- What an expected kind has to do with the operand that a token is read as. -/
structure Expectation (token : Text) : Prop where
  /-- A token is a variable, a literal or a label, or none of the three. -/
  not_variable_literal : ¬(Token.isVariable token = true ∧ Token.isLiteral token = true)
  not_variable_label : ¬(Token.isVariable token = true ∧ Token.isLabel token = true)
  not_literal_label : ¬(Token.isLiteral token = true ∧ Token.isLabel token = true)
  /-- The names of types are labels. -/
  label_of_type : Token.isType token = true → Token.isLabel token = true
  /-- Such a name is read as what it is expected to be, and as a label where nothing is expected. -/
  type : Token.isType token = true →
    ∃ t : TypeName, t.spelling = token ∧ (read token (some .type)).outcome = .ok (.type t) ∧
      (read token none).outcome = .ok (.label token)
  /-- All else is read as if nothing were expected, with the same operand or the same fault. -/
  otherwise : ∀ kind, ¬(kind = .type ∧ Token.isType token = true) →
    (read token (some kind)).outcome = (read token none).outcome
  /-- Whether a token is invalid is no question of what is expected. -/
  fault : ∀ expected? fault, (read token expected?).outcome = .error fault ↔
    (read token none).outcome = .error fault
  /-- Where nothing is expected there are no names of types. -/
  not_type : ∀ t, (read token none).outcome ≠ .ok (.type t)
  /-- What is expected is found exactly where the token is in its class. -/
  accepts : ∀ kind, (∃ x, (read token (some kind)).outcome = .ok x ∧ kind.accepts x = true) ↔
    Token.hasKind kind token = true

/-- **What is expected matters to the names of types only.** -/
theorem expectation (token : Text) : Expectation token where
  not_variable_literal :=
    Token.not_hasCategory_and .var .literal (by decide) (by decide) (by decide)
  not_variable_label := Token.not_hasCategory_and .var .label (by decide) (by decide) (by decide)
  not_literal_label := Token.not_hasCategory_and .literal .label (by decide) (by decide) (by decide)
  label_of_type := Token.isLabel_of_isType
  type := exists_outcome_read_of_isType
  otherwise kind h := (outcome_read_eq_ofToken h).trans (outcome_read_none token).symm
  fault expected? fault := by
    rw [outcome_read_eq_error_iff, outcome_read_eq_error_iff]
  not_type t h := by
    rw [outcome_read_none, ofToken_eq_ok_iff] at h
    exact h.2.1 rfl
  accepts kind := exists_outcome_read_iff

/-- A name of a type under three expectations, and a label under one that it does not meet. -/
example : (read "int".toList (some .type)).outcome = .ok (.type .int) ∧
    (read "int".toList (some .label)).outcome = .ok (.label "int".toList) ∧
    (read "int".toList none).outcome = .ok (.label "int".toList) ∧
    (read "nil".toList (some .type)).outcome = .ok (.label "nil".toList) := by decide

end Operand

end ThreeAddress
