import ThreeAddress.Language
import ThreeAddress.Proofs.Numeral.Spelling
import ThreeAddress.Proofs.Text.Words

/-!
# An operand is written in plain characters

A character is plain if it is not blank and begins no comment, so that a text of plain characters
stands in a line as one word. Whatever is well spelled is plain: the value of an operand, which is
what a document shows of it (`plain_value`), and its spelling, which for a literal has the tag
before the value (`plain_spelling`). For names and strings this is part of their form; for an
integer it is a consequence of the base that accepts it, whose signs, marks and digits are all of
them characters of names but for the plus (`Base.plain_of_accepts`).
-/

namespace ThreeAddress

open Text Numeral

/-- The text has no blank and no comment mark. -/
def Plain (t : Text) : Prop := ∀ c ∈ t, isBlank c = false ∧ c ≠ commentMark

instance (t : Text) : Decidable (Plain t) :=
  List.decidableBAll (fun c ↦ isBlank c = false ∧ c ≠ commentMark) t

@[simp] theorem plain_nil : Plain [] := by simp [Plain]

theorem plain_cons_iff {c : Char} {t : Text} :
    Plain (c :: t) ↔ (isBlank c = false ∧ c ≠ commentMark) ∧ Plain t := List.forall_mem_cons

theorem Plain.append {s t : Text} (hs : Plain s) (ht : Plain t) : Plain (s ++ t) :=
  fun c hc ↦ (List.mem_append.1 hc).elim (hs c) (ht c)

theorem Plain.solid {t : Text} (h : Plain t) : Solid t := fun c hc ↦ (h c hc).1

/-! ### Names -/

/-- The characters of identifiers are neither blank nor comment marks. -/
theorem plain_char_of_isIdentifierPart {c : Char} (h : isIdentifierPart c = true) :
    isBlank c = false ∧ c ≠ commentMark := by
  obtain ⟨hblank, -, hmark⟩ := plain_of_isIdentifierPart h
  exact ⟨hblank, hmark⟩

theorem plain_of_isName {t : Text} (h : IsName t) : Plain t := fun _ hc ↦
  plain_char_of_isIdentifierPart (isIdentifierPart_of_mem (isIdentifier_iff.2 h) hc)

/-! ### Integers -/

namespace Base

variable {b : Base}

/-- The characters of an integer are those of names, and the plus. -/
theorem isIdentifierPart_or_plus_of_accepts {payload : Text} (h : b.accepts payload = true) :
    ∀ c ∈ payload, isIdentifierPart c = true ∨ c = '+' := by
  have hcharacters : ∀ c ∈ b.characters, isIdentifierPart c = true ∨ c = '+' := by
    cases b <;> decide
  obtain ⟨sign, mark, body, h⟩ := accepts_iff.1 h
  exact fun c hc ↦ hcharacters c (h.mem_characters c hc)

/-- What a base accepts has neither blanks nor comment marks in it. -/
theorem plain_of_accepts {payload : Text} (h : b.accepts payload = true) : Plain payload := by
  intro c hc
  rcases isIdentifierPart_or_plus_of_accepts h c hc with hpart | rfl
  · exact plain_char_of_isIdentifierPart hpart
  · decide

end Base

/-! ### Operands -/

theorem LiteralForm.plain_tag (form : LiteralForm) : Plain form.tag := by
  cases form with
  | bool => decide
  | nil => decide
  | int base => exact (by decide : Plain "int".toList)
  | string => decide

namespace Operand

/-- An operand is written as its value, a literal with its tag before it. -/
theorem spelling_eq (x : Operand) :
    x.spelling = if x.category = .literal then x.tag ++ '@' :: x.value else x.value := by
  cases x <;> rfl

/-- The payload of a literal is plain, whichever its form. -/
theorem plain_value_literal {l : Literal} (hl : l.WellSpelled) : Plain l.payload := by
  cases l with
  | bool value => cases value <;> decide
  | nil => decide
  | int payload base => exact Base.plain_of_accepts hl.1
  | string payload =>
    intro c hc
    obtain ⟨hblank, hmark, -⟩ := hl.plain c hc
    exact ⟨hblank, hmark⟩

/-- **A value is plain.** -/
theorem plain_value {x : Operand} (hx : x.WellSpelled) : Plain x.value := by
  cases x with
  | var v =>
    obtain ⟨frame, name⟩ := v
    have hcode : Plain frame.code := by cases frame <;> decide
    exact hcode.append (plain_cons_iff.2 ⟨by decide, plain_of_isName hx⟩)
  | literal l => exact plain_value_literal hx
  | label name => exact plain_of_isName hx
  | type t => exact plain_of_isName (Token.isName_spelling_typeName t)

/-- **Only strings have other characters than names, signs and the at sign.** -/
theorem isIdentifierPart_or_of_mem_value {x : Operand} (hx : x.WellSpelled)
    (hstring : ∀ payload, x ≠ .literal (.string payload)) :
    ∀ c ∈ x.value, isIdentifierPart c = true ∨ c ∈ ['+', '@'] := by
  have hname : ∀ {t : Text}, IsName t → ∀ c ∈ t, isIdentifierPart c = true ∨ c ∈ ['+', '@'] :=
    fun h c hc ↦ .inl (isIdentifierPart_of_mem (isIdentifier_iff.2 h) hc)
  cases x with
  | var v =>
    obtain ⟨frame, name⟩ := v
    have hcode : ∀ c ∈ frame.code, isIdentifierPart c = true ∨ c ∈ ['+', '@'] := by
      cases frame <;> decide
    exact List.forall_mem_append.2 ⟨hcode, List.forall_mem_cons.2 ⟨by decide, hname hx⟩⟩
  | label name => exact hname hx
  | type t => exact hname (Token.isName_spelling_typeName t)
  | literal l =>
    cases l with
    | bool value => cases value <;> decide
    | nil => decide
    | string payload => exact absurd rfl (hstring payload)
    | int payload base =>
      intro c hc
      rcases Base.isIdentifierPart_or_plus_of_accepts hx.1 c hc with hpart | rfl
      · exact .inl hpart
      · exact .inr (by decide)

theorem solid_value {x : Operand} (hx : x.WellSpelled) : Solid x.value := (plain_value hx).solid

theorem plain_tag (x : Operand) : Plain x.tag := by
  cases x with
  | var v => exact (by decide : Plain "var".toList)
  | literal l => exact l.form.plain_tag
  | label name => exact (by decide : Plain "label".toList)
  | type t => exact (by decide : Plain "type".toList)

/-- **So is the spelling of an operand.** -/
theorem plain_spelling {x : Operand} (hx : x.WellSpelled) : Plain x.spelling := by
  rw [spelling_eq]
  split_ifs
  · exact (plain_tag x).append (plain_cons_iff.2 ⟨by decide, plain_value hx⟩)
  · exact plain_value hx

/-- Every operand is written as something. -/
theorem spelling_ne_nil {x : Operand} (hx : x.WellSpelled) : x.spelling ≠ [] := by
  cases x with
  | var v => simp [spelling, Variable.spelling]
  | literal l => simp [spelling]
  | label name =>
    obtain ⟨c, rest, hname, -⟩ := hx
    simp [spelling, hname]
  | type t => cases t <;> decide

end Operand

end ThreeAddress
