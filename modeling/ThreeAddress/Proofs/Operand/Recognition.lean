import ThreeAddress.Proofs.Operand.Spelling
import ThreeAddress.Proofs.Text.Words

/-!
# Which tokens are strings, labels and variables

Most lexical classes have finitely many members, or are read digit by digit. Three are left that
have a form of their own, and here the form is said in full, down to the characters.

A label is a matter of single characters, and a variable is a frame before a label. The payload of
a string is looked at in two ways. Locally there is a condition on every character and on what
follows every backslash, which is `IsStringBody`. As a whole it is a list of *pieces*, characters
that stand for themselves and escape sequences of a backslash and three digits. The two come to the
same (`StringPiece.exists_join_eq_iff`), although the local condition never says where a piece
begins: an escape sequence cannot be mistaken for anything else because no other piece begins with
a backslash (`StringPiece.text_append_inj`). This also makes the pieces unique.
-/

namespace ThreeAddress

open Text

/-! ### The pieces of a string -/

/-- A piece of the payload of a string. -/
inductive StringPiece
  /-- A character that stands for itself. -/
  | plain (c : Char) (hsolid : isBlank c = false) (hplain : c ∉ ['#', '"', '\\'])
  /-- A backslash before three digits. -/
  | escape (a b c : Char) (ha : a.isDigit = true) (hb : b.isDigit = true) (hc : c.isDigit = true)

namespace StringPiece

/-- The piece as it is written. -/
def text : StringPiece → Text
  | plain c _ _ => [c]
  | escape a b c _ _ _ => ['\\', a, b, c]

/-- The pieces, written one after another. -/
def join (pieces : List StringPiece) : Text := pieces.flatMap text

@[simp] theorem join_nil : join [] = [] := rfl

@[simp] theorem join_cons (p : StringPiece) (ps : List StringPiece) :
    join (p :: ps) = p.text ++ join ps := rfl

/-- Where a piece ends is seen from its first character. -/
theorem text_append_inj {p q : StringPiece} {s t : Text} (h : p.text ++ s = q.text ++ t) :
    p = q ∧ s = t := by
  cases p with
  | plain c _ hplain =>
    cases q with
    | plain d _ _ => simpa [text] using h
    | escape _ _ _ _ _ _ =>
      obtain ⟨rfl, -⟩ : c = '\\' ∧ _ := by simpa [text] using h
      exact absurd hplain (by decide)
  | escape _ _ _ _ _ _ =>
    cases q with
    | plain d _ hplain =>
      obtain ⟨rfl, -⟩ : '\\' = d ∧ _ := by simpa [text] using h
      exact absurd hplain (by decide)
    | escape _ _ _ _ _ _ => simpa [text, and_assoc] using h

theorem text_ne_nil (p : StringPiece) : p.text ≠ [] := by
  cases p <;> simp [text]

/-- **No text is put together from pieces in two ways.** -/
theorem join_injective : Function.Injective join := by
  intro ps
  induction ps with
  | nil =>
    intro qs h
    cases qs with
    | nil => rfl
    | cons q qs => exact absurd h.symm (by simp [text_ne_nil])
  | cons p ps ih =>
    intro qs h
    cases qs with
    | nil => exact absurd h (by simp [text_ne_nil])
    | cons q qs =>
      obtain ⟨rfl, hrest⟩ := text_append_inj h
      rw [ih hrest]

/-- A piece in front does not change whether a text is a body. -/
theorem isStringBody_text_append_iff (p : StringPiece) {t : Text} :
    IsStringBody (p.text ++ t) ↔ IsStringBody t := by
  cases p with
  | plain c hsolid hplain =>
    have hne : (c ≠ '#' ∧ c ≠ '"') ∧ c ≠ '\\' := by simpa [and_assoc] using hplain
    show IsStringBody (c :: t) ↔ _
    rw [isStringBody_cons_iff hne.2]
    exact and_iff_right ⟨hsolid, hne.1⟩
  | escape a b c ha hb hc =>
    show IsStringBody ('\\' :: a :: b :: c :: t) ↔ _
    rw [isStringBody_backslash_iff, isStringBody_digit_cons_iff ha, isStringBody_digit_cons_iff hb,
      isStringBody_digit_cons_iff hc]
    exact and_iff_right ⟨a, b, c, t, rfl, ha, hb, hc⟩

/-- **What is put together from pieces is told by its single characters**, and by what follows each
backslash. -/
theorem exists_join_eq_iff {t : Text} :
    (∃ pieces : List StringPiece, join pieces = t) ↔ IsStringBody t := by
  constructor
  · intro h
    obtain ⟨pieces, rfl⟩ := h
    induction pieces with
    | nil => exact isStringBody_nil
    | cons p ps ih => exact p.isStringBody_text_append_iff.2 ih
  · intro h
    -- the recursion of the recogniser takes one piece away at every step
    have hpayload := isStringPayload_iff.2 h
    clear h
    fun_induction Token.isStringPayload t with
    | case1 => exact ⟨[], rfl⟩
    | case2 a b c t ih =>
      obtain ⟨⟨⟨ha, hb⟩, hc⟩, ht⟩ : ((_ ∧ _) ∧ _) ∧ _ := by simpa using hpayload
      obtain ⟨pieces, rfl⟩ := ih ht
      exact ⟨.escape a b c ha hb hc :: pieces, rfl⟩
    | case3 => exact absurd hpayload (by simp)
    | case4 c t _ hc ih =>
      obtain ⟨⟨⟨hsolid, hmark⟩, hquote⟩, ht⟩ : ((_ ∧ _) ∧ _) ∧ _ := by simpa using hpayload
      obtain ⟨pieces, rfl⟩ := ih ht
      have hbackslash : c ≠ '\\' := fun heq ↦ hc heq
      exact ⟨.plain c hsolid (by simp [hmark, hquote, hbackslash]) :: pieces, rfl⟩

end StringPiece

namespace Token

variable {token : Text}

/-! ### Labels and variables -/

/-- The characters of names are the letters and digits of ASCII and eight marks. -/
theorem isIdentifierPart_eq (c : Char) :
    isIdentifierPart c = (c.isAlphanum || "_$&%*!?-".toList.contains c) := by
  rw [isIdentifierPart, isIdentifierStart, Char.isAlphanum, Bool.or_right_comm]
  rfl

/-- A name may begin with all of its characters but the digits. -/
theorem isIdentifierStart_iff {c : Char} :
    isIdentifierStart c = true ↔ isIdentifierPart c = true ∧ c.isDigit = false := by
  have hall : ∀ c : Char, c.toNat < 128 → isIdentifierPart c = true →
      (isIdentifierStart c = true ↔ c.isDigit = false) := of_toNat_lt (by decide +kernel)
  constructor
  · intro h
    have hpart : isIdentifierPart c = true := by simp [isIdentifierPart, h]
    exact ⟨hpart, (hall c (toNat_lt_of_isIdentifierPart hpart) hpart).1 h⟩
  · intro h
    exact (hall c (toNat_lt_of_isIdentifierPart h.1) h.1).2 h.2

/-- A label is a text of letters, digits and a few marks without a digit in front. -/
theorem isLabel_iff_forall : isLabel token = true ↔ token ≠ [] ∧
    (∀ c ∈ token, c.isAlphanum = true ∨ c ∈ "_$&%*!?-".toList) ∧
      ∀ c, token.head? = some c → c.isDigit = false := by
  have hpart : ∀ c : Char, c.isAlphanum = true ∨ c ∈ "_$&%*!?-".toList ↔
      isIdentifierPart c = true := fun c ↦ by simp [isIdentifierPart_eq]
  simp only [hpart]
  cases token with
  | nil => simp [isLabel, isIdentifier]
  | cons c rest =>
    show isIdentifier (c :: rest) = true ↔ _
    rw [isIdentifier_cons_iff, isIdentifierStart_iff, List.forall_mem_cons, List.head?_cons]
    simp [and_assoc, and_comm]

/-- A variable is a frame, an at sign and what could be a label. -/
theorem isVariable_iff_exists : isVariable token = true ↔
    ∃ frame ∈ ["GF".toList, "LF".toList, "TF".toList], ∃ name,
      token = frame ++ '@' :: name ∧ isLabel name = true := by
  rw [isVariable_iff]
  constructor
  · intro h
    obtain ⟨⟨frame, name⟩, hspelling, hname⟩ := h
    exact ⟨frame.code, by cases frame <;> decide, name, hspelling, hname⟩
  · intro h
    obtain ⟨code, hcode, name, hspelling, hname⟩ := h
    obtain ⟨frame, -, rfl⟩ : ∃ frame ∈ Frame.all, frame.code = code := List.mem_map.1 hcode
    exact ⟨⟨frame, name⟩, hspelling, hname⟩

/-! ### Strings -/

/-- A string is its mark and a body. -/
theorem literalForm?_eq_string_iff : literalForm? token = some .string ↔
    ∃ body, token = "string@".toList ++ body ∧ IsStringBody body := by
  rw [literalForm?_eq_some_iff]
  constructor
  · intro h
    obtain ⟨l, hl, hform, rfl⟩ := h
    cases l with
    | string body => exact ⟨body, rfl, hl⟩
    | bool _ => exact absurd hform (by simp [Literal.form])
    | nil => exact absurd hform (by simp [Literal.form])
    | int _ _ => exact absurd hform (by simp [Literal.form])
  · intro h
    obtain ⟨body, rfl, hbody⟩ := h
    exact ⟨.string body, hbody, rfl, rfl⟩

/-! ### The whole token -/

theorem solid_of_isLabel (h : isLabel token = true) : Solid token := fun _ hc ↦
  (plain_of_isIdentifierPart (isIdentifierPart_of_mem h hc)).1

theorem solid_of_isVariable (h : isVariable token = true) : Solid token := by
  obtain ⟨frame, hframe, name, rfl, hname⟩ := isVariable_iff_exists.1 h
  have hcode : ∀ frame ∈ ["GF".toList, "LF".toList, "TF".toList], Solid frame := by decide
  exact List.forall_mem_append.2
    ⟨hcode frame hframe, solid_cons_iff.2 ⟨by decide, solid_of_isLabel hname⟩⟩

/-- How the tokens of the three classes are recognised. -/
structure Recognition (token : Text) : Prop where
  /-- A string is its tag and a body without blanks, comment marks and quotation marks, in which
  three digits follow every backslash. -/
  string_iff : literalForm? token = some .string ↔
    ∃ body, token = "string@".toList ++ body ∧ IsStringBody body
  /-- A body is what can be put together from plain characters and escape sequences. -/
  body_iff : ∀ body, IsStringBody body ↔ ∃ pieces : List StringPiece, StringPiece.join pieces = body
  /-- There is one way only to do so. -/
  pieces_injective : Function.Injective StringPiece.join
  /-- The empty body is none the worse for having no pieces. -/
  empty : literalForm? "string@".toList = some .string
  /-- A label is not empty, has letters, digits and marks, and begins with no digit. -/
  label_iff : isLabel token = true ↔ token ≠ [] ∧
    (∀ c ∈ token, c.isAlphanum = true ∨ c ∈ "_$&%*!?-".toList) ∧
      ∀ c, token.head? = some c → c.isDigit = false
  /-- A variable is a frame, an at sign and a label. -/
  variable_iff : isVariable token = true ↔
    ∃ frame ∈ ["GF".toList, "LF".toList, "TF".toList], ∃ name,
      token = frame ++ '@' :: name ∧ isLabel name = true
  /-- The whole token is looked at: a blank has no place in it, also at the end. -/
  solid : literalForm? token = some .string ∨ isLabel token = true ∨ isVariable token = true →
    Solid token

/-- **Strings, labels and variables are recognised by their form.** -/
theorem recognition (token : Text) : Recognition token where
  string_iff := literalForm?_eq_string_iff
  body_iff _ := StringPiece.exists_join_eq_iff.symm
  pieces_injective := StringPiece.join_injective
  empty := rfl
  label_iff := isLabel_iff_forall
  variable_iff := isVariable_iff_exists
  solid h := by
    rcases h with hstring | hlabel | hvariable
    · obtain ⟨body, rfl, hbody⟩ := literalForm?_eq_string_iff.1 hstring
      have htag : Solid "string@".toList := by decide
      exact List.forall_mem_append.2 ⟨htag, fun c hc ↦ (hbody.plain c hc).1⟩
    · exact solid_of_isLabel hlabel
    · exact solid_of_isVariable hvariable

/-- A digit behind an escape sequence, a backslash too near the end, and a line break at the end. -/
example : literalForm? "string@\\0921".toList = some .string ∧
    literalForm? "string@a\\09".toList = none ∧ literalForm? "string@a\n".toList = none := by decide

end Token

end ThreeAddress
