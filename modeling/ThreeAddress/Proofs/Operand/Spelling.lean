import Mathlib.Data.List.Basic
import ThreeAddress.Operand.Token
import ThreeAddress.Proofs.Text.Case

/-!
# How operands are spelled

An operand is *well spelled* when its parts could have come from a source: the names are names, an
integer is in the first base that accepts it, a string has only complete escape sequences. Then its
spelling is a token, and this module says what the lexical classes are in these terms. Every class
is described by the operands whose spellings it contains (`isVariable_iff`, `isType_iff` beside
their definitions, `literalForm?_eq_some_iff`, `isIdentifier_iff`), so that later statements compare
operands and never look at characters again.

Three of the four classes have no token in common. A variable and a literal contain an at sign and
a label does not; a variable begins with another letter than a literal. The names of types are
labels as well.
-/

namespace ThreeAddress

open Text

/-! ### Characters of names -/

/-- A character of an identifier is a letter, a digit or a mark. -/
theorem isIdentifierPart_iff {c : Char} :
    isIdentifierPart c = true ↔ c.isAlpha = true ∨ c.isDigit = true ∨ c ∈ identifierMarks := by
  simp only [isIdentifierPart, isIdentifierStart, Bool.or_eq_true, List.contains_eq_mem,
    decide_eq_true_eq]
  tauto

theorem isAlpha_iff {c : Char} : c.isAlpha = true ↔ c.isUpper = true ∨ c.isLower = true :=
  Bool.or_eq_true_iff

theorem toNat_lt_of_isAlpha {c : Char} (h : c.isAlpha = true) : c.toNat < 128 := by
  rcases isAlpha_iff.1 h with h | h
  · have hle : c.val ≤ 'Z'.val := (of_decide_eq_true h).2
    exact Nat.lt_of_le_of_lt (UInt32.le_iff_toNat_le.1 hle) (by decide)
  · have hle : c.val ≤ 'z'.val := of_decide_eq_true (Bool.and_eq_true_iff.1 h).2
    exact Nat.lt_of_le_of_lt (UInt32.le_iff_toNat_le.1 hle) (by decide)

theorem toNat_lt_of_isDigit {c : Char} (h : c.isDigit = true) : c.toNat < 128 :=
  Nat.lt_of_le_of_lt (Char.isDigit_iff_toNat.1 h).2 (by decide)

/-- The characters of identifiers are in ASCII, so that a look at each settles what is asked of
them. -/
theorem toNat_lt_of_isIdentifierPart {c : Char} (h : isIdentifierPart c = true) :
    c.toNat < 128 := by
  have hmarks : identifierMarks.all (·.toNat < 128) = true := by decide
  rcases isIdentifierPart_iff.1 h with h | h | h
  · exact toNat_lt_of_isAlpha h
  · exact toNat_lt_of_isDigit h
  · exact of_decide_eq_true (List.all_eq_true.1 hmarks c h)

/-- A character of a name is not blank, no at sign and begins no comment. -/
theorem plain_of_isIdentifierPart {c : Char} (h : isIdentifierPart c = true) :
    isBlank c = false ∧ c ≠ '@' ∧ c ≠ '#' := by
  have hall : ∀ c : Char, c.toNat < 128 → isIdentifierPart c = true →
      isBlank c = false ∧ c ≠ '@' ∧ c ≠ '#' := of_toNat_lt (by decide +kernel)
  exact hall c (toNat_lt_of_isIdentifierPart h) h

theorem isIdentifierPart_of_isDigit {c : Char} (h : c.isDigit = true) :
    isIdentifierPart c = true := by
  simp [isIdentifierPart, h]

/-- The text is a name: letters, digits and marks, and no digit in front. -/
def IsName (t : Text) : Prop :=
  ∃ c rest, t = c :: rest ∧ (c.isAlpha = true ∨ c ∈ identifierMarks) ∧
    ∀ d ∈ rest, d.isAlpha = true ∨ d.isDigit = true ∨ d ∈ identifierMarks

/-- The recogniser accepts just the names. -/
theorem isIdentifier_iff {t : Text} : isIdentifier t = true ↔ IsName t := by
  constructor
  · intro h
    cases t with
    | nil => simp [isIdentifier] at h
    | cons c rest =>
      obtain ⟨hc, hrest⟩ := isIdentifier_cons_iff.1 h
      exact ⟨c, rest, rfl, by simpa [isIdentifierStart] using hc,
        fun d hd ↦ isIdentifierPart_iff.1 (hrest d hd)⟩
  · rintro ⟨c, rest, rfl, hc, hrest⟩
    exact isIdentifier_cons_iff.2 ⟨by simpa [isIdentifierStart] using hc,
      fun d hd ↦ isIdentifierPart_iff.2 (hrest d hd)⟩

/-- A name has no at sign, so that it can be told from the frame before it. -/
theorem at_not_mem_of_isName {t : Text} (h : IsName t) : '@' ∉ t := fun hmem ↦
  (plain_of_isIdentifierPart (isIdentifierPart_of_mem (isIdentifier_iff.2 h) hmem)).2.1 rfl

/-! ### Payloads of strings -/

/-- The text can be the payload of a string. -/
structure IsStringBody (t : Text) : Prop where
  /-- No blank, no comment mark, no quotation mark. -/
  plain : ∀ c ∈ t, isBlank c = false ∧ c ≠ '#' ∧ c ≠ '"'
  /-- After a backslash there are three digits. -/
  escapes : ∀ rest, '\\' :: rest <:+ t → ∃ a b c tail, rest = a :: b :: c :: tail ∧
    a.isDigit = true ∧ b.isDigit = true ∧ c.isDigit = true

theorem isStringBody_nil : IsStringBody [] := ⟨by simp, by simp⟩

/-- A character that is no backslash says nothing about the escapes behind it. -/
theorem isStringBody_cons_iff {c : Char} (hc : c ≠ '\\') {t : Text} :
    IsStringBody (c :: t) ↔ (isBlank c = false ∧ c ≠ '#' ∧ c ≠ '"') ∧ IsStringBody t := by
  have hsuffix : ∀ rest, '\\' :: rest <:+ c :: t ↔ '\\' :: rest <:+ t := fun rest ↦ by
    rw [List.suffix_cons_iff, List.cons.injEq]
    simp [Ne.symm hc]
  constructor
  · rintro ⟨hplain, hescapes⟩
    obtain ⟨hhead, hplain⟩ := List.forall_mem_cons.1 hplain
    exact ⟨hhead, hplain, fun rest h ↦ hescapes rest ((hsuffix rest).2 h)⟩
  · rintro ⟨hhead, hplain, hescapes⟩
    exact ⟨List.forall_mem_cons.2 ⟨hhead, hplain⟩, fun rest h ↦ hescapes rest ((hsuffix rest).1 h)⟩

/-- A backslash needs three digits behind it, and nothing else changes. -/
theorem isStringBody_backslash_iff {t : Text} :
    IsStringBody ('\\' :: t) ↔ (∃ a b c tail, t = a :: b :: c :: tail ∧
      a.isDigit = true ∧ b.isDigit = true ∧ c.isDigit = true) ∧ IsStringBody t := by
  constructor
  · rintro ⟨hplain, hescapes⟩
    exact ⟨hescapes t List.suffix_rfl, (List.forall_mem_cons.1 hplain).2,
      fun rest h ↦ hescapes rest (h.trans (List.suffix_cons _ _))⟩
  · rintro ⟨hdigits, hplain, hescapes⟩
    refine ⟨List.forall_mem_cons.2 ⟨by decide, hplain⟩, fun rest h ↦ ?_⟩
    rcases List.suffix_cons_iff.1 h with heq | h
    · rw [(List.cons.inj heq).2]
      exact hdigits
    · exact hescapes rest h

/-- A digit in front does not matter, whether it belongs to an escape or not. -/
theorem isStringBody_digit_cons_iff {c : Char} (hc : c.isDigit = true) {t : Text} :
    IsStringBody (c :: t) ↔ IsStringBody t := by
  have hall : ∀ c : Char, c.toNat < 128 → c.isDigit = true → c ≠ '\\' ∧ c ≠ '"' :=
    of_toNat_lt (by decide +kernel)
  have hpart := isIdentifierPart_of_isDigit hc
  obtain ⟨hbackslash, hquote⟩ := hall c (toNat_lt_of_isDigit hc) hc
  obtain ⟨hblank, -, hmark⟩ := plain_of_isIdentifierPart hpart
  simp [isStringBody_cons_iff hbackslash, hblank, hmark, hquote]

/-- The recogniser accepts just the payloads of strings. It steps over an escape as a whole, so the
induction is on its own recursion. -/
theorem isStringPayload_iff {t : Text} : Token.isStringPayload t = true ↔ IsStringBody t := by
  fun_induction Token.isStringPayload t with
  | case1 => simp [isStringBody_nil]
  | case2 a b c t ih =>
    rw [isStringBody_backslash_iff]
    simp only [Bool.and_eq_true, ih]
    constructor
    · -- the recursion leaves the three digits out, which say nothing about what is behind them
      rintro ⟨⟨⟨ha, hb⟩, hc⟩, h⟩
      refine ⟨⟨a, b, c, t, rfl, ha, hb, hc⟩, ?_⟩
      rwa [isStringBody_digit_cons_iff ha, isStringBody_digit_cons_iff hb,
        isStringBody_digit_cons_iff hc]
    · rintro ⟨⟨a', b', c', t', heq, ha, hb, hc⟩, h⟩
      obtain ⟨rfl, rfl, rfl, rfl⟩ : a = a' ∧ b = b' ∧ c = c' ∧ t = t' := by simpa using heq
      rw [isStringBody_digit_cons_iff ha, isStringBody_digit_cons_iff hb,
        isStringBody_digit_cons_iff hc] at h
      exact ⟨⟨⟨ha, hb⟩, hc⟩, h⟩
  | case3 t hshort =>
    rw [isStringBody_backslash_iff]
    simp only [Bool.false_eq_true, false_iff, not_and]
    rintro ⟨a, b, c, tail, rfl, -⟩
    exact absurd rfl (hshort a b c tail)
  | case4 c t _ hc ih =>
    rw [isStringBody_cons_iff fun h ↦ hc h]
    simp [ih, and_assoc]

/-! ### Bases of integers -/

/-- The base accepts the payload and no base that is tried before it does. -/
def Base.IsFirstFor (base : Base) (payload : Text) : Prop :=
  base.accepts payload = true ∧ ∀ b ∈ Base.all.takeWhile (· ≠ base), b.accepts payload = false

/-- The base that is chosen is the first that accepts the payload. -/
theorem Base.of?_eq_some_iff {payload : Text} {base : Base} :
    of? payload = some base ↔ base.IsFirstFor payload := by
  rw [IsFirstFor, of?]
  cases base with
  | decimal =>
    have hbefore : all.takeWhile (· ≠ decimal) = [] := rfl
    rw [hbefore]
    cases hd : decimal.accepts payload <;> simp [all, hd]
  | hexadecimal =>
    have hbefore : all.takeWhile (· ≠ hexadecimal) = [decimal] := rfl
    rw [hbefore]
    cases hd : decimal.accepts payload <;> simp [all, hd]
  | octal =>
    have hbefore : all.takeWhile (· ≠ octal) = [decimal, hexadecimal] := rfl
    rw [hbefore]
    cases hd : decimal.accepts payload <;> cases hh : hexadecimal.accepts payload <;>
      simp [all, hd, hh]

/-! ### Well spelled operands -/

/-- The literal as it is written in a source. -/
def Literal.spelling (l : Literal) : Text := l.form.tag ++ '@' :: l.payload

/-- The literal could have come from a source. -/
def Literal.WellSpelled : Literal → Prop
  | bool _ => True
  | nil => True
  | int payload base => base.IsFirstFor payload
  | string payload => IsStringBody payload

/-- The operand could have come from a source. -/
def Operand.WellSpelled : Operand → Prop
  | var v => IsName v.name
  | literal l => l.WellSpelled
  | label name => IsName name
  | type _ => True

namespace Token

/-- A literal of an open form is none of the three tokens of the closed forms. -/
theorem ne_closed_of_head? {t : Text} {c : Char} (h : t.head? = some c) (hb : c ≠ 'b')
    (hn : c ≠ 'n') :
    ¬(t = "bool@true".toList ∨ t = "bool@false".toList) ∧ t ≠ "nil@nil".toList := by
  have hne : ∀ u : Text, u.head? ≠ some c → t ≠ u := fun u hu heq ↦ hu (heq ▸ h)
  have hbool : some 'b' ≠ some c := fun heq ↦ hb (Option.some.inj heq).symm
  have hnil : some 'n' ≠ some c := fun heq ↦ hn (Option.some.inj heq).symm
  exact ⟨not_or.2 ⟨hne _ hbool, hne _ hbool⟩, hne _ hnil⟩

/-- The spelling of a literal is recognised with the form of the literal. -/
theorem literalForm?_spelling {l : Literal} (hl : l.WellSpelled) :
    literalForm? l.spelling = some l.form := by
  cases l with
  | bool value => cases value <;> rfl
  | nil => rfl
  | string payload =>
    obtain ⟨hbool, hnil⟩ := ne_closed_of_head? (t := (Literal.string payload).spelling)
      rfl (by decide : 's' ≠ 'b') (by decide)
    have hafter : after? "string@".toList (Literal.string payload).spelling = some payload :=
      after?_eq_some_iff.2 rfl
    rw [literalForm?, if_neg hbool, if_neg hnil, hafter]
    exact if_pos (isStringPayload_iff.2 hl)
  | int payload base =>
    obtain ⟨hbool, hnil⟩ := ne_closed_of_head? (t := (Literal.int payload base).spelling)
      rfl (by decide : 'i' ≠ 'b') (by decide)
    have hstring : after? "string@".toList (Literal.int payload base).spelling = none := rfl
    have hafter : after? "int@".toList (Literal.int payload base).spelling = some payload :=
      after?_eq_some_iff.2 rfl
    rw [literalForm?, if_neg hbool, if_neg hnil, hstring, hafter]
    exact congrArg (Option.map LiteralForm.int) (Base.of?_eq_some_iff.2 hl)

/-- A token that is recognised as a literal spells one. -/
theorem exists_of_literalForm?_eq_some {token : Text} {form : LiteralForm}
    (h : literalForm? token = some form) :
    ∃ l : Literal, l.WellSpelled ∧ l.form = form ∧ l.spelling = token := by
  unfold literalForm? at h
  split_ifs at h with hbool hnil
  · rcases hbool with rfl | rfl
    · exact ⟨.bool true, trivial, Option.some.inj h, rfl⟩
    · exact ⟨.bool false, trivial, Option.some.inj h, rfl⟩
  · exact ⟨.nil, trivial, Option.some.inj h, hnil.symm⟩
  · rcases hstring : after? "string@".toList token with - | payload
    · rw [hstring] at h
      rcases hint : after? "int@".toList token with - | payload
      · rw [hint] at h
        exact absurd h (by simp)
      · rw [hint] at h
        obtain ⟨base, hbase, hform⟩ := Option.map_eq_some_iff.1 h
        exact ⟨.int payload base, Base.of?_eq_some_iff.1 hbase, hform,
          (after?_eq_some_iff.1 hint).symm⟩
    · rw [hstring] at h
      obtain ⟨hpayload, hform⟩ := Option.ite_none_right_eq_some.1 h
      exact ⟨.string payload, isStringPayload_iff.1 hpayload, Option.some.inj hform,
        (after?_eq_some_iff.1 hstring).symm⟩

/-- **A literal is the spelling of a well spelled one**, and its form is found with it. -/
theorem literalForm?_eq_some_iff {token : Text} {form : LiteralForm} :
    literalForm? token = some form ↔
      ∃ l : Literal, l.WellSpelled ∧ l.form = form ∧ l.spelling = token := by
  refine ⟨exists_of_literalForm?_eq_some, ?_⟩
  rintro ⟨l, hl, rfl, rfl⟩
  exact literalForm?_spelling hl

/-- A literal token is the spelling of a well spelled literal. -/
theorem isLiteral_iff {token : Text} :
    isLiteral token = true ↔ ∃ l : Literal, l.WellSpelled ∧ l.spelling = token := by
  rw [isLiteral, Option.isSome_iff_exists]
  simp only [literalForm?_eq_some_iff]
  exact ⟨fun ⟨_, l, hl, _, h⟩ ↦ ⟨l, hl, h⟩, fun ⟨l, hl, h⟩ ↦ ⟨_, l, hl, rfl, h⟩⟩

theorem isLabel_iff {token : Text} : isLabel token = true ↔ IsName token := isIdentifier_iff

/-! ### The classes have little in common -/

theorem isVariable_of_at_not_mem {token : Text} (h : '@' ∉ token) : isVariable token = false := by
  rw [Bool.eq_false_iff]
  intro hvar
  obtain ⟨v, rfl, -⟩ := isVariable_iff.1 hvar
  exact h (by simp [Variable.spelling])

theorem literalForm?_of_at_not_mem {token : Text} (h : '@' ∉ token) :
    literalForm? token = none := by
  rw [Option.eq_none_iff_forall_ne_some]
  intro form hform
  obtain ⟨l, -, -, rfl⟩ := literalForm?_eq_some_iff.1 hform
  exact h (by simp [Literal.spelling])

/-- The tag of a literal begins with a small letter. -/
theorem exists_tag_eq_cons (form : LiteralForm) :
    ∃ c t, form.tag = c :: t ∧ c.isLower = true := by
  cases form with
  | bool => exact ⟨'b', "ool".toList, rfl, rfl⟩
  | nil => exact ⟨'n', "il".toList, rfl, rfl⟩
  | int base => exact ⟨'i', "nt".toList, rfl, rfl⟩
  | string => exact ⟨'s', "tring".toList, rfl, rfl⟩

/-- The letters of a frame are capital ones. -/
theorem exists_code_eq_cons (frame : Frame) :
    ∃ c t, frame.code = c :: t ∧ c.isLower = false := by
  cases frame with
  | globals => exact ⟨'G', ['F'], rfl, rfl⟩
  | locals => exact ⟨'L', ['F'], rfl, rfl⟩
  | temporaries => exact ⟨'T', ['F'], rfl, rfl⟩

/-- No literal is taken for a variable, for what is before its at sign is no frame. -/
theorem isVariable_spelling_literal (l : Literal) : isVariable l.spelling = false := by
  rw [Bool.eq_false_iff]
  intro h
  obtain ⟨⟨frame, name⟩, hv, -⟩ := isVariable_iff.1 h
  obtain ⟨c, tag, htag, hc⟩ := exists_tag_eq_cons l.form
  obtain ⟨d, code, hcode, hd⟩ := exists_code_eq_cons frame
  rw [Literal.spelling, Variable.spelling, htag, hcode] at hv
  obtain rfl : c = d := (List.cons.inj hv).1
  exact absurd (hc.symm.trans hd) (by simp)

theorem isName_spelling_typeName (t : TypeName) : IsName t.spelling := by
  rw [← isIdentifier_iff]
  cases t <;> decide

end Token

end ThreeAddress
