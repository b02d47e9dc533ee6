import ThreeAddress.Proofs.Numeral.Spelling

/-!
# The base that an integer is read in

Several bases may accept one text, and the first of them in the order of trial is chosen. What that
comes to can be said without an order (`Base.ChosenByForm`): a text is decimal if it can be, octal
only under a mark, and hexadecimal only if a mark or a letter among its digits keeps it from being
decimal.

Two facts carry the argument. Of two spellings without a mark only the digits differ, so that one
that uses the digits of another base only belongs to that base as well (`IsSpelling.of_digits`). And
a letter, be it a digit or part of a mark, is to be found in the spellings of the bases that have a
use for it and in no others (`IsSpelling.mem_characters`).
-/

namespace ThreeAddress

open Text Numeral

namespace Base

variable {b b' : Base} {payload sign mark body : Text} {c : Char}

/-- The digits that are letters. -/
def letters : Text := "abcdefABCDEF".toList

namespace IsSpelling

theorem mem_of_mem_body (h : b.IsSpelling payload sign mark body) (hc : c ∈ body) :
    c ∈ payload := by
  rw [h.eq_append]
  exact List.mem_append_right _ hc

theorem mem_of_mem_mark (h : b.IsSpelling payload sign mark body) (hc : c ∈ mark) :
    c ∈ payload := by
  rw [h.eq_append]
  exact List.mem_append_left _ (List.mem_append_right _ hc)

/-- Without a mark a spelling belongs to every base that has its digits. -/
theorem of_digits (h : b.IsSpelling payload sign [] body)
    (hdigits : ∀ c ∈ payload, c ∈ b.digitChars → c ∈ b'.digitChars) :
    b'.IsSpelling payload sign [] body where
  eq_append := h.eq_append
  sign_mem := h.sign_mem
  mark_mem := nil_mem_marks
  isBody :=
    { h.isBody with
      mem := fun c hc ↦ (h.isBody.mem c hc).imp_left (hdigits c (h.mem_of_mem_body hc)) }
  mark_ne_nil := h.mark_ne_nil

end IsSpelling

/-- A spelling has a mark of its base, or it belongs to every base that has its digits. -/
theorem IsSyntax.isMarked_or (h : b.IsSyntax payload) :
    b.IsMarked payload ∨ ∀ b' : Base,
      (∀ c ∈ payload, c ∈ b.digitChars → c ∈ b'.digitChars) → b'.IsSyntax payload := by
  obtain ⟨sign, mark, body, h⟩ := h
  by_cases hmark : mark = []
  · subst hmark
    exact .inr fun b' hdigits ↦ ⟨sign, [], body, h.of_digits hdigits⟩
  · exact .inl ⟨sign, mark, body, h, hmark⟩

theorem IsMarked.isSyntax (h : b.IsMarked payload) : b.IsSyntax payload := by
  obtain ⟨sign, mark, body, h, -⟩ := h
  exact ⟨sign, mark, body, h⟩

/-- A spelling has no characters but those of its base. -/
theorem not_isSyntax_of_mem (hc : c ∈ payload) (hne : c ∉ b.characters) : ¬b.IsSyntax payload := by
  rintro ⟨sign, mark, body, h⟩
  exact hne (h.mem_characters c hc)

/-- The letter of a mark is of no use to the bases that do not have the mark. -/
theorem IsMarked.not_isSyntax (h : b.IsMarked payload)
    (hletter : ∀ mark ∈ b.marks, mark ≠ [] → mark.any (· ∉ b'.characters) = true) :
    ¬b'.IsSyntax payload := by
  obtain ⟨sign, mark, body, h, hmark⟩ := h
  obtain ⟨c, hc, hne⟩ := List.any_eq_true.1 (hletter mark h.mark_mem hmark)
  exact not_isSyntax_of_mem (h.mem_of_mem_mark hc) (of_decide_eq_true hne)

/-! ### One base against another -/

/-- What is decimal is hexadecimal as well, since the mark may be left out and the digits are among
those of the other. -/
theorem IsSyntax.hexadecimal_of_decimal (h : decimal.IsSyntax payload) :
    hexadecimal.IsSyntax payload := by
  have hdigits : ∀ c ∈ decimal.digitChars, c ∈ hexadecimal.digitChars := by decide
  rcases h.isMarked_or with ⟨sign, mark, body, h, hmark⟩ | hall
  · exact absurd h.mark_mem (by simpa [marks] using hmark)
  · exact hall hexadecimal fun c _ ↦ hdigits c

/-- Hexadecimal syntax is decimal unless a mark or a letter among the digits forbids it. -/
theorem IsSyntax.decimal_iff (h : hexadecimal.IsSyntax payload) : decimal.IsSyntax payload ↔
    ¬(hexadecimal.IsMarked payload ∨ ∃ c ∈ payload, c ∈ letters) := by
  constructor
  · rintro hdecimal (hmarked | ⟨c, hc, hletter⟩)
    · exact hmarked.not_isSyntax (by decide) hdecimal
    · have hne : ∀ c ∈ letters, c ∉ decimal.characters := by decide
      exact not_isSyntax_of_mem hc (hne c hletter) hdecimal
  · intro hnone
    have hdigits : ∀ c ∈ hexadecimal.digitChars, c ∈ decimal.digitChars ∨ c ∈ letters := by decide
    rcases h.isMarked_or with hmarked | hall
    · exact absurd (.inl hmarked) hnone
    · exact hall decimal fun c hc hdigit ↦
        (hdigits c hdigit).resolve_right fun hletter ↦ hnone (.inr ⟨c, hc, hletter⟩)

/-- Octal syntax is decimal unless it has a mark. -/
theorem IsSyntax.isMarked_of_not_decimal (h : octal.IsSyntax payload)
    (hdecimal : ¬decimal.IsSyntax payload) : octal.IsMarked payload := by
  have hdigits : ∀ c ∈ octal.digitChars, c ∈ decimal.digitChars := by decide
  exact h.isMarked_or.resolve_right fun hall ↦ hdecimal (hall decimal fun c _ ↦ hdigits c)

/-! ### The choice -/

/-- Decimal is chosen for all that is decimal. -/
theorem of?_eq_decimal_iff : of? payload = some decimal ↔ decimal.IsSyntax payload := by
  rw [of?_eq_some_iff, IsFirstFor, accepts_iff]
  exact and_iff_left (by simp [all])

/-- Hexadecimal is chosen for what shows that it is: by its mark or by a letter. -/
theorem of?_eq_hexadecimal_iff : of? payload = some hexadecimal ↔ hexadecimal.IsSyntax payload ∧
    (hexadecimal.IsMarked payload ∨ ∃ c ∈ payload, c ∈ letters) := by
  have hbefore : all.takeWhile (· ≠ hexadecimal) = [decimal] := rfl
  rw [of?_eq_some_iff, IsFirstFor, accepts_iff, hbefore, List.forall_mem_singleton,
    Bool.eq_false_iff, ne_eq, accepts_iff]
  refine and_congr_right fun h ↦ ?_
  rw [h.decimal_iff, not_not]

/-- Octal is chosen for what has its mark, and never for bare digits. -/
theorem of?_eq_octal_iff : of? payload = some octal ↔ octal.IsMarked payload := by
  have hbefore : all.takeWhile (· ≠ octal) = [decimal, hexadecimal] := rfl
  rw [of?_eq_some_iff, IsFirstFor, accepts_iff, hbefore, List.forall_mem_cons,
    List.forall_mem_singleton, Bool.eq_false_iff, Bool.eq_false_iff, ne_eq, ne_eq, accepts_iff,
    accepts_iff]
  constructor
  · rintro ⟨hoctal, hdecimal, -⟩
    exact hoctal.isMarked_of_not_decimal hdecimal
  · intro h
    exact ⟨h.isSyntax, h.not_isSyntax (by decide), h.not_isSyntax (by decide)⟩

/-- What it comes to that the first of the bases that accept is chosen. -/
structure ChosenByForm (payload : Text) : Prop where
  /-- A base accepts what is spelled in it. -/
  accepts_iff : ∀ b : Base, b.accepts payload = true ↔ b.IsSyntax payload
  /-- What can be decimal is. -/
  decimal : of? payload = some decimal ↔ decimal.IsSyntax payload
  /-- Without a mark nothing is octal. -/
  octal : of? payload = some octal ↔ octal.IsMarked payload
  /-- What is hexadecimal has a mark or a letter among its digits. -/
  hexadecimal : of? payload = some hexadecimal ↔ hexadecimal.IsSyntax payload ∧
    (hexadecimal.IsMarked payload ∨ ∃ c ∈ payload, c ∈ letters)
  /-- There is no base for anything else. -/
  none : of? payload = none ↔ ¬Base.decimal.IsSyntax payload ∧ ¬Base.octal.IsMarked payload ∧
    ¬(Base.hexadecimal.IsSyntax payload ∧
      (Base.hexadecimal.IsMarked payload ∨ ∃ c ∈ payload, c ∈ letters))
  /-- Decimal syntax is hexadecimal as well. -/
  hexadecimal_of_decimal : Base.decimal.IsSyntax payload → Base.hexadecimal.IsSyntax payload
  /-- Under the mark of octal nothing is hexadecimal. -/
  disjoint : ¬(Base.octal.IsMarked payload ∧ Base.hexadecimal.IsSyntax payload)

/-- **The base of an integer is told by its form.** -/
theorem chosenByForm (payload : Text) : ChosenByForm payload where
  accepts_iff _ := accepts_iff
  decimal := of?_eq_decimal_iff
  octal := of?_eq_octal_iff
  hexadecimal := of?_eq_hexadecimal_iff
  none := by
    rw [← of?_eq_decimal_iff, ← of?_eq_octal_iff, ← of?_eq_hexadecimal_iff]
    cases h : of? payload with
    | none => simp
    | some b => cases b <;> simp
  hexadecimal_of_decimal := IsSyntax.hexadecimal_of_decimal
  disjoint h := h.1.not_isSyntax (by decide) h.2

/-- A mark that begins with a digit, the letter of a mark that is a digit, and an underscore behind
a mark. -/
example : of? "017".toList = some decimal ∧ of? "0b1".toList = some hexadecimal ∧
    of? "-0X_f".toList = some hexadecimal ∧ of? "+0o_1_7".toList = some octal ∧
    of? "0o".toList = none ∧ of? "0x__1".toList = none := by decide

end Base

end ThreeAddress
