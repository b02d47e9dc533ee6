import ThreeAddress.Proofs.Text.Lines
import ThreeAddress.Xml.Reading

/-!
# Escaping is undone

An escaped text is a sequence of pieces, one for each character, and `unescape` takes one piece at a
time off its front, whatever comes after it (`unescape_escapeChar_append`). So it inverts every
writer that works character by character with pieces of this sort (`unescape_flatMap`), which covers
the text of an element and the value of an attribute with one induction.

Where such a text ends can be told without reading it: no piece contains the mark behind it, which
is the angle bracket of the next tag, or the quotation mark (`lt_not_mem_escapeText`,
`quote_not_mem_escapeAttribute`). No piece contains a line break that its character is not.
-/

namespace ThreeAddress.Xml

open Text

theorem escapeChar_of_ne {c : Char} (hamp : c ≠ '&') (hlt : c ≠ '<') (hgt : c ≠ '>') :
    escapeChar c = [c] := by
  unfold escapeChar
  split
  · exact absurd rfl hamp
  · exact absurd rfl hlt
  · exact absurd rfl hgt
  · rfl

theorem unescape_cons {c : Char} (hc : c ≠ '&') (t : Text) :
    unescape (c :: t) = c :: unescape t := by
  rw [unescape]
  · exact fun _ h ↦ absurd h hc
  · exact fun _ h ↦ absurd h hc
  · exact fun _ h ↦ absurd h hc
  · exact fun _ h ↦ absurd h hc

/-- The piece of a character is taken off as that character. -/
theorem unescape_escapeChar_append (c : Char) (t : Text) :
    unescape (escapeChar c ++ t) = c :: unescape t := by
  by_cases hamp : c = '&'
  · subst hamp
    rfl
  by_cases hlt : c = '<'
  · subst hlt
    rfl
  by_cases hgt : c = '>'
  · subst hgt
    rfl
  rw [escapeChar_of_ne hamp hlt hgt]
  exact unescape_cons hamp t

/-- A character of an attribute is read back, with any text behind it. -/
theorem unescape_escapeAttributeChar_append (c : Char) (t : Text) :
    unescape (escapeAttributeChar c ++ t) = c :: unescape t := by
  by_cases hquote : c = '"'
  · subst hquote
    rfl
  · rw [escapeAttributeChar, if_neg hquote]
    exact unescape_escapeChar_append c t

/-- If each character is read back with any text behind it, so is a text. -/
theorem unescape_flatMap {f : Char → Text} (hf : ∀ c t, unescape (f c ++ t) = c :: unescape t)
    (t : Text) : unescape (t.flatMap f) = t := by
  induction t with
  | nil => rfl
  | cons c t ih => rw [List.flatMap_cons, hf, ih]

/-- **The text of an element is read back.** -/
theorem unescape_escapeText (t : Text) : unescape (escapeText t) = t :=
  unescape_flatMap unescape_escapeChar_append t

/-- **The value of an attribute is read back.** -/
theorem unescape_escapeAttribute (t : Text) : unescape (escapeAttribute t) = t :=
  unescape_flatMap unescape_escapeAttributeChar_append t

/-! ### Where an escaped text ends -/

/-- An escaped text cannot begin a tag. -/
theorem lt_not_mem_escapeText (t : Text) : '<' ∉ escapeText t := by
  intro h
  obtain ⟨c, -, hc⟩ := List.mem_flatMap.1 h
  exact lt_not_mem_escapeChar c hc

theorem quote_not_mem_escapeChar {c : Char} (hc : c ≠ '"') : '"' ∉ escapeChar c := by
  unfold escapeChar
  split
  · decide
  · decide
  · decide
  · simpa using Ne.symm hc

/-- An escaped attribute does not end before its quotation mark. -/
theorem quote_not_mem_escapeAttribute (t : Text) : '"' ∉ escapeAttribute t := by
  intro h
  obtain ⟨c, -, hc⟩ := List.mem_flatMap.1 h
  by_cases hquote : c = '"'
  · subst hquote
    exact absurd hc (by decide)
  · rw [escapeAttributeChar, if_neg hquote] at hc
    exact quote_not_mem_escapeChar hquote hc

/-! ### Escaping breaks no line -/

/-- If no character is escaped as a break, a text breaks where it did before. -/
theorem unbroken_flatMap {f : Char → Text} {t : Text}
    (hf : ∀ c, c ≠ '\r' ∧ c ≠ '\n' → Unbroken (f c)) (h : Unbroken t) : Unbroken (t.flatMap f) := by
  intro d hd
  obtain ⟨c, hc, hd⟩ := List.mem_flatMap.1 hd
  exact hf c (h c hc) d hd

theorem unbroken_escapeChar {c : Char} (h : c ≠ '\r' ∧ c ≠ '\n') : Unbroken (escapeChar c) := by
  unfold escapeChar
  split
  · decide
  · decide
  · decide
  · exact unbroken_cons_iff.2 ⟨h, unbroken_nil⟩

theorem unbroken_escapeText {t : Text} (h : Unbroken t) : Unbroken (escapeText t) :=
  unbroken_flatMap (fun _ ↦ unbroken_escapeChar) h

theorem unbroken_escapeAttribute {t : Text} (h : Unbroken t) : Unbroken (escapeAttribute t) := by
  refine unbroken_flatMap (fun c hc ↦ ?_) h
  by_cases hquote : c = '"'
  · subst hquote
    decide
  · rw [escapeAttributeChar, if_neg hquote]
    exact unbroken_escapeChar hc

end ThreeAddress.Xml
