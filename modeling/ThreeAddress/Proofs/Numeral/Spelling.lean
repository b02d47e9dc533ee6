import ThreeAddress.Proofs.Operand.Spelling

/-!
# How integers are spelled

The spelling of an integer has three parts: a sign or nothing, a mark of the base or nothing, and a
*body* of digits, in which underscores stand one at a time and never last. `Base.IsSpelling` says
this of four texts, the whole and its parts, and `Base.accepts_iff` that a base accepts exactly the
texts which have such parts.

The scanner never looks for the parts, it takes off what it finds in front. That nothing else could
have been taken off rests on characters alone: no digit is a sign, so that the sign is told from the
rest (`IsSpelling.unsigned_eq`), and the letter in the mark of a base is no digit of that base, so
that a body is never taken to begin with a mark (`IsBody.afterMark?_eq_none`).
-/

namespace ThreeAddress

open Text Numeral

/-- What may stand before an integer as its sign, the empty text if it has none. -/
def Numeral.signs : List Text := [[], ['+'], ['-']]

namespace Base

variable {b b' : Base} {payload sign mark body t : Text} {c : Char}

/-- The characters that are digits of the base. -/
def digitChars : Base → Text
  | decimal => "0123456789".toList
  | hexadecimal => "0123456789abcdefABCDEF".toList
  | octal => "01234567".toList

/-- What may stand before the digits to tell the base, the empty text if nothing does. -/
def marks : Base → List Text
  | decimal => [[]]
  | hexadecimal => [[], "0x".toList, "0X".toList]
  | octal => [[], "0o".toList, "0O".toList]

/-- The characters that are of use in spellings of the base. -/
def characters (b : Base) : Text := "+-_".toList ++ b.marks.flatten ++ b.digitChars

/-- The text is digits of the base, and underscores of which none is the last character and no two
stand together. -/
structure IsBody (b : Base) (t : Text) : Prop where
  ne_nil : t ≠ []
  mem : ∀ c ∈ t, c ∈ b.digitChars ∨ c = '_'
  getLast?_ne : t.getLast? ≠ some '_'
  no_pair : ¬['_', '_'] <:+: t

/-- The payload is spelled in the base, with these parts. -/
structure IsSpelling (b : Base) (payload sign mark body : Text) : Prop where
  eq_append : payload = sign ++ mark ++ body
  sign_mem : sign ∈ signs
  mark_mem : mark ∈ b.marks
  isBody : b.IsBody body
  /-- Only behind a mark may the body begin with an underscore. -/
  mark_ne_nil : body.head? = some '_' → mark ≠ []

/-- The payload is spelled in the base. -/
def IsSyntax (b : Base) (payload : Text) : Prop :=
  ∃ sign mark body, b.IsSpelling payload sign mark body

/-- The payload is spelled in the base and has its mark. -/
def IsMarked (b : Base) (payload : Text) : Prop :=
  ∃ sign mark body, b.IsSpelling payload sign mark body ∧ mark ≠ []

/-! ### Digits -/

/-- A digit is below 128: letters and decimal digits are. -/
theorem toNat_lt_of_digit (h : b.isDigit c = true) : c.toNat < 128 := by
  have hvalue : digitValue c < 36 := by
    have hradix : b.radix ≤ 36 := by cases b <;> decide
    exact Nat.lt_of_lt_of_le (of_decide_eq_true h) hradix
  rw [digitValue] at hvalue
  split_ifs at hvalue with hdigit hlower hupper
  · exact toNat_lt_of_isDigit hdigit
  · exact toNat_lt_of_isAlpha (isAlpha_iff.2 (.inr hlower))
  · exact toNat_lt_of_isAlpha (isAlpha_iff.2 (.inl hupper))
  · omega

/-- The characters listed as digits of a base are those that the reader takes for its digits. -/
theorem mem_digitChars_iff : c ∈ b.digitChars ↔ b.isDigit c = true := by
  constructor
  · have hall : ∀ c ∈ b.digitChars, b.isDigit c = true := by cases b <;> decide
    exact hall c
  · intro h
    have hall : ∀ c : Char, c.toNat < 128 → b.isDigit c = true → c ∈ b.digitChars :=
      of_toNat_lt (by cases b <;> decide +kernel)
    exact hall c (toNat_lt_of_digit h) h

theorem underscore_not_mem_digitChars : '_' ∉ b.digitChars := by
  cases b <;> decide

theorem isBody_singleton_iff : b.IsBody [c] ↔ c ∈ b.digitChars := by
  constructor
  · intro h
    rcases h.mem c List.mem_cons_self with hc | rfl
    · exact hc
    · exact absurd rfl h.getLast?_ne
  · intro hc
    have hne : c ≠ '_' := fun h ↦ underscore_not_mem_digitChars (h ▸ hc)
    exact ⟨by simp, by simp [hc], by simpa using hne, fun h ↦ absurd h.length_le (by simp)⟩

/-- A character before a body is a digit or a single underscore. -/
theorem isBody_cons_cons_iff {d : Char} : b.IsBody (c :: d :: t) ↔
    (c ∈ b.digitChars ∨ c = '_') ∧ ¬(c = '_' ∧ d = '_') ∧ b.IsBody (d :: t) := by
  have hpairs : ['_', '_'] <:+: c :: d :: t ↔ (c = '_' ∧ d = '_') ∨ ['_', '_'] <:+: d :: t := by
    rw [List.infix_cons_iff, List.cons_prefix_cons, List.cons_prefix_cons]
    simp [eq_comm]
  constructor
  · rintro ⟨-, hmem, hlast, hsingle⟩
    rw [hpairs, not_or] at hsingle
    obtain ⟨hc, hmem⟩ := List.forall_mem_cons.1 hmem
    exact ⟨hc, hsingle.1, by simp, hmem, by rwa [List.getLast?_cons_cons] at hlast, hsingle.2⟩
  · rintro ⟨hc, hpair, -, hmem, hlast, hsingle⟩
    exact ⟨by simp, List.forall_mem_cons.2 ⟨hc, hmem⟩, by rwa [List.getLast?_cons_cons],
      fun h ↦ (hpairs.1 h).elim hpair hsingle⟩

/-- An underscore in front is taken off a body, unless there are two. -/
theorem isBody_underscore_iff : b.IsBody ('_' :: t) ↔ b.IsBody t ∧ t.head? ≠ some '_' := by
  cases t with
  | nil =>
    refine ⟨fun h ↦ absurd (isBody_singleton_iff.1 h) underscore_not_mem_digitChars, ?_⟩
    exact fun h ↦ absurd rfl h.1.ne_nil
  | cons d t =>
    rw [isBody_cons_cons_iff]
    simp [and_comm]

/-- A digit may stand before any body. -/
theorem isBody_digit_cons_iff {d : Char} :
    b.IsBody (c :: d :: t) ∧ (c :: d :: t).head? ≠ some '_' ↔
      b.isDigit c = true ∧ b.IsBody (d :: t) := by
  rw [isBody_cons_cons_iff, ← mem_digitChars_iff]
  constructor
  · rintro ⟨⟨hc, -, hbody⟩, hne⟩
    exact ⟨hc.resolve_right (by simpa using hne), hbody⟩
  · rintro ⟨hc, hbody⟩
    have hne : c ≠ '_' := fun h ↦ underscore_not_mem_digitChars (h ▸ hc)
    exact ⟨⟨.inl hc, fun h ↦ hne h.1, hbody⟩, by simpa using hne⟩

/-- Digits with single underscores between some of them are a body that begins with a digit. -/
theorem isDigits_iff : b.isDigits t = true ↔ b.IsBody t ∧ t.head? ≠ some '_' := by
  fun_induction isDigits b t with
  | case1 => exact iff_of_false (by simp) fun h ↦ h.1.ne_nil rfl
  | case2 c =>
    rw [isBody_singleton_iff, ← mem_digitChars_iff]
    refine ⟨fun hc ↦ ⟨hc, ?_⟩, fun h ↦ h.1⟩
    rintro ⟨⟩
    exact underscore_not_mem_digitChars hc
  | case3 c t ih =>
    rw [Bool.and_eq_true, ih, isBody_digit_cons_iff, isBody_underscore_iff]
  | case4 c t hnil hunderscore ih =>
    obtain ⟨d, t, rfl⟩ := List.exists_cons_of_ne_nil hnil
    have hd : (d :: t).head? ≠ some '_' := by
      rintro ⟨⟩
      exact hunderscore t rfl
    rw [Bool.and_eq_true, ih, isBody_digit_cons_iff, and_iff_left hd]

/-! ### Marks and signs -/

theorem isAlpha_of_isAlpha_toLower {c : Char} (h : c.toLower.isAlpha = true) :
    c.isAlpha = true := by
  by_cases hupper : c.isUpper = true
  · exact isAlpha_iff.2 (.inl hupper)
  · have hlower : c.toLower = c := dif_neg fun h ↦ hupper (decide_eq_true h)
    rwa [hlower] at h

/-- The letter in the mark of a base is a letter in lower case, and lower case changes letters
only. -/
theorem isAlpha_of_mark? {c : Char} (h : b.mark? = some c.toLower) : c.isAlpha = true := by
  refine isAlpha_of_isAlpha_toLower ?_
  cases b with
  | decimal => exact absurd h (by simp [mark?])
  | hexadecimal => rw [← Option.some.inj h]; decide
  | octal => rw [← Option.some.inj h]; decide

theorem nil_mem_marks : [] ∈ b.marks := by
  cases b <;> decide

/-- The marks that are listed are those that the reader looks for, in either case of the letter. -/
theorem mem_marks_iff : ['0', c] ∈ b.marks ↔ b.mark? = some c.toLower := by
  constructor
  · intro h
    cases b with
    | decimal => exact absurd h (by simp [marks])
    | hexadecimal =>
      obtain rfl | rfl : c = 'x' ∨ c = 'X' := by simpa [marks] using h
      · decide
      · decide
    | octal =>
      obtain rfl | rfl : c = 'o' ∨ c = 'O' := by simpa [marks] using h
      · decide
      · decide
  · intro h
    have hall : ∀ c : Char, c.toNat < 128 → b.mark? = some c.toLower → ['0', c] ∈ b.marks :=
      of_toNat_lt (by cases b <;> decide +kernel)
    exact hall c (toNat_lt_of_isAlpha (isAlpha_of_mark? h)) h

/-- The mark of a base is a zero and a letter, and the letter is no digit of the base. -/
theorem exists_letter_of_mem_marks (h : mark ∈ b.marks) (hne : mark ≠ []) :
    ∃ c, mark = ['0', c] ∧ c ∉ b.digitChars ∧ c ≠ '_' := by
  cases b with
  | decimal => exact absurd (by simpa [marks] using h) hne
  | hexadecimal =>
    obtain rfl | rfl | rfl : mark = [] ∨ mark = ['0', 'x'] ∨ mark = ['0', 'X'] := by
      simpa [marks] using h
    · exact absurd rfl hne
    · exact ⟨'x', rfl, by decide, by decide⟩
    · exact ⟨'X', rfl, by decide, by decide⟩
  | octal =>
    obtain rfl | rfl | rfl : mark = [] ∨ mark = ['0', 'o'] ∨ mark = ['0', 'O'] := by
      simpa [marks] using h
    · exact absurd rfl hne
    · exact ⟨'o', rfl, by decide, by decide⟩
    · exact ⟨'O', rfl, by decide, by decide⟩

/-- What comes after a mark is found exactly when the text begins with one. -/
theorem afterMark?_eq_some_iff :
    b.afterMark? t = some body ↔ ∃ mark ∈ b.marks, mark ≠ [] ∧ t = mark ++ body := by
  constructor
  · intro h
    unfold afterMark? at h
    split at h
    case h_1 c t =>
      obtain ⟨hmark, heq⟩ := Option.ite_none_right_eq_some.1 h
      exact ⟨['0', c], mem_marks_iff.2 hmark, by simp, by rw [Option.some.inj heq]; rfl⟩
    case h_2 => exact absurd h (by simp)
  · rintro ⟨mark, hmark, hne, rfl⟩
    obtain ⟨c, rfl, -⟩ := exists_letter_of_mem_marks hmark hne
    exact if_pos (mem_marks_iff.1 hmark)

/-- A body does not begin with a mark, whose letter is no digit. -/
theorem IsBody.afterMark?_eq_none (h : b.IsBody body) : b.afterMark? body = none := by
  rw [Option.eq_none_iff_forall_ne_some]
  intro rest hrest
  obtain ⟨mark, hmark, hne, rfl⟩ := afterMark?_eq_some_iff.1 hrest
  obtain ⟨c, rfl, hdigit, hunderscore⟩ := exists_letter_of_mem_marks hmark hne
  rcases h.mem c (by simp) with hc | hc
  · exact hdigit hc
  · exact hunderscore hc

/-- Taking the sign off leaves the rest of the payload. -/
theorem exists_sign (payload : Text) : ∃ sign ∈ signs, payload = sign ++ unsigned payload := by
  fun_cases unsigned payload with
  | case1 t => exact ⟨['+'], by simp [signs], rfl⟩
  | case2 t => exact ⟨['-'], by simp [signs], rfl⟩
  | case3 => exact ⟨[], by simp [signs], rfl⟩

/-- Without a sign there is nothing to take off. -/
theorem unsigned_eq_self (hplus : '+' ∉ t) (hminus : '-' ∉ t) : unsigned t = t := by
  fun_cases unsigned t with
  | case1 t => exact absurd List.mem_cons_self hplus
  | case2 t => exact absurd List.mem_cons_self hminus
  | case3 => rfl

/-- A sign is taken off as a whole, and only once. -/
theorem unsigned_append (hsign : sign ∈ signs) (hplus : '+' ∉ t) (hminus : '-' ∉ t) :
    unsigned (sign ++ t) = t := by
  obtain rfl | rfl | rfl : sign = [] ∨ sign = ['+'] ∨ sign = ['-'] := by simpa [signs] using hsign
  · exact unsigned_eq_self hplus hminus
  · rfl
  · rfl

/-! ### The parts of a spelling -/

namespace IsSpelling

variable (h : b.IsSpelling payload sign mark body)

include h

/-- A sign stands in front only. -/
theorem sign_not_mem : '+' ∉ mark ++ body ∧ '-' ∉ mark ++ body := by
  have hmarks : ∀ mark ∈ b.marks, '+' ∉ mark ∧ '-' ∉ mark := by cases b <;> decide
  have hdigits : '+' ∉ b.digitChars ∧ '-' ∉ b.digitChars := by cases b <;> decide
  obtain ⟨hplus, hminus⟩ := hmarks mark h.mark_mem
  constructor
  · refine List.not_mem_append hplus fun hmem ↦ ?_
    exact (h.isBody.mem _ hmem).elim hdigits.1 (by decide)
  · refine List.not_mem_append hminus fun hmem ↦ ?_
    exact (h.isBody.mem _ hmem).elim hdigits.2 (by decide)

/-- Without its sign, a spelling is its mark and its body. -/
theorem unsigned_eq : unsigned payload = mark ++ body := by
  rw [h.eq_append, List.append_assoc]
  exact unsigned_append h.sign_mem h.sign_not_mem.1 h.sign_not_mem.2

/-- A spelling is negative just if its sign is a minus. -/
theorem isNegative_iff : isNegative payload = true ↔ sign = ['-'] := by
  have hminus : (mark ++ body).head? ≠ some '-' := fun hhead ↦
    h.sign_not_mem.2 (List.mem_of_mem_head? hhead)
  rw [isNegative, beq_iff_eq, h.eq_append, List.append_assoc]
  obtain rfl | rfl | rfl : sign = [] ∨ sign = ['+'] ∨ sign = ['-'] := by
    simpa [signs] using h.sign_mem
  · simpa using hminus
  · simp
  · simp

/-- Taking off the mark leaves the body, and there is nothing to take off where there is none. -/
theorem afterMark?_eq :
    b.afterMark? (unsigned payload) = if mark = [] then none else some body := by
  rw [h.unsigned_eq]
  split_ifs with hmark
  · rw [hmark]
    exact h.isBody.afterMark?_eq_none
  · exact afterMark?_eq_some_iff.2 ⟨mark, h.mark_mem, hmark, rfl⟩

/-- A spelling is made of signs, marks, digits and underscores. -/
theorem mem_characters : ∀ c ∈ payload, c ∈ b.characters := by
  have hsigns : ∀ sign ∈ signs, ∀ c ∈ sign, c ∈ "+-_".toList := by decide
  have hmark : ∀ c ∈ mark, c ∈ b.marks.flatten := fun c hc ↦
    List.mem_flatten.2 ⟨mark, h.mark_mem, hc⟩
  intro c hc
  rw [characters, List.mem_append, List.mem_append]
  rw [h.eq_append, List.mem_append, List.mem_append] at hc
  rcases hc with (hc | hc) | hc
  · exact .inl (.inl (hsigns sign h.sign_mem c hc))
  · exact .inl (.inr (hmark c hc))
  · rcases h.isBody.mem c hc with hc | rfl
    · exact .inr hc
    · exact .inl (.inl (by decide))

end IsSpelling

/-! ### What a base accepts -/

/-- With a mark, what follows it has to be a body; an underscore may come first. -/
theorem accepts_iff_of_afterMark?_eq_some (h : b.afterMark? (unsigned payload) = some body) :
    b.accepts payload = true ↔ b.IsBody body := by
  rw [accepts, h]
  split
  case h_1 digits heq =>
    obtain rfl := Option.some.inj heq
    rw [isDigits_iff, isBody_underscore_iff]
  case h_2 digits hne heq =>
    obtain rfl := Option.some.inj heq
    rw [isDigits_iff, and_iff_left]
    intro hhead
    obtain ⟨t, rfl⟩ := List.head?_eq_some_iff.1 hhead
    exact hne t rfl
  case h_3 heq => exact absurd heq (by simp)

/-- Without a mark, the whole of it has to be a body that begins with a digit. -/
theorem accepts_iff_of_afterMark?_eq_none (h : b.afterMark? (unsigned payload) = none) :
    b.accepts payload = true ↔
      b.IsBody (unsigned payload) ∧ (unsigned payload).head? ≠ some '_' := by
  rw [accepts, h, isDigits_iff]

/-- **A base accepts the texts that are spelled in it.** -/
theorem accepts_iff : b.accepts payload = true ↔ b.IsSyntax payload := by
  constructor
  · intro haccepts
    obtain ⟨sign, hsign, hpayload⟩ := exists_sign payload
    cases hmark : b.afterMark? (unsigned payload) with
    | none =>
      -- no mark is found, so the mark of the spelling is the empty one
      obtain ⟨hbody, hhead⟩ := (accepts_iff_of_afterMark?_eq_none hmark).1 haccepts
      exact ⟨sign, [], unsigned payload, by rw [List.append_nil, ← hpayload], hsign, nil_mem_marks,
        hbody, fun h ↦ absurd h hhead⟩
    | some body =>
      obtain ⟨mark, hmem, hne, happend⟩ := afterMark?_eq_some_iff.1 hmark
      exact ⟨sign, mark, body, by rw [List.append_assoc, ← happend, ← hpayload], hsign, hmem,
        (accepts_iff_of_afterMark?_eq_some hmark).1 haccepts, fun _ ↦ hne⟩
  · rintro ⟨sign, mark, body, h⟩
    have hafter := h.afterMark?_eq
    split_ifs at hafter with hmark
    · refine (accepts_iff_of_afterMark?_eq_none hafter).2 ?_
      rw [h.unsigned_eq, hmark]
      exact ⟨h.isBody, fun hhead ↦ h.mark_ne_nil hhead hmark⟩
    · exact (accepts_iff_of_afterMark?_eq_some hafter).2 h.isBody

end Base

end ThreeAddress
