/-!
# Text

Source text is a list of characters, so that a statement about it is an induction on a list. Two
measures live on it: its *length* counts characters, its *byte length* counts the bytes of the
UTF-8 encoding. Positions in a line are byte offsets, because that is what a tool that reads the
file needs; `slice?` is the one place where an offset is turned back into text.

An offset may be meaningless: past the end, or inside a character. `splitAtByte?` has no value
there, and its characterisation `splitAtByte?_eq_some_iff` says that these are the only two reasons.
-/

namespace ThreeAddress

/-- Text, as the list of its characters. -/
abbrev Text := List Char

/-- What is asked of all characters of a text is decided by looking at each. -/
instance {p : Char → Prop} [DecidablePred p] (t : Text) : Decidable (∀ c ∈ t, p c) :=
  List.decidableBAll p t

/-- A range of byte offsets, from `start` up to and not including `stop`. -/
structure Span where
  /-- The offset of the first byte. -/
  start : Nat
  /-- The offset after the last byte. -/
  stop : Nat
  deriving DecidableEq, Repr

namespace Text

/-- The number of bytes of the UTF-8 encoding. -/
def byteLength : Text → Nat
  | [] => 0
  | c :: t => c.utf8Size + byteLength t

@[simp] theorem byteLength_nil : byteLength [] = 0 := rfl

@[simp] theorem byteLength_cons (c : Char) (t : Text) :
    byteLength (c :: t) = c.utf8Size + byteLength t := rfl

@[simp] theorem byteLength_append (s t : Text) :
    byteLength (s ++ t) = byteLength s + byteLength t := by
  induction s with
  | nil => simp
  | cons c s ih => simp [ih, Nat.add_assoc]

/-- Every character has a byte. -/
theorem byteLength_eq_zero_iff {t : Text} : byteLength t = 0 ↔ t = [] := by
  cases t with
  | nil => simp
  | cons c t =>
    have := c.utf8Size_pos
    simp only [byteLength_cons, reduceCtorEq, iff_false]
    omega

/-- Of two beginnings of a text the one with fewer bytes is a beginning of the other. -/
theorem exists_of_append_eq_append {s s' t t' : Text} (h : s ++ s' = t ++ t')
    (hle : byteLength s ≤ byteLength t) : ∃ between, t = s ++ between ∧ s' = between ++ t' := by
  rcases List.append_eq_append_iff.1 h with ⟨between, rfl, rfl⟩ | ⟨between, rfl, rfl⟩
  · exact ⟨between, rfl, rfl⟩
  · have hnil : between = [] := by
      rw [byteLength_append] at hle
      exact byteLength_eq_zero_iff.1 (by omega)
    exact ⟨[], by simp [hnil], by simp [hnil]⟩

/-- The bytes of the UTF-8 encoding. -/
def utf8 (t : Text) : List UInt8 := t.flatMap String.utf8EncodeChar

@[simp] theorem utf8_append (s t : Text) : utf8 (s ++ t) = utf8 s ++ utf8 t := by
  simp [utf8]

/-- The byte length counts the bytes of the encoding. -/
@[simp] theorem length_utf8 (t : Text) : (utf8 t).length = byteLength t := by
  induction t with
  | nil => rfl
  | cons c t ih =>
    have hc : (utf8 (c :: t)).length = (String.utf8EncodeChar c).length + (utf8 t).length := by
      simp [utf8]
    rw [hc, ih, String.length_utf8EncodeChar, byteLength_cons]

/-- A number in decimal digits. -/
def ofNat (n : Nat) : Text := Nat.toDigits 10 n

theorem isDigit_of_mem_ofNat {n : Nat} {c : Char} (h : c ∈ ofNat n) : c.isDigit = true :=
  Nat.isDigit_of_mem_toDigits (by decide) (by decide) h

/-- A number has nothing in it but digits. -/
theorem ne_of_mem_ofNat {n : Nat} {c d : Char} (h : c ∈ ofNat n) (hd : d.isDigit = false) :
    c ≠ d := by
  rintro rfl
  exact absurd (isDigit_of_mem_ofNat h) (by simp [hd])

/-- The number that a text of decimal digits denotes. -/
def toNat? (t : Text) : Option Nat :=
  if t ≠ [] ∧ t.all Char.isDigit then some (Nat.ofDigitChars 10 t 0) else none

/-! ### What follows a given beginning -/

/-- The text after `start`, if it begins with it. -/
def after? : Text → Text → Option Text
  | [], t => some t
  | c :: start, d :: t => if c = d then after? start t else none
  | _ :: _, [] => none

/-- What follows is found exactly when the text begins in the given way. -/
theorem after?_eq_some_iff {start t rest : Text} :
    after? start t = some rest ↔ t = start ++ rest := by
  fun_induction after? start t with
  | case1 t => simp
  | case2 start d t ih => simp [ih]
  | case3 c start d t hne => simp [Ne.symm hne]
  | case4 => simp

/-! ### Cutting at a byte offset -/

/-- The text before and after the first `n` bytes, if a character ends there. -/
def splitAtByte? : Text → Nat → Option (Text × Text)
  | t, 0 => some ([], t)
  | [], _ + 1 => none
  | c :: t, n + 1 =>
    if c.utf8Size ≤ n + 1 then
      (splitAtByte? t (n + 1 - c.utf8Size)).map fun cut ↦ (c :: cut.1, cut.2)
    else none

@[simp] theorem splitAtByte?_zero (t : Text) : splitAtByte? t 0 = some ([], t) := by
  cases t <;> rfl

/-- Cutting succeeds exactly where the text before the cut has `n` bytes. -/
theorem splitAtByte?_eq_some_iff {t before after : Text} {n : Nat} :
    splitAtByte? t n = some (before, after) ↔ t = before ++ after ∧ byteLength before = n := by
  induction t generalizing n before with
  | nil =>
    cases n with
    | zero => simp +contextual [eq_comm]
    | succ n =>
      simp only [splitAtByte?, reduceCtorEq, List.nil_eq, List.append_eq_nil_iff, false_iff,
        not_and]
      rintro ⟨rfl, -⟩
      simp
  | cons c t ih =>
    have hc := c.utf8Size_pos
    cases n with
    | zero =>
      rw [splitAtByte?_zero, byteLength_eq_zero_iff]
      constructor
      · rintro ⟨⟩; simp
      · rintro ⟨h, rfl⟩; simp [h]
    | succ n =>
      cases before with
      | nil =>
        simp only [splitAtByte?, List.nil_append, byteLength_nil]
        constructor
        · intro h; split at h <;> simp at h
        · rintro ⟨-, h⟩; omega
      | cons d before =>
        rw [splitAtByte?]
        by_cases hn : c.utf8Size ≤ n + 1
        · simp only [hn, ↓reduceIte, Option.map_eq_some_iff, Prod.mk.injEq, List.cons.injEq,
            Prod.exists, List.cons_append, byteLength_cons]
          constructor
          · rintro ⟨b, a, h, ⟨rfl, rfl⟩, rfl⟩
            obtain ⟨rfl, hb⟩ := ih.1 h
            exact ⟨⟨rfl, rfl⟩, by omega⟩
          · rintro ⟨⟨rfl, rfl⟩, h⟩
            exact ⟨before, after, ih.2 ⟨rfl, by omega⟩, ⟨rfl, rfl⟩, rfl⟩
        · simp only [hn, ↓reduceIte, reduceCtorEq, List.cons_append, List.cons.injEq,
            byteLength_cons, false_iff, not_and]
          rintro ⟨rfl, -⟩ h
          omega

/-! ### The text of a span -/

/-- The text from byte `s.start` to byte `s.stop`, if the span is in order, lies within the text
and cuts no character. -/
def slice? (t : Text) (s : Span) : Option Text :=
  if s.start ≤ s.stop then do
    let (_, rest) ← splitAtByte? t s.start
    let (inside, _) ← splitAtByte? rest (s.stop - s.start)
    return inside
  else none

/-- A slice is what stands between a text of `s.start` bytes and one that begins at `s.stop`. -/
theorem slice?_eq_some_iff {t inside : Text} {s : Span} :
    slice? t s = some inside ↔ ∃ before after, t = before ++ inside ++ after ∧
      byteLength before = s.start ∧ byteLength (before ++ inside) = s.stop := by
  unfold slice?
  by_cases h : s.start ≤ s.stop
  · simp only [h, ↓reduceIte, Option.bind_eq_bind, Option.bind_eq_some_iff, Option.pure_def,
      Option.some.injEq, Prod.exists]
    constructor
    · rintro ⟨before, rest, h₁, inside, after, h₂, rfl⟩
      obtain ⟨rfl, hb⟩ := splitAtByte?_eq_some_iff.1 h₁
      obtain ⟨rfl, hi⟩ := splitAtByte?_eq_some_iff.1 h₂
      exact ⟨before, after, by simp, hb, by simp; omega⟩
    · rintro ⟨before, after, rfl, hb, hi⟩
      rw [byteLength_append] at hi
      exact ⟨before, inside ++ after, splitAtByte?_eq_some_iff.2 ⟨by simp, hb⟩, inside, after,
        splitAtByte?_eq_some_iff.2 ⟨rfl, by omega⟩, rfl⟩
  · simp only [h, ↓reduceIte, reduceCtorEq, byteLength_append, false_iff, not_exists, not_and]
    intro before after _ h₁ h₂
    omega

end Text

end ThreeAddress
