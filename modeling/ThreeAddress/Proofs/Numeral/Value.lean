import Mathlib.Data.Nat.Digits.Defs
import ThreeAddress.Proofs.Numeral.Spelling
import ThreeAddress.Proofs.Operand.Reading

/-!
# The value of an integer is exact

A spelling *denotes* the number that its digits stand for in the radix of its base, below zero if
its sign is a minus (`Base.Denotes`); the value in an integer type is that number or nothing.

The type checks its range at every digit and not at the end. No number that belongs to it is lost by
that: the numbers read on the way lie between zero, which belongs to every type, and the number that
is read in the end (`IntType.contains_withSign_of_le`). So one more digit is read if and only if the
number up to it belongs to the type (`IntType.readDigits?_cons`), and all of them are read if and
only if the whole number does (`IntType.readDigits?_eq_some_iff`).

What the type is given are the parts of the spelling put together again: a minus if that is the
sign, and of the body the digits. Both have been found in the spelling by other means than those by
which it was accepted, and `Base.denotes_iff` is where the two views of it meet.
-/

namespace ThreeAddress

open Text Numeral

namespace Numeral

/-- The number that a digit stands for: its place among the sixteen, in either letter case. -/
def digitNumber (c : Char) : Nat := "0123456789abcdef".toList.idxOf c.toLower

/-- The number of the size, below zero if there is a minus. -/
def withSign (negative : Bool) (n : Nat) : Int := if negative then -n else n

@[simp] theorem withSign_zero (negative : Bool) : withSign negative 0 = 0 := by
  cases negative <;> rfl

theorem withSign_mul (negative : Bool) (n k : Nat) :
    withSign negative n * k = withSign negative (n * k) := by
  cases negative <;> simp [withSign]

/-- A digit is added away from zero, on the side of the sign. -/
theorem withSign_add (negative : Bool) (n d : Nat) :
    (if negative then withSign negative n - d else withSign negative n + d) =
      withSign negative (n + d) := by
  cases negative with
  | false => simp [withSign]
  | true =>
    show -(n : Int) - d = -((n + d : Nat) : Int)
    omega

/-- The digits from the first to the last, as the list of numbers from the last to the first. -/
def positional (radix : Nat) (ds : List Nat) : Nat := Nat.ofDigits radix ds.reverse

/-- The first digit counts most. -/
theorem positional_cons (radix d : Nat) (ds : List Nat) :
    positional radix (d :: ds) = d * radix ^ ds.length + positional radix ds := by
  rw [positional, positional, List.reverse_cons, Nat.ofDigits_append, Nat.ofDigits_singleton,
    List.length_reverse, Nat.mul_comm, Nat.add_comm]

end Numeral

namespace IntType

variable {ty : IntType} {radix n m : Nat} {negative : Bool} {c : Char} {t : Text} {v : Int}

/-! ### The range of a type -/

theorem least_le_zero (ty : IntType) : ty.least ≤ 0 := by
  have hpos : ∀ k : Nat, (0 : Int) < Int.pow 2 k := fun k ↦ Int.pow_pos (by decide)
  rw [least]
  split_ifs
  · have := hpos (ty.bits - 1)
    omega
  · omega

theorem zero_le_greatest (ty : IntType) : 0 ≤ ty.greatest := by
  have hpos : ∀ k : Nat, (0 : Int) < Int.pow 2 k := fun k ↦ Int.pow_pos (by decide)
  rw [greatest]
  split_ifs
  · have := hpos (ty.bits - 1)
    omega
  · have := hpos ty.bits
    omega

/-- **With a number all those between it and zero belong to the type.** -/
theorem contains_withSign_of_le (hle : n ≤ m) (h : ty.contains (withSign negative m) = true) :
    ty.contains (withSign negative n) = true := by
  rw [contains_iff] at h ⊢
  have hleast := ty.least_le_zero
  have hgreatest := ty.zero_le_greatest
  cases negative with
  | false =>
    simp only [withSign, Bool.false_eq_true, ↓reduceIte] at h ⊢
    omega
  | true =>
    simp only [withSign, ↓reduceIte] at h ⊢
    omega

/-! ### Reading digits -/

/-- **A digit is read if the number up to it belongs to the type.** -/
theorem readDigits?_cons (hc : digitValue c < radix) :
    ty.readDigits? radix negative (withSign negative n) (c :: t) =
      if ty.contains (withSign negative (n * radix + digitValue c)) then
        ty.readDigits? radix negative (withSign negative (n * radix + digitValue c)) t
      else none := by
  rw [readDigits?, if_pos hc, withSign_mul]
  by_cases hnext : ty.contains (withSign negative (n * radix + digitValue c)) = true
  · have hshifted := contains_withSign_of_le (Nat.le_add_right _ _) hnext
    rw [if_pos hnext, checked?_of_contains hshifted, Option.bind_eq_bind, Option.bind_some,
      withSign_add, checked?_of_contains hnext]
    rfl
  · rw [if_neg hnext]
    by_cases hshifted : ty.contains (withSign negative (n * radix)) = true
    · rw [checked?_of_contains hshifted, Option.bind_eq_bind, Option.bind_some, withSign_add,
        checked?_of_not_contains hnext]
      rfl
    · rw [checked?_of_not_contains hshifted]
      rfl

/-- **The digits are read if the whole number belongs to the type**, and it is what is read. -/
theorem readDigits?_eq_some_iff (hdigits : ∀ c ∈ t, digitValue c < radix)
    (hn : ty.contains (withSign negative n) = true) :
    ty.readDigits? radix negative (withSign negative n) t = some v ↔
      ty.contains v = true ∧
        withSign negative (n * radix ^ t.length + positional radix (t.map digitValue)) = v := by
  induction t generalizing n with
  | nil =>
    simp only [readDigits?, List.length_nil, pow_zero, Nat.mul_one, List.map_nil]
    constructor
    · intro h
      obtain rfl := Option.some.inj h
      exact ⟨hn, rfl⟩
    · rintro ⟨-, rfl⟩
      rfl
  | cons c t ih =>
    obtain ⟨hc, hdigits⟩ := List.forall_mem_cons.1 hdigits
    have hwhole : n * radix ^ (c :: t).length + positional radix ((c :: t).map digitValue) =
        (n * radix + digitValue c) * radix ^ t.length + positional radix (t.map digitValue) := by
      rw [List.map_cons, positional_cons, List.length_map, List.length_cons]
      ring
    rw [readDigits?_cons hc, hwhole]
    split_ifs with hnext
    · exact ih hdigits hnext
    · -- the number does not come back into the range with the digits that follow
      refine iff_of_false (by simp) ?_
      rintro ⟨hv, rfl⟩
      have hpos : 0 < radix ^ t.length := Nat.pow_pos (Nat.zero_lt_of_lt hc)
      have hle : n * radix + digitValue c ≤ (n * radix + digitValue c) * radix ^ t.length +
          positional radix (t.map digitValue) :=
        Nat.le_trans (Nat.le_mul_of_pos_right _ hpos) (Nat.le_add_right _ _)
      exact hnext (contains_withSign_of_le hle hv)

/-- A text of digits is read digit by digit, and behind a minus by types with a sign only. -/
theorem ofText?_eq (hne : t ≠ []) (hdigits : ∀ c ∈ t, digitValue c < radix)
    (hradix : radix ≤ digitValue '-') :
    ty.ofText? radix ((if negative then ['-'] else []) ++ t) =
      if negative = true ∧ ty.signed = false then none
      else ty.readDigits? radix negative (withSign negative 0) t := by
  obtain ⟨c, t, rfl⟩ := List.exists_cons_of_ne_nil hne
  have hsign : ∀ s, digitValue s = digitValue '-' → c ≠ s := by
    rintro s hs rfl
    have hc := hdigits c List.mem_cons_self
    omega
  cases negative with
  | false =>
    have hplus := hsign '+' rfl
    have hminus := hsign '-' rfl
    simp [ofText?, hplus, hminus]
  | true =>
    cases hsigned : ty.signed with
    | true => simp [ofText?, hsigned]
    | false =>
      have hminus : ¬digitValue '-' < radix := Nat.not_lt.2 hradix
      simp [ofText?, hsigned, readDigits?, hminus]

/-- **A text of digits is read if its number belongs to the type**, with a minus only if the type
has a sign. -/
theorem ofText?_eq_some_iff (hne : t ≠ []) (hdigits : ∀ c ∈ t, digitValue c < radix)
    (hradix : radix ≤ digitValue '-') :
    ty.ofText? radix ((if negative then ['-'] else []) ++ t) = some v ↔
      (negative = true → ty.signed = true) ∧ ty.contains v = true ∧
        withSign negative (positional radix (t.map digitValue)) = v := by
  have hzero : ty.contains (withSign negative 0) = true := by
    rw [withSign_zero, contains_iff]
    exact ⟨ty.least_le_zero, ty.zero_le_greatest⟩
  rw [ofText?_eq hne hdigits hradix]
  split_ifs with hminus
  · refine iff_of_false (by simp) fun h ↦ ?_
    rw [h.1 hminus.1] at hminus
    exact absurd hminus.2 (by simp)
  · rw [readDigits?_eq_some_iff hdigits hzero, Nat.zero_mul, Nat.zero_add]
    refine (and_iff_right fun hnegative ↦ ?_).symm
    simpa [hnegative] using hminus

end IntType

namespace Base

variable {b : Base} {ty : IntType} {payload sign mark body : Text} {c : Char} {v : Int}

/-- The payload is spelled in the base and denotes the number: plus or minus the sum of its digits,
each times the power of the radix that belongs to its place. -/
def Denotes (b : Base) (payload : Text) (v : Int) : Prop :=
  ∃ sign mark body, b.IsSpelling payload sign mark body ∧
    v = (if sign = ['-'] then -1 else 1) *
      Nat.ofDigits b.radix ((body.filter (· != '_')).map digitNumber).reverse

/-! ### The digits of a spelling -/

theorem digitValue_lt_of_mem (hc : c ∈ b.digitChars) : digitValue c < b.radix :=
  of_decide_eq_true (mem_digitChars_iff.1 hc)

/-- The reader gives each digit its place in the list of digits. -/
theorem digitValue_eq_of_mem (hc : c ∈ b.digitChars) : digitValue c = digitNumber c := by
  have hall : ∀ c ∈ b.digitChars, digitValue c = digitNumber c := by cases b <;> decide
  exact hall c hc

namespace IsSpelling

variable (h : b.IsSpelling payload sign mark body)

include h

/-- The digits are the body without its underscores. -/
theorem digits_eq : b.digits payload = body.filter (· != '_') := by
  rw [digits, h.afterMark?_eq, h.unsigned_eq]
  split_ifs with hmark
  · rw [hmark]
    rfl
  · rfl

/-- Nothing but digits of the base is left to be read. -/
theorem mem_digitChars_of_mem_digits (hc : c ∈ b.digits payload) : c ∈ b.digitChars := by
  rw [h.digits_eq, List.mem_filter, bne_iff_ne] at hc
  exact (h.isBody.mem c hc.1).resolve_right hc.2

/-- The last character of a body is a digit. -/
theorem digits_ne_nil : b.digits payload ≠ [] := by
  rw [h.digits_eq]
  obtain ⟨c, hc⟩ := Option.isSome_iff_exists.1 (List.getLast?_isSome.2 h.isBody.ne_nil)
  have hne : c ≠ '_' := fun hunderscore ↦ h.isBody.getLast?_ne (hunderscore ▸ hc)
  exact List.ne_nil_of_mem (List.mem_filter.2 ⟨List.mem_of_getLast? hc, by simpa using hne⟩)

end IsSpelling

/-- **The sign and the digits that are found in a spelling make up the number that it denotes.** -/
theorem denotes_iff : b.Denotes payload v ↔ b.accepts payload = true ∧
    withSign (isNegative payload) (positional b.radix ((b.digits payload).map digitValue)) = v := by
  have hparts : ∀ {sign mark body}, b.IsSpelling payload sign mark body →
      withSign (isNegative payload) (positional b.radix ((b.digits payload).map digitValue)) =
        (if sign = ['-'] then -1 else 1) *
          Nat.ofDigits b.radix ((body.filter (· != '_')).map digitNumber).reverse := by
    intro sign mark body h
    have hmap : (b.digits payload).map digitValue = (b.digits payload).map digitNumber :=
      List.map_congr_left fun c hc ↦ digitValue_eq_of_mem (h.mem_digitChars_of_mem_digits hc)
    rw [hmap, h.digits_eq, positional]
    by_cases hsign : sign = ['-']
    · rw [if_pos hsign, h.isNegative_iff.2 hsign, Int.neg_one_mul]
      rfl
    · have hplus : isNegative payload = false := by simpa using h.isNegative_iff.not.2 hsign
      rw [if_neg hsign, hplus, Int.one_mul]
      rfl
  rw [accepts_iff]
  constructor
  · rintro ⟨sign, mark, body, h, rfl⟩
    exact ⟨⟨sign, mark, body, h⟩, hparts h⟩
  · rintro ⟨⟨sign, mark, body, h⟩, rfl⟩
    exact ⟨sign, mark, body, h, hparts h⟩

/-! ### The value in a type -/

/-- A spelling has a value in a type if the number made up of its digits belongs to the type. -/
theorem value?_eq_some_iff : b.value? ty payload = some v ↔ b.Denotes payload v ∧
    ty.contains v = true ∧ (isNegative payload = true → ty.signed = true) := by
  rw [value?, Option.ite_none_right_eq_some, denotes_iff, and_assoc]
  refine and_congr_right fun haccepts ↦ ?_
  obtain ⟨sign, mark, body, h⟩ := accepts_iff.1 haccepts
  have hdigits : ∀ c ∈ b.digits payload, digitValue c < b.radix := fun c hc ↦
    digitValue_lt_of_mem (h.mem_digitChars_of_mem_digits hc)
  rw [IntType.ofText?_eq_some_iff h.digits_ne_nil hdigits (by cases b <;> decide)]
  tauto

theorem isNegative_iff_head? : isNegative payload = true ↔ payload.head? = some '-' := beq_iff_eq

/-- **The value of an integer is the number that it denotes, if that number belongs to the type.** A
type without a sign takes no minus. The value that an integer literal has in a program is the case
of 64 bits, where nothing is lost but what lies outside the range. -/
theorem value_is_exact :
    (∀ (b : Base) ty payload v, b.value? ty payload = some v ↔
      b.accepts payload = true ∧ b.Denotes payload v ∧ (ty.least ≤ v ∧ v ≤ ty.greatest) ∧
        (ty.signed = false → payload.head? ≠ some '-')) ∧
    (∀ token expected? payload base,
      (Operand.read token expected?).outcome = .ok (.literal (.int payload base)) →
      ∃ v, base.Denotes payload v ∧ ∀ w, (Literal.int payload base).int64? = some w ↔
        w = v ∧ -2 ^ 63 ≤ v ∧ v ≤ 2 ^ 63 - 1) := by
  constructor
  · intro b ty payload v
    rw [value?_eq_some_iff, IntType.contains_iff, isNegative_iff_head?]
    constructor
    · rintro ⟨hv, hrange, hsign⟩
      refine ⟨(denotes_iff.1 hv).1, hv, hrange, fun hsigned hminus ↦ ?_⟩
      exact absurd (hsign hminus) (by simp [hsigned])
    · rintro ⟨-, hv, hrange, hsign⟩
      refine ⟨hv, hrange, fun hminus ↦ ?_⟩
      by_contra hsigned
      exact hsign (by simpa using hsigned) hminus
  · intro token expected? payload base h
    obtain ⟨hfirst, -⟩ := Operand.wellSpelled_of_outcome_read h
    obtain ⟨v, hv⟩ : ∃ v, base.Denotes payload v := ⟨_, denotes_iff.2 ⟨hfirst.1, rfl⟩⟩
    refine ⟨v, hv, fun w ↦ ?_⟩
    have hrange : IntType.int64.least = -2 ^ 63 ∧ IntType.int64.greatest = 2 ^ 63 - 1 := by decide
    rw [Literal.int64?, value?_eq_some_iff, IntType.contains_iff, hrange.1, hrange.2]
    constructor
    · rintro ⟨hw, hbounds, -⟩
      obtain rfl : w = v := (denotes_iff.1 hw).2.symm.trans (denotes_iff.1 hv).2
      exact ⟨rfl, hbounds⟩
    · rintro ⟨rfl, hbounds⟩
      exact ⟨hv, hbounds, fun _ ↦ rfl⟩

/-- The least value of 64 bits, with all that a spelling may have, and the number below it. -/
theorem value_is_exact_at_least :
    (Literal.int "-0X_8000_0000_0000_0000".toList .hexadecimal).int64? = some (-2 ^ 63) ∧
    (Literal.int "-9223372036854775809".toList .decimal).int64? = none := by
  have hleast : (Operand.read "int@-0X_8000_0000_0000_0000".toList none).outcome =
      .ok (.literal (.int "-0X_8000_0000_0000_0000".toList .hexadecimal)) := by decide +kernel
  have hbelow : (Operand.read "int@-9223372036854775809".toList (some .symb)).outcome =
      .ok (.literal (.int "-9223372036854775809".toList .decimal)) := by decide +kernel
  obtain ⟨v, hv, hvalue⟩ := value_is_exact.2 _ _ _ _ hleast
  obtain ⟨w, hw, hnone⟩ := value_is_exact.2 _ _ _ _ hbelow
  obtain rfl : -2 ^ 63 = v := by
    rw [← (denotes_iff.1 hv).2]
    decide +kernel
  obtain rfl : -2 ^ 63 - 1 = w := by
    rw [← (denotes_iff.1 hw).2]
    decide +kernel
  refine ⟨(hvalue _).2 ⟨rfl, by decide, by decide⟩, ?_⟩
  rw [Option.eq_none_iff_forall_ne_some]
  intro u hu
  exact absurd ((hnone u).1 hu).2.1 (by decide)

end Base

end ThreeAddress
