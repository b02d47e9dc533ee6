import ThreeAddress.Proofs.Operand.Reading
import ThreeAddress.Proofs.Operand.Value

/-!
# The token of an operand

An operand keeps something else of its token in each of its forms: a frame and a name, a truth
value, nothing at all, a payload with its base, a member of a short list. Whatever it keeps is
enough to write the token again (`Operand.keeps_of_outcome_read`), so that no two tokens are read as
the same operand where the same is expected of them.

The base of an integer is the one part that is not in the token. It is determined by the payload,
as the first base that accepts it, and therefore tells nothing more when integers are compared
(`Literal.int_eq_int_iff`).
-/

namespace ThreeAddress

open Text

/-! ### The base of an integer -/

namespace Literal

variable {payload payload' : Text} {base base' : Base}

/-- **Integers are equal when they are written alike.** -/
theorem int_eq_int_iff (h : (int payload base).WellSpelled)
    (h' : (int payload' base').WellSpelled) :
    int payload base = int payload' base' ↔ payload = payload' := by
  constructor
  · intro heq
    exact (int.inj heq).1
  · intro hpayload
    subst hpayload
    have hbase : Base.of? payload = some base := Base.of?_eq_some_iff.2 h
    have hbase' : Base.of? payload = some base' := Base.of?_eq_some_iff.2 h'
    rw [Option.some.inj (hbase.symm.trans hbase')]

end Literal

namespace Operand

variable {expected? : Option Kind} {token token' : Text} {x : Operand}

/-! ### The token -/

/-- **No two tokens are read as the same operand.** -/
theorem eq_of_outcome_read_eq (h : (read token expected?).outcome = .ok x)
    (h' : (read token' expected?).outcome = .ok x) : token = token' :=
  (wellSpelled_of_outcome_read h).2.symm.trans (wellSpelled_of_outcome_read h').2

/-- What is written of an operand is read as that operand, if the same is expected. -/
theorem outcome_read_spelling_of_outcome_read (h : (read token expected?).outcome = .ok x) :
    (read x.spelling expected?).outcome = .ok x := by
  rw [(wellSpelled_of_outcome_read h).2]
  exact h

/-- What the operand keeps of the token that it was read from. -/
structure Keeps (expected? : Option Kind) (token : Text) (x : Operand) : Prop where
  /-- The token is the value, and before that of a literal the tag and an at sign. -/
  token_eq : token = if x.category = .literal then x.tag ++ '@' :: x.value else x.value
  /-- That is how the operand is written. -/
  spelling_eq : x.spelling = token
  /-- What is written is read as the operand again. -/
  again : (read x.spelling expected?).outcome = .ok x
  /-- No other token is read as the operand. -/
  unique : ∀ token', (read token' expected?).outcome = .ok x → token' = token
  /-- The base of an integer is the one that is found for its value. -/
  base_eq : ∀ payload base, x = .literal (.int payload base) → Base.of? x.value = some base
  /-- An integer is equal to another, whatever that was read from, if it has the same payload. -/
  int_eq_iff : ∀ expected?' token' y, (read token' expected?').outcome = .ok y →
    ∀ payload base payload' base',
      x = .literal (.int payload base) → y = .literal (.int payload' base') →
        (x = y ↔ payload = payload')

/-- **An operand keeps its token**, in whatever class it was found and whatever was expected. -/
theorem keeps_of_outcome_read (h : (read token expected?).outcome = .ok x) :
    x.Keeps expected? token := by
  obtain ⟨hx, hspelling⟩ := wellSpelled_of_outcome_read h
  refine ⟨?_, hspelling, outcome_read_spelling_of_outcome_read h,
    fun token' h' ↦ eq_of_outcome_read_eq h' h, ?_, ?_⟩
  · rw [← hspelling]
    exact spelling_eq x
  · intro payload base heq
    subst heq
    exact Base.of?_eq_some_iff.2 hx
  · intro expected?' token' y hread payload base payload' base' heq heq'
    have hy := (wellSpelled_of_outcome_read hread).1
    subst heq heq'
    rw [literal.injEq]
    exact Literal.int_eq_int_iff hx hy

/-- A label is expected of an integer, which is found when the classes are tried in order. -/
theorem keeps_of_outcome_read_unexpected :
    (read "int@-0X_1f".toList (some .label)).outcome =
        .ok (.literal (.int "-0X_1f".toList .hexadecimal)) ∧
      Keeps (some .label) "int@-0X_1f".toList (.literal (.int "-0X_1f".toList .hexadecimal)) := by
  have h : (read "int@-0X_1f".toList (some .label)).outcome =
      .ok (.literal (.int "-0X_1f".toList .hexadecimal)) := by
    decide
  exact ⟨h, keeps_of_outcome_read h⟩

end Operand

end ThreeAddress
