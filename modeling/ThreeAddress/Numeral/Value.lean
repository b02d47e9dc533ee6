import ThreeAddress.Numeral.Base

/-!
# The value of an integer

An integer type reads the plainest of spellings, digits behind a sign or nothing. It reads them from
the left and keeps the number that they denote so far, which may not leave the type on the way; a
type without a sign takes a minus for a digit, and for none that it knows, so that not even zero may
have one. The spelling of an integer in a base is brought to this form first: a plus, the mark of
the base and the underscores go, a minus stays.

That the value so found is the number that the spelling denotes, whenever that number belongs to the
type, is not in the definitions and has to be proved.
-/

namespace ThreeAddress

open Numeral

/-- A binary integer type: its number of bits, and whether one of them is a sign. -/
structure IntType where
  /-- Whether negative values belong to the type. -/
  signed : Bool
  /-- The number of bits of a value. -/
  bits : Nat
  deriving DecidableEq, Repr

namespace IntType

/-- The least value of the type. -/
def least (ty : IntType) : Int := if ty.signed then -Int.pow 2 (ty.bits - 1) else 0

/-- The greatest value of the type. -/
def greatest (ty : IntType) : Int :=
  if ty.signed then Int.pow 2 (ty.bits - 1) - 1 else Int.pow 2 ty.bits - 1

/-- Whether the value belongs to the type. -/
def contains (ty : IntType) (v : Int) : Bool := ty.least ≤ v && v ≤ ty.greatest

/-- The signed type of 64 bits, in which programs compute. -/
def int64 : IntType := ⟨true, 64⟩

theorem contains_iff {ty : IntType} {v : Int} :
    ty.contains v = true ↔ ty.least ≤ v ∧ v ≤ ty.greatest := by
  simp [contains]

/-- The value, if it belongs to the type. -/
def checked? (ty : IntType) (v : Int) : Option Int := if ty.contains v then some v else none

theorem checked?_of_contains {ty : IntType} {v : Int} (h : ty.contains v = true) :
    ty.checked? v = some v := if_pos h

theorem checked?_of_not_contains {ty : IntType} {v : Int} (h : ¬ty.contains v = true) :
    ty.checked? v = none := if_neg h

/-- The value of a number whose first digits are worth `v` and are followed by the text. There is
none if a character is no digit, or if what has been read does not belong to the type. -/
def readDigits? (ty : IntType) (radix : Nat) (negative : Bool) (v : Int) : Text → Option Int
  | [] => some v
  | c :: t =>
    if digitValue c < radix then do
      let shifted ← ty.checked? (v * radix)
      let next ← ty.checked? (if negative then shifted - digitValue c else shifted + digitValue c)
      readDigits? ty radix negative next t
    else none

/-- The value of a text of digits, of which there must be one, behind a sign or nothing. -/
def ofText? (ty : IntType) (radix : Nat) : Text → Option Int
  | [] => none
  | ['+'] => none
  | ['-'] => none
  | '+' :: t => ty.readDigits? radix false 0 t
  | '-' :: t =>
    if ty.signed then ty.readDigits? radix true 0 t else ty.readDigits? radix false 0 ('-' :: t)
  | t => ty.readDigits? radix false 0 t

end IntType

namespace Base

/-- The digits of a spelling: no sign, no mark of the base, no underscores. -/
def digits (b : Base) (payload : Text) : Text :=
  ((b.afterMark? (unsigned payload)).getD (unsigned payload)).filter (· != '_')

/-- The value of a spelling in an integer type. -/
def value? (b : Base) (ty : IntType) (payload : Text) : Option Int :=
  if b.accepts payload then
    ty.ofText? b.radix ((if isNegative payload then ['-'] else []) ++ b.digits payload)
  else none

example : hexadecimal.value? ⟨true, 8⟩ "-0x8_0".toList = some (-128) ∧
    hexadecimal.value? ⟨true, 8⟩ "0x80".toList = none ∧
    decimal.value? ⟨false, 8⟩ "-0".toList = none := by decide

end Base

end ThreeAddress
