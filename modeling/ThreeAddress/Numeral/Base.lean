import ThreeAddress.Text.Basic

/-!
# The bases of an integer and how it is spelled in them

An integer is spelled as an optional sign, an optional mark of the base and digits, which may be
separated by single underscores. Decimal has no mark; the mark of hexadecimal is `0x` and that of
octal is `0o`, in either case of the letter, and an underscore may follow it.

A base accepts a spelling without asking the other two: `17` is accepted by all three. Where one
base is wanted, `Base.of?` takes the first that accepts in the order decimal, hexadecimal, octal,
so that leading zeros mean nothing.
-/

namespace ThreeAddress

/-- A base in which an integer may be written. -/
inductive Base
  | decimal
  | hexadecimal
  | octal
  deriving DecidableEq, Repr

namespace Numeral

/-- The value of a digit, letters counting on from ten in either case. A character that is no digit
in any base gets a value that no base reaches. -/
def digitValue (c : Char) : Nat :=
  if c.isDigit then c.toNat - '0'.toNat
  else if c.isLower then c.toNat - 'a'.toNat + 10
  else if c.isUpper then c.toNat - 'A'.toNat + 10
  else 36

/-- The spelling without its sign. -/
def unsigned : Text → Text
  | '+' :: t => t
  | '-' :: t => t
  | t => t

/-- Whether the spelling begins with a minus. -/
def isNegative (t : Text) : Bool := t.head? == some '-'

end Numeral

open Numeral

namespace Base

/-- The number of digits of the base. -/
def radix : Base → Nat
  | decimal => 10
  | hexadecimal => 16
  | octal => 8

/-- The bases in the order in which they are tried. -/
def all : List Base := [decimal, hexadecimal, octal]

/-- The letter after the zero in the mark of the base. -/
def mark? : Base → Option Char
  | decimal => none
  | hexadecimal => some 'x'
  | octal => some 'o'

/-- Whether the character is a digit of the base. -/
def isDigit (b : Base) (c : Char) : Bool := digitValue c < b.radix

/-- Whether the text is digits of the base, with single underscores between some of them. -/
def isDigits (b : Base) : Text → Bool
  | [] => false
  | [c] => b.isDigit c
  | c :: '_' :: t => b.isDigit c && b.isDigits t
  | c :: t => b.isDigit c && b.isDigits t

/-- What follows the mark of the base, if the text begins with it. -/
def afterMark? (b : Base) : Text → Option Text
  | '0' :: c :: t => if b.mark? = some c.toLower then some t else none
  | _ => none

/-- Whether the text spells an integer in the base. -/
def accepts (b : Base) (payload : Text) : Bool :=
  match b.afterMark? (unsigned payload) with
  | some ('_' :: digits) => b.isDigits digits
  | some digits => b.isDigits digits
  | none => b.isDigits (unsigned payload)

/-- The first base that accepts the text. -/
def of? (payload : Text) : Option Base := all.find? fun b ↦ b.accepts payload

theorem accepts_of_of? {payload : Text} {b : Base} (h : of? payload = some b) :
    b.accepts payload = true := by
  simpa using List.find?_some h

example : of? "017".toList = some decimal ∧ of? "0b1".toList = some hexadecimal ∧
    of? "0o_17".toList = some octal ∧ of? "1__7".toList = none := by decide

end Base

end ThreeAddress
