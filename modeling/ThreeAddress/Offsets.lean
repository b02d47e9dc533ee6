import ThreeAddress.Language
import ThreeAddress.Numeral.Value

/-!
# Taking text apart at byte offsets

A line is cut where its comment begins, and the spelling of an integer behind its sign and behind
the mark of its base. Where text is held as bytes, the cuts are made at offsets: that of the comment
mark, the one after the first byte, the one after the second. Here the same parts are taken in this
way, and there is none where an offset lies past the end or inside a character.
-/

namespace ThreeAddress

namespace Text

/-- The offset at which the character occurs first. -/
def offset? (c : Char) : Text → Option Nat
  | [] => none
  | d :: t => if d = c then some 0 else (offset? c t).map (d.utf8Size + ·)

/-- The text up to the offset. -/
def sliceTo? (t : Text) (n : Nat) : Option Text := t.slice? ⟨0, n⟩

/-- The text from the offset on. -/
def sliceFrom? (t : Text) (n : Nat) : Option Text := t.slice? ⟨n, byteLength t⟩

end Text

/-- The line up to the offset of its comment mark. -/
def uncommentedAt? (line : Text) : Option Text :=
  match line.offset? commentMark with
  | some n => line.sliceTo? n
  | none => some line

/-- The spelling behind its first byte, if that is the byte of a sign. -/
def Numeral.unsignedAt? (payload : Text) : Option Text :=
  match payload.utf8.head? with
  | some 0x2d => payload.sliceFrom? 1
  | some 0x2b => payload.sliceFrom? 1
  | _ => some payload

namespace Base

/-- The digits behind their second byte, if they begin with the mark of the base. -/
def unmarkedAt? (b : Base) (t : Text) : Option Text :=
  match t with
  | '0' :: c :: _ => if b.mark? = some c.toLower then t.sliceFrom? 2 else some t
  | _ => some t

/-- The digits of a spelling, found behind the bytes of the sign and of the mark. -/
def digitsAt? (b : Base) (payload : Text) : Option Text := do
  let unsigned ← Numeral.unsignedAt? payload
  let unmarked ← b.unmarkedAt? unsigned
  return unmarked.filter (· != '_')

end Base

end ThreeAddress
