import ThreeAddress.Text.Basic

/-!
# Escaping in XML

The characters that would be read as markup are written as entities: ampersand and the two angle
brackets everywhere, the quotation mark in the value of an attribute as well.
-/

namespace ThreeAddress.Xml

/-- One character as it is written in the text of an element. -/
def escapeChar : Char → Text
  | '&' => "&amp;".toList
  | '<' => "&lt;".toList
  | '>' => "&gt;".toList
  | c => [c]

/-- One character as it is written in the value of an attribute. -/
def escapeAttributeChar (c : Char) : Text :=
  if c = '"' then "&quot;".toList else escapeChar c

/-- The text of an element. -/
def escapeText (t : Text) : Text := t.flatMap escapeChar

/-- The value of an attribute. -/
def escapeAttribute (t : Text) : Text := t.flatMap escapeAttributeChar

@[simp] theorem escapeText_nil : escapeText [] = [] := rfl

@[simp] theorem escapeText_cons (c : Char) (t : Text) :
    escapeText (c :: t) = escapeChar c ++ escapeText t := rfl

@[simp] theorem escapeText_append (s t : Text) :
    escapeText (s ++ t) = escapeText s ++ escapeText t := by
  simp [escapeText]

/-- A character is written as itself, or as an entity that does not contain an angle bracket. -/
theorem lt_not_mem_escapeChar (c : Char) : '<' ∉ escapeChar c := by
  unfold escapeChar
  split
  · decide
  · decide
  · decide
  · rename_i h _
    simpa using Ne.symm h

end ThreeAddress.Xml
