import ThreeAddress.Operand
import ThreeAddress.Text.Words

/-!
# The lexical classes of a token

A token is one word of a source. Whether it is a variable, a literal, a label or the name of a type
is a question about its characters alone, and the classes are asked independently: `int` is a label
and the name of a type. Which class wins is decided where operands are read.

Labels and the names of variables are spelled alike, as identifiers: letters, digits and a few
marks, all of them ASCII, and no digit in front.
-/

namespace ThreeAddress

/-! ### Identifiers -/

/-- The marks that may stand in an identifier beside letters and digits. -/
def identifierMarks : List Char := ['_', '$', '&', '%', '*', '!', '?', '-']

/-- Whether an identifier may begin with the character. -/
def isIdentifierStart (c : Char) : Bool := c.isAlpha || identifierMarks.contains c

/-- Whether the character may stand in an identifier after its first. -/
def isIdentifierPart (c : Char) : Bool := isIdentifierStart c || c.isDigit

/-- Whether the whole text is an identifier. -/
def isIdentifier : Text → Bool
  | [] => false
  | c :: t => isIdentifierStart c && t.all isIdentifierPart

theorem isIdentifier_cons_iff {c : Char} {t : Text} :
    isIdentifier (c :: t) = true ↔
      isIdentifierStart c = true ∧ ∀ d ∈ t, isIdentifierPart d = true := by
  simp [isIdentifier]

/-- Every character of an identifier may stand behind its first. -/
theorem isIdentifierPart_of_mem {t : Text} (h : isIdentifier t = true) {c : Char} (hc : c ∈ t) :
    isIdentifierPart c = true := by
  cases t with
  | nil => simp at hc
  | cons d t =>
    rw [isIdentifier_cons_iff] at h
    rcases List.mem_cons.1 hc with rfl | hc
    · simp [isIdentifierPart, h.1]
    · exact h.2 c hc

/-! ### Tokens -/

namespace Token

/-- Whether the text may be the payload of a string: no blank, no comment mark, no quotation mark,
and a backslash only before three digits. -/
def isStringPayload : Text → Bool
  | [] => true
  | '\\' :: a :: b :: c :: t => a.isDigit && b.isDigit && c.isDigit && isStringPayload t
  | '\\' :: _ => false
  | c :: t => !Text.isBlank c && c != '#' && c != '"' && isStringPayload t

/-- Whether the token is a variable: a frame, an at sign and an identifier. -/
def isVariable (token : Text) : Bool :=
  Frame.all.any fun f ↦
    match Text.after? (f.code ++ ['@']) token with
    | some name => isIdentifier name
    | none => false

/-- The form of the literal that the token is, if it is one. The payload must be the whole rest of
the token. -/
def literalForm? (token : Text) : Option LiteralForm :=
  if token = "bool@true".toList ∨ token = "bool@false".toList then some .bool
  else if token = "nil@nil".toList then some .nil
  else
    match Text.after? "string@".toList token with
    | some payload => if isStringPayload payload then some .string else none
    | none =>
      match Text.after? "int@".toList token with
      | some payload => (Base.of? payload).map .int
      | none => none

/-- Whether the token is a literal of any form. -/
def isLiteral (token : Text) : Bool := (literalForm? token).isSome

/-- Whether the token is a label. -/
def isLabel (token : Text) : Bool := isIdentifier token

/-- Whether the token is the name of a type. -/
def isType (token : Text) : Bool := TypeName.all.any fun t ↦ t.spelling == token

/-- Whether the token is in the lexical class of the kind. -/
def hasKind : Kind → Text → Bool
  | .var, token => isVariable token
  | .symb, token => isVariable token || isLiteral token
  | .label, token => isLabel token
  | .type, token => isType token

/-- A token is a variable if it is the spelling of one whose name is an identifier. -/
theorem isVariable_iff {token : Text} :
    isVariable token = true ↔
      ∃ v : Variable, token = v.spelling ∧ isIdentifier v.name = true := by
  simp only [isVariable, List.any_eq_true]
  constructor
  · rintro ⟨f, -, h⟩
    split at h
    case h_1 name hn =>
      exact ⟨⟨f, name⟩, by simpa [Variable.spelling] using Text.after?_eq_some_iff.1 hn, h⟩
    case h_2 => simp at h
  · rintro ⟨⟨f, name⟩, rfl, h⟩
    refine ⟨f, by cases f <;> simp [Frame.all], ?_⟩
    rw [Text.after?_eq_some_iff.2 (by simp [Variable.spelling] :
      Variable.spelling ⟨f, name⟩ = (f.code ++ ['@']) ++ name)]
    exact h

/-- A token is the name of a type if it is the spelling of one. -/
theorem isType_iff {token : Text} : isType token = true ↔ ∃ t : TypeName, token = t.spelling := by
  simp only [isType, List.any_eq_true, beq_iff_eq]
  constructor
  · rintro ⟨t, -, rfl⟩; exact ⟨t, rfl⟩
  · rintro ⟨t, rfl⟩; exact ⟨t, by cases t <;> simp [TypeName.all], rfl⟩

end Token

end ThreeAddress
