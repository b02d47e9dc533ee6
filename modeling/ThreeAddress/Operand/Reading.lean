import ThreeAddress.Event
import ThreeAddress.Fault
import ThreeAddress.Operand.Token

/-!
# Reading an operand

A token is read in two steps. First its lexical class is found, and where a kind is expected that
kind is asked before the others, so that `int` is the name of a type where a type is expected and a
label elsewhere. Then the operand is made from the token by taking it apart. The second step could
in principle fail on a token that the first let pass; that would be a fault of the reader and has
its own cause, `Fault.internal`.

The operand found need not be of the expected kind: whether it is, is the caller's question.
-/

namespace ThreeAddress

/-- The text before and after the first at sign. -/
def splitAtSign? : Text → Option (Text × Text)
  | [] => none
  | c :: t => if c = '@' then some ([], t) else (splitAtSign? t).map fun cut ↦ (c :: cut.1, cut.2)

/-- A text is cut at its first at sign. -/
theorem splitAtSign?_append {s : Text} (h : '@' ∉ s) (t : Text) :
    splitAtSign? (s ++ '@' :: t) = some (s, t) := by
  induction s with
  | nil => simp [splitAtSign?]
  | cons c s ih =>
    have hc : c ≠ '@' := fun hc ↦ h (by simp [hc])
    simp [splitAtSign?, hc, ih fun hs ↦ h (List.mem_cons_of_mem _ hs)]

/-- The variable that a token spells, its frame and name told apart at the first at sign. -/
def Variable.ofToken? (token : Text) : Option Variable := do
  let (code, name) ← splitAtSign? token
  let frame ← Frame.ofCode? code
  return ⟨frame, name⟩

/-- The literal of the form that a token spells. -/
def Literal.ofToken? (form : LiteralForm) (token : Text) : Option Literal := do
  let rest ← Text.after? form.tag token
  let payload ← Text.after? ['@'] rest
  return match form with
    | .bool => .bool (payload == "true".toList)
    | .nil => .nil
    | .int base => .int payload base
    | .string => .string payload

namespace Operand

/-- The operand of a token that is a variable. -/
def ofVariable (token : Text) : Except Fault Operand :=
  match Variable.ofToken? token with
  | some v => .ok (.var v)
  | none => .error <| .internal <|
    "classified `".toList ++ token ++ "` as a variable without a frame".toList

/-- The operand of a token that is a literal of the form. -/
def ofLiteral (form : LiteralForm) (token : Text) : Except Fault Operand :=
  match Literal.ofToken? form token with
  | some l => .ok (.literal l)
  | none => .error <| .internal <|
    "classified `".toList ++ token ++ "` as a ".toList ++ form.tag ++
      " literal without its prefix".toList

/-- The operand of a token that is the name of a type. -/
def ofTypeName (token : Text) : Except Fault Operand :=
  match TypeName.ofText? token with
  | some t => .ok (.type t)
  | none => .error <| .internal <|
    "classified `".toList ++ token ++ "` as a type without a known name".toList

/-- The operand of a token that is in the lexical class of the kind, and nothing otherwise. -/
def ofExpected (token : Text) : Kind → Except Fault (Option Operand)
  | .var => if Token.isVariable token then (ofVariable token).map some else .ok none
  | .symb =>
    if Token.isVariable token then (ofVariable token).map some
    else
      match Token.literalForm? token with
      | some form => (ofLiteral form token).map some
      | none => .ok none
  | .label => if Token.isLabel token then .ok (some (.label token)) else .ok none
  | .type => if Token.isType token then (ofTypeName token).map some else .ok none

/-- The operand of a token when nothing is expected: the classes are tried in the order variable,
literal, label, name of a type. -/
def ofToken (token : Text) : Except Fault Operand :=
  if Token.isVariable token then ofVariable token
  else
    match Token.literalForm? token with
    | some form => ofLiteral form token
    | none =>
      if Token.isLabel token then .ok (.label token)
      else if Token.isType token then ofTypeName token
      else .error (.invalidOperand token)

/-- The operand of a token when nothing is expected, with the event that tells what it is. -/
def readAny (token : Text) : Logged Event Fault Operand := do
  let operand ← Logged.ofExcept (ofToken token)
  Logged.note (.operandClassified token operand.tag)
  return operand

/-- The operand of a token. The expected kind, if there is one, is asked first; a token that is
not of that kind is read as if nothing were expected. -/
def read (token : Text) : Option Kind → Logged Event Fault Operand
  | none => readAny token
  | some kind => do
    match ← Logged.ofExcept (ofExpected token kind) with
    | some operand =>
      Logged.note (.operandMatched token kind)
      return operand
    | none => readAny token

end Operand

end ThreeAddress
