import ThreeAddress.Numeral.Value

/-!
# Operands

An operand is a variable, a literal, the name of a label or the name of a type. What an instruction
*expects* in a position is a `Kind`; what an operand *is* is a `Category`. The two differ in one
place: the kind `symb` is met by variables and literals alike and is no category of its own.

A literal keeps its payload as it was written: neither the escape sequences of a string nor the
base mark of an integer is interpreted. So the tag and the value of an operand together are its
source text.
-/

namespace ThreeAddress

/-- A memory frame in which a variable lives. -/
inductive Frame
  | globals
  | locals
  | temporaries
  deriving DecidableEq, Repr

/-- The two letters that stand for the frame in a variable. -/
def Frame.code : Frame → Text
  | globals => "GF".toList
  | locals => "LF".toList
  | temporaries => "TF".toList

/-- The frames. -/
def Frame.all : List Frame := [globals, locals, temporaries]

/-- The frame that the letters stand for. -/
def Frame.ofCode? (code : Text) : Option Frame := all.find? fun f ↦ f.code == code

@[simp] theorem Frame.ofCode?_code (f : Frame) : ofCode? f.code = some f := by
  cases f <;> rfl

theorem Frame.code_of_ofCode? {code : Text} {f : Frame} (h : ofCode? code = some f) :
    f.code = code := by
  simpa using List.find?_some h

/-- A variable: a name in a frame. -/
structure Variable where
  /-- The frame. -/
  frame : Frame
  /-- The name, without the frame. -/
  name : Text
  deriving DecidableEq, Repr

/-- The variable as it is written: the frame, an at sign, the name. -/
def Variable.spelling (v : Variable) : Text := v.frame.code ++ '@' :: v.name

/-- The form of a literal, which is told by the tag before its at sign; an integer has a base. -/
inductive LiteralForm
  | bool
  | nil
  | int (base : Base)
  | string
  deriving DecidableEq, Repr

/-- The tag that introduces literals of the form. -/
def LiteralForm.tag : LiteralForm → Text
  | bool => "bool".toList
  | nil => "nil".toList
  | int _ => "int".toList
  | string => "string".toList

/-- A constant. -/
inductive Literal
  | bool (value : Bool)
  | nil
  /-- An integer as it was written, with the base it was read in. -/
  | int (payload : Text) (base : Base)
  /-- A string as it was written, escape sequences and all. -/
  | string (payload : Text)
  deriving DecidableEq, Repr

namespace Literal

/-- The form of the literal. -/
def form : Literal → LiteralForm
  | bool _ => .bool
  | nil => .nil
  | int _ base => .int base
  | string _ => .string

/-- The literal without its tag. -/
def payload : Literal → Text
  | bool true => "true".toList
  | bool false => "false".toList
  | nil => "nil".toList
  | int payload _ => payload
  | string payload => payload

/-- The value of an integer literal, if it has 64 bits at most. -/
def int64? : Literal → Option Int
  | int payload base => base.value? .int64 payload
  | _ => none

end Literal

/-- The name of a type of values. -/
inductive TypeName
  | int
  | bool
  | string
  deriving DecidableEq, Repr

namespace TypeName

/-- The name as it is written. -/
def spelling : TypeName → Text
  | int => "int".toList
  | bool => "bool".toList
  | string => "string".toList

/-- The names of types. -/
def all : List TypeName := [int, bool, string]

/-- The type of the name. -/
def ofText? (name : Text) : Option TypeName := all.find? fun t ↦ t.spelling == name

@[simp] theorem ofText?_spelling (t : TypeName) : ofText? t.spelling = some t := by
  cases t <;> rfl

theorem spelling_of_ofText? {name : Text} {t : TypeName} (h : ofText? name = some t) :
    t.spelling = name := by
  simpa using List.find?_some h

end TypeName

/-- What an operand is. -/
inductive Category
  | var
  | literal
  | label
  | type
  deriving DecidableEq, Repr

/-- The word for the category in messages. -/
def Category.name : Category → Text
  | var => "variable".toList
  | literal => "literal".toList
  | label => "label".toList
  | type => "type".toList

/-- What an instruction expects in a position. -/
inductive Kind
  | var
  /-- A variable or a literal. -/
  | symb
  | label
  | type
  deriving DecidableEq, Repr

/-- The word for the kind in messages. -/
def Kind.name : Kind → Text
  | var => "var".toList
  | symb => "symb".toList
  | label => "label".toList
  | type => "type".toList

/-- The kinds. -/
def Kind.all : List Kind := [var, symb, label, type]

/-- An operand of an instruction. -/
inductive Operand
  | var (v : Variable)
  | literal (l : Literal)
  | label (name : Text)
  | type (t : TypeName)
  deriving DecidableEq, Repr

namespace Operand

/-- What the operand is. -/
def category : Operand → Category
  | var _ => .var
  | literal _ => .literal
  | label _ => .label
  | type _ => .type

/-- Whether the operand is a variable or a literal. -/
def isSymb : Operand → Bool
  | var _ => true
  | literal _ => true
  | label _ => false
  | type _ => false

/-- The word that tells the operand's kind in a document; of a literal it is the literal's tag. -/
def tag : Operand → Text
  | var _ => "var".toList
  | literal l => l.form.tag
  | label _ => "label".toList
  | type _ => "type".toList

/-- The operand's text, for a literal without its tag. -/
def value : Operand → Text
  | var v => v.spelling
  | literal l => l.payload
  | label name => name
  | type t => t.spelling

/-- The operand as it is written in a source. -/
def spelling : Operand → Text
  | literal l => l.form.tag ++ '@' :: l.payload
  | var v => v.spelling
  | label name => name
  | type t => t.spelling

/-- The value of an integer operand, if it has 64 bits at most. -/
def int64? : Operand → Option Int
  | literal l => l.int64?
  | _ => none

end Operand

/-- Whether an operand may stand where the kind is expected. -/
def Kind.accepts : Kind → Operand → Bool
  | var, .var _ => true
  | symb, operand => operand.isSymb
  | label, .label _ => true
  | type, .type _ => true
  | _, _ => false

end ThreeAddress
