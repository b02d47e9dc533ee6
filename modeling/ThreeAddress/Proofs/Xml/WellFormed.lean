import ThreeAddress.Proofs.Xml.RoundTrip
import ThreeAddress.Xml.WellFormed

/-!
# Which documents are well-formed

The document of a program keeps to the grammar, whatever is in it (`isDocument_toXml`): escaping
leaves no angle bracket and no ampersand but those of references, and the lines of an element are
its first tag, the lines of the elements in it and its last tag. The lines between the tags are put
together by `isContent_flatten`, once for the operands of a statement and once for the statements.

Its characters are another matter. Escaping does not change whether they may stand in a document
(`isChar_escapeText_iff`), so they may if and only if those of the values may, and of these only
strings can have others than plain ones. A string may be written with any character that is not
blank, also with a control character, which no document may contain in any form. So
`Program.wellFormed_toXml_iff` has a condition on strings, and a program that does not meet it is
read without a fault (`Program.not_wellFormed_toXml_control`).
-/

namespace ThreeAddress

open Text

namespace Xml

/-! ### White space -/

theorem IsSpace.isCharData {t : Text} (h : IsSpace t) : IsCharData t where
  data := by
    induction t with
    | nil => exact .nil
    | cons c t ih =>
      obtain ⟨hc, ht⟩ := List.forall_mem_cons.1 h
      refine .char (fun hmem ↦ ?_) (ih ht)
      rcases List.mem_cons.1 hmem with rfl | hmem
      · exact absurd hc (by decide)
      · obtain rfl := List.mem_singleton.1 hmem
        exact absurd hc (by decide)
  noSectionEnd hmark := absurd (h '>' (hmark.subset (by decide))) (by decide)

/-! ### Escaped text -/

/-- Data followed by data is data: the ampersands of both begin references. -/
theorem IsData.append {reserved : List Char} {s t : Text} (hs : IsData reserved s)
    (ht : IsData reserved t) : IsData reserved (s ++ t) := by
  induction hs with
  | nil => exact ht
  | char hc _ ih => exact .char hc ih
  | reference hr _ ih =>
    rw [List.append_assoc]
    exact .reference hr ih

theorem IsData.of_mem_references {reserved : List Char} {r : Text} (h : r ∈ references) :
    IsData reserved r := by
  simpa using IsData.reference h .nil

/-- If each character is written as data, so is a text. -/
theorem isData_flatMap {reserved : List Char} {f : Char → Text} (hf : ∀ c, IsData reserved (f c))
    (t : Text) : IsData reserved (t.flatMap f) := by
  induction t with
  | nil => exact .nil
  | cons c t ih => exact (hf c).append ih

/-- A character that is reserved is written as a reference. -/
theorem isData_escapeChar {reserved : List Char} {c : Char}
    (hc : c ∈ reserved → c = '&' ∨ c = '<' ∨ c = '>') : IsData reserved (escapeChar c) := by
  unfold escapeChar
  split
  case h_1 => exact .of_mem_references (by decide)
  case h_2 => exact .of_mem_references (by decide)
  case h_3 => exact .of_mem_references (by decide)
  case h_4 hamp hlt hgt =>
    refine .char (fun hmem ↦ ?_) .nil
    rcases hc hmem with h | h | h
    · exact hamp h
    · exact hlt h
    · exact hgt h

/-- An escaped text cannot end a section of character data. -/
theorem gt_not_mem_escapeText (t : Text) : '>' ∉ escapeText t := by
  intro h
  obtain ⟨c, -, hc⟩ := List.mem_flatMap.1 h
  unfold escapeChar at hc
  split at hc
  case h_1 => exact absurd hc (by decide)
  case h_2 => exact absurd hc (by decide)
  case h_3 => exact absurd hc (by decide)
  case h_4 hgt => exact hgt (List.mem_singleton.1 hc).symm

/-- **Whatever the text is, it is escaped as character data.** -/
theorem isCharData_escapeText (t : Text) : IsCharData (escapeText t) where
  data := isData_flatMap (fun c ↦ isData_escapeChar (by simp; tauto)) t
  noSectionEnd hmark := gt_not_mem_escapeText t (hmark.subset (by decide))

/-- Whatever the value is, it is escaped as the value of an attribute. -/
theorem isData_escapeAttribute (t : Text) : IsData ['<', '&', '"'] (escapeAttribute t) := by
  refine isData_flatMap (fun c ↦ ?_) t
  rw [escapeAttributeChar]
  split_ifs with hquote
  · exact .of_mem_references (by decide)
  · exact isData_escapeChar (by simp [hquote]; tauto)

/-! ### Tags -/

/-- An attribute with a new name may be put in front of others. -/
theorem IsAttributes.attr_append {names : List Text} {name t : Text} (hname : IsXmlName name)
    (hnew : name ∉ names) (value : Text) (ht : IsAttributes names t) :
    IsAttributes (name :: names) (attr name value ++ t) := by
  have hgap : IsSpace [' '] := by decide
  have h := IsAttributes.cons hgap (by decide) hname hnew (.inl rfl)
    (isData_escapeAttribute value) ht
  simpa [attr] using h

theorem isAttributes_attr {name : Text} (hname : IsXmlName name) (value : Text) :
    IsAttributes [name] (attr name value) := by
  simpa using IsAttributes.attr_append hname List.not_mem_nil value .nil

theorem inRanges_nameParts_of_isDigit {c : Char} (h : c.isDigit = true) :
    InRanges nameParts c := by
  obtain ⟨hle, hge⟩ := Bool.and_eq_true_iff.1 h
  exact ⟨(0x30, 0x39), by decide, UInt32.le_iff_toNat_le.1 (of_decide_eq_true hle),
    UInt32.le_iff_toNat_le.1 (of_decide_eq_true hge)⟩

/-- The name of the element of an operand is a name, in every position. -/
theorem isXmlName_operandName (position : Nat) : IsXmlName (operandName position) := by
  have hdigits : ∀ d ∈ ofNat position, InRanges nameParts d := fun d hd ↦
    inRanges_nameParts_of_isDigit (isDigit_of_mem_ofNat hd)
  exact ⟨by decide,
    List.forall_mem_cons.2 ⟨by decide, List.forall_mem_cons.2 ⟨by decide, hdigits⟩⟩⟩

/-! ### Elements -/

variable {name attributes content root : Text} {names : List Text}

/-- A tag that is closed in itself is an element. -/
theorem isElement_selfClosed (hname : IsXmlName name)
    (hattributes : IsAttributes names attributes) :
    IsElement ('<' :: name ++ attributes ++ "/>".toList) := by
  have hgap : IsSpace [] := by decide
  simpa using IsElement.empty hname hattributes hgap

/-- Content between two tags of one name is an element. -/
theorem IsContent.isElement (hcontent : IsContent content) (hname : IsXmlName name)
    (hattributes : IsAttributes names attributes) :
    IsElement ('<' :: name ++ attributes ++ '>' :: content ++ "</".toList ++ name ++ ['>']) := by
  have hgap : IsSpace [] := by decide
  simpa using IsElement.full hname hattributes hgap hcontent hgap

/-- The declaration and an element are a document. -/
theorem IsElement.isDocument (hroot : IsElement root) :
    IsDocument (declaration ++ ['\n'] ++ root ++ ['\n']) :=
  .intro (by decide) hroot (by decide)

/-- The text is an element with white space before it and a line feed behind. -/
def IsElementBlock (t : Text) : Prop :=
  ∃ gap e, IsSpace gap ∧ IsElement e ∧ t = gap ++ e ++ ['\n']

/-- Elements on lines of their own may stand between two tags. -/
theorem isContent_flatten {ts : List Text} (h : ∀ t ∈ ts, IsElementBlock t) {tail : Text}
    (htail : IsSpace tail) : IsContent ('\n' :: ts.flatten ++ tail) := by
  have hfeed : ∀ {gap : Text}, IsSpace gap → IsCharData ('\n' :: gap) := fun hgap ↦
    IsSpace.isCharData (List.forall_mem_cons.2 ⟨by decide, hgap⟩)
  induction ts with
  | nil => exact .text (hfeed htail)
  | cons t ts ih =>
    obtain ⟨⟨gap, e, hgap, he, rfl⟩, hts⟩ := List.forall_mem_cons.1 h
    simpa using IsContent.element (hfeed hgap) he (ih hts)

/-- The line of an operand is an element, with the indentation before it and the line feed behind
it. -/
theorem isElementBlock_operandLine (position : Nat) (x : Operand) :
    IsElementBlock (operandLine position x ++ ['\n']) := by
  have hname := isXmlName_operandName position
  have htype : IsXmlName "type".toList := by decide
  have hattributes := isAttributes_attr htype x.tag
  by_cases hvalue : x.value = []
  · refine ⟨indent ++ indent, _, by decide, isElement_selfClosed hname hattributes, ?_⟩
    simp [operandLine_eq, hvalue]
  · have hcontent := IsContent.text (isCharData_escapeText x.value)
    refine ⟨indent ++ indent, _, by decide, hcontent.isElement hname hattributes, ?_⟩
    simp [operandLine_eq, hvalue]

theorem isElementBlock_of_mem_operandLines (position : Nat) (xs : List Operand) :
    ∀ t ∈ (operandLines position xs).map (· ++ ['\n']), IsElementBlock t := by
  induction xs generalizing position with
  | nil => simp [operandLines]
  | cons x xs ih =>
    exact List.forall_mem_cons.2 ⟨isElementBlock_operandLine position x, ih (position + 1)⟩

/-- The lines of a statement, with a feed after each. -/
def statementText (s : Statement) : Text := ((statementLines s).map (· ++ ['\n'])).flatten

/-- **The lines of a statement are one element.** -/
theorem isElementBlock_statementText (s : Statement) : IsElementBlock (statementText s) := by
  have hname : IsXmlName "instruction".toList := by decide
  have horder : IsXmlName "order".toList := by decide
  have hopcode : IsXmlName "opcode".toList := by decide
  have hattributes := (isAttributes_attr hopcode s.instruction.opcode.name).attr_append horder
    (by decide) (ofNat s.order)
  obtain ⟨order, op, operands⟩ := s
  cases operands with
  | nil =>
    refine ⟨indent, _, by decide, isElement_selfClosed hname hattributes, ?_⟩
    simp [statementText, statementLines, statementTag]
  | cons x xs =>
    have hindent : IsSpace indent := by decide
    have hcontent := isContent_flatten (isElementBlock_of_mem_operandLines 1 (x :: xs)) hindent
    refine ⟨indent, _, by decide, hcontent.isElement hname hattributes, ?_⟩
    simp [statementText, statementLines, statementTag]

/-- The lines of all statements are the texts of the statements, one after the other. -/
theorem flatten_map_flatMap_statementLines (ss : List Statement) :
    ((ss.flatMap statementLines).map (· ++ ['\n'])).flatten = (ss.map statementText).flatten := by
  induction ss with
  | nil => rfl
  | cons s ss ih =>
    rw [List.flatMap_cons, List.map_append, List.flatten_append, ih]
    rfl

/-- **The document of a program keeps to the grammar.** -/
theorem isDocument_toXml (p : Program) : IsDocument p.toXml := by
  have hname : IsXmlName "program".toList := by decide
  have hlanguage : IsXmlName "language".toList := by decide
  have hattributes := isAttributes_attr hlanguage languageName
  obtain ⟨ss⟩ := p
  cases ss with
  | nil =>
    have heq : Program.toXml ⟨[]⟩ =
        declaration ++ ['\n'] ++ (programTag ++ "/>".toList) ++ ['\n'] := by
      simp [Program.toXml, pieces, documentLines]
    rw [heq]
    exact (isElement_selfClosed hname hattributes).isDocument
  | cons s ss =>
    have hnone : IsSpace [] := by decide
    have hcontent := isContent_flatten
      (List.forall_mem_map.2 fun t (_ : t ∈ s :: ss) ↦ isElementBlock_statementText t) hnone
    have heq : Program.toXml ⟨s :: ss⟩ = declaration ++ ['\n'] ++ (programTag ++
        '>' :: ('\n' :: ((s :: ss).map statementText).flatten ++ []) ++ "</".toList ++
        "program".toList ++ ['>']) ++ ['\n'] := by
      rw [← flatten_map_flatMap_statementLines]
      simp [Program.toXml, pieces, documentLines]
    rw [heq]
    exact (hcontent.isElement hname hattributes).isDocument

/-! ### Characters -/

/-- Escaping makes no character allowed that is not, and none forbidden. -/
theorem isChar_escapeChar_iff (c : Char) : (∀ d ∈ escapeChar c, IsChar d) ↔ IsChar c := by
  unfold escapeChar
  split
  · decide
  · decide
  · decide
  · exact List.forall_mem_singleton

/-- **Escaping does not change whether the characters may stand in a document.** -/
theorem isChar_escapeText_iff (t : Text) :
    (∀ d ∈ escapeText t, IsChar d) ↔ ∀ c ∈ t, IsChar c := by
  simp only [escapeText, List.forall_mem_flatMap, isChar_escapeChar_iff]

/-- Escaping a value makes no character forbidden. -/
theorem isChar_escapeAttribute {t : Text} (h : ∀ c ∈ t, IsChar c) :
    ∀ d ∈ escapeAttribute t, IsChar d := by
  refine List.forall_mem_flatMap.2 fun c hc ↦ ?_
  rw [escapeAttributeChar]
  split_ifs
  · decide
  · exact (isChar_escapeChar_iff c).2 (h c hc)

theorem isChar_of_isIdentifierPart {c : Char} (h : isIdentifierPart c = true) : IsChar c := by
  have hall : ∀ c : Char, c.toNat < 128 → isIdentifierPart c = true → IsChar c :=
    of_toNat_lt (by decide +kernel)
  exact hall c (toNat_lt_of_isIdentifierPart h) h

theorem isChar_ofNat (n : Nat) : ∀ c ∈ ofNat n, IsChar c := fun _ hc ↦
  isChar_of_isIdentifierPart (isIdentifierPart_of_isDigit (isDigit_of_mem_ofNat hc))

theorem isChar_attr {name value : Text} (hname : ∀ c ∈ name, IsChar c)
    (hvalue : ∀ c ∈ value, IsChar c) : ∀ c ∈ attr name value, IsChar c := by
  have hquoted := isChar_escapeAttribute hvalue
  simp only [attr, List.forall_mem_append, List.forall_mem_cons]
  exact ⟨⟨⟨⟨by decide, hname⟩, by decide⟩, hquoted⟩, by decide⟩

theorem isChar_tag (x : Operand) : ∀ c ∈ x.tag, IsChar c := by
  rcases x with v | (value | - | ⟨payload, base⟩ | payload) | name | t <;>
    exact of_decide_eq_true rfl

/-- The tag of a statement has nothing in it that comes from a payload. -/
theorem isChar_statementTag (s : Statement) : ∀ c ∈ statementTag s, IsChar c := by
  have hnames : ∀ op ∈ Opcode.all, ∀ c ∈ op.name, IsChar c := by decide +kernel
  have hname := hnames s.instruction.opcode (Opcode.mem_all _)
  simp only [statementTag, List.forall_mem_append]
  exact ⟨⟨⟨by decide, by decide⟩, isChar_attr (by decide) (isChar_ofNat s.order)⟩,
    isChar_attr (by decide) hname⟩

/-- What an operand adds to a document may stand there if its value may. -/
theorem isChar_operandLine_iff (position : Nat) (x : Operand) :
    (∀ c ∈ operandLine position x, IsChar c) ↔ ∀ c ∈ x.value, IsChar c := by
  have hname : ∀ c ∈ operandName position, IsChar c :=
    List.forall_mem_append.2 ⟨by decide, isChar_ofNat position⟩
  have htype : ∀ c ∈ attr "type".toList x.tag, IsChar c := isChar_attr (by decide) (isChar_tag x)
  have hopen : ∀ c ∈ indent ++ indent ++ '<' :: operandName position, IsChar c :=
    List.forall_mem_append.2 ⟨by decide, List.forall_mem_cons.2 ⟨by decide, hname⟩⟩
  have hclose : ∀ c ∈ '<' :: ('/' :: operandName position ++ ['>']), IsChar c := by
    simp only [List.forall_mem_append, List.forall_mem_cons]
    exact ⟨by decide, ⟨by decide, hname⟩, by decide, by decide⟩
  rw [operandLine_eq, List.forall_mem_append, and_iff_right hopen, List.forall_mem_append,
    and_iff_right htype]
  by_cases hvalue : x.value = []
  · rw [if_pos hvalue, hvalue]
    exact iff_of_true (by decide) (List.forall_mem_nil _)
  · rw [if_neg hvalue, List.forall_mem_cons, List.forall_mem_append, isChar_escapeText_iff]
    exact ⟨fun h ↦ h.2.1, fun h ↦ ⟨by decide, h, hclose⟩⟩

/-- The lines of operands are of allowed characters just if the values are. -/
theorem isChar_operandLines_iff (position : Nat) (xs : List Operand) :
    (∀ line ∈ operandLines position xs, ∀ c ∈ line, IsChar c) ↔
      ∀ x ∈ xs, ∀ c ∈ x.value, IsChar c := by
  induction xs generalizing position with
  | nil => simp [operandLines]
  | cons x xs ih =>
    rw [operandLines, List.forall_mem_cons, isChar_operandLine_iff, ih, List.forall_mem_cons]

/-- The lines of a statement are of allowed characters just if the values of its operands are. -/
theorem isChar_statementLines_iff (s : Statement) :
    (∀ line ∈ statementLines s, ∀ c ∈ line, IsChar c) ↔
      ∀ x ∈ s.instruction.operands, ∀ c ∈ x.value, IsChar c := by
  have htag := isChar_statementTag s
  obtain ⟨order, op, operands⟩ := s
  cases operands with
  | nil =>
    refine iff_of_true (List.forall_mem_singleton.2 ?_) (List.forall_mem_nil _)
    exact List.forall_mem_append.2 ⟨htag, by decide⟩
  | cons x xs =>
    have hopen : ∀ c ∈ statementTag ⟨order, op, x :: xs⟩ ++ ['>'], IsChar c :=
      List.forall_mem_append.2 ⟨htag, by decide⟩
    show (∀ line ∈ (statementTag ⟨order, op, x :: xs⟩ ++ ['>']) :: operandLines 1 (x :: xs) ++
      [indent ++ "</instruction>".toList], ∀ c ∈ line, IsChar c) ↔ _
    rw [List.forall_mem_append, List.forall_mem_cons, isChar_operandLines_iff]
    exact ⟨fun h ↦ h.1.2, fun h ↦ ⟨⟨hopen, h⟩, by decide⟩⟩

/-- **The characters of a document are those of XML if the values of all operands have no
others.** -/
theorem isChar_toXml_iff (p : Program) : (∀ c ∈ p.toXml, IsChar c) ↔
    ∀ s ∈ p.statements, ∀ x ∈ s.instruction.operands, ∀ c ∈ x.value, IsChar c := by
  have hlines : (∀ c ∈ p.toXml, IsChar c) ↔ ∀ line ∈ documentLines p, ∀ c ∈ line, IsChar c := by
    rw [Program.toXml, pieces, List.forall_mem_flatten, List.forall_mem_map]
    simp only [List.forall_mem_append]
    exact forall₂_congr fun line _ ↦ and_iff_left (by decide)
  rw [hlines]
  obtain ⟨ss⟩ := p
  cases ss with
  | nil => exact iff_of_true (by decide) (List.forall_mem_nil _)
  | cons s ss =>
    show (∀ line ∈ declaration :: ((programTag ++ ['>']) :: (s :: ss).flatMap statementLines ++
      ["</program>".toList]), ∀ c ∈ line, IsChar c) ↔ _
    rw [List.forall_mem_cons, List.forall_mem_append, List.forall_mem_cons, List.forall_mem_flatMap]
    simp only [isChar_statementLines_iff]
    exact ⟨fun h ↦ h.2.1.2, fun h ↦ ⟨by decide, ⟨by decide, h⟩, by decide⟩⟩

end Xml

namespace Program

/-- The values of operands other than strings have only characters that may stand in a document. -/
theorem isChar_value {x : Operand} (hx : x.WellSpelled)
    (hstring : ∀ payload, x ≠ .literal (.string payload)) : ∀ c ∈ x.value, Xml.IsChar c := by
  have hsigns : ∀ c ∈ ['+', '@'], Xml.IsChar c := by decide
  intro c hc
  rcases Operand.isIdentifierPart_or_of_mem_value hx hstring c hc with hpart | hsign
  · exact Xml.isChar_of_isIdentifierPart hpart
  · exact hsigns c hsign

/-- **The document of a program that was read keeps to the grammar, and it is well-formed if and
only if the strings have no characters that may not stand in a document.** -/
theorem wellFormed_toXml_iff {source : Text} {p : Program} (h : ofSource source = .ok p) :
    Xml.IsDocument p.toXml ∧ (Xml.WellFormed p.toXml ↔ ∀ s ∈ p.statements, ∀ payload,
      Operand.literal (.string payload) ∈ s.instruction.operands →
        ∀ c ∈ payload, Xml.IsChar c) := by
  refine ⟨Xml.isDocument_toXml p, ?_, fun hstrings ↦ ?_⟩
  · intro hxml s hs payload hpayload
    exact (Xml.isChar_toXml_iff p).1 hxml.chars s hs _ hpayload
  · refine ⟨(Xml.isChar_toXml_iff p).2 fun s hs x hx ↦ ?_, Xml.isDocument_toXml p⟩
    by_cases hstring : ∃ payload, x = .literal (.string payload)
    · obtain ⟨payload, rfl⟩ := hstring
      exact hstrings s hs payload hx
    · exact isChar_value ((IsRead.ofSource h).wellSpelled s hs x hx) (not_exists.1 hstring)

/-- Markup in a string does not matter. -/
theorem wellFormed_toXml_markup : ∃ p,
    ofSource ".IPPcode24\nWRITE string@<]]>&".toList = .ok p ∧ Xml.WellFormed p.toXml := by
  have h : ofSource ".IPPcode24\nWRITE string@<]]>&".toList =
      .ok ⟨[⟨1, .write, [.literal (.string "<]]>&".toList)]⟩]⟩ := by
    decide +kernel
  refine ⟨_, h, (wellFormed_toXml_iff h).2.2 ?_⟩
  intro s hs payload hpayload
  obtain rfl := List.mem_singleton.1 hs
  obtain ⟨⟨⟩⟩ := List.mem_singleton.1 hpayload
  decide

/-- A string may have a control character, and then the document is not well-formed. -/
theorem not_wellFormed_toXml_control : ∃ p,
    ofSource ".IPPcode24\nWRITE string@\u0001".toList = .ok p ∧ ¬Xml.WellFormed p.toXml := by
  have h : ofSource ".IPPcode24\nWRITE string@\u0001".toList =
      .ok ⟨[⟨1, .write, [.literal (.string "\u0001".toList)]⟩]⟩ := by
    decide +kernel
  exact ⟨_, h, fun hxml ↦ absurd (hxml.chars '\u0001' (by decide +kernel)) (by decide)⟩

end Program

end ThreeAddress
