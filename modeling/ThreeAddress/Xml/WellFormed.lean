import ThreeAddress.Text.Basic

/-!
# Well-formed documents

The part of the grammar of XML 1.0 that a document needs which has no comments, processing
instructions, character references or sections of character data, and no document type: a
declaration, one element, and within the elements texts and other elements. What is left out only
adds documents, so a text that this part of the grammar describes is well-formed.

The grammar says of the angle bracket and the ampersand where they stand. Whether a character may
stand in a document at all is said apart from it (`IsChar`), because that is asked of every
character in the same way, wherever it stands.
-/

namespace ThreeAddress.Xml

/-! ### Characters -/

/-- The character lies in one of the ranges. -/
def InRanges (ranges : List (Nat × Nat)) (c : Char) : Prop :=
  ∃ r ∈ ranges, r.1 ≤ c.toNat ∧ c.toNat ≤ r.2

instance (ranges : List (Nat × Nat)) : DecidablePred (InRanges ranges) := fun c ↦
  inferInstanceAs (Decidable (∃ r ∈ ranges, r.1 ≤ c.toNat ∧ c.toNat ≤ r.2))

/-- The character may stand in a document: it is a tabulator, a line feed or a carriage return, or
it is no control character, no surrogate and neither of the last two of the basic plane. -/
def IsChar : Char → Prop :=
  InRanges [(0x9, 0x9), (0xA, 0xA), (0xD, 0xD), (0x20, 0xD7FF), (0xE000, 0xFFFD),
    (0x10000, 0x10FFFF)]

instance : DecidablePred IsChar := inferInstanceAs (DecidablePred (InRanges _))

/-- The characters with which a name may begin. -/
def nameStarts : List (Nat × Nat) :=
  [(0x3A, 0x3A), (0x41, 0x5A), (0x5F, 0x5F), (0x61, 0x7A), (0xC0, 0xD6), (0xD8, 0xF6),
    (0xF8, 0x2FF), (0x370, 0x37D), (0x37F, 0x1FFF), (0x200C, 0x200D), (0x2070, 0x218F),
    (0x2C00, 0x2FEF), (0x3001, 0xD7FF), (0xF900, 0xFDCF), (0xFDF0, 0xFFFD), (0x10000, 0xEFFFF)]

/-- The characters that a name may have after its first. -/
def nameParts : List (Nat × Nat) :=
  nameStarts ++ [(0x2D, 0x2E), (0x30, 0x39), (0xB7, 0xB7), (0x300, 0x36F), (0x203F, 0x2040)]

/-- The text is the name of an element or of an attribute. -/
def IsXmlName : Text → Prop
  | [] => False
  | c :: t => InRanges nameStarts c ∧ ∀ d ∈ t, InRanges nameParts d

instance : DecidablePred IsXmlName
  | [] => inferInstanceAs (Decidable False)
  | c :: t => inferInstanceAs (Decidable (InRanges nameStarts c ∧ ∀ d ∈ t, InRanges nameParts d))

/-- The text is white space of a document. -/
def IsSpace (t : Text) : Prop := ∀ c ∈ t, c ∈ [' ', '\t', '\n', '\r']

instance : DecidablePred IsSpace := fun t ↦
  inferInstanceAs (Decidable (∀ c ∈ t, c ∈ [' ', '\t', '\n', '\r']))

/-! ### Text without markup -/

/-- The references to the entities that need no declaration. -/
def references : List Text :=
  ["&amp;".toList, "&lt;".toList, "&gt;".toList, "&quot;".toList, "&apos;".toList]

/-- The text is made of references and of characters that are not reserved. -/
inductive IsData (reserved : List Char) : Text → Prop
  | nil : IsData reserved []
  | char {c : Char} {t : Text} (hc : c ∉ reserved) (ht : IsData reserved t) :
      IsData reserved (c :: t)
  | reference {r t : Text} (hr : r ∈ references) (ht : IsData reserved t) :
      IsData reserved (r ++ t)

/-- The text may stand between two tags. -/
structure IsCharData (t : Text) : Prop where
  /-- No angle bracket opens and every ampersand begins a reference. -/
  data : IsData ['<', '&'] t
  /-- The mark that ends a section of character data stands nowhere. -/
  noSectionEnd : ¬"]]>".toList <:+: t

/-! ### Tags -/

/-- The text is a sequence of attributes with these names, of which no two are the same. -/
inductive IsAttributes : List Text → Text → Prop
  | nil : IsAttributes [] []
  | cons {names : List Text} {gap name value t : Text} {quote : Char} (hgap : IsSpace gap)
      (hne : gap ≠ []) (hname : IsXmlName name) (hnew : name ∉ names)
      (hquote : quote = '"' ∨ quote = '\'') (hvalue : IsData ['<', '&', quote] value)
      (ht : IsAttributes names t) :
      IsAttributes (name :: names) (gap ++ name ++ '=' :: quote :: value ++ quote :: t)

mutual

/-- The text is one element, from its first tag to its last. -/
inductive IsElement : Text → Prop
  /-- An element with nothing in it can be closed in its own tag. -/
  | empty {name attributes gap : Text} {names : List Text} (hname : IsXmlName name)
      (hattributes : IsAttributes names attributes) (hgap : IsSpace gap) :
      IsElement ('<' :: name ++ attributes ++ gap ++ "/>".toList)
  /-- Otherwise the last tag has the name of the first. -/
  | full {name attributes gap content gap' : Text} {names : List Text} (hname : IsXmlName name)
      (hattributes : IsAttributes names attributes) (hgap : IsSpace gap)
      (hcontent : IsContent content) (hgap' : IsSpace gap') :
      IsElement ('<' :: name ++ attributes ++ gap ++ '>' :: content ++ "</".toList ++ name ++
        gap' ++ ['>'])

/-- The text is what stands in an element: texts, and elements between them. -/
inductive IsContent : Text → Prop
  | text {t : Text} (ht : IsCharData t) : IsContent t
  | element {t e u : Text} (ht : IsCharData t) (he : IsElement e) (hu : IsContent u) :
      IsContent (t ++ e ++ u)

end

/-! ### Documents -/

/-- The text is a declaration and one element. -/
inductive IsDocument : Text → Prop
  | intro {gap root tail : Text} (hgap : IsSpace gap) (hroot : IsElement root)
      (htail : IsSpace tail) :
      IsDocument ("<?xml version=\"1.0\" encoding=\"UTF-8\"?>".toList ++ gap ++ root ++ tail)

/-- The text is a well-formed document. -/
structure WellFormed (t : Text) : Prop where
  chars : ∀ c ∈ t, IsChar c
  document : IsDocument t

end ThreeAddress.Xml
