import ThreeAddress.Draft
import ThreeAddress.Proofs.Draft.Invariant
import ThreeAddress.Proofs.Operand.Value
import ThreeAddress.Proofs.Xml.Escape

/-!
# A document is read back

The document of a program leaves out what can be found again: the frame of a variable, the base of
an integer, the form of a literal. `ofXml?_toXml` says that reading a document gives the program of
which it is the document, as soon as the operands are well spelled; nothing is asked of the numbers
of the statements or of the signatures of the operations.

The proof follows the layers of the document. An attribute is read off the front of a text
(`readAttr?_attr`); a line is read as the operand or the tag that it is of; the lines of a statement
are read with any lines after them, by an induction on the operands that are still to come
(`readStatements?_operandLines`), and the lines of a program by one on its statements. That the
lines are the ones that were written is where the operands have to be well spelled: their values
break no line.
-/

namespace ThreeAddress

open Text

theorem Text.toNat?_ofNat (n : Nat) : toNat? (ofNat n) = some n := by
  have hdigits : (ofNat n).all Char.isDigit = true :=
    List.all_eq_true.2 fun _ ↦ isDigit_of_mem_ofNat
  rw [toNat?, if_pos ⟨Nat.toDigits_ne_nil, hdigits⟩]
  exact congrArg some Nat.ofDigitChars_ten_toDigits

theorem Opcode.find?_name (op : Opcode) : all.find? (fun o ↦ o.name == op.name) = some op := by
  rcases hfind : all.find? (fun o ↦ o.name == op.name) with - | o
  · exact absurd (List.find?_eq_none.1 hfind op (mem_all op)) (by simp)
  · have hname : o.name = op.name := by simpa using List.find?_some hfind
    exact hfind.trans (congrArg some (name_injective hname))

namespace Xml

/-! ### Attributes -/

/-- A text that does not contain the mark is what comes before the first mark. -/
theorem takeWhile_append_mark {mark : Char} {t : Text} (h : mark ∉ t) (rest : Text) :
    (t ++ mark :: rest).takeWhile (· != mark) = t := by
  have hinside : ∀ c ∈ t, (c != mark) = true := fun c hc ↦ bne_iff_ne.2 fun heq ↦ h (heq ▸ hc)
  rw [List.takeWhile_append_of_pos hinside, List.takeWhile_cons_of_neg (by simp), List.append_nil]

/-- A text that does not contain the mark is left out together with nothing else. -/
theorem dropWhile_append_mark {mark : Char} {t : Text} (h : mark ∉ t) (rest : Text) :
    (t ++ mark :: rest).dropWhile (· != mark) = mark :: rest := by
  have hinside : ∀ c ∈ t, (c != mark) = true := fun c hc ↦ bne_iff_ne.2 fun heq ↦ h (heq ▸ hc)
  rw [List.dropWhile_append_of_pos hinside, List.dropWhile_cons_of_neg (by simp)]

/-- An attribute is read off the front of a text: its value ends at the first quotation mark. -/
theorem readAttr?_attr (name value rest : Text) :
    readAttr? name (attr name value ++ rest) = some (value, rest) := by
  have hafter : after? (' ' :: name ++ "=\"".toList) (attr name value ++ rest) =
      some (escapeAttribute value ++ '"' :: rest) := by
    rw [after?_eq_some_iff]
    simp [attr]
  have hquote := quote_not_mem_escapeAttribute value
  rw [readAttr?, hafter]
  simp only [Option.bind_eq_bind, Option.bind_some, dropWhile_append_mark hquote,
    takeWhile_append_mark hquote, unescape_escapeAttribute]

/-! ### Operands -/

/-- **The tag and the value determine the operand.** -/
theorem operandOf?_tag_value {x : Operand} (hx : x.WellSpelled) :
    operandOf? x.tag x.value = some x := by
  cases x with
  | var v => exact congrArg (Option.map Operand.var) v.ofToken?_spelling
  | label name => rfl
  | type t => exact congrArg (Option.map Operand.type) (TypeName.ofText?_spelling t)
  | literal l =>
    cases l with
    | bool value => cases value <;> rfl
    | nil => rfl
    | int payload base =>
      have hbase : Base.of? payload = some base := Base.of?_eq_some_iff.2 hx
      exact congrArg (Option.map fun b ↦ Operand.literal (.int payload b)) hbase
    | string payload => rfl

/-- The line of an operand is its tag, and then nothing more or its text and the closing tag. -/
theorem operandLine_eq (position : Nat) (x : Operand) : operandLine position x =
    (indent ++ indent ++ '<' :: operandName position) ++ (attr "type".toList x.tag ++
      if x.value = [] then "/>".toList
      else '>' :: (escapeText x.value ++ '<' :: ('/' :: operandName position ++ ['>']))) := by
  by_cases hvalue : x.value = []
  · simp [operandLine, hvalue]
  · simp [operandLine, hvalue]

/-- The line of an operand is read as the operand. Its value is read as its tag says, in the first
base that accepts it. -/
theorem readOperandLine?_operandLine (position : Nat) {x : Operand} (hx : x.WellSpelled) :
    readOperandLine? position (operandLine position x) = some x := by
  rw [readOperandLine?, operandLine_eq, after?_eq_some_iff.2 rfl]
  simp only [Option.bind_eq_bind, Option.bind_some, readAttr?_attr]
  by_cases hvalue : x.value = []
  -- an element that is closed in its own tag has the empty value
  · rw [if_pos hvalue, if_pos rfl, ← hvalue]
    exact operandOf?_tag_value hx
  · have hlt := lt_not_mem_escapeText x.value
    have hopen : after? ['>'] ('>' :: (escapeText x.value ++ '<' ::
        ('/' :: operandName position ++ ['>']))) = some (escapeText x.value ++ '<' ::
        ('/' :: operandName position ++ ['>'])) := after?_eq_some_iff.2 rfl
    rw [if_neg hvalue, if_neg (by simp), hopen]
    simp only [Option.bind_some, takeWhile_append_mark hlt, dropWhile_append_mark hlt,
      unescape_escapeText]
    exact (if_pos rfl).trans (operandOf?_tag_value hx)

/-! ### Statements -/

/-- The tag of a statement is read up to how it ends, which tells whether operands follow. -/
theorem readStatementTag?_statementTag (s : Statement) (rest : Text) :
    readStatementTag? (statementTag s ++ rest) =
      if rest = "/>".toList then some (s.order, s.instruction.opcode, true)
      else if rest = ['>'] then some (s.order, s.instruction.opcode, false)
      else none := by
  have hafter : after? (indent ++ "<instruction".toList) (statementTag s ++ rest) =
      some (attr "order".toList (ofNat s.order) ++
        (attr "opcode".toList s.instruction.opcode.name ++ rest)) := by
    rw [after?_eq_some_iff]
    simp [statementTag]
  rw [readStatementTag?, hafter]
  simp only [Option.bind_eq_bind, Option.bind_some, readAttr?_attr, toNat?_ofNat,
    Opcode.find?_name]

/-- With a statement open, the lines of its other operands and its closing tag are read. -/
theorem readStatements?_operandLines (s : Statement) {xs : List Operand}
    (hxs : ∀ x ∈ xs, x.WellSpelled) (rest : List Text) :
    readStatements? (some s) (operandLines (s.instruction.operands.length + 1) xs ++
        (indent ++ "</instruction>".toList) :: rest) =
      (readStatements? none rest).map
        (⟨s.order, s.instruction.opcode, s.instruction.operands ++ xs⟩ :: ·) := by
  induction xs generalizing s with
  | nil => simp [operandLines, readStatements?]
  | cons x xs ih =>
    obtain ⟨hx, hxs⟩ := List.forall_mem_cons.1 hxs
    have hline : operandLine (s.instruction.operands.length + 1) x ≠
        indent ++ "</instruction>".toList := by simp [operandLine, indent]
    -- the operand joins those of the open statement, and the position of the next one goes up
    have ih := ih ⟨s.order, s.instruction.opcode, s.instruction.operands ++ [x]⟩ hxs
    rw [operandLines, List.cons_append, readStatements?, if_neg hline,
      readOperandLine?_operandLine _ hx]
    simpa using ih

/-- The lines of a statement are read as the statement, with any lines after them. -/
theorem readStatements?_statementLines {s : Statement}
    (hs : ∀ x ∈ s.instruction.operands, x.WellSpelled) (rest : List Text) :
    readStatements? none (statementLines s ++ rest) = (readStatements? none rest).map (s :: ·) := by
  have hline : ∀ t, statementTag s ++ t ≠ "</program>".toList := by
    simp [statementTag, indent]
  obtain ⟨order, op, operands⟩ := s
  cases operands with
  | nil =>
    rw [statementLines, List.singleton_append, readStatements?, if_neg (hline _),
      readStatementTag?_statementTag, if_pos rfl]
  | cons x xs =>
    have hlines : statementLines ⟨order, op, x :: xs⟩ ++ rest =
        (statementTag ⟨order, op, x :: xs⟩ ++ ['>']) ::
          (operandLines 1 (x :: xs) ++ (indent ++ "</instruction>".toList) :: rest) := by
      simp [statementLines]
    have hopen : ¬['>'] = "/>".toList := by decide
    rw [hlines, readStatements?, if_neg (hline _), readStatementTag?_statementTag, if_neg hopen,
      if_pos rfl]
    exact readStatements?_operandLines ⟨order, op, []⟩ hs rest

/-- The lines of some statements are read as these statements. -/
theorem readStatements?_flatMap {ss : List Statement}
    (hss : ∀ s ∈ ss, ∀ x ∈ s.instruction.operands, x.WellSpelled) :
    readStatements? none (ss.flatMap statementLines ++ ["</program>".toList, []]) = some ss := by
  induction ss with
  | nil => rfl
  | cons s ss ih =>
    obtain ⟨hs, hss⟩ := List.forall_mem_cons.1 hss
    rw [List.flatMap_cons, List.append_assoc, readStatements?_statementLines hs, ih hss]
    rfl

/-! ### The lines of a document -/

theorem unbroken_ofNat (n : Nat) : Unbroken (ofNat n) := fun _ hc ↦
  ⟨ne_of_mem_ofNat hc (by decide), ne_of_mem_ofNat hc (by decide)⟩

theorem unbroken_attr {name value : Text} (hname : Unbroken name) (hvalue : Unbroken value) :
    Unbroken (attr name value) := by
  have hblank : Unbroken (' ' :: name) := unbroken_cons_iff.2 ⟨by decide, hname⟩
  exact ((hblank.append (by decide)).append (unbroken_escapeAttribute hvalue)).append (by decide)

theorem unbroken_tag (x : Operand) : Unbroken x.tag := by
  rcases x with v | (value | - | ⟨payload, base⟩ | payload) | name | t <;>
    exact of_decide_eq_true rfl

/-- An operand takes one line, since its value has no breaks. -/
theorem unbroken_operandLine (position : Nat) {x : Operand} (hx : x.WellSpelled) :
    Unbroken (operandLine position x) := by
  have hname : Unbroken (operandName position) :=
    Unbroken.append (by decide) (unbroken_ofNat position)
  have hvalue : Unbroken (escapeText x.value) :=
    unbroken_escapeText (Operand.solid_value hx).unbroken
  have hopen : Unbroken (indent ++ indent ++ '<' :: operandName position) :=
    Unbroken.append (by decide) (unbroken_cons_iff.2 ⟨by decide, hname⟩)
  have hclose : Unbroken ('<' :: ('/' :: operandName position ++ ['>'])) :=
    unbroken_cons_iff.2 ⟨by decide, unbroken_cons_iff.2 ⟨by decide, hname.append (by decide)⟩⟩
  rw [operandLine_eq]
  refine hopen.append ((unbroken_attr (by decide) (unbroken_tag x)).append ?_)
  split
  · decide
  · exact unbroken_cons_iff.2 ⟨by decide, hvalue.append hclose⟩

theorem unbroken_statementTag (s : Statement) : Unbroken (statementTag s) := by
  have hnames : ∀ op ∈ Opcode.all, Unbroken op.name := by decide
  have hname := hnames s.instruction.opcode (Opcode.mem_all _)
  have horder : Unbroken (attr "order".toList (ofNat s.order)) :=
    unbroken_attr (by decide) (unbroken_ofNat s.order)
  have hopen : Unbroken (indent ++ "<instruction".toList) := by decide
  exact (hopen.append horder).append (unbroken_attr (by decide) hname)

theorem unbroken_of_mem_operandLines {position : Nat} {xs : List Operand}
    (hxs : ∀ x ∈ xs, x.WellSpelled) : ∀ line ∈ operandLines position xs, Unbroken line := by
  induction xs generalizing position with
  | nil => simp [operandLines]
  | cons x xs ih =>
    obtain ⟨hx, hxs⟩ := List.forall_mem_cons.1 hxs
    exact List.forall_mem_cons.2 ⟨unbroken_operandLine position hx, ih hxs⟩

/-- The lines of a statement are lines. -/
theorem unbroken_of_mem_statementLines {s : Statement}
    (hs : ∀ x ∈ s.instruction.operands, x.WellSpelled) :
    ∀ line ∈ statementLines s, Unbroken line := by
  have htag := unbroken_statementTag s
  obtain ⟨order, op, operands⟩ := s
  intro line hline
  cases operands with
  | nil =>
    obtain rfl := List.mem_singleton.1 hline
    exact htag.append (by decide)
  | cons x xs =>
    rcases List.mem_cons.1 hline with rfl | hline
    · exact htag.append (by decide)
    rcases List.mem_append.1 hline with hline | hline
    · exact unbroken_of_mem_operandLines hs line hline
    · obtain rfl := List.mem_singleton.1 hline
      decide

/-- The lines of a document are lines, so that cutting it at its breaks gives them back. -/
theorem unbroken_of_mem_documentLines {p : Program}
    (hp : ∀ s ∈ p.statements, ∀ x ∈ s.instruction.operands, x.WellSpelled) :
    ∀ line ∈ documentLines p, Unbroken line := by
  obtain ⟨ss⟩ := p
  refine List.forall_mem_cons.2 ⟨by decide, ?_⟩
  intro line hline
  cases ss with
  | nil =>
    obtain rfl := List.mem_singleton.1 hline
    decide
  | cons s ss =>
    rcases List.mem_cons.1 hline with rfl | hline
    · decide
    rcases List.mem_append.1 hline with hline | hline
    · obtain ⟨s', hs', hline⟩ := List.mem_flatMap.1 hline
      exact unbroken_of_mem_statementLines (hp s' hs') line hline
    · obtain rfl := List.mem_singleton.1 hline
      decide

end Xml

/-! ### Documents -/

namespace Program

/-- **A document is read back**, whatever program with well spelled operands it is of. -/
theorem ofXml?_toXml {p : Program}
    (hp : ∀ s ∈ p.statements, ∀ x ∈ s.instruction.operands, x.WellSpelled) :
    ofXml? p.toXml = some p := by
  have hlines : p.toXml.lines = Xml.documentLines p ++ [[]] :=
    lines_flatten_map (Xml.unbroken_of_mem_documentLines hp)
  have hread := Xml.readStatements?_flatMap hp
  rw [ofXml?, hlines]
  obtain ⟨ss⟩ := p
  cases ss with
  | nil => rfl
  | cons s ss =>
    -- the closing tag and the empty line behind its feed are left when all statements are read
    have hbody : Xml.documentLines ⟨s :: ss⟩ ++ [[]] = Xml.declaration ::
        (Xml.programTag ++ ['>']) ::
          ((s :: ss).flatMap Xml.statementLines ++ ["</program>".toList, []]) := by
      simp [Xml.documentLines]
    have hopen : ¬Xml.programTag ++ ['>'] = Xml.programTag ++ "/>".toList := by decide
    rw [hbody]
    simp only [ne_eq, not_true_eq_false, if_false, if_neg hopen, if_true]
    rw [hread]
    rfl

/-- The program was read, from a source without faults or from lines of which some may have
failed. -/
inductive IsRead (p : Program) : Prop
  | ofSource {source : Text} (h : Program.ofSource source = .ok p) : IsRead p
  | complete {ls : List Text} (h : (Draft.start.afterAll ls).complete.outcome = .ok p) : IsRead p

/-- A draft that is completed has well spelled operands, by its invariant. -/
theorem wellSpelled_of_outcome_complete {ls : List Text} {p : Program}
    (h : (Draft.start.afterAll ls).complete.outcome = .ok p) :
    ∀ s ∈ p.statements, ∀ x ∈ s.instruction.operands, x.WellSpelled := by
  obtain ⟨-, rfl⟩ := Draft.outcome_complete_eq_ok_iff.1 h
  intro s hs
  exact (Draft.invariant_start.afterAll ls).wellSpelled s (Array.mem_toList_iff.1 hs)

/-- All that is read has well spelled operands. -/
theorem IsRead.wellSpelled {p : Program} (hp : p.IsRead) :
    ∀ s ∈ p.statements, ∀ x ∈ s.instruction.operands, x.WellSpelled := by
  rcases hp with ⟨h⟩ | ⟨h⟩
  · obtain ⟨d, hrun, hcomplete⟩ := Logged.outcome_bind_eq_ok_iff.1 h
    rw [← Draft.afterAll_eq_of_outcome_acceptAll hrun] at hcomplete
    exact wellSpelled_of_outcome_complete hcomplete
  · exact wellSpelled_of_outcome_complete h

/-- **The document of a program that was read loses nothing**: the program is read back from it, and
no other such program has the same document. -/
theorem ofXml?_toXml_of_isRead {p : Program} (hp : p.IsRead) :
    ofXml? p.toXml = some p ∧ ∀ q : Program, q.IsRead → q.toXml = p.toXml → q = p := by
  have hread := ofXml?_toXml hp.wellSpelled
  refine ⟨hread, fun q hq heq ↦ ?_⟩
  have hread' := ofXml?_toXml hq.wellSpelled
  rw [heq, hread] at hread'
  exact (Option.some.inj hread').symm

/-- A string that looks like markup, an empty one, and a label that is the name of a type. -/
theorem ofXml?_toXml_markup :
    ofSource ".IPPcode24\nCONCAT GF@x string@&lt;</arg2> string@\nJUMP int".toList =
        .ok ⟨[⟨1, .concat, [.var ⟨.globals, ['x']⟩, .literal (.string "&lt;</arg2>".toList),
          .literal (.string [])]⟩, ⟨2, .jump, [.label "int".toList]⟩]⟩ ∧
      ofXml? (toXml ⟨[⟨1, .concat, [.var ⟨.globals, ['x']⟩,
          .literal (.string "&lt;</arg2>".toList), .literal (.string [])]⟩,
          ⟨2, .jump, [.label "int".toList]⟩]⟩) =
        some ⟨[⟨1, .concat, [.var ⟨.globals, ['x']⟩, .literal (.string "&lt;</arg2>".toList),
          .literal (.string [])]⟩, ⟨2, .jump, [.label "int".toList]⟩]⟩ := by
  have h : ofSource ".IPPcode24\nCONCAT GF@x string@&lt;</arg2> string@\nJUMP int".toList =
      .ok ⟨[⟨1, .concat, [.var ⟨.globals, ['x']⟩, .literal (.string "&lt;</arg2>".toList),
        .literal (.string [])]⟩, ⟨2, .jump, [.label "int".toList]⟩]⟩ := by
    decide +kernel
  exact ⟨h, (ofXml?_toXml_of_isRead (.ofSource h)).1⟩

end Program

end ThreeAddress
