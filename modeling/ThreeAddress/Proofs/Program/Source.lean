import ThreeAddress.Program
import ThreeAddress.Proofs.Operand.Value
import ThreeAddress.Proofs.Program.Language

/-!
# A program comes back from its plainest source

`Program.toSource` writes a program that was read as plainly as it can be written, and reading finds
the same program in it: words of plain characters with blanks between them are the words of the line
again (`contentTexts_intercalate`), and lines without breaks are the lines of the text again
(`Text.lines_intercalate`). Any other source of the program differs from this one in its layout and
in how the header and the operations are spelled, and in no other word (`SameWords`).
-/

namespace ThreeAddress

open Text

/-! ### Lines of plain words -/

/-- Plain words with a blank between two of them are the words of the line. -/
theorem contentTexts_intercalate {ws : List Text} (h : ∀ w ∈ ws, Plain w ∧ w ≠ []) :
    contentTexts (List.intercalate [' '] ws) = ws := by
  have hplain : ∀ c ∈ List.intercalate [' '] ws, c ≠ commentMark :=
    forall_mem_intercalate (List.forall_mem_singleton.2 (by decide))
      fun w hw c hc ↦ ((h w hw).1 c hc).2
  have hmark : commentMark ∉ List.intercalate [' '] ws := fun hmem ↦ hplain _ hmem rfl
  rw [contentTexts, contentWords, uncommented_of_not_mem hmark]
  exact map_text_words_intercalate fun w hw ↦ ⟨(h w hw).1.solid, (h w hw).2⟩

/-- Words without blanks, put together with spaces, are one line. -/
theorem unbroken_intercalate {ws : List Text} (h : ∀ w ∈ ws, Plain w ∧ w ≠ []) :
    Unbroken (List.intercalate [' '] ws) :=
  forall_mem_intercalate (List.forall_mem_singleton.2 (by decide))
    fun w hw ↦ (h w hw).1.solid.unbroken

/-! ### The words of a source -/

/-- The words of the lines with content, line by line. -/
def contentLists (source : Text) : List (List Text) :=
  (contentLines source.lines).map contentTexts

/-- Whether a source spells a program is decided by its words. -/
theorem Program.isSpelledBy_iff_contentLists {p : Program} {source : Text} :
    p.IsSpelledBy source ↔ ∃ first rest, contentLists source = [first] :: rest ∧
      first.lower = header.lower ∧
      List.Forall₂ (fun ws s ↦ s.instruction.IsSpelledBy ws) rest p.statements ∧
      p.statements.map (·.order) = List.range' 1 p.statements.length := by
  constructor
  · rintro ⟨ls, wss, first, rest, hls, hwss, hcontent, hlower, hspelled, horder⟩
    obtain rfl := lines_eq_iff.2 hls
    obtain rfl := forall₂_wordsOf_iff.1 hwss
    exact ⟨first, rest, (filter_map_contentTexts _).symm.trans hcontent, hlower, hspelled, horder⟩
  · rintro ⟨first, rest, hcontent, hlower, hspelled, horder⟩
    exact ⟨source.lines, _, first, rest, lines_eq_iff.1 rfl, forall₂_wordsOf_iff.2 rfl,
      (filter_map_contentTexts _).trans hcontent, hlower, hspelled, horder⟩

/-- Lines of plain words, none of them empty, are found as they were written. -/
theorem contentLists_intercalate {wss : List (List Text)} (hne : wss ≠ [])
    (h : ∀ ws ∈ wss, ws ≠ [] ∧ ∀ w ∈ ws, Plain w ∧ w ≠ []) :
    contentLists (List.intercalate ['\n'] (wss.map (List.intercalate [' ']))) = wss := by
  have hlines : lines (List.intercalate ['\n'] (wss.map (List.intercalate [' ']))) =
      wss.map (List.intercalate [' ']) := by
    refine lines_intercalate (by simpa using hne) (List.forall_mem_map.2 fun ws hws ↦ ?_)
    exact unbroken_intercalate (h ws hws).2
  have htexts : (wss.map (List.intercalate [' '])).map contentTexts = wss := by
    rw [List.map_map]
    exact (List.map_congr_left fun ws hws ↦ contentTexts_intercalate (h ws hws).2).trans wss.map_id
  have hfilter : wss.filter (· ≠ []) = wss :=
    List.filter_eq_self.2 fun ws hws ↦ decide_eq_true (h ws hws).1
  rw [contentLists, hlines, ← filter_map_contentTexts, htexts, hfilter]

/-! ### Instructions -/

namespace Opcode

theorem upper_name (op : Opcode) : op.name.upper = op.name := by
  have hall : ∀ op ∈ all, ∀ c ∈ op.name, c.toNat < 128 ∧ c.toUpper = c := by decide +kernel
  have hchar : ∀ c ∈ op.name, upperChar c = [c] := by
    intro c hc
    obtain ⟨hascii, hupper⟩ := hall op (mem_all op) c hc
    rw [upperChar_of_toNat_lt hascii, hupper]
  rw [upper, List.flatMap_congr hchar, List.flatMap_singleton']

theorem plain_name (op : Opcode) : Plain op.name ∧ op.name ≠ [] := by
  have hall : ∀ op ∈ all, Plain op.name ∧ op.name ≠ [] := by decide +kernel
  exact hall op (mem_all op)

end Opcode

namespace Instruction

/-- The words of two lines are the same, but for the letter case of the operation. -/
inductive SameWords : List Text → List Text → Prop
  | intro {word word' : Text} (hop : word.upper = word'.upper) (args : List Text) :
      SameWords (word :: args) (word' :: args)

variable {i : Instruction} {ws : List Text}

/-- The words that are written for an instruction are words. -/
theorem IsSpelledBy.plain_words (h : i.IsSpelledBy ws) : ∀ w ∈ i.words, Plain w ∧ w ≠ [] := by
  obtain ⟨-, hargs⟩ := h
  obtain ⟨-, hspelled, -⟩ := Operand.areSpelledBy_iff.1 hargs
  refine List.forall_mem_cons.2 ⟨i.opcode.plain_name, List.forall_mem_map.2 fun x hx ↦ ?_⟩
  exact ⟨Operand.plain_spelling (hspelled x hx), Operand.spelling_ne_nil (hspelled x hx)⟩

/-- The words that spell an instruction are its own words, with the operation in some letter
case. -/
theorem IsSpelledBy.sameWords (h : i.IsSpelledBy ws) : SameWords ws i.words := by
  obtain ⟨hop, hargs⟩ := h
  obtain ⟨-, -, rfl⟩ := Operand.areSpelledBy_iff.1 hargs
  exact .intro (hop.trans i.opcode.upper_name.symm) _

/-- What is spelled in some way is spelled by the words that are written for it. -/
theorem IsSpelledBy.words (h : i.IsSpelledBy ws) : i.IsSpelledBy i.words := by
  obtain ⟨-, hargs⟩ := h
  obtain ⟨-, -, rfl⟩ := Operand.areSpelledBy_iff.1 hargs
  exact .intro i.opcode.upper_name hargs

end Instruction

/-! ### Programs -/

/-- The words of two sources are the same, but for the letter case of the header and of the
operations. -/
inductive SameWords : List (List Text) → List (List Text) → Prop
  | intro {first first' : Text} {rest rest' : List (List Text)}
      (hheader : first.lower = first'.lower)
      (hrest : List.Forall₂ Instruction.SameWords rest rest') :
      SameWords ([first] :: rest) ([first'] :: rest')

namespace Program

/-- The words of the plainest source of the program, line by line. -/
def wordLists (p : Program) : List (List Text) :=
  [header] :: p.statements.map (·.instruction.words)

theorem sourceLines_eq (p : Program) :
    p.sourceLines = p.wordLists.map (List.intercalate [' ']) := by
  simp [sourceLines, wordLists, Function.comp_def]

variable {p : Program} {source : Text}

/-- Every statement of a program that is spelled is spelled by some words. -/
theorem IsSpelledBy.exists_words (h : p.IsSpelledBy source) {s : Statement}
    (hs : s ∈ p.statements) : ∃ ws, s.instruction.IsSpelledBy ws := by
  obtain ⟨-, rest, -, -, hspelled, -⟩ := isSpelledBy_iff_contentLists.1 h
  obtain ⟨k, hk, rfl⟩ := List.getElem_of_mem hs
  exact ⟨_, hspelled.get (by rwa [hspelled.length_eq]) hk⟩

/-- The words of what is written are the words that were to be written. -/
theorem IsSpelledBy.contentLists_toSource (h : p.IsSpelledBy source) :
    contentLists p.toSource = p.wordLists := by
  rw [toSource, sourceLines_eq]
  refine contentLists_intercalate (by simp [wordLists]) (List.forall_mem_cons.2 ⟨?_, ?_⟩)
  · exact ⟨by simp, List.forall_mem_singleton.2 (by decide)⟩
  · refine List.forall_mem_map.2 fun s hs ↦ ⟨by simp [Instruction.words], ?_⟩
    obtain ⟨ws, hws⟩ := h.exists_words hs
    exact hws.plain_words

/-- **A program comes back from its plainest source**, whose words are those of any source of the
program, but for the letter case of the header and of the operations. -/
theorem ofSource_toSource (h : ofSource source = .ok p) :
    ofSource p.toSource = .ok p ∧ SameWords (contentLists source) (contentLists p.toSource) := by
  have hspells := (ofSource_eq_ok_iff source p).1 h
  obtain ⟨first, rest, hcontent, hlower, hspelled, horder⟩ := isSpelledBy_iff_contentLists.1 hspells
  constructor
  · refine (ofSource_eq_ok_iff _ p).2 (isSpelledBy_iff_contentLists.2
      ⟨header, _, hspells.contentLists_toSource, rfl, ?_, horder⟩)
    refine List.forall₂_map_left_iff.2 (List.forall₂_same.2 fun s hs ↦ ?_)
    obtain ⟨ws, hws⟩ := hspells.exists_words hs
    exact hws.words
  · rw [hcontent, hspells.contentLists_toSource]
    exact .intro hlower (List.forall₂_map_right_iff.2 (hspelled.imp fun _ _ h ↦ h.sameWords))

/-- Comments, blank lines, other blanks and letter case go, a label and a type of one spelling stay
what they are, and so does the base of an integer. -/
theorem ofSource_toSource_layout : ∃ source p, ofSource source = .ok p ∧
    source = "# c\r\n.ippCODE24#\n\n label\tint \rread GF@int int\nmove GF@int int@-0x1_F".toList ∧
    p.toSource = ".IPPcode24\nLABEL int\nREAD GF@int int\nMOVE GF@int int@-0x1_F".toList ∧
    ofSource p.toSource = .ok p ∧ SameWords (contentLists source) (contentLists p.toSource) := by
  have h : ofSource
      "# c\r\n.ippCODE24#\n\n label\tint \rread GF@int int\nmove GF@int int@-0x1_F".toList =
        .ok ⟨[⟨1, .label, [.label "int".toList]⟩,
          ⟨2, .read, [.var ⟨.globals, "int".toList⟩, .type .int]⟩,
          ⟨3, .move, [.var ⟨.globals, "int".toList⟩,
            .literal (.int "-0x1_F".toList .hexadecimal)]⟩]⟩ := by
    decide +kernel
  exact ⟨_, _, h, rfl, by decide +kernel, ofSource_toSource h⟩

end Program

end ThreeAddress
