import ThreeAddress.Draft
import ThreeAddress.Proofs.Draft.Run
import ThreeAddress.Proofs.Text.Lines

/-!
# The language

Which sources are programs, and of which program, is described here without any reading: a source is
cut into lines, a line into words, the lines without words do not count, the first of the others is
the header, and each of the rest spells one instruction. `Program.IsSpelledBy` is this description,
put together from `CutAtBreaks` for the lines, `BeforeComment` and `Tiled` for the words of a line
and the lexical classes for the operands.

`ofSource_eq_ok_iff` is the main statement: reading accepts exactly the sources described, with the
program described. On the way the reader is reduced to the lines with content
(`ofSource_eq_ok_iff_contentLines`) and a line to the instruction that its words spell
(`isInstruction_iff`).
-/

namespace ThreeAddress

open Text

/-! ### The description -/

/-- The texts are the words of the line before its comment. -/
def WordsOf (line : Text) (ws : List Text) : Prop :=
  ∃ text tiles, BeforeComment line text ∧ Tiled 0 text tiles ∧ tiles.map (·.text) = ws

/-- The word spells the operand where the kind is expected. -/
structure Operand.IsSpelledBy (kind : Kind) (word : Text) (x : Operand) : Prop where
  /-- The word is in the lexical class of the kind. -/
  hasKind : Token.hasKind kind word = true
  /-- The operand is of the kind: a variable, a literal, a label or the name of a type. -/
  accepts : kind.accepts x = true
  /-- The word is how the operand is written. -/
  spelling : x.spelling = word
  /-- What the spelling leaves open is as it has to be: an integer is in the first base. -/
  wellSpelled : x.WellSpelled

/-- The words spell the operands, one for one and in the order of the kinds. -/
inductive Operand.AreSpelledBy : List Kind → List Text → List Operand → Prop
  | nil : AreSpelledBy [] [] []
  | cons {kind : Kind} {kinds : List Kind} {word : Text} {words : List Text} {x : Operand}
      {xs : List Operand} (hx : x.IsSpelledBy kind word) (hxs : AreSpelledBy kinds words xs) :
      AreSpelledBy (kind :: kinds) (word :: words) (x :: xs)

/-- The words spell the instruction: its operation in any letter case, then its operands. -/
inductive Instruction.IsSpelledBy (i : Instruction) : List Text → Prop
  | intro {word : Text} {args : List Text} (hop : word.upper = i.opcode.name)
      (hargs : Operand.AreSpelledBy i.opcode.signature args i.operands) :
      IsSpelledBy i (word :: args)

/-- The source spells the program. -/
def Program.IsSpelledBy (p : Program) (source : Text) : Prop :=
  ∃ (ls : List Text) (wss : List (List Text)) (first : Text) (rest : List (List Text)),
    CutAtBreaks source ls ∧ List.Forall₂ WordsOf ls wss ∧
    -- the lines without words do not count, and the first of the others is the header alone
    wss.filter (· ≠ []) = [first] :: rest ∧ first.lower = header.lower ∧
    List.Forall₂ (fun ws s ↦ s.instruction.IsSpelledBy ws) rest p.statements ∧
    p.statements.map (·.order) = List.range' 1 p.statements.length

/-! ### Words and operands -/

/-- The words of the line outside its comment, without their places. -/
def contentTexts (line : Text) : List Text := (contentWords line).map (·.text)

/-- The words described are the words that the reader finds. -/
theorem wordsOf_iff {line : Text} {ws : List Text} : WordsOf line ws ↔ contentTexts line = ws := by
  constructor
  · rintro ⟨text, tiles, htext, htiles, hws⟩
    rwa [contentTexts, contentWords, uncommented_eq_iff.2 htext, words_eq_iff.2 htiles]
  · rintro rfl
    exact ⟨_, _, uncommented_eq_iff.1 rfl, words_eq_iff.1 rfl, rfl⟩

/-- The words of all lines are described at once. -/
theorem forall₂_wordsOf_iff {ls : List Text} {wss : List (List Text)} :
    List.Forall₂ WordsOf ls wss ↔ ls.map contentTexts = wss := by
  rw [← List.forall₂_eq_eq_eq, List.forall₂_map_left_iff]
  exact ⟨fun h ↦ h.imp fun _ _ ↦ wordsOf_iff.1, fun h ↦ h.imp fun _ _ ↦ wordsOf_iff.2⟩

/-- Leaving lines without words out comes to the same before and after the words are found. -/
theorem filter_map_contentTexts (ls : List Text) :
    (ls.map contentTexts).filter (· ≠ []) = (contentLines ls).map contentTexts := by
  simp [List.filter_map, contentLines, contentTexts, Function.comp_def]

/-- Words spell operands if these are accepted by their kinds and the words are their spellings. -/
theorem Operand.areSpelledBy_iff {kinds : List Kind} {words : List Text} {xs : List Operand} :
    AreSpelledBy kinds words xs ↔ List.Forall₂ (fun kind x ↦ kind.accepts x = true) kinds xs ∧
      (∀ x ∈ xs, x.WellSpelled) ∧ xs.map Operand.spelling = words := by
  constructor
  · intro h
    induction h with
    | nil => simp
    | cons hx _ ih =>
      obtain ⟨haccepts, hspelled, hmap⟩ := ih
      exact ⟨.cons hx.accepts haccepts, List.forall_mem_cons.2 ⟨hx.wellSpelled, hspelled⟩,
        by rw [List.map_cons, hx.spelling, hmap]⟩
  · rintro ⟨haccepts, hspelled, rfl⟩
    induction haccepts with
    | nil => exact .nil
    | cons hx _ ih =>
      obtain ⟨hfirst, hrest⟩ := List.forall_mem_cons.1 hspelled
      exact .cons ⟨Token.hasKind_iff.2 ⟨_, hx, hfirst, rfl⟩, hx, rfl, hfirst⟩ (ih hrest)

/-- A line is an instruction when its words spell it. -/
theorem isInstruction_iff {line : Text} {i : Instruction} :
    IsInstruction line i ↔ i.IsSpelledBy (contentTexts line) := by
  constructor
  · rintro ⟨first, rest, hwords, h⟩
    obtain ⟨hop, hi, hmap⟩ := Instruction.outcome_read_eq_ok_iff.1 h
    rw [contentTexts, hwords]
    exact .intro hop.symm (Operand.areSpelledBy_iff.2 ⟨hi.accepts, hi.wellSpelled, hmap⟩)
  · intro h
    generalize hws : contentTexts line = ws at h
    obtain ⟨hop, hargs⟩ := h
    obtain ⟨haccepts, hspelled, hmap⟩ := Operand.areSpelledBy_iff.1 hargs
    obtain ⟨first, rest, hwords, rfl, rfl⟩ := List.map_eq_cons_iff.1 hws
    exact ⟨first, rest, hwords,
      Instruction.outcome_read_eq_ok_iff.2 ⟨hop.symm, ⟨haccepts, hspelled⟩, hmap⟩⟩

/-- Statements are spelled by lines as their instructions are. -/
theorem forall₂_isSpelledBy_iff {ls : List Text} {ss : List Statement} :
    List.Forall₂ (fun ws s ↦ s.instruction.IsSpelledBy ws) (ls.map contentTexts) ss ↔
      List.Forall₂ IsInstruction ls (ss.map (·.instruction)) := by
  rw [List.forall₂_map_left_iff, List.forall₂_map_right_iff]
  simp only [isInstruction_iff]

/-! ### Numbers of statements -/

namespace Statement

theorem map_instruction_numbered (n : Nat) (is : List Instruction) :
    (numbered n is).map (·.instruction) = is := by
  simp [numbered, Function.comp_def]

@[simp] theorem length_numbered (n : Nat) (is : List Instruction) :
    (numbered n is).length = is.length := by
  simp [numbered]

theorem map_order_numbered (n : Nat) (is : List Instruction) :
    (numbered n is).map (·.order) = List.range' n is.length := by
  simp [numbered, Function.comp_def]

/-- Statements with consecutive numbers are the numbered list of their instructions. -/
theorem numbered_map_instruction {n : Nat} {ss : List Statement}
    (h : ss.map (·.order) = List.range' n ss.length) :
    numbered n (ss.map (·.instruction)) = ss := by
  induction ss generalizing n with
  | nil => rfl
  | cons s ss ih =>
    rw [List.map_cons, List.length_cons, List.range'_succ] at h
    obtain ⟨hfirst, hrest⟩ := List.cons.inj h
    rw [List.map_cons, numbered_cons, ih hrest, ← hfirst]

end Statement

/-! ### The reader -/

namespace Program

/-- A source is a program if the first of its lines with content is the header and the others are
instructions. -/
theorem ofSource_eq_ok_iff_contentLines {source : Text} {p : Program} :
    ofSource source = .ok p ↔ ∃ h rest is, contentLines source.lines = h :: rest ∧ IsHeader h ∧
      List.Forall₂ IsInstruction rest is ∧ p = ⟨Statement.numbered 1 is⟩ := by
  rw [ofSource, read, Logged.outcome_bind_eq_ok_iff]
  simp only [Draft.outcome_acceptAll_awaitingHeader_iff (d := Draft.start) rfl,
    Draft.outcome_complete_eq_ok_iff]
  constructor
  · rintro ⟨d, ⟨-, rfl⟩ | ⟨h, rest, is, hlines, hheader, his, rfl⟩, hphase, rfl⟩
    · exact absurd hphase (by simp [Draft.start])
    · exact ⟨h, rest, is, hlines, hheader, his, by simp [Draft.extend, Draft.start]⟩
  · rintro ⟨h, rest, is, hlines, hheader, his, rfl⟩
    exact ⟨_, .inr ⟨h, rest, is, hlines, hheader, his, rfl⟩, rfl,
      by simp [Draft.extend, Draft.start]⟩

/-- **The reader accepts exactly the language**: a source is read as a program if and only if it
spells that program. -/
theorem ofSource_eq_ok_iff (source : Text) (p : Program) :
    ofSource source = .ok p ↔ p.IsSpelledBy source := by
  rw [ofSource_eq_ok_iff_contentLines]
  constructor
  · rintro ⟨h, rest, is, hlines, hheader, his, rfl⟩
    obtain ⟨w, hw, hlower⟩ := isHeader_iff.1 hheader
    refine ⟨source.lines, _, w.text, rest.map contentTexts, lines_eq_iff.1 rfl,
      forall₂_wordsOf_iff.2 rfl, ?_, hlower, ?_, ?_⟩
    · rw [filter_map_contentTexts, hlines, List.map_cons, contentTexts, hw]
      rfl
    · rwa [forall₂_isSpelledBy_iff, Statement.map_instruction_numbered]
    · rw [Statement.map_order_numbered, Statement.length_numbered]
  · rintro ⟨ls, wss, first, rest, hls, hwss, hcontent, hlower, hspelled, horder⟩
    obtain rfl := lines_eq_iff.2 hls
    obtain rfl := forall₂_wordsOf_iff.1 hwss
    rw [filter_map_contentTexts] at hcontent
    obtain ⟨h, ls, hlines, hfirst, rfl⟩ := List.map_eq_cons_iff.1 hcontent
    obtain ⟨w, hw, rfl⟩ := List.map_eq_singleton_iff.1 hfirst
    refine ⟨h, ls, p.statements.map (·.instruction), hlines, isHeader_iff.2 ⟨w, hw, hlower⟩,
      forall₂_isSpelledBy_iff.1 hspelled, ?_⟩
    rw [Statement.numbered_map_instruction horder]

end Program

end ThreeAddress
