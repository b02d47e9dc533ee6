import Mathlib.Logic.Relation
import ThreeAddress.Proofs.Draft.SameWords
import ThreeAddress.Proofs.Program.Concatenation
import ThreeAddress.Proofs.Program.Source

/-!
# Layout, comments and letter case carry no meaning

A source may be changed in many ways without a change of what it says. `SourceEdit` lists them: a
line is changed in its comment, its blanks or the letter case of its first word, a line without
words is put between two others or behind the last, and all line feeds give place to another break.
Sources that are got from each other by any number of such changes, made or undone, are read to the
same end (`Program.sameReading_of_edits`).

Reading asks for the words of the lines with content and for nothing else, so all that has to be
said about a change is what it does to these (`contentLists`). A carriage return makes this less
than obvious, because what is put before a line feed or taken away there may make one break of two
or two of one. But the line between the two of them was empty. So the lines with content are those
that one gets by cutting at every character of a break (`contentLines_lines`), and with such cuts a
text falls apart wherever one of these characters stands (`contentLists_append_cons`).
-/

namespace ThreeAddress

open Text

/-- The text ends where a line can begin. -/
def AtLineStart (before : Text) : Prop := ∀ c ∈ before.getLast?, c = '\r' ∨ c = '\n'

/-- The text begins where a line can end. -/
def AtLineEnd (behind : Text) : Prop := ∀ c ∈ behind.head?, c = '\r' ∨ c = '\n'

instance (before : Text) : Decidable (AtLineStart before) :=
  @Option.decidableForallMem _ (fun c ↦ c = '\r' ∨ c = '\n') (fun _ ↦ inferInstance) _

instance (behind : Text) : Decidable (AtLineEnd behind) :=
  @Option.decidableForallMem _ (fun c ↦ c = '\r' ∨ c = '\n') (fun _ ↦ inferInstance) _

/-- The text with another break in place of each line feed. -/
def withBreaks (b : LineBreak) (t : Text) : Text :=
  t.flatMap fun c ↦ if c = '\n' then b.text else [c]

/-- One source is got from the other by a change that does not matter. -/
inductive SourceEdit : Text → Text → Prop
  /-- A line is changed in something that does not matter to it. -/
  | line {before line line' behind : Text} (hbefore : AtLineStart before)
      (hbehind : AtLineEnd behind) (hline : Unbroken line) (hline' : Unbroken line')
      (hedit : LineEdit line line') :
      SourceEdit (before ++ line ++ behind) (before ++ line' ++ behind)
  /-- A line that is blank up to its comment is put in front of another line. -/
  | insertLine {before line : Text} (hbefore : AtLineStart before) (hline : Unbroken line)
      (hblank : AllBlank (uncommented line)) (b : LineBreak) (behind : Text) :
      SourceEdit (before ++ behind) (before ++ line ++ b.text ++ behind)
  /-- A line that is blank up to its comment is put behind the last line. -/
  | appendLine {line : Text} (hline : Unbroken line) (hblank : AllBlank (uncommented line))
      (b : LineBreak) (source : Text) : SourceEdit source (source ++ b.text ++ line)
  /-- All line feeds give place to another break, where there are no other breaks yet. -/
  | breaks {source : Text} (hreturn : '\r' ∉ source) (b : LineBreak) :
      SourceEdit source (withBreaks b source)

/-! ### Lines with content -/

/-- The character is part of a break. -/
def isBreak (c : Char) : Bool := c == '\r' || c == '\n'

theorem isBreak_of_eq {c : Char} (h : c = '\r' ∨ c = '\n') : isBreak c = true := by
  rcases h with rfl | rfl
  · rfl
  · rfl

/-- The lines with content that are got by cutting at every character of a break. -/
def contentPieces (t : Text) : List Text := contentLines (t.splitOnP isBreak)

theorem contentLines_append (ls ms : List Text) :
    contentLines (ls ++ ms) = contentLines ls ++ contentLines ms := List.filter_append ..

/-- Cutting at a character puts together what is on its two sides. -/
theorem contentPieces_append_cons {c : Char} (hc : c = '\r' ∨ c = '\n') (s t : Text) :
    contentPieces (s ++ c :: t) = contentPieces s ++ contentPieces t := by
  rw [contentPieces, List.splitOnP_append_cons s t (isBreak_of_eq hc), contentLines_append]
  rfl

/-- Between two characters that follow each other there is no content. -/
theorem contentPieces_append_break (s : Text) (b : LineBreak) (t : Text) :
    contentPieces (s ++ b.text ++ t) = contentPieces s ++ contentPieces t := by
  rw [List.append_assoc]
  cases b with
  | lineFeed => exact contentPieces_append_cons (.inr rfl) s t
  | carriageReturn => exact contentPieces_append_cons (.inl rfl) s t
  | both =>
    have hfeed : contentPieces ('\n' :: t) = contentPieces t :=
      contentPieces_append_cons (.inr rfl) [] t
    rw [← hfeed]
    exact contentPieces_append_cons (.inl rfl) s ('\n' :: t)

/-- A text without breaks is one piece. -/
theorem Text.Unbroken.contentPieces {line : Text} (h : Unbroken line) :
    contentPieces line = contentLines [line] := by
  have hcut : line.splitOnP isBreak = [line] :=
    List.splitOnP_eq_singleton fun c hc ↦ by simp [isBreak, h c hc]
  rw [ThreeAddress.contentPieces, hcut]

/-- **The lines with content are what stands between the characters of breaks**, also where two of
these make one break. -/
theorem contentLines_lines (t : Text) : contentLines (lines t) = contentPieces t := by
  have hcut := cutAtBreaks_lines t
  generalize lines t = ls at hcut
  induction hcut with
  | last hline => exact hline.contentPieces.symm
  | @line line t ls b hline _ _ ih =>
    rw [contentPieces_append_break, hline.contentPieces, ← ih, ← contentLines_append,
      List.singleton_append]

theorem contentLists_eq (t : Text) : contentLists t = (contentPieces t).map contentTexts := by
  rw [contentLists, contentLines_lines]

/-- **A text falls apart at each character of a break.** -/
theorem contentLists_append_cons {c : Char} (hc : c = '\r' ∨ c = '\n') (s t : Text) :
    contentLists (s ++ c :: t) = contentLists s ++ contentLists t := by
  simp only [contentLists_eq, contentPieces_append_cons hc, List.map_append]

theorem contentLists_append_break (s : Text) (b : LineBreak) (t : Text) :
    contentLists (s ++ b.text ++ t) = contentLists s ++ contentLists t := by
  simp only [contentLists_eq, contentPieces_append_break, List.map_append]

theorem contentLists_nil : contentLists [] = [] := rfl

/-- A text falls apart where a line begins. -/
theorem contentLists_append_of_atLineStart {before : Text} (h : AtLineStart before) (t : Text) :
    contentLists (before ++ t) = contentLists before ++ contentLists t := by
  rcases before.eq_nil_or_concat with rfl | ⟨s, c, rfl⟩
  · rfl
  · have hc : c = '\r' ∨ c = '\n' := h c (by simp)
    rw [List.concat_eq_append, List.append_assoc, List.singleton_append,
      contentLists_append_cons hc, contentLists_append_cons hc, contentLists_nil, List.append_nil]

/-- A text falls apart where a line ends. -/
theorem contentLists_append_of_atLineEnd {behind : Text} (h : AtLineEnd behind) (s : Text) :
    contentLists (s ++ behind) = contentLists s ++ contentLists behind := by
  cases behind with
  | nil => rw [List.append_nil, contentLists_nil, List.append_nil]
  | cons c t =>
    have hc : c = '\r' ∨ c = '\n' := h c rfl
    have htail : contentLists (c :: t) = contentLists t := contentLists_append_cons hc [] t
    rw [contentLists_append_cons hc, htail]

/-! ### What the changes do to the words -/

/-- A single line contributes its words, if it has any. -/
theorem contentLists_of_unbroken {line : Text} (h : Unbroken line) :
    contentLists line = [contentTexts line].filter (· ≠ []) := by
  rw [contentLists, lines_eq_singleton h, ← filter_map_contentTexts, List.map_singleton]

/-- A line that is blank up to its comment contributes nothing. -/
theorem contentLists_of_blank {line : Text} (hline : Unbroken line)
    (hblank : AllBlank (uncommented line)) : contentLists line = [] := by
  have hwords : contentTexts line = [] := by
    rw [contentTexts_eq, words_eq_nil_iff.2 hblank, List.map_nil]
  rw [contentLists_of_unbroken hline, hwords]
  rfl

/-- Lines with the same words are both left out, or neither is. -/
theorem forall₂_contentLists_of_unbroken {line line' : Text} (hline : Unbroken line)
    (hline' : Unbroken line') (h : SameLineWords (contentTexts line) (contentTexts line')) :
    List.Forall₂ SameLineWords (contentLists line) (contentLists line') := by
  rw [contentLists_of_unbroken hline, contentLists_of_unbroken hline']
  generalize contentTexts line = ws at h
  generalize contentTexts line' = ws' at h
  cases h with
  | blank => exact .nil
  | content hfirst args => exact .cons (.content hfirst args) .nil

/-- The lines of a text stay what they are when its line feeds give place to other breaks. -/
theorem lines_withBreaks {t : Text} (hreturn : '\r' ∉ t) (b : LineBreak) :
    lines (withBreaks b t) = lines t := by
  induction t with
  | nil => rfl
  | cons c t ih =>
    have hc : c ≠ '\r' := fun heq ↦ hreturn (heq ▸ List.mem_cons_self)
    have ht : '\r' ∉ t := fun hmem ↦ hreturn (List.mem_cons_of_mem c hmem)
    rw [withBreaks, List.flatMap_cons, ← withBreaks]
    by_cases hn : c = '\n'
    · have hlone : b = .carriageReturn → (withBreaks b t).head? ≠ some '\n' := by
        rintro rfl hhead
        obtain ⟨d, -, hd⟩ := List.mem_flatMap.1 (List.mem_of_head? hhead)
        split_ifs at hd with hdn
        · simp [LineBreak.text] at hd
        · exact hdn (List.mem_singleton.1 hd).symm
      subst hn
      rw [if_pos rfl, lines_break b hlone, ih ht]
      rfl
    · rw [if_neg hn, List.singleton_append, lines_cons hc hn, ih ht, lines_cons hc hn]

theorem SameLineWords.forall₂_refl (wss : List (List Text)) :
    List.Forall₂ SameLineWords wss wss := List.forall₂_same.2 fun ws _ ↦ .refl ws

/-- **A change that does not matter leaves the words of all lines with content**, but for the letter
case of the first word of each. -/
theorem SourceEdit.forall₂_contentLists {source source' : Text} (h : SourceEdit source source') :
    List.Forall₂ SameLineWords (contentLists source) (contentLists source') := by
  cases h with
  | @line before line line' behind hbefore hbehind hline hline' hedit =>
    rw [contentLists_append_of_atLineEnd hbehind, contentLists_append_of_atLineEnd hbehind,
      contentLists_append_of_atLineStart hbefore, contentLists_append_of_atLineStart hbefore]
    have hchange := forall₂_contentLists_of_unbroken hline hline' hedit.sameLineWords
    exact List.rel_append (List.rel_append (SameLineWords.forall₂_refl _) hchange)
      (SameLineWords.forall₂_refl _)
  | @insertLine before line hbefore hline hblank b behind =>
    rw [contentLists_append_break, contentLists_append_of_atLineStart hbefore,
      contentLists_append_of_atLineStart hbefore, contentLists_of_blank hline hblank,
      List.append_nil]
    exact SameLineWords.forall₂_refl _
  | appendLine hline hblank b =>
    rw [contentLists_append_break, contentLists_of_blank hline hblank, List.append_nil]
    exact SameLineWords.forall₂_refl _
  | breaks hreturn b =>
    rw [contentLists, contentLists, lines_withBreaks hreturn]
    exact SameLineWords.forall₂_refl _

/-! ### What they do to the reading -/

namespace Program

/-- Sources with the same words, line by line, are read alike. -/
theorem sameReading_of_forall₂ {source source' : Text}
    (h : List.Forall₂ SameLineWords (contentLists source) (contentLists source')) :
    SameReading (ofSource source) (ofSource source') := by
  rw [ofSource_eq_readAll, ofSource_eq_readAll]
  exact Draft.start.sameReading_readAll h

/-- **Changes that do not matter do not change the reading**, however many are made and undone: both
sources are the same program, or both have the same fault, except that one quotes the line that
should have been the header as it stands. -/
theorem sameReading_of_edits {source source' : Text}
    (h : Relation.EqvGen SourceEdit source source') :
    SameReading (ofSource source) (ofSource source') := by
  induction h with
  | rel source source' hedit => exact sameReading_of_forall₂ hedit.forall₂_contentLists
  | refl source => exact sameReading_of_forall₂ (SameLineWords.forall₂_refl _)
  | symm source source' _ ih => exact ih.symm
  | trans source source' source'' _ _ ih ih' => exact ih.trans ih'

/-- A comment is taken away, the break is changed, a comment is put in front of the header, and the
header is written in another letter case. -/
theorem sameReading_of_edits_four :
    Relation.EqvGen SourceEdit ".IPPcode24\nBREAK# c".toList
        "\u00a0#\r\n.ippCODE24\r\nBREAK".toList ∧
      SameReading (ofSource ".IPPcode24\nBREAK# c".toList)
        (ofSource "\u00a0#\r\n.ippCODE24\r\nBREAK".toList) := by
  have hcomment : SourceEdit ".IPPcode24\nBREAK".toList ".IPPcode24\nBREAK# c".toList :=
    @SourceEdit.line ".IPPcode24\n".toList "BREAK".toList "BREAK# c".toList []
      (by decide +kernel) (by decide +kernel) (by decide +kernel) (by decide +kernel)
      (.comment "BREAK".toList " c".toList)
  have hbreaks : SourceEdit ".IPPcode24\nBREAK".toList ".IPPcode24\r\nBREAK".toList :=
    @SourceEdit.breaks ".IPPcode24\nBREAK".toList (by decide +kernel) .both
  have hinsert : SourceEdit ".IPPcode24\r\nBREAK".toList
      "\u00a0#\r\n.IPPcode24\r\nBREAK".toList :=
    @SourceEdit.insertLine [] "\u00a0#".toList (by decide +kernel) (by decide +kernel)
      (by decide +kernel) .both ".IPPcode24\r\nBREAK".toList
  have hcase : SourceEdit "\u00a0#\r\n.IPPcode24\r\nBREAK".toList
      "\u00a0#\r\n.ippCODE24\r\nBREAK".toList :=
    @SourceEdit.line "\u00a0#\r\n".toList ".IPPcode24".toList ".ippCODE24".toList
      "\r\nBREAK".toList (by decide +kernel) (by decide +kernel) (by decide +kernel)
      (by decide +kernel)
      (@LineEdit.letterCase [] ".IPPcode24".toList ".ippCODE24".toList (by decide +kernel)
        (by decide +kernel) (by decide +kernel) (by decide +kernel) [])
  have hbody := (Relation.EqvGen.rel _ _ hcomment).symm.trans _ _ _ (.rel _ _ hbreaks)
  have hheader := (Relation.EqvGen.rel _ _ hinsert).trans _ _ _ (.rel _ _ hcase)
  have hedits := hbody.trans _ _ _ hheader
  exact ⟨hedits, sameReading_of_edits hedits⟩

end Program

end ThreeAddress
