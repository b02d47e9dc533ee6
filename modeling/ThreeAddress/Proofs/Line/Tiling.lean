import ThreeAddress.Proofs.Line

/-!
# The words of a line, by their spans

`Text.Tiled` builds a text from its words and the gaps between them. The places that are reported
are read the other way round: there is a line, and there are ranges of bytes in it. `TilesContent`
says of a list of words, by what can be seen in the line, that it is the one that is meant. Every
span is a range of whole characters, the spans are in order, there is no blank inside of one, and
there is nothing but blanks outside of them. The comment is not looked at.

That the words of a line have all this is read off their layout (`tilesContent_contentWords`). The
way back goes through `LaidOut`, which is about a text without a comment that may begin at any byte,
so that it can be followed: from the first of the spans one gets the first gap, the first word, and
what is left of the text with the further words laid out over it (`LaidOut.tail`).
-/

namespace ThreeAddress

open Text

variable {n : Nat} {t line : Text} {ws : List Word}

/-- The byte lies in the span of a word. -/
def Covered (ws : List Word) (n : Nat) : Prop := ∃ w ∈ ws, w.span.start ≤ n ∧ n < w.span.stop

/-- The words are where their spans say, and together they are all of the line that is neither
blank nor in the comment. -/
structure TilesContent (line : Text) (ws : List Word) : Prop where
  /-- A span is a range of whole characters, and these are the word. -/
  slice : ∀ w ∈ ws, w.span.start < w.span.stop ∧ line.slice? w.span = some w.text
  /-- A span ends before the next begins. -/
  ordered : ws.Pairwise fun v w ↦ v.span.stop ≤ w.span.start
  /-- No span goes beyond the first comment mark. -/
  before_comment : ∀ before after, line = before ++ commentMark :: after → commentMark ∉ before →
    ∀ w ∈ ws, w.span.stop ≤ byteLength before
  /-- No word has a blank or a comment mark in it. -/
  plain : ∀ w ∈ ws, ∀ c ∈ w.text, isBlank c = false ∧ c ≠ commentMark
  /-- A character before the first comment mark and outside of the spans is blank. -/
  blank : ∀ before c after, line = before ++ c :: after → commentMark ∉ before →
    c ≠ commentMark → ¬Covered ws (byteLength before) → isBlank c = true
  /-- There is a blank between two spans. -/
  apart : ws.IsChain fun v w ↦
    ∃ gap, line.slice? ⟨v.span.stop, w.span.start⟩ = some gap ∧ ∃ c ∈ gap, isBlank c = true

/-- The words are where their spans say in the text, which begins at byte `n`, and together they are
all of it that is not blank. -/
structure LaidOut (n : Nat) (t : Text) (ws : List Word) : Prop where
  word : ∀ w ∈ ws, w.text ≠ [] ∧ ∃ before after, t = before ++ w.text ++ after ∧
    w.span = ⟨n + byteLength before, n + byteLength (before ++ w.text)⟩
  solid : ∀ w ∈ ws, Solid w.text
  ordered : ws.Pairwise fun v w ↦ v.span.stop < w.span.start
  blank : ∀ before c after, t = before ++ c :: after → ¬Covered ws (n + byteLength before) →
    isBlank c = true

/-! ### The spans of a layout -/

theorem covered_cons_iff {w : Word} :
    Covered (w :: ws) n ↔ (w.span.start ≤ n ∧ n < w.span.stop) ∨ Covered ws n :=
  List.exists_mem_cons_iff ..

/-- What begins with a blank, or has no character, does not begin with a word. -/
theorem ne_nil_of_head?_blank {before w after : Text}
    (hend : ∀ c, (before ++ w ++ after).head? = some c → isBlank c = true) (hne : w ≠ [])
    (hsolid : Solid w) : before ≠ [] := by
  rintro rfl
  obtain ⟨c, w, rfl⟩ := List.exists_cons_of_ne_nil hne
  have hblank : isBlank c = true := hend c rfl
  have hword : isBlank c = false := hsolid c List.mem_cons_self
  simp [hblank] at hword

/-- No word of a tiled text has a blank in it. -/
theorem Text.Tiled.solid_of_mem (h : Tiled n t ws) {w : Word} (hw : w ∈ ws) : Solid w.text := by
  induction h with
  | blank => exact absurd hw (by simp)
  | word _ _ hsolid _ _ ih =>
    rcases List.mem_cons.1 hw with rfl | hw
    · exact hsolid
    · exact ih hw

/-- The words of a tiled text that begins with a blank begin after its first byte. -/
theorem Text.Tiled.lt_start_of_mem (h : Tiled n t ws)
    (hend : ∀ c, t.head? = some c → isBlank c = true) {w : Word} (hw : w ∈ ws) :
    n < w.span.start := by
  obtain ⟨hne, before, after, rfl, hspan⟩ := h.exists_of_mem hw
  have hbefore := ne_nil_of_head?_blank hend hne (h.solid_of_mem hw)
  have hpos : byteLength before ≠ 0 := fun hzero ↦ hbefore (byteLength_eq_zero_iff.1 hzero)
  rw [hspan]
  show n < n + byteLength before
  omega

/-- The words of a tiled text are in order, with at least one byte between them. -/
theorem Text.Tiled.pairwise (h : Tiled n t ws) :
    ws.Pairwise fun v w ↦ v.span.stop < w.span.start := by
  induction h with
  | blank => exact .nil
  | word _ _ _ hend ht ih => exact .cons (fun v hv ↦ ht.lt_start_of_mem hend hv) ih

/-- What is in no word of a tiled text is in a gap. The character is in the first gap, in the first
word or behind it. -/
theorem Text.Tiled.isBlank_of_not_covered (h : Tiled n t ws) {before after : Text} {c : Char}
    (heq : t = before ++ c :: after) (hc : ¬Covered ws (n + byteLength before)) :
    isBlank c = true := by
  induction h generalizing before with
  | blank ht => exact ht c (by simp [heq])
  | @word n gap w t ws hgap hne hsolid hend ht ih =>
    rw [covered_cons_iff, not_or] at hc
    obtain ⟨hword, hrest⟩ := hc
    rcases exists_of_append_eq_append_cons heq with ⟨later, hfirst, -⟩ | ⟨later, rfl, htail⟩
    · rcases exists_of_append_eq_append_cons hfirst with ⟨later, rfl, -⟩ | ⟨later, rfl, rfl⟩
      · exact hgap c (by simp)
      · -- the character is one of the first word
        have hpos := c.utf8Size_pos
        refine absurd ⟨?_, ?_⟩ hword
        · simp
        · simp only [byteLength_append, byteLength_cons]
          omega
    · exact ih htail (by simpa [Nat.add_assoc] using hrest)

/-- The gap between two words of a tiled text. -/
theorem Text.Tiled.isChain (h : Tiled n t ws) : ws.IsChain fun v w ↦
    ∃ before gap after, t = before ++ gap ++ after ∧ v.span.stop = n + byteLength before ∧
      w.span.start = n + byteLength (before ++ gap) ∧ ∃ c ∈ gap, isBlank c = true := by
  induction h with
  | blank => exact .nil
  | @word n gap w t ws _ _ _ hend ht ih =>
    cases ht with
    | blank => exact .singleton _
    | @word _ gap' v t ws hgap' hne hsolid _ _ =>
      have hfirst := ne_nil_of_head?_blank hend hne hsolid
      refine .cons_cons ⟨gap ++ w, gap', v ++ t, by simp, by simp [Nat.add_assoc],
        by simp [Nat.add_assoc], _, List.head_mem hfirst, hgap' _ (List.head_mem hfirst)⟩ ?_
      refine ih.imp fun u u' ⟨before, between, after, heq, hstop, hstart, hblank⟩ ↦ ?_
      refine ⟨gap ++ w ++ before, between, after, by simp [heq], ?_, ?_, hblank⟩
      · rw [hstop]
        simp [Nat.add_assoc]
      · rw [hstart]
        simp [Nat.add_assoc]

/-! ### From the spans to the layout -/

/-- Behind the first word the further words are laid out over what is left. -/
theorem LaidOut.tail {gap after text : Text} {span : Span}
    (h : LaidOut n (gap ++ text ++ after) (⟨text, span⟩ :: ws))
    (hstop : span.stop = n + byteLength (gap ++ text)) : LaidOut span.stop after ws where
  word v hv := by
    obtain ⟨hne, before, later, heq, hspan⟩ := h.word v (List.mem_cons_of_mem _ hv)
    have hlt : span.stop < v.span.start := List.rel_of_pairwise_cons h.ordered hv
    have hle : byteLength (gap ++ text) ≤ byteLength before := by
      rw [hspan, hstop] at hlt
      exact Nat.le_of_lt (Nat.lt_of_add_lt_add_left hlt)
    -- the word begins behind the first, which is therefore part of what is before it
    rw [List.append_assoc before] at heq
    obtain ⟨between, rfl, rfl⟩ := exists_of_append_eq_append heq hle
    refine ⟨hne, between, later, by simp, ?_⟩
    rw [hspan, hstop]
    simp [Nat.add_assoc]
  solid v hv := h.solid v (List.mem_cons_of_mem _ hv)
  ordered := h.ordered.of_cons
  blank before c later heq hc := by
    refine h.blank (gap ++ text ++ before) c later (by simp [heq]) ?_
    have hn : n + byteLength (gap ++ text ++ before) = span.stop + byteLength before := by
      rw [byteLength_append, hstop, Nat.add_assoc]
    rw [hn, covered_cons_iff, not_or]
    exact ⟨fun hcover ↦ Nat.not_lt_of_le (Nat.le_add_right _ _) hcover.2, hc⟩

/-- No further word reaches to where the first ends. -/
theorem LaidOut.not_covered {w : Word} (h : LaidOut n t (w :: ws)) {m : Nat}
    (hm : m < w.span.start ∨ m = w.span.stop) : ¬Covered (w :: ws) m := by
  rintro ⟨v, hv, hstart, hstop⟩
  rcases List.mem_cons.1 hv with rfl | hv
  · omega
  · -- the first word begins before it ends, and it ends before any other begins
    have hlt : w.span.stop < v.span.start := List.rel_of_pairwise_cons h.ordered hv
    obtain ⟨-, before, after, -, hspan⟩ := h.word w List.mem_cons_self
    have hword : w.span.start ≤ w.span.stop := by simp [hspan]
    omega

/-- **Words that are laid out over a text tile it.** The induction is on the words, with the text
and its first byte general: the gap before the first word is what no span covers, and the rest is
laid out over what is behind it. -/
theorem LaidOut.tiled (h : LaidOut n t ws) : Tiled n t ws := by
  induction ws generalizing n t with
  | nil =>
    refine .blank fun c hc ↦ ?_
    obtain ⟨before, after, rfl⟩ := List.append_of_mem hc
    exact h.blank before c after rfl (by simp [Covered])
  | cons w ws ih =>
    obtain ⟨hne, gap, after, rfl, hspan⟩ := h.word w List.mem_cons_self
    -- no span reaches into what is before the first of them
    have hgap : AllBlank gap := by
      intro c hc
      obtain ⟨before, behind, rfl⟩ := List.append_of_mem hc
      refine h.blank before c (behind ++ w.text ++ after) (by simp) (h.not_covered (.inl ?_))
      have hpos := c.utf8Size_pos
      simp only [hspan, byteLength_append, byteLength_cons]
      omega
    have hend : ∀ c, after.head? = some c → isBlank c = true := by
      intro c hc
      obtain ⟨behind, rfl⟩ := List.head?_eq_some_iff.1 hc
      exact h.blank (gap ++ w.text) c behind rfl (h.not_covered (.inr (by rw [hspan])))
    obtain ⟨text, span⟩ := w
    have hrest := ih (h.tail (congrArg Span.stop hspan))
    have hsolid : Solid text := h.solid _ List.mem_cons_self
    obtain rfl : span = ⟨n + byteLength gap, n + byteLength (gap ++ text)⟩ := hspan
    simp only [byteLength_append, ← Nat.add_assoc] at hrest ⊢
    exact .word hgap hne hsolid hend hrest

/-! ### The line and its content -/

/-- The comment is behind all that is before a first comment mark. -/
theorem exists_uncommented_eq_append {text after : Text} (h : line = text ++ after)
    (hle : byteLength text ≤ byteLength (uncommented line)) :
    ∃ rest, uncommented line = text ++ rest := by
  obtain ⟨comment, hline⟩ := exists_eq_uncommented_append line
  obtain ⟨rest, hrest, -⟩ := exists_of_append_eq_append (h.symm.trans hline) hle
  exact ⟨rest, hrest⟩

/-- Where no span touches the next, it is before all that follow. -/
theorem pairwise_lt_of_isChain (hspan : ∀ w ∈ ws, w.span.start < w.span.stop)
    (hordered : ws.Pairwise fun v w ↦ v.span.stop ≤ w.span.start)
    (hnext : ws.IsChain fun v w ↦ v.span.stop < w.span.start) :
    ws.Pairwise fun v w ↦ v.span.stop < w.span.start := by
  induction hnext with
  | nil => exact .nil
  | singleton w => exact List.pairwise_singleton ..
  | @cons_cons v w ws hlt _ ih =>
    refine .cons (fun u hu ↦ ?_) (ih (fun u hu ↦ hspan u (List.mem_cons_of_mem _ hu))
      hordered.of_cons)
    rcases List.mem_cons.1 hu with rfl | hu
    · exact hlt
    · have hw : w.span.start < w.span.stop := hspan w (by simp)
      have hle : w.span.stop ≤ u.span.start := List.rel_of_pairwise_cons hordered.of_cons hu
      omega

namespace TilesContent

/-- No span reaches into the comment, whether there is one or not. -/
theorem stop_le (h : TilesContent line ws) {w : Word} (hw : w ∈ ws) :
    w.span.stop ≤ byteLength (uncommented line) := by
  generalize htext : uncommented line = text
  cases uncommented_eq_iff.1 htext with
  | whole =>
    obtain ⟨-, hslice⟩ := h.slice w hw
    obtain ⟨before, after, hline, -, hstop⟩ := slice?_eq_some_iff.1 hslice
    rw [← hstop, hline, byteLength_append _ after]
    exact Nat.le_add_right _ _
  | cut hmark comment => exact h.before_comment text comment rfl hmark w hw

/-- With a blank between every two of them, the spans do not even touch. -/
theorem pairwise_lt (h : TilesContent line ws) :
    ws.Pairwise fun v w ↦ v.span.stop < w.span.start := by
  refine pairwise_lt_of_isChain (fun w hw ↦ (h.slice w hw).1) h.ordered (h.apart.imp ?_)
  rintro v w ⟨gap, hslice, c, hc, -⟩
  exact (start_lt_stop_of_slice? hslice (List.ne_nil_of_mem hc)).1

/-- Every word is a part of what is before the comment, at the bytes that its span says. -/
theorem exists_of_mem (h : TilesContent line ws) {w : Word} (hw : w ∈ ws) :
    w.text ≠ [] ∧ ∃ before after, uncommented line = before ++ w.text ++ after ∧
      w.span = ⟨byteLength before, byteLength (before ++ w.text)⟩ := by
  obtain ⟨hlt, hslice⟩ := h.slice w hw
  obtain ⟨before, after, hline, hstart, hstop⟩ := slice?_eq_some_iff.1 hslice
  obtain ⟨rest, hrest⟩ := exists_uncommented_eq_append hline (hstop ▸ h.stop_le hw)
  refine ⟨?_, before, rest, hrest, by rw [hstart, hstop]⟩
  intro hnil
  rw [hnil, List.append_nil, hstart] at hstop
  omega

/-- What is seen in the line is a layout of what is before its comment. -/
theorem laidOut (h : TilesContent line ws) : LaidOut 0 (uncommented line) ws where
  word w hw := by simpa only [Nat.zero_add] using h.exists_of_mem hw
  solid w hw c hc := (h.plain w hw c hc).1
  ordered := h.pairwise_lt
  blank before c after heq hc := by
    obtain ⟨comment, hline⟩ := exists_eq_uncommented_append line
    have hmark := commentMark_not_mem_uncommented line
    rw [heq] at hline hmark
    simp only [List.mem_append, List.mem_cons, not_or] at hmark
    exact h.blank before c (after ++ comment) (by simpa using hline) hmark.1 (Ne.symm hmark.2.1)
      (by simpa only [Nat.zero_add] using hc)

end TilesContent

/-- What the reader finds in a line is a layout of it. -/
theorem tilesContent_contentWords (line : Text) : TilesContent line (contentWords line) := by
  have h : Tiled 0 (uncommented line) (contentWords line) := words_eq_iff.1 rfl
  have hrange {w : Word} (hw : w ∈ contentWords line) :
      w.span.start < w.span.stop ∧ w.span.stop ≤ byteLength (uncommented line) :=
    start_lt_stop_of_slice? (slice?_of_mem_words hw) (text_ne_nil_of_mem_words hw)
  refine ⟨fun w hw ↦ ⟨(hrange hw).1, slice?_of_mem_contentWords hw⟩,
    h.pairwise.imp Nat.le_of_lt, ?_, ?_, ?_, ?_⟩
  · -- what is before a first comment mark is all that has words
    intro before after hline hbefore w hw
    have hstop := (hrange hw).2
    rwa [hline, uncommented_append_mark hbefore] at hstop
  · intro w hw c hc
    refine ⟨h.solid_of_mem hw c hc, ?_⟩
    rintro rfl
    obtain ⟨-, before, after, heq, -⟩ := h.exists_of_mem hw
    exact commentMark_not_mem_uncommented line (by rw [heq]; simp [hc])
  · -- what is before the mark and in no word is in a gap
    intro before c after hline hbefore hne hc
    have hrest : uncommented (c :: after) = c :: uncommented after :=
      List.takeWhile_cons_of_pos (bne_iff_ne.2 hne)
    have heq : uncommented line = before ++ c :: uncommented after := by
      rw [hline, uncommented_append_of_not_mem hbefore, hrest]
    exact h.isBlank_of_not_covered heq (by simpa only [Nat.zero_add] using hc)
  · refine h.isChain.imp fun v w ⟨before, gap, after, heq, hstop, hstart, hblank⟩ ↦ ?_
    have hslice : (uncommented line).slice? ⟨v.span.stop, w.span.start⟩ = some gap :=
      slice?_eq_some_iff.2 ⟨before, after, heq, by simp [hstop], by simp [hstart]⟩
    exact ⟨gap, slice?_of_uncommented hslice, hblank⟩

/-- **The words of a line tile its content**, they are the only ones that do, and from the first to
the last they make up what is before the comment without the blanks at its ends. -/
theorem contentWords_tile (line : Text) :
    (∀ ws, contentWords line = ws ↔ TilesContent line ws) ∧
      (contentWords line ≠ [] →
        line.slice? (spanOfWords (contentWords line)) = some (content line)) := by
  refine ⟨fun ws ↦ ?_, slice?_spanOfWords_contentWords⟩
  constructor
  · rintro rfl
    exact tilesContent_contentWords line
  · intro h
    exact words_eq_iff.2 h.laidOut.tiled

example : contentWords "\té  b#c".toList = [⟨['é'], 1, 3⟩, ⟨['b'], 5, 6⟩] := by decide

end ThreeAddress
