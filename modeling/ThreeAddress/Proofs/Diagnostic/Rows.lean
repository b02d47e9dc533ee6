import Mathlib.Data.List.DropRight
import ThreeAddress.Diagnostic.Excerpt
import ThreeAddress.Proofs.Line
import ThreeAddress.Proofs.Text.Lines

/-!
# The rows of an excerpt

A line that was given by hand is shown in rows, which are found by a recursion that puts one
character after the other in front of the first row. What comes of it is said here without the
recursion: `ShownIn` builds the line from the rows, with a line feed behind each, or a carriage
return and a line feed, but for the last.

Rows and line feeds correspond. A character that belongs to no break stands in the row that has as
many rows before it as the text before it has line feeds, and as far from its start as that text
reaches behind the last of them (`ShownIn.exists_reachesTo`). There is a gap between two rows, so
that there is no second row with this character (`ShownIn.pairwise_apart`).
-/

namespace ThreeAddress

open Text

/-- The text behind its last line feed. -/
def Text.lastRow (t : Text) : Text := t.rtakeWhile (· != '\n')

theorem Text.lastRow_concat {c : Char} (hc : c ≠ '\n') (t : Text) :
    lastRow (t ++ [c]) = lastRow t ++ [c] :=
  List.rtakeWhile_concat_pos _ _ _ (bne_iff_ne.2 hc)

theorem Text.lastRow_of_not_mem {t : Text} (h : '\n' ∉ t) : lastRow t = t :=
  List.rtakeWhile_eq_self_iff.2 fun _ hc ↦ bne_iff_ne.2 fun heq ↦ h (heq ▸ hc)

/-- What is before a line feed does not count. -/
theorem Text.lastRow_append_lineFeed (s t : Text) : lastRow (s ++ ['\n'] ++ t) = lastRow t := by
  induction t using List.reverseRecOn with
  | nil =>
    rw [List.append_nil]
    exact List.rtakeWhile_concat_neg _ _ _ (by simp)
  | append_singleton t c ih =>
    rw [← List.append_assoc, lastRow, List.rtakeWhile_concat, lastRow, List.rtakeWhile_concat]
    exact congrArg (fun u ↦ if c != '\n' then u ++ [c] else []) ih

namespace Diagnostic

/-! ### The rows of a text -/

/-- The text is shown in the rows. The first of them has the number, and as many characters before
it as the second argument says; a carriage return that stands before a line feed is in no row. -/
inductive ShownIn : Nat → Nat → Text → List SourceRow → Prop
  | nil {number start : Nat} : ShownIn number start [] []
  | last {number start : Nat} {text : Text} (hne : text ≠ []) (hfeed : '\n' ∉ text) :
      ShownIn number start text [⟨number, start, text⟩]
  | row {number start : Nat} {text t : Text} {rows : List SourceRow} (b : LineBreak)
      (hb : b ≠ .carriageReturn) (hfeed : '\n' ∉ text)
      (hreturn : b = .lineFeed → text.getLast? ≠ some '\r')
      (ht : ShownIn (number + 1) (start + (text ++ b.text).length) t rows) :
      ShownIn number start (text ++ b.text ++ t) (⟨number, start, text⟩ :: rows)

variable {number start : Nat} {c : Char} {text t front back : Text} {row : SourceRow}
  {rows : List SourceRow}

/-- A character that is no part of a break is put in front of the first row. -/
theorem ShownIn.cons (hn : c ≠ '\n') (hr : c = '\r' → t.head? ≠ some '\n')
    (h : ShownIn number (start + 1) t (⟨number, start + 1, text⟩ :: rows)) :
    ShownIn number start (c :: t) (⟨number, start, c :: text⟩ :: rows) := by
  cases h with
  | last hne hfeed => exact .last (by simp) (by simp [hn.symm, hfeed])
  | @row _ _ _ t _ b hb hfeed hreturn ht =>
    refine @ShownIn.row number start (c :: text) t _ b hb (by simp [hn.symm, hfeed]) ?_ ?_
    · rintro rfl
      cases text with
      | nil => exact fun hlast ↦ hr (by simpa using hlast) rfl
      | cons d text =>
        rw [List.getLast?_cons_cons]
        exact hreturn rfl
    · have hlength : start + (c :: text ++ b.text).length =
          start + 1 + (text ++ b.text).length := by
        simp
        omega
      rw [hlength]
      exact ht

/-- The text is shown in its rows as they are placed, wherever the first of them is put. -/
theorem shownIn_placeRows (number start : Nat) (t : Text) :
    ShownIn number start t (placeRows number start (rowTexts t)) := by
  fun_induction rowTexts t generalizing number start with
  | case1 => exact .nil
  | case2 t ih =>
    exact @ShownIn.row number start [] t _ .both (by simp) (by simp) (by simp) (ih _ _)
  | case3 t ih =>
    exact @ShownIn.row number start [] t _ .lineFeed (by simp) (by simp) (by simp) (ih _ _)
  | case4 c t hboth hn hrest ih =>
    rw [hrest] at ih
    cases ih number start
    exact .last (by simp) fun hmem ↦ hn (List.mem_singleton.1 hmem).symm
  | case5 c t hboth hn text width rest hrest ih =>
    have hcons := ih number (start + 1)
    have hlength : start + 1 + text.length = start + (c :: text).length := by
      simp
      omega
    rw [hrest, placeRows, hlength] at hcons
    refine hcons.cons hn fun hc hhead ↦ ?_
    obtain ⟨t', rfl⟩ := List.head?_eq_some_iff.1 hhead
    exact hboth t' hc rfl

/-- **The rows of a line show it.** -/
theorem shownIn_sourceRows (number : Nat) (line : Text) :
    ShownIn number 0 line (sourceRows number line) :=
  shownIn_placeRows number 0 line

/-- A line without a line feed is one row. -/
theorem ShownIn.eq_singleton (h : ShownIn number start t rows) (hne : t ≠ []) (hfeed : '\n' ∉ t) :
    rows = [⟨number, start, t⟩] := by
  cases h with
  | nil => exact absurd rfl hne
  | last _ _ => rfl
  | row b hb _ _ _ =>
    cases b with
    | carriageReturn => exact absurd rfl hb
    | lineFeed => exact absurd (by simp [LineBreak.text]) hfeed
    | both => exact absurd (by simp [LineBreak.text]) hfeed

/-- A row is cut out between two line feeds. -/
theorem ShownIn.lineFeed_not_mem (h : ShownIn number start t rows) (hrow : row ∈ rows) :
    '\n' ∉ row.text := by
  induction h with
  | nil => exact absurd hrow List.not_mem_nil
  | last hne hfeed =>
    rw [List.mem_singleton.1 hrow]
    exact hfeed
  | row b hb hfeed hreturn ht ih =>
    rcases List.mem_cons.1 hrow with rfl | hmem
    · exact hfeed
    · exact ih hmem

/-- What is shown in a row stands in the text. -/
theorem ShownIn.text_subset (h : ShownIn number start t rows) (hrow : row ∈ rows) :
    row.text ⊆ t := by
  induction h with
  | nil => exact absurd hrow List.not_mem_nil
  | last hne hfeed =>
    rw [List.mem_singleton.1 hrow]
    exact List.Subset.refl _
  | row b hb hfeed hreturn ht ih =>
    rcases List.mem_cons.1 hrow with rfl | hmem
    · exact fun c hc ↦ List.mem_append_left _ (List.mem_append_left _ hc)
    · exact List.subset_append_of_subset_right _ (ih hmem)

/-! ### The place of a row -/

/-- No row is placed before the first. -/
theorem ShownIn.start_le (h : ShownIn number start t rows) (hrow : row ∈ rows) :
    start ≤ row.start := by
  induction h with
  | nil => exact absurd hrow List.not_mem_nil
  | last hne hfeed =>
    rw [List.mem_singleton.1 hrow]
  | row b hb hfeed hreturn ht ih =>
    rcases List.mem_cons.1 hrow with rfl | hmem
    · exact le_rfl
    · exact (Nat.le_add_right _ _).trans (ih hmem)

/-- **There is a gap between two rows**, since a break is at least one character long. -/
theorem ShownIn.pairwise_apart (h : ShownIn number start t rows) :
    rows.Pairwise (·.stop < ·.start) := by
  induction h with
  | nil => exact .nil
  | last hne hfeed => exact List.pairwise_singleton _ _
  | @row number start text t rows b hb hfeed hreturn ht ih =>
    refine List.pairwise_cons.2 ⟨fun row hrow ↦ ?_, ih⟩
    have hstart := ht.start_le hrow
    have hbreak : 0 < b.text.length := by
      cases b <;> simp [LineBreak.text]
    simp only [SourceRow.stop, List.length_append] at hstart ⊢
    omega

/-- The row has the end of a text that begins `start` characters behind the beginning of the line,
in the row with this number. -/
structure SourceRow.ReachesTo (row : SourceRow) (number start : Nat) (front : Text) : Prop where
  number_eq : row.number = number + front.count '\n'
  /-- The text ends in the row as many characters behind its start as there are behind its last line
  feed. -/
  start_add : row.start + front.lastRow.length = start + front.length
  lastRow_prefix : front.lastRow <+: row.text

/-- A row reaches to every place in its own text. -/
theorem SourceRow.reachesTo_of_prefix (hfeed : '\n' ∉ text) (h : front <+: text) :
    (⟨number, start, text⟩ : SourceRow).ReachesTo number start front := by
  have hfront : '\n' ∉ front := fun hmem ↦ hfeed (h.mem hmem)
  refine ⟨?_, ?_, ?_⟩
  · rw [List.count_eq_zero_of_not_mem hfront, Nat.add_zero]
  · rw [lastRow_of_not_mem hfront]
  · rw [lastRow_of_not_mem hfront]
    exact h

/-- What is before a row has as many line feeds as breaks. -/
theorem SourceRow.ReachesTo.append_break {b : LineBreak} (hb : b ≠ .carriageReturn)
    (hfeed : '\n' ∉ text)
    (h : row.ReachesTo (number + 1) (start + (text ++ b.text).length) front) :
    row.ReachesTo number start (text ++ b.text ++ front) := by
  obtain ⟨init, hinit, hcount⟩ : ∃ init, b.text = init ++ ['\n'] ∧ b.text.count '\n' = 1 := by
    cases b with
    | carriageReturn => exact absurd rfl hb
    | lineFeed => exact ⟨[], rfl, rfl⟩
    | both => exact ⟨['\r'], rfl, rfl⟩
  have hlast : lastRow (text ++ b.text ++ front) = lastRow front := by
    rw [hinit, ← List.append_assoc, lastRow_append_lineFeed]
  constructor
  · rw [h.number_eq, List.count_append, List.count_append, List.count_eq_zero_of_not_mem hfeed,
      hcount]
    omega
  · have hlength : (text ++ b.text ++ front).length = (text ++ b.text).length + front.length :=
      List.length_append
    rw [hlast, h.start_add, hlength, Nat.add_assoc]
  · rw [hlast]
    exact h.lastRow_prefix

/-- **A character that belongs to no break stands in a row**, and the text up to it ends there. -/
theorem ShownIn.exists_reachesTo (h : ShownIn number start t rows) (hr : c ≠ '\r') (hn : c ≠ '\n')
    (ht : t = front ++ c :: back) :
    ∃ row ∈ rows, row.ReachesTo number start (front ++ [c]) := by
  induction h generalizing front with
  | nil => exact absurd ht.symm (by simp)
  | last hne hfeed =>
    refine ⟨_, List.mem_singleton_self _, SourceRow.reachesTo_of_prefix hfeed ⟨back, ?_⟩⟩
    exact (List.append_cons front c back).symm.trans ht.symm
  | @row number start text t rows b hb hfeed hreturn _ ih =>
    rw [List.append_assoc] at ht
    rcases exists_of_append_eq_append_cons ht with ⟨later, htext, -⟩ | ⟨later, rfl, hlater⟩
    · -- the character stands in the first row
      refine ⟨_, List.mem_cons_self, SourceRow.reachesTo_of_prefix hfeed ⟨later, ?_⟩⟩
      exact (List.append_cons front c later).symm.trans htext.symm
    · rcases exists_of_append_eq_append_cons hlater with ⟨later', hbreak, -⟩ | ⟨front', rfl, rfl⟩
      · -- it would be part of the break
        have hmem : c ∈ b.text := by simp [hbreak]
        cases b <;> simp [LineBreak.text, hr, hn] at hmem
      · obtain ⟨row, hrow, hreaches⟩ := ih rfl
        refine ⟨row, List.mem_cons_of_mem _ hrow, ?_⟩
        have hassoc : text ++ (b.text ++ front') ++ [c] = text ++ b.text ++ (front' ++ [c]) := by
          simp
        rw [hassoc]
        exact hreaches.append_break hb hfeed

end Diagnostic

end ThreeAddress
