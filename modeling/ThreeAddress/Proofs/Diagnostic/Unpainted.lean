import Mathlib.Data.List.TakeWhile
import ThreeAddress.Diagnostic.Paint
import ThreeAddress.Proofs.Text.Lines

/-!
# Taking the paint off

Paint is put on a text as escape sequences, which a reader of the text can delete again: `unpainted`
does this, for any text. What it deletes goes from an escape character and a bracket up to the first
`m` behind them (`afterSequence?_eq_some_iff`); an escape character with which no sequence begins is
kept.

Two equations carry everything about painted text. A sequence disappears
(`unpainted_escapeSequence_append`), and a text without an escape character stays as it is, whatever
comes behind it (`unpainted_append`). So painted pieces may be taken one by one, provided that none
of them has an escape character of its own.
-/

namespace ThreeAddress.Diagnostic

open Text

variable {c : Char} {s t rest codes : Text}

/-! ### Deleting escape sequences -/

/-- The text behind the escape sequence with which it begins, if it begins with one. -/
def afterSequence? : Text → Option Text
  | c :: '[' :: t => if c = escape then (t.dropWhile (· != 'm')).tail? else none
  | _ => none

/-- Looking for a character finds the first one: there is none in front of what is left out. -/
theorem tail?_dropWhile_eq_some_iff : (t.dropWhile (· != c)).tail? = some rest ↔
    ∃ front, c ∉ front ∧ t = front ++ c :: rest := by
  constructor
  · intro h
    have hfront : c ∉ t.takeWhile (· != c) := fun hmem ↦ by simpa using List.mem_takeWhile_imp hmem
    refine ⟨t.takeWhile (· != c), hfront, ?_⟩
    cases hdrop : t.dropWhile (· != c) with
    | nil => simp [hdrop] at h
    | cons d u =>
      obtain rfl : d = c := by
        have hhead := List.head?_dropWhile_not (· != c) t
        simpa [hdrop] using hhead
      obtain rfl : u = rest := by simpa [hdrop] using h
      rw [← hdrop, List.takeWhile_append_dropWhile]
  · rintro ⟨front, hfront, rfl⟩
    have hall : ∀ d ∈ front, (d != c) = true := fun d hd ↦ bne_iff_ne.2 fun heq ↦ hfront (heq ▸ hd)
    rw [List.dropWhile_append_of_pos hall, List.dropWhile_cons_of_neg (by simp)]
    rfl

/-- **A sequence ends at the first `m`.** -/
theorem afterSequence?_eq_some_iff :
    afterSequence? t = some rest ↔ ∃ codes, 'm' ∉ codes ∧ t = escapeSequence codes ++ rest := by
  fun_cases afterSequence? t with
  | case1 t =>
    rw [tail?_dropWhile_eq_some_iff]
    simp [escapeSequence]
  | case2 c t hc => simp [escapeSequence, hc]
  | case3 t hshape =>
    simp only [reduceCtorEq, false_iff, not_exists, not_and]
    rintro codes - rfl
    exact hshape _ _ rfl

/-- An escape sequence has characters, so that deleting it comes to an end. -/
theorem length_lt_of_afterSequence? (h : afterSequence? t = some rest) :
    rest.length < t.length := by
  obtain ⟨codes, -, rfl⟩ := afterSequence?_eq_some_iff.1 h
  simp [escapeSequence]
  omega

/-- The text without its escape sequences. -/
def unpainted : Text → Text
  | [] => []
  | c :: t =>
    match _h : afterSequence? (c :: t) with
    | some rest => unpainted rest
    | none => c :: unpainted t
termination_by t => t.length
decreasing_by
  · exact length_lt_of_afterSequence? ‹_›
  · exact Nat.lt_succ_self _

/-- An escape sequence at the front is deleted as a whole. -/
theorem unpainted_of_afterSequence? (h : afterSequence? t = some rest) :
    unpainted t = unpainted rest := by
  cases t with
  | nil => simp [afterSequence?] at h
  | cons c t =>
    rw [unpainted]
    split
    · next rest' heq =>
      obtain rfl := Option.some.inj (heq.symm.trans h)
      rfl
    · next heq => simp [heq] at h

/-- A character that begins no escape sequence stays. -/
theorem unpainted_cons (h : afterSequence? (c :: t) = none) :
    unpainted (c :: t) = c :: unpainted t := by
  rw [unpainted]
  split
  · next heq => simp [heq] at h
  · rfl

/-- A sequence disappears. -/
theorem unpainted_escapeSequence_append (h : 'm' ∉ codes) (t : Text) :
    unpainted (escapeSequence codes ++ t) = unpainted t :=
  unpainted_of_afterSequence? (afterSequence?_eq_some_iff.2 ⟨codes, h, rfl⟩)

/-- A text without an escape character stays as it is. -/
theorem unpainted_append (h : escape ∉ s) (t : Text) :
    unpainted (s ++ t) = s ++ unpainted t := by
  induction s with
  | nil => rfl
  | cons c s ih =>
    rw [List.mem_cons, not_or] at h
    have hnone : afterSequence? (c :: (s ++ t)) = none := by
      refine Option.eq_none_iff_forall_ne_some.2 fun rest hrest ↦ ?_
      obtain ⟨codes, -, heq⟩ := afterSequence?_eq_some_iff.1 hrest
      exact h.1 (List.cons.inj heq).1.symm
    rw [List.cons_append, unpainted_cons hnone, ih h.2, List.cons_append]

/-- A sequence without an end is none, and is kept. -/
example : unpainted "a\x1b[1mb\x1b[0".toList = "ab\x1b[0".toList := by decide +kernel

/-! ### Painted rows -/

/-- No piece of the row has an escape character in its text. -/
def EscapeFree (row : Row) : Prop := ∀ piece ∈ row, escape ∉ piece.text

/-- The first `m` of an escape sequence is its last character. -/
theorem Paint.m_not_mem_codes {paint : Paint} (h : paint.codes? = some codes) : 'm' ∉ codes := by
  cases paint <;> cases h <;> decide

/-- The paint of a piece disappears, and its text stays. -/
theorem Piece.unpainted_render_append {piece : Piece} (h : escape ∉ piece.text) (t : Text) :
    unpainted (piece.render true ++ t) = piece.text ++ unpainted t := by
  cases hcodes : piece.paint.codes? with
  | none =>
    have hrender : piece.render true = piece.text := by simp [Piece.render, hcodes]
    rw [hrender, unpainted_append h]
  | some codes =>
    have hrender : piece.render true =
        escapeSequence codes ++ (piece.text ++ escapeSequence ['0']) := by
      simp [Piece.render, hcodes]
    rw [hrender, List.append_assoc, unpainted_escapeSequence_append (Paint.m_not_mem_codes hcodes),
      List.append_assoc, unpainted_append h, unpainted_escapeSequence_append (by decide)]

/-- The painted row is read back as the plain one, with any text behind it. The induction is on its
pieces. -/
theorem unpainted_renderRow_append {row : Row} (h : EscapeFree row) (t : Text) :
    unpainted (renderRow true row ++ t) = renderRow false row ++ unpainted t := by
  induction row with
  | nil => rfl
  | cons piece row ih =>
    obtain ⟨hpiece, hrow⟩ := List.forall_mem_cons.1 h
    have hcons : ∀ coloured, renderRow coloured (piece :: row) =
        piece.render coloured ++ renderRow coloured row := fun _ ↦ List.flatMap_cons
    rw [hcons, hcons, List.append_assoc, Piece.unpainted_render_append hpiece, ih hrow,
      List.append_assoc]
    rfl

theorem renderRows_singleton (coloured : Bool) (row : Row) :
    renderRows coloured [row] = renderRow coloured row :=
  List.intercalate_singleton

theorem renderRows_cons_cons (coloured : Bool) (row next : Row) (rows : List Row) :
    renderRows coloured (row :: next :: rows) =
      renderRow coloured row ++ (['\n'] ++ renderRows coloured (next :: rows)) := by
  rw [renderRows, List.map_cons, List.map_cons, List.intercalate_cons_cons, List.append_assoc,
    renderRows, List.map_cons]

/-- The first row is shown first. -/
theorem renderRow_prefix_renderRows (coloured : Bool) (row : Row) (rows : List Row) :
    renderRow coloured row <+: renderRows coloured (row :: rows) := by
  cases rows with
  | nil => exact ⟨[], by rw [renderRows_singleton, List.append_nil]⟩
  | cons next rows =>
    rw [renderRows_cons_cons]
    exact List.prefix_append _ _

/-- **Without their paint coloured rows are those without colour.** -/
theorem unpainted_renderRows {rows : List Row} (h : ∀ row ∈ rows, EscapeFree row) :
    unpainted (renderRows true rows) = renderRows false rows := by
  induction rows with
  | nil => rw [renderRows, renderRows, List.map_nil, List.map_nil, List.intercalate_nil, unpainted]
  | cons row rows ih =>
    obtain ⟨hrow, hrows⟩ := List.forall_mem_cons.1 h
    cases rows with
    | nil => simpa [renderRows_singleton, unpainted] using unpainted_renderRow_append hrow []
    | cons next rows =>
      rw [renderRows_cons_cons, renderRows_cons_cons, unpainted_renderRow_append hrow,
        unpainted_append (by decide), ih hrows]

/-- Without colour there is nothing to take off. -/
theorem escape_not_mem_renderRows {rows : List Row} (h : ∀ row ∈ rows, EscapeFree row) :
    escape ∉ renderRows false rows := by
  have hrow : ∀ t ∈ rows.map (renderRow false), ∀ c ∈ t, c ≠ escape := by
    refine List.forall_mem_map.2 fun row hrow c hc heq ↦ ?_
    obtain ⟨piece, hpiece, hmem⟩ := List.mem_flatMap.1 hc
    exact h row hrow piece hpiece (heq ▸ hmem)
  exact fun hmem ↦ forall_mem_intercalate (List.forall_mem_singleton.2 (by decide)) hrow _ hmem rfl

end ThreeAddress.Diagnostic
