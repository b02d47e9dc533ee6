import ThreeAddress.Proofs.Diagnostic.Rows
import ThreeAddress.Proofs.Diagnostic.Title
import ThreeAddress.Proofs.Diagnostic.Unpainted

/-!
# Colour

A diagnostic in colour is the one without colour but for its paint: where the escape sequences are
deleted, that one is left (`Failure.unpainted_render`). This needs no assumption about the place of
the failure, which may be as inconsistent as it likes, because paint is put on row by row when the
layout is done.

What could go wrong is a piece with an escape character of its own, which would begin a sequence or
end in one. Everything that a diagnostic draws is free of it, in each of the ways in which a row may
meet the marked range (`forall_mem_annotate`); what it quotes is the message, the line and the name
of the source, and for these it has to be assumed.
-/

namespace ThreeAddress

open Text Diagnostic

/-- A label quotes nothing, so it has no escape character. -/
theorem Fault.escape_not_mem_label (fault : Fault) : escape ∉ fault.label := by
  cases fault with
  | missingHeader => decide
  | incorrectHeader found =>
    show escape ∉ "expected ".toList ++ quotedHeader
    decide
  | unknownOpcode word =>
    show escape ∉ "unknown opcode".toList
    decide
  | wrongArity op expected actual =>
    have hall : ∀ op ∈ Opcode.all, escape ∉ (wrongArity op 0 0).label := by decide
    exact hall op op.mem_all
  | invalidOperand token =>
    show escape ∉ "invalid operand".toList
    decide
  | operandMismatch op position kind actual =>
    show escape ∉ "expected <".toList ++ kind.name ++ ['>']
    cases kind <;> decide
  | internal detail =>
    show escape ∉ "while parsing this".toList
    decide

namespace Diagnostic

variable {message label origin : Text} {rows : List SourceRow}

theorem escape_not_mem_ofNat (n : Nat) : escape ∉ ofNat n := fun hmem ↦
  ne_of_mem_ofNat hmem (by decide) rfl

/-! ### The lines of the excerpt -/

/-- The line of the excerpt shows one of the rows, or strokes and perhaps the label. -/
inductive ExcerptLine.IsDrawn (rows : List SourceRow) (label : Text) : ExcerptLine → Prop
  | shown {row : SourceRow} {mark? : Option Char} (hrow : row ∈ rows)
      (hmark : mark? ∈ [none, some '/', some '|']) : IsDrawn rows label (row.shown mark?)
  | drawing {mark? : Option Char} {strokes : Text} {label? : Option Text}
      (hmark : mark? ∈ [none, some '/', some '|']) (hstrokes : strokes ⊆ [' ', '_', '^'])
      (hlabel : label? ∈ [none, some label]) : IsDrawn rows label ⟨mark?, .drawing strokes label?⟩

theorem ExcerptLine.IsDrawn.mono {l : ExcerptLine} {rows' : List SourceRow}
    (h : l.IsDrawn rows label) (hrows : rows ⊆ rows') : l.IsDrawn rows' label := by
  cases h with
  | shown hrow hmark => exact .shown (hrows hrow) hmark
  | drawing hmark hstrokes hlabel => exact .drawing hmark hstrokes hlabel

theorem replicate_subset {c : Char} {t : Text} (hc : c ∈ t) (n : Nat) : List.replicate n c ⊆ t :=
  fun _ hd ↦ List.eq_of_mem_replicate hd ▸ hc

theorem strokeTo_subset (column : Nat) : strokeTo column ⊆ [' ', '_', '^'] :=
  List.append_subset.2 ⟨replicate_subset (by decide) _, by simp⟩

theorem underline_subset (blanks marks : Nat) :
    List.replicate blanks ' ' ++ List.replicate marks '^' ⊆ [' ', '_', '^'] :=
  List.append_subset.2 ⟨replicate_subset (by decide) _, replicate_subset (by decide) _⟩

/-- **Whatever the range is, the excerpt consists of rows and strokes.** -/
theorem forall_mem_annotate (range : CharRange) (label : Text) (rows : List SourceRow) :
    ∀ l ∈ annotate range label rows, l.IsDrawn rows label := by
  induction rows with
  | nil => simp [annotate]
  | cons row rows ih =>
    have hfirst : ∀ mark? ∈ [none, some '/', some '|'],
        (row.shown mark?).IsDrawn (row :: rows) label := fun _ ↦ .shown List.mem_cons_self
    have hbelow : ∀ l ∈ annotate range label rows, l.IsDrawn (row :: rows) label :=
      fun l hl ↦ (ih l hl).mono (List.subset_cons_self _ _)
    have hrest : ∀ l ∈ rows.map (·.shown none), l.IsDrawn (row :: rows) label :=
      List.forall_mem_map.2 fun r hr ↦ .shown (List.mem_cons_of_mem _ hr) (by simp)
    rw [annotate]
    cases row.meet range with
    | apart => exact List.forall_mem_cons.2 ⟨hfirst none (by simp), hbelow⟩
    | whole =>
      exact List.forall_mem_cons.2 ⟨hfirst none (by simp), List.forall_mem_cons.2
        ⟨.drawing (by simp) (underline_subset _ _) (by simp), hrest⟩⟩
    | opensAtStart => exact List.forall_mem_cons.2 ⟨hfirst (some '/') (by simp), hbelow⟩
    | opens =>
      exact List.forall_mem_cons.2 ⟨hfirst none (by simp), List.forall_mem_cons.2
        ⟨.drawing (by simp) (strokeTo_subset _) (by simp), hbelow⟩⟩
    | continues => exact List.forall_mem_cons.2 ⟨hfirst (some '|') (by simp), hbelow⟩
    | closes =>
      exact List.forall_mem_cons.2 ⟨hfirst (some '|') (by simp), List.forall_mem_cons.2
        ⟨.drawing (by simp) (strokeTo_subset _) (by simp), hrest⟩⟩

/-! ### No escape character -/

theorem EscapeFree.append {r s : Row} (hr : EscapeFree r) (hs : EscapeFree s) :
    EscapeFree (r ++ s) :=
  List.forall_mem_append.2 ⟨hr, hs⟩

theorem escape_not_mem_replicate {c : Char} (hc : escape ≠ c) (n : Nat) :
    escape ∉ List.replicate n c :=
  fun hmem ↦ hc (List.eq_of_mem_replicate hmem)

/-- The title cuts the message up but adds nothing of its own. -/
theorem escapeFree_title (h : escape ∉ message) : EscapeFree (title message) := by
  have hpieces : ∀ piece ∈ splitUnderscores message, escape ∉ piece := by
    intro piece hpiece hmem
    exact h ((cutAtDoubles_splitUnderscores message).mem_of_mem_flatten
      (List.mem_flatten.2 ⟨piece, hpiece, hmem⟩))
  rw [title]
  split_ifs
  · exact List.forall_mem_singleton.2 (by decide)
  · refine List.forall_mem_cons.2 ⟨by decide, List.forall_mem_cons.2 ⟨by decide, ?_⟩⟩
    exact List.forall_mem_map.2 hpieces

/-- Beside the name of the origin there are only numbers and the frame. -/
theorem escapeFree_originRow (h : escape ∉ origin) (width row column : Nat) :
    EscapeFree (originRow width origin row column) := by
  have hblanks := escape_not_mem_replicate (c := ' ') (by decide) width
  have hplace : escape ∉ ' ' :: origin ++ ':' :: ofNat row ++ ':' :: ofNat column := by
    simp only [List.mem_append, List.mem_cons, not_or]
    exact ⟨⟨⟨by decide, h⟩, by decide, escape_not_mem_ofNat row⟩, by decide,
      escape_not_mem_ofNat column⟩
  exact List.forall_mem_cons.2 ⟨hblanks, List.forall_mem_cons.2 ⟨by decide,
    List.forall_mem_singleton.2 hplace⟩⟩

theorem escape_not_mem_gutter (width : Nat) : escape ∉ (gutter width).text := by
  rw [gutter, List.mem_append, not_or]
  exact ⟨escape_not_mem_replicate (by decide) width, by decide⟩

theorem escape_not_mem_numberedGutter (width number : Nat) :
    escape ∉ (numberedGutter width number).text := by
  rw [numberedGutter, List.mem_append, List.mem_append, not_or, not_or]
  exact ⟨⟨escape_not_mem_replicate (by decide) _, escape_not_mem_ofNat number⟩, by decide⟩

/-- The column of marks has one of two strokes in it, or a blank. -/
theorem escapeFree_markColumn {mark? : Option Char} (h : mark? ∈ [none, some '/', some '|'])
    (marked : Bool) : EscapeFree (markColumn marked mark?) := by
  have hall : ∀ marked, ∀ mark? ∈ [none, some '/', some '|'],
      ∀ piece ∈ markColumn marked mark?, escape ∉ piece.text := by decide
  exact hall marked mark? h

/-- A line of the excerpt shows nothing but the rows and the label. -/
theorem ExcerptLine.IsDrawn.escapeFree {l : ExcerptLine} (h : l.IsDrawn rows label)
    (hrows : ∀ row ∈ rows, escape ∉ row.text) (hlabel : escape ∉ label) (width : Nat)
    (marked : Bool) : EscapeFree (excerptRow width marked l) := by
  cases h with
  | @shown row mark? hrow hmark =>
    have htext : escape ∉ ' ' :: row.text := by
      rw [List.mem_cons, not_or]
      exact ⟨by decide, hrows row hrow⟩
    exact List.forall_mem_cons.2 ⟨escape_not_mem_numberedGutter width row.number,
      (escapeFree_markColumn hmark marked).append (List.forall_mem_singleton.2 htext)⟩
  | @drawing mark? strokes label? hmark hstrokes hlabel? =>
    have hstroke : escape ∉ strokes := fun hmem ↦ absurd (hstrokes hmem) (by decide)
    refine List.forall_mem_cons.2 ⟨escape_not_mem_gutter width,
      (escapeFree_markColumn hmark marked).append (List.forall_mem_cons.2 ⟨hstroke, ?_⟩)⟩
    cases label? with
    | none => exact List.forall_mem_nil _
    | some text =>
      obtain rfl : text = label := by simpa using hlabel?
      exact List.forall_mem_cons.2 ⟨by decide, List.forall_mem_singleton.2 hlabel⟩

/-- A placed excerpt shows the line, the label and the name of the origin, and whatever else is in
it is drawn. -/
theorem escapeFree_placedRows {origin? : Option Text} {place : Location}
    (horigin : ∀ origin, origin? = some origin → escape ∉ origin) (hline : escape ∉ place.line)
    (hlabel : escape ∉ label) : ∀ row ∈ placedRows origin? place label, EscapeFree row := by
  have hgutter : ∀ width, EscapeFree [gutter width] := fun width ↦
    List.forall_mem_singleton.2 (escape_not_mem_gutter width)
  have hrows : ∀ row ∈ sourceRows place.lineNumber place.line, escape ∉ row.text :=
    fun row hrow hmem ↦ hline ((shownIn_sourceRows _ _).text_subset hrow hmem)
  rw [placedRows, List.forall_mem_append, List.forall_mem_append, List.forall_mem_cons,
    List.forall_mem_map, List.forall_mem_singleton]
  refine ⟨⟨?_, hgutter _, fun l hl ↦ ?_⟩, hgutter _⟩
  · cases origin? with
    | none => exact List.forall_mem_nil _
    | some origin =>
      exact List.forall_mem_singleton.2 (escapeFree_originRow (horigin origin rfl) _ _ _)
  · exact (forall_mem_annotate _ label _ l hl).escapeFree hrows hlabel _ _

/-- All that a diagnostic takes from outside is the message, the line and the origin. -/
theorem escapeFree_rows {e : Failure} {origin? : Option Text} (hmessage : escape ∉ e.message)
    (hline : ∀ place, e.location? = some place → escape ∉ place.line)
    (horigin : ∀ origin, origin? = some origin → escape ∉ origin) :
    ∀ row ∈ Diagnostic.rows origin? e, EscapeFree row := by
  have htitle := escapeFree_title hmessage
  cases e with
  | source fault place? =>
    cases place? with
    | none => exact List.forall_mem_singleton.2 htitle
    | some place =>
      exact List.forall_mem_cons.2 ⟨htitle,
        escapeFree_placedRows horigin (hline place rfl) fault.escape_not_mem_label⟩
  | invalidInvocation detail => exact List.forall_mem_singleton.2 htitle
  | input detail => exact List.forall_mem_singleton.2 htitle
  | output detail => exact List.forall_mem_singleton.2 htitle

/-- A diagnostic begins with its title. -/
theorem exists_rows_eq (origin? : Option Text) (e : Failure) :
    ∃ below, Diagnostic.rows origin? e = title e.message :: below := by
  cases e with
  | source fault place? => cases place? <;> exact ⟨_, rfl⟩
  | invalidInvocation detail => exact ⟨[], rfl⟩
  | input detail => exact ⟨[], rfl⟩
  | output detail => exact ⟨[], rfl⟩

end Diagnostic

/-- **Colour changes only the paint.** Where neither the message nor the line nor the name of the
source has an escape character, the diagnostic in colour is, without its escape sequences, the one
without colour; and that one has no escape character at all. -/
theorem Failure.unpainted_render {e : Failure} {origin? : Option Text}
    (hmessage : escape ∉ e.message)
    (hline : ∀ place, e.location? = some place → escape ∉ place.line)
    (horigin : ∀ origin, origin? = some origin → escape ∉ origin) :
    unpainted (e.render origin? true) = e.render origin? false ∧
      escape ∈ e.render origin? true ∧ escape ∉ e.render origin? false := by
  have hrows := escapeFree_rows hmessage hline horigin
  refine ⟨unpainted_renderRows hrows, ?_, escape_not_mem_renderRows hrows⟩
  -- the word for the severity is painted in every diagnostic
  obtain ⟨below, heq⟩ := exists_rows_eq origin? e
  have hpaint : escape ∈ renderRow true (title e.message) := List.mem_cons_self
  rw [Failure.render, heq]
  exact (renderRow_prefix_renderRows true _ below).subset hpaint

/-- A range that begins in the second of four rows and ends in the last one, below a title that
loses a double underscore; and a span that is reversed, of which nothing but the label is drawn. -/
theorem Failure.unpainted_render_four_rows :
    (escape ∉ (Failure.source (.invalidOperand "x__y".toList)
        (some ⟨9, "a\r\nš b\n\nc d".toList, 5, 11⟩)).message ∧
      escape ∉ "a\r\nš b\n\nc d".toList ∧ escape ∉ "f".toList ∧
      unpainted ((Failure.source (.invalidOperand "x__y".toList)
        (some ⟨9, "a\r\nš b\n\nc d".toList, 5, 11⟩)).render (some "f".toList) true) =
        ("error: `xy` is not a valid variable, literal, label or type\n  --> f:10:2\n   |\n" ++
          " 9 |   a\n10 |   š b\n   |  __^\n11 | | \n12 | | c d\n   | |___^ invalid operand\n" ++
          "   |").toList) ∧
    unpainted ((Failure.source (.wrongArity .add 3 2)
      (some ⟨9, "a\r\nš b\n\nc d".toList, 11, 2⟩)).render none true) =
      ("error: ADD takes 3 operand(s), found 2\n   |\n 9 | a\n10 | š b\n11 | \n12 | c d\n" ++
        "   |    expected `ADD <var> <symb> <symb>`\n   |").toList := by
  have hline : escape ∉ "a\r\nš b\n\nc d".toList := by decide
  have horigin : escape ∉ "f".toList := by decide
  have hmessage : escape ∉ (Failure.source (.invalidOperand "x__y".toList)
      (some ⟨9, "a\r\nš b\n\nc d".toList, 5, 11⟩)).message := by
    decide
  refine ⟨⟨hmessage, hline, horigin, ?_⟩, ?_⟩
  · refine (unpainted_render hmessage ?_ ?_).1.trans (by decide +kernel)
    · rintro place ⟨⟩
      exact hline
    · rintro origin ⟨⟩
      exact horigin
  · refine (unpainted_render (by decide +kernel) ?_ (by simp)).1.trans (by decide +kernel)
    rintro place ⟨⟩
    exact hline

end ThreeAddress
