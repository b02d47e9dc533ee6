import ThreeAddress.Proofs.Diagnostic.Frame
import ThreeAddress.Proofs.Draft.ReadingOn

/-!
# The diagnostic of a line that fails

Below its title a diagnostic names the position of the marked text and shows the line, with marks
under that text. `Failure.Underlines` says what this means for a failure: the position is that of
the first character of the marked text, and the label comes once, right after the row with the last
character. In a line without a line feed the marks stand under the marked text and nothing else.

What has to be known of a failure for this is only that its span is that of a text which begins and
ends with a character that is not blank (`Diagnostic.exists_underlines`), and every line that fails
has a failure of this kind (`Draft.Refuses.exists_marked`).
-/

namespace ThreeAddress

open Text Diagnostic

/-! ### The diagnostic of a failure -/

/-- How the diagnostic of a failure underlines the text `inside`, which stands in the line behind
`before`. The line is shown in the rows, and `body` are the rows below the title. -/
structure Failure.Underlines (e : Failure) (origin : Text) (fault : Fault) (place : Location)
    (before inside : Text) (rows : List SourceRow) (last : SourceRow)
    (lines above below : List ExcerptLine) (body : List Text) : Prop where
  failure_eq : e = .source fault (some place)
  shown : ShownIn place.lineNumber 0 place.line rows
  /-- All rows are printed in the lines of the excerpt, in their order. -/
  sources_eq : lines.filterMap (·.source?) = rows.map fun row ↦ (row.number, row.text)
  /-- The label is printed once. -/
  labels_eq : lines.filterMap (·.label?) = [fault.label]
  /-- It is printed right after the row `last`. -/
  lines_eq : lines = above ++
    last.underlined ⟨before.length, (before ++ inside).length⟩ fault.label ++ below
  last_mem : last ∈ rows
  /-- This is the row with the last character of the marked text. -/
  reaches : last.ReachesTo place.lineNumber 0 (before ++ inside)
  /-- The position is that of the first character. -/
  body_eq : body = framed (gutterWidth rows) origin
    (place.lineNumber + before.count '\n', before.lastRow.length + 1) lines
  body_unbroken : ∀ row ∈ body, '\n' ∉ row
  render_eq : e.render (some origin) false =
    List.intercalate ['\n'] (renderRow false (title fault.message) :: body)
  /-- A line without a line feed takes five rows, and the title one. -/
  oneRow : '\n' ∉ place.line → '\n' ∉ renderRow false (title fault.message) ∧
    body = underlinedRows (columns place.lineNumber) origin place.lineNumber place.line
      ⟨before.length, (before ++ inside).length⟩ fault.label
  /-- In these rows the gutter is as wide as the number, unless that is just below a power of
  ten. -/
  oneRow_iff : '\n' ∉ place.line → (body = underlinedRows (ofNat place.lineNumber).length origin
      place.lineNumber place.line ⟨before.length, (before ++ inside).length⟩ fault.label ↔
    ∀ block ∈ roundedBlocks, place.lineNumber < block.1 ∨ block.2 ≤ place.lineNumber)

namespace Diagnostic

variable {fault : Fault} {place : Location} {origin before inside after : Text}

/-- The marked text ends in one of the rows. -/
theorem exists_last_row (hmarks : fault.MarksIn place.line place.span before inside after)
    {rows : List SourceRow} (hshown : ShownIn place.lineNumber 0 place.line rows) :
    ∃ last ∈ rows, last.ReachesTo place.lineNumber 0 (before ++ inside) ∧
      last.start < (before ++ inside).length := by
  obtain ⟨c, hc, hsolid⟩ := hmarks.solidEnds.last
  obtain ⟨init, rfl⟩ := List.getLast?_eq_some_iff.1 hc
  obtain ⟨hr, hn⟩ := ne_break_of_not_isBlank hsolid
  have hline : place.line = (before ++ init) ++ c :: after := by simp [hmarks.line_eq]
  obtain ⟨last, hlast, hreaches⟩ := hshown.exists_reachesTo hr hn hline
  rw [List.append_assoc] at hreaches
  refine ⟨last, hlast, hreaches, ?_⟩
  -- at least the last character stands in the row
  have hadd := hreaches.start_add
  rw [← List.append_assoc, lastRow_concat hn] at hadd
  simp only [List.length_append, List.length_singleton] at hadd ⊢
  omega

/-- What is marked has a first character, so the range is not empty. -/
theorem length_lt_of_marksIn {line : Text} {span : Span}
    (h : fault.MarksIn line span before inside after) :
    before.length < (before ++ inside).length := by
  obtain ⟨c, hc, -⟩ := h.solidEnds.head
  have hpos : 0 < inside.length := List.length_pos_of_mem (List.mem_of_mem_head? hc)
  rw [List.length_append]
  omega

/-- The diagnostic of a line that is shown in one row. -/
theorem framed_eq_of_oneRow (hnumber : place.lineNumber ≠ 0)
    (hmarks : fault.MarksIn place.line place.span before inside after)
    (hfeed : '\n' ∉ place.line) (origin label : Text) :
    let range : CharRange := ⟨before.length, (before ++ inside).length⟩
    let rows := sourceRows place.lineNumber place.line
    framed (gutterWidth rows) origin
        (place.lineNumber + before.count '\n', before.lastRow.length + 1)
        (annotate range label rows) =
      underlinedRows (columns place.lineNumber) origin place.lineNumber place.line range label := by
  intro range rows
  have hlt := length_lt_of_marksIn hmarks
  have hle : (before ++ inside).length ≤ place.line.length := by
    have hlength : (before ++ inside ++ after).length = (before ++ inside).length + after.length :=
      List.length_append
    rw [hmarks.line_eq, hlength]
    exact Nat.le_add_right _ _
  have hbefore : '\n' ∉ before := fun hmem ↦ hfeed (by simp [hmarks.line_eq, hmem])
  have hne : place.line ≠ [] := by
    rintro heq
    rw [heq, List.length_nil] at hle
    omega
  have hrows : rows = [⟨place.lineNumber, 0, place.line⟩] :=
    (shownIn_sourceRows _ _).eq_singleton hne hfeed
  have hstop : range.stop ≤ (⟨place.lineNumber, 0, place.line⟩ : SourceRow).stop := by
    rw [SourceRow.stop, Nat.zero_add]
    exact hle
  rw [hrows, annotate_cons_of_stop_le hlt (Nat.zero_lt_of_lt hlt) hstop,
    gutterWidth_singleton hnumber, List.count_eq_zero_of_not_mem hbefore,
    lastRow_of_not_mem hbefore]
  exact framed_eq_underlinedRows _ _ _ _ range _

/-- The position is that of the first character of the marked text. -/
theorem render_eq_of_marksIn (hmarks : fault.MarksIn place.line place.span before inside after)
    (origin : Text) :
    let rows := sourceRows place.lineNumber place.line
    (Failure.source fault (some place)).render (some origin) false =
      List.intercalate ['\n'] (renderRow false (title fault.message) ::
        framed (gutterWidth rows) origin
          (place.lineNumber + before.count '\n', before.lastRow.length + 1)
          (annotate ⟨before.length, (before ++ inside).length⟩ fault.label rows)) := by
  obtain ⟨c, hc, hsolid⟩ := hmarks.solidEnds.head
  obtain ⟨rest, hinside⟩ := List.head?_eq_some_iff.1 hc
  obtain ⟨hr, hn⟩ := ne_break_of_not_isBlank hsolid
  have hline : place.line = before ++ c :: (rest ++ after) := by simp [hmarks.line_eq, hinside]
  have hposition : position place.lineNumber (sourceRows place.lineNumber place.line)
      ⟨before.length, (before ++ inside).length⟩ =
      (place.lineNumber + before.count '\n', before.lastRow.length + 1) :=
    (shownIn_sourceRows _ _).position_eq hr hn hline rfl
  show renderRows false (title fault.message :: placedRows (some origin) place fault.label) = _
  rw [renderRows, List.map_cons, map_renderRow_placedRows, ofSpan_of_marksIn hmarks, ← hposition]

/-- **The diagnostic of a fault underlines the text that the fault is about.** -/
theorem exists_underlines (place : Location) (hnumber : place.lineNumber ≠ 0)
    (hmarks : fault.MarksIn place.line place.span before inside after) (horigin : '\n' ∉ origin) :
    ∃ rows last lines above below body, (Failure.source fault (some place)).Underlines origin fault
      place before inside rows last lines above below body := by
  have hshown := shownIn_sourceRows place.lineNumber place.line
  obtain ⟨last, hlast, hreaches, hstart⟩ := exists_last_row hmarks hshown
  have hstop := hreaches.le_stop
  rw [Nat.zero_add] at hstop
  obtain ⟨earlier, later, hrows⟩ := List.append_of_mem hlast
  obtain ⟨above, hannotate, hsources, hunlabelled⟩ := exists_annotate_eq
    ⟨before.length, (before ++ inside).length⟩ fault.label
    (hrows ▸ hshown.pairwise_apart) (length_lt_of_marksIn hmarks) hstart hstop
  rw [← hrows] at hannotate
  refine ⟨sourceRows place.lineNumber place.line, last, annotate _ fault.label _, above,
    later.map (·.shown none), _, rfl, hshown, ?_, ?_, hannotate, hlast, hreaches, rfl, ?_,
    render_eq_of_marksIn hmarks origin, fun hfeed ↦ ?_, fun hfeed ↦ ?_⟩
  · -- every row is shown, in the order of the line
    rw [hannotate, hrows, List.filterMap_append, List.filterMap_append, hsources,
      filterMap_source?_underlined, filterMap_source?_map_shown, List.map_append, List.append_assoc]
    rfl
  · -- the label stands under the row in which the range ends, and nowhere else
    have habove : above.filterMap (·.label?) = [] :=
      List.filterMap_eq_nil_iff.2 fun l hl ↦ (hunlabelled l hl).label?_eq
    rw [hannotate, List.filterMap_append, List.filterMap_append, habove,
      filterMap_label?_underlined, filterMap_label?_map_shown]
    rfl
  · refine fun t ht ↦ lineFeed_not_mem_of_mem_framed horigin ?_ ht
    rw [hannotate]
    exact unbroken_lines hunlabelled (fun row hrow ↦ hshown.lineFeed_not_mem (hrows ▸ hrow))
      fault.lineFeed_not_mem_label
  · exact ⟨lineFeed_not_mem_title (hmarks.lineFeed_not_mem_message hfeed),
      framed_eq_of_oneRow hnumber hmarks hfeed origin fault.label⟩
  · rw [framed_eq_of_oneRow hnumber hmarks hfeed, underlinedRows_inj, columns_eq_iff]

end Diagnostic

/-! ### Failures of lines and of sources -/

/-- The diagnostic of the failure underlines, in the line, the text in the span. -/
def Failure.IsUnderlined (e : Failure) (origin : Text) (place : Location) : Prop :=
  ∃ fault before inside after rows last lines above below body,
    fault.MarksIn place.line place.span before inside after ∧
    e.Underlines origin fault place before inside rows last lines above below body

/-- A line that is refused is underlined where its failure says. -/
theorem Draft.Refuses.exists_isUnderlined {d : Draft} {line origin : Text} {e : Failure}
    (h : d.Refuses line e) (horigin : '\n' ∉ origin) :
    ∃ span, e.location? = some ⟨d.lineNumber + 1, line, span⟩ ∧
      e.IsUnderlined origin ⟨d.lineNumber + 1, line, span⟩ := by
  obtain ⟨fault, span, before, inside, after, rfl, hmarks⟩ := h.exists_marked
  obtain ⟨rows, last, lines, above, below, body, hunderlines⟩ := exists_underlines
    ⟨d.lineNumber + 1, line, span⟩ (Nat.succ_ne_zero _) hmarks horigin
  exact ⟨span, rfl, fault, before, inside, after, rows, last, lines, above, below, body, hmarks,
    hunderlines⟩

namespace Draft

/-- **Diagnostics underline the offending text.** A line that fails in a run, which may go on after
failures, is underlined in its diagnostic from the first character of its span to the last; so is
the line at which the reading of a source stops, and that line is shown in one row. -/
theorem isUnderlined_of_failure {origin : Text} (horigin : '\n' ∉ origin) :
    (∀ (ls : List Text) (k : Nat) (line : Text) (e : Failure), ls[k]? = some line →
      (feedAll ls start).1[k]? = some (.error e) →
      ∃ span, e.location? = some ⟨k + 1, line, span⟩ ∧
        e.IsUnderlined origin ⟨k + 1, line, span⟩) ∧
    ∀ (source : Text) (e : Failure) (place : Location),
      Program.ofSource source = .error e → e.location? = some place →
      '\n' ∉ place.line ∧ e.IsUnderlined origin place := by
  constructor
  · intro ls k line e hline hanswer
    rw [feedAll_apply] at hanswer
    have hunderlined := (refuses_of_answer_error hline hanswer).exists_isUnderlined horigin
    rwa [lineNumber_afterAll_take hline] at hunderlined
  · intro source e place hsource hplace
    rcases Program.exists_refuses_of_ofSource hsource with rfl | ⟨d, line, hline, hrefuses⟩
    · exact absurd hplace (by simp [Failure.location?])
    · obtain ⟨span, hspan, hunderlined⟩ := hrefuses.exists_isUnderlined horigin
      obtain rfl := Option.some.inj (hspan.symm.trans hplace)
      exact ⟨fun hmem ↦ (hline _ hmem).2 rfl, hunderlined⟩

/-- A line that was fed with two breaks in it, and a token with letters of two bytes. -/
theorem isUnderlined_rows_and_wide_letters :
    (∃ e span, (feedAll ["a\r\n b\nc#d".toList] start).1[0]? = some (.error e) ∧
      e.IsUnderlined "f".toList ⟨1, "a\r\n b\nc#d".toList, span⟩ ∧
      e.render (some "f".toList) false =
        ("error: incorrect header `a\r\n b\nc`, expected `.IPPcode24`\n --> f:1:1\n  |\n" ++
          "1 | / a\n2 | |  b\n3 | | c#d\n  | |__^ expected `.IPPcode24`\n  |").toList) ∧
    ∃ e place, Program.ofSource ".IPPcode24\n WRITE ěš".toList = .error e ∧
      e.IsUnderlined "f".toList place ∧
      e.render (some "f".toList) false =
        ("error: `ěš` is not a valid variable, literal, label or type\n --> f:2:8\n  |\n" ++
          "2 |  WRITE ěš\n  |        ^^ invalid operand\n  |").toList := by
  have horigin : '\n' ∉ "f".toList := by decide
  constructor
  · have hanswer : (feedAll ["a\r\n b\nc#d".toList] start).1[0]? =
        some (.error (.source (.incorrectHeader "a\r\n b\nc".toList)
          (some ⟨1, "a\r\n b\nc#d".toList, 0, 7⟩))) := by
      decide +kernel
    obtain ⟨span, -, hunderlined⟩ :=
      (isUnderlined_of_failure horigin).1 _ 0 _ _ rfl hanswer
    exact ⟨_, span, hanswer, hunderlined, by decide +kernel⟩
  · have hsource : Program.ofSource ".IPPcode24\n WRITE ěš".toList =
        .error (.source (.invalidOperand "ěš".toList) (some ⟨2, " WRITE ěš".toList, 7, 11⟩)) := by
      decide +kernel
    obtain ⟨-, hunderlined⟩ := (isUnderlined_of_failure horigin).2 _ _ _ hsource rfl
    exact ⟨_, _, hsource, hunderlined, by decide +kernel⟩

/-- The line with the number 999999999999998 is too close to the next power of ten: its number has
fifteen digits, and the gutter sixteen columns. -/
theorem render_ne_underlinedRows :
    (feedAll (List.replicate 999999999999997 [] ++ ["h x".toList]) start).1[999999999999997]? =
        some (.error (.source (.incorrectHeader "h x".toList)
          (some ⟨999999999999998, "h x".toList, 0, 3⟩))) ∧
      (ofNat 999999999999998).length = 15 ∧
      (Failure.source (.incorrectHeader "h x".toList)
        (some ⟨999999999999998, "h x".toList, 0, 3⟩)).render (some "f".toList) false =
        List.intercalate ['\n']
          ("error: incorrect header `h x`, expected `.IPPcode24`".toList ::
            underlinedRows 16 "f".toList 999999999999998 "h x".toList ⟨0, 3⟩
              "expected `.IPPcode24`".toList) ∧
      (Failure.source (.incorrectHeader "h x".toList)
        (some ⟨999999999999998, "h x".toList, 0, 3⟩)).render (some "f".toList) false ≠
        List.intercalate ['\n']
          ("error: incorrect header `h x`, expected `.IPPcode24`".toList ::
            underlinedRows 15 "f".toList 999999999999998 "h x".toList ⟨0, 3⟩
              "expected `.IPPcode24`".toList) := by
  refine ⟨?_, by decide +kernel, by decide +kernel, by decide +kernel⟩
  have hblank : ∀ l ∈ List.replicate 999999999999997 ([] : Text), ¬IsHeader l := by
    intro l hl
    rw [List.eq_of_mem_replicate hl]
    decide
  have hanswer := getElem?_answers_concat hblank "h x".toList
  rw [List.length_replicate] at hanswer
  rw [feedAll_apply, hanswer]
  decide +kernel

end Draft

end ThreeAddress
