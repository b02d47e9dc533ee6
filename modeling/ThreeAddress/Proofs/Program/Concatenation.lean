import ThreeAddress.Draft
import ThreeAddress.Proofs.Draft.Offset
import ThreeAddress.Proofs.Text.Lines

/-!
# Sources put together

A source with a second text behind it, on lines of its own, is read like the two of them one after
the other. If the first is a program, the second goes on with it as if it stood behind a header of
its own; if the first has a fault in a line, the second does not matter; and if the first has no
content, it only moves the lines of the second.

The lines of the two texts are those of the whole (`Text.lines_append_lineFeed`), unless the line
feed between them completes a break that the first text has begun. What is left to say is that the
run over the second text starts from a draft that differs from the usual one in what was read before
(`Draft.readAll_offset`).
-/

namespace ThreeAddress

open Text

theorem isHeader_header : IsHeader header := by decide +kernel

theorem unbroken_header : Unbroken header := by decide

namespace Program

/-- A source is read as its lines are read from the first draft. -/
theorem ofSource_eq_readAll (source : Text) :
    ofSource source = Draft.start.readAll source.lines := by
  rw [ofSource, read, Logged.outcome_bind, Draft.readAll]

/-- Behind the header a text is read into the draft that has seen nothing but the header. -/
theorem ofSource_header_append (t : Text) :
    ofSource (header ++ '\n' :: t) = Draft.start.withHeader.readAll t.lines := by
  have hlines : lines (header ++ '\n' :: t) = [header] ++ t.lines := by
    rw [lines_append_lineFeed (by decide), lines_eq_singleton unbroken_header]
  have hrun : (Draft.start.acceptAll [header]).outcome = .ok Draft.start.withHeader :=
    (Draft.Accepts.header rfl isHeader_header).outcome_acceptAll_cons []
  rw [ofSource_eq_readAll, hlines, Draft.readAll_append_of_ok hrun]

/-- The draft after a program is the one after the header, behind the lines and the statements of
the program. -/
theorem outcome_acceptAll_of_ofSource {s : Text} {p : Program} (h : ofSource s = .ok p) :
    (Draft.start.acceptAll s.lines).outcome =
      .ok (Draft.start.withHeader.offset (s.lines.length - 1) p.statements.toArray) := by
  obtain ⟨d, hrun, hcomplete⟩ := Logged.outcome_bind_eq_ok_iff.1 h
  obtain ⟨hphase, rfl⟩ := Draft.outcome_complete_eq_ok_iff.1 hcomplete
  have hlength : 0 < s.lines.length := List.length_pos_of_ne_nil (lines_ne_nil s)
  rcases (Draft.outcome_acceptAll_awaitingHeader_iff rfl).1 hrun with
    ⟨-, rfl⟩ | ⟨_, _, is, -, -, -, rfl⟩
  · exact absurd hphase (by simp [Draft.start])
  · have hlines : 1 + (s.lines.length - 1) = s.lines.length := by omega
    rw [hrun]
    simp [Draft.extend, Draft.offset, Draft.withHeader, Draft.countLine, Draft.start, hlines]

/-- A source without content leaves the first draft, behind its lines. -/
theorem outcome_acceptAll_of_missingHeader {s : Text}
    (h : ofSource s = .error (.source .missingHeader none)) :
    (Draft.start.acceptAll s.lines).outcome = .ok (Draft.start.offset s.lines.length #[]) := by
  rcases Logged.outcome_bind_eq_error_iff.1 h with hrun | ⟨d, hrun, hcomplete⟩
  · obtain ⟨_, _, _, d, -, -, hline⟩ := Draft.outcome_acceptAll_eq_error_iff.1 hrun
    exact absurd hline (by rintro ⟨⟩)
  · obtain ⟨hphase, -⟩ := Draft.outcome_complete_eq_error_iff.1 hcomplete
    rcases (Draft.outcome_acceptAll_awaitingHeader_iff rfl).1 hrun with
      ⟨-, rfl⟩ | ⟨_, _, is, -, -, -, rfl⟩
    · have hstart : Draft.start.offset s.lines.length #[] =
          { Draft.start with lineNumber := Draft.start.lineNumber + s.lines.length } := by
        simp [Draft.offset, Draft.start]
      rw [hrun, hstart]
    · exact absurd hphase (by simp [Draft.extend])

theorem append_empty_left (q : Program) : (⟨[]⟩ : Program).append q = q := by
  simp [append, size, Statement.offset_zero]

/-- **Sources can be put together line by line.** Behind a program the second text is read as behind
a header, and its statements are numbered on; behind a failure in a line it is not read at all;
behind a source without content it is read as it stands. The numbers of lines in a failure are moved
by the lines before the text, one of which stands for the header in the first case. -/
theorem ofSource_append_lineFeed {s : Text} (hs : s.getLast? ≠ some '\r') (t : Text) :
    (∀ p, ofSource s = .ok p → ofSource (s ++ '\n' :: t) =
      ((ofSource (header ++ '\n' :: t)).map p.append).mapError
        (Failure.offset (s.lines.length - 1))) ∧
    (∀ e, ofSource s = .error e → e.location? ≠ none → ofSource (s ++ '\n' :: t) = .error e) ∧
    (ofSource s = .error (.source .missingHeader none) → ofSource (s ++ '\n' :: t) =
      (ofSource t).mapError (Failure.offset s.lines.length)) := by
  have hlines : ofSource (s ++ '\n' :: t) = Draft.start.readAll (s.lines ++ t.lines) := by
    rw [ofSource_eq_readAll, lines_append_lineFeed hs]
  refine ⟨fun p h ↦ ?_, fun e h hplace ↦ ?_, fun h ↦ ?_⟩
  · rw [hlines, Draft.readAll_append_of_ok (outcome_acceptAll_of_ofSource h),
      Draft.readAll_offset, ofSource_header_append]
  · -- a failure that has a place comes from a line, and not from the end of the source
    rcases Logged.outcome_bind_eq_error_iff.1 h with hrun | ⟨d, -, hcomplete⟩
    · rw [hlines, Draft.readAll_append_of_error hrun]
    · obtain ⟨-, rfl⟩ := Draft.outcome_complete_eq_error_iff.1 hcomplete
      exact absurd rfl hplace
  · rw [hlines, Draft.readAll_append_of_ok (outcome_acceptAll_of_missingHeader h),
      Draft.readAll_offset, ← ofSource_eq_readAll]
    cases ofSource t with
    | error e => rfl
    | ok q => simp [Except.map, Except.mapError, append_empty_left]

/-- A text of two lines, the second of them at fault, behind a program, behind a line that is not
the header, and behind a comment. -/
theorem ofSource_append_lineFeed_three_ways :
    ofSource (".IPPcode24\r\nBREAK # c".toList ++ '\n' :: "\rADD".toList) =
        .error (.source (.wrongArity .add 3 0) (some ⟨4, "ADD".toList, 0, 3⟩)) ∧
      ofSource ("x y\n".toList ++ '\n' :: "\rADD".toList) =
        .error (.source (.incorrectHeader "x y".toList) (some ⟨1, "x y".toList, 0, 3⟩)) ∧
      ofSource ("# c".toList ++ '\n' :: "\rADD".toList) =
        .error (.source (.incorrectHeader "ADD".toList) (some ⟨3, "ADD".toList, 0, 3⟩)) := by
  refine ⟨?_, ?_, ?_⟩
  · have hprogram : ofSource ".IPPcode24\r\nBREAK # c".toList = .ok ⟨[⟨1, .breakpoint, []⟩]⟩ := by
      decide +kernel
    rw [(ofSource_append_lineFeed (by decide +kernel) _).1 _ hprogram]
    decide +kernel
  · have hfault : ofSource "x y\n".toList =
        .error (.source (.incorrectHeader "x y".toList) (some ⟨1, "x y".toList, 0, 3⟩)) := by
      decide +kernel
    exact (ofSource_append_lineFeed (by decide +kernel) _).2.1 _ hfault
      (by simp [Failure.location?])
  · have hempty : ofSource "# c".toList = .error (.source .missingHeader none) := by decide +kernel
    rw [(ofSource_append_lineFeed (by decide +kernel) _).2.2 hempty]
    decide +kernel

end Program

end ThreeAddress
