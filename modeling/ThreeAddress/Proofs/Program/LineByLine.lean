import ThreeAddress.Proofs.Draft.InPlace
import ThreeAddress.Proofs.Program.Concatenation
import ThreeAddress.Proofs.Text.Joined

/-!
# Reading a source and reading its lines

Who reads a source as a whole stops at the first line that fails; who has only the lines feeds them
to one draft, which goes on after a failure, and looks at the answers afterwards. `Draft.assemble`
is what the second gets to know: the first failure among the answers or, when there is none, what
completing the draft gives. A draft that has met no failure is in the same state in both cases, and
after the first failure the further answers are not looked at, so that the two agree
(`Draft.assemble_eq_readAll`).

What the lines of a source are is a question about the text alone, see `Text.IsJoined`.
-/

namespace ThreeAddress

open Text

/-- The failure that a line got for an answer, if it failed. -/
def failureOf? : Except Failure Unit → Option Failure
  | .ok _ => none
  | .error e => some e

namespace Draft

/-- What comes of feeding the lines to a new draft, which is kept and goes on after failures: the
first failure or, if no line fails, what completing the draft gives. -/
def assemble (ls : List Text) : Except Failure Program :=
  let (answers, d) := feedAll ls start
  match answers.findSome? failureOf? with
  | some e => .error e
  | none => d.complete.outcome

/-- A run that stops at the first failure ends like one that goes on and is judged by the first
failure among its answers. -/
theorem readAll_eq_of_answers (d : Draft) (ls : List Text) :
    d.readAll ls =
      match (d.answers ls).findSome? failureOf? with
      | some e => .error e
      | none => (d.afterAll ls).complete.outcome := by
  induction ls generalizing d with
  | nil => rfl
  | cons line ls ih =>
    have hafter : d.afterAll (line :: ls) = (d.after line).afterAll ls := rfl
    rw [readAll, answers, List.findSome?_cons]
    rcases d.accepts_or_refuses line with ⟨d', h⟩ | ⟨e, h⟩
    · have hanswer : failureOf? ((d.accept line).outcome.map fun _ ↦ ()) = none := by
        rw [h.outcome_eq]
        rfl
      rw [h.outcome_acceptAll_cons, hanswer, hafter, h.after_eq]
      exact ih d'
    · have hanswer : failureOf? ((d.accept line).outcome.map fun _ ↦ ()) = some e := by
        rw [h.outcome_eq]
        rfl
      -- the run ends here, and the answers to the lines behind are not looked at
      rw [h.outcome_acceptAll_cons, hanswer]
      rfl

/-- Who stops at the first answer that is a failure has read as a whole reading does. -/
theorem assemble_eq_readAll (ls : List Text) : assemble ls = start.readAll ls := by
  rw [assemble, feedAll_apply]
  exact (readAll_eq_of_answers start ls).symm

end Draft

namespace Program

/-- **A source is read as its lines are read one by one.** Lines that are written with any breaks
between them, none of which run together, are the lines of what is written, and reading that gives
the first failure among the answers to the lines or what completing the draft gives. Every source is
written from its lines in this way, with the breaks that it has, and it has one line more than
breaks: one break for each carriage return and each line feed, where a carriage return and the line
feed that follows it count once. -/
theorem ofSource_eq_assemble :
    (∀ source first rest, IsJoined source first rest →
      source.lines = first :: rest.map (·.2) ∧
      ofSource source = Draft.assemble (first :: rest.map (·.2))) ∧
    ∀ source : Text,
      (∃ first rest, IsJoined source first rest ∧ source.lines = first :: rest.map (·.2) ∧
        lineBreaks source = rest.map (·.1)) ∧
      source.lines.length = (lineBreaks source).length + 1 ∧
      (lineBreaks source).length + (source.zip source.tail).count ('\r', '\n') =
        source.count '\r' + source.count '\n' := by
  refine ⟨fun source first rest h ↦ ⟨h.lines_eq, ?_⟩, fun source ↦ ⟨?_, ?_, ?_⟩⟩
  · rw [ofSource_eq_readAll, h.lines_eq, Draft.assemble_eq_readAll]
  · obtain ⟨first, rest, hlines, h⟩ := exists_isJoined source
    exact ⟨first, rest, h, hlines, h.lineBreaks_eq⟩
  · exact length_lines source
  · exact length_lineBreaks_add source

/-- Three kinds of breaks, an empty line between two of them and one at the end, and two lines that
fail, of which the first counts. -/
theorem ofSource_eq_assemble_three_breaks :
    IsJoined ".IPPcode24\r\r\nNOT\rFOO\n".toList ".IPPcode24".toList
        [(.carriageReturn, []), (.both, "NOT".toList), (.carriageReturn, "FOO".toList),
          (.lineFeed, [])] ∧
      Text.lines ".IPPcode24\r\r\nNOT\rFOO\n".toList =
        [".IPPcode24".toList, [], "NOT".toList, "FOO".toList, []] ∧
      ofSource ".IPPcode24\r\r\nNOT\rFOO\n".toList =
        Draft.assemble [".IPPcode24".toList, [], "NOT".toList, "FOO".toList, []] ∧
      Draft.assemble [".IPPcode24".toList, [], "NOT".toList, "FOO".toList, []] =
        .error (.source (.wrongArity .not 2 0) (some ⟨3, "NOT".toList, 0, 3⟩)) := by
  have h : IsJoined ".IPPcode24\r\r\nNOT\rFOO\n".toList ".IPPcode24".toList
      [(.carriageReturn, []), (.both, "NOT".toList), (.carriageReturn, "FOO".toList),
        (.lineFeed, [])] :=
    ⟨by decide, by decide, by simp [BreaksApart]⟩
  obtain ⟨hlines, hread⟩ := ofSource_eq_assemble.1 _ _ _ h
  exact ⟨h, hlines, hread, by decide +kernel⟩

end Program

end ThreeAddress
