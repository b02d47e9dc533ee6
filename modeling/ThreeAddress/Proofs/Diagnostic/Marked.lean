import ThreeAddress.Proofs.Diagnostic.Message
import ThreeAddress.Proofs.Line.Tiling
import ThreeAddress.Proofs.Program.FirstFault
import ThreeAddress.Proofs.Text.CaseImage

/-!
# The marked text

A line that fails is cut in three by the span of the failure: what comes before the text that the
failure is about, that text, and what comes behind it. The text in the middle is a word, or goes
from a word to a word, so that it begins and ends with a character that is not blank; and it is what
the message quotes, if that quotes anything (`Draft.Refuses.exists_marked`).

A break is blank. So the marked text never begins or ends at one, even if the line has breaks inside
of it.
-/

namespace ThreeAddress

open Text

/-- In the line the failure is about the text `inside`, which stands behind `before`. -/
structure Fault.MarksIn (fault : Fault) (line : Text) (span : Span) (before inside after : Text) :
    Prop where
  line_eq : line = before ++ inside ++ after
  span_eq : span = ⟨byteLength before, byteLength (before ++ inside)⟩
  /-- The text begins and ends with a character that is not blank. -/
  solidEnds : SolidEnds inside
  /-- What the message quotes is the text, in upper case where it names an operation. -/
  quoted_eq : fault.quoted = fault.quotedOf inside

variable {line inside : Text} {fault : Fault} {span : Span}

/-- A slice that begins and ends inside of a word is marked by its span. -/
theorem Fault.exists_marksIn (fault : Fault) (hslice : line.slice? span = some inside)
    (hends : SolidEnds inside) (hquoted : fault.quoted = fault.quotedOf inside) :
    ∃ before after, fault.MarksIn line span before inside after := by
  obtain ⟨before, after, hline, hstart, hstop⟩ := slice?_eq_some_iff.1 hslice
  obtain ⟨start, stop⟩ := span
  exact ⟨before, after, hline, by rw [hstart, hstop], hends, hquoted⟩

/-! ### The text that a fault is about -/

theorem solidEnds_of_mem_contentWords {w : Word} (hw : w ∈ contentWords line) :
    SolidEnds w.text :=
  ((words_eq_iff.1 rfl).solid_of_mem hw).solidEnds (text_ne_nil_of_mem_words hw)

/-- The fault of a line that spells no instruction is about one of its words, and quotes that word
if it quotes anything. -/
theorem Instruction.IsFault.exists_word {first : Word} {args : List Word}
    (h : IsFault first.text (args.map (·.text)) fault) : ∃ w ∈ first :: args,
      fault.spanIn (first :: args) = w.span ∧ fault.quoted = fault.quotedOf w.text := by
  rcases h with - | - | @⟨op, i, kind, token, -, -, h⟩
  · exact ⟨first, List.mem_cons_self, rfl, rfl⟩
  · exact ⟨first, List.mem_cons_self, rfl, rfl⟩
  · obtain ⟨w, hw, rfl⟩ : ∃ w, args[i]? = some w ∧ w.text = token := by
      simpa using h.token_eq
    refine ⟨w, List.mem_cons_of_mem _ (List.mem_of_getElem? hw), ?_⟩
    rw [Fault.ofMisfit]
    cases hof : Operand.ofToken w.text with
    | ok x => exact ⟨Fault.spanIn_operandMismatch hw, rfl⟩
    | error fault =>
      obtain ⟨rfl, hinvalid⟩ := Operand.ofToken_eq_error_iff.1 hof
      exact ⟨Fault.spanIn_invalidOperand h hw hinvalid, rfl⟩

namespace Draft

variable {d : Draft} {e : Failure}

/-- **A line that fails is marked from one of its words to one of its words.** -/
theorem Refuses.exists_marked (h : d.Refuses line e) :
    ∃ fault span before inside after, e = .source fault (some ⟨d.lineNumber + 1, line, span⟩) ∧
      fault.MarksIn line span before inside after := by
  rcases h with ⟨-, hwords, -⟩ | @⟨-, first, rest, fault, hwords, hread⟩
  · obtain ⟨-, -, -, hends, -⟩ := exists_eq_append_trimmed_of_words hwords
    obtain ⟨before, after, hmarks⟩ := Fault.exists_marksIn
      (.incorrectHeader (content line)) (slice?_spanOfWords_contentWords hwords) hends rfl
    exact ⟨_, _, before, content line, after, rfl, hmarks⟩
  · obtain ⟨w, hw, hspan, hquoted⟩ := (Instruction.isFault_of_outcome_read hread).exists_word
    rw [← hwords] at hw hspan
    obtain ⟨before, after, hmarks⟩ := fault.exists_marksIn (slice?_of_mem_contentWords hw)
      (solidEnds_of_mem_contentWords hw) hquoted
    rw [← hspan] at hmarks
    exact ⟨fault, _, before, w.text, after, rfl, hmarks⟩

end Draft

/-! ### Line feeds -/

/-- What a message quotes comes from one line, so the message is one line. -/
theorem Fault.MarksIn.lineFeed_not_mem_message {before after : Text}
    (h : fault.MarksIn line span before inside after) (hline : '\n' ∉ line) :
    '\n' ∉ fault.message := by
  have hinside : '\n' ∉ inside := fun hmem ↦ hline (by simp [h.line_eq, hmem])
  refine Fault.lineFeed_not_mem_message ?_
  rw [h.quoted_eq]
  cases fault with
  | incorrectHeader found => exact hinside
  | unknownOpcode word => exact lineFeed_not_mem_upper hinside
  | invalidOperand token => exact hinside
  | _ => simp [Fault.quotedOf]

end ThreeAddress
