import ThreeAddress.Draft
import ThreeAddress.Proofs.Draft.Run

/-!
# The first fault of a source

A source that is no program is refused for its first fault. `FirstFault` says which one that is: a
line that has content and is not the header, with nothing but lines without content before it, or a
line after the header that spells no instruction, with instructions between them. A run over the
lines fails exactly where such a line is (`outcome_acceptAll_start_eq_error_iff`).

What a failure marks is found after the fact from the fault and the words of its line.
`Fault.PointsAt` says which words are meant. For a token that is no operand at all the marked word
is looked for by its text, and there may be several with this text: it is the first of them because
every token before the one that reading stopped at is in some lexical class, and this one is in
none (`find?_invalid_of_firstMisfit`).
-/

namespace ThreeAddress

open Text

/-- The line with the number `n` is the first that cannot be read, for the fault. -/
inductive FirstFault (ls : List Text) : Nat → Text → Fault → Prop
  /-- No line before it has content, and its own is not the header. -/
  | header {before after : List Text} {line : Text} (hls : ls = before ++ line :: after)
      (hbefore : ∀ l ∈ before, contentWords l = []) (hwords : contentWords line ≠ [])
      (h : ¬IsHeader line) :
      FirstFault ls (before.length + 1) line (.incorrectHeader (content line))
  /-- The lines with content before it are the header and instructions, and it is no instruction. -/
  | instruction {before after rest : List Text} {line top : Text} {is : List Instruction}
      {first : Word} {args : List Word} {fault : Fault} (hls : ls = before ++ line :: after)
      (hbefore : contentLines before = top :: rest) (htop : IsHeader top)
      (hrest : List.Forall₂ IsInstruction rest is) (hwords : contentWords line = first :: args)
      (h : (Instruction.read first.text (args.map (·.text))).outcome = .error fault) :
      FirstFault ls (before.length + 1) line fault

/-- In a line with the words `ws` the fault is about the bytes of the span, which are the text. -/
inductive Fault.PointsAt (ws : List Word) : Fault → Span → Text → Prop
  /-- A line that is not the header is marked from its first word to its last. -/
  | incorrectHeader {found : Text} {first last : Word} (hfirst : ws.head? = some first)
      (hlast : ws.getLast? = some last) :
      PointsAt ws (.incorrectHeader found) ⟨first.span.start, last.span.stop⟩ found
  | unknownOpcode {name : Text} {first : Word} (hfirst : ws.head? = some first) :
      PointsAt ws (.unknownOpcode name) first.span first.text
  | wrongArity {op : Opcode} {expected actual : Nat} {first : Word}
      (hfirst : ws.head? = some first) :
      PointsAt ws (.wrongArity op expected actual) first.span first.text
  /-- The operand of a wrong kind is marked by its position, which counts the operation as 0. -/
  | operandMismatch {op : Opcode} {position : Nat} {kind : Kind} {category : Category} {w : Word}
      (hposition : 0 < position) (hw : ws[position]? = some w) :
      PointsAt ws (.operandMismatch op position kind category) w.span w.text
  /-- A token that is no operand is marked where the first operand stands that does not fit. -/
  | invalidOperand {op : Opcode} {i : Nat} {kind : Kind} {first w : Word} {args : List Word}
      (hws : ws = first :: args) (hop : op.name = first.text.upper) (hw : args[i]? = some w)
      (h : FirstMisfit op.signature (args.map (·.text)) i kind w.text) :
      PointsAt ws (.invalidOperand w.text) w.span w.text

/-- The failure is about the first fault in the lines: it has the number of the line, the line as it
stands, and a range of the line that is not empty, cuts no character and is what the fault is
about. -/
inductive Failure.IsFirstFault (ls : List Text) : Failure → Prop
  | intro {n : Nat} {line marked : Text} {fault : Fault} {span : Span}
      (hfault : FirstFault ls n line fault) (hline : ls[n - 1]? = some line)
      (hspan : span.start < span.stop) (hstop : span.stop ≤ byteLength line)
      (hslice : line.slice? span = some marked)
      (hpoints : fault.PointsAt (contentWords line) span marked) :
      IsFirstFault ls (.source fault (some ⟨n, line, span⟩))

/-! ### The line -/

variable {ls : List Text} {n : Nat} {line : Text} {fault : Fault}

/-- The first fault is on the line that its number says. -/
theorem FirstFault.getElem?_eq (h : FirstFault ls n line fault) : ls[n - 1]? = some line := by
  have hget : ∀ before after : List Text,
      (before ++ line :: after)[before.length + 1 - 1]? = some line := by
    intro before after
    rw [Nat.add_sub_cancel, List.getElem?_append_right (Nat.le_refl _), Nat.sub_self]
    rfl
  rcases h with ⟨hls, -, -, -⟩ | ⟨hls, -, -, -, -, -⟩
  · rw [hls]
    exact hget _ _
  · rw [hls]
    exact hget _ _

/-- There is no fault on a line without content. -/
theorem FirstFault.contentWords_ne_nil (h : FirstFault ls n line fault) :
    contentWords line ≠ [] := by
  rcases h with ⟨-, -, hwords, -⟩ | ⟨-, -, -, -, hwords, -⟩
  · exact hwords
  · simp [hwords]

/-! ### The marked words -/

/-- Of the words with the text of an invalid token, the first is the one where reading stopped. -/
theorem find?_invalid_of_firstMisfit {kinds : List Kind} {args : List Word} {i : Nat} {kind : Kind}
    {w : Word} (h : FirstMisfit kinds (args.map (·.text)) i kind w.text) (hw : args[i]? = some w)
    (hinvalid : ∀ kind, Token.hasKind kind w.text = false) :
    args.find? (fun v ↦ v.text == w.text) = some w := by
  obtain ⟨hi, hget⟩ := List.getElem?_eq_some_iff.1 hw
  refine List.find?_eq_some_iff_getElem.2 ⟨beq_self_eq_true _, i, hi, hget, fun j hj ↦ ?_⟩
  -- the token at `j` fits the kind expected of it, so that it is not the invalid one
  obtain ⟨hi', -⟩ := List.getElem?_eq_some_iff.1 h.kind_eq
  have hfits := h.before j hj kinds[j] args[j].text (List.getElem?_eq_getElem _)
    (by rw [List.getElem?_map, List.getElem?_eq_getElem (by omega), Option.map_some])
  have hne : args[j].text ≠ w.text := by
    intro heq
    rw [heq, hinvalid] at hfits
    exact absurd hfits (by simp)
  simpa using hne

/-- The place of a mismatch is that of the operand in the position. -/
theorem Fault.spanIn_operandMismatch {op : Opcode} {i : Nat} {kind : Kind} {category : Category}
    {first w : Word} {args : List Word} (hw : args[i]? = some w) :
    (operandMismatch op (i + 1) kind category).spanIn (first :: args) = w.span := by
  show spanOfWord ((first :: args)[i + 1]?.or _) = _
  rw [List.getElem?_cons_succ, hw]
  rfl

/-- The place of an invalid operand is that of the token that was read. It is looked for by its
text: an earlier operand with the same text would have been the first misfit. -/
theorem Fault.spanIn_invalidOperand {kinds : List Kind} {i : Nat} {kind : Kind} {first w : Word}
    {args : List Word} (h : FirstMisfit kinds (args.map (·.text)) i kind w.text)
    (hw : args[i]? = some w) (hinvalid : ∀ kind, Token.hasKind kind w.text = false) :
    (invalidOperand w.text).spanIn (first :: args) = w.span := by
  show spanOfWord ((args.find? fun v ↦ v.text == w.text).or _) = _
  rw [find?_invalid_of_firstMisfit h hw hinvalid]
  rfl

/-- The fault of a line that spells no instruction is about one of its words. -/
theorem Instruction.IsFault.pointsAt {first : Word} {args : List Word} {fault : Fault}
    (h : IsFault first.text (args.map (·.text)) fault) :
    ∃ w ∈ first :: args, fault.spanIn (first :: args) = w.span ∧
      fault.PointsAt (first :: args) w.span w.text := by
  rcases h with hop | ⟨hop, hlength⟩ | @⟨op, i, kind, token, hop, hlength, hmisfit⟩
  · exact ⟨first, List.mem_cons_self, rfl, .unknownOpcode rfl⟩
  · exact ⟨first, List.mem_cons_self, rfl, .wrongArity rfl⟩
  · obtain ⟨w, hw, rfl⟩ : ∃ w, args[i]? = some w ∧ w.text = token := by
      simpa using hmisfit.token_eq
    have hmem : w ∈ first :: args := List.mem_cons_of_mem _ (List.mem_of_getElem? hw)
    refine ⟨w, hmem, ?_⟩
    rw [Fault.ofMisfit]
    cases hof : Operand.ofToken w.text with
    | ok x => exact ⟨Fault.spanIn_operandMismatch hw, .operandMismatch (Nat.succ_pos i) hw⟩
    | error fault =>
      obtain ⟨rfl, hinvalid⟩ := Operand.ofToken_eq_error_iff.1 hof
      exact ⟨Fault.spanIn_invalidOperand hmisfit hw hinvalid, .invalidOperand rfl hop hw hmisfit⟩

/-- **What is marked is a part of the line**, and the part that the fault is about. -/
theorem FirstFault.slice?_spanIn (h : FirstFault ls n line fault) : ∃ marked ≠ [],
      line.slice? (fault.spanIn (contentWords line)) = some marked ∧
      fault.PointsAt (contentWords line) (fault.spanIn (contentWords line)) marked := by
  rcases h with ⟨-, -, hwords, -⟩ | ⟨-, -, -, -, hwords, hread⟩
  · obtain ⟨first, rest, hcons⟩ := List.exists_cons_of_ne_nil hwords
    obtain ⟨last, hlast⟩ := Option.isSome_iff_exists.1 (List.getLast?_isSome.2 hwords)
    have hfirst : (contentWords line).head? = some first := by rw [hcons, List.head?_cons]
    have hspan : spanOfWords (contentWords line) = ⟨first.span.start, last.span.stop⟩ := by
      simp only [spanOfWords, hfirst, hlast]
    refine ⟨content line, trimmed_ne_nil_of_words_ne_nil hwords,
      slice?_spanOfWords_contentWords hwords, ?_⟩
    rw [Fault.spanIn, hspan]
    exact .incorrectHeader hfirst hlast
  · obtain ⟨w, hw, hspan, hpoints⟩ := (Instruction.isFault_of_outcome_read hread).pointsAt
    rw [← hwords] at hw hspan hpoints
    rw [hspan]
    exact ⟨w.text, text_ne_nil_of_mem_words hw, slice?_of_mem_contentWords hw, hpoints⟩

/-! ### Runs that fail -/

namespace Draft

theorem failure_countLine (d : Draft) (line : Text) (ws : List Word) (fault : Fault) :
    d.countLine.failure line ws fault =
      .source fault (some ⟨d.lineNumber + 1, line, fault.spanIn ws⟩) := rfl

theorem lineNumber_start : start.lineNumber = 0 := rfl

theorem lineNumber_extend_start (n : Nat) (is : List Instruction) :
    (start.extend n is).lineNumber = n := Nat.zero_add n

/-- **A run from the start fails at the first fault**, and with it. -/
theorem outcome_acceptAll_start_eq_error_iff {e : Failure} :
    (start.acceptAll ls).outcome = .error e ↔ ∃ n line fault, FirstFault ls n line fault ∧
      e = .source fault (some ⟨n, line, fault.spanIn (contentWords line)⟩) := by
  rw [outcome_acceptAll_eq_error_iff]
  simp only [outcome_acceptAll_awaitingHeader_iff (d := start) rfl]
  constructor
  · rintro ⟨before, line, after, d, hls, ⟨hblank, rfl⟩ | ⟨top, rest, is, hlines, htop, his, rfl⟩,
      hrefuses⟩
    · rcases hrefuses with ⟨-, hwords, hheader⟩ | ⟨hphase, -, -⟩
      · -- no line before it has content, so the line should have been the header
        refine ⟨_, line, _, .header hls (contentLines_eq_nil_iff.1 hblank) hwords hheader, ?_⟩
        rw [failure_countLine, lineNumber_start, Nat.zero_add]
      · exact absurd hphase (by simp [start])
    · rcases hrefuses with ⟨hphase, -, -⟩ | ⟨-, hwords, hread⟩
      · exact absurd hphase (by simp [extend])
      · -- the header is among the lines before it, so the line should have been an instruction
        refine ⟨_, line, _, .instruction hls hlines htop his hwords hread, ?_⟩
        rw [failure_countLine, lineNumber_extend_start]
  · rintro ⟨n, line, fault, hfirst, rfl⟩
    rcases hfirst with @⟨before, after, _, hls, hbefore, hwords, hheader⟩ |
      @⟨before, after, rest, _, top, is, first, args, _, hls, hlines, htop, his, hwords, hread⟩
    · refine ⟨before, line, after, _, hls, .inl ⟨contentLines_eq_nil_iff.2 hbefore, rfl⟩, ?_⟩
      rw [lineNumber_start, Nat.zero_add]
      exact Refuses.header (d := { start with lineNumber := before.length }) rfl hwords hheader
    · refine ⟨before, line, after, _, hls, .inr ⟨top, rest, is, hlines, htop, his, rfl⟩, ?_⟩
      have := Refuses.instruction (d := start.extend before.length is) rfl hwords hread
      rwa [failure_countLine, lineNumber_extend_start] at this

end Draft

/-- The first fault of the lines is reported at its line and at its span in it. -/
theorem FirstFault.isFirstFault (h : FirstFault ls n line fault) :
    Failure.IsFirstFault ls
      (.source fault (some ⟨n, line, fault.spanIn (contentWords line)⟩)) := by
  obtain ⟨marked, hne, hslice, hpoints⟩ := h.slice?_spanIn
  obtain ⟨hspan, hstop⟩ := start_lt_stop_of_slice? hslice hne
  exact .intro h h.getElem?_eq hspan hstop hslice hpoints

namespace Program

/-- **A source fails for its first fault, and the failure marks it.** The header is missing if no
line has a word before its comment; every other failure has its place. -/
theorem isFirstFault_of_ofSource_eq_error {source : Text} {e : Failure}
    (h : ofSource source = .error e) :
    (e = .source .missingHeader none ↔ ∀ line ∈ source.lines, contentWords line = []) ∧
      (e ≠ .source .missingHeader none → e.IsFirstFault source.lines) := by
  rw [ofSource, read] at h
  rcases Logged.outcome_bind_eq_error_iff.1 h with h | ⟨d, hrun, h⟩
  · obtain ⟨n, line, fault, hfault, rfl⟩ := Draft.outcome_acceptAll_start_eq_error_iff.1 h
    refine ⟨⟨fun heq ↦ absurd heq (by simp), fun hblank ↦ ?_⟩, fun _ ↦ hfault.isFirstFault⟩
    have hmem : line ∈ source.lines := List.mem_of_getElem? hfault.getElem?_eq
    exact absurd (hblank line hmem) hfault.contentWords_ne_nil
  · obtain ⟨hphase, rfl⟩ := Draft.outcome_complete_eq_error_iff.1 h
    refine ⟨⟨fun _ ↦ ?_, fun _ ↦ rfl⟩, fun hne ↦ absurd rfl hne⟩
    rcases (Draft.outcome_acceptAll_awaitingHeader_iff rfl).1 hrun with
      ⟨hblank, -⟩ | ⟨_, _, _, -, -, -, rfl⟩
    · exact contentLines_eq_nil_iff.1 hblank
    · exact absurd hphase (by simp [Draft.extend])

/-- The token that is no operand stands there twice, after a blank of three bytes. -/
theorem isFirstFault_repeated_token :
    ofSource ".IPPcode24\r\nADD\u3000GF@a x@ x@ # x@".toList =
        .error (.source (.invalidOperand "x@".toList)
          (some ⟨2, "ADD\u3000GF@a x@ x@ # x@".toList, 11, 13⟩)) ∧
      Failure.IsFirstFault (Text.lines ".IPPcode24\r\nADD\u3000GF@a x@ x@ # x@".toList)
        (.source (.invalidOperand "x@".toList)
          (some ⟨2, "ADD\u3000GF@a x@ x@ # x@".toList, 11, 13⟩)) := by
  have h : ofSource ".IPPcode24\r\nADD\u3000GF@a x@ x@ # x@".toList =
      .error (.source (.invalidOperand "x@".toList)
        (some ⟨2, "ADD\u3000GF@a x@ x@ # x@".toList, 11, 13⟩)) := by
    decide +kernel
  exact ⟨h, (isFirstFault_of_ofSource_eq_error h).2 (by simp)⟩

end Program

end ThreeAddress
