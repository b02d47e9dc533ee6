import ThreeAddress.Proofs.Draft.InPlace
import ThreeAddress.Proofs.Draft.Invariant

/-!
# Reading on after failures

Lines that fail and lines without content are counted and do nothing else, so that the lines that
matter to a draft are those that are accepted and have content. `Draft.acceptedLines` picks
them out by their answers, and `exists_agrees_afterAll` follows the two runs, over all the lines and
over these alone: the drafts agree in everything but the number of lines, because a line that is
left out does not change what they agree in, and one that is kept is accepted on both sides.

What a line gets for an answer is a function of the line, of its number and of whether the header
was accepted before it (`answer_eq_answerTo`, `phase_afterAll_take_eq_body_iff`). `ReadsOn` puts all
this together for the lines that a new draft is fed.
-/

namespace ThreeAddress

/-! ### The answer to a line -/

/-- What is wrong with a line that is read in the phase, if anything is. -/
def Phase.faultOf? (phase : Phase) (line : Text) : Option Fault :=
  match contentWords line, phase with
  | [], _ => none
  | _ :: _, .awaitingHeader =>
    if IsHeader line then none else some (.incorrectHeader (content line))
  | first :: rest, .body =>
    match (Instruction.read first.text (rest.map (·.text))).outcome with
    | .ok _ => none
    | .error fault => some fault

/-- The answer to a line with the number `n`, by what is wrong with it. -/
def answerTo (n : Nat) (line : Text) : Option Fault → Except Failure Unit
  | none => .ok ()
  | some fault => .error (.source fault (some ⟨n, line, fault.spanIn (contentWords line)⟩))

namespace Draft

variable {d d' d₁ : Draft} {line : Text} {ls : List Text} {k : Nat}

/-- Nothing is wrong with a line that is accepted. -/
theorem Accepts.faultOf?_eq (h : d.Accepts line d') : d.phase.faultOf? line = none := by
  rcases h with hwords | ⟨hphase, h⟩ | ⟨hphase, first, rest, hwords, h⟩
  · simp [Phase.faultOf?, hwords]
  · obtain ⟨w, hw, -⟩ := isHeader_iff.1 h
    simp [Phase.faultOf?, hphase, hw, h]
  · simp [Phase.faultOf?, hphase, hwords, h]

/-- A line is refused for what is wrong with it, at its own number. -/
theorem Refuses.exists_faultOf?_eq {e : Failure} (h : d.Refuses line e) :
    ∃ fault, d.phase.faultOf? line = some fault ∧
      e = .source fault (some ⟨d.lineNumber + 1, line, fault.spanIn (contentWords line)⟩) := by
  rcases h with ⟨hphase, hwords, h⟩ | ⟨hphase, hwords, h⟩
  · obtain ⟨first, rest, heq⟩ := List.exists_cons_of_ne_nil hwords
    exact ⟨_, by simp [Phase.faultOf?, hphase, heq, h], rfl⟩
  · exact ⟨_, by simp [Phase.faultOf?, hphase, hwords, h], rfl⟩

/-- **The answer to a line depends on the line, its number and the phase alone.** -/
theorem answer_eq_answerTo (d : Draft) (line : Text) :
    (d.accept line).outcome.map (fun _ ↦ ()) =
      answerTo (d.lineNumber + 1) line (d.phase.faultOf? line) := by
  rcases d.accepts_or_refuses line with ⟨d', h⟩ | ⟨e, h⟩
  · rw [h.outcome_eq, h.faultOf?_eq]
    rfl
  · obtain ⟨fault, hfault, rfl⟩ := h.exists_faultOf?_eq
    rw [h.outcome_eq, hfault]
    rfl

/-- The answer at an index is the one that the draft after the lines before it gives. -/
theorem getElem?_answers (h : ls[k]? = some line) :
    (d.answers ls)[k]? =
      some (((d.afterAll (ls.take k)).accept line).outcome.map fun _ ↦ ()) := by
  induction ls generalizing d k with
  | nil => simp at h
  | cons first ls ih =>
    cases k with
    | zero =>
      obtain rfl : first = line := by simpa using h
      rfl
    | succ k => exact ih (d := d.after first) (by simpa using h)

/-- An answer does not depend on the lines after it. -/
theorem answers_take (d : Draft) (ls : List Text) (k : Nat) :
    d.answers (ls.take k) = (d.answers ls).take k := by
  induction ls generalizing d k with
  | nil => simp [answers]
  | cons line ls ih =>
    cases k with
    | zero => rfl
    | succ k =>
      rw [List.take_succ_cons, answers, answers, List.take_succ_cons, ih]

/-- Where there is an answer there is a line. -/
theorem exists_getElem?_of_answers {a : Except Failure Unit} (h : (d.answers ls)[k]? = some a) :
    ∃ line, ls[k]? = some line := by
  induction ls generalizing d k with
  | nil => exact absurd h (by simp [answers])
  | cons first ls ih =>
    cases k with
    | zero => exact ⟨first, rfl⟩
    | succ k => exact ih (d := d.after first) h

theorem afterAll_take_succ (h : ls[k]? = some line) :
    d.afterAll (ls.take (k + 1)) = (d.afterAll (ls.take k)).after line := by
  rw [List.take_add_one, h, Option.toList_some, afterAll_append]
  rfl

/-- A line is read when as many lines have been counted as there are before it. -/
theorem lineNumber_afterAll_take (h : ls[k]? = some line) :
    (start.afterAll (ls.take k)).lineNumber = k := by
  have hk : k < ls.length := (List.getElem?_eq_some_iff.1 h).1
  rw [lineNumber_afterAll, List.length_take, Nat.min_eq_left (Nat.le_of_lt hk)]
  exact Nat.zero_add k

/-- A line without a failure for an answer is accepted by the draft that it meets. -/
theorem exists_accepts_of_answer_ok (h : ls[k]? = some line)
    (hanswer : (d.answers ls)[k]? = some (.ok ())) :
    ∃ d', (d.afterAll (ls.take k)).Accepts line d' := by
  rw [getElem?_answers h] at hanswer
  rcases (d.afterAll (ls.take k)).accepts_or_refuses line with hline | ⟨e, hline⟩
  · exact hline
  · rw [hline.outcome_eq] at hanswer
    exact absurd hanswer (by simp [Except.map])

/-- A line that gets a failure for an answer is refused with it by the draft that it meets. -/
theorem refuses_of_answer_error (h : ls[k]? = some line) {e : Failure}
    (hanswer : (d.answers ls)[k]? = some (.error e)) :
    (d.afterAll (ls.take k)).Refuses line e := by
  rw [getElem?_answers h] at hanswer
  rcases (d.afterAll (ls.take k)).accepts_or_refuses line with ⟨d', hline⟩ | ⟨e', hline⟩
  · rw [hline.outcome_eq] at hanswer
    exact absurd hanswer (by simp [Except.map])
  · rw [hline.outcome_eq] at hanswer
    obtain rfl : e' = e := by simpa [Except.map] using hanswer
    exact hline

/-- A line that fails or has no word is only counted. -/
theorem afterAll_take_succ_eq_countLine (hline : ls[k]? = some line)
    (h : contentWords line = [] ∨ ∃ e, (d.answers ls)[k]? = some (.error e)) :
    d.afterAll (ls.take (k + 1)) = (d.afterAll (ls.take k)).countLine := by
  rw [afterAll_take_succ hline]
  rcases h with hwords | ⟨e, hanswer⟩
  · exact (Accepts.blank hwords).after_eq
  · exact (refuses_of_answer_error hline hanswer).after_eq

/-! ### The line that is the header -/

/-- The line with the index `k` is accepted as the header: the header is awaited, the line has
content and does not fail. -/
structure HeaderAt (d : Draft) (ls : List Text) (k : Nat) : Prop where
  phase : (d.afterAll (ls.take k)).phase = .awaitingHeader
  content : ∃ line, ls[k]? = some line ∧ contentWords line ≠ []
  answer : (d.answers ls)[k]? = some (.ok ())

theorem HeaderAt.lt_length (h : d.HeaderAt ls k) : k < ls.length := by
  obtain ⟨line, hline, -⟩ := h.content
  exact (List.getElem?_eq_some_iff.1 hline).1

/-- The line that is accepted as the header is the header. -/
theorem HeaderAt.isHeader (h : d.HeaderAt ls k) : ∃ line, ls[k]? = some line ∧ IsHeader line := by
  obtain ⟨line, hline, hwords⟩ := h.content
  obtain ⟨d', haccepts⟩ := exists_accepts_of_answer_ok hline h.answer
  exact ⟨line, hline, ((accepts_iff_of_awaitingHeader h.phase hwords).1 haccepts).1⟩

/-- A header is accepted as such while it is awaited. -/
theorem headerAt_of_isHeader (hphase : (d.afterAll (ls.take k)).phase = .awaitingHeader)
    (hline : ls[k]? = some line) (h : IsHeader line) : d.HeaderAt ls k where
  phase := hphase
  content := ⟨line, hline, contentWords_ne_nil_of_isHeader h⟩
  answer := by
    rw [getElem?_answers hline, (Accepts.header hphase h).outcome_eq]
    rfl

/-- **The phase is `body` once a line was accepted as the header.** -/
theorem phase_afterAll_take_eq_body_iff (hd : d.phase = .awaitingHeader) (ls : List Text)
    (k : Nat) : (d.afterAll (ls.take k)).phase = .body ↔ ∃ j < k, d.HeaderAt ls j := by
  induction k with
  | zero =>
    have hphase : ¬d.phase = .body := by simp [hd]
    simpa [afterAll] using hphase
  | succ k ih =>
    simp only [Nat.lt_succ_iff_lt_or_eq, or_and_right, exists_or, exists_eq_left, ← ih]
    rcases hline : ls[k]? with - | line
    · -- there are no more lines, and so no other header
      have hheader : ¬d.HeaderAt ls k := by
        intro h
        obtain ⟨line, hline', -⟩ := h.content
        exact absurd (hline.symm.trans hline') (by simp)
      simp [List.take_add_one, hline, hheader]
    · rw [afterAll_take_succ hline, phase_after_eq_body_iff]
      constructor
      · rintro (hphase | hheader)
        · exact .inl hphase
        · cases hphase : (d.afterAll (ls.take k)).phase with
          | body => exact .inl rfl
          | awaitingHeader => exact .inr (headerAt_of_isHeader hphase hline hheader)
      · rintro (hphase | hheader)
        · exact .inl hphase
        · obtain ⟨line', hline', hheader⟩ := hheader.isHeader
          obtain rfl : line = line' := Option.some.inj (hline.symm.trans hline')
          exact .inr hheader

/-- The header is missing at the end if no line was accepted as one. -/
theorem outcome_complete_afterAll_start_iff (ls : List Text) :
    (start.afterAll ls).complete.outcome = .error (.source .missingHeader none) ↔
      ¬∃ k, start.HeaderAt ls k := by
  have hbody := phase_afterAll_take_eq_body_iff (d := start) rfl ls ls.length
  rw [List.take_length] at hbody
  have hlt : (∃ k, start.HeaderAt ls k) ↔ ∃ k < ls.length, start.HeaderAt ls k :=
    ⟨fun ⟨k, h⟩ ↦ ⟨k, h.lt_length, h⟩, fun ⟨k, _, h⟩ ↦ ⟨k, h⟩⟩
  rw [outcome_complete_eq_error_iff, hlt, ← hbody]
  cases (start.afterAll ls).phase <;> simp

/-- As long as no line is the header, the next one is read as the header. -/
theorem getElem?_answers_concat (h : ∀ l ∈ ls, ¬IsHeader l) (line : Text) :
    (start.answers (ls ++ [line]))[ls.length]? =
      some (answerTo (ls.length + 1) line (Phase.awaitingHeader.faultOf? line)) := by
  have hphase : (start.afterAll ls).phase = .awaitingHeader := by
    have hbody : (start.afterAll ls).phase ≠ .body := by
      rw [ne_eq, phase_afterAll_eq_body_iff]
      rintro (hstart | ⟨l, hl, hheader⟩)
      · exact absurd hstart (by decide)
      · exact h l hl hheader
    cases heq : (start.afterAll ls).phase with
    | awaitingHeader => rfl
    | body => exact absurd heq hbody
  rw [getElem?_answers List.getElem?_concat_length, List.take_left, answer_eq_answerTo, hphase,
    lineNumber_afterAll]
  exact congrArg (fun n ↦ some (answerTo (n + 1) line _)) (Nat.zero_add _)

/-! ### The lines that count -/

/-- Those of the lines that have content and are accepted, when reading goes on after failures. -/
def acceptedLines (d : Draft) (ls : List Text) : List Text :=
  ((ls.zip (d.answers ls)).filter fun p ↦ contentWords p.1 ≠ [] ∧ p.2.isOk).map (·.1)

example : start.acceptedLines ["BREAK".toList, ".IPPcode24 #".toList, [], "ADD".toList,
    "BREAK".toList] = [".IPPcode24 #".toList, "BREAK".toList] := by decide +kernel

/-- The drafts agree in all but the number of lines. -/
structure Agrees (d d' : Draft) : Prop where
  phase : d.phase = d'.phase
  statements : d.statements = d'.statements

theorem Agrees.refl (d : Draft) : d.Agrees d := ⟨rfl, rfl⟩

theorem Agrees.countLine_left (h : d.Agrees d') : d.countLine.Agrees d' := ⟨h.phase, h.statements⟩

/-- A line is accepted by both of two drafts that agree, and the drafts after it agree. -/
theorem Accepts.exists_agrees (hline : d.Accepts line d₁) (h : d.Agrees d') :
    ∃ d₁', d'.Accepts line d₁' ∧ d₁.Agrees d₁' := by
  obtain ⟨hphase, hstatements⟩ := h
  rcases hline with hwords | ⟨hawaiting, hheader⟩ | ⟨hbody, hi⟩
  · exact ⟨_, .blank hwords, hphase, hstatements⟩
  · exact ⟨_, .header (hphase.symm.trans hawaiting) hheader, rfl, hstatements⟩
  · refine ⟨_, .instruction (hphase.symm.trans hbody) hi, hphase, ?_⟩
    simp [withInstruction, hstatements]

/-- The number of lines does not matter to the program. -/
theorem Agrees.outcome_complete (h : d.Agrees d') : d.complete.outcome = d'.complete.outcome := by
  obtain ⟨hphase, hstatements⟩ := h
  cases hbody : d.phase with
  | awaitingHeader =>
    rw [outcome_complete_awaitingHeader hbody,
      outcome_complete_awaitingHeader (hphase.symm.trans hbody)]
  | body =>
    rw [outcome_complete_body hbody, outcome_complete_body (hphase.symm.trans hbody), hstatements]

theorem acceptedLines_cons_of_accepts (hline : d.Accepts line d') (hwords : contentWords line ≠ [])
    (ls : List Text) : d.acceptedLines (line :: ls) = line :: d'.acceptedLines ls := by
  rw [acceptedLines, answers, hline.outcome_eq, hline.after_eq, List.zip_cons_cons,
    List.filter_cons_of_pos (by simp [hwords, Except.map, Except.toBool])]
  rfl

theorem acceptedLines_cons_of_eq_nil (hwords : contentWords line = []) (ls : List Text) :
    d.acceptedLines (line :: ls) = d.countLine.acceptedLines ls := by
  rw [acceptedLines, answers, (Accepts.blank hwords).after_eq, List.zip_cons_cons,
    List.filter_cons_of_neg (by simp [hwords])]
  rfl

theorem acceptedLines_cons_of_refuses {e : Failure} (hline : d.Refuses line e) (ls : List Text) :
    d.acceptedLines (line :: ls) = d.countLine.acceptedLines ls := by
  rw [acceptedLines, answers, hline.outcome_eq, hline.after_eq, List.zip_cons_cons,
    List.filter_cons_of_neg (by simp [Except.map, Except.toBool])]
  rfl

/-- **The lines that count are read without a failure**, and to the same end as all the lines. -/
theorem exists_agrees_afterAll (h : d.Agrees d') (ls : List Text) :
    ∃ d₁, (d'.acceptAll (d.acceptedLines ls)).outcome = .ok d₁ ∧ (d.afterAll ls).Agrees d₁ := by
  induction ls generalizing d d' with
  | nil => exact ⟨d', rfl, h⟩
  | cons line ls ih =>
    show ∃ d₁, _ ∧ ((d.after line).afterAll ls).Agrees d₁
    rcases d.accepts_or_refuses line with ⟨dnext, hline⟩ | ⟨e, hline⟩
    · by_cases hwords : contentWords line = []
      · rw [(Accepts.blank hwords).after_eq, acceptedLines_cons_of_eq_nil hwords]
        exact ih h.countLine_left
      · obtain ⟨dnext', hline', hagrees⟩ := hline.exists_agrees h
        obtain ⟨d₁, hrun, hend⟩ := ih hagrees
        rw [hline.after_eq, acceptedLines_cons_of_accepts hline hwords]
        exact ⟨d₁, outcome_acceptAll_cons_eq_ok_iff.2 ⟨dnext', hline', hrun⟩, hend⟩
    · rw [hline.after_eq, acceptedLines_cons_of_refuses hline]
      exact ih h.countLine_left

/-! ### All together -/

/-- What becomes of the lines that a new draft is fed, where reading goes on after failures. -/
structure ReadsOn (ls : List Text) : Prop where
  /-- These are the answers and the states of a draft that is kept and changed in place. -/
  inPlace : ∀ k, feedAll (ls.take k) start =
    ((start.answers ls).take k, start.afterAll (ls.take k))
  /-- A line that fails or has no word is counted, and nothing else changes. -/
  unchanged : ∀ (k : Nat) line, ls[k]? = some line →
    (contentWords line = [] ∨ ∃ e, (start.answers ls)[k]? = some (.error e)) →
    start.afterAll (ls.take (k + 1)) = (start.afterAll (ls.take k)).countLine
  /-- The answer to a line depends on the line and on whether the header was accepted before, but
  for the number of the line, which is its place among the lines. -/
  answer : ∀ (k : Nat) line, ls[k]? = some line → ∃ phase : Phase,
    (phase = .body ↔ ∃ j < k, start.HeaderAt ls j) ∧
    (start.answers ls)[k]? = some (answerTo (k + 1) line (phase.faultOf? line))
  /-- The lines that are accepted and have content do not fail when they are read alone. -/
  acceptedLines : (start.acceptAll (start.acceptedLines ls)).outcome =
    .ok (start.afterAll (start.acceptedLines ls))
  /-- They bring the same program, or its failure, as all the lines. -/
  complete : (start.afterAll ls).complete.outcome =
    (start.afterAll (start.acceptedLines ls)).complete.outcome
  /-- The header is still awaited after a line that was refused as the header. -/
  awaitingHeader : ∀ (k : Nat) e, (start.afterAll (ls.take k)).phase = .awaitingHeader →
    (start.answers ls)[k]? = some (.error e) →
    (start.afterAll (ls.take (k + 1))).phase = .awaitingHeader
  /-- The header is missing if no line was accepted as the header. -/
  missingHeader : (start.afterAll ls).complete.outcome = .error (.source .missingHeader none) ↔
    ¬∃ k, start.HeaderAt ls k

/-- **Reading goes on after failures as if the lines that fail had no content.** -/
theorem readsOn (ls : List Text) : ReadsOn ls where
  inPlace k := by rw [feedAll_apply, answers_take]
  unchanged _ _ := afterAll_take_succ_eq_countLine
  answer k line hline := by
    refine ⟨_, phase_afterAll_take_eq_body_iff rfl ls k, ?_⟩
    rw [getElem?_answers hline, answer_eq_answerTo, lineNumber_afterAll_take hline]
  acceptedLines := by
    obtain ⟨d, hrun, -⟩ := exists_agrees_afterAll (Agrees.refl start) ls
    rw [hrun, afterAll_eq_of_outcome_acceptAll hrun]
  complete := by
    obtain ⟨d, hrun, hagrees⟩ := exists_agrees_afterAll (Agrees.refl start) ls
    rw [hagrees.outcome_complete, afterAll_eq_of_outcome_acceptAll hrun]
  awaitingHeader k e hphase hanswer := by
    obtain ⟨line, hline⟩ := exists_getElem?_of_answers hanswer
    rw [afterAll_take_succ_eq_countLine hline (.inr ⟨e, hanswer⟩)]
    exact hphase
  missingHeader := outcome_complete_afterAll_start_iff ls

end Draft

end ThreeAddress
