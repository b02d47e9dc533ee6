import ThreeAddress.Proofs.Draft.Offset
import ThreeAddress.Proofs.Draft.ReadingOn
import ThreeAddress.Proofs.Line.Layout

/-!
# Runs over lines with the same words

What becomes of a line is decided by its words, and what is asked about the first word is asked
without regard to letter case. So two runs end the same way (`SameReading`) when their lines with
content have the same words one by one, but for the letter case of the first word in each. Neither
the lines without content nor the numbers of the lines matter to this.

`sameReading_readAll` is the statement about runs. It goes through the run over the lines with
content alone, which is compared with the first run by leaving out lines and with the second by
going along both.
-/

namespace ThreeAddress

open Text

/-- Two readings end the same way: with the same program, or with the same fault, wherever it is.
The faults of lines that should have been the header may quote different lines. -/
inductive SameReading : Except Failure Program → Except Failure Program → Prop
  | program (p : Program) : SameReading (.ok p) (.ok p)
  | fault (fault : Fault) (place? place'? : Option Location) :
      SameReading (.error (.source fault place?)) (.error (.source fault place'?))
  | incorrectHeader (found found' : Text) (place? place'? : Option Location) :
      SameReading (.error (.source (.incorrectHeader found) place?))
        (.error (.source (.incorrectHeader found') place'?))

namespace SameReading

variable {x y z : Except Failure Program}

theorem symm (h : SameReading x y) : SameReading y x := by
  cases h with
  | program p => exact .program p
  | fault fault place? place'? => exact .fault fault place'? place?
  | incorrectHeader found found' place? place'? =>
    exact .incorrectHeader found' found place'? place?

theorem trans (hxy : SameReading x y) (hyz : SameReading y z) : SameReading x z := by
  cases hxy with
  | program p => exact hyz
  | fault fault place? =>
    cases hyz with
    | fault => exact .fault fault place? _
    | incorrectHeader => exact .incorrectHeader _ _ _ _
  | incorrectHeader =>
    cases hyz with
    | fault => exact .incorrectHeader _ _ _ _
    | incorrectHeader => exact .incorrectHeader _ _ _ _

end SameReading

theorem SameLineWords.symm {ws ws' : List Text} (h : SameLineWords ws ws') :
    SameLineWords ws' ws := by
  cases h with
  | blank => exact .blank
  | content hfirst args => exact .content hfirst.symm args

/-! ### What is asked about the words -/

variable {line line' : Text}

theorem contentTexts_eq_nil_iff : contentTexts line = [] ↔ contentWords line = [] :=
  List.map_eq_nil_iff

/-- A line with the same words as one without content has no content either. -/
theorem contentWords_eq_nil_of_sameLineWords
    (hwords : SameLineWords (contentTexts line) (contentTexts line')) (h : contentWords line = []) :
    contentWords line' = [] := by
  rw [← contentTexts_eq_nil_iff] at h ⊢
  rw [h] at hwords
  generalize contentTexts line' = ws' at hwords
  cases hwords
  rfl

/-- Whether a line is the header can be seen from its words without their places. -/
theorem isHeader_iff_contentTexts :
    IsHeader line ↔ ∃ t, contentTexts line = [t] ∧ t.lower = header.lower := by
  rw [isHeader_iff]
  constructor
  · rintro ⟨w, hw, hlower⟩
    exact ⟨w.text, by rw [contentTexts, hw]; rfl, hlower⟩
  · rintro ⟨t, ht, hlower⟩
    obtain ⟨w, hw, rfl⟩ := List.map_eq_singleton_iff.1 ht
    exact ⟨w, hw, hlower⟩

/-- A line with the same words as a header is a header too. -/
theorem isHeader_of_sameLineWords
    (hwords : SameLineWords (contentTexts line) (contentTexts line')) (h : IsHeader line) :
    IsHeader line' := by
  obtain ⟨t, ht, hlower⟩ := isHeader_iff_contentTexts.1 h
  rw [isHeader_iff_contentTexts]
  rw [ht] at hwords
  generalize contentTexts line' = ws' at hwords
  obtain - | ⟨hfirst, -⟩ := hwords
  exact ⟨_, rfl, hfirst.lower_eq ▸ hlower⟩

/-- An instruction asks its first word for the operation in upper case, and nothing else. -/
theorem Instruction.read_eq_of_upper_eq {word word' : Text} (h : word.upper = word'.upper)
    (tokens : List Text) : read word tokens = read word' tokens := by
  simp only [read, Opcode.ofWord, Opcode.ofWord?, h]

/-- Lines with the same words are read as the same instruction, or fail with the same fault. -/
theorem exists_read_eq_of_sameLineWords
    (hwords : SameLineWords (contentTexts line) (contentTexts line')) {first : Word}
    {rest : List Word} (h : contentWords line = first :: rest) :
    ∃ first' rest', contentWords line' = first' :: rest' ∧
      Instruction.read first'.text (rest'.map (·.text)) =
        Instruction.read first.text (rest.map (·.text)) := by
  have htexts : contentTexts line = first.text :: rest.map (·.text) := by
    rw [contentTexts, h, List.map_cons]
  rw [htexts] at hwords
  generalize htexts' : contentTexts line' = ws' at hwords
  obtain - | ⟨hfirst, -⟩ := hwords
  obtain ⟨first', rest', hwords', rfl, hrest⟩ := List.map_eq_cons_iff.1 htexts'
  refine ⟨first', rest', hwords', ?_⟩
  rw [hrest, Instruction.read_eq_of_upper_eq hfirst.upper_eq]

namespace Draft

variable {d d' d₁ : Draft} {ls ls' : List Text} {e : Failure}

/-! ### One line -/

/-- A draft accepts a line for its words. -/
theorem Accepts.of_sameLineWords (h : d.Accepts line d₁)
    (hwords : SameLineWords (contentTexts line) (contentTexts line')) : d.Accepts line' d₁ := by
  rcases h with hblank | ⟨hphase, hheader⟩ | ⟨hphase, first, rest, hline, hread⟩
  · exact .blank (contentWords_eq_nil_of_sameLineWords hwords hblank)
  · exact .header hphase (isHeader_of_sameLineWords hwords hheader)
  · obtain ⟨first', rest', hline', heq⟩ := exists_read_eq_of_sameLineWords hwords hline
    exact .instruction hphase ⟨first', rest', hline', heq ▸ hread⟩

/-- A draft that refuses a line refuses one with the same words for the same fault, and so does a
draft that agrees with it. -/
theorem Refuses.exists_sameReading (h : d.Refuses line e) (hagrees : d.Agrees d')
    (hwords : SameLineWords (contentTexts line) (contentTexts line')) :
    ∃ e', d'.Refuses line' e' ∧ SameReading (.error e) (.error e') := by
  rcases h with ⟨hphase, hline, hheader⟩ | ⟨hphase, hline, hread⟩
  · have hphase' : d'.phase = .awaitingHeader := hagrees.phase.symm.trans hphase
    refine ⟨_, .header hphase' (fun hnil ↦ hline ?_) (fun h ↦ hheader ?_),
      .incorrectHeader _ _ _ _⟩
    · exact contentWords_eq_nil_of_sameLineWords hwords.symm hnil
    · exact isHeader_of_sameLineWords hwords.symm h
  · have hphase' : d'.phase = .body := hagrees.phase.symm.trans hphase
    obtain ⟨first', rest', hline', heq⟩ := exists_read_eq_of_sameLineWords hwords hline
    exact ⟨_, .instruction hphase' hline' (heq ▸ hread), .fault _ _ _⟩

/-! ### Any number of lines -/

theorem Accepts.readAll_cons (h : d.Accepts line d₁) (ls : List Text) :
    d.readAll (line :: ls) = d₁.readAll ls := by
  rw [readAll, h.outcome_acceptAll_cons]
  rfl

theorem Refuses.readAll_cons (h : d.Refuses line e) (ls : List Text) :
    d.readAll (line :: ls) = .error e := by
  rw [readAll, h.outcome_acceptAll_cons]
  rfl

/-- Drafts that agree are completed alike. -/
theorem Agrees.sameReading_complete (h : d.Agrees d') :
    SameReading d.complete.outcome d'.complete.outcome := by
  rw [← h.outcome_complete]
  cases hphase : d.phase with
  | awaitingHeader =>
    rw [outcome_complete_awaitingHeader hphase]
    exact .fault _ _ _
  | body =>
    rw [outcome_complete_body hphase]
    exact .program _

/-- Two runs that go on the same way after their first lines end the same way, if these have the
same words. -/
theorem sameReading_readAll_cons (hagrees : d.Agrees d')
    (hwords : SameLineWords (contentTexts line) (contentTexts line'))
    (hrest : ∀ d d' : Draft, d.Agrees d' → SameReading (d.readAll ls) (d'.readAll ls')) :
    SameReading (d.readAll (line :: ls)) (d'.readAll (line' :: ls')) := by
  rcases d.accepts_or_refuses line with ⟨d₁, hline⟩ | ⟨e, hline⟩
  · obtain ⟨d₁', hline', hagrees₁⟩ := hline.exists_agrees hagrees
    rw [hline.readAll_cons, (hline'.of_sameLineWords hwords).readAll_cons]
    exact hrest d₁ d₁' hagrees₁
  · obtain ⟨e', hline', hsame⟩ := hline.exists_sameReading hagrees hwords
    rwa [hline.readAll_cons, hline'.readAll_cons]

/-- The lines without content can be left out. -/
theorem sameReading_readAll_contentLines (hagrees : d.Agrees d') (ls : List Text) :
    SameReading (d.readAll ls) (d'.readAll (contentLines ls)) := by
  induction ls generalizing d d' with
  | nil => exact hagrees.sameReading_complete
  | cons line ls ih =>
    by_cases hline : contentWords line = []
    · rw [(Accepts.blank hline).readAll_cons, contentLines_cons_of_eq_nil hline]
      exact ih hagrees.countLine_left
    · rw [contentLines_cons_of_ne_nil hline]
      exact sameReading_readAll_cons hagrees (.refl _) fun _ _ ↦ ih

/-- Lines that have the same words one by one are read to the same end. -/
theorem sameReading_readAll_of_forall₂ (hagrees : d.Agrees d')
    (h : List.Forall₂ (fun l l' ↦ SameLineWords (contentTexts l) (contentTexts l')) ls ls') :
    SameReading (d.readAll ls) (d'.readAll ls') := by
  induction h generalizing d d' with
  | nil => exact hagrees.sameReading_complete
  | cons hline _ ih => exact sameReading_readAll_cons hagrees hline fun _ _ ↦ ih

/-- **Runs end the same way when the words are the same**, but for the letter case of the first word
of each line. -/
theorem sameReading_readAll (d : Draft)
    (h : List.Forall₂ SameLineWords ((contentLines ls).map contentTexts)
      ((contentLines ls').map contentTexts)) : SameReading (d.readAll ls) (d.readAll ls') := by
  have hlines := sameReading_readAll_of_forall₂ (.refl d)
    (List.forall₂_map_right_iff.1 (List.forall₂_map_left_iff.1 h))
  exact ((sameReading_readAll_contentLines (.refl d) ls).trans hlines).trans
    (sameReading_readAll_contentLines (.refl d) ls').symm

end Draft

end ThreeAddress
