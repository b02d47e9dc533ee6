import Mathlib.Data.List.Infix
import ThreeAddress.Diagnostic.Report
import ThreeAddress.Proofs.Diagnostic.Marked
import ThreeAddress.Proofs.Text.Joined

/-!
# The title of a diagnostic

The title has the message in it, but not always all of it. Two underscores side by side separate two
pieces of a title and are not shown, wherever in the message they stand. `CutAtDoubles` says which
pieces a message has, and `splitUnderscores_eq_iff` that there is one way only to cut it into them;
so the title is the message just where the message has no two underscores side by side
(`flatten_splitUnderscores_eq_iff`).

The wording of a message has no underscore, so what is lost in the title was quoted from the source.
A token or a name in which underscores stand side by side is shown without them.
-/

namespace ThreeAddress

open Text

/-- The text up to its first line feed. -/
def Text.firstRow (t : Text) : Text := t.takeWhile (· != '\n')

/-- Of rows set under each other the first is shown first. -/
theorem Text.firstRow_intercalate {t : Text} (h : '\n' ∉ t) (ts : List Text) :
    firstRow (List.intercalate ['\n'] (t :: ts)) = t := by
  have hall : ∀ c ∈ t, (c != '\n') = true := fun c hc ↦ bne_iff_ne.2 fun heq ↦ h (heq ▸ hc)
  cases ts with
  | nil => rw [List.intercalate_singleton, firstRow, List.takeWhile_eq_self_iff.2 hall]
  | cons u ts =>
    rw [List.intercalate_cons_cons, firstRow, List.append_assoc, List.takeWhile_append_of_pos hall,
      List.singleton_append, List.takeWhile_cons_of_neg (by simp), List.append_nil]

namespace Diagnostic

/-! ### Cutting at double underscores -/

/-- What separates two pieces of a title. -/
def doubleUnderscore : Text := ['_', '_']

/-- The text consists of the pieces with a double underscore between two of them. The cuts are made
from the left, so that a piece is not followed by an underscore with which the double one could
begin earlier. -/
inductive CutAtDoubles : Text → List Text → Prop
  | last {piece : Text} (h : ¬doubleUnderscore <:+: piece) : CutAtDoubles piece [piece]
  | piece {piece t : Text} {ps : List Text} (h : ¬doubleUnderscore <:+: piece ++ ['_'])
      (ht : CutAtDoubles t ps) : CutAtDoubles (piece ++ doubleUnderscore ++ t) (piece :: ps)

variable {c : Char} {t piece : Text} {ps : List Text}

/-- Two underscores stand at the front of a text or further on. -/
theorem doubleUnderscore_infix_cons_iff : doubleUnderscore <:+: c :: t ↔
    (c = '_' ∧ t.head? = some '_') ∨ doubleUnderscore <:+: t := by
  have hprefix : doubleUnderscore <+: c :: t ↔ c = '_' ∧ t.head? = some '_' := by
    cases t <;> simp [doubleUnderscore, eq_comm]
  rw [List.infix_cons_iff, hprefix]

/-- A character that is no half of a double underscore is put in front of the first piece. -/
theorem splitUnderscores_cons (hc : c = '_' → t.head? ≠ some '_') :
    splitUnderscores (c :: t) = (splitUnderscores t).modifyHead (c :: ·) := by
  rw [splitUnderscores]
  rintro t' rfl rfl
  exact hc rfl rfl

/-- Without two underscores beside each other there is one piece, which is the whole. -/
theorem splitUnderscores_eq_singleton (h : ¬doubleUnderscore <:+: t) :
    splitUnderscores t = [t] := by
  induction t with
  | nil => rfl
  | cons c t ih =>
    rw [doubleUnderscore_infix_cons_iff, not_or] at h
    rw [splitUnderscores_cons fun hc hhead ↦ h.1 ⟨hc, hhead⟩, ih h.2]
    rfl

/-- The first double underscore ends the first piece. -/
theorem splitUnderscores_append (h : ¬doubleUnderscore <:+: piece ++ ['_']) (t : Text) :
    splitUnderscores (piece ++ doubleUnderscore ++ t) = piece :: splitUnderscores t := by
  induction piece with
  | nil => rfl
  | cons c piece ih =>
    rw [List.cons_append, doubleUnderscore_infix_cons_iff, not_or] at h
    have hhead : (piece ++ doubleUnderscore ++ t).head? = (piece ++ ['_']).head? := by
      cases piece <;> rfl
    rw [List.cons_append, List.cons_append, splitUnderscores_cons, ih h.2, List.modifyHead_cons]
    rw [hhead]
    exact fun hc hunderscore ↦ h.1 ⟨hc, hunderscore⟩

/-- A cut of a text is also one of the text with a further character in its first piece. -/
theorem CutAtDoubles.cons (hc : c = '_' → t.head? ≠ some '_') (h : CutAtDoubles t ps) :
    CutAtDoubles (c :: t) (ps.modifyHead (c :: ·)) := by
  cases h with
  | last h =>
    refine .last fun hinfix ↦ ?_
    rcases doubleUnderscore_infix_cons_iff.1 hinfix with ⟨rfl, hhead⟩ | hinfix
    · exact hc rfl hhead
    · exact h hinfix
  | @piece piece t ps h ht =>
    have hhead : (piece ++ doubleUnderscore ++ t).head? = (piece ++ ['_']).head? := by
      cases piece <;> rfl
    refine @CutAtDoubles.piece (c :: piece) t ps (fun hinfix ↦ ?_) ht
    rcases doubleUnderscore_infix_cons_iff.1 hinfix with ⟨rfl, hunderscore⟩ | hinfix
    · exact hc rfl (hhead ▸ hunderscore)
    · exact h hinfix

/-- The pieces of the title are cut at the underscores that are described, from the left. -/
theorem cutAtDoubles_splitUnderscores (t : Text) : CutAtDoubles t (splitUnderscores t) := by
  fun_induction splitUnderscores t with
  | case1 => exact .last (by decide)
  | case2 t ih => exact @CutAtDoubles.piece [] t _ (by decide) ih
  | case3 c t hc ih =>
    refine ih.cons ?_
    rintro rfl hhead
    obtain ⟨t', rfl⟩ := List.head?_eq_some_iff.1 hhead
    exact hc t' rfl rfl

/-- **Every text is cut at its double underscores in exactly one way.** -/
theorem splitUnderscores_eq_iff : splitUnderscores t = ps ↔ CutAtDoubles t ps := by
  constructor
  · rintro rfl
    exact cutAtDoubles_splitUnderscores t
  · intro h
    induction h with
    | last h => exact splitUnderscores_eq_singleton h
    | piece h _ ih => rw [splitUnderscores_append h, ih]

/-! ### What is shown -/

/-- Nothing but double underscores is lost. -/
theorem CutAtDoubles.length_flatten (h : CutAtDoubles t ps) :
    ps.flatten.length + 2 * (ps.length - 1) = t.length := by
  induction h with
  | last => simp
  | @piece piece t ps _ ht ih =>
    have hne : 0 < ps.length := by cases ht <;> simp
    simp only [List.flatten_cons, List.length_append, List.length_cons, doubleUnderscore,
      List.length_nil]
    omega

/-- What is left in the pieces was in the text. -/
theorem CutAtDoubles.mem_of_mem_flatten (h : CutAtDoubles t ps) (hc : c ∈ ps.flatten) : c ∈ t := by
  induction h with
  | last => simpa using hc
  | piece _ _ ih =>
    rcases List.mem_append.1 (List.flatten_cons ▸ hc) with hpiece | hrest
    · simp [hpiece]
    · simp [ih hrest]

/-- Nothing but underscores is lost. -/
theorem CutAtDoubles.mem_flatten (h : CutAtDoubles t ps) (hc : c ∈ t) (hne : c ≠ '_') :
    c ∈ ps.flatten := by
  induction h with
  | last => simpa using hc
  | @piece piece t ps _ _ ih =>
    have hmem : c ∈ piece ∨ c ∈ doubleUnderscore ∨ c ∈ t := by simpa using hc
    rcases hmem with hpiece | hdouble | ht
    · simp [hpiece]
    · exact absurd hdouble (by simp [doubleUnderscore, hne])
    · exact List.mem_append_right _ (ih ht)

/-- **All of a text is shown just where it has no two underscores side by side.** -/
theorem flatten_splitUnderscores_eq_iff :
    (splitUnderscores t).flatten = t ↔ ¬doubleUnderscore <:+: t := by
  refine ⟨fun h ↦ ?_, fun h ↦ by simp [splitUnderscores_eq_singleton h]⟩
  have hcut := cutAtDoubles_splitUnderscores t
  have hlength := hcut.length_flatten
  rw [h] at hlength
  generalize splitUnderscores t = ps at hcut hlength
  cases hcut with
  | last hnot => exact hnot
  | @piece _ _ ps _ ht =>
    have hne : 0 < ps.length := by cases ht <;> simp
    rw [List.length_cons] at hlength
    omega

/-- A character that does not begin a double underscore is kept. -/
theorem flatten_splitUnderscores_cons (hc : c = '_' → t.head? ≠ some '_') :
    (splitUnderscores (c :: t)).flatten = c :: (splitUnderscores t).flatten := by
  rw [splitUnderscores_cons hc]
  cases hsplit : splitUnderscores t with
  | nil => exact absurd (hsplit ▸ cutAtDoubles_splitUnderscores t) (by rintro ⟨⟩)
  | cons piece ps => rfl

/-- A wording is shown as it is, before what is quoted and behind it. -/
theorem flatten_splitUnderscores_wording {before after : Text} (hbefore : IsWording before)
    (hafter : IsWording after) (t : Text) : (splitUnderscores (before ++ t ++ after)).flatten =
      before ++ (splitUnderscores t).flatten ++ after := by
  -- an underscore at the end of `t` meets none in `after`, so the cuts are those of `t`
  have hright : (splitUnderscores (t ++ after)).flatten =
      (splitUnderscores t).flatten ++ after := by
    fun_induction splitUnderscores t with
    | case1 =>
      have hnot : ¬doubleUnderscore <:+: after := fun h ↦
        (hafter '_' (h.subset List.mem_cons_self)).1 rfl
      simp [splitUnderscores_eq_singleton hnot]
    | case2 t ih => exact ih
    | case3 c t hc ih =>
      have hcut : c = '_' → t.head? ≠ some '_' := by
        rintro rfl hhead
        obtain ⟨t', rfl⟩ := List.head?_eq_some_iff.1 hhead
        exact hc t' rfl rfl
      have hcut' : c = '_' → (t ++ after).head? ≠ some '_' := by
        intro heq
        cases t with
        | nil => exact fun hhead ↦ (hafter '_' (List.mem_of_mem_head? hhead)).1 rfl
        | cons d t => exact hcut heq
      rw [List.cons_append, flatten_splitUnderscores_cons hcut', ih,
        ← splitUnderscores_cons hcut, flatten_splitUnderscores_cons hcut, List.cons_append]
  induction before with
  | nil => exact hright
  | cons c before ih =>
    obtain ⟨⟨hc, -⟩, hbefore⟩ := List.forall_mem_cons.1 hbefore
    rw [List.cons_append, List.cons_append, flatten_splitUnderscores_cons fun heq ↦ absurd heq hc,
      ih hbefore, List.cons_append, List.cons_append]

/-! ### The title -/

/-- Without colour a row is the text of its pieces. -/
theorem renderRow_false (row : Row) : renderRow false row = row.flatMap (·.text) := rfl

/-- A message of which something is left is shown behind the word for the severity. -/
theorem renderRow_title {message : Text} (hc : c ∈ message) (hne : c ≠ '_') :
    renderRow false (title message) = "error: ".toList ++ (splitUnderscores message).flatten := by
  have hleft : ¬((splitUnderscores message).all List.isEmpty = true) := by
    intro hall
    have hmem := (cutAtDoubles_splitUnderscores message).mem_flatten hc hne
    obtain ⟨piece, hpiece, hc⟩ := List.mem_flatten.1 hmem
    have hempty := List.all_eq_true.1 hall piece hpiece
    rw [List.isEmpty_iff.1 hempty] at hc
    exact absurd hc (by simp)
  rw [renderRow_false, title, if_neg hleft, List.flatMap_cons, List.flatMap_cons,
    List.flatMap_map, List.flatMap_id']
  rfl

/-- The title is one row if the message is. -/
theorem lineFeed_not_mem_title {fault : Fault} (h : '\n' ∉ fault.message) :
    '\n' ∉ renderRow false (title fault.message) := by
  rw [renderRow_title fault.space_mem_message (by decide), List.mem_append, not_or]
  exact ⟨by decide, fun hmem ↦ h ((cutAtDoubles_splitUnderscores _).mem_of_mem_flatten hmem)⟩

/-- **The title of a message without a line feed is the first row of the diagnostic.** -/
theorem firstRow_render {fault : Fault} (h : '\n' ∉ fault.message) (place? : Option Location) :
    ((Failure.source fault place?).render none false).firstRow =
      "error: ".toList ++ (splitUnderscores fault.message).flatten := by
  have hrow := lineFeed_not_mem_title h
  rw [← renderRow_title fault.space_mem_message (by decide)]
  cases place? with
  | none => exact firstRow_intercalate hrow []
  | some place =>
    exact firstRow_intercalate hrow ((placedRows none place fault.label).map (renderRow false))

end Diagnostic

/-! ### Failures of a source -/

open Diagnostic

/-- A source fails because it has no header, or because one of its lines is refused. -/
theorem Program.exists_refuses_of_ofSource {source : Text} {e : Failure}
    (h : ofSource source = .error e) : e = .source .missingHeader none ∨
      ∃ (d : Draft) (line : Text), Unbroken line ∧ d.Refuses line e := by
  rcases Logged.outcome_bind_eq_error_iff.1 h with hrun | ⟨d, -, hcomplete⟩
  · obtain ⟨before, line, after, d, hlines, -, hline⟩ :=
      Draft.outcome_acceptAll_eq_error_iff.1 hrun
    obtain ⟨first, rest, heq, hjoined⟩ := exists_isJoined source
    refine .inr ⟨d, line, hjoined.unbroken line ?_, hline⟩
    rw [← heq, hlines]
    exact List.mem_append_right _ List.mem_cons_self
  · exact .inl (Draft.outcome_complete_eq_error_iff.1 hcomplete).2

/-- How the title of a diagnostic shows the message of a failure: the wording as it is, and what is
quoted in pieces. -/
structure Failure.ShowsMessage (e : Failure) (fault : Fault) (before after : Text)
    (pieces : List Text) : Prop where
  fault_eq : e.fault? = some fault
  /-- The message quotes something between two parts of its wording. -/
  message_eq : e.message = before ++ fault.quoted ++ after
  /-- What it quotes is the text that the failure marks, in upper case where it names an
  operation. -/
  quoted : ∀ place, e.location? = some place →
    ∃ marked, place.line.slice? place.span = some marked ∧ fault.quoted = fault.quotedOf marked
  /-- It is cut at the double underscores. -/
  cut : CutAtDoubles fault.quoted pieces
  /-- The title shows the pieces one behind the other. -/
  title : (e.render none false).firstRow = "error: ".toList ++ (before ++ pieces.flatten ++ after)
  /-- It shows the message character for character if what is quoted has no double underscore. -/
  verbatim : (e.render none false).firstRow = "error: ".toList ++ e.message ↔
    ¬doubleUnderscore <:+: fault.quoted

/-- As soon as what a fault quotes is the text at its place, the title shows its message but for
double underscores. -/
theorem Failure.exists_showsMessage {fault : Fault} {place? : Option Location}
    (h : '\n' ∉ fault.message)
    (hquoted : ∀ place, place? = some place → ∃ marked,
      place.line.slice? place.span = some marked ∧ fault.quoted = fault.quotedOf marked) :
    ∃ before after pieces, (source fault place?).ShowsMessage fault before after pieces := by
  obtain ⟨before, after, hmessage, hbefore, hafter⟩ := fault.exists_message_eq
  have htitle := firstRow_render h place?
  rw [hmessage, flatten_splitUnderscores_wording hbefore hafter] at htitle
  refine ⟨before, after, splitUnderscores fault.quoted, rfl, hmessage, hquoted,
    cutAtDoubles_splitUnderscores _, htitle, ?_⟩
  rw [htitle, ← flatten_splitUnderscores_eq_iff]
  show _ = "error: ".toList ++ fault.message ↔ _
  rw [hmessage, List.append_cancel_left_eq, List.append_cancel_right_eq,
    List.append_cancel_left_eq]

namespace Program

/-- **The title of a diagnostic shows the message but for its double underscores**, and a message
has these only in what it quotes from the source. -/
theorem showsMessage_of_ofSource_eq_error {source : Text} {e : Failure}
    (h : ofSource source = .error e) :
    ∃ fault before after pieces, e.ShowsMessage fault before after pieces := by
  rcases exists_refuses_of_ofSource h with rfl | ⟨d, line, hline, hrefuses⟩
  · exact ⟨.missingHeader, Failure.exists_showsMessage (by decide) (by simp)⟩
  · obtain ⟨fault, span, before, inside, after, rfl, hmarks⟩ := hrefuses.exists_marked
    refine ⟨fault, Failure.exists_showsMessage
      (hmarks.lineFeed_not_mem_message fun hmem ↦ (hline _ hmem).2 rfl) ?_⟩
    rintro place ⟨⟩
    refine ⟨inside, slice?_eq_some_iff.2 ⟨before, after, hmarks.line_eq, ?_, ?_⟩,
      hmarks.quoted_eq⟩
    · rw [hmarks.span_eq]
    · rw [hmarks.span_eq]

/-- A token that is no operand, with five underscores: one of them is shown. -/
theorem showsMessage_five_underscores :
    ofSource ".IPPcode24\nWRITE 1_____2".toList = .error (.source (.invalidOperand "1_____2".toList)
        (some ⟨2, "WRITE 1_____2".toList, 6, 13⟩)) ∧
      (∃ fault before after pieces, (Failure.source (.invalidOperand "1_____2".toList)
        (some ⟨2, "WRITE 1_____2".toList, 6, 13⟩)).ShowsMessage fault before after pieces) ∧
      ((Failure.source (.invalidOperand "1_____2".toList)
        (some ⟨2, "WRITE 1_____2".toList, 6, 13⟩)).render none false).firstRow =
        "error: `1_2` is not a valid variable, literal, label or type".toList := by
  have h : ofSource ".IPPcode24\nWRITE 1_____2".toList =
      .error (.source (.invalidOperand "1_____2".toList)
        (some ⟨2, "WRITE 1_____2".toList, 6, 13⟩)) := by
    decide +kernel
  exact ⟨h, showsMessage_of_ofSource_eq_error h, by decide +kernel⟩

/-- The name of an operation that does not exist is not shown as it was written: its two underscores
are missing in the title. -/
theorem firstRow_render_ne_message :
    ofSource ".IPPcode24\na__b".toList =
        .error (.source (.unknownOpcode "A__B".toList) (some ⟨2, "a__b".toList, 0, 4⟩)) ∧
      ((Failure.source (.unknownOpcode "A__B".toList)
        (some ⟨2, "a__b".toList, 0, 4⟩)).render none false).firstRow =
        "error: unknown or incorrect operation code `AB`".toList ∧
      ((Failure.source (.unknownOpcode "A__B".toList)
        (some ⟨2, "a__b".toList, 0, 4⟩)).render none false).firstRow ≠
        "error: ".toList ++ (Failure.source (.unknownOpcode "A__B".toList)
          (some ⟨2, "a__b".toList, 0, 4⟩)).message := by
  decide +kernel

end Program

end ThreeAddress
