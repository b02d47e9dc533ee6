import Mathlib.Data.List.Chain
import ThreeAddress.Proofs.Text.Lines

/-!
# Texts that are put together from lines

`joined` writes lines one behind the other, with a break of any kind before each but the first. A
text that is written so is cut at the same places again, with one exception: a carriage return, an
empty line and a line feed are two breaks when they are written and one when they are read.
`BreaksApart` excludes this, and then the lines that are read are those that were written
(`IsJoined.lines_eq`), and so are the breaks (`IsJoined.lineBreaks_eq`).

Every text can be got in this way, from the lines that it has (`exists_isJoined`). The breaks
between them are found by taking a carriage return and a line feed together wherever they meet; how
many there are can be counted without looking for them (`length_lineBreaks_add`).
-/

namespace ThreeAddress.Text

/-- The breaks of a text, from left to right, each as long as it can be. -/
def lineBreaks : Text → List LineBreak
  | [] => []
  | '\r' :: '\n' :: t => .both :: lineBreaks t
  | '\r' :: t => .carriageReturn :: lineBreaks t
  | '\n' :: t => .lineFeed :: lineBreaks t
  | _ :: t => lineBreaks t

/-- A first line, and behind it further lines, each with the break before it. -/
def joined (first : Text) : List (LineBreak × Text) → Text
  | [] => first
  | (b, line) :: rest => first ++ b.text ++ joined line rest

/-- A lone carriage return is not followed by an empty line that a line feed ends. -/
def BreaksApart (rest : List (LineBreak × Text)) : Prop :=
  rest.IsChain fun p q ↦ ¬(p.1 = .carriageReturn ∧ p.2 = [] ∧ q.1 = .lineFeed)

/-- The text is written from the lines, with these breaks between them, and no two breaks run
together. -/
structure IsJoined (t first : Text) (rest : List (LineBreak × Text)) : Prop where
  eq : t = joined first rest
  unbroken : ∀ line ∈ first :: rest.map (·.2), Unbroken line
  apart : BreaksApart rest

/-! ### The lines are read back -/

variable {t first line : Text} {rest : List (LineBreak × Text)} {b : LineBreak}

theorem LineBreak.head?_text_append (b : LineBreak) (t : Text) :
    (b.text ++ t).head? = some '\n' ↔ b = .lineFeed := by
  cases b <;> simp [LineBreak.text]

/-- What is behind a break begins with a line feed only if an empty line comes first. -/
theorem head?_joined_ne (hline : Unbroken line)
    (h : BreaksApart ((.carriageReturn, line) :: rest)) : (joined line rest).head? ≠ some '\n' := by
  cases line with
  | cons c line =>
    have hc : (joined (c :: line) rest).head? = some c := by
      cases rest <;> rfl
    rw [hc]
    exact fun heq ↦ (unbroken_cons_iff.1 hline).1.2 (Option.some.inj heq)
  | nil =>
    cases rest with
    | nil => simp [joined]
    | cons p rest =>
      have hp : p.1 ≠ .lineFeed := fun heq ↦ (List.isChain_cons_cons.1 h).1 ⟨rfl, rfl, heq⟩
      rw [joined, List.nil_append]
      exact fun heq ↦ hp ((p.1.head?_text_append _).1 heq)

/-- Behind the first break the rest is put together from the further lines. -/
theorem IsJoined.tail (h : IsJoined t first ((b, line) :: rest)) :
    IsJoined (joined line rest) line rest ∧
      (b = .carriageReturn → (joined line rest).head? ≠ some '\n') := by
  have hrest := fun l hl ↦ h.unbroken l (List.mem_cons_of_mem _ hl)
  refine ⟨⟨rfl, hrest, h.apart.tail⟩, ?_⟩
  rintro rfl
  exact head?_joined_ne (hrest line List.mem_cons_self) h.apart

/-- A join of lines is cut into the lines. -/
theorem IsJoined.cutAtBreaks (h : IsJoined t first rest) :
    CutAtBreaks t (first :: rest.map (·.2)) := by
  induction rest generalizing t first with
  | nil =>
    rw [h.eq]
    exact .last (h.unbroken first List.mem_cons_self)
  | cons p rest ih =>
    obtain ⟨hrest, hlone⟩ := h.tail
    rw [h.eq]
    exact .line p.1 (h.unbroken first List.mem_cons_self) hlone (ih hrest)

/-- **Lines that are written with breaks between them are read back.** -/
theorem IsJoined.lines_eq (h : IsJoined t first rest) : lines t = first :: rest.map (·.2) :=
  lines_eq_iff.2 h.cutAtBreaks

/-! ### The breaks are read back -/

theorem lineBreaks_cons {c : Char} (hr : c ≠ '\r') (hn : c ≠ '\n') (t : Text) :
    lineBreaks (c :: t) = lineBreaks t := by
  rw [lineBreaks]
  · exact fun t' hc ↦ absurd hc hr
  · exact hr
  · exact hn

/-- A break in front is the first of the breaks. -/
theorem lineBreaks_break (b : LineBreak) (hlone : b = .carriageReturn → t.head? ≠ some '\n') :
    lineBreaks (b.text ++ t) = b :: lineBreaks t := by
  cases b with
  | lineFeed => rfl
  | both => rfl
  | carriageReturn =>
    show lineBreaks ('\r' :: t) = _
    rw [lineBreaks]
    rintro t' rfl
    exact hlone rfl rfl

/-- The first line makes no difference to the breaks. -/
theorem lineBreaks_append_unbroken (hline : Unbroken line) (t : Text) :
    lineBreaks (line ++ t) = lineBreaks t := by
  induction line with
  | nil => rfl
  | cons c line ih =>
    obtain ⟨⟨hr, hn⟩, hline⟩ := unbroken_cons_iff.1 hline
    rw [List.cons_append, lineBreaks_cons hr hn, ih hline]

/-- The breaks of a join are the breaks that the lines were joined with. -/
theorem IsJoined.lineBreaks_eq (h : IsJoined t first rest) : lineBreaks t = rest.map (·.1) := by
  have hfirst : Unbroken first := h.unbroken first List.mem_cons_self
  induction rest generalizing t first with
  | nil =>
    have hnil := lineBreaks_append_unbroken hfirst []
    rw [List.append_nil] at hnil
    rw [h.eq]
    exact hnil
  | cons p rest ih =>
    obtain ⟨hrest, hlone⟩ := h.tail
    rw [h.eq, joined, List.append_assoc, lineBreaks_append_unbroken hfirst,
      lineBreaks_break p.1 hlone, ih hrest (hrest.unbroken _ List.mem_cons_self)]
    rfl

/-! ### Every text is put together from its lines -/

/-- What is cut into lines is a join of these, with the breaks at which it was cut. -/
theorem CutAtBreaks.exists_isJoined {ls : List Text} (h : CutAtBreaks t ls) :
    ∃ first rest, ls = first :: rest.map (·.2) ∧ IsJoined t first rest := by
  induction h with
  | @last line hline => exact ⟨line, [], rfl, rfl, by simpa using hline, .nil⟩
  | @line line t ls b hline hlone _ ih =>
    obtain ⟨first, rest, rfl, hjoined⟩ := ih
    refine ⟨line, (b, first) :: rest, rfl, by rw [hjoined.eq, joined],
      List.forall_mem_cons.2 ⟨hline, hjoined.unbroken⟩, ?_⟩
    cases rest with
    | nil => exact .singleton _
    | cons p rest =>
      refine .cons_cons ?_ hjoined.apart
      rintro ⟨rfl, rfl, hp⟩
      refine hlone rfl ?_
      rw [hjoined.eq]
      exact (p.1.head?_text_append _).2 hp

/-- **Every text is put together from its lines.** -/
theorem exists_isJoined (t : Text) :
    ∃ first rest, lines t = first :: rest.map (·.2) ∧ IsJoined t first rest :=
  (cutAtBreaks_lines t).exists_isJoined

/-- There is one line more than there are breaks. -/
theorem length_lines (t : Text) : (lines t).length = (lineBreaks t).length + 1 := by
  obtain ⟨first, rest, hlines, h⟩ := exists_isJoined t
  rw [hlines, h.lineBreaks_eq]
  simp

/-- A carriage return in front of a line feed is one more pair. -/
theorem count_zip_cons (c : Char) (t : Text) : ((c :: t).zip t).count ('\r', '\n') =
    (t.zip t.tail).count ('\r', '\n') + if c = '\r' ∧ t.head? = some '\n' then 1 else 0 := by
  cases t with
  | nil => simp
  | cons d t => simp [List.count_cons]

/-- **There is a break at each line feed and at each carriage return**, and one break less for each
carriage return that a line feed follows. -/
theorem length_lineBreaks_add (t : Text) :
    (lineBreaks t).length + (t.zip t.tail).count ('\r', '\n') = t.count '\r' + t.count '\n' := by
  fun_induction lineBreaks t with
  | case1 => rfl
  | case2 t ih =>
    rw [List.tail_cons, count_zip_cons, List.tail_cons, count_zip_cons]
    simp
    omega
  | case3 t hlone ih =>
    -- a line feed behind it would have been taken together with it
    have hhead : t.head? ≠ some '\n' := by
      intro h
      obtain ⟨t', rfl⟩ := List.head?_eq_some_iff.1 h
      exact hlone t' rfl
    rw [List.tail_cons, count_zip_cons, if_neg fun h ↦ hhead h.2]
    simp
    omega
  | case4 t ih =>
    rw [List.tail_cons, count_zip_cons]
    simp
    omega
  | case5 c t _ hr hn ih =>
    rw [List.tail_cons, count_zip_cons, if_neg fun h ↦ hr h.1, Nat.add_zero, ih,
      List.count_cons_of_ne hr, List.count_cons_of_ne hn]

end ThreeAddress.Text
