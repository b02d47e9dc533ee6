import ThreeAddress.Language

/-!
# Cutting a text into lines

`Text.lines` is a recursion that looks at two characters at a time. What it computes is said here
without the recursion: `CutAtBreaks t ls` builds the text `t` from the lines `ls`, with one of the
three breaks between two of them.

A carriage return is a break alone and the beginning of another one, so a cut is only determined
when a lone carriage return may not stand before a line feed. This is the one side condition of
`CutAtBreaks`, and with it `lines_eq_iff` says that every text has exactly one cut.

Cuts can be put together, and so can texts: with a line feed between them, two texts have the lines
of the one and then those of the other (`lines_append_lineFeed`), except where that line feed would
belong to a break that the first text ends with.
-/

namespace ThreeAddress.Text

/-- What ends a line. -/
inductive LineBreak
  | lineFeed
  | carriageReturn
  | both
  deriving DecidableEq, Repr

/-- The characters of the break. -/
def LineBreak.text : LineBreak → Text
  | lineFeed => ['\n']
  | carriageReturn => ['\r']
  | both => ['\r', '\n']

/-- The text has no character that could begin or end a break. -/
def Unbroken (t : Text) : Prop := ∀ c ∈ t, c ≠ '\r' ∧ c ≠ '\n'

instance (t : Text) : Decidable (Unbroken t) := List.decidableBAll (fun c ↦ c ≠ '\r' ∧ c ≠ '\n') t

/-- The text consists of the lines, with a break between two of them. A lone carriage return is a
break only where no line feed follows. -/
inductive CutAtBreaks : Text → List Text → Prop
  | last {line : Text} (hline : Unbroken line) : CutAtBreaks line [line]
  | line {line t : Text} {ls : List Text} (b : LineBreak) (hline : Unbroken line)
      (hlone : b = .carriageReturn → t.head? ≠ some '\n') (ht : CutAtBreaks t ls) :
      CutAtBreaks (line ++ b.text ++ t) (line :: ls)

/-! ### One line in front -/

@[simp] theorem unbroken_nil : Unbroken [] := by simp [Unbroken]

theorem unbroken_cons_iff {c : Char} {t : Text} :
    Unbroken (c :: t) ↔ (c ≠ '\r' ∧ c ≠ '\n') ∧ Unbroken t := by
  simp [Unbroken]

theorem Unbroken.append {s t : Text} (hs : Unbroken s) (ht : Unbroken t) : Unbroken (s ++ t) :=
  fun c hc ↦ (List.mem_append.1 hc).elim (hs c) (ht c)

/-- A character that is no part of a break is put in front of the first line. -/
theorem lines_cons {c : Char} (hr : c ≠ '\r') (hn : c ≠ '\n') (t : Text) :
    lines (c :: t) = (lines t).modifyHead (c :: ·) := by
  rw [lines]
  · exact fun t' hc ↦ absurd hc hr
  · exact hr
  · exact hn

/-- A break in front leaves an empty line before the others. -/
theorem lines_break {t : Text} (b : LineBreak)
    (hlone : b = .carriageReturn → t.head? ≠ some '\n') : lines (b.text ++ t) = [] :: lines t := by
  cases b with
  | lineFeed => rfl
  | both => rfl
  | carriageReturn =>
    show lines ('\r' :: t) = _
    rw [lines]
    rintro t' rfl
    exact hlone rfl rfl

/-- **The first break ends the first line.** -/
theorem lines_append_break {line t : Text} (b : LineBreak) (hline : Unbroken line)
    (hlone : b = .carriageReturn → t.head? ≠ some '\n') :
    lines (line ++ b.text ++ t) = line :: lines t := by
  induction line with
  | nil => exact lines_break b hlone
  | cons c line ih =>
    obtain ⟨⟨hr, hn⟩, hline⟩ := unbroken_cons_iff.1 hline
    rw [List.cons_append, List.cons_append, lines_cons hr hn, ih hline, List.modifyHead_cons]

/-! ### The cut exists and is unique -/

/-- A cut of a text is also one of the text with a further character in its first line. -/
theorem CutAtBreaks.cons {c : Char} (hr : c ≠ '\r') (hn : c ≠ '\n') {t : Text} {ls : List Text}
    (h : CutAtBreaks t ls) : CutAtBreaks (c :: t) (ls.modifyHead (c :: ·)) := by
  cases h with
  | last hline => exact .last (unbroken_cons_iff.2 ⟨⟨hr, hn⟩, hline⟩)
  | line b hline hlone ht => exact .line b (unbroken_cons_iff.2 ⟨⟨hr, hn⟩, hline⟩) hlone ht

/-- What the reader cuts is cut at breaks. -/
theorem cutAtBreaks_lines (t : Text) : CutAtBreaks t (lines t) := by
  fun_induction lines t with
  | case1 => exact .last unbroken_nil
  | case2 t ih => exact .line .both unbroken_nil (by simp) ih
  | case3 t hlone ih =>
    -- a line feed behind it would have been taken together with it
    refine .line .carriageReturn unbroken_nil (fun _ hhead ↦ ?_) ih
    obtain ⟨t', rfl⟩ := List.head?_eq_some_iff.1 hhead
    exact hlone t' rfl
  | case4 t ih => exact .line .lineFeed unbroken_nil (by simp) ih
  | case5 c t _ hr hn ih => exact ih.cons hr hn

/-- **Every text has exactly one cut into lines**, and `Text.lines` finds it. -/
theorem lines_eq_iff {t : Text} {ls : List Text} : lines t = ls ↔ CutAtBreaks t ls := by
  constructor
  · rintro rfl
    exact cutAtBreaks_lines t
  · intro h
    induction h with
    | last hline => exact lines_eq_singleton hline
    | line b hline hlone _ ih => rw [lines_append_break b hline hlone, ih]

/-- Lines that are written with a line feed after each are read back, with an empty line after the
last line feed. -/
theorem lines_flatten_map {ls : List Text} (h : ∀ line ∈ ls, Unbroken line) :
    lines (ls.map (· ++ ['\n'])).flatten = ls ++ [[]] := by
  induction ls with
  | nil => rfl
  | cons line ls ih =>
    have hrest := ih fun l hl ↦ h l (List.mem_cons_of_mem _ hl)
    rw [List.map_cons, List.flatten_cons, List.cons_append, ← hrest]
    exact lines_append_break .lineFeed (h line List.mem_cons_self) (by simp)

/-! ### Texts put together with a line feed -/

/-- A cut of a text and one of another are a cut of the two with a line feed between them, unless
that line feed would complete a break that a carriage return at the end of the first has begun. -/
theorem CutAtBreaks.append_lineFeed {s t : Text} {ls ms : List Text} (hs : CutAtBreaks s ls)
    (hlast : s.getLast? ≠ some '\r') (ht : CutAtBreaks t ms) :
    CutAtBreaks (s ++ '\n' :: t) (ls ++ ms) := by
  induction hs with
  | @last line hline =>
    have hcut := CutAtBreaks.line .lineFeed hline (by simp) ht
    simpa [LineBreak.text] using hcut
  | @line line u ls b hline hlone hu ih =>
    have htail : u.getLast? ≠ some '\r' := by
      intro h
      exact hlast (by rw [List.getLast?_append, h, Option.some_or])
    have hlone' : b = .carriageReturn → (u ++ '\n' :: t).head? ≠ some '\n' := by
      rintro rfl
      cases u with
      | nil => exact absurd (by simp [LineBreak.text]) hlast
      | cons c u => simpa using hlone rfl
    have hcut := CutAtBreaks.line b hline hlone' (ih htail)
    simpa using hcut

/-- **A line feed between two texts puts their lines together.** -/
theorem lines_append_lineFeed {s : Text} (hlast : s.getLast? ≠ some '\r') (t : Text) :
    lines (s ++ '\n' :: t) = lines s ++ lines t :=
  lines_eq_iff.2 ((cutAtBreaks_lines s).append_lineFeed hlast (cutAtBreaks_lines t))

theorem Unbroken.getLast?_ne {line : Text} (h : Unbroken line) : line.getLast? ≠ some '\r' :=
  fun hlast ↦ (h _ (List.mem_of_getLast? hlast)).1 rfl

/-- What holds of the separator and of the texts holds of all that is put together from them. -/
theorem forall_mem_intercalate {P : Char → Prop} {sep : Text} (hsep : ∀ c ∈ sep, P c)
    {ts : List Text} (h : ∀ t ∈ ts, ∀ c ∈ t, P c) : ∀ c ∈ List.intercalate sep ts, P c := by
  induction ts with
  | nil => simp
  | cons t ts ih =>
    obtain ⟨ht, hts⟩ := List.forall_mem_cons.1 h
    cases ts with
    | nil => simpa using ht
    | cons u ts =>
      rw [List.intercalate_cons_cons]
      intro c hc
      rcases List.mem_append.1 hc with hc | hc
      · exact (List.mem_append.1 hc).elim (ht c) (hsep c)
      · exact ih hts c hc

/-- Lines that are written with a line feed between two of them are read back. -/
theorem lines_intercalate {ls : List Text} (hne : ls ≠ []) (h : ∀ line ∈ ls, Unbroken line) :
    lines (List.intercalate ['\n'] ls) = ls := by
  induction ls with
  | nil => exact absurd rfl hne
  | cons line ls ih =>
    obtain ⟨hline, hls⟩ := List.forall_mem_cons.1 h
    cases ls with
    | nil => rw [List.intercalate_singleton, lines_eq_singleton hline]
    | cons next ls =>
      rw [List.intercalate_cons_cons, List.append_assoc, List.singleton_append,
        lines_append_lineFeed hline.getLast?_ne, lines_eq_singleton hline, ih (by simp) hls]
      rfl

end ThreeAddress.Text
