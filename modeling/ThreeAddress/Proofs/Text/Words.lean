import Mathlib.Data.List.DropRight
import ThreeAddress.Proofs.Text.Lines
import ThreeAddress.Text.Words

/-!
# The words of a text

`Text.words` scans a text once and keeps the word that it is inside of. What it computes is said
here without the scan: `Tiled n t ws` lays the words `ws` out over the text `t`, which begins at
byte `n` of some larger text. Before each word there is a gap of blanks, the word itself has none
and cannot be extended, and after the last word there are only blanks.

`words_eq_iff` says that every text is laid out in exactly one way. Two readings of a layout are
used later: each word is the slice at its own span (`slice?_of_mem_words`), and the slice from the
first word to the last is the text without the blanks at its ends (`slice?_spanOfWords`). Words
that are written with a blank between two of them are laid out as they stand, so that they are read
back (`map_text_words_intercalate`).
-/

namespace ThreeAddress.Text

@[simp] theorem byteLength_reverse (t : Text) : byteLength t.reverse = byteLength t := by
  induction t with
  | nil => rfl
  | cons c t ih =>
    rw [List.reverse_cons, byteLength_append, ih, byteLength_cons, byteLength_cons, byteLength_nil,
      Nat.add_zero, Nat.add_comm]

/-- All characters of the text are blank. -/
def AllBlank (t : Text) : Prop := ∀ c ∈ t, isBlank c = true

/-- No character of the text is blank. -/
def Solid (t : Text) : Prop := ∀ c ∈ t, isBlank c = false

instance (t : Text) : Decidable (AllBlank t) := List.decidableBAll (fun c ↦ isBlank c = true) t

instance (t : Text) : Decidable (Solid t) := List.decidableBAll (fun c ↦ isBlank c = false) t

@[simp] theorem allBlank_nil : AllBlank [] := by simp [AllBlank]

@[simp] theorem solid_nil : Solid [] := by simp [Solid]

theorem allBlank_cons_iff {c : Char} {t : Text} :
    AllBlank (c :: t) ↔ isBlank c = true ∧ AllBlank t := List.forall_mem_cons

theorem solid_cons_iff {c : Char} {t : Text} :
    Solid (c :: t) ↔ isBlank c = false ∧ Solid t := List.forall_mem_cons

/-- A break is blank. -/
theorem Solid.unbroken {t : Text} (h : Solid t) : Unbroken t := by
  intro c hc
  have hblank := h c hc
  constructor
  · rintro rfl
    exact absurd hblank (by decide)
  · rintro rfl
    exact absurd hblank (by decide)

/-- The words are laid out over the text, which begins at byte `n`. A word ends where the text ends
or a blank follows, so it is as long as it can be. -/
inductive Tiled : Nat → Text → List Word → Prop
  | blank {n : Nat} {t : Text} (ht : AllBlank t) : Tiled n t []
  | word {n : Nat} {gap w t : Text} {ws : List Word} (hgap : AllBlank gap) (hne : w ≠ [])
      (hsolid : Solid w) (hend : ∀ c, t.head? = some c → isBlank c = true)
      (ht : Tiled (n + byteLength gap + byteLength w) t ws) :
      Tiled n (gap ++ w ++ t)
        (⟨w, n + byteLength gap, n + byteLength gap + byteLength w⟩ :: ws)

/-! ### The scan finds a layout -/

/-- A blank in front of a text widens its first gap. -/
theorem Tiled.cons_blank {n : Nat} {c : Char} (hc : isBlank c = true) {t : Text} {ws : List Word}
    (h : Tiled (n + c.utf8Size) t ws) : Tiled n (c :: t) ws := by
  cases h with
  | blank ht => exact .blank (allBlank_cons_iff.2 ⟨hc, ht⟩)
  | @word _ gap w t ws hgap hne hsolid hend ht =>
    have hn : n + c.utf8Size + byteLength gap = n + byteLength (c :: gap) := by
      rw [byteLength_cons, Nat.add_assoc]
    rw [hn] at ht ⊢
    exact .word (allBlank_cons_iff.2 ⟨hc, hgap⟩) hne hsolid hend ht

/-- A pending word is complete where the text ends or a blank follows. -/
theorem Tiled.wordAt_append {start : Nat} {pending t : Text} {ws : List Word}
    (h : Solid pending) (hend : ∀ c, t.head? = some c → isBlank c = true)
    (ht : Tiled (start + byteLength pending) t ws) :
    Tiled start (pending.reverse ++ t) (wordAt start pending ++ ws) := by
  rcases eq_or_ne pending [] with rfl | hne
  · simpa using ht
  · have hword := Tiled.word (n := start) allBlank_nil (List.reverse_ne_nil_iff.2 hne)
      (fun c hc ↦ h c (List.mem_reverse.1 hc)) hend (by simpa using ht)
    simpa [wordAt_of_ne_nil hne] using hword

/-- The invariant of the scan: what it returns is a layout of the pending word, put back in its
order, and the text that is left. -/
theorem tiled_wordsFrom {start : Nat} {pending : Text} (h : Solid pending) (t : Text) :
    Tiled start (pending.reverse ++ t) (wordsFrom start pending t) := by
  induction t generalizing start pending with
  | nil => simpa using Tiled.wordAt_append h (by simp) (.blank allBlank_nil)
  | cons c t ih =>
    cases hc : isBlank c with
    | true =>
      rw [wordsFrom_cons_blank hc]
      exact .wordAt_append h (by simpa using hc) (.cons_blank hc (ih solid_nil))
    | false =>
      rw [wordsFrom_cons_solid hc]
      simpa using ih (solid_cons_iff.2 ⟨hc, h⟩)

/-! ### There is no other layout -/

/-- Blanks in front only move the offset. -/
theorem wordsFrom_append_blank {start : Nat} {gap : Text} (h : AllBlank gap) (t : Text) :
    wordsFrom start [] (gap ++ t) = wordsFrom (start + byteLength gap) [] t := by
  induction gap generalizing start with
  | nil => rfl
  | cons c gap ih =>
    obtain ⟨hc, hgap⟩ := allBlank_cons_iff.1 h
    rw [List.cons_append, wordsFrom_cons_blank hc, wordAt_nil, List.nil_append, ih hgap]
    simp [Nat.add_assoc]

/-- At a blank, or at the end, the pending word is complete. -/
theorem wordsFrom_of_head?_blank {start : Nat} {pending t : Text}
    (h : ∀ c, t.head? = some c → isBlank c = true) :
    wordsFrom start pending t =
      wordAt start pending ++ wordsFrom (start + byteLength pending) [] t := by
  cases t with
  | nil => simp
  | cons c t =>
    have hc : isBlank c = true := h c rfl
    rw [wordsFrom_cons_blank hc, wordsFrom_cons_blank hc]
    simp

/-- The scan finds the words of which the text is tiled. The induction is on the tiling: a gap is
skipped, a word is taken in as a whole and completed by the blank behind it. -/
theorem Tiled.wordsFrom_eq {n : Nat} {t : Text} {ws : List Word} (h : Tiled n t ws) :
    wordsFrom n [] t = ws := by
  induction h with
  | blank ht => simpa using wordsFrom_append_blank ht []
  | word hgap hne hsolid hend _ ih =>
    rw [List.append_assoc, wordsFrom_append_blank hgap, wordsFrom_append_solid hsolid,
      wordsFrom_of_head?_blank hend, List.append_nil, byteLength_reverse, ih,
      wordAt_of_ne_nil (List.reverse_ne_nil_iff.2 hne), List.reverse_reverse, byteLength_reverse]
    rfl

/-- **Every text is laid out in exactly one way**, and `Text.words` finds it. -/
theorem words_eq_iff {t : Text} {ws : List Word} : words t = ws ↔ Tiled 0 t ws := by
  constructor
  · rintro rfl
    exact tiled_wordsFrom solid_nil t
  · exact Tiled.wordsFrom_eq

/-! ### The slices at the spans -/

/-- A slice of a text is one of every text that begins with it. -/
theorem slice?_append {t inside : Text} {s : Span} (h : t.slice? s = some inside) (u : Text) :
    (t ++ u).slice? s = some inside := by
  obtain ⟨before, after, rfl, hstart, hstop⟩ := slice?_eq_some_iff.1 h
  exact slice?_eq_some_iff.2 ⟨before, after ++ u, by simp, hstart, hstop⟩

/-- The span of a slice that is not empty is a range within the text. -/
theorem start_lt_stop_of_slice? {t inside : Text} {s : Span} (h : t.slice? s = some inside)
    (hne : inside ≠ []) : s.start < s.stop ∧ s.stop ≤ byteLength t := by
  obtain ⟨before, after, rfl, hstart, hstop⟩ := slice?_eq_some_iff.1 h
  have hpos : 0 < byteLength inside := Nat.pos_of_ne_zero fun h ↦ hne (byteLength_eq_zero_iff.1 h)
  rw [byteLength_append] at hstop
  simp only [byteLength_append]
  omega

/-- A word of a layout is where its span says, counted from where the text begins. -/
theorem Tiled.exists_of_mem {n : Nat} {t : Text} {ws : List Word} (h : Tiled n t ws) {w : Word}
    (hw : w ∈ ws) : w.text ≠ [] ∧ ∃ before after, t = before ++ w.text ++ after ∧
      w.span = ⟨n + byteLength before, n + byteLength (before ++ w.text)⟩ := by
  induction h with
  | blank => simp at hw
  | @word n gap v t ws hgap hne hsolid hend _ ih =>
    rcases List.mem_cons.1 hw with rfl | hw
    · exact ⟨hne, gap, t, rfl, by simp [Nat.add_assoc]⟩
    · obtain ⟨hword, before, after, rfl, hspan⟩ := ih hw
      exact ⟨hword, gap ++ v ++ before, after, by simp, by rw [hspan]; simp [Nat.add_assoc]⟩

theorem text_ne_nil_of_mem_words {t : Text} {w : Word} (hw : w ∈ words t) : w.text ≠ [] :=
  ((words_eq_iff.1 rfl).exists_of_mem hw).1

/-- **A word is the slice at its span.** -/
theorem slice?_of_mem_words {t : Text} {w : Word} (hw : w ∈ words t) :
    t.slice? w.span = some w.text := by
  obtain ⟨-, before, after, ht, hspan⟩ := (words_eq_iff.1 rfl).exists_of_mem hw
  exact slice?_eq_some_iff.2 ⟨before, after, ht, by simp [hspan], by simp [hspan]⟩

/-! ### From the first word to the last -/

/-- The text without the blanks at its ends. -/
def trimmed (t : Text) : Text := (t.dropWhile isBlank).rdropWhile isBlank

/-- The text begins and ends with a character that is not blank. -/
structure SolidEnds (t : Text) : Prop where
  head : ∃ c, t.head? = some c ∧ isBlank c = false
  last : ∃ c, t.getLast? = some c ∧ isBlank c = false

theorem Solid.solidEnds {w : Text} (h : Solid w) (hne : w ≠ []) : SolidEnds w :=
  ⟨⟨_, List.head?_eq_some_head hne, h _ (List.head_mem hne)⟩,
    ⟨_, List.getLast?_eq_some_getLast hne, h _ (List.getLast_mem hne)⟩⟩

/-- Texts that begin and end without blanks do so together, whatever is between them. -/
theorem SolidEnds.append {s t : Text} (hs : SolidEnds s) (ht : SolidEnds t) (gap : Text) :
    SolidEnds (s ++ gap ++ t) := by
  obtain ⟨c, hc, hsolid⟩ := hs.head
  obtain ⟨d, hd, hsolid'⟩ := ht.last
  exact ⟨⟨c, by simp [hc], hsolid⟩, ⟨d, by simp [hd], hsolid'⟩⟩

/-- What stands between blanks and does not itself begin or end with one is what is left when the
blanks are taken away. -/
theorem trimmed_append {gap inside tail : Text} (hgap : AllBlank gap) (htail : AllBlank tail)
    (h : SolidEnds inside) : trimmed (gap ++ inside ++ tail) = inside := by
  obtain ⟨c, hc, hsolid⟩ := h.head
  obtain ⟨d, hd, hsolid'⟩ := h.last
  obtain ⟨rest, rfl⟩ := List.head?_eq_some_iff.1 hc
  have hdrop : (gap ++ (c :: rest) ++ tail).dropWhile isBlank = (c :: rest) ++ tail := by
    rw [List.append_assoc, List.dropWhile_append_of_pos hgap, List.cons_append,
      List.dropWhile_cons_of_neg (by simp [hsolid])]
  -- at the end the same is done to the text in reverse
  obtain ⟨front, hfront⟩ := List.getLast?_eq_some_iff.1 hd
  rw [trimmed, hdrop, List.rdropWhile, List.reverse_append,
    List.dropWhile_append_of_pos fun c hc ↦ htail c (List.mem_reverse.1 hc), hfront,
    List.reverse_append, List.reverse_singleton, List.singleton_append,
    List.dropWhile_cons_of_neg (by simp [hsolid'])]
  simp

/-- Nothing but blanks is taken away. -/
theorem exists_eq_append_trimmed (t : Text) :
    ∃ gap tail, t = gap ++ trimmed t ++ tail ∧ AllBlank gap ∧ AllBlank tail := by
  refine ⟨t.takeWhile isBlank, (t.dropWhile isBlank).rtakeWhile isBlank, ?_,
    fun c hc ↦ List.mem_takeWhile_imp hc, fun c hc ↦ List.mem_rtakeWhile_imp hc⟩
  rw [List.append_assoc, trimmed, List.rdropWhile_append_rtakeWhile,
    List.takeWhile_append_dropWhile]

/-- A text that has no blank inside is one word. -/
theorem words_eq_singleton_of_solid {t : Text} (h : Solid (trimmed t)) (hne : trimmed t ≠ []) :
    ∃ w, words t = [w] ∧ w.text = trimmed t := by
  obtain ⟨gap, tail, ht, hgap, htail⟩ := exists_eq_append_trimmed t
  have htiled := Tiled.word (n := 0) hgap hne h (fun c hc ↦ htail c (List.mem_of_mem_head? hc))
    (.blank htail)
  rw [← ht] at htiled
  exact ⟨_, words_eq_iff.2 htiled, rfl⟩

theorem spanOfWords_cons_cons (w v : Word) (ws : List Word) :
    spanOfWords (w :: v :: ws) = ⟨w.span.start, (spanOfWords (v :: ws)).stop⟩ := by
  simp only [spanOfWords, List.head?_cons, List.getLast?_cons_cons]
  cases h : (v :: ws).getLast? with
  | none => simp at h
  | some last => rfl

/-- From the first word to the last there is a text with solid ends, and blanks before and behind
it. -/
theorem Tiled.exists_inside {n : Nat} {t : Text} {ws : List Word} (h : Tiled n t ws)
    (hne : ws ≠ []) : ∃ gap inside tail, t = gap ++ inside ++ tail ∧
      AllBlank gap ∧ AllBlank tail ∧ SolidEnds inside ∧
      spanOfWords ws = ⟨n + byteLength gap, n + byteLength (gap ++ inside)⟩ := by
  induction h with
  | blank => exact absurd rfl hne
  | @word n gap w t ws hgap hw hsolid hend ht ih =>
    cases ws with
    | nil =>
      cases ht with
      | blank ht =>
        exact ⟨gap, w, t, rfl, hgap, ht, hsolid.solidEnds hw, by simp [spanOfWords, Nat.add_assoc]⟩
    | cons v ws =>
      -- the gap between the two words is inside now, and so is the first word
      obtain ⟨gap', inside, tail, rfl, -, htail, hends, hspan⟩ := ih (by simp)
      refine ⟨gap, w ++ gap' ++ inside, tail, by simp, hgap, htail,
        (hsolid.solidEnds hw).append hends gap', ?_⟩
      rw [spanOfWords_cons_cons, hspan]
      simp [Nat.add_assoc]

/-- From the first word to the last it is the text without the blanks at its ends, which begins and
ends inside a word. -/
theorem exists_eq_append_trimmed_of_words {t : Text} (h : words t ≠ []) :
    ∃ gap tail, t = gap ++ trimmed t ++ tail ∧ SolidEnds (trimmed t) ∧
      spanOfWords (words t) = ⟨byteLength gap, byteLength (gap ++ trimmed t)⟩ := by
  obtain ⟨gap, inside, tail, ht, hgap, htail, hends, hspan⟩ := (words_eq_iff.1 rfl).exists_inside h
  have htrim : trimmed t = inside := by rw [ht, trimmed_append hgap htail hends]
  rw [htrim]
  exact ⟨gap, tail, ht, hends, by simpa using hspan⟩

/-- **The slice from the first word to the last is the text without the blanks at its ends.** -/
theorem slice?_spanOfWords {t : Text} (h : words t ≠ []) :
    t.slice? (spanOfWords (words t)) = some (trimmed t) := by
  obtain ⟨gap, tail, ht, -, hspan⟩ := exists_eq_append_trimmed_of_words h
  exact slice?_eq_some_iff.2 ⟨gap, tail, ht, by rw [hspan], by rw [hspan]⟩

/-- A text with a word is not all blank. -/
theorem trimmed_ne_nil_of_words_ne_nil {t : Text} (h : words t ≠ []) : trimmed t ≠ [] := by
  obtain ⟨-, -, -, ⟨⟨c, hc, -⟩, -⟩, -⟩ := exists_eq_append_trimmed_of_words h
  intro hnil
  rw [hnil] at hc
  exact absurd hc (by simp)

/-- A text with a single word is that word between blanks. -/
theorem trimmed_of_words_eq_singleton {t : Text} {w : Word} (h : words t = [w]) :
    trimmed t = w.text := by
  have hslice := slice?_spanOfWords (t := t) (by simp [h])
  have hword := slice?_of_mem_words (t := t) (w := w) (by simp [h])
  rw [h] at hslice
  exact Option.some.inj (hslice.symm.trans hword)

/-! ### Words put together with blanks -/

/-- Words with single spaces between them are tiled by these words. -/
theorem Tiled.exists_intercalate {ws : List Text} (h : ∀ w ∈ ws, Solid w ∧ w ≠ []) (n : Nat) :
    ∃ tiles, Tiled n (List.intercalate [' '] ws) tiles ∧ tiles.map (·.text) = ws := by
  induction ws generalizing n with
  | nil => exact ⟨[], .blank allBlank_nil, rfl⟩
  | cons w ws ih =>
    obtain ⟨⟨hsolid, hne⟩, hws⟩ := List.forall_mem_cons.1 h
    cases ws with
    | nil =>
      have htiled := Tiled.word (n := n) allBlank_nil hne hsolid (by simp) (.blank allBlank_nil)
      exact ⟨_, by simpa using htiled, rfl⟩
    | cons v ws =>
      -- the blank between two words is the gap of the second
      obtain ⟨tiles, htiles, hmap⟩ := ih hws (n + byteLength [] + byteLength w + ' '.utf8Size)
      have htiled := Tiled.word allBlank_nil hne hsolid (by simp +decide)
        (htiles.cons_blank (by decide : isBlank ' ' = true))
      have heq : List.intercalate [' '] (w :: v :: ws) =
          [] ++ w ++ ' ' :: List.intercalate [' '] (v :: ws) := by
        simp [List.intercalate_cons_cons]
      rw [heq]
      exact ⟨_, htiled, by rw [List.map_cons, hmap]⟩

/-- Words that are written with a blank between two of them are read back. -/
theorem map_text_words_intercalate {ws : List Text} (h : ∀ w ∈ ws, Solid w ∧ w ≠ []) :
    (words (List.intercalate [' '] ws)).map (·.text) = ws := by
  obtain ⟨tiles, htiles, hmap⟩ := Tiled.exists_intercalate h 0
  rw [words_eq_iff.2 htiles, hmap]

/-! ### Words without their places -/

/-- A text without words is blank. -/
theorem words_eq_nil_iff {t : Text} : words t = [] ↔ AllBlank t := by
  rw [words_eq_iff]
  constructor
  · intro h
    cases h with
    | blank ht => exact ht
  · exact .blank

/-- Where a text begins moves its words and does not change them. -/
theorem map_text_wordsFrom (start : Nat) (t : Text) (pending : Text) :
    (wordsFrom start pending t).map (·.text) = (wordsFrom 0 pending t).map (·.text) := by
  induction t generalizing start pending with
  | nil =>
    rcases eq_or_ne pending [] with rfl | hne
    · rfl
    · simp [wordAt_of_ne_nil hne]
  | cons c t ih =>
    cases hc : isBlank c with
    | true =>
      rw [wordsFrom_cons_blank hc, wordsFrom_cons_blank hc, List.map_append, List.map_append, ih,
        ih (0 + byteLength pending + c.utf8Size)]
      rcases eq_or_ne pending [] with rfl | hne
      · rfl
      · simp [wordAt_of_ne_nil hne]
    | false => rw [wordsFrom_cons_solid hc, wordsFrom_cons_solid hc, ih]

/-- A blank ends the word before it, and the scan begins again behind it. -/
theorem wordsFrom_append_cons_blank {c : Char} (hc : isBlank c = true) (start : Nat)
    (pending t u : Text) : wordsFrom start pending (t ++ c :: u) =
      wordsFrom start pending t ++
        wordsFrom (start + byteLength pending + byteLength t + c.utf8Size) [] u := by
  induction t generalizing start pending with
  | nil => simp [wordsFrom_cons_blank hc]
  | cons d t ih =>
    rw [List.cons_append]
    cases hd : isBlank d with
    | true =>
      rw [wordsFrom_cons_blank hd, wordsFrom_cons_blank hd, ih, List.append_assoc]
      simp [Nat.add_assoc]
    | false =>
      rw [wordsFrom_cons_solid hd, wordsFrom_cons_solid hd, ih]
      have hn : start + byteLength (d :: pending) + byteLength t =
          start + byteLength pending + byteLength (d :: t) := by
        simp only [byteLength_cons]
        omega
      rw [hn]

/-- A blank separates the words before it from those behind it. -/
theorem map_text_words_append_cons_blank {c : Char} (hc : isBlank c = true) (t u : Text) :
    (words (t ++ c :: u)).map (·.text) = (words t).map (·.text) ++ (words u).map (·.text) := by
  rw [words, wordsFrom_append_cons_blank hc, List.map_append, map_text_wordsFrom _ u]
  rfl

/-- Blanks before a text change none of its words. -/
theorem map_text_words_append_left {gap : Text} (hgap : AllBlank gap) (t : Text) :
    (words (gap ++ t)).map (·.text) = (words t).map (·.text) := by
  rw [words, wordsFrom_append_blank hgap, map_text_wordsFrom]
  rfl

/-- **The blanks between two texts keep their words apart**, whatever blanks they are. -/
theorem map_text_words_append_gap {gap : Text} (hgap : AllBlank gap) (hne : gap ≠ [])
    (t u : Text) : (words (t ++ gap ++ u)).map (·.text) =
      (words t).map (·.text) ++ (words u).map (·.text) := by
  obtain ⟨c, gap, rfl⟩ := List.exists_cons_of_ne_nil hne
  obtain ⟨hc, hgap⟩ := allBlank_cons_iff.1 hgap
  rw [List.append_assoc, List.cons_append, map_text_words_append_cons_blank hc,
    map_text_words_append_left hgap]

/-- What is pending only begins the first word. -/
theorem exists_map_text_wordsFrom (t : Text) : ∃ (rest : Text) (ws : List Text),
    ∀ start pending, pending ≠ [] →
      (wordsFrom start pending t).map (·.text) = (pending.reverse ++ rest) :: ws := by
  induction t with
  | nil => exact ⟨[], [], fun start pending hne ↦ by simp [wordAt_of_ne_nil hne]⟩
  | cons c t ih =>
    cases hc : isBlank c with
    | true =>
      refine ⟨[], (words t).map (·.text), fun start pending hne ↦ ?_⟩
      rw [wordsFrom_cons_blank hc, List.map_append, map_text_wordsFrom _ t, wordAt_of_ne_nil hne]
      simp [words]
    | false =>
      obtain ⟨rest, ws, h⟩ := ih
      refine ⟨c :: rest, ws, fun start pending _ ↦ ?_⟩
      rw [wordsFrom_cons_solid hc, h start (c :: pending) (by simp)]
      simp

/-- A text that begins with solid characters has a first word that begins with them, and what
follows them decides the rest of that word and all further words. -/
theorem exists_map_text_words_append (t : Text) : ∃ (rest : Text) (ws : List Text),
    ∀ w, w ≠ [] → Solid w → (words (w ++ t)).map (·.text) = (w ++ rest) :: ws := by
  obtain ⟨rest, ws, h⟩ := exists_map_text_wordsFrom t
  refine ⟨rest, ws, fun w hne hw ↦ ?_⟩
  rw [words, wordsFrom_append_solid hw, List.append_nil, h 0 _ (List.reverse_ne_nil_iff.2 hne),
    List.reverse_reverse]

end ThreeAddress.Text
