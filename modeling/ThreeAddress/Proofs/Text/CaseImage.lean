import Mathlib.Data.List.Basic
import ThreeAddress.Proofs.Text.Case

/-!
# Images in ASCII

Which characters are mapped to ASCII is read off the case tables, once for both of them: a run whose
images lie beyond ASCII has nothing to do with it, and what is left of a table is a short list of
characters (`toNat_lt_or_mem_of_mapCase`). Beyond ASCII there are ten characters with such an image
in upper case and one in lower case, the Kelvin sign.
-/

namespace ThreeAddress.Text

/-- All characters of the text are ASCII. -/
def IsAscii (t : Text) : Prop := ∀ c ∈ t, c.toNat < 128

instance (t : Text) : Decidable (IsAscii t) :=
  List.decidableBAll (fun c : Char ↦ c.toNat < 128) t

/-- The image of a character is spelled out, or it is in a run, or it is the character itself. -/
theorem mapCase_cases (spelled : List SpelledCase) (runs : List CaseRun) (c : Char) :
    (∃ entry ∈ spelled, entry.1 = c.toNat ∧ mapCase spelled runs c = entry.2.map Char.ofNat) ∨
      (∃ run ∈ runs, run.covers c.toNat = true ∧
        mapCase spelled runs c = [Char.ofNat (run.imageOf c.toNat)]) ∨
      mapCase spelled runs c = [c] := by
  unfold mapCase
  cases hspelled : spelled.lookup c.toNat with
  | some points =>
    obtain ⟨before, after, hsplit, -⟩ := List.lookup_eq_some_iff.1 hspelled
    exact .inl ⟨(c.toNat, points), by simp [hsplit], rfl, rfl⟩
  | none =>
    cases hrun : runs.find? (fun run ↦ run.covers c.toNat) with
    | some run =>
      have hcovers : run.covers c.toNat = true := by simpa using List.find?_some hrun
      exact .inr (.inl ⟨run, List.mem_of_find?_eq_some hrun, hcovers, rfl⟩)
    | none => exact .inr (.inr rfl)

/-- The images of the run are characters beyond ASCII. -/
def CaseRun.isBeyondAscii (run : CaseRun) : Bool :=
  128 ≤ run.image &&
    (run.imageOf run.last < 0xD800 || 0xE000 ≤ run.image && run.imageOf run.last < 0x110000)

/-- The images of a run beyond ASCII are beyond ASCII. -/
theorem CaseRun.le_toNat_imageOf {run : CaseRun} (h : run.isBeyondAscii = true) {n : Nat}
    (hn : n ≤ run.last) : 128 ≤ (Char.ofNat (run.imageOf n)).toNat := by
  obtain ⟨himage, hlast⟩ : 128 ≤ run.image ∧ (run.imageOf run.last < 0xD800 ∨
      0xE000 ≤ run.image ∧ run.imageOf run.last < 0x110000) := by
    simpa [isBeyondAscii] using h
  unfold imageOf at hlast
  have hvalid : (run.imageOf n).isValidChar := by
    show run.image + (n - run.first) < 0xD800 ∨
      0xDFFF < run.image + (n - run.first) ∧ run.image + (n - run.first) < 0x110000
    omega
  have hnat : (Char.ofNat (run.imageOf n)).toNat = run.image + (n - run.first) := by
    rw [Char.ofNat, dif_pos hvalid]
    rfl
  omega

/-- Whether the tables map to ASCII nothing from beyond it but the characters listed. -/
def tablesKeepBeyond (spelled : List SpelledCase) (runs : List CaseRun) (cs : Text) : Bool :=
  spelled.all (fun entry ↦ decide (IsAscii (entry.2.map Char.ofNat) → Char.ofNat entry.1 ∈ cs)) &&
    runs.all fun run ↦ run.isBeyondAscii || run.last < 128 ||
      run.first == run.last && cs.contains (Char.ofNat run.first)

/-- A character with a form in ASCII is in ASCII, or it is one of those that the check of the tables
has listed. -/
theorem toNat_lt_or_mem_of_mapCase {spelled : List SpelledCase} {runs : List CaseRun} {cs : Text}
    (htables : tablesKeepBeyond spelled runs cs = true) {c : Char}
    (h : IsAscii (mapCase spelled runs c)) : c.toNat < 128 ∨ c ∈ cs := by
  obtain ⟨hspelled, hruns⟩ := Bool.and_eq_true_iff.1 htables
  -- the form is spelled out in the table, or that of a run, or the character itself
  rcases mapCase_cases spelled runs c with ⟨entry, hentry, hc, himage⟩ | ⟨run, hrun, hc, himage⟩ |
    himage
  · have hmem := of_decide_eq_true (List.all_eq_true.1 hspelled entry hentry) (himage ▸ h)
    rw [hc, Char.ofNat_toNat] at hmem
    exact .inr hmem
  · obtain ⟨⟨hfirst, hlast⟩, -⟩ : (run.first ≤ c.toNat ∧ c.toNat ≤ run.last) ∧ _ := by
      simpa [CaseRun.covers] using hc
    have hcases : (run.isBeyondAscii = true ∨ run.last < 128) ∨
        run.first = run.last ∧ Char.ofNat run.first ∈ cs := by
      simpa using List.all_eq_true.1 hruns run hrun
    rcases hcases with (hbeyond | hlt) | ⟨heq, hmem⟩
    · have hascii := h (Char.ofNat (run.imageOf c.toNat)) (by simp [himage])
      exact absurd (run.le_toNat_imageOf hbeyond hlast) (by omega)
    · exact .inl (by omega)
    · have hpoint : run.first = c.toNat := by omega
      rw [hpoint, Char.ofNat_toNat] at hmem
      exact .inr hmem
  · exact .inl (h c (by simp [himage]))

/-- The characters beyond ASCII with an image in ASCII in upper case: the sharp s, the dotless i,
the long s, and the ligatures of `f` and of `st`. -/
def asciiInUpper : Text := ['ß', 'ı', 'ſ', 'ﬀ', 'ﬁ', 'ﬂ', 'ﬃ', 'ﬄ', 'ﬅ', 'ﬆ']

theorem toNat_lt_or_mem_of_upperChar {c : Char} (h : IsAscii (upperChar c)) :
    c.toNat < 128 ∨ c ∈ asciiInUpper :=
  toNat_lt_or_mem_of_mapCase (by decide +kernel) h

/-- In lower case the Kelvin sign is the only such character. -/
theorem toNat_lt_or_mem_of_lowerChar {c : Char} (h : IsAscii (lowerChar c)) :
    c.toNat < 128 ∨ c ∈ ['\u212a'] :=
  toNat_lt_or_mem_of_mapCase (by decide +kernel) h

/-- No character is mapped to a line feed but the line feed. -/
theorem eq_lineFeed_of_mem_upperChar {c : Char} (h : '\n' ∈ upperChar c) : c = '\n' := by
  rcases mapCase_cases upperSpelled upperRuns c with ⟨entry, hentry, -, himage⟩ |
    ⟨run, hrun, -, himage⟩ | himage
  · have hnone : ∀ entry ∈ upperSpelled, '\n' ∉ entry.2.map Char.ofNat := by decide +kernel
    exact absurd (himage ▸ h) (hnone entry hentry)
  · have himages : ∀ run ∈ upperRuns, 10 < run.image := by decide +kernel
    have hlt : 10 < run.imageOf c.toNat :=
      Nat.lt_of_lt_of_le (himages run hrun) (Nat.le_add_right ..)
    have hchar : (Char.ofNat (run.imageOf c.toNat)).toNat = 10 := by
      have hmem : '\n' ∈ [Char.ofNat (run.imageOf c.toNat)] := himage ▸ h
      rw [← List.mem_singleton.1 hmem]
      rfl
    by_cases hvalid : (run.imageOf c.toNat).isValidChar
    · have hnat : (Char.ofNat (run.imageOf c.toNat)).toNat = run.imageOf c.toNat := by
        rw [Char.ofNat, dif_pos hvalid]
        rfl
      omega
    · -- without a character at this place it would be the null character
      rw [Char.ofNat, dif_neg hvalid] at hchar
      exact absurd hchar (by decide)
  · have hmem : '\n' ∈ [c] := himage ▸ h
    exact (List.mem_singleton.1 hmem).symm

/-- No character becomes a line feed in upper case. -/
theorem lineFeed_not_mem_upper {t : Text} (h : '\n' ∉ t) : '\n' ∉ t.upper := by
  intro hmem
  obtain ⟨c, hc, hchar⟩ := List.mem_flatMap.1 hmem
  exact h (eq_lineFeed_of_mem_upperChar hchar ▸ hc)

theorem lower_of_isAscii {t : Text} (h : IsAscii t) : t.lower = t.map Char.toLower := by
  rw [lower, List.flatMap_congr fun c hc ↦ lowerChar_of_toNat_lt (h c hc), List.map_eq_flatMap]

end ThreeAddress.Text
