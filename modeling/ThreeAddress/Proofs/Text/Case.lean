import ThreeAddress.Text.Words
import ThreeAddress.Text.Case

/-!
# The letter case of basic Latin

Two texts that differ in the case of the letters from `A` to `Z` only are equal for everything that
reads them without regard to case: they have the same image in upper case and the same in lower case
(`SameButCase.upper_eq`, `SameButCase.lower_eq`), although both mappings know all of Unicode. The
one fact behind this is about a single character: it is mapped like the small letter that it is or
belongs to, since the capital letters are 26 cases to look at and every other character is its own
small letter.
-/

namespace ThreeAddress.Text

/-! ### ASCII -/

/-- What is asked of the characters below a bound is found out by looking at each. -/
theorem of_toNat_lt {p : Char → Prop} {n : Nat} (hall : ∀ k < n, p (Char.ofNat k)) :
    ∀ c : Char, c.toNat < n → p c := by
  intro c hc
  rw [← Char.ofNat_toNat c]
  exact hall c.toNat hc

/-- Where only the first run of a table is about ASCII, that run alone has the images in ASCII. -/
theorem mapCase_of_toNat_lt {spelled : List SpelledCase} {run : CaseRun} {runs : List CaseRun}
    (hspelled : ∀ entry ∈ spelled, 128 ≤ entry.1) (hruns : ∀ run ∈ runs, 128 ≤ run.first) {c : Char}
    (hc : c.toNat < 128) : mapCase spelled (run :: runs) c =
      if run.covers c.toNat then [Char.ofNat (run.imageOf c.toNat)] else [c] := by
  have hlookup : spelled.lookup c.toNat = none := by
    refine List.lookup_eq_none_iff.2 fun entry hentry ↦ ?_
    have hentry := hspelled entry hentry
    have hne : c.toNat ≠ entry.1 := by omega
    simpa using hne
  have hrest : runs.find? (fun run ↦ run.covers c.toNat) = none := by
    refine List.find?_eq_none.2 fun run hrun hcovers ↦ ?_
    have hrun := hruns run hrun
    simp only [CaseRun.covers, Bool.and_eq_true, decide_eq_true_eq] at hcovers
    omega
  rw [mapCase, hlookup, List.find?_cons]
  cases run.covers c.toNat with
  | true => rfl
  | false => simp [hrest]

/-- In upper case ASCII is mapped letter by letter. -/
theorem upperChar_of_toNat_lt {c : Char} (h : c.toNat < 128) : upperChar c = [c.toUpper] := by
  have himage : ∀ c : Char, c.toNat < 128 →
      (if CaseRun.covers ⟨0x61, 0x7A, 1, 0x41⟩ c.toNat then
        [Char.ofNat (CaseRun.imageOf ⟨0x61, 0x7A, 1, 0x41⟩ c.toNat)] else [c]) = [c.toUpper] :=
    of_toNat_lt (by decide +kernel)
  rw [← himage c h]
  exact mapCase_of_toNat_lt (by decide +kernel) (by decide +kernel) h

/-- In lower case as well. -/
theorem lowerChar_of_toNat_lt {c : Char} (h : c.toNat < 128) : lowerChar c = [c.toLower] := by
  have himage : ∀ c : Char, c.toNat < 128 →
      (if CaseRun.covers ⟨0x41, 0x5A, 1, 0x61⟩ c.toNat then
        [Char.ofNat (CaseRun.imageOf ⟨0x41, 0x5A, 1, 0x61⟩ c.toNat)] else [c]) = [c.toLower] :=
    of_toNat_lt (by decide +kernel)
  rw [← himage c h]
  exact mapCase_of_toNat_lt (by decide +kernel) (by decide +kernel) h

/-! ### Texts that differ in letter case only -/

/-- The texts differ at most in the case of the letters from `A` to `Z`. -/
def SameButCase (s t : Text) : Prop := s.map Char.toLower = t.map Char.toLower

instance (s t : Text) : Decidable (SameButCase s t) :=
  inferInstanceAs (Decidable (s.map Char.toLower = t.map Char.toLower))

/-- What holds of the capital letters and is no question of case holds of every character. -/
theorem apply_toLower {α : Type} {f : Char → α}
    (hcapital : ∀ n ∈ List.range' 65 26, f (Char.ofNat n).toLower = f (Char.ofNat n)) (c : Char) :
    f c.toLower = f c := by
  by_cases hc : c.val ≥ 'A'.val ∧ c.val ≤ 'Z'.val
  · have hle : 65 ≤ c.toNat := UInt32.le_iff_toNat_le.1 hc.1
    have hge : c.toNat ≤ 90 := UInt32.le_iff_toNat_le.1 hc.2
    have h := hcapital c.toNat (List.mem_range'_1.2 ⟨hle, by omega⟩)
    rwa [Char.ofNat_toNat] at h
  · have hsame : c.toLower = c := dif_neg hc
    rw [hsame]

theorem upperChar_toLower (c : Char) : upperChar c.toLower = upperChar c :=
  apply_toLower (by decide +kernel) c

theorem lowerChar_toLower (c : Char) : lowerChar c.toLower = lowerChar c :=
  apply_toLower (by decide +kernel) c

theorem isBlank_toLower (c : Char) : isBlank c.toLower = isBlank c :=
  apply_toLower (by decide +kernel) c

namespace SameButCase

variable {s t : Text}

theorem refl (t : Text) : SameButCase t t := rfl

theorem symm (h : SameButCase s t) : SameButCase t s := Eq.symm h

theorem append (h : SameButCase s t) (u : Text) : SameButCase (s ++ u) (t ++ u) := by
  rw [SameButCase, List.map_append, List.map_append, h]

/-- What does not change when a text is put in small letters is the same for both. -/
theorem apply_eq {α : Type} {f : Text → α} (hf : ∀ t : Text, f (t.map Char.toLower) = f t)
    (h : SameButCase s t) : f s = f t := by
  rw [← hf s, h, hf t]

/-- **In upper case the texts are equal.** -/
theorem upper_eq (h : SameButCase s t) : s.upper = t.upper :=
  h.apply_eq fun t ↦ by simp [upper, List.flatMap_map, upperChar_toLower]

/-- **In lower case the texts are equal.** -/
theorem lower_eq (h : SameButCase s t) : s.lower = t.lower :=
  h.apply_eq fun t ↦ by simp [lower, List.flatMap_map, lowerChar_toLower]

theorem eq_nil_iff (h : SameButCase s t) : s = [] ↔ t = [] :=
  iff_of_eq (h.apply_eq (f := (· = [])) fun t ↦ by simp)

end SameButCase

end ThreeAddress.Text
