import Mathlib.Data.List.Infix
import ThreeAddress.Proofs.Draft.Step
import ThreeAddress.Proofs.Text.CaseImage

/-!
# What passes for the header and for the name of an operation

The header is compared in lower case and the name of an operation in upper case, and both mappings
know all of Unicode. What they tolerate beyond the letter case of ASCII is found by going through
the mappings backwards. The header and the names are written in ASCII, so that only those characters
matter whose images are in ASCII too.

In lower case this is one character beyond ASCII, and the header has no `k`
(`lower_eq_lower_header_iff`). In upper case there are ten. Four of them count for letters that are
to be found in names (`Opcode.CountsAs`); the images of the others, of a sharp s and of the
ligatures of `f`, are in none (`Opcode.not_infix_name`).
-/

namespace ThreeAddress

open Text

/-! ### The header -/

/-- No character beyond ASCII has a lower case form that is part of the header. -/
theorem isAscii_of_lower_eq_lower_header {s : Text} (h : s.lower = header.lower) : IsAscii s := by
  have hheader : header.lower = header.map Char.toLower := lower_of_isAscii (by decide)
  have hascii : IsAscii (header.map Char.toLower) := by decide
  intro c hc
  have himage : ∀ d ∈ lowerChar c, d ∈ header.map Char.toLower := by
    intro d hd
    rw [← hheader, ← h]
    exact List.mem_flatMap.2 ⟨c, hc, hd⟩
  rcases toNat_lt_or_mem_of_lowerChar fun d hd ↦ hascii d (himage d hd) with hlt | hkelvin
  · exact hlt
  · obtain rfl := List.mem_singleton.1 hkelvin
    exact absurd (himage 'k' (by decide +kernel)) (by decide)

/-- **In lower case nothing passes for the header but the header in another letter case.** -/
theorem lower_eq_lower_header_iff {s : Text} : s.lower = header.lower ↔ SameButCase s header := by
  constructor
  · intro h
    have hascii := isAscii_of_lower_eq_lower_header h
    rwa [lower_of_isAscii hascii, lower_of_isAscii (by decide : IsAscii header)] at h
  · exact SameButCase.lower_eq

/-- A draft that awaits the header takes it from the content of a line, and from nothing else. -/
theorem Draft.accepts_withHeader_iff {d : Draft} (hphase : d.phase = .awaitingHeader)
    {line : Text} : d.Accepts line d.withHeader ↔ SameButCase (content line) header := by
  rw [← lower_eq_lower_header_iff]
  show _ ↔ IsHeader line
  by_cases hwords : contentWords line = []
  · rw [accepts_iff_of_eq_nil hwords]
    constructor
    · intro h
      have hbody : Phase.body = d.phase := congrArg Draft.phase h
      exact absurd (hphase.symm.trans hbody.symm) (by simp)
    · intro h
      exact absurd hwords (contentWords_ne_nil_of_isHeader h)
  · rw [accepts_iff_of_awaitingHeader hphase hwords]
    exact and_iff_left rfl

/-! ### The names of operations -/

namespace Opcode

/-- The text is what the character counts for in the name of an operation. -/
inductive CountsAs : Char → Text → Prop
  /-- A character of ASCII counts for itself in upper case. -/
  | ascii {c : Char} (h : c.toNat < 128) : CountsAs c [c.toUpper]
  /-- The dotless i, U+0131. -/
  | dotlessI : CountsAs 'ı' ['I']
  /-- The long s, U+017F. -/
  | longS : CountsAs 'ſ' ['S']
  /-- The ligature of a long s and t, U+FB05. -/
  | longST : CountsAs 'ﬅ' ['S', 'T']
  /-- The ligature of s and t, U+FB06. -/
  | st : CountsAs 'ﬆ' ['S', 'T']

/-- The characters beyond ASCII that count for something. -/
def letterLike : Text := ['ı', 'ſ', 'ﬅ', 'ﬆ']

/-- What a character counts as is its upper case form. -/
theorem CountsAs.upperChar_eq {c : Char} {image : Text} (h : CountsAs c image) :
    upperChar c = image := by
  cases h with
  | ascii h => exact upperChar_of_toNat_lt h
  | dotlessI => decide +kernel
  | longS => decide +kernel
  | longST => decide +kernel
  | st => decide +kernel

/-- A character that counts as something is in ASCII or one of the few beyond it. -/
theorem CountsAs.toNat_lt_or_mem {c : Char} {image : Text} (h : CountsAs c image) :
    c.toNat < 128 ∨ c ∈ letterLike := by
  cases h with
  | ascii h => exact .inl h
  | dotlessI => exact .inr (by decide)
  | longS => exact .inr (by decide)
  | longST => exact .inr (by decide)
  | st => exact .inr (by decide)

/-- Each of the few characters beyond ASCII counts as something. -/
theorem exists_countsAs_of_mem {c : Char} (h : c ∈ letterLike) : ∃ image, CountsAs c image := by
  have hcases : c = 'ı' ∨ c = 'ſ' ∨ c = 'ﬅ' ∨ c = 'ﬆ' := by simpa [letterLike] using h
  rcases hcases with rfl | rfl | rfl | rfl
  · exact ⟨_, .dotlessI⟩
  · exact ⟨_, .longS⟩
  · exact ⟨_, .longST⟩
  · exact ⟨_, .st⟩

/-- The other images in ASCII have pairs of letters that are nowhere in a name. -/
theorem not_infix_name (op : Opcode) {c : Char} (hc : c ∈ asciiInUpper) (hne : c ∉ letterLike) :
    ¬upperChar c <:+: op.name := by
  have himage : ∀ c ∈ asciiInUpper, c ∉ letterLike →
      upperChar c ∈ ["SS", "FF", "FI", "FL", "FFI", "FFL"].map String.toList := by
    decide +kernel
  have hnone : ∀ op ∈ all, ∀ t ∈ ["SS", "FF", "FI", "FL", "FFI", "FFL"].map String.toList,
      ¬t <:+: op.name := by
    decide +kernel
  exact hnone op (mem_all op) _ (himage c hc hne)

theorem isAscii_name (op : Opcode) : IsAscii op.name := by
  have hall : ∀ op ∈ all, IsAscii op.name := by decide
  exact hall op (mem_all op)

/-- A character of a word that is a name in upper case counts for its image. -/
theorem countsAs_upperChar {op : Opcode} {s : Text} (hop : op.name = s.upper) {c : Char}
    (hc : c ∈ s) : CountsAs c (upperChar c) := by
  obtain ⟨before, after, rfl⟩ := List.append_of_mem hc
  -- an image is not torn apart, so that two letters of it are neighbours in the name
  have h : upperChar c <:+: op.name :=
    ⟨upper before, upper after, by rw [hop, upper_append, upper_cons, List.append_assoc]⟩
  have hascii : IsAscii (upperChar c) := fun d hd ↦ op.isAscii_name d (h.subset hd)
  obtain ⟨image, himage⟩ : ∃ image, CountsAs c image := by
    rcases toNat_lt_or_mem_of_upperChar hascii with hlt | hmem
    · exact ⟨_, .ascii hlt⟩
    · by_cases hletter : c ∈ letterLike
      · exact exists_countsAs_of_mem hletter
      · exact absurd h (op.not_infix_name hmem hletter)
  rwa [himage.upperChar_eq]

/-- The upper case form of a text is made of those of its characters. -/
theorem upper_eq_flatten {s : Text} {images : List Text} (h : List.Forall₂ CountsAs s images) :
    s.upper = images.flatten := by
  induction h with
  | nil => rfl
  | cons hc _ ih => rw [upper_cons, List.flatten_cons, ih, hc.upperChar_eq]

/-- **A word names an operation when its characters count for the name**, one after another. -/
theorem ofWord_eq_ok_iff_countsAs {s : Text} {op : Opcode} : ofWord s = .ok op ↔
    ∃ images, List.Forall₂ CountsAs s images ∧ images.flatten = op.name := by
  rw [ofWord_eq_ok_iff]
  constructor
  · intro h
    refine ⟨s.map upperChar, ?_, by rw [h, upper, List.flatMap_def]⟩
    rw [List.forall₂_map_right_iff, List.forall₂_same]
    exact fun c ↦ countsAs_upperChar h
  · intro h
    obtain ⟨images, himages, hname⟩ := h
    rw [← hname, upper_eq_flatten himages]

/-- A word is asked for in upper case only. -/
theorem ofWord_eq_of_sameButCase {s t : Text} (h : SameButCase s t) : ofWord s = ofWord t := by
  rw [ofWord, ofWord, ofWord?, ofWord?, h.upper_eq]

end Opcode

/-! ### Both of them -/

/-- What the text passes for, as the content of a line and as the name of an operation. -/
structure CaseFolding (s : Text) : Prop where
  /-- Where the header is awaited, the text is taken for it if it is the header in another letter
  case of ASCII. -/
  header_iff : ∀ (d : Draft) (line : Text), d.phase = .awaitingHeader → content line = s →
    ((d.accept line).outcome = .ok d.withHeader ↔ SameButCase s header)
  /-- Any other text is refused. -/
  header_refused : ∀ (d : Draft) (line : Text), d.phase = .awaitingHeader →
    contentWords line ≠ [] → content line = s → ¬SameButCase s header →
      (d.accept line).outcome =
        .error (d.countLine.failure line (contentWords line) (.incorrectHeader s))
  /-- Nothing beyond ASCII passes for a character of the header. -/
  header_isAscii : SameButCase s header → IsAscii s
  /-- The text names an operation if its characters count for the name. -/
  opcode_iff : ∀ op : Opcode, Opcode.ofWord s = .ok op ↔
    ∃ images, List.Forall₂ Opcode.CountsAs s images ∧ images.flatten = op.name
  /-- Beyond ASCII it has only the four characters that count for something. -/
  opcode_mem : ∀ op : Opcode, Opcode.ofWord s = .ok op →
    ∀ c ∈ s, c.toNat < 128 ∨ c ∈ ['ı', 'ſ', 'ﬅ', 'ﬆ']
  /-- If it names no operation, it is quoted in upper case. -/
  opcode_unknown :
    (∀ op : Opcode, ¬∃ images, List.Forall₂ Opcode.CountsAs s images ∧ images.flatten = op.name) →
      Opcode.ofWord s = .error (.unknownOpcode s.upper)
  /-- The letter case of ASCII makes no difference to either. -/
  header_sameButCase : ∀ (d : Draft) (line line' : Text), d.phase = .awaitingHeader →
    content line = s → SameButCase s (content line') →
      ((d.accept line').outcome = .ok d.withHeader ↔ (d.accept line).outcome = .ok d.withHeader)
  opcode_sameButCase : ∀ t, SameButCase s t → Opcode.ofWord t = Opcode.ofWord s

/-- **What passes for the header and for the name of an operation** is told by single characters. -/
theorem caseFolding (s : Text) : CaseFolding s where
  header_iff d line hphase hs := by
    rw [Draft.outcome_accept_eq_ok_iff, Draft.accepts_withHeader_iff hphase, hs]
  header_refused d line hphase hwords hs hne := by
    have hheader : ¬IsHeader line := fun h ↦ hne (hs ▸ lower_eq_lower_header_iff.1 h)
    rw [Draft.outcome_accept_header hphase hwords, if_neg hheader, hs]
  header_isAscii h := isAscii_of_lower_eq_lower_header h.lower_eq
  opcode_iff op := Opcode.ofWord_eq_ok_iff_countsAs
  opcode_mem op h c hc :=
    (Opcode.countsAs_upperChar (Opcode.ofWord_eq_ok_iff.1 h) hc).toNat_lt_or_mem
  opcode_unknown hnone := by
    refine Opcode.ofWord_eq_error_iff.2 ⟨rfl, fun op hop ↦ ?_⟩
    exact hnone op (Opcode.ofWord_eq_ok_iff_countsAs.1 (Opcode.ofWord_eq_ok_iff.2 hop))
  header_sameButCase d line line' hphase hs hsame := by
    rw [Draft.outcome_accept_eq_ok_iff, Draft.outcome_accept_eq_ok_iff,
      Draft.accepts_withHeader_iff hphase, Draft.accepts_withHeader_iff hphase, hs]
    exact ⟨hsame.trans, hsame.symm.trans⟩
  opcode_sameButCase t h := (Opcode.ofWord_eq_of_sameButCase h).symm

/-- A ligature and a long s in names, and a sharp s in none. -/
example : Opcode.ofWord "ﬆrlen".toList = .ok .strlen ∧ Opcode.ofWord "ſub".toList = .ok .sub ∧
    Opcode.ofWord "puß".toList = .error (.unknownOpcode "PUSS".toList) := by
  decide +kernel

end ThreeAddress
