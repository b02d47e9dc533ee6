import ThreeAddress.Text.Basic
import ThreeAddress.Text.CaseTable

/-!
# Upper and lower case

Full case conversion of text, character by character: an image may have more characters than the
text it comes from (`ß` becomes `SS`). The capital sigma always becomes the medial form: which of
its two small forms a word takes depends on the neighbours, and a text is only lowered here to be
compared with one that has no sigma.

A character is looked up among the spelled images first and in the runs next; one that is in
neither is its own image.
-/

namespace ThreeAddress.Text

/-- Whether the code point `n` is one of the points of the run. -/
def CaseRun.covers (run : CaseRun) (n : Nat) : Bool :=
  run.first ≤ n && n ≤ run.last && (n - run.first) % run.step == 0

/-- The code point that a run maps `n` to. -/
def CaseRun.imageOf (run : CaseRun) (n : Nat) : Nat := run.image + (n - run.first)

/-- The image of one character under the mapping that the two tables describe. -/
def mapCase (spelled : List SpelledCase) (runs : List CaseRun) (c : Char) : Text :=
  match spelled.lookup c.toNat with
  | some points => points.map Char.ofNat
  | none =>
    match runs.find? fun run ↦ run.covers c.toNat with
    | some run => [Char.ofNat (run.imageOf c.toNat)]
    | none => [c]

/-- The upper case form of a character. -/
def upperChar (c : Char) : Text := mapCase upperSpelled upperRuns c

/-- The lower case form of a character. -/
def lowerChar (c : Char) : Text := mapCase lowerSpelled lowerRuns c

/-- The text in upper case. -/
def upper (t : Text) : Text := t.flatMap upperChar

/-- The text in lower case. -/
def lower (t : Text) : Text := t.flatMap lowerChar

@[simp] theorem upper_nil : upper [] = [] := rfl

@[simp] theorem upper_cons (c : Char) (t : Text) : upper (c :: t) = upperChar c ++ upper t := rfl

@[simp] theorem upper_append (s t : Text) : upper (s ++ t) = upper s ++ upper t := by
  simp [upper]

@[simp] theorem lower_nil : lower [] = [] := rfl

@[simp] theorem lower_cons (c : Char) (t : Text) : lower (c :: t) = lowerChar c ++ lower t := rfl

@[simp] theorem lower_append (s t : Text) : lower (s ++ t) = lower s ++ lower t := by
  simp [lower]

/-- One capital of two characters, one of one, and a letter outside the first block. -/
example : upper ['ß', 'ſ', '𐐨'] = ['S', 'S', 'S', '𐐀'] := by decide

end ThreeAddress.Text
