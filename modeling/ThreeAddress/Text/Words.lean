import ThreeAddress.Text.Basic

/-!
# Words

A character is blank when it has the Unicode property `White_Space`. These are 25 characters, among
them the line breaks, the no-break spaces and the wide space of East Asian text; the zero width
space and the byte order mark are not blank.

The words of a text are its maximal runs of characters that are not blank, each with the bytes it
occupies. The scan keeps the word it is inside of as `pending`, its last character in front,
together with the offset where that word began. So every step looks at one character, and the
recursion is on the text alone.
-/

namespace ThreeAddress

namespace Text

/-! ### Blank characters -/

/-- The first and last code point of each block of blank characters. -/
def blankBlocks : List (Nat × Nat) :=
  [(0x9, 0xD), (0x20, 0x20), (0x85, 0x85), (0xA0, 0xA0), (0x1680, 0x1680), (0x2000, 0x200A),
   (0x2028, 0x2029), (0x202F, 0x202F), (0x205F, 0x205F), (0x3000, 0x3000)]

/-- Whether a character is white space in the sense of Unicode. -/
def isBlank (c : Char) : Bool :=
  blankBlocks.any fun block ↦ block.1 ≤ c.toNat && c.toNat ≤ block.2

theorem isBlank_iff {c : Char} :
    isBlank c = true ↔ ∃ block ∈ blankBlocks, block.1 ≤ c.toNat ∧ c.toNat ≤ block.2 := by
  simp [isBlank]

/-- There are 25 blank characters. -/
example : (blankBlocks.map fun block ↦ block.2 + 1 - block.1).sum = 25 := by decide

end Text

/-! ### Words and their spans -/

/-- A run of characters that are not blank, and where it stands. -/
structure Word where
  /-- The characters of the word. -/
  text : Text
  /-- The bytes of the surrounding text that the word occupies. -/
  span : Span
  deriving DecidableEq, Repr

namespace Text

/-- The word of the characters `pending`, the last of them in front, that starts at byte `start`:
none if there are no characters. -/
def wordAt (start : Nat) (pending : Text) : List Word :=
  if pending = [] then [] else [⟨pending.reverse, start, start + byteLength pending⟩]

/-- The words of `pending.reverse ++ t`, where `pending` has no blank and that text starts at byte
`start`. -/
def wordsFrom (start : Nat) (pending : Text) : Text → List Word
  | [] => wordAt start pending
  | c :: t =>
    if isBlank c then
      wordAt start pending ++ wordsFrom (start + byteLength pending + c.utf8Size) [] t
    else wordsFrom start (c :: pending) t

/-- The words of a text, from left to right. -/
def words (t : Text) : List Word := wordsFrom 0 [] t

@[simp] theorem wordAt_nil (start : Nat) : wordAt start [] = [] := rfl

theorem wordAt_of_ne_nil {start : Nat} {pending : Text} (h : pending ≠ []) :
    wordAt start pending = [⟨pending.reverse, start, start + byteLength pending⟩] := if_neg h

@[simp] theorem wordsFrom_nil (start : Nat) (pending : Text) :
    wordsFrom start pending [] = wordAt start pending := rfl

theorem wordsFrom_cons_blank {start : Nat} {pending t : Text} {c : Char} (h : isBlank c = true) :
    wordsFrom start pending (c :: t) =
      wordAt start pending ++ wordsFrom (start + byteLength pending + c.utf8Size) [] t := by
  rw [wordsFrom, if_pos h]

theorem wordsFrom_cons_solid {start : Nat} {pending t : Text} {c : Char} (h : isBlank c = false) :
    wordsFrom start pending (c :: t) = wordsFrom start (c :: pending) t := by
  rw [wordsFrom, if_neg (by simp [h])]

/-- A run without blanks is taken into the pending word as a whole. -/
theorem wordsFrom_append_solid {start : Nat} {pending w t : Text}
    (h : ∀ c ∈ w, isBlank c = false) :
    wordsFrom start pending (w ++ t) = wordsFrom start (w.reverse ++ pending) t := by
  induction w generalizing pending with
  | nil => simp
  | cons c w ih =>
    rw [List.cons_append, wordsFrom_cons_solid (h c List.mem_cons_self),
      ih fun d hd ↦ h d (List.mem_cons_of_mem _ hd)]
    simp

/-- The bytes from the start of the first word to the end of the last. -/
def spanOfWords (ws : List Word) : Span :=
  match ws.head?, ws.getLast? with
  | some first, some last => ⟨first.span.start, last.span.stop⟩
  | _, _ => ⟨0, 0⟩

example : words ['\t', 'é', ' ', ' ', 'b', 'c'] =
    [⟨['é'], 1, 3⟩, ⟨['b', 'c'], 5, 7⟩] := by decide

end Text

end ThreeAddress
