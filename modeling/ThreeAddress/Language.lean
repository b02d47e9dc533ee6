import ThreeAddress.Text.Words

/-!
# The shape of a source

A source is a sequence of lines. A line ends at `\r\n`, at `\n`, or at a `\r` that no `\n` follows.
The breaks separate lines and are not part of them, so a text always has one line more than it has
breaks, and the empty text has one line, which is empty.

A source begins with a header line that names the language. On every line a comment runs from the
first comment mark to the end; what stands before it is the content of the line, and a line means
the words of its content and nothing else.
-/

namespace ThreeAddress

/-! ### Lines -/

namespace Text

/-- The lines of a text, without their breaks. -/
def lines : Text → List Text
  | [] => [[]]
  | '\r' :: '\n' :: t => [] :: lines t
  | '\r' :: t => [] :: lines t
  | '\n' :: t => [] :: lines t
  | c :: t => (lines t).modifyHead (c :: ·)

theorem lines_ne_nil (t : Text) : lines t ≠ [] := by
  fun_induction lines t with
  | case1 => simp
  | case2 => simp
  | case3 => simp
  | case4 => simp
  | case5 c t _ _ _ ih =>
    cases h : lines t with
    | nil => exact absurd h ih
    | cons => simp

/-- A text without breaks is one line. -/
theorem lines_eq_singleton {t : Text} (h : ∀ c ∈ t, c ≠ '\r' ∧ c ≠ '\n') : lines t = [t] := by
  fun_induction lines t with
  | case1 => rfl
  | case2 => simp at h
  | case3 => simp at h
  | case4 => simp at h
  | case5 c t _ _ _ ih => rw [ih fun d hd ↦ h d (List.mem_cons_of_mem _ hd)]; rfl

example : lines ['a', '\r', '\n', '\r', 'b', '\n'] = [['a'], [], ['b'], []] := by decide

end Text

/-! ### The content of a line -/

/-- The name of the source language. -/
def languageName : Text := "IPPcode24".toList

/-- The header, as it is written in messages; a source may use any letter case. -/
def header : Text := ".IPPcode24".toList

/-- The character that begins a comment. -/
def commentMark : Char := '#'

/-- The line up to its comment. -/
def uncommented (line : Text) : Text := line.takeWhile (· != commentMark)

/-- The words of a line outside its comment. -/
def contentWords (line : Text) : List Word := Text.words (uncommented line)

/-- The comment is cut off with its mark. -/
theorem commentMark_not_mem_uncommented (line : Text) : commentMark ∉ uncommented line := by
  intro h
  have := List.all_eq_true.1 (List.all_takeWhile (p := (· != commentMark)) (l := line)) _ h
  simp at this

example : (contentWords "  NOT # x".toList).map (·.text) = ["NOT".toList] := by decide

end ThreeAddress
