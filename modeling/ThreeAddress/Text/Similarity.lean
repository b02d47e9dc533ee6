import ThreeAddress.Text.Basic

/-!
# Similarity of texts

The Jaro–Winkler similarity, a fraction between zero and one that grows with the number of
characters that two texts have in common. It is computed exactly, as a quotient of two natural
numbers, so that comparing two similarities is comparing two products.

A character of one text is *matched* with the first equal character of the other that is not matched
yet and stands at most a window away, where the window is half the longer length, less one. A match
that lies to the left of the match before it counts as a transposition.
-/

namespace ThreeAddress.Text

/-- A fraction of natural numbers. -/
structure Fraction where
  /-- The numerator. -/
  num : Nat
  /-- The denominator. -/
  den : Nat
  deriving DecidableEq, Repr

/-- Whether one fraction is less than the other, for positive denominators. -/
def Fraction.lt (x y : Fraction) : Bool := x.num * y.den < y.num * x.den

/-- The places in `b` that the characters of `a` are matched with, in the order of those characters;
`i` is the place of the first of them in its text and `taken` are the places that are gone. -/
def matchesFrom (window : Nat) (b : Text) (i : Nat) (taken : List Nat) : Text → List Nat
  | [] => []
  | c :: a =>
    match (List.range b.length).find? fun j ↦
        i - window ≤ j && j ≤ i + window && b[j]? == some c && !taken.contains j with
    | some j => j :: matchesFrom window b (i + 1) (j :: taken) a
    | none => matchesFrom window b (i + 1) taken a

/-- The number of places that are less than the place before them. -/
def descents : List Nat → Nat
  | i :: j :: rest => (if j < i then 1 else 0) + descents (j :: rest)
  | _ => 0

/-- The Jaro similarity: the mean of the matched share of each text and the share of matches that
are in order. -/
def jaro (a b : Text) : Fraction :=
  let found := matchesFrom (max a.length b.length / 2 - 1) b 0 [] a
  let m := found.length
  if a.isEmpty && b.isEmpty then ⟨1, 1⟩
  else if m = 0 then ⟨0, 1⟩
  else
    ⟨m * m * b.length + m * m * a.length + (m - descents found) * a.length * b.length,
      3 * a.length * b.length * m⟩

/-- The number of characters that two texts share at their beginning. -/
def commonStart : Text → Text → Nat
  | c :: a, d :: b => if c = d then commonStart a b + 1 else 0
  | _, _ => 0

/-- The Jaro–Winkler similarity: every character of the common beginning closes a tenth of what is
missing from one. -/
def similarity (a b : Text) : Fraction :=
  let x := jaro a b
  let raised := 10 * x.num + commonStart a b * (x.den - x.num)
  ⟨min raised (10 * x.den), 10 * x.den⟩

/-- The text among `candidates` that is most similar to `t`, if one is more similar than four
fifths; the first of equally similar ones. -/
def closest? (t : Text) (candidates : List Text) : Option Text :=
  let better (best? : Option (Fraction × Text)) (candidate : Text) : Option (Fraction × Text) :=
    let x := similarity t candidate
    if Fraction.lt ⟨4, 5⟩ x && best?.all (fun best ↦ best.1.lt x) then some (x, candidate)
    else best?
  (candidates.foldl better none).map (·.2)

/-- `MARTHA` and `MARHTA` have six matches, one of them out of order. -/
example : jaro "MARTHA".toList "MARHTA".toList = ⟨612, 648⟩ := by decide

end ThreeAddress.Text
