import ThreeAddress.Offsets
import ThreeAddress.Proofs.Line
import ThreeAddress.Proofs.Operand.Value

/-!
# Every cut is at a character

The offsets at which a line and the spelling of an integer are cut are offsets of characters in
them, so that what is cut off is there and is the part that is said of characters elsewhere. A
comment mark begins where it is found (`uncommentedAt?_eq`). Behind a sign it is the first byte that
is looked at: a byte below 128 is a character of its own (`head?_utf8_eq_some_iff`), and a sign has
one. The zero and the letter in the mark of a base have one each (`Base.digitsAt?_eq`).
-/

namespace ThreeAddress

open Text

namespace Text

theorem sliceTo?_append (s t : Text) : (s ++ t).sliceTo? (byteLength s) = some s :=
  slice?_eq_some_iff.2 ⟨[], t, rfl, rfl, rfl⟩

theorem sliceFrom?_append (s t : Text) : (s ++ t).sliceFrom? (byteLength s) = some t :=
  slice?_eq_some_iff.2 ⟨s, [], by simp, rfl, rfl⟩

/-! ### The offset of a character -/

/-- The offset of a character is the number of bytes before it. -/
theorem byteLength_takeWhile_of_offset? {c : Char} {t : Text} {n : Nat} (h : offset? c t = some n) :
    byteLength (t.takeWhile (· != c)) = n := by
  induction t generalizing n with
  | nil => exact absurd h (by simp [offset?])
  | cons d t ih =>
    rw [offset?] at h
    split_ifs at h with hd
    · obtain rfl := Option.some.inj h
      simp [hd]
    · obtain ⟨m, hm, rfl⟩ := Option.map_eq_some_iff.1 h
      rw [List.takeWhile_cons_of_pos (by simpa using hd), byteLength_cons, ih hm]

/-- There is no offset of a character that is not there. -/
theorem not_mem_of_offset? {c : Char} {t : Text} (h : offset? c t = none) : c ∉ t := by
  induction t with
  | nil => simp
  | cons d t ih =>
    rw [offset?] at h
    split_ifs at h with hd
    exact List.not_mem_cons_of_ne_of_not_mem (Ne.symm hd) (ih (Option.map_eq_none_iff.1 h))

/-! ### The first byte -/

/-- The first byte of a character is below 128 only if it is the whole character. -/
theorem head?_utf8EncodeChar_eq_some_iff {c : Char} {n : Nat} (hn : n < 128) :
    (String.utf8EncodeChar c).head? = some (UInt8.ofNat n) ↔ c.toNat = n := by
  have hofNat : ∀ m : Nat, some (UInt8.ofNat m) = some (UInt8.ofNat n) ↔ m % 256 = n := by
    intro m
    have hlt : n < 2 ^ 8 := by omega
    rw [Option.some_inj, ← UInt8.toNat_inj, UInt8.toNat_ofNat', UInt8.toNat_ofNat',
      Nat.mod_eq_of_lt hlt]
  show _ ↔ c.val.toNat = n
  unfold String.utf8EncodeChar
  dsimp only
  -- the first of several bytes is 192 at least, and `n` is below that
  split_ifs with h₁ h₂ h₃ <;> rw [List.head?_cons, hofNat] <;> omega

theorem utf8Size_of_toNat_lt {c : Char} (h : c.toNat < 128) : c.utf8Size = 1 :=
  Char.utf8Size_eq_one_iff.2 (UInt32.le_iff_toNat_le.2 (Nat.lt_succ_iff.1 h))

/-- The first byte is that of a character with a single byte if the text begins with it. -/
theorem head?_utf8_eq_some_iff {c : Char} (hc : c.toNat < 128) {t : Text} :
    t.utf8.head? = some (UInt8.ofNat c.toNat) ↔ ∃ rest, t = c :: rest := by
  cases t with
  | nil => simp [utf8]
  | cons d t =>
    have hsome : (String.utf8EncodeChar d).head?.isSome = true := by
      rw [List.isSome_head?, ← List.length_pos_iff, String.length_utf8EncodeChar]
      exact d.utf8Size_pos
    obtain ⟨b, hb⟩ := Option.isSome_iff_exists.1 hsome
    have hhead : (utf8 (d :: t)).head? = (String.utf8EncodeChar d).head? := by
      rw [utf8, List.flatMap_cons, List.head?_append, hb, Option.some_or]
    rw [hhead, head?_utf8EncodeChar_eq_some_iff hc, Char.toNat_inj]
    simp

end Text

/-! ### The parts of a line -/

/-- **A line is cut before its comment mark.** -/
theorem uncommentedAt?_eq (line : Text) : uncommentedAt? line = some (uncommented line) := by
  rw [uncommentedAt?]
  cases h : line.offset? commentMark with
  | none => rw [uncommented_of_not_mem (not_mem_of_offset? h)]
  | some n =>
    obtain ⟨comment, hline⟩ := exists_eq_uncommented_append line
    have hcut := sliceTo?_append (uncommented line) comment
    rw [← hline, uncommented, byteLength_takeWhile_of_offset? h] at hcut
    exact hcut

/-! ### The parts of an integer -/

/-- **The spelling of an integer is cut behind its sign.** -/
theorem Numeral.unsignedAt?_eq (payload : Text) :
    unsignedAt? payload = some (unsigned payload) := by
  unfold unsignedAt?
  split
  case h_1 h =>
    obtain ⟨rest, rfl⟩ := (head?_utf8_eq_some_iff (c := '-') (by decide)).1 h
    exact sliceFrom?_append ['-'] rest
  case h_2 h =>
    obtain ⟨rest, rfl⟩ := (head?_utf8_eq_some_iff (c := '+') (by decide)).1 h
    exact sliceFrom?_append ['+'] rest
  case h_3 hminus hplus =>
    rw [unsigned]
    · rintro t rfl
      exact hplus ((head?_utf8_eq_some_iff (c := '+') (by decide)).2 ⟨t, rfl⟩)
    · rintro t rfl
      exact hminus ((head?_utf8_eq_some_iff (c := '-') (by decide)).2 ⟨t, rfl⟩)

namespace Base

/-- Cutting two bytes off in place is taking the mark off, for a mark is two bytes. -/
theorem unmarkedAt?_eq (b : Base) (t : Text) :
    b.unmarkedAt? t = some ((b.afterMark? t).getD t) := by
  unfold unmarkedAt?
  split
  case h_1 c rest =>
    rw [afterMark?]
    split_ifs with hmark
    · have hletter : c.utf8Size = 1 :=
        utf8Size_of_toNat_lt (toNat_lt_of_isAlpha (isAlpha_of_mark? hmark))
      have hcut := sliceFrom?_append ['0', c] rest
      rwa [byteLength_cons, byteLength_cons, hletter] at hcut
    · rfl
  case h_2 hne =>
    rw [afterMark?]
    · rfl
    · exact hne

/-- **The digits of an integer are cut behind its sign and the mark of its base.** -/
theorem digitsAt?_eq (b : Base) (payload : Text) :
    b.digitsAt? payload = some (b.digits payload) := by
  rw [digitsAt?, Numeral.unsignedAt?_eq, Option.bind_eq_bind, Option.bind_some, unmarkedAt?_eq]
  rfl

end Base

end ThreeAddress
