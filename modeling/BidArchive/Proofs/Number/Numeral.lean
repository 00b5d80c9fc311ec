import BidArchive.Number.Wide

/-!
# Numerals name their numbers

Slots, times and values are written in decimal. Two numbers are never written
alike, and a numeral holds nothing but digits and a hyphen, so that it ends where
any other character begins.
-/

namespace BidArchive.Numeral

theorem nat_repr_inj {m n : Nat} (h : m.repr = n.repr) : m = n := by
  have hd : Nat.toDigits 10 m = Nat.toDigits 10 n := by
    rw [← Nat.toList_repr, ← Nat.toList_repr, h]
  rw [← Nat.ofDigitChars_ten_toDigits (n := m), hd, Nat.ofDigitChars_ten_toDigits]

/-- The numeral of a natural number holds only digits. -/
theorem isDigit_of_mem_nat_repr {c : Char} {n : Nat} (h : c ∈ n.repr.toList) :
    c.isDigit = true := by
  rw [Nat.toList_repr] at h
  exact Nat.isDigit_of_mem_toDigits (by decide) (by decide) h

/-- The numeral of an integer holds only digits and the hyphen. -/
theorem mem_int_repr {c : Char} {n : Int} (h : c ∈ n.repr.toList) :
    c = '-' ∨ c.isDigit = true := by
  rw [Int.repr_eq_if] at h
  split at h
  · exact Or.inr (isDigit_of_mem_nat_repr h)
  · rw [String.toList_append] at h
    rcases List.mem_append.mp h with h | h
    · exact Or.inl (List.mem_singleton.mp h)
    · exact Or.inr (isDigit_of_mem_nat_repr h)

/-- No natural number is written with a hyphen. -/
theorem hyphen_append_ne_nat_repr (s : String) (n : Nat) : "-" ++ s ≠ n.repr := by
  intro h
  have hm : '-' ∈ n.repr.toList := by rw [← h, String.toList_append]; exact List.mem_cons_self
  exact absurd (isDigit_of_mem_nat_repr hm) (by decide)

theorem int_repr_inj {m n : Int} (h : m.repr = n.repr) : m = n := by
  rw [Int.repr_eq_if, Int.repr_eq_if] at h
  split at h <;> split at h
  · have := nat_repr_inj h; omega
  · exact absurd h.symm (hyphen_append_ne_nat_repr _ _)
  · exact absurd h (hyphen_append_ne_nat_repr _ _)
  · have := nat_repr_inj ((String.append_right_inj "-").mp h); omega

theorem wide_text_inj {v w : Wide} (h : v.text = w.text) : v = w :=
  BitVec.eq_of_toNat_eq (nat_repr_inj h)

end BidArchive.Numeral
