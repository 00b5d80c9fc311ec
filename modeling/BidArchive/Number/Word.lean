/-!
# Sixty-four bit words

Timestamps, slots and counters are words of sixty-four bits. Arithmetic on them is done in the
integers and brought back with `signed?`, which answers `none` when the result does not fit. A
caller then decides what an overflow means: some calculations clamp, some have no answer, the rest
stop the program.

Its law is one equivalence: `signed? n = some w ↔ w.toInt = n`.
-/

namespace BidArchive.Word

/-- The signed word whose value is `n`, if `n` fits. -/
def signed? (n : Int) : Option Int64 :=
  if -0x8000000000000000 ≤ n ∧ n < 0x8000000000000000 then some (Int64.ofInt n) else none

theorem signed?_eq_some_iff {n : Int} {w : Int64} : signed? n = some w ↔ w.toInt = n := by
  unfold signed?
  constructor
  · intro h
    split at h
    · rename_i hn
      rw [← Option.some.inj h]
      exact Int64.toInt_ofInt_of_le (by omega) (by omega)
    · simp at h
  · rintro rfl
    have hlo := w.le_toInt
    have hhi := w.toInt_lt
    rw [if_pos ⟨by omega, by omega⟩, Int64.ofInt_toInt]

theorem signed?_eq_none_iff {n : Int} :
    signed? n = none ↔ n < -0x8000000000000000 ∨ 0x8000000000000000 ≤ n := by
  unfold signed?
  split <;> simp <;> omega

theorem exists_toInt_eq {n : Int} (hlo : -0x8000000000000000 ≤ n)
    (hhi : n < 0x8000000000000000) : ∃ w : Int64, w.toInt = n :=
  ⟨Int64.ofInt n, Int64.toInt_ofInt_of_le (by omega) (by omega)⟩

/-- The sum, if it fits. -/
def add? (a b : Int64) : Option Int64 := signed? (a.toInt + b.toInt)

/-- The difference, if it fits. -/
def sub? (a b : Int64) : Option Int64 := signed? (a.toInt - b.toInt)

/-- The product, if it fits. -/
def mul? (a b : Int64) : Option Int64 := signed? (a.toInt * b.toInt)

theorem add?_eq_some_iff {a b w : Int64} : add? a b = some w ↔ w.toInt = a.toInt + b.toInt :=
  signed?_eq_some_iff

theorem sub?_eq_some_iff {a b w : Int64} : sub? a b = some w ↔ w.toInt = a.toInt - b.toInt :=
  signed?_eq_some_iff

theorem mul?_eq_some_iff {a b w : Int64} : mul? a b = some w ↔ w.toInt = a.toInt * b.toInt :=
  signed?_eq_some_iff

end BidArchive.Word
