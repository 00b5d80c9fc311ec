import BidArchive.Proofs.Number.Spelling

/-!
# Which texts are integers

A numeral is taken if and only if the number that it spells lies within bounds. The reader does
not know that number before the end: it stops at the first digit with which what was read
so far leaves the bounds. Since what was read so far only grows in size, it stops no numeral that
would have come to lie within them, however many zeros lead it (`readUp_eq_ok_iff`). Downwards it
reads what it would read upwards with all signs turned (`readDown_eq_ok_iff`).

Every integer has a numeral, the one that it is written as (`spells_repr`).
-/

namespace BidArchive.Numeral

open Text (hexValue?)

variable {base n d : Nat} {c : Char} {cs : List Char} {text : String}

/-- The text spells the number in base ten, with or without a plus sign. -/
def SpellsUnsigned (text : String) (n : Nat) : Prop :=
  ∃ digits, digits ≠ [] ∧ SpellsIn 10 digits n
    ∧ (text.toList = digits ∨ text.toList = '+' :: digits)

/-! ## Digits and signs -/

/-- The readers of integers take the digits of base ten. -/
theorem digit?_eq_some_iff : Decimal.digit? c = some d ↔ hexValue? c = some d ∧ d < 10 := by
  constructor
  · intro h
    unfold Decimal.digit? at h
    split at h
    · rename_i hrange
      have hvalue : hexValue? c = some d := by
        unfold hexValue?
        rw [if_pos hrange]
        exact h
      have hhigh : c.toNat ≤ 57 := hrange.2
      have hlow : '0'.toNat = 48 := by decide
      refine ⟨hvalue, ?_⟩
      have hd := Option.some.inj h
      omega
    · exact absurd h (by simp)
  · rintro ⟨hc, hd⟩
    exact (readings_of_hexValue? hc).1 hd

/-- No digit is a sign. -/
theorem not_sign_of_hexValue? (h : hexValue? c = some d) : c ≠ '+' ∧ c ≠ '-' := by
  have hplus : hexValue? '+' = none := by decide
  have hminus : hexValue? '-' = none := by decide
  constructor
  · rintro rfl
    exact absurd (hplus.symm.trans h) (by simp)
  · rintro rfl
    exact absurd (hminus.symm.trans h) (by simp)

/-- Digits without a sign are read upwards. -/
theorem read_digits {lo hi : Int} (hne : cs ≠ []) (h : SpellsIn 10 cs n) :
    Decimal.read lo hi cs = Decimal.readUp hi 0 cs := by
  cases cs with
  | nil => exact absurd rfl hne
  | cons c rest =>
      obtain ⟨d, m, hc, -⟩ := spellsIn_cons_iff.mp h
      obtain ⟨hplus, hminus⟩ := not_sign_of_hexValue? hc
      unfold Decimal.read
      split <;> simp_all

/-! ## Within bounds -/

/-- **Upwards, digits are read if and only if the number that they make stays within the bound.** -/
theorem readUp_eq_ok_iff {hi acc r : Int} (hacc : 0 ≤ acc) (hle : acc ≤ hi) :
    Decimal.readUp hi acc cs = .ok r
      ↔ ∃ n, SpellsIn 10 cs n ∧ r = acc * 10 ^ cs.length + n ∧ r ≤ hi := by
  induction cs generalizing acc with
  | nil =>
      rw [Decimal.readUp]
      constructor
      · intro h
        obtain rfl := Except.ok.inj h
        exact ⟨0, spellsIn_nil_iff.mpr rfl, by simp, hle⟩
      · rintro ⟨n, hn, hr, -⟩
        obtain rfl := spellsIn_nil_iff.mp hn
        simp [hr]
  | cons c rest ih =>
      rw [Decimal.readUp]
      cases hdigit : Decimal.digit? c with
      | none =>
          refine iff_of_false (by simp) ?_
          rintro ⟨n, hn, -⟩
          obtain ⟨d, m, hc, hd, -⟩ := spellsIn_cons_iff.mp hn
          rw [digit?_eq_some_iff.mpr ⟨hc, hd⟩] at hdigit
          exact absurd hdigit (by simp)
      | some d =>
          obtain ⟨hc, hd⟩ := digit?_eq_some_iff.mp hdigit
          have hnext : 0 ≤ acc * 10 + d := by omega
          -- the number with this digit in front of all that follow
          have hvalue : ∀ m : Nat, acc * 10 ^ (c :: rest).length
                + ((d * 10 ^ rest.length + m : Nat) : Int)
              = (acc * 10 + d) * 10 ^ rest.length + m := by
            intro m
            rw [List.length_cons]
            push_cast
            ring
          dsimp only
          split
          · rename_i hfits
            rw [ih hnext hfits]
            constructor
            · rintro ⟨m, hm, hr, hhi⟩
              refine ⟨d * 10 ^ rest.length + m, ?_, ?_, hhi⟩
              · exact spellsIn_cons_iff.mpr ⟨d, m, hc, hd, hm, rfl⟩
              · rw [hr, hvalue]
            · rintro ⟨n, hn, hr, hhi⟩
              obtain ⟨d', m, hc', -, hm, rfl⟩ := spellsIn_cons_iff.mp hn
              obtain rfl := Option.some.inj (hc.symm.trans hc')
              exact ⟨m, hm, hr.trans (hvalue m), hhi⟩
          · -- past the bound already, and more digits make it only larger
            rename_i hexceeds
            refine iff_of_false (by simp) ?_
            rintro ⟨n, hn, hr, hhi⟩
            obtain ⟨d', m, hc', -, hm, rfl⟩ := spellsIn_cons_iff.mp hn
            obtain rfl := Option.some.inj (hc.symm.trans hc')
            have hgrows : (acc * 10 + d) * 1 ≤ (acc * 10 + d) * 10 ^ rest.length :=
              Int.mul_le_mul_of_nonneg_left (Int.pow_pos (by decide)) hnext
            rw [hr, hvalue] at hhi
            omega

/-- Downwards, digits are read as upwards with all signs turned. -/
theorem readDown_eq_ok_iff {lo acc r : Int} :
    Decimal.readDown lo acc cs = .ok r ↔ Decimal.readUp (-lo) (-acc) cs = .ok (-r) := by
  induction cs generalizing acc with
  | nil =>
      rw [Decimal.readDown, Decimal.readUp, Except.ok.injEq, Except.ok.injEq]
      omega
  | cons c rest ih =>
      rw [Decimal.readDown, Decimal.readUp]
      cases Decimal.digit? c with
      | none => exact iff_of_false (by simp) (by simp)
      | some d =>
          have hturned : -(acc * 10 - (d : Int)) = -acc * 10 + d := by omega
          have hbound : lo ≤ acc * 10 - d ↔ -acc * 10 + d ≤ -lo := by omega
          dsimp only
          by_cases hfits : lo ≤ acc * 10 - d
          · rw [if_pos hfits, if_pos (hbound.mp hfits), ih, hturned]
          · rw [if_neg hfits, if_neg (mt hbound.mpr hfits)]
            exact iff_of_false (by simp) (by simp)

/-- **A text is read within bounds if and only if it is a numeral of a number within them**, with a
minus sign where there are negative numbers. -/
theorem read_eq_ok_iff {lo hi r : Int} (hlo : lo ≤ 0) (hhi : 0 ≤ hi) :
    Decimal.read lo hi cs = .ok r
      ↔ lo ≤ r ∧ r ≤ hi ∧ ∃ digits n, digits ≠ [] ∧ SpellsIn 10 digits n
        ∧ (cs = digits ∧ r = n ∨ cs = '+' :: digits ∧ r = n
          ∨ cs = '-' :: digits ∧ lo < 0 ∧ r = -n) := by
  have hup : ∀ digits, Decimal.readUp hi 0 digits = .ok r
      ↔ ∃ n, SpellsIn 10 digits n ∧ r = n ∧ r ≤ hi := by
    intro digits
    rw [readUp_eq_ok_iff (Int.le_refl 0) hhi]
    simp
  have hdown : ∀ digits, Decimal.readDown lo 0 digits = .ok r
      ↔ ∃ n, SpellsIn 10 digits n ∧ r = -n ∧ lo ≤ r := by
    intro digits
    rw [readDown_eq_ok_iff, Int.neg_zero, readUp_eq_ok_iff (Int.le_refl 0) (by omega)]
    constructor
    · rintro ⟨n, hn, hr, hle⟩
      exact ⟨n, hn, by omega, by omega⟩
    · rintro ⟨n, hn, hr, hle⟩
      exact ⟨n, hn, by omega, by omega⟩
  constructor
  · intro h
    unfold Decimal.read at h
    split at h
    · exact absurd h (by simp)
    · exact absurd h (by simp)
    · exact absurd h (by simp)
    · rename_i digits hne
      obtain ⟨n, hn, hr, hle⟩ := (hup digits).mp h
      exact ⟨by omega, hle, digits, n, by simpa using hne, hn, Or.inr (Or.inl ⟨rfl, hr⟩)⟩
    · rename_i digits hne
      split at h
      · rename_i hneg
        obtain ⟨n, hn, hr, hle⟩ := (hdown digits).mp h
        exact ⟨hle, by omega, digits, n, by simpa using hne, hn, Or.inr (Or.inr ⟨rfl, hneg, hr⟩)⟩
      · exact absurd h (by simp)
    · rename_i hne _ _ _ _
      obtain ⟨n, hn, hr, hle⟩ := (hup cs).mp h
      exact ⟨by omega, hle, cs, n, by simpa using hne, hn, Or.inl ⟨rfl, hr⟩⟩
  · rintro ⟨hlow, hle, digits, n, hne, hn, ⟨rfl, hr⟩ | ⟨rfl, hr⟩ | ⟨rfl, hneg, hr⟩⟩
    · rw [read_digits hne hn]
      exact (hup _).mpr ⟨n, hn, hr, hle⟩
    · rw [Decimal.read]
      · exact (hup digits).mpr ⟨n, hn, hr, hle⟩
      · simpa using hne
    · rw [Decimal.read, if_pos hneg]
      · exact (hdown digits).mpr ⟨n, hn, hr, hlow⟩
      · simpa using hne

/-- With a minus sign allowed, it is the numerals of numbers within bounds that are read. -/
theorem read_eq_ok_iff_spells {lo hi r : Int} (hlo : lo < 0) (hhi : 0 ≤ hi) :
    Decimal.read lo hi text.toList = .ok r ↔ Spells text r ∧ lo ≤ r ∧ r ≤ hi := by
  rw [read_eq_ok_iff (Int.le_of_lt hlo) hhi]
  constructor
  · rintro ⟨hlow, hhigh, digits, n, hne, hn, htext⟩
    refine ⟨⟨digits, n, hne, hn, ?_⟩, hlow, hhigh⟩
    rcases htext with htext | htext | ⟨htext, -, hr⟩
    · exact Or.inl htext
    · exact Or.inr (Or.inl htext)
    · exact Or.inr (Or.inr ⟨htext, hr⟩)
  · rintro ⟨⟨digits, n, hne, hn, htext⟩, hlow, hhigh⟩
    refine ⟨hlow, hhigh, digits, n, hne, hn, ?_⟩
    rcases htext with htext | htext | ⟨htext, hr⟩
    · exact Or.inl htext
    · exact Or.inr (Or.inl htext)
    · exact Or.inr (Or.inr ⟨htext, hlo, hr⟩)

/-- **A text spells one integer at most.** -/
theorem Spells.unique {m n : Int} (h : Spells text m) (h' : Spells text n) : m = n := by
  -- it is the one that is read within bounds wide enough for both
  have hread : ∀ k, Spells text k → k.natAbs ≤ m.natAbs + n.natAbs →
      Decimal.read (-(m.natAbs + n.natAbs + 1)) (m.natAbs + n.natAbs) text.toList = .ok k := by
    intro k hk hle
    exact (read_eq_ok_iff_spells (by omega) (by omega)).mpr ⟨hk, by omega, by omega⟩
  exact Except.ok.inj ((hread m h (by omega)).symm.trans (hread n h' (by omega)))

/-! ## Words -/

/-- A calculation that is carried on comes to a result if and only if it does. -/
theorem map_eq_ok_iff {φ α β : Type} {x : Except φ α} {f : α → β} {b : β} :
    x.map f = .ok b ↔ ∃ a, x = .ok a ∧ f a = b := by
  cases x with
  | error fault => simp [Except.map]
  | ok a => simp [Except.map]

/-- **A text is read as a signed word if and only if it spells its number.** -/
theorem signed_eq_ok_iff {w : Int64} : Decimal.signed text = .ok w ↔ Spells text w.toInt := by
  have hmin : Int64.minValue.toInt = -0x8000000000000000 := by decide
  have hmax : Int64.maxValue.toInt = 0x7fffffffffffffff := by decide
  unfold Decimal.signed
  rw [map_eq_ok_iff]
  constructor
  · rintro ⟨r, hr, rfl⟩
    obtain ⟨hspells, hlow, hhigh⟩ := (read_eq_ok_iff_spells (by omega) (by omega)).mp hr
    rwa [Int64.toInt_ofInt_of_le (by omega) (by omega)]
  · intro hspells
    have hlow := w.le_toInt
    have hhigh := w.toInt_lt
    refine ⟨w.toInt, (read_eq_ok_iff_spells (by omega) (by omega)).mpr ?_, Int64.ofInt_toInt w⟩
    exact ⟨hspells, by omega, by omega⟩

/-- **A text is read as an unsigned word if and only if it spells its number.** -/
theorem unsigned_eq_ok_iff {w : UInt64} :
    Decimal.unsigned text = .ok w ↔ SpellsUnsigned text w.toNat := by
  unfold Decimal.unsigned
  rw [map_eq_ok_iff]
  constructor
  · rintro ⟨r, hr, rfl⟩
    obtain ⟨hlow, hhigh, digits, n, hne, hn, htext⟩ :=
      (read_eq_ok_iff (by omega) (by omega)).mp hr
    rcases htext with ⟨htext, rfl⟩ | ⟨htext, rfl⟩ | ⟨-, hneg, -⟩
    · rw [Int.toNat_natCast, UInt64.toNat_ofNat_of_lt' (by simp [UInt64.size]; omega)]
      exact ⟨digits, hne, hn, Or.inl htext⟩
    · rw [Int.toNat_natCast, UInt64.toNat_ofNat_of_lt' (by simp [UInt64.size]; omega)]
      exact ⟨digits, hne, hn, Or.inr htext⟩
    · exact absurd hneg (by decide)
  · rintro ⟨digits, hne, hn, htext⟩
    have hhigh := w.toNat_lt
    refine ⟨w.toNat, (read_eq_ok_iff (by omega) (by omega)).mpr ?_, ?_⟩
    · refine ⟨by omega, by omega, digits, w.toNat, hne, hn, ?_⟩
      rcases htext with htext | htext
      · exact Or.inl ⟨htext, rfl⟩
      · exact Or.inr (Or.inl ⟨htext, rfl⟩)
    · rw [Int.toNat_natCast, UInt64.ofNat_toNat]

/-! ## How integers are written -/

theorem hexValue?_digitChar : ∀ d < 10, hexValue? (Nat.digitChar d) = some d := by decide

/-- The digits of a number in base ten spell it. -/
theorem spellsIn_toDigits (n : Nat) : SpellsIn 10 (Nat.toDigits 10 n) n := by
  induction n using Nat.strongRecOn with
  | ind n ih =>
      by_cases hsmall : n < 10
      · rw [Nat.toDigits_of_lt_base hsmall]
        refine spellsIn_cons_iff.mpr ⟨n, 0, hexValue?_digitChar n hsmall, hsmall, ?_, by simp⟩
        exact spellsIn_nil_iff.mpr rfl
      · have hlast : n % 10 < 10 := Nat.mod_lt _ (by decide)
        rw [Nat.toDigits_of_base_le (by decide) (by omega)]
        refine spellsIn_append_singleton_iff.mpr ⟨n % 10, n / 10, hexValue?_digitChar _ hlast,
          hlast, ih (n / 10) (by omega), ?_⟩
        omega

/-- A natural number is written as an unsigned numeral that spells it. -/
theorem spellsUnsigned_repr (n : Nat) : SpellsUnsigned n.repr n :=
  ⟨Nat.toDigits 10 n, Nat.toDigits_ne_nil, spellsIn_toDigits n, Or.inl Nat.toList_repr⟩

/-- **An integer is written as a numeral that spells it.** -/
theorem spells_repr (n : Int) : Spells n.repr n := by
  rw [Int.repr_eq_if]
  split
  · rename_i hpos
    refine ⟨Nat.toDigits 10 n.toNat, n.toNat, Nat.toDigits_ne_nil, spellsIn_toDigits _, ?_⟩
    exact Or.inl ⟨Nat.toList_repr, by omega⟩
  · rename_i hneg
    refine ⟨Nat.toDigits 10 (-n).toNat, (-n).toNat, Nat.toDigits_ne_nil, spellsIn_toDigits _, ?_⟩
    refine Or.inr (Or.inr ⟨?_, by omega⟩)
    rw [String.toList_append, Nat.toList_repr]
    rfl

end BidArchive.Numeral
