import Mathlib.Data.Nat.Digits.Defs
import Mathlib.Tactic.Ring
import BidArchive.Number.Decimal
import BidArchive.Number.Wide
import BidArchive.Proofs.Text.NormalForm

/-!
# What digits spell

Slots are read with a sign and by one rule, values by another, in chunks from the left or, in
base sixteen, digit by digit from the right. Here is what all of them read: the number
that the digits spell in their base. Leading zeros spell nothing, and letters may be of
either case.

Digits are told apart at either end: the first one weighs the most (`spellsIn_cons_iff`), and the
last one moves all others up (`spellsIn_append_singleton_iff`).
-/

namespace BidArchive.Numeral

open Text (hexValue?)

variable {base n d : Nat} {c : Char} {cs : List Char}

/-- The number that digits spell in the base, the highest digit first. -/
def valueIn (base : Nat) (ds : List Nat) : Nat := Nat.ofDigits base ds.reverse

/-- The characters are digits, of either case, that spell the number in the base. -/
def SpellsIn (base : Nat) (cs : List Char) (n : Nat) : Prop :=
  ∃ ds : List Nat, cs.map hexValue? = ds.map some ∧ (∀ d ∈ ds, d < base) ∧ valueIn base ds = n

/-- The text spells the number in base ten, with or without a sign. -/
def Spells (text : String) (n : Int) : Prop :=
  ∃ digits m, digits ≠ [] ∧ SpellsIn 10 digits m
    ∧ (text.toList = digits ∧ n = m ∨ text.toList = '+' :: digits ∧ n = m
      ∨ text.toList = '-' :: digits ∧ n = -m)

/-- The text spells the number in base ten, or behind `0x` in base sixteen. -/
def SpellsWide (text : String) (n : Nat) : Prop :=
  ∃ digits, digits ≠ [] ∧ (text.toList = digits ∧ SpellsIn 10 digits n
    ∨ (∃ mark, (mark = 'x' ∨ mark = 'X') ∧ text.toList = '0' :: mark :: digits)
      ∧ SpellsIn 16 digits n)

@[simp] theorem valueIn_nil (base : Nat) : valueIn base [] = 0 := rfl

/-- The first digit weighs the most. -/
theorem valueIn_cons (base d : Nat) (ds : List Nat) :
    valueIn base (d :: ds) = d * base ^ ds.length + valueIn base ds := by
  unfold valueIn
  rw [List.reverse_cons, Nat.ofDigits_append, Nat.ofDigits_singleton, List.length_reverse,
    Nat.add_comm, Nat.mul_comm]

/-- How the readers take the digits, as characters and as bytes. -/
theorem digit_readings : ∀ n ∈ List.range 0x80, ∀ v ∈ hexValue? (Char.ofNat n),
    (v < 10 → Decimal.digit? (Char.ofNat n) = some v)
      ∧ (Char.ofNat n).toUInt8 ≠ Wide.separator
      ∧ Wide.digitValue? (Char.ofNat n).toUInt8 = some v := by
  decide +kernel

theorem readings_of_hexValue? (h : hexValue? c = some d) :
    (d < 10 → Decimal.digit? c = some d) ∧ c.toUInt8 ≠ Wide.separator
      ∧ Wide.digitValue? c.toUInt8 = some d := by
  have hread := digit_readings c.toNat (List.mem_range.mpr (Text.lt_of_hexValue? h))
  rw [Char.ofNat_toNat] at hread
  exact hread d h

theorem spellsIn_nil_iff : SpellsIn base [] n ↔ n = 0 := by
  constructor
  · rintro ⟨ds, hcs, -, rfl⟩
    obtain rfl : ds = [] := List.map_eq_nil_iff.mp hcs.symm
    rfl
  · intro h
    exact ⟨[], rfl, fun d hd => absurd hd List.not_mem_nil, h.symm⟩

/-- The first digit weighs the most. -/
theorem spellsIn_cons_iff : SpellsIn base (c :: cs) n
    ↔ ∃ d m, hexValue? c = some d ∧ d < base ∧ SpellsIn base cs m
      ∧ n = d * base ^ cs.length + m := by
  have hlength : ∀ ds : List Nat, cs.map hexValue? = ds.map some → cs.length = ds.length := by
    intro ds h
    simpa using congrArg List.length h
  constructor
  · rintro ⟨ds, hcs, hds, rfl⟩
    cases ds with
    | nil => exact absurd hcs (by simp)
    | cons d ds =>
        obtain ⟨hc, hrest⟩ := List.cons.inj hcs
        obtain ⟨hd, hds⟩ := List.forall_mem_cons.mp hds
        refine ⟨d, valueIn base ds, hc, hd, ⟨ds, hrest, hds, rfl⟩, ?_⟩
        rw [valueIn_cons, hlength ds hrest]
  · rintro ⟨d, m, hc, hd, ⟨ds, hrest, hds, rfl⟩, rfl⟩
    refine ⟨d :: ds, ?_, List.forall_mem_cons.mpr ⟨hd, hds⟩, ?_⟩
    · rw [List.map_cons, List.map_cons, hc, hrest]
    · rw [valueIn_cons, hlength ds hrest]

/-- The last digit is added to the others, which it moves up. -/
theorem spellsIn_append_singleton_iff : SpellsIn base (cs ++ [c]) n
    ↔ ∃ d m, hexValue? c = some d ∧ d < base ∧ SpellsIn base cs m ∧ n = m * base + d := by
  have hvalue : ∀ ds d, valueIn base (ds ++ [d]) = valueIn base ds * base + d := by
    intro ds d
    unfold valueIn
    rw [List.reverse_append, List.reverse_singleton, List.singleton_append, Nat.ofDigits_cons]
    ring
  constructor
  · rintro ⟨ds, hcs, hds, rfl⟩
    rw [List.map_append, List.map_singleton] at hcs
    obtain ⟨front, last, rfl, hfront, hlast⟩ := List.append_eq_map_iff.mp hcs
    obtain ⟨d, rfl, hd⟩ := List.map_eq_singleton_iff.mp hlast
    have hds_front : ∀ x ∈ front, x < base := fun x hx => hds x (List.mem_append_left _ hx)
    refine ⟨d, valueIn base front, hd.symm, hds d (by simp), ⟨front, ?_, hds_front, rfl⟩, ?_⟩
    · exact hfront.symm
    · exact hvalue front d
  · rintro ⟨d, m, hc, hd, ⟨ds, hcs, hds, rfl⟩, rfl⟩
    refine ⟨ds ++ [d], ?_, ?_, hvalue ds d⟩
    · rw [List.map_append, List.map_append, hcs, List.map_singleton, List.map_singleton, hc]
    · intro x hx
      rcases List.mem_append.mp hx with hx | hx
      · exact hds x hx
      · rw [List.mem_singleton.mp hx]
        exact hd

/-- Digits spell one number at most. -/
theorem SpellsIn.unique {m : Nat} (h : SpellsIn base cs n) (h' : SpellsIn base cs m) : n = m := by
  induction cs generalizing n m with
  | nil => rw [spellsIn_nil_iff.mp h, spellsIn_nil_iff.mp h']
  | cons c rest ih =>
      obtain ⟨d, k, hc, -, hk, rfl⟩ := spellsIn_cons_iff.mp h
      obtain ⟨d', k', hc', -, hk', rfl⟩ := spellsIn_cons_iff.mp h'
      rw [Option.some.inj (hc.symm.trans hc'), ih hk hk']

/-- Digits are ASCII. -/
theorem ascii_of_spellsIn (h : SpellsIn base cs n) : ∀ c ∈ cs, c.toNat < 0x80 := by
  obtain ⟨ds, hcs, -⟩ := h
  intro c hc
  have hc' : hexValue? c ∈ ds.map some := hcs ▸ List.mem_map_of_mem hc
  obtain ⟨d, -, hval⟩ := List.mem_map.mp hc'
  exact Text.lt_of_hexValue? hval.symm

end BidArchive.Numeral
