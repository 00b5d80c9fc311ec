import BidArchive.Proofs.Json.Records
import BidArchive.Proofs.Number.Values

/-!
# Which numbers are taken from texts

Each codec takes texts and nothing else, where it may not also take `null`, and of the texts those
that spell a number of its kind within its range. A text that it refuses is quoted with the fault
that was found in it (`refusal`).

Values are taken from all numerals that fit, and each is the number that its text spells. But they
are not taken from those alone: what spells a number loosely is taken as well, and a text of no
digits at all becomes a value (`values_from_texts`, `values_without_digits`).
-/

namespace BidArchive.Json

open Chain (Slot)
open Numeral (Spells SpellsUnsigned SpellsLoosely SpellsWide Strict)

variable {α : Type} {node : Node} {text : String}

/-! ## What is taken -/

/-- **A slot is taken from the texts that spell it**, if it is in range. -/
theorem slot_eq_ok_iff {s : Slot} : slot node = .ok s
    ↔ ∃ text, node = .text (some text) ∧ Spells text s.number.toInt ∧ s.inRange = true := by
  unfold slot
  rw [stringBy_eq_ok_iff]
  refine exists_congr fun text => and_congr_right fun _ => ?_
  rw [← Numeral.signed_eq_ok_iff]
  constructor
  · intro h
    split at h
    · exact absurd h (by simp)
    · rename_i hn
      split at h
      · rename_i hrange
        obtain rfl := Except.ok.inj h
        exact ⟨hn, hrange⟩
      · exact absurd h (by simp)
  · rintro ⟨hn, hrange⟩
    rw [hn]
    exact if_pos hrange

/-- A slot that is taken is the one that its text spells. -/
theorem toInt_of_slot {s : Slot} {n : Int} (h : slot (.text (some text)) = .ok s)
    (hn : Spells text n) : s.number.toInt = n := by
  obtain ⟨other, htext, hspells, -⟩ := slot_eq_ok_iff.mp h
  obtain rfl := Option.some.inj (Node.text.inj htext)
  exact hspells.unique hn

/-- **An unsigned word is taken from the texts that spell it.** -/
theorem unsignedWord_eq_ok_iff {n : UInt64} : unsignedWord node = .ok n
    ↔ ∃ text, node = .text (some text) ∧ SpellsUnsigned text n.toNat := by
  unfold unsignedWord
  rw [stringBy_eq_ok_iff]
  refine exists_congr fun text => and_congr_right fun _ => ?_
  rw [mapError_eq_ok_iff, Numeral.unsigned_eq_ok_iff]

/-- **A value is taken from the texts that spell it loosely.** -/
theorem wide_eq_ok_iff {v : Wide} : wide node = .ok v
    ↔ ∃ text, node = .text (some text) ∧ SpellsLoosely text v.toNat := by
  unfold wide
  rw [stringBy_eq_ok_iff]
  refine exists_congr fun text => and_congr_right fun _ => ?_
  rw [mapError_eq_ok_iff, Numeral.ofText_eq_ok_iff]

/-- What stands for the absence of a word. -/
def isAbsent : Node → Bool
  | .null => true
  | .text (some text) => text == ""
  | _ => false

theorem isAbsent_iff : isAbsent node = true ↔ node = .null ∨ node = .text (some "") := by
  unfold isAbsent
  split <;> simp_all

/-- The empty text spells nothing. -/
theorem not_spells_empty {n : Int} : ¬ Spells "" n := by
  rintro ⟨digits, m, hne, -, ⟨htext, -⟩ | ⟨htext, -⟩ | ⟨htext, -⟩⟩
  · exact hne htext.symm
  · exact absurd htext (by simp)
  · exact absurd htext (by simp)

/-- Other nodes than `null` and the empty text are read by the rule. -/
theorem optionalWord_of_not_absent (h : isAbsent node = false) : optionalWord node
    = stringBy (fun s => ((Decimal.signed s).mapError Decimal.Fault.message).map some)
        "an optional number as string e.g. \"1686000000000\"" node := by
  unfold optionalWord
  split
  · exact absurd h (by simp [isAbsent])
  · exact absurd h (by simp [isAbsent])
  · rfl

/-- **No word is taken from `null` and from the empty text.** -/
theorem optionalWord_eq_none_iff : optionalWord node = .ok none ↔ isAbsent node = true := by
  constructor
  · intro h
    by_contra habsent
    rw [optionalWord_of_not_absent (Bool.eq_false_iff.mpr habsent), stringBy_eq_ok_iff] at h
    obtain ⟨text, -, hrule⟩ := h
    obtain ⟨w, -, hw⟩ := exists_of_map_eq_ok hrule
    exact absurd hw (by simp)
  · intro h
    rcases isAbsent_iff.mp h with rfl | rfl
    · rfl
    · rfl

/-- **A signed word is taken from the texts that spell it.** -/
theorem optionalWord_eq_some_iff {n : Int64} : optionalWord node = .ok (some n)
    ↔ ∃ text, node = .text (some text) ∧ Spells text n.toInt := by
  have hread (h : isAbsent node = false) : optionalWord node = .ok (some n)
      ↔ ∃ text, node = .text (some text) ∧ Spells text n.toInt := by
    rw [optionalWord_of_not_absent h, stringBy_eq_ok_iff]
    refine exists_congr fun text => and_congr_right fun _ => ?_
    rw [Numeral.map_eq_ok_iff, ← Numeral.signed_eq_ok_iff]
    simp only [mapError_eq_ok_iff, Option.some.injEq, exists_eq_right]
  cases habsent : isAbsent node with
  | false => exact hread habsent
  | true =>
      -- there is no word, and the empty text spells none
      rw [optionalWord_eq_none_iff.mpr habsent]
      constructor
      · intro h
        exact absurd (Except.ok.inj h) (by simp)
      · rintro ⟨text, rfl, hspells⟩
        rcases isAbsent_iff.mp habsent with h | h
        · exact absurd h (by simp)
        · obtain rfl := Option.some.inj (Node.text.inj h)
          exact absurd hspells not_spells_empty

theorem boolean_eq_ok_iff {b : Bool} : boolean node = .ok b ↔ node = .bool b := by
  constructor
  · intro h
    unfold boolean at h
    split at h
    · rw [Except.ok.inj h]
    · exact absurd h unexpected_ne_ok
  · rintro rfl
    rfl

/-! ## What is refused -/

/-- A text of which no number is taken is refused with the fault that was found in it. -/
theorem exists_refusal {φ : Type} {rule : String → Except φ α} {message : φ → String}
    {expected : String}
    (h : ∀ a, stringBy (fun s => (rule s).mapError message) expected (.text (some text)) ≠ .ok a) :
    ∃ fault, rule text = .error fault
      ∧ stringBy (fun s => (rule s).mapError message) expected (.text (some text))
        = .error (refusal expected text (message fault)) := by
  rw [stringBy_text] at h ⊢
  cases hrule : rule text with
  | error fault => exact ⟨fault, rfl, rfl⟩
  | ok a =>
      rw [hrule] at h
      exact absurd rfl (h a)

/-! ## Values -/

theorem wide_text_eq_ok_iff {v : Wide} :
    wide (.text (some text)) = .ok v ↔ SpellsLoosely text v.toNat := by
  rw [wide_eq_ok_iff]
  constructor
  · rintro ⟨s, hs, hspells⟩
    exact Option.some.inj (Node.text.inj hs) ▸ hspells
  · intro h
    exact ⟨text, rfl, h⟩

/-- A value that is taken is the one that its numeral spells. -/
theorem eq_of_wide {v w : Wide} (h : wide (.text (some text)) = .ok w)
    (hv : SpellsWide text v.toNat) : w = v :=
  BitVec.eq_of_toNat_eq ((wide_text_eq_ok_iff.mp h).unique hv.spellsLoosely.1)

/-- **Values are taken from numerals, if they are written strictly.** Every numeral is. In all, what
spells a number loosely is taken for that number, and any other text is refused as it is where an
unsigned word is expected. -/
theorem values_from_texts (text : String) :
    (Strict text → ∀ v, wide (.text (some text)) = .ok v ↔ SpellsWide text v.toNat)
      ∧ (∀ n, SpellsWide text n → Strict text)
      ∧ (∀ v, wide (.text (some text)) = .ok v ↔ SpellsLoosely text v.toNat)
      ∧ ((¬ ∃ v : Wide, SpellsLoosely text v.toNat) →
        ∃ fault, Wide.ofText text = .error fault ∧ wide (.text (some text)) = .error (refusal
          "a number as string e.g. \"118908973575220938641041929\", which fits within u256"
          text fault.message))
      ∧ ((¬ ∃ n : UInt64, SpellsUnsigned text n.toNat) →
        ∃ fault, Decimal.unsigned text = .error fault
          ∧ unsignedWord (.text (some text)) = .error (refusal
            "a number as string e.g. \"17519480\", which fits within u64" text fault.message)) := by
  refine ⟨fun hs v => ?_, fun n h => h.spellsLoosely.2, fun v => wide_text_eq_ok_iff, ?_, ?_⟩
  · rw [wide_text_eq_ok_iff]
    exact ⟨fun h => h.spellsWide hs, fun h => h.spellsLoosely.1⟩
  · intro hnone
    refine exists_refusal fun v hv => hnone ⟨v, ?_⟩
    exact wide_text_eq_ok_iff.mp hv
  · intro hnone
    refine exists_refusal fun n hn => hnone ?_
    obtain ⟨s, hs, hspells⟩ := unsignedWord_eq_ok_iff.mp hn
    exact ⟨n, Option.some.inj (Node.text.inj hs) ▸ hspells⟩

/-- The same value in either base. -/
theorem values_from_texts_sixteen :
    wide (.text (some "16")) = .ok 16 ∧ wide (.text (some "0x10")) = .ok 16 := by
  constructor
  · refine ((values_from_texts "16").1 (by decide) 16).mpr ?_
    exact ⟨"16".toList, by decide, Or.inl ⟨rfl, [1, 6], by decide, by decide, by decide⟩⟩
  · refine ((values_from_texts "0x10").1 (by decide) 16).mpr ?_
    exact ⟨['1', '0'], by decide, Or.inr ⟨⟨'x', Or.inl rfl, rfl⟩, [1, 0], by decide, by decide,
      by decide⟩⟩

/-- **Texts that are no numerals are taken for values**: the empty text, a mark without digits,
other bases, and digits with underscores between them. -/
theorem values_without_digits :
    (wide (.text (some "")) = .ok 0 ∧ ¬ ∃ n, SpellsWide "" n)
      ∧ (wide (.text (some "0x")) = .ok 0 ∧ ¬ ∃ n, SpellsWide "0x" n)
      ∧ (wide (.text (some "0o17")) = .ok 15 ∧ ¬ ∃ n, SpellsWide "0o17" n)
      ∧ (wide (.text (some "1_0")) = .ok 10 ∧ ¬ ∃ n, SpellsWide "1_0" n) := by
  have hstrict (text : String) (h : ¬ Strict text) : ¬ ∃ n, SpellsWide text n :=
    fun ⟨_, hn⟩ => h hn.spellsLoosely.2
  refine ⟨⟨wide_text_eq_ok_iff.mpr ?_, hstrict _ (by decide)⟩,
    ⟨wide_text_eq_ok_iff.mpr ?_, hstrict _ (by decide)⟩,
    ⟨wide_text_eq_ok_iff.mpr ?_, hstrict _ (by decide)⟩,
    ⟨wide_text_eq_ok_iff.mpr ?_, hstrict _ (by decide)⟩⟩
  · exact ⟨[], by decide, by decide, by decide⟩
  · exact ⟨[], by decide, by decide, by decide⟩
  · exact ⟨[1, 7], by decide, by decide, by decide⟩
  · exact ⟨[1, 0], by decide, by decide, by decide⟩

end BidArchive.Json
