import BidArchive.Bid.Basic
import BidArchive.Proofs.Number.Numeral

/-!
# What a key says about its bid

A key joins five texts with a bar, and the three in the middle are free to hold
bars of their own. Its first part cannot, nor can its last: both are numerals. So
whatever the hashes look like, a key begins with the slot and ends with the value,
and bids of one key agree in both.
-/

namespace BidArchive

open Chain (Slot)

theorem Chain.Slot.text_inj {a b : Slot} (h : a.text = b.text) : a = b :=
  Slot.eq_iff.mpr (Numeral.int_repr_inj h)

theorem Chain.Slot.bar_not_mem_text (s : Slot) : '|' ∉ s.text.toList := by
  intro h
  rcases Numeral.mem_int_repr h with h | h
  · exact absurd h (by decide)
  · exact absurd h (by decide)

theorem Wide.bar_not_mem_text (w : Wide) : '|' ∉ w.text.toList := by
  intro h
  exact absurd (Numeral.isDigit_of_mem_nat_repr h) (by decide)

/-- Texts that agree up to the first separator in them agree before it. -/
theorem eq_of_append_separator {separator : Char} {a b x y : List Char} (ha : separator ∉ a)
    (hb : separator ∉ b) (h : a ++ separator :: x = b ++ separator :: y) : a = b ∧ x = y := by
  induction a generalizing b with
  | nil =>
      cases b with
      | nil => exact ⟨rfl, (List.cons.inj h).2⟩
      | cons c b => exact absurd ((List.cons.inj h).1 ▸ List.mem_cons_self) hb
  | cons c a ih =>
      cases b with
      | nil => exact absurd ((List.cons.inj h).1 ▸ List.mem_cons_self) ha
      | cons d b =>
          obtain ⟨hcd, ht⟩ := List.cons.inj h
          obtain ⟨hab, hxy⟩ := ih (fun hm => ha (List.mem_cons_of_mem _ hm))
            (fun hm => hb (List.mem_cons_of_mem _ hm)) ht
          exact ⟨by rw [hcd, hab], hxy⟩

namespace Bid

/-- What stands between the bar behind the slot and the bar before the value. -/
def keyMiddle (bid : Bid) : List Char :=
  bid.blockHash.toList ++ '|' :: (bid.parentHash.toList ++ '|' :: bid.builderPubkey.toList)

theorem key_toList (bid : Bid) :
    bid.key.toList
      = bid.slot.text.toList ++ '|' :: (bid.keyMiddle ++ '|' :: bid.value.text.toList) := by
  unfold key keyMiddle
  rw [String.toList_intercalate]
  simp [List.intercalate]

/-- A bid of which little is known but the slot and the value. -/
def plain (slot : Slot) (value : Wide) : Bid where
  source := .dataApi
  receivedAtMs := 0
  timestampMs := none
  slot := slot
  value := value
  blockHash := ""
  parentHash := ""
  builderPubkey := ""
  blockNumber := 0
  blockFeeRecipient := ""
  relay := ""
  proposerPubkey := ""
  proposerFeeRecipient := ""
  optimisticSubmission := none

/-- **Bids of one key are bids for one slot.** -/
theorem slot_eq_of_key_eq {a b : Bid} (h : a.key = b.key) : a.slot = b.slot := by
  have hl := congrArg String.toList h
  rw [key_toList, key_toList] at hl
  have hs := (eq_of_append_separator a.slot.bar_not_mem_text b.slot.bar_not_mem_text hl).1
  exact Slot.text_inj (String.toList_inj.mp hs)

/-- **Bids of one key offer the same value.** -/
theorem value_eq_of_key_eq {a b : Bid} (h : a.key = b.key) : a.value = b.value := by
  have hl := congrArg String.toList h
  rw [key_toList, key_toList] at hl
  have hm := (eq_of_append_separator a.slot.bar_not_mem_text b.slot.bar_not_mem_text hl).2
  -- the last bar of the key is the first one read from its end
  have hr := congrArg List.reverse hm
  simp only [List.reverse_append, List.reverse_cons, List.append_assoc, List.singleton_append] at hr
  have hv := (eq_of_append_separator (fun hb => Wide.bar_not_mem_text _ (List.mem_reverse.mp hb))
    (fun hb => Wide.bar_not_mem_text _ (List.mem_reverse.mp hb)) hr).1
  exact Numeral.wide_text_inj (String.toList_inj.mp (List.reverse_inj.mp hv))

/-- Bars in the hashes may shift between them, but not into the slot or the value. -/
example : { plain ⟨7⟩ 5 with blockHash := "a|b" }.key = "7|a|b|||5" := by decide +kernel

end Bid

end BidArchive
