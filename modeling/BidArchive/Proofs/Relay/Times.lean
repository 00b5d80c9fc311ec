import BidArchive.Proofs.Chain.Starts
import BidArchive.Proofs.Relay.Listing

/-!
# The integers of a trace

Slots, block numbers and times are taken from texts that spell them within their ranges, and from no
others. So each of them is read back from the text that it is written as.

The times of a trace may be left out. A trace then says as much of them as one that holds `null` or
the empty text in their place, which is nothing (`times_of_members`).
-/

namespace BidArchive.Relay.Trace

open Chain (Slot)
open Json (Node)
open Numeral (Spells SpellsUnsigned)

variable {members : List (Option String × Node)} {cut : Bool} {node : Node} {trace : Trace}

/-! ## The times of a trace -/

/-- What a time that may be left out is, by the members of its name. -/
structure Told (members : List (Option String × Node)) (name : String) (time : Option Int64) :
    Prop where
  none_iff : time = none
    ↔ ∀ node, (some name, node) ∈ members → node = .null ∨ node = .text (some "")
  some_iff : ∀ n, time = some n
    ↔ ∃ text, (some name, .text (some text)) ∈ members ∧ Spells text n.toInt

/-- A part of the draft that a field for times fills tells of the members of its name. -/
theorem told_of_fills {field : Json.Field Draft} {part : Draft → Option (Option Int64)}
    (hf : schema.Fills field Json.optionalWord part) (hempty : part schema.empty = none)
    {draft : Draft} (h : schema.readMembers schema.empty members = .ok draft) :
    Told members field.name (part draft).join := by
  have hmember {node : Node} (hmem : (some field.name, node) ∈ members) :
      Json.optionalWord node = .ok (part draft).join := by
    obtain ⟨x, hx, hpart⟩ := hf.exists_part hmem h
    rw [hx, hpart, Option.join_some]
  refine ⟨⟨fun hnone node hmem => ?_, fun hall => ?_⟩, fun n => ⟨fun hsome => ?_, ?_⟩⟩
  · have hread := hmember hmem
    rw [hnone] at hread
    exact Json.isAbsent_iff.mp (Json.optionalWord_eq_none_iff.mp hread)
  · by_cases habsent : some field.name ∈ members.map Prod.fst
    · obtain ⟨⟨name, node⟩, hmem, rfl⟩ := List.mem_map.mp habsent
      have hread := hmember hmem
      rw [Json.optionalWord_eq_none_iff.mpr (Json.isAbsent_iff.mpr (hall node hmem))] at hread
      exact (Except.ok.inj hread).symm
    · rw [hf.part_eq_of_absent lawful habsent h, hempty, Option.join_none]
  · -- a part that is set comes from a member
    have hmem : some field.name ∈ members.map Prod.fst := by
      by_contra habsent
      rw [hf.part_eq_of_absent lawful habsent h, hempty, Option.join_none] at hsome
      exact absurd hsome (by simp)
    obtain ⟨⟨name, node⟩, hmem, rfl⟩ := List.mem_map.mp hmem
    have hread := hmember hmem
    rw [hsome] at hread
    obtain ⟨text, rfl, hspells⟩ := Json.optionalWord_eq_some_iff.mp hread
    exact ⟨text, hmem, hspells⟩
  · rintro ⟨text, hmem, hspells⟩
    have hread := hmember hmem
    rw [Json.optionalWord_eq_some_iff.mpr ⟨text, rfl, hspells⟩] at hread
    exact (Except.ok.inj hread).symm

/-- **The times of a trace are those that its members spell**, and none where a member is missing,
`null` or empty. -/
theorem times_of_members (h : decoder (.object members cut) = .ok trace) :
    Told members "timestamp" trace.timestamp ∧ Told members "timestamp_ms" trace.timestampMs := by
  obtain ⟨draft, hread, h⟩ := Json.exists_of_bind_eq_ok h
  split at h
  · exact absurd h (by simp)
  · have hbuilt := built_of_build (Json.Schema.build_of_finish h)
    rw [hbuilt.timestamp, hbuilt.timestampMs]
    exact ⟨told_of_fills fills_timestamp rfl hread, told_of_fills fills_timestampMs rfl hread⟩

/-! ## Integers -/

/-- **Integers are taken from the texts that spell them within their range**, however many zeros
lead them, and read back from what they are written as. -/
theorem integers_from_texts :
    (∀ node s, Json.slot node = .ok s ↔ ∃ text, node = .text (some text)
        ∧ Spells text s.number.toInt ∧ 0 ≤ s.number.toInt
        ∧ s.number.toInt ≤ Slot.last.number.toInt)
      ∧ (∀ node n, Json.unsignedWord node = .ok n
        ↔ ∃ text, node = .text (some text) ∧ SpellsUnsigned text n.toNat)
      ∧ (∀ node, Json.optionalWord node = .ok none ↔ node = .null ∨ node = .text (some ""))
      ∧ (∀ node n, Json.optionalWord node = .ok (some n)
        ↔ ∃ text, node = .text (some text) ∧ Spells text n.toInt)
      ∧ (∀ members cut trace, decoder (.object members cut) = .ok trace →
        Told members "timestamp" trace.timestamp
          ∧ Told members "timestamp_ms" trace.timestampMs)
      ∧ (∀ s : Slot, s.inRange = true → Json.slot (.text (some s.text)) = .ok s)
      ∧ (∀ n : UInt64, Json.unsignedWord (.text (some n.toNat.repr)) = .ok n)
      ∧ (∀ n : Int64, Json.optionalWord (.text (some n.toInt.repr)) = .ok (some n)) := by
  refine ⟨?_, fun _ _ => Json.unsignedWord_eq_ok_iff, ?_, fun _ _ => Json.optionalWord_eq_some_iff,
    fun _ _ _ h => times_of_members h, ?_, ?_, ?_⟩
  · intro node s
    rw [Json.slot_eq_ok_iff]
    exact exists_congr fun text => and_congr_right fun _ => and_congr_right fun _ =>
      Slot.inRange_iff
  · intro node
    rw [Json.optionalWord_eq_none_iff, Json.isAbsent_iff]
  · intro s hs
    exact Json.slot_eq_ok_iff.mpr ⟨s.text, rfl, Numeral.spells_repr _, hs⟩
  · intro n
    exact Json.unsignedWord_eq_ok_iff.mpr ⟨_, rfl, Numeral.spellsUnsigned_repr _⟩
  · intro n
    exact Json.optionalWord_eq_some_iff.mpr ⟨_, rfl, Numeral.spells_repr _⟩

/-- The members of a trace of the last slot, which gives its time in milliseconds with a sign. -/
def lastMembers : List (Option String × Node) :=
  [(some "timestamp_ms", .text (some "-007")), (some "slot", .text (some Slot.last.text)),
    (some "parent_hash", .text (some "")), (some "block_hash", .text (some "")),
    (some "builder_pubkey", .text (some "")), (some "proposer_pubkey", .text (some "")),
    (some "proposer_fee_recipient", .text (some "")), (some "value", .text (some "1")),
    (some "block_number", .text (some "+0"))]

/-- The last slot is read back, and of the times the one that is given. -/
theorem integers_from_last_trace :
    Slot.last.inRange = true ∧ Json.slot (.text (some Slot.last.text)) = .ok Slot.last
      ∧ ∃ trace, decoder (.object lastMembers false) = .ok trace ∧ trace.timestamp = none
        ∧ trace.timestampMs = some (-7) := by
  obtain ⟨-, -, -, -, htimes, hslot, -⟩ := integers_from_texts
  refine ⟨by decide, hslot Slot.last (by decide), ?_⟩
  have hread : decoder (.object lastMembers false)
      = .ok ⟨Slot.last, "", "", "", "", "", 1, 0, none, some (-7), false⟩ := by decide +kernel
  obtain ⟨hseconds, hmillis⟩ := htimes lastMembers false _ hread
  refine ⟨_, hread, hseconds.none_iff.mpr ?_, (hmillis.some_iff (-7)).mpr ⟨"-007", ?_, ?_⟩⟩
  · intro node hmem
    simp [lastMembers] at hmem
  · exact List.mem_cons_self
  · exact ⟨"007".toList, 7, by decide, ⟨[0, 0, 7], by decide, by decide, by decide⟩,
      Or.inr (Or.inr ⟨by decide, by decide⟩)⟩

end BidArchive.Relay.Trace
