import BidArchive.Beacon.Client
import BidArchive.Beacon.Duties
import BidArchive.Proofs.Json.Records

/-!
# What beacon nodes can say

Whatever a beacon node replies, the slots of the heads and duties that are read from it
are in range. So are the slots whose proposers are known, as long as all duties came from
such replies.
-/

namespace BidArchive.Beacon

open Chain (Slot)
open Json (Yields)

variable {σ ε : Type} {node : Node σ ε}

/-! ## Heads and duties -/

theorem yields_head : Yields Head.schema.decoder fun head => head.slot.inRange = true := by
  intro json head h
  obtain ⟨draft, hdraft, hbuild⟩ := Json.Schema.exists_draft
    (q := fun draft => ∀ s ∈ draft.slot, s.inRange = true) (by simp [Head.schema])
    (fun field hfield draft json draft' hq hread => by
      rcases List.mem_cons.mp hfield with rfl | hfield
      · obtain ⟨s, hs, rfl⟩ := Json.exists_of_map_eq_ok hread
        exact fun t ht => Option.mem_some.mp ht ▸ Json.yields_slot json s hs
      · obtain rfl := List.mem_singleton.mp hfield
        obtain ⟨_, _, rfl⟩ := Json.exists_of_map_eq_ok hread
        exact hq) h
  cases hs : draft.slot <;> cases hb : draft.block <;> simp [Head.schema, hs, hb] at hbuild
  rw [← hbuild]
  exact hdraft _ hs

theorem yields_duty : Yields Duty.schema.decoder fun duty => duty.slot.inRange = true := by
  intro json duty h
  obtain ⟨draft, hdraft, hbuild⟩ := Json.Schema.exists_draft
    (q := fun draft => ∀ s ∈ draft.slot, s.inRange = true) (by simp [Duty.schema])
    (fun field hfield draft json draft' hq hread => by
      rcases List.mem_cons.mp hfield with rfl | hfield
      · obtain ⟨_, _, rfl⟩ := Json.exists_of_map_eq_ok hread
        exact hq
      · rcases List.mem_cons.mp hfield with rfl | hfield
        · obtain ⟨_, _, rfl⟩ := Json.exists_of_map_eq_ok hread
          exact hq
        · obtain rfl := List.mem_singleton.mp hfield
          obtain ⟨s, hs, rfl⟩ := Json.exists_of_map_eq_ok hread
          exact fun t ht => Option.mem_some.mp ht ▸ Json.yields_slot json s hs) h
  cases hp : draft.pubkey <;> cases hi : draft.validatorIndex <;> cases hs : draft.slot <;>
    simp [Duty.schema, hp, hi, hs] at hbuild
  rw [← hbuild]
  exact hdraft _ hs

theorem inRange_of_decode {α : Type} {decoder : Json.Decoder α} {p : α → Prop}
    (h : Yields decoder p) {bytes : List UInt8} {a : α}
    (ha : Json.decodeBytes decoder bytes = .ok a) : p a := by
  obtain ⟨b, hb, ha⟩ := Json.exists_of_bind_eq_ok ha
  split at ha
  · exact Except.ok.inj ha ▸ h _ b hb
  · exact absurd ha (by simp)

/-- **Heads that are read are in range.** -/
theorem inRange_of_readHead {data : String} {head : Head} (h : readHead data = .ok head) :
    head.slot.inRange = true :=
  inRange_of_decode yields_head (Json.mapError_eq_ok_iff.mp h)

/-- **Duties that are read are in range.** -/
theorem inRange_of_readDuties {base : String} {epoch : Chain.Epoch} {reply : Http.Reply}
    {duties : List Duty} (h : readDuties base epoch reply = .ok duties) :
    ∀ duty ∈ duties, duty.slot.inRange = true := by
  unfold readDuties at h
  split at h
  · exact absurd h (by simp)
  · split at h
    · exact absurd h (by simp)
    · exact inRange_of_decode (yields_duty.list.envelope _ _) (Json.mapError_eq_ok_iff.mp h)

/-! ## Known proposers -/

/-- The node lists no duties outside the range of slots. -/
def Node.InRange (node : Node σ ε) : Prop :=
  ∀ epoch s, ∀ duties s', node.duties epoch s = (.ok duties, s') →
    ∀ duty ∈ duties, duty.slot.inRange = true

theorem inRange_overHttp (base : String) (reply : Question → σ → Http.Reply × σ) :
    (Node.overHttp base reply).InRange := by
  intro epoch s duties s' h
  exact inRange_of_readDuties (Prod.mk.inj h).1

/-- All known proposers are those of slots in range. -/
def Duties.InRange (duties : Duties) : Prop :=
  ∀ slot proposer, duties.proposer? slot = some proposer → slot.inRange = true

theorem inRange_empty : Duties.empty.InRange := by
  intro slot proposer h
  exact absurd h (by simp [Duties.empty, Duties.proposer?])

theorem inRange_foldl_assign {proposers : List (Slot × String)} {list : List Duty}
    (hp : ∀ p ∈ proposers, p.1.inRange = true) (hl : ∀ duty ∈ list, duty.slot.inRange = true) :
    ∀ p ∈ list.foldl assign proposers, p.1.inRange = true := by
  induction list generalizing proposers with
  | nil => exact hp
  | cons duty rest ih =>
      refine ih (fun p hmem => ?_) fun d hd => hl d (List.mem_cons_of_mem _ hd)
      rcases List.mem_cons.mp hmem with rfl | hmem
      · exact hl duty List.mem_cons_self
      · exact hp p (List.mem_filter.mp hmem).1

/-- **Loading duties keeps to the range**, whether it succeeds or not. -/
theorem Duties.InRange.refresh (hn : node.InRange) {duties : Duties} (h : duties.InRange)
    (epoch : Chain.Epoch) (s : σ) : (duties.refresh node epoch s).2.1.InRange := by
  unfold Duties.refresh
  split
  · exact h
  · split
    · exact h
    · split
      · exact h
      · rename_i first s₁ h₁
        split
        · exact h
        · rename_i second s₂ h₂
          -- only here the table is a new one, made of two answers of the node
          intro slot proposer hs
          obtain ⟨p, hfind, _⟩ := Option.map_eq_some_iff.mp hs
          have hslot : p.1 = slot := by simpa using List.find?_some hfind
          refine hslot ▸ inRange_foldl_assign (fun p hp => absurd hp List.not_mem_nil) ?_ p
            (List.mem_of_find?_eq_some hfind)
          intro duty hd
          rcases List.mem_append.mp hd with hd | hd
          · exact hn _ _ _ _ h₁ duty hd
          · exact hn _ _ _ _ h₂ duty hd

/-- If the epoch after the one asked for has a number, loading does not crash. -/
theorem refresh_ne_crashed {epoch next : Chain.Epoch} (h : epoch.later? 1 = some next)
    (node : Node σ ε) (duties : Duties) (s : σ) : (duties.refresh node epoch s).1 ≠ .crashed := by
  unfold Duties.refresh
  split
  · simp
  · rw [h]
    dsimp only
    split
    · simp
    · split <;> simp

end BidArchive.Beacon
