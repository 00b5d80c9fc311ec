import BidArchive.Feed.Intake
import BidArchive.Proofs.Beacon.Refreshes
import BidArchive.Proofs.Text.Settled

/-!
# Proposers of offered bids

The key of a proposer is put into normal form twice on its way into a bid: when the duty that names
it is noted, and when the bid offered to the proposer is built. The second time changes nothing,
as normal form is settled. So wherever duties were loaded, a bid offered to a known proposer holds
the key that the node listed for the slot, in normal form.

That the known proposers go back to listed duties is an invariant of refreshing (`Noted`): a
refresh loads what its own answers list, or leaves what was known.
-/

namespace BidArchive.Beacon

open Chain (Slot Epoch)

variable {σ ε : Type} {node : Node σ ε} {run past later : List (Refresh ε)} {r : Refresh ε}
  {duties : Duties} {duty : Duty}

/-- One of the refreshes got an answer that lists the duty. -/
def Listed (run : List (Refresh ε)) (duty : Duty) : Prop :=
  ∃ r ∈ run, ∃ exchange ∈ r.exchanges, ∃ listed, exchange.answer = .ok listed ∧ duty ∈ listed

/-- Every known proposer is the key of a listed duty for the slot, in normal form. -/
def Noted (run : List (Refresh ε)) (duties : Duties) : Prop :=
  ∀ slot proposer, duties.proposer? slot = some proposer →
    ∃ duty, Listed run duty ∧ duty.slot = slot ∧ proposer = normalHex duty.pubkey

theorem Listed.append (h : Listed past duty) (later : List (Refresh ε)) :
    Listed (past ++ later) duty := by
  obtain ⟨r, hr, hexchange⟩ := h
  exact ⟨r, List.mem_append_left _ hr, hexchange⟩

theorem noted_empty (run : List (Refresh ε)) : Noted run .empty :=
  fun _ _ h => absurd h (by simp [Duties.proposer?, Duties.empty])

theorem Noted.append (h : Noted past duties) (later : List (Refresh ε)) :
    Noted (past ++ later) duties := by
  intro slot proposer hproposer
  obtain ⟨duty, hlisted, hduty⟩ := h slot proposer hproposer
  exact ⟨duty, hlisted.append later, hduty⟩

/-- The proposer of a slot by a list of duties is named by one of them. -/
theorem exists_of_proposerIn {listed : List Duty} {slot : Slot} {proposer : String}
    (h : proposerIn listed slot = some proposer) :
    ∃ duty ∈ listed, duty.slot = slot ∧ proposer = normalHex duty.pubkey := by
  obtain ⟨duty, hfind, rfl⟩ := Option.map_eq_some_iff.mp h
  have hslot : duty.slot = slot := by simpa using List.find?_some hfind
  exact ⟨duty, List.mem_reverse.mp (List.mem_of_find?_eq_some hfind), hslot, rfl⟩

/-- When the epoch after the one asked for has no number, what is known stays. -/
theorem Duties.refresh_of_last {epoch : Epoch} (hnext : epoch.later? 1 = none)
    (node : Node σ ε) (duties : Duties) (s : σ) :
    (duties.refresh node epoch s).2.1 = duties := by
  unfold Duties.refresh
  rw [hnext]
  split <;> rfl

/-- **A refresh notes what its own answers list**, or leaves what was noted. -/
theorem Noted.refresh (h : Noted past duties) (node : Node σ ε) (epoch : Epoch) (s : σ) :
    Noted (past ++ [(refreshNoting node epoch duties s).1])
      (refreshNoting node epoch duties s).1.after := by
  cases hnext : epoch.later? 1 with
  | none =>
      have hkept : (refreshNoting node epoch duties s).1.after = duties :=
        Duties.refresh_of_last hnext node duties s
      rw [hkept]
      exact h.append _
  | some next =>
      have hproper := proper_refreshNoting hnext node duties s
      cases hload : (refreshNoting node epoch duties s).1.loads? with
      | none =>
          have hkept : (refreshNoting node epoch duties s).1.after = duties :=
            hproper.after_of_loads?_none hload
          rw [hkept]
          exact h.append _
      | some load =>
          obtain ⟨after, first, second, -, hexchanges, -, hafter⟩ := hproper.exists_answers hload
          rw [hafter]
          intro slot proposer hproposer
          rw [proposer?_ofAnswers] at hproposer
          obtain ⟨duty, hmem, hduty⟩ := exists_of_proposerIn hproposer
          refine ⟨duty, ⟨_, List.mem_append_right _ List.mem_cons_self, ?_⟩, hduty⟩
          rw [hexchanges]
          rcases List.mem_append.mp hmem with hfirst | hsecond
          · exact ⟨_, List.mem_cons_self, first, rfl, hfirst⟩
          · exact ⟨_, List.mem_cons_of_mem _ List.mem_cons_self, second, rfl, hsecond⟩

/-- In a run of refreshes all known proposers go back to listed duties, at any time. -/
theorem Noted.refreshes {epochs : List Epoch} {s : σ} {before : List (Refresh ε)}
    (h : Noted before duties) (hrun : refreshes node epochs duties s = past ++ r :: later) :
    Noted (before ++ past ++ [r]) r.after := by
  induction epochs generalizing before past duties s with
  | nil => exact absurd hrun.symm (by simp [Beacon.refreshes])
  | cons epoch rest ih =>
      have hstep := h.refresh node epoch s
      cases past with
      | nil =>
          obtain ⟨rfl, -⟩ := List.cons.inj hrun
          rwa [List.append_nil]
      | cons first past =>
          obtain ⟨rfl, hrest⟩ := List.cons.inj hrun
          have hlater := ih hstep hrest
          rwa [List.append_assoc before, List.singleton_append] at hlater

end BidArchive.Beacon

namespace BidArchive

open Beacon Text

/--
**Normal form is settled, and takes away what relays differ in.**

Putting a text into normal form a second time changes nothing, whatever its characters are. Two
ASCII texts have one normal form if and only if what stands between the blanks around them is the
same character by character, but for the case of letters. So a key may be put into normal form
again wherever it goes: let duties be refreshed for any epochs, at first with nothing known, and
from a node that answers and fails as it likes. Every proposer known after a refresh is the key, in
normal form, of a duty that the node listed for the slot by then, and a bid offered to that
proposer, which has the key put into normal form again, holds this same text.
-/
theorem normalHex_settles :
    (∀ s, normalHex (normalHex s) = normalHex s)
      ∧ (∀ s t, Ascii s → Ascii t → (normalHex s = normalHex t
        ↔ List.Forall₂ SameButCase (trim s.toList) (trim t.toList)))
      ∧ ∀ (σ ε : Type) (node : Node σ ε) (epochs : List Chain.Epoch) (s : σ)
        (past later : List (Refresh ε)) (r : Refresh ε),
        refreshes node epochs .empty s = past ++ r :: later →
        ∀ slot proposer, r.after.proposer? slot = some proposer →
          ∃ duty : Duty, Listed (past ++ [r]) duty ∧ duty.slot = slot
            ∧ proposer = normalHex duty.pubkey
            ∧ ∀ offer relay receivedAtMs,
              (Bid.ofOffer offer slot relay proposer receivedAtMs).proposerPubkey = proposer := by
  refine ⟨normalHex_normalHex, fun s t => normalHex_eq_iff, ?_⟩
  intro σ ε node epochs s past later r hrun slot proposer hproposer
  have hnoted : Noted ([] ++ past ++ [r]) r.after := (noted_empty []).refreshes hrun
  obtain ⟨duty, hlisted, hslot, rfl⟩ := hnoted slot proposer hproposer
  exact ⟨duty, hlisted, hslot, rfl, fun _ _ _ => normalHex_normalHex duty.pubkey⟩

/-- The proposer of slot 5 is listed in capitals, between a tab and a line break. -/
def listing : Refresh String where
  epoch := ⟨0⟩
  exchanges := [⟨⟨0⟩, .ok [⟨"\t0xAB\n", 7, ⟨5⟩⟩]⟩, ⟨⟨1⟩, .ok []⟩]
  ending := .loaded
  before := .empty
  after := .ofAnswers ⟨0⟩ [⟨"\t0xAB\n", 7, ⟨5⟩⟩] []

/-- A text with a final sigma and a dotted capital changes once, a key in capitals has the normal
form of the key in lower case but not that of another key, and where it is listed for slot 5 the
bids offered to its proposer hold it in lower case. -/
theorem normalHex_settles_for_capitals :
    normalHex "ΟΔΟΣ İ" = "οδος i\u0307" ∧ normalHex "οδος i\u0307" = "οδος i\u0307"
      ∧ normalHex "\t0xAB\n" = normalHex "0xab" ∧ normalHex "0xab" ≠ normalHex "0xac"
      ∧ refreshes scripted [⟨0⟩] .empty [.ok [⟨"\t0xAB\n", 7, ⟨5⟩⟩], .ok []] = [] ++ [listing]
      ∧ listing.after.proposer? ⟨5⟩ = some "0xab"
      ∧ ∀ offer relay receivedAtMs,
        (Bid.ofOffer offer ⟨5⟩ relay "0xab" receivedAtMs).proposerPubkey = "0xab" := by
  obtain ⟨htwice, hascii, hknown⟩ := normalHex_settles
  have hform : normalHex "ΟΔΟΣ İ" = "οδος i\u0307" := by decide +kernel
  have hrun : refreshes scripted [⟨0⟩] .empty [.ok [⟨"\t0xAB\n", 7, ⟨5⟩⟩], .ok []]
      = [] ++ [listing] := rfl
  have hproposer : listing.after.proposer? ⟨5⟩ = some "0xab" := by decide +kernel
  obtain ⟨_, -, -, -, hoffered⟩ := hknown _ _ scripted _ _ _ _ _ hrun _ _ hproposer
  refine ⟨hform, ?_, ?_, ?_, hrun, hproposer, hoffered⟩
  · rw [← hform]
    exact htwice _
  · refine (hascii _ _ (by decide) (by decide)).mpr ?_
    rw [List.forall₂_iff_get]
    decide +kernel
  · refine mt (hascii _ _ (by decide) (by decide)).mp ?_
    rw [List.forall₂_iff_get]
    decide +kernel

end BidArchive
