import BidArchive.Feed.Delivery
import BidArchive.Feed.Intake
import BidArchive.Feed.TopBid
import BidArchive.Proofs.Bid.Lateness
import BidArchive.Proofs.Text.NormalForm
import BidArchive.Relay.Client

/-!
# Which fields a key tells

A key is meant to tell five fields: slot, block hash, parent hash, builder key and value.
The three texts among them are what a relay sent, and where they hold bars a key says no
more than how they read when joined by bars (`Bid.key_eq_iff`). One bid without bars in
its texts is enough to rule that out: whatever the other bid is, the keys agree only if the
five fields do, since a key of four bars can only be read in one way. Bars reach a bid
only through the texts of an answer in JSON; the stream sends bytes.
-/

namespace BidArchive

open Chain (Slot)

namespace Bid

variable {a b bid : Bid}

/-- The five fields that identify a bid. -/
def identity (bid : Bid) : Slot × String × String × String × Wide :=
  (bid.slot, bid.blockHash, bid.parentHash, bid.builderPubkey, bid.value)

/-- There is no bar in the texts that identify the bid. -/
def Unbarred (bid : Bid) : Prop :=
  '|' ∉ bid.blockHash.toList ∧ '|' ∉ bid.parentHash.toList ∧ '|' ∉ bid.builderPubkey.toList

/-- **What a key tells of any bid**: the slot, the value, and the texts as joined by bars. -/
theorem key_eq_iff : a.key = b.key
    ↔ a.slot = b.slot ∧ a.keyMiddle = b.keyMiddle ∧ a.value = b.value := by
  constructor
  · intro h
    have hslot := slot_eq_of_key_eq h
    have hvalue := value_eq_of_key_eq h
    refine ⟨hslot, ?_, hvalue⟩
    have hl := congrArg String.toList h
    rw [key_toList, key_toList, hslot, hvalue] at hl
    exact List.append_cancel_right (List.cons.inj (List.append_cancel_left hl)).2
  · rintro ⟨hslot, hmiddle, hvalue⟩
    rw [← String.toList_inj, key_toList, key_toList, hslot, hmiddle, hvalue]

/-- A key without bars in its texts has as many as are needed to join five. -/
theorem unbarred_iff_count : bid.Unbarred ↔ bid.keyMiddle.count '|' = 2 := by
  unfold Unbarred keyMiddle
  rw [← List.count_eq_zero, ← List.count_eq_zero, ← List.count_eq_zero, List.count_append,
    List.count_cons_self, List.count_append, List.count_cons_self]
  omega

/-- **A key of a bid without bars tells all five fields**, whatever the other bid is. -/
theorem key_eq_iff_identity_eq (h : a.Unbarred) : a.key = b.key ↔ a.identity = b.identity := by
  constructor
  · intro hkey
    obtain ⟨hslot, hmiddle, hvalue⟩ := key_eq_iff.mp hkey
    have hb : b.Unbarred := unbarred_iff_count.mpr (hmiddle ▸ unbarred_iff_count.mp h)
    obtain ⟨hblock, hrest⟩ := eq_of_append_separator h.1 hb.1 hmiddle
    obtain ⟨hparent, hbuilder⟩ := eq_of_append_separator h.2.1 hb.2.1 hrest
    unfold identity
    rw [hslot, String.toList_inj.mp hblock, String.toList_inj.mp hparent,
      String.toList_inj.mp hbuilder, hvalue]
  · intro hid
    simp only [identity, Prod.mk.injEq] at hid
    obtain ⟨hslot, hblock, hparent, hbuilder, hvalue⟩ := hid
    refine key_eq_iff.mpr ⟨hslot, ?_, hvalue⟩
    unfold keyMiddle
    rw [hblock, hparent, hbuilder]

/-! ## Bids as they are built -/

/-- A source builds the bid, of whose key `texts` were sent as texts. -/
inductive Built : List String → Bid → Prop
  | announced (top : Feed.TopBid) (relay : String) (receivedAtMs : Int64) :
    Built [] (ofTopBid top relay receivedAtMs)
  | listed (trace : Relay.Trace) (relay : String) (receivedAtMs : Int64) :
    Built [trace.blockHash, trace.parentHash, trace.builderPubkey]
      (ofTrace trace relay receivedAtMs)
  | offered (offer : Relay.Offer) (slot : Slot) (relay proposer : String) (receivedAtMs : Int64) :
    Built [offer.header.blockHash, offer.header.parentHash, offer.pubkey]
      (ofOffer offer slot relay proposer receivedAtMs)

/-- A bid gets no bars but those that were sent. -/
theorem Built.unbarred {texts : List String} (h : Built texts bid)
    (hbar : ∀ text ∈ texts, '|' ∉ text.toList) : bid.Unbarred := by
  cases h with
  | announced top => exact ⟨Text.bar_not_mem_prefixedHex _, Text.bar_not_mem_prefixedHex _,
      Text.bar_not_mem_prefixedHex _⟩
  | listed | offered =>
      exact ⟨Text.bar_not_mem_normalHex (hbar _ (by simp)),
        Text.bar_not_mem_normalHex (hbar _ (by simp)),
        Text.bar_not_mem_normalHex (hbar _ (by simp))⟩

end Bid

namespace Recorder

open History

variable {σ ε : Type} {sink : Sink σ ε} {calls : List Call} {past later : List Happening}
  {bid : Bid} {texts : List String}

/--
**No bid is taken for another unless bars were sent.**

The key of a bid whose texts came without bars is the key of just those bids that agree with it in
slot, block hash, parent hash, builder key and value, whoever sent them and whatever they hold.
In a run over a steady sink such a bid is written as a new one if and only if no bid that agrees
with it in these five fields arrived since its slot was last forgotten.
-/
theorem rows_of_unbarred (hs : sink.Steady) (hf : Fits calls) (s : σ)
    (hp : calls.flatMap Call.happenings = past ++ .arrival bid :: later)
    (hb : Bid.Built texts bid) (hbar : ∀ text ∈ texts, '|' ∉ text.toList) :
    (∀ other : Bid, bid.key = other.key ↔ bid.slot = other.slot ∧ bid.blockHash = other.blockHash
        ∧ bid.parentHash = other.parentHash ∧ bid.builderPubkey = other.builderPubkey
        ∧ bid.value = other.value)
      ∧ ∃ r r' written, Moment sink s calls past (.arrival bid :: later) r
          ∧ Moment sink s calls (past ++ [.arrival bid]) later r'
          ∧ sink.Takes written r.sink r'.sink
          ∧ written.filter (fun row => row.kind = .all)
              = if ∃ earlier ∈ arrivals (recent bid.slot past), earlier.identity = bid.identity
                then [] else [⟨.all, bid⟩] := by
  have hkey := fun other => Bid.key_eq_iff_identity_eq (b := other) (hb.unbarred hbar)
  refine ⟨fun other => (hkey other).trans (by simp [Bid.identity]), ?_⟩
  obtain ⟨r, h⟩ := exists_moment hs hf s hp
  obtain ⟨r', h', ht⟩ := h.arrival hs
  refine ⟨r, r', rowsOn past bid, h, h', ht, ?_⟩
  have hnew : IsNew past bid
      ↔ ¬ ∃ earlier ∈ arrivals (recent bid.slot past), earlier.identity = bid.identity := by
    unfold IsNew
    simp only [not_exists, not_and]
    exact forall_congr' fun earlier => imp_congr_right fun _ =>
      not_congr (eq_comm.trans ((hkey earlier).trans eq_comm))
  rw [filter_all_rowsOn]
  by_cases hn : IsNew past bid
  · rw [if_pos hn, if_neg (hnew.mp hn)]
  · rw [if_neg hn, if_pos (Decidable.not_not.mp (mt hnew.mpr hn))]

/-- A trace that differs from the bid for slot 7 in its hashes. -/
def listedForSeven : Relay.Trace where
  slot := ⟨7⟩
  parentHash := "0x"
  blockHash := "0xAB "
  builderPubkey := ""
  proposerPubkey := ""
  proposerFeeRecipient := ""
  value := 5
  blockNumber := 0
  timestamp := none
  timestampMs := none
  optimisticSubmission := false

/-- Bids with and without bars in their hashes, and one that comes twice. -/
def mixedCalls : List Call :=
  [.process [bidForSeven, Bid.ofTrace listedForSeven "relay.one" 1],
    .process [Bid.ofTrace listedForSeven "relay.two" 2]]

/-- The bid that comes twice is left out the second time only. -/
theorem rows_of_mixed_run : (Sink.recording Unit).Steady ∧ Fits mixedCalls
    ∧ mixedCalls.flatMap Call.happenings
      = [.arrival bidForSeven] ++ .arrival (Bid.ofTrace listedForSeven "relay.one" 1)
          :: [.arrival (Bid.ofTrace listedForSeven "relay.two" 2)]
    ∧ (∀ text ∈ ["0xAB ", "0x", ""], '|' ∉ text.toList)
    ∧ ∃ r r' : Recorder (List Row),
        Moment (Sink.recording Unit) [] mixedCalls [.arrival bidForSeven]
            [.arrival (Bid.ofTrace listedForSeven "relay.one" 1),
              .arrival (Bid.ofTrace listedForSeven "relay.two" 2)] r
          ∧ r'.sink.filter (fun row => row.kind = .all)
            = r.sink.filter (fun row => row.kind = .all)
              ++ [⟨.all, Bid.ofTrace listedForSeven "relay.one" 1⟩] := by
  have hf : Fits mixedCalls := by decide
  have hbar : ∀ text ∈ ["0xAB ", "0x", ""], '|' ∉ text.toList := by decide
  have hp : mixedCalls.flatMap Call.happenings
      = [.arrival bidForSeven] ++ .arrival (Bid.ofTrace listedForSeven "relay.one" 1)
        :: [.arrival (Bid.ofTrace listedForSeven "relay.two" 2)] := rfl
  obtain ⟨_, r, r', written, hr, _, ht, hw⟩ := rows_of_unbarred
    (Sink.steady_recording (ε := Unit)) hf [] hp (.listed listedForSeven "relay.one" 1) hbar
  refine ⟨Sink.steady_recording, hf, hp, hbar, r, r', hr, ?_⟩
  rw [Sink.takes_recording.mp ht, List.filter_append, hw, if_neg (by decide +kernel)]

/-- The bid for slot 7 as a relay lists it under other hashes. -/
def listedUnder (blockHash parentHash : String) : Bid :=
  Bid.ofTrace { listedForSeven with blockHash := blockHash, parentHash := parentHash } "relay.one" 0

/-- The answer of a relay that has a bar in the hashes of both its bids. -/
def barredReply : Http.Reply :=
  .response {
    status := .ok
    body := ("[\x7b\"slot\":\"7\",\"parent_hash\":\"0xc\",\"block_hash\":\"0xa|0xb\","
      ++ "\"builder_pubkey\":\"\",\"proposer_pubkey\":\"\",\"proposer_fee_recipient\":\"\","
      ++ "\"value\":\"5\",\"block_number\":\"0\"\x7d,"
      ++ "\x7b\"slot\":\"7\",\"parent_hash\":\"0xb|0xc\",\"block_hash\":\"0xa\","
      ++ "\"builder_pubkey\":\"\",\"proposer_pubkey\":\"\",\"proposer_fee_recipient\":\"\","
      ++ "\"value\":\"5\",\"block_number\":\"0\"\x7d]").toUTF8.toList }

/-- Both bids of that answer in one batch. -/
def barredCalls : List Call :=
  [.process [listedUnder "0xa|0xb" "0xc", listedUnder "0xa" "0xb|0xc"]]

/-- **Where bars are sent, bids of different hashes have one key**, and one of them is lost. -/
theorem barred_bids_collide :
    (Feed.Delivery.ofTraces "relay.one" ⟨7⟩ 0 0
        ((Relay.Entry.plain "relay.one" none).readTraces ⟨7⟩ barredReply)).batch
      = [listedUnder "0xa|0xb" "0xc", listedUnder "0xa" "0xb|0xc"]
    ∧ (listedUnder "0xa|0xb" "0xc").key = (listedUnder "0xa" "0xb|0xc").key
    ∧ (listedUnder "0xa|0xb" "0xc").identity ≠ (listedUnder "0xa" "0xb|0xc").identity
    ∧ ∃ r : Recorder (List Row),
        serve (Sink.recording Unit) { sink := [] } barredCalls = (.ok (), r)
          ∧ r.sink.filter (fun row => row.kind = .all)
            = [⟨.all, listedUnder "0xa|0xb" "0xc"⟩] := by
  refine ⟨by decide +kernel, by decide +kernel, by decide +kernel, ?_⟩
  have hf : Fits barredCalls := by decide
  obtain ⟨r, h, hr⟩ := exists_end (Sink.steady_recording (ε := Unit)) hf []
  refine ⟨r, hr, ?_⟩
  rw [Sink.takes_recording.mp h.facts.2.2]
  decide +kernel

end Recorder

end BidArchive
