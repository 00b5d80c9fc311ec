import BidArchive.Feed.Intake
import BidArchive.Proofs.Bid.Lateness
import BidArchive.Proofs.Feed.Frames
import BidArchive.Proofs.Json.Codec
import BidArchive.Proofs.Relay.Trace
import BidArchive.Proofs.Text.NormalForm

/-!
# One bid, seen twice

The stream sends a bid in bytes, the data interface of a relay lists it in JSON. Both come
to the same key, the one that the bytes of the frame make (`Feed.frameKey`): however the trace
spells its numbers and hashes, reading them gives back what the frame holds. So a recorder takes
the two for one bid and writes it once, as whichever came first.
-/

namespace BidArchive

open Chain (Slot)
open Relay (Trace)

/-! ## What a trace retells -/

/-- The trace in JSON tells of the bid that was announced: it spells the slot and the value, and the
hashes and the key in hexadecimal. -/
structure Retells (json : Json.Node) (top : Feed.TopBid) : Prop where
  slot : ∃ text, Trace.schema.Holds "slot" text json ∧ Numeral.Spells text top.slot.number.toInt
  value : ∃ text, Trace.schema.Holds "value" text json ∧ Numeral.SpellsWide text top.value.toNat
  blockHash : ∃ text, Trace.schema.Holds "block_hash" text json ∧ Text.Spells text top.blockHash
  parentHash : ∃ text, Trace.schema.Holds "parent_hash" text json
    ∧ Text.Spells text top.parentHash
  builderPubkey : ∃ text, Trace.schema.Holds "builder_pubkey" text json
    ∧ Text.Spells text top.builderPubkey

/-- **A bid that is retold keeps its key**, whoever tells of it and when. -/
theorem Retells.key_eq {json : Json.Node} {top : Feed.TopBid} {trace : Trace}
    (hr : Retells json top) (h : Trace.decoder json = .ok trace)
    (relay relay' : String) (receivedAtMs receivedAtMs' : Int64) :
    (Bid.ofTrace trace relay' receivedAtMs').key = (Bid.ofTopBid top relay receivedAtMs).key := by
  obtain ⟨slotText, hslot, hspellsSlot⟩ := hr.slot
  obtain ⟨valueText, hvalue, hspellsValue⟩ := hr.value
  obtain ⟨blockText, hblock, hspellsBlock⟩ := hr.blockHash
  obtain ⟨parentText, hparent, hspellsParent⟩ := hr.parentHash
  obtain ⟨builderText, hbuilder, hspellsBuilder⟩ := hr.builderPubkey
  have hs : trace.slot = top.slot :=
    Slot.eq_iff.mpr (Json.toInt_of_slot (Trace.slot_of_holds h hslot) hspellsSlot)
  have hv : trace.value = top.value :=
    Json.eq_of_wide (Trace.value_of_holds h hvalue) hspellsValue
  unfold Bid.key Bid.ofTrace Bid.ofTopBid
  dsimp only
  rw [hs, hv, (Trace.text_of_holds h).1 hparent, (Trace.text_of_holds h).2.1 hblock,
    (Trace.text_of_holds h).2.2 hbuilder, hspellsBlock.normalHex_eq, hspellsParent.normalHex_eq,
    hspellsBuilder.normalHex_eq]

namespace History

variable {past : List Happening} {bid : Bid}

/-- A bid whose slot was never forgotten is new if none of its key arrived at all. -/
theorem isNew_iff_find? (h : ∀ e ∈ past, e.evicts bid.slot = false) :
    IsNew past bid ↔ (arrivals past).find? (·.key = bid.key) = none := by
  have hrecent : recent bid.slot ([] ++ past) = recent bid.slot [] ++ past := recent_append h
  rw [List.nil_append] at hrecent
  unfold IsNew
  rw [hrecent, List.find?_eq_none]
  show (∀ b ∈ arrivals past, b.key ≠ bid.key) ↔ _
  exact forall_congr' fun b => imp_congr_right fun _ => by simp

/-- **A key of which no bid comes late gets one row**, that of its first bid. -/
theorem rows_of_key (bid : Bid) (ht : Timely bid.slot past) :
    (rows past).filter (fun row => row.kind = .all ∧ row.bid.key = bid.key)
      = ((arrivals past).find? (·.key = bid.key)).toList.map (Row.mk .all) := by
  -- from the end, since a bid is compared with what came before it
  induction past using List.reverseRecOn with
  | nil => rfl
  | append_singleton past e ih =>
      rw [rows_append, List.filter_append, ih ht.of_append, arrivals_append, List.find?_append,
        rowsFrom, rowsFrom, List.append_nil]
      cases e with
      | housekeeping current => simp [rowsAt, arrivals, Happening.bid?]
      | arrival b =>
          have hone : (rowsOn past b).filter (fun row => row.kind = .all ∧ row.bid.key = bid.key)
              = if b.key = bid.key ∧ IsNew past b then [⟨.all, b⟩] else [] := by
            unfold rowsOn
            by_cases hk : b.key = bid.key <;> by_cases hn : IsNew past b <;>
              by_cases hl : Leads past b <;> simp [hk, hn, hl]
          have harrival : arrivals [.arrival b] = [b] := rfl
          rw [rowsAt, hone, harrival]
          by_cases hk : b.key = bid.key
          · have hb : Timely b.slot (past ++ [.arrival b]) := (Bid.slot_eq_of_key_eq hk).symm ▸ ht
            have hnew := isNew_iff_find? hb.not_evicts
            rw [hk] at hnew
            cases hfind : (arrivals past).find? (·.key = bid.key) with
            | none => simp [hk, hnew.mpr hfind]
            | some first => simp [hk, mt hnew.mp (by simp [hfind])]
          · simp [hk]

end History

namespace Recorder

open History

variable {σ ε : Type}

/--
**A bid that is announced and listed is one bid.**

For every frame that is read and every trace that retells what was announced, the bids built from
them have the key that the bytes of the frame make, whatever relays, times and other fields say.
So in every run over a steady sink in which one of them or both arrive, in any order and cut into
any batches, and in which no bid for their slot is late, one row of a new bid has that key: the
row of the first bid that came with it.
-/
theorem row_of_bid_seen_twice {frame : List UInt8} {top : Feed.TopBid} {json : Json.Node}
    {trace : Trace} (hframe : Feed.TopBid.ofFrame frame = .ok top)
    (hjson : Trace.decoder json = .ok trace) (hr : Retells json top) :
    (∀ relay receivedAtMs, (Bid.ofTopBid top relay receivedAtMs).key = Feed.frameKey frame)
      ∧ (∀ relay receivedAtMs, (Bid.ofTrace trace relay receivedAtMs).key = Feed.frameKey frame)
      ∧ ∀ (sink : Sink σ ε) (s : σ) (calls : List Call) relay relay' receivedAtMs receivedAtMs',
          sink.Steady → Fits calls → Timely top.slot (calls.flatMap Call.happenings) →
          (Bid.ofTopBid top relay receivedAtMs ∈ arrivals (calls.flatMap Call.happenings)
            ∨ Bid.ofTrace trace relay' receivedAtMs'
              ∈ arrivals (calls.flatMap Call.happenings)) →
          ∃ r written first, serve sink { sink := s } calls = (.ok (), r)
            ∧ sink.Takes written s r.sink
            ∧ (arrivals (calls.flatMap Call.happenings)).find? (·.key = Feed.frameKey frame)
              = some first
            ∧ written.filter (fun row => row.kind = .all ∧ row.bid.key = Feed.frameKey frame)
              = [⟨.all, first⟩] := by
  have hannounced := Feed.key_ofTopBid hframe
  have hlisted : ∀ relay receivedAtMs,
      (Bid.ofTrace trace relay receivedAtMs).key = Feed.frameKey frame :=
    fun relay receivedAtMs => (hr.key_eq hjson "" relay 0 receivedAtMs).trans (hannounced "" 0)
  refine ⟨hannounced, hlisted, ?_⟩
  intro sink s calls relay relay' receivedAtMs receivedAtMs' hs hf ht harrives
  obtain ⟨r, h, hrun⟩ := exists_end hs hf s
  have hsome : ∃ bid ∈ arrivals (calls.flatMap Call.happenings), bid.key = Feed.frameKey frame :=
    harrives.elim (fun hmem => ⟨_, hmem, hannounced _ _⟩) fun hmem => ⟨_, hmem, hlisted _ _⟩
  obtain ⟨first, hfirst⟩ : ∃ first,
      (arrivals (calls.flatMap Call.happenings)).find? (·.key = Feed.frameKey frame)
        = some first := by
    refine Option.isSome_iff_exists.mp (List.find?_isSome.mpr ?_)
    simpa using hsome
  refine ⟨r, _, first, hrun, h.facts.2.2, hfirst, ?_⟩
  have hone := rows_of_key (Bid.ofTopBid top relay receivedAtMs) ht
  rw [hannounced] at hone
  rw [hone, hfirst]
  rfl

/-- A frame for slot 7 with a value of 4095. -/
def frameForSeven : List UInt8 :=
  List.replicate 8 0 ++ (7 :: List.replicate 7 0) ++ List.replicate 8 0 ++ List.replicate 32 0xab
    ++ List.replicate 32 0xcd ++ List.replicate 48 0xef ++ List.replicate 20 0x11
    ++ (0xff :: 0x0f :: List.replicate 30 0)

/-- What the frame announces. -/
def topForSeven : Feed.TopBid where
  timestampMs := 0
  slot := ⟨7⟩
  blockNumber := 0
  blockHash := List.replicate 32 0xab
  parentHash := List.replicate 32 0xcd
  builderPubkey := List.replicate 48 0xef
  feeRecipient := List.replicate 20 0x11
  value := 4095

/-- Bytes as a relay may write them. -/
def looseHex (count : Nat) (pair : List Char) : String :=
  String.ofList ([' '] ++ '0' :: 'X' :: (List.replicate count pair).flatten ++ ['\n'])

theorem spells_looseHex {count : Nat} {pair : List Char} {bytes : List UInt8}
    (h : Text.bytesOfHex? (List.replicate count pair).flatten = some bytes) :
    Text.Spells (looseHex count pair) bytes :=
  ⟨[' '], 'X', _, ['\n'], String.toList_ofList, List.all_eq_true.mp (by decide), Or.inr rfl, h⟩

/-- The same bid in JSON, every field of it spelled otherwise than the program would. -/
def traceForSeven : Json.Node :=
  .object [
    (some "value", .text (some "0x00fFf")),
    (some "slot", .text (some "+07")),
    (some "block_hash", .text (some (looseHex 32 ['a', 'B']))),
    (some "parent_hash", .text (some (looseHex 32 ['C', 'd']))),
    (some "builder_pubkey", .text (some (looseHex 48 ['E', 'F']))),
    (some "gas_used", .array [] false),
    (some "proposer_pubkey", .text (some "")),
    (some "proposer_fee_recipient", .text (some "")),
    (some "block_number", .text (some "17"))] false

theorem retells_traceForSeven : Retells traceForSeven topForSeven where
  slot := ⟨"+07", .member (by simp), ['0', '7'], 7, by decide,
    ⟨[0, 7], by decide, by decide, by decide⟩, Or.inr (Or.inl ⟨by decide, rfl⟩)⟩
  value := ⟨"0x00fFf", .member (by simp), "00fFf".toList, by decide,
    Or.inr ⟨⟨'x', Or.inl rfl, by decide⟩, [0, 0, 15, 15, 15], by decide, by decide, by decide⟩⟩
  blockHash := ⟨looseHex 32 ['a', 'B'], .member (by simp), spells_looseHex (by decide +kernel)⟩
  parentHash := ⟨looseHex 32 ['C', 'd'], .member (by simp), spells_looseHex (by decide +kernel)⟩
  builderPubkey := ⟨looseHex 48 ['E', 'F'], .member (by simp), spells_looseHex (by decide +kernel)⟩

/-- What is read of it. -/
def listedTrace : Trace where
  slot := ⟨7⟩
  parentHash := looseHex 32 ['C', 'd']
  blockHash := looseHex 32 ['a', 'B']
  builderPubkey := looseHex 48 ['E', 'F']
  proposerPubkey := ""
  proposerFeeRecipient := ""
  value := 4095
  blockNumber := 17
  timestamp := none
  timestampMs := none
  optimisticSubmission := false

/-- The bid is listed, then announced, with another one between. -/
def twiceCalls : List Call :=
  [.process [Bid.ofTrace listedTrace "relay.one" 1, Bid.plain ⟨7⟩ 4095],
    .process [Bid.ofTopBid topForSeven "relay.two" 2]]

/-- The listed one is written, the announced one is not. -/
theorem row_of_listed_bid : Feed.TopBid.ofFrame frameForSeven = .ok topForSeven
    ∧ Trace.decoder traceForSeven = .ok listedTrace ∧ Retells traceForSeven topForSeven
    ∧ ∃ r : Recorder (List Row),
        serve (Sink.recording Unit) { sink := [] } twiceCalls = (.ok (), r)
          ∧ r.sink.filter (fun row => row.kind = .all ∧ row.bid.key = Feed.frameKey frameForSeven)
            = [⟨.all, Bid.ofTrace listedTrace "relay.one" 1⟩] := by
  have hframe : Feed.TopBid.ofFrame frameForSeven = .ok topForSeven := by decide +kernel
  have hjson : Trace.decoder traceForSeven = .ok listedTrace := by decide +kernel
  have hf : Fits twiceCalls := by decide
  have ht : Timely topForSeven.slot (twiceCalls.flatMap Call.happenings) :=
    timely_of_not_evicts (by decide)
  obtain ⟨-, hkey, hrun⟩ := row_of_bid_seen_twice (σ := List Row) (ε := Unit) hframe hjson
    retells_traceForSeven
  have harrivals : arrivals (twiceCalls.flatMap Call.happenings)
      = [Bid.ofTrace listedTrace "relay.one" 1, Bid.plain ⟨7⟩ 4095,
        Bid.ofTopBid topForSeven "relay.two" 2] := rfl
  obtain ⟨r, written, first, hr, htakes, hfirst, hone⟩ := hrun (Sink.recording Unit) [] twiceCalls
    "relay.two" "relay.one" 2 1 Sink.steady_recording hf ht
    (Or.inr (harrivals ▸ List.mem_cons_self))
  refine ⟨hframe, hjson, retells_traceForSeven, r, hr, ?_⟩
  have hlisted : (arrivals (twiceCalls.flatMap Call.happenings)).find?
      (·.key = Feed.frameKey frameForSeven)
        = some (Bid.ofTrace listedTrace "relay.one" 1) := by
    rw [harrivals]
    exact List.find?_cons_of_pos (decide_eq_true (hkey _ _))
  rw [Sink.takes_recording.mp htakes, List.nil_append, hone,
    Option.some.inj (hfirst.symm.trans hlisted)]

end Recorder

end BidArchive
