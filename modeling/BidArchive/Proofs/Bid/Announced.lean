import BidArchive.Proofs.Bid.Fields
import BidArchive.Proofs.Bid.Sightings

/-!
# Which bytes of a frame make the key

The two hashes and the builder key of an announced bid are written in hexadecimal, which holds no
bars and tells bytes apart, and its slot and value in decimal. So the keys of two announced bids
agree if and only if their frames do in the bytes of these five. What the others say, which are
timestamp, block number and fee recipient, makes no difference.
-/

namespace BidArchive

open Chain (Slot)
open Feed (TopBid)

variable {f g : List UInt8} {top top' : TopBid}

/-- Announced bids are identified by the bytes of their texts. -/
theorem Bid.identity_ofTopBid_eq_iff {relay relay' : String} {receivedAtMs receivedAtMs' : Int64} :
    (ofTopBid top relay receivedAtMs).identity = (ofTopBid top' relay' receivedAtMs').identity
      ↔ top.slot = top'.slot ∧ top.blockHash = top'.blockHash ∧ top.parentHash = top'.parentHash
        ∧ top.builderPubkey = top'.builderPubkey ∧ top.value = top'.value := by
  have hhex : ∀ a b : List UInt8, Text.prefixedHex a = Text.prefixedHex b ↔ a = b :=
    fun a b => ⟨Text.prefixedHex_inj, congrArg Text.prefixedHex⟩
  simp only [identity, ofTopBid, Prod.mk.injEq, hhex]

namespace Feed

/-- What stands in a frame where keys look. -/
theorem identifying_bytes (h : TopBid.ofFrame f = .ok top) :
    f.extract 8 16 = littleEndianBytes 8 top.slot.number.toInt.toNat
      ∧ f.extract 24 136 = top.blockHash ++ (top.parentHash ++ top.builderPubkey)
      ∧ f.extract 156 188 = littleEndianBytes 32 top.value.toNat := by
  have hparts := (TopBid.parts_eq_cut h).2
  rw [TopBid.parts, cut_partWidths] at hparts
  simp only [List.cons.injEq] at hparts
  obtain ⟨-, hslot, -, hblock, hparent, hbuilder, -, hvalue, -⟩ := hparts
  -- the hashes and the key stand side by side
  have hmiddle : f.extract 24 136
      = (f.drop 24).take 32 ++ ((f.drop 56).take 32 ++ (f.drop 88).take 48) := by
    show (f.drop 24).take (32 + (32 + 48)) = _
    rw [List.take_add, List.take_add, List.drop_drop, List.drop_drop]
  exact ⟨hslot.symm, by rw [hmiddle, hblock, hparent, hbuilder], hvalue.symm⟩

/-- Two frames that are read announce bids that are alike where keys look if and only if the frames
are alike there. -/
theorem identifying_bytes_eq_iff (hf : TopBid.ofFrame f = .ok top)
    (hg : TopBid.ofFrame g = .ok top') :
    (top.slot = top'.slot ∧ top.blockHash = top'.blockHash ∧ top.parentHash = top'.parentHash
        ∧ top.builderPubkey = top'.builderPubkey ∧ top.value = top'.value)
      ↔ f.extract 8 16 = g.extract 8 16 ∧ f.extract 24 136 = g.extract 24 136
        ∧ f.extract 156 188 = g.extract 156 188 := by
  obtain ⟨hslot, hmiddle, hvalue⟩ := identifying_bytes hf
  obtain ⟨hslot', hmiddle', hvalue'⟩ := identifying_bytes hg
  obtain ⟨hs, hr, -⟩ := TopBid.ofFrame_eq_ok_iff.mp hf
  obtain ⟨hs', hr', -⟩ := TopBid.ofFrame_eq_ok_iff.mp hg
  rw [hslot, hmiddle, hvalue, hslot', hmiddle', hvalue']
  constructor
  · rintro ⟨hslots, hblock, hparent, hbuilder, hvalues⟩
    rw [hslots, hblock, hparent, hbuilder, hvalues]
    exact ⟨rfl, rfl, rfl⟩
  · rintro ⟨hslots, htexts, hvalues⟩
    obtain ⟨hlo, hhi⟩ := Slot.inRange_iff.mp hr
    obtain ⟨hlo', hhi'⟩ := Slot.inRange_iff.mp hr'
    have hnumbers := littleEndianBytes_inj (by omega) (by omega) hslots
    -- the parts are as wide in both bids, so they come apart at the same places
    obtain ⟨hblock, hrest⟩ := List.append_inj htexts (hs.blockHash.trans hs'.blockHash.symm)
    obtain ⟨hparent, hbuilder⟩ := List.append_inj hrest (hs.parentHash.trans hs'.parentHash.symm)
    exact ⟨Slot.eq_iff.mpr (by omega), hblock, hparent, hbuilder,
      BitVec.eq_of_toNat_eq (littleEndianBytes_inj top.value.isLt top'.value.isLt hvalues)⟩

/--
**The bytes that make the key.**

The bids that two frames announce, to whichever relays they are ascribed and whenever they come in,
have one key if and only if the frames agree in the bytes of the slot, of the two hashes and the
builder key, and of the value. No other byte has a say in it.
-/
theorem keys_eq_iff_of_frames (hf : TopBid.ofFrame f = .ok top) (hg : TopBid.ofFrame g = .ok top')
    (relay relay' : String) (receivedAtMs receivedAtMs' : Int64) :
    (Bid.ofTopBid top relay receivedAtMs).key = (Bid.ofTopBid top' relay' receivedAtMs').key
      ↔ f.extract 8 16 = g.extract 8 16 ∧ f.extract 24 136 = g.extract 24 136
        ∧ f.extract 156 188 = g.extract 156 188 := by
  have hunbarred : (Bid.ofTopBid top relay receivedAtMs).Unbarred :=
    (Bid.Built.announced top relay receivedAtMs).unbarred fun _ h => absurd h List.not_mem_nil
  rw [Bid.key_eq_iff_identity_eq hunbarred, Bid.identity_ofTopBid_eq_iff,
    identifying_bytes_eq_iff hf hg]

/-- A bid for slot 7, announced again with another timestamp, block number and fee recipient. -/
def announcedAgain : TopBid :=
  { Recorder.topForSeven with
    timestampMs := 1, blockNumber := 2, feeRecipient := List.replicate 20 0x22 }

/-- The bid, outbid by its own builder. -/
def outbid : TopBid := { Recorder.topForSeven with value := 4096 }

/-- The bid announced again keeps its key, the higher one has another. -/
theorem keys_of_frames_for_seven :
    TopBid.ofFrame Recorder.topForSeven.toFrame = .ok Recorder.topForSeven
      ∧ TopBid.ofFrame announcedAgain.toFrame = .ok announcedAgain
      ∧ TopBid.ofFrame outbid.toFrame = .ok outbid
      ∧ (Bid.ofTopBid Recorder.topForSeven "relay.one" 1).key
        = (Bid.ofTopBid announcedAgain "relay.two" 2).key
      ∧ (Bid.ofTopBid Recorder.topForSeven "relay.one" 1).key
        ≠ (Bid.ofTopBid outbid "relay.one" 1).key := by
  have hfirst : TopBid.ofFrame Recorder.topForSeven.toFrame = .ok Recorder.topForSeven := by
    decide +kernel
  have hagain : TopBid.ofFrame announcedAgain.toFrame = .ok announcedAgain := by decide +kernel
  have houtbid : TopBid.ofFrame outbid.toFrame = .ok outbid := by decide +kernel
  refine ⟨hfirst, hagain, houtbid, ?_, ?_⟩
  · exact (keys_eq_iff_of_frames hfirst hagain _ _ _ _).mpr (by decide +kernel)
  · exact mt (keys_eq_iff_of_frames hfirst houtbid _ _ _ _).mp (by decide +kernel)

end Feed

end BidArchive
