import Mathlib.Algebra.GroupWithZero.Nat
import BidArchive.Feed.TopBid
import BidArchive.Proofs.Chain.Starts

/-!
# How a frame is laid out

A frame is eight parts, one behind the other: three words, two hashes, a key, an address and the
value. Numbers are written lowest byte first. Writing a number in so many bytes and reading it
are inverse to each other, and so are joining parts and cutting at their widths. Hence reading
frames is inverse to laying out bids, and a frame is nothing but its bid: no byte of it is passed
over and none is read twice.

A slot is read from all eight bytes of its word, so a word beyond the last slot is refused
whether or not it would fit a signed word.
-/

namespace BidArchive.Feed

open Chain (Slot)

variable {frame bytes : List UInt8} {top top' : TopBid} {count n : Nat}

/-! ## Numbers -/

theorem littleEndian_lt (bytes : List UInt8) : littleEndian bytes < 256 ^ bytes.length := by
  induction bytes with
  | nil => decide
  | cons b rest ih =>
      have hb := b.toNat_lt
      rw [littleEndian, List.length_cons, Nat.pow_succ]
      omega

/-- The number of the bytes from one place on is less than all of as many bytes. -/
theorem littleEndian_take_lt (bytes : List UInt8) (count : Nat) :
    littleEndian (bytes.take count) < 256 ^ count :=
  Nat.lt_of_lt_of_le (littleEndian_lt _)
    (Nat.pow_le_pow_right (by decide) (List.length_take_le count bytes))

/-- The number in `count` bytes, lowest first. -/
def littleEndianBytes : Nat → Nat → List UInt8
  | 0, _ => []
  | count + 1, n => UInt8.ofNat (n % 256) :: littleEndianBytes count (n / 256)

@[simp]
theorem length_littleEndianBytes (count n : Nat) : (littleEndianBytes count n).length = count := by
  induction count generalizing n with
  | zero => rfl
  | succ count ih => rw [littleEndianBytes, List.length_cons, ih]

theorem littleEndian_littleEndianBytes (h : n < 256 ^ count) :
    littleEndian (littleEndianBytes count n) = n := by
  induction count generalizing n with
  | zero =>
      rw [Nat.pow_zero] at h
      rw [littleEndianBytes, littleEndian]
      omega
  | succ count ih =>
      rw [Nat.pow_succ] at h
      have hbyte : (UInt8.ofNat (n % 256)).toNat = n % 256 :=
        UInt8.toNat_ofNat_of_lt' (Nat.mod_lt n (by decide))
      rw [littleEndianBytes, littleEndian, hbyte, ih (by omega)]
      omega

theorem littleEndianBytes_littleEndian (bytes : List UInt8) :
    littleEndianBytes bytes.length (littleEndian bytes) = bytes := by
  induction bytes with
  | nil => rfl
  | cons b rest ih =>
      have hb := b.toNat_lt
      have hlow : (b.toNat + 256 * littleEndian rest) % 256 = b.toNat := by omega
      have hhigh : (b.toNat + 256 * littleEndian rest) / 256 = littleEndian rest := by omega
      rw [littleEndian, List.length_cons, littleEndianBytes, hlow, hhigh, ih, UInt8.ofNat_toNat]

/-- Two numbers that fit are never written in the same bytes. -/
theorem littleEndianBytes_inj {m n : Nat} (hm : m < 256 ^ count) (hn : n < 256 ^ count)
    (h : littleEndianBytes count m = littleEndianBytes count n) : m = n := by
  rw [← littleEndian_littleEndianBytes hm, h, littleEndian_littleEndianBytes hn]

/-- The bytes of a word that was read are those it was read from. -/
theorem wordBytes_of_length (h : bytes.length = 8) :
    littleEndianBytes 8 (UInt64.ofNat (littleEndian bytes)).toNat = bytes := by
  have hlt := littleEndian_lt bytes
  rw [h] at hlt
  rw [UInt64.toNat_ofNat_of_lt' hlt, ← h, littleEndianBytes_littleEndian]

/-- So are the bytes of a value. -/
theorem valueBytes_of_length (h : bytes.length = 32) :
    littleEndianBytes 32 (BitVec.ofNat 256 (littleEndian bytes)).toNat = bytes := by
  have hlt : littleEndian bytes < 2 ^ 256 :=
    Nat.lt_of_lt_of_eq (littleEndian_lt bytes) (by rw [h]; rfl)
  rw [BitVec.toNat_ofNat, Nat.mod_eq_of_lt hlt, ← h, littleEndianBytes_littleEndian]

/-! ## Parts -/

/-- The bytes cut into parts of the given widths. -/
def cut : List Nat → List UInt8 → List (List UInt8)
  | [], _ => []
  | width :: widths, bytes => bytes.take width :: cut widths (bytes.drop width)

/-- Cutting loses nothing of bytes that the widths cover. -/
theorem flatten_cut {widths : List Nat} (h : bytes.length = widths.sum) :
    (cut widths bytes).flatten = bytes := by
  induction widths generalizing bytes with
  | nil => exact (List.eq_nil_of_length_eq_zero h).symm
  | cons width widths ih =>
      have hrest : (bytes.drop width).length = widths.sum := by
        rw [List.length_drop, h, List.sum_cons]
        omega
      rw [cut, List.flatten_cons, ih hrest, List.take_append_drop]

/-- Parts that were joined are cut apart where they met. -/
theorem cut_flatten (parts : List (List UInt8)) :
    cut (parts.map List.length) parts.flatten = parts := by
  induction parts with
  | nil => rfl
  | cons part parts ih =>
      rw [List.map_cons, List.flatten_cons, cut, List.take_left, List.drop_left, ih]

theorem map_length_cut {widths : List Nat} (h : widths.sum ≤ bytes.length) :
    (cut widths bytes).map List.length = widths := by
  induction widths generalizing bytes with
  | nil => rfl
  | cons width widths ih =>
      rw [List.sum_cons] at h
      have hrest : widths.sum ≤ (bytes.drop width).length := by
        rw [List.length_drop]
        omega
      rw [cut, List.map_cons, ih hrest, List.length_take, Nat.min_eq_left (by omega)]

/-- How many bytes the parts of a frame take. -/
def partWidths : List Nat := [8, 8, 8, 32, 32, 48, 20, 32]

theorem sum_partWidths : partWidths.sum = frameLength := rfl

/-- Where the parts of a frame begin. -/
theorem cut_partWidths (frame : List UInt8) : cut partWidths frame =
    [frame.take 8, (frame.drop 8).take 8, (frame.drop 16).take 8, (frame.drop 24).take 32,
      (frame.drop 56).take 32, (frame.drop 88).take 48, (frame.drop 136).take 20,
      (frame.drop 156).take 32] := by
  simp [cut, partWidths, List.drop_drop]

namespace TopBid

/-- The parts of a frame in their order: timestamp, slot and block number, block hash, parent hash
and builder key, fee recipient, value. -/
def parts (top : TopBid) : List (List UInt8) :=
  [littleEndianBytes 8 top.timestampMs.toNat, littleEndianBytes 8 top.slot.number.toInt.toNat,
    littleEndianBytes 8 top.blockNumber.toNat, top.blockHash, top.parentHash, top.builderPubkey,
    top.feeRecipient, littleEndianBytes 32 top.value.toNat]

/-- The bid laid out as a frame. -/
def toFrame (top : TopBid) : List UInt8 := top.parts.flatten

/-- Hashes, key and address have the widths that they have in a frame. -/
structure Sized (top : TopBid) : Prop where
  blockHash : top.blockHash.length = 32
  parentHash : top.parentHash.length = 32
  builderPubkey : top.builderPubkey.length = 48
  feeRecipient : top.feeRecipient.length = 20

theorem sized_iff : top.Sized ↔ top.parts.map List.length = partWidths := by
  constructor
  · intro h
    simp [parts, partWidths, h.blockHash, h.parentHash, h.builderPubkey, h.feeRecipient]
  · intro h
    simp only [parts, partWidths, List.map_cons, List.map_nil, length_littleEndianBytes,
      List.cons.injEq, true_and, and_true] at h
    exact ⟨h.1, h.2.1, h.2.2.1, h.2.2.2⟩

theorem Sized.length_toFrame (h : top.Sized) : top.toFrame.length = frameLength := by
  rw [toFrame, List.length_flatten, sized_iff.mp h, sum_partWidths]

/-- **What becomes of a frame of the right length**: it is read part by part if its slot is in
range, and refused for its slot otherwise. -/
theorem ofFrame_cases (h : frame.length = frameLength) :
    (∃ top, ofFrame frame = .ok top ∧ top.slot.inRange = true
        ∧ top.slot.number.toInt = littleEndian ((frame.drop 8).take 8)
        ∧ top.parts = cut partWidths frame)
      ∨ (ofFrame frame = .error (.slotOutOfRange (wordAt frame 8))
        ∧ Slot.last.number.toInt < littleEndian ((frame.drop 8).take 8)) := by
  have hpart : ∀ start width, start + width ≤ 188 →
      ((frame.drop start).take width).length = width := by
    intro start width hle
    rw [List.length_take, List.length_drop, h, frameLength]
    omega
  have hword : ∀ start, start + 8 ≤ 188 →
      littleEndianBytes 8 (wordAt frame start).toNat = (frame.drop start).take 8 :=
    fun start hle => wordBytes_of_length (hpart start 8 hle)
  have hraw : (wordAt frame 8).toNat = littleEndian ((frame.drop 8).take 8) :=
    UInt64.toNat_ofNat_of_lt' (littleEndian_take_lt _ 8)
  unfold ofFrame
  rw [if_neg (not_not_intro h)]
  dsimp only
  split
  · rename_i slot hslot
    obtain ⟨w, hw, rfl⟩ := Option.map_eq_some_iff.mp hslot
    have hnumber : w.toInt = littleEndian ((frame.drop 8).take 8) := by
      rw [← hraw]
      exact Word.signed?_eq_some_iff.mp hw
    split
    · rename_i hrange
      refine Or.inl ⟨_, rfl, hrange, hnumber, ?_⟩
      have hslotBytes : littleEndianBytes 8 w.toInt.toNat = (frame.drop 8).take 8 := by
        rw [hnumber, Int.toNat_natCast, ← hraw]
        exact hword 8 (by decide)
      rw [cut_partWidths, parts, hword 0 (by decide), hslotBytes, hword 16 (by decide),
        valueBytes_of_length (hpart 156 32 (by decide))]
      rfl
    · rename_i hrange
      have hlate : ¬ (0 ≤ w.toInt ∧ w.toInt ≤ Slot.last.number.toInt) :=
        mt Slot.inRange_iff.mpr hrange
      exact Or.inr ⟨rfl, by omega⟩
  · rename_i hslot
    -- a word that fits no signed word lies beyond every slot
    have hlarge := Word.signed?_eq_none_iff.mp (Option.map_eq_none_iff.mp hslot)
    have hlast := Slot.last.number.toInt_lt
    exact Or.inr ⟨rfl, by omega⟩

theorem ofFrame_of_length_ne (h : frame.length ≠ frameLength) :
    ofFrame frame = .error (.invalidLength frame.length) :=
  if_pos h

/-- Bids with slots in range differ in some part if they differ. -/
theorem parts_inj (hr : top.slot.inRange = true) (hr' : top'.slot.inRange = true)
    (h : top.parts = top'.parts) : top = top' := by
  simp only [parts, List.cons.injEq, and_true] at h
  obtain ⟨htimestamp, hslot, hnumber, hblock, hparent, hbuilder, hrecipient, hvalue⟩ := h
  obtain ⟨hlo, hhi⟩ := Slot.inRange_iff.mp hr
  obtain ⟨hlo', hhi'⟩ := Slot.inRange_iff.mp hr'
  have hslots := littleEndianBytes_inj (by omega) (by omega) hslot
  have hsame : top.slot = top'.slot := Slot.eq_iff.mpr (by omega)
  have htimestamps :=
    littleEndianBytes_inj top.timestampMs.toNat_lt top'.timestampMs.toNat_lt htimestamp
  have hnumbers := littleEndianBytes_inj top.blockNumber.toNat_lt top'.blockNumber.toNat_lt hnumber
  have hvalues := littleEndianBytes_inj top.value.isLt top'.value.isLt hvalue
  cases top
  cases top'
  simp only [mk.injEq]
  exact ⟨UInt64.toNat_inj.mp htimestamps, hsame, UInt64.toNat_inj.mp hnumbers,
    hblock, hparent, hbuilder, hrecipient, BitVec.eq_of_toNat_eq hvalues⟩

/-- A bid laid out is cut into its parts. -/
theorem Sized.cut_toFrame (h : top.Sized) : cut partWidths top.toFrame = top.parts := by
  rw [← sized_iff.mp h]
  exact cut_flatten top.parts

/-- The slot of a bid is found where frames have it. -/
theorem slot_of_toFrame (hs : top.Sized) (hr : top.slot.inRange = true) :
    littleEndian ((top.toFrame.drop 8).take 8) = top.slot.number.toInt := by
  have hcut := hs.cut_toFrame
  obtain ⟨hlo, hhi⟩ := Slot.inRange_iff.mp hr
  rw [cut_partWidths, parts, List.cons.injEq, List.cons.injEq] at hcut
  rw [hcut.2.1, littleEndian_littleEndianBytes (by omega)]
  omega

/-- **A frame is read as a bid if and only if it is that bid laid out.** -/
theorem ofFrame_eq_ok_iff : ofFrame frame = .ok top
    ↔ top.Sized ∧ top.slot.inRange = true ∧ top.toFrame = frame := by
  constructor
  · intro h
    have hlength : frame.length = frameLength := by
      refine Decidable.not_not.mp fun hne => ?_
      rw [ofFrame_of_length_ne hne] at h
      exact absurd h (by simp)
    rcases ofFrame_cases hlength with ⟨top', htop', hr, -, hparts⟩ | ⟨herror, -⟩
    · obtain rfl := Except.ok.inj (htop'.symm.trans h)
      refine ⟨sized_iff.mpr ?_, hr, ?_⟩
      · rw [hparts, map_length_cut (Nat.le_of_eq (sum_partWidths.trans hlength.symm))]
      · rw [toFrame, hparts, flatten_cut (hlength.trans sum_partWidths.symm)]
    · rw [herror] at h
      exact absurd h (by simp)
  · rintro ⟨hs, hr, rfl⟩
    rcases ofFrame_cases hs.length_toFrame with ⟨top', htop', hr', -, hparts⟩ | ⟨-, hlate⟩
    · rw [htop', parts_inj hr' hr (hparts.trans hs.cut_toFrame)]
    · rw [slot_of_toFrame hs hr] at hlate
      have hle := (Slot.inRange_iff.mp hr).2
      exact absurd hlate (Int.not_lt.mpr hle)

/-- The parts of a bid are those of the frame it was read from. -/
theorem parts_eq_cut (h : ofFrame frame = .ok top) :
    frame.length = frameLength ∧ top.parts = cut partWidths frame := by
  obtain ⟨hs, -, rfl⟩ := ofFrame_eq_ok_iff.mp h
  exact ⟨hs.length_toFrame, hs.cut_toFrame.symm⟩

theorem ofFrame_eq_invalidLength_iff : ofFrame frame = .error (.invalidLength n)
    ↔ frame.length = n ∧ n ≠ frameLength := by
  by_cases h : frame.length = frameLength
  · rcases ofFrame_cases h with ⟨top, htop, -⟩ | ⟨herror, -⟩
    · simp [htop, h]
      omega
    · simp [herror, h]
      omega
  · simp [ofFrame_of_length_ne h]
    omega

theorem ofFrame_eq_slotOutOfRange_iff {raw : UInt64} :
    ofFrame frame = .error (.slotOutOfRange raw)
      ↔ frame.length = frameLength ∧ raw.toNat = littleEndian ((frame.drop 8).take 8)
        ∧ Slot.last.number.toInt < raw.toNat := by
  have hraw : (wordAt frame 8).toNat = littleEndian ((frame.drop 8).take 8) :=
    UInt64.toNat_ofNat_of_lt' (littleEndian_take_lt _ 8)
  by_cases h : frame.length = frameLength
  · rcases ofFrame_cases h with ⟨top, htop, hr, hslot, -⟩ | ⟨herror, hlate⟩
    · have hle : top.slot.number.toInt ≤ Slot.last.number.toInt := (Slot.inRange_iff.mp hr).2
      simp [htop]
      omega
    · simp only [herror, Except.error.injEq, FrameFault.slotOutOfRange.injEq, h, true_and]
      constructor
      · rintro rfl
        exact ⟨hraw, by omega⟩
      · rintro ⟨hsame, -⟩
        exact UInt64.toNat_inj.mp (hraw.trans hsame.symm)
  · simp [ofFrame_of_length_ne h, h]

theorem exists_ofFrame_eq_ok_iff : (∃ top, ofFrame frame = .ok top)
    ↔ frame.length = frameLength
      ∧ littleEndian ((frame.drop 8).take 8) ≤ Slot.last.number.toInt := by
  by_cases h : frame.length = frameLength
  · rcases ofFrame_cases h with ⟨top, htop, hr, hslot, -⟩ | ⟨herror, hlate⟩
    · have hle : top.slot.number.toInt ≤ Slot.last.number.toInt := (Slot.inRange_iff.mp hr).2
      simp [htop, h]
      omega
    · simp [herror, h]
      omega
  · simp [ofFrame_of_length_ne h, h]

/--
**Frames and bids are two forms of one thing.**

Bytes that are not 188 in number are refused for their number, and of the others exactly those whose
second word is beyond the last slot are refused for that word; all the rest are read. A bid with a
slot in range, its hashes, key and address as wide as they are in a frame, is laid out in 188 bytes
that are read as just this bid. Whatever is read is such a bid and laid out as the bytes it was
read from.
-/
theorem ofFrame_bijective (frame : List UInt8) :
    (∀ n, ofFrame frame = .error (.invalidLength n) ↔ frame.length = n ∧ n ≠ frameLength)
      ∧ (∀ raw, ofFrame frame = .error (.slotOutOfRange raw)
        ↔ frame.length = frameLength ∧ raw.toNat = littleEndian (frame.extract 8 16)
          ∧ Slot.last.number.toInt < raw.toNat)
      ∧ ((∃ top, ofFrame frame = .ok top)
        ↔ frame.length = frameLength
          ∧ littleEndian (frame.extract 8 16) ≤ Slot.last.number.toInt)
      ∧ (∀ top, top.Sized → top.slot.inRange = true →
        top.toFrame.length = frameLength ∧ ofFrame top.toFrame = .ok top)
      ∧ ∀ top, ofFrame frame = .ok top →
        top.Sized ∧ top.slot.inRange = true ∧ top.toFrame = frame := by
  refine ⟨fun _ => ofFrame_eq_invalidLength_iff, fun _ => ofFrame_eq_slotOutOfRange_iff,
    exists_ofFrame_eq_ok_iff, fun top hs hr => ?_, fun top => ofFrame_eq_ok_iff.mp⟩
  exact ⟨hs.length_toFrame, ofFrame_eq_ok_iff.mpr ⟨hs, hr, rfl⟩⟩

/-- A bid for some slot, of the largest value. -/
def bidFor (slot : Slot) : TopBid where
  timestampMs := 1606824023000
  slot := slot
  blockNumber := 1
  blockHash := List.replicate 32 0xaa
  parentHash := List.replicate 32 0xbb
  builderPubkey := List.replicate 48 0xcc
  feeRecipient := List.replicate 20 0xdd
  value := BitVec.allOnes 256

/-- The bid for the last slot is read from its frame, one for the slot behind is refused. -/
theorem ofFrame_around_last :
    (bidFor Slot.last).Sized ∧ (bidFor Slot.last).slot.inRange = true
      ∧ ofFrame (bidFor Slot.last).toFrame = .ok (bidFor Slot.last)
      ∧ ofFrame (bidFor ⟨768614202502563⟩).toFrame
        = .error (.slotOutOfRange 768614202502563) := by
  have hs : (bidFor Slot.last).Sized := ⟨rfl, rfl, rfl, rfl⟩
  have hr : (bidFor Slot.last).slot.inRange = true := by decide
  obtain ⟨-, -, -, hread, -⟩ := ofFrame_bijective []
  obtain ⟨-, hrefused, -⟩ := ofFrame_bijective (bidFor ⟨768614202502563⟩).toFrame
  refine ⟨hs, hr, (hread _ hs hr).2, (hrefused _).mpr ?_⟩
  decide +kernel

end TopBid

end BidArchive.Feed
