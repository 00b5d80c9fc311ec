import BidArchive.Archive.Bucket

/-!
# Buckets of time

Time is cut at the multiples of the length of a bucket, and a time of receipt belongs to the bucket
that began last. This is one equivalence: a bucket has begun by some time if and only if it does not
come after the one the time belongs to (`le_bucketStart_iff`). From it come the bounds of a bucket,
their order, and which times share one (`buckets_partition_time`).

It holds for times long before 1970 and for buckets of any length as well. A bucket that begins
before 1970 begins no earlier than its own length before, or than twice as long ago as the time
received, so that the product that its start is fits a word.
-/

namespace BidArchive.Layout

variable {layout : Layout} {ms ms' : Int64}

/-! ## The start of a bucket -/

/-- **The start of a bucket** is what the integers say. -/
theorem toInt_bucketStart (hlen : 0 < layout.bucketSeconds.toInt) (ms : Int64) :
    (layout.bucketStart ms).toInt
      = ms.toInt / 1000 / layout.bucketSeconds.toInt * layout.bucketSeconds.toInt := by
  have hlo := ms.le_toInt
  have hhi := ms.toInt_lt
  have hlen' := layout.bucketSeconds.toInt_lt
  unfold bucketStart
  dsimp only
  generalize layout.bucketSeconds.toInt = length at *
  have hbelow := Int.ediv_mul_le (ms.toInt / 1000) (Int.ne_of_gt hlen)
  have habove := Int.lt_ediv_add_one_mul_self (ms.toInt / 1000) hlen
  generalize ms.toInt / 1000 / length = count at *
  rw [Int.add_mul, Int.one_mul] at habove
  -- a bucket that starts long before 1970 is no longer than the time since
  have hearly : -0x8000000000000000 ≤ count * length := by
    by_cases hcount : -1 ≤ count
    · have hone := Int.mul_le_mul_of_nonneg_right hcount (Int.le_of_lt hlen)
      omega
    · have htwo := Int.mul_le_mul_of_nonneg_right (show count ≤ -2 by omega) (Int.le_of_lt hlen)
      omega
  exact Int64.toInt_ofInt_of_le hearly (by omega)

/-- No step on the way to the start of a bucket overflows. -/
theorem bucketStart?_eq (hlen : 0 < layout.bucketSeconds.toInt) (ms : Int64) :
    layout.bucketStart? ms = some (layout.bucketStart ms) := by
  have hlo := ms.le_toInt
  have hhi := ms.toInt_lt
  obtain ⟨seconds, hseconds⟩ := Word.exists_toInt_eq (n := ms.toInt / 1000) (by omega) (by omega)
  -- division by a length brings a number nearer to zero
  have hearly : -0x8000000000000000 ≤ seconds.toInt / layout.bucketSeconds.toInt :=
    (Int.le_ediv_iff_mul_le hlen).mpr (by omega)
  have hlate : seconds.toInt / layout.bucketSeconds.toInt < 0x8000000000000000 :=
    (Int.ediv_lt_iff_lt_mul hlen).mpr (by omega)
  obtain ⟨count, hcount⟩ := Word.exists_toInt_eq hearly hlate
  have hproduct : Word.mul? count layout.bucketSeconds = some (layout.bucketStart ms) := by
    rw [Word.mul?_eq_some_iff, toInt_bucketStart hlen, hcount, hseconds]
  unfold bucketStart?
  rw [Word.signed?_eq_some_iff.mpr hseconds]
  dsimp only [Option.bind_eq_bind, Option.bind_some]
  rw [Word.signed?_eq_some_iff.mpr hcount]
  exact hproduct

theorem dvd_bucketStart (hlen : 0 < layout.bucketSeconds.toInt) (ms : Int64) :
    layout.bucketSeconds.toInt ∣ (layout.bucketStart ms).toInt := by
  rw [toInt_bucketStart hlen]
  exact Int.dvd_mul_left _ _

/-- **A bucket has begun if and only if it does not come after the one the time belongs to.** -/
theorem le_bucketStart_iff (hlen : 0 < layout.bucketSeconds.toInt) {b : Int}
    (hb : layout.bucketSeconds.toInt ∣ b) :
    b ≤ (layout.bucketStart ms).toInt ↔ b * 1000 ≤ ms.toInt := by
  obtain ⟨count, rfl⟩ := hb
  have hthousand : (0 : Int) < 1000 := by decide
  rw [toInt_bucketStart hlen, Int.mul_comm _ count, Int.mul_le_mul_iff_of_pos_right hlen,
    Int.le_ediv_iff_mul_le hlen, Int.le_ediv_iff_mul_le hthousand]

/-! ## Buckets and times -/

/-- The bucket that a time belongs to has begun. -/
theorem bucketStart_begun (hlen : 0 < layout.bucketSeconds.toInt) (ms : Int64) :
    (layout.bucketStart ms).toInt * 1000 ≤ ms.toInt :=
  (le_bucketStart_iff hlen (dvd_bucketStart hlen ms)).mp (Int.le_refl _)

/-- **A time lies in its bucket**, and in no other. -/
theorem eq_bucketStart_iff (hlen : 0 < layout.bucketSeconds.toInt) {b : Int} :
    layout.bucketSeconds.toInt ∣ b ∧ b * 1000 ≤ ms.toInt
        ∧ ms.toInt < (b + layout.bucketSeconds.toInt) * 1000
      ↔ b = (layout.bucketStart ms).toInt := by
  constructor
  · rintro ⟨hdvd, hbegun, hahead⟩
    have hle := (le_bucketStart_iff hlen hdvd).mpr hbegun
    have hnext : ¬ b + layout.bucketSeconds.toInt ≤ (layout.bucketStart ms).toInt := by
      rw [le_bucketStart_iff hlen (Int.dvd_add hdvd (Int.dvd_refl _))]
      exact Int.not_le.mpr hahead
    refine Int.le_antisymm hle (Int.not_lt.mp fun hlt => ?_)
    -- different multiples lie a length or more apart
    have hapart := Int.le_of_dvd (by omega) (Int.dvd_sub (dvd_bucketStart hlen ms) hdvd)
    omega
  · rintro rfl
    refine ⟨dvd_bucketStart hlen ms, bucketStart_begun hlen ms, ?_⟩
    have hnext := Int.dvd_add (dvd_bucketStart hlen ms) (Int.dvd_refl _)
    refine Int.not_le.mp (mt (le_bucketStart_iff hlen hnext).mpr ?_)
    omega

theorem bucketStart_le (hlen : 0 < layout.bucketSeconds.toInt) (h : ms.toInt ≤ ms'.toInt) :
    (layout.bucketStart ms).toInt ≤ (layout.bucketStart ms').toInt := by
  rw [le_bucketStart_iff hlen (dvd_bucketStart hlen ms)]
  exact Int.le_trans (bucketStart_begun hlen ms) h

/-- Between a time and one of a later bucket that bucket begins. -/
theorem exists_boundary (hlen : 0 < layout.bucketSeconds.toInt)
    (h : (layout.bucketStart ms).toInt < (layout.bucketStart ms').toInt) :
    ∃ b, layout.bucketSeconds.toInt ∣ b ∧ ms.toInt < b * 1000 ∧ b * 1000 ≤ ms'.toInt := by
  have hdvd := dvd_bucketStart hlen ms'
  refine ⟨_, hdvd, ?_, bucketStart_begun hlen ms'⟩
  exact Int.not_le.mp (mt (le_bucketStart_iff hlen hdvd).mpr (Int.not_le.mpr h))

/--
**Buckets cut time into parts of their length.**

For buckets of any length and any time of receipt nothing overflows on the way to the start of the
bucket, which is the one multiple of the length within a length before the time. A later time never
belongs to an earlier bucket, and two times share a bucket if and only if none begins between them.
-/
theorem buckets_partition_time (layout : Layout) (hlen : 1 ≤ layout.bucketSeconds.toInt) :
    (∀ ms, layout.bucketStart? ms = some (layout.bucketStart ms))
      ∧ (∀ (ms : Int64) (b : Int), layout.bucketSeconds.toInt ∣ b ∧ b * 1000 ≤ ms.toInt
            ∧ ms.toInt < (b + layout.bucketSeconds.toInt) * 1000
          ↔ b = (layout.bucketStart ms).toInt)
      ∧ (∀ ms ms' : Int64, ms.toInt ≤ ms'.toInt →
          (layout.bucketStart ms).toInt ≤ (layout.bucketStart ms').toInt)
      ∧ ∀ ms ms' : Int64, layout.bucketStart ms = layout.bucketStart ms'
          ↔ ¬ ∃ b : Int, layout.bucketSeconds.toInt ∣ b
            ∧ (ms.toInt < b * 1000 ∧ b * 1000 ≤ ms'.toInt
              ∨ ms'.toInt < b * 1000 ∧ b * 1000 ≤ ms.toInt) := by
  have hpos : 0 < layout.bucketSeconds.toInt := hlen
  refine ⟨bucketStart?_eq hpos, fun _ _ => eq_bucketStart_iff hpos,
    fun _ _ => bucketStart_le hpos, fun ms ms' => ⟨fun hsame hbetween => ?_, fun hnone => ?_⟩⟩
  · obtain ⟨b, hdvd, hsides⟩ := hbetween
    have hside : b * 1000 ≤ ms.toInt ↔ b * 1000 ≤ ms'.toInt := by
      rw [← le_bucketStart_iff hpos hdvd, hsame, le_bucketStart_iff hpos hdvd]
    omega
  · refine Int64.toInt.inj (Int.le_antisymm (Int.not_lt.mp fun hlt => ?_)
      (Int.not_lt.mp fun hlt => ?_))
    · obtain ⟨b, hdvd, hbetween⟩ := exists_boundary hpos hlt
      exact hnone ⟨b, hdvd, .inr hbetween⟩
    · obtain ⟨b, hdvd, hbetween⟩ := exists_boundary hpos hlt
      exact hnone ⟨b, hdvd, .inl hbetween⟩

/-- Buckets as long as a word has seconds. -/
def longest : Layout := { bucketSeconds := Int64.maxValue }

/-- Of the longest buckets one ends and one begins with the year 1970. -/
theorem longest_buckets_meet :
    longest.bucketStart? Int64.minValue = some (-9223372036854775807)
      ∧ longest.bucketStart (-1) = longest.bucketStart Int64.minValue
      ∧ longest.bucketStart (-1) ≠ longest.bucketStart 0 := by
  have hlength : longest.bucketSeconds.toInt = 9223372036854775807 := by decide
  have hmin : Int64.minValue.toInt = -9223372036854775808 := by decide
  have hbefore : (-1 : Int64).toInt = -1 := by decide
  have hstart : (0 : Int64).toInt = 0 := by decide
  obtain ⟨hwords, hwithin, -, hshare⟩ := buckets_partition_time longest (by decide)
  refine ⟨?_, (hshare _ _).mpr ?_, mt (hshare _ _).mp (not_not_intro ⟨0, ?_⟩)⟩
  · have hearliest : -9223372036854775807 = (longest.bucketStart Int64.minValue).toInt :=
      (hwithin _ _).mp ⟨by decide, by omega, by omega⟩
    rw [hwords]
    exact congrArg some (Int64.toInt.inj (hearliest.symm.trans (by decide)))
  · rintro ⟨b, ⟨count, rfl⟩, hsides⟩
    rw [hlength, hmin, hbefore] at hsides
    omega
  · rw [hbefore, hstart]
    exact ⟨Int.dvd_zero _, .inl ⟨by decide, by decide⟩⟩

end BidArchive.Layout
