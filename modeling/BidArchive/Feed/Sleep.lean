/-!
# Sleeping until a moment

Who waits for a moment reads the clock once and sleeps for as long as it then lies ahead. The
distance is a word and clamped to its range; for a moment that has passed nobody sleeps.
-/

namespace BidArchive.Feed

/-- How many milliseconds to sleep, at a reading of the clock, until a moment. -/
def sleepMs (untilMs now : Int64) : Nat :=
  min (untilMs.toInt - now.toInt).toNat Int64.maxValue.toInt.toNat

end BidArchive.Feed
