import BidArchive.Proofs.Number.Numeral
import BidArchive.Time.Instant

/-!
# Dates name their days

A day is found again from its date (`day_ofDay`): the year of the era and the day of the
year that a date is made of stay within their bounds, so that nothing runs over into the
next. And a date is found again from its text (`text_inj`), whose end has a fixed length
while the year in front has a sign wherever four digits would not do. So days have texts
of their own, also outside the years of four digits, and so have the minutes of a day.
-/

namespace BidArchive.Time

/-! ## Days and dates -/

/-- The year of the era that a day falls in, both counted from 0. -/
def yearOfEra (dayOfEra : Int) : Int :=
  (dayOfEra - dayOfEra / 1460 + dayOfEra / 36524 - dayOfEra / 146096) / 365

/-- The day of the year, counted from 1 March. -/
def dayOfYear (dayOfEra : Int) : Int :=
  dayOfEra - (365 * yearOfEra dayOfEra + yearOfEra dayOfEra / 4 - yearOfEra dayOfEra / 100)

section

variable {n : Int}

theorem yearOfEra_bounds (h : 0 ≤ n) (h' : n < eraDays) : 0 ≤ yearOfEra n ∧ yearOfEra n < 400 := by
  unfold eraDays at h'
  unfold yearOfEra
  omega

/-- **A year has at most 366 days**, and no day comes before its first. -/
theorem dayOfYear_bounds (h : 0 ≤ n) (h' : n < eraDays) : 0 ≤ dayOfYear n ∧ dayOfYear n ≤ 365 := by
  unfold eraDays at h'
  unfold dayOfYear
  generalize hy : yearOfEra n = y
  unfold yearOfEra at hy
  -- the centuries of the year are those of the day, but for the last day of the era
  have hcenturies : y / 100 = n / 36524 - n / 146096 := by
    have hc : n / 36524 = 0 ∨ n / 36524 = 1 ∨ n / 36524 = 2 ∨ n / 36524 = 3 ∨ n / 36524 = 4 := by
      omega
    rcases hc with hc | hc | hc | hc | hc
    all_goals omega
  have hleaps : y / 4 ≤ n / 1460 := by omega
  have hleaps' : n / 1460 ≤ y / 4 + 1 := by omega
  omega

namespace Date

theorem ofDay_eq {dayOfEra month : Int} (hday : dayOfEra = (n + 719468) % eraDays)
    (hmonth : month = (5 * dayOfYear dayOfEra + 2) / 153) : ofDay n =
      { year := yearOfEra dayOfEra + (n + 719468) / eraDays * 400
          + (if (if month < 10 then month + 3 else month - 9) ≤ 2 then 1 else 0)
        month := if month < 10 then month + 3 else month - 9
        dayOfMonth := dayOfYear dayOfEra - (153 * month + 2) / 5 + 1 } := by
  rw [hmonth, hday]
  rfl

/-- **The parts of a date**: `y` is the year of the era, `d` the day of the year and `m` the month,
all counted from 0 and from March on. -/
theorem parts_of_ofDay (n : Int) : ∃ era y d m,
    n + 719468 = era * eraDays + (365 * y + y / 4 - y / 100 + d)
      ∧ 0 ≤ y ∧ y < 400 ∧ 0 ≤ d ∧ d ≤ 365 ∧ m = (5 * d + 2) / 153
      ∧ (m < 10 ∧ ofDay n = ⟨y + era * 400, m + 3, d - (153 * m + 2) / 5 + 1⟩
        ∨ 10 ≤ m ∧ ofDay n = ⟨y + era * 400 + 1, m - 9, d - (153 * m + 2) / 5 + 1⟩) := by
  have heras : 0 < eraDays := by decide
  obtain ⟨dayOfEra, hday⟩ : ∃ dayOfEra, dayOfEra = (n + 719468) % eraDays := ⟨_, rfl⟩
  obtain ⟨m, hm⟩ : ∃ m, m = (5 * dayOfYear dayOfEra + 2) / 153 := ⟨_, rfl⟩
  have hlo : 0 ≤ dayOfEra := hday ▸ Int.emod_nonneg _ (Int.ne_of_gt heras)
  have hhi : dayOfEra < eraDays := hday ▸ Int.emod_lt_of_pos _ heras
  obtain ⟨hy, hy'⟩ := yearOfEra_bounds hlo hhi
  obtain ⟨hd, hd'⟩ := dayOfYear_bounds hlo hhi
  refine ⟨(n + 719468) / eraDays, yearOfEra dayOfEra, dayOfYear dayOfEra, m, ?_, hy, hy', hd, hd',
    hm, ?_⟩
  · have hsum := Int.ediv_mul_add_emod (n + 719468) eraDays
    unfold dayOfYear
    omega
  · have hdate := ofDay_eq hday hm
    by_cases hlate : m < 10
    · refine Or.inl ⟨hlate, ?_⟩
      rw [hdate, if_pos hlate, if_neg (by omega), Int.add_zero]
    · refine Or.inr ⟨Int.not_lt.mp hlate, ?_⟩
      rw [hdate, if_neg hlate, if_pos (by omega)]

theorem month_bounds (n : Int) : 1 ≤ (ofDay n).month ∧ (ofDay n).month ≤ 12 := by
  obtain ⟨era, y, d, m, _, _, _, hlo, hhi, hm, ⟨_, h⟩ | ⟨_, h⟩⟩ := parts_of_ofDay n
  all_goals
    rw [h]
    dsimp only
    omega

theorem dayOfMonth_bounds (n : Int) : 1 ≤ (ofDay n).dayOfMonth ∧ (ofDay n).dayOfMonth ≤ 31 := by
  obtain ⟨era, y, d, m, _, _, _, hlo, hhi, hm, ⟨_, h⟩ | ⟨_, h⟩⟩ := parts_of_ofDay n
  all_goals
    rw [h]
    dsimp only
    omega

/-- **A day is found again from its date.** -/
theorem day_ofDay (n : Int) : (ofDay n).day = n := by
  obtain ⟨era, y, d, m, hn, hy, hy', hlo, hhi, hm, ⟨hmonth, h⟩ | ⟨hmonth, h⟩⟩ := parts_of_ofDay n
  all_goals
    rw [h]
    unfold day eraDays at *
    dsimp only
  · rw [if_neg (show ¬ m + 3 ≤ 2 by omega), if_pos (show m + 3 > 2 by omega)]
    omega
  · rw [if_pos (show m - 9 ≤ 2 by omega), if_neg (show ¬ m - 9 > 2 by omega)]
    omega

theorem ofDay_inj {m : Int} (h : ofDay m = ofDay n) : m = n := by
  rw [← day_ofDay m, h, day_ofDay]

end Date

end

/-! ## Numbers of a fixed width -/

/-- A number is read back from its digits, with or without zeros in front. -/
theorem ofDigitChars_padded (width n : Nat) :
    Nat.ofDigitChars 10 (padded width n).toList 0 = n := by
  unfold padded
  dsimp only
  rw [String.toList_append, String.toList_ofList, Nat.ofDigitChars_append,
    Nat.ofDigitChars_replicate_zero, Nat.mul_zero, Nat.toList_repr, Nat.ofDigitChars_ten_toDigits]

theorem padded_inj {width m n : Nat} (h : padded width m = padded width n) : m = n := by
  rw [← ofDigitChars_padded width m, h, ofDigitChars_padded]

theorem isDigit_of_mem_padded {width n : Nat} {c : Char} (h : c ∈ (padded width n).toList) :
    c.isDigit = true := by
  unfold padded at h
  dsimp only at h
  rw [String.toList_append, String.toList_ofList] at h
  rcases List.mem_append.mp h with h | h
  · rw [List.eq_of_mem_replicate h]
    decide
  · exact Numeral.isDigit_of_mem_nat_repr h

theorem length_padded_two {n : Nat} (h : n < 100) : (padded 2 n).toList.length = 2 := by
  have hle : n.repr.length ≤ 2 := (Nat.length_repr_le_iff (by decide)).mpr h
  unfold padded
  dsimp only
  rw [String.toList_append, String.toList_ofList, List.length_append, List.length_replicate,
    String.length_toList]
  omega

/-! ## Texts of dates -/

/-- Only a year below 0 begins with a hyphen, and only one of more than four digits with a plus. -/
theorem yearText_cases (year : Int) :
    (yearText year = padded 4 year.toNat ∧ 0 ≤ year)
      ∨ (yearText year = "-" ++ padded 4 year.natAbs ∧ year < 0)
      ∨ (yearText year = "+" ++ padded 4 year.toNat ∧ 0 ≤ year) := by
  unfold yearText
  split
  · exact Or.inl ⟨rfl, by omega⟩
  · split
    · exact Or.inr (Or.inl ⟨rfl, by omega⟩)
    · exact Or.inr (Or.inr ⟨rfl, by omega⟩)

/-- The year that a text names. -/
def yearOf : List Char → Int
  | '-' :: digits => -(Nat.ofDigitChars 10 digits 0 : Int)
  | '+' :: digits => Nat.ofDigitChars 10 digits 0
  | digits => Nat.ofDigitChars 10 digits 0

theorem yearOf_of_isDigit {cs : List Char} (h : ∀ c ∈ cs, c.isDigit = true) :
    yearOf cs = Nat.ofDigitChars 10 cs 0 := by
  unfold yearOf
  split
  · exact absurd (h '-' List.mem_cons_self) (by decide)
  · exact absurd (h '+' List.mem_cons_self) (by decide)
  · rfl

/-- **A year is read back from its text.** -/
theorem yearOf_yearText (year : Int) : yearOf (yearText year).toList = year := by
  rcases yearText_cases year with ⟨h, hyear⟩ | ⟨h, hyear⟩ | ⟨h, hyear⟩
  · rw [h, yearOf_of_isDigit fun c hc => isDigit_of_mem_padded hc, ofDigitChars_padded]
    omega
  · rw [h, String.toList_append]
    show -(Nat.ofDigitChars 10 (padded 4 year.natAbs).toList 0 : Int) = year
    rw [ofDigitChars_padded]
    omega
  · rw [h, String.toList_append]
    show (Nat.ofDigitChars 10 (padded 4 year.toNat).toList 0 : Int) = year
    rw [ofDigitChars_padded]
    omega

theorem slash_not_mem_padded (width n : Nat) : '/' ∉ (padded width n).toList := by
  intro h
  exact absurd (isDigit_of_mem_padded h) (by decide)

theorem slash_not_mem_yearText (year : Int) : '/' ∉ (yearText year).toList := by
  rcases yearText_cases year with ⟨h, _⟩ | ⟨h, _⟩ | ⟨h, _⟩
  · rw [h]
    exact slash_not_mem_padded 4 _
  all_goals
    rw [h, String.toList_append]
    intro hmem
    rcases List.mem_append.mp hmem with hmem | hmem
    · exact absurd hmem (by decide)
    · exact slash_not_mem_padded 4 _ hmem

namespace Date

/-- What follows the year in the text of a date. -/
def monthAndDay (d : Date) : List Char :=
  '-' :: ((padded 2 d.month.toNat).toList ++ '-' :: (padded 2 d.dayOfMonth.toNat).toList)

theorem text_toList (d : Date) : d.text.toList = (yearText d.year).toList ++ d.monthAndDay := by
  have hhyphen : "-".toList = ['-'] := by decide
  unfold text monthAndDay
  simp only [String.toList_append, hhyphen, List.append_assoc, List.cons_append, List.nil_append]

theorem slash_not_mem_text (d : Date) : '/' ∉ d.text.toList := by
  rw [text_toList]
  intro h
  rcases List.mem_append.mp h with h | h
  · exact slash_not_mem_yearText _ h
  · unfold monthAndDay at h
    simp only [List.mem_cons, List.mem_append, Char.reduceEq, false_or] at h
    rcases h with h | h
    · exact slash_not_mem_padded 2 _ h
    · exact slash_not_mem_padded 2 _ h

theorem hyphen_mem_text (d : Date) : '-' ∈ d.text.toList := by
  rw [text_toList]
  exact List.mem_append_right _ List.mem_cons_self

theorem length_monthAndDay (n : Int) : (ofDay n).monthAndDay.length = 6 := by
  obtain ⟨_, hmonth⟩ := month_bounds n
  obtain ⟨_, hday⟩ := dayOfMonth_bounds n
  unfold monthAndDay
  rw [List.length_cons, List.length_append, List.length_cons, length_padded_two (by omega),
    length_padded_two (by omega)]

theorem eq_of_parts {a b : Date} (hy : a.year = b.year) (hm : a.month = b.month)
    (hd : a.dayOfMonth = b.dayOfMonth) : a = b := by
  cases a
  cases b
  rw [mk.injEq]
  exact ⟨hy, hm, hd⟩

/-- **Days have texts of their own.** -/
theorem text_ofDay_inj {m n : Int} (h : (ofDay m).text = (ofDay n).text) : m = n := by
  have hl := congrArg String.toList h
  rw [text_toList, text_toList] at hl
  -- month and day take up the same room in both texts
  obtain ⟨hyear, hrest⟩ :=
    List.append_inj' hl ((length_monthAndDay m).trans (length_monthAndDay n).symm)
  obtain ⟨hmonth, hday⟩ := List.append_inj (List.cons.inj hrest).2 (by
    rw [length_padded_two, length_padded_two]
    · exact Nat.lt_of_le_of_lt (Int.toNat_le_toNat (month_bounds n).2) (by decide)
    · exact Nat.lt_of_le_of_lt (Int.toNat_le_toNat (month_bounds m).2) (by decide))
  have hy : (ofDay m).year = (ofDay n).year := by
    rw [← yearOf_yearText (ofDay m).year, hyear, yearOf_yearText]
  have hmo := padded_inj (String.toList_inj.mp hmonth)
  have hd := padded_inj (String.toList_inj.mp (List.cons.inj hday).2)
  obtain ⟨hm, _⟩ := month_bounds m
  obtain ⟨hn, _⟩ := month_bounds n
  obtain ⟨hm', _⟩ := dayOfMonth_bounds m
  obtain ⟨hn', _⟩ := dayOfMonth_bounds n
  refine ofDay_inj (eq_of_parts hy ?_ ?_)
  · omega
  · omega

end Date

/-! ## Minutes -/

namespace Instant

variable {i j : Instant}

theorem hour_lt (i : Instant) : i.hour < 24 := by
  unfold hour secondOfDay
  omega

theorem minute_lt (i : Instant) : i.minute < 60 := by
  unfold minute
  omega

/-- **An instant is found again from its day, hour and minute**, up to the minute. -/
theorem minutes_eq (i : Instant) :
    i.seconds / 60 = i.seconds / 86400 * 1440 + i.hour * 60 + i.minute := by
  unfold minute hour secondOfDay
  omega

/-- Instants have the same names of day, hour and minute if they lie in the same minute. -/
theorem same_minute_iff : i.seconds / 60 = j.seconds / 60
    ↔ i.date.text = j.date.text ∧ i.hour = j.hour ∧ i.minute = j.minute := by
  have hi := i.minutes_eq
  have hj := j.minutes_eq
  constructor
  · intro h
    have hday : i.seconds / 86400 = j.seconds / 86400 := by omega
    refine ⟨?_, ?_, ?_⟩
    · unfold date
      rw [hday]
    · unfold hour secondOfDay
      omega
    · unfold minute secondOfDay
      omega
  · rintro ⟨hdate, hhour, hminute⟩
    have hday : i.seconds / 86400 = j.seconds / 86400 := Date.text_ofDay_inj hdate
    omega

/-- The calendar covers whole minutes. -/
theorem isSome_ofSeconds?_of_same_minute {seconds seconds' : Int}
    (h : seconds / 60 = seconds' / 60) (hi : ofSeconds? seconds = some i) :
    ∃ j, ofSeconds? seconds' = some j := by
  unfold ofSeconds? at hi
  split at hi
  · rename_i hrange
    have hrange' : firstSecond ≤ seconds' ∧ seconds' ≤ lastSecond := by
      unfold firstSecond lastSecond at *
      omega
    unfold ofSeconds?
    rw [dif_pos hrange']
    exact ⟨_, rfl⟩
  · exact absurd hi (by simp)

theorem seconds_of_ofSeconds? {seconds : Int} (h : ofSeconds? seconds = some i) :
    i.seconds = seconds :=
  (ofSeconds?_eq_some_iff.mp h).1

end Instant

end BidArchive.Time
