import ActionTree.Moment

/-!
# ActionTree.Proofs.Calendar

Counting days and naming them are inverse to each other.

1. a year that begins in March has 365 days, or 366 if it ends with a leap day; `yearStart`
   are the days before it;
2. every day stands in such a year (`exists_yearStart`): eras of 400 years are cut into
   centuries, cycles of four years and years, and of all of these the last one may be longer;
3. the days before each of its months are a linear formula, from which the days of the month
   follow too (`toDays_ofYearDay`, `day_ofYearDay_mem`).

So the day of a count is a day that the calendar has, and is counted as it was
(`Date.toDays_ofDays`, `Date.isValid_ofDays`).
-/

namespace ActionTree

/-! ## Years from March on -/

/-- The days before the year that begins in March of a given one, counted from the year 0. -/
def yearStart (y : Int) : Int := 365 * y + y / 4 - y / 100 + y / 400

/-- The month, counted from March, that a day of a year is in. -/
def monthOfYearDay (i : Int) : Int := (5 * i + 2) / 153

/-- A day of the year that begins in March. -/
def Date.ofYearDay (y i : Int) : Date :=
  let m := monthOfYearDay i
  ⟨y + if m < 10 then 0 else 1, (if m < 10 then m + 3 else m - 9).toNat,
    (i - (153 * m + 2) / 5 + 1).toNat⟩

/-- A year that begins in March has such a day. -/
structure IsYearDay (y i : Int) : Prop where
  nonneg : 0 ≤ i
  le : i ≤ 365
  leap : i = 365 → isLeapYear (y + 1) = true

/-! ## Months -/

section Months

variable {y i : Int}

theorem monthOfYearDay_mem (h : IsYearDay y i) :
    0 ≤ monthOfYearDay i ∧ monthOfYearDay i ≤ 11 := by
  obtain ⟨hnonneg, hle, -⟩ := h
  rw [monthOfYearDay]
  omega

/-- The first ten months are those of the year that the count is in. -/
theorem ofYearDay_of_lt (hm : monthOfYearDay i < 10) :
    Date.ofYearDay y i = ⟨y, (monthOfYearDay i + 3).toNat,
      (i - (153 * monthOfYearDay i + 2) / 5 + 1).toNat⟩ := by
  simp only [Date.ofYearDay, if_pos hm, Int.add_zero]

/-- The last two months are the first ones of the next year. -/
theorem ofYearDay_of_ge (hm : 10 ≤ monthOfYearDay i) :
    Date.ofYearDay y i = ⟨y + 1, (monthOfYearDay i - 9).toNat,
      (i - (153 * monthOfYearDay i + 2) / 5 + 1).toNat⟩ := by
  simp only [Date.ofYearDay, if_neg (Int.not_lt.2 hm)]

theorem toDays_ofYearDay (h : IsYearDay y i) :
    (Date.ofYearDay y i).toDays = yearStart y + i - 719468 := by
  have hm := monthOfYearDay_mem h
  have hday : (153 * monthOfYearDay i + 2) / 5 ≤ i := by
    rw [monthOfYearDay]
    omega
  rcases Int.lt_or_le (monthOfYearDay i) 10 with hlt | hge
  · have hmonth : ¬ (monthOfYearDay i + 3).toNat ≤ 2 := by omega
    rw [ofYearDay_of_lt hlt, Date.toDays, yearStart]
    simp only [if_neg hmonth]
    omega
  · have hmonth : (monthOfYearDay i - 9).toNat ≤ 2 := by omega
    rw [ofYearDay_of_ge hge, Date.toDays, yearStart]
    simp only [if_pos hmonth]
    omega

theorem isLeapYear_iff (y : Int) :
    isLeapYear y = true ↔ y % 4 = 0 ∧ (y % 100 ≠ 0 ∨ y % 400 = 0) := by
  simp [isLeapYear]

/-- The day is one of its month: the formula gives the months their lengths, and the last day
of a year is there if the year has a leap day. -/
theorem day_ofYearDay_mem (h : IsYearDay y i) :
    1 ≤ (Date.ofYearDay y i).day ∧ (Date.ofYearDay y i).day ≤
      daysInMonth (Date.ofYearDay y i).year (Date.ofYearDay y i).month := by
  have hm := monthOfYearDay_mem h
  obtain ⟨hnonneg, hle, hleap⟩ := h
  have hdef : monthOfYearDay i = (5 * i + 2) / 153 := rfl
  rcases Int.lt_or_le (monthOfYearDay i) 10 with hlt | hge
  · rw [ofYearDay_of_lt hlt]
    simp only [daysInMonth, Bool.or_eq_true, decide_eq_true_eq]
    constructor
    · omega
    · -- February is none of these months
      split
      · omega
      · split <;> omega
  · rw [ofYearDay_of_ge hge]
    obtain hten | heleven : monthOfYearDay i = 10 ∨ monthOfYearDay i = 11 := by omega
    · rw [hten] at hdef ⊢
      have hjanuary : daysInMonth (y + 1) (10 - 9 : Int).toNat = 31 := rfl
      dsimp only
      rw [hjanuary]
      omega
    · rw [heleven] at hdef ⊢
      have hfebruary : daysInMonth (y + 1) (11 - 9 : Int).toNat =
        if isLeapYear (y + 1) then 29 else 28 := rfl
      dsimp only
      rw [hfebruary]
      split
      · omega
      · next hcommon =>
        have hlast : i ≠ 365 := fun hi => hcommon (hleap hi)
        omega

end Months

/-! ## Days of an era -/

/-- A day of an era: in a century, in a cycle of four years, in a year. -/
structure EraDay where
  century : Int
  cycle : Int
  year : Int
  day : Int

namespace EraDay

/-- The year in the era. -/
def yearInEra (d : EraDay) : Int := 100 * d.century + 4 * d.cycle + d.year

/-- The days of the era before it. -/
def count (d : EraDay) : Int := 36524 * d.century + 1461 * d.cycle + 365 * d.year + d.day

/-- All parts are in range.  Only the last year of a cycle has a last day of its own, and the
last cycle of a century only in the last century. -/
structure InRange (d : EraDay) : Prop where
  century : 0 ≤ d.century ∧ d.century ≤ 3
  cycle : 0 ≤ d.cycle ∧ d.cycle ≤ 24
  year : 0 ≤ d.year ∧ d.year ≤ 3
  day : 0 ≤ d.day ∧ d.day ≤ 365
  leap : d.day = 365 → d.year = 3 ∧ (d.cycle = 24 → d.century = 3)

theorem exists_count {e : Int} (hleast : 0 ≤ e) (hgreatest : e < 146097) :
    ∃ d : EraDay, d.InRange ∧ e = d.count := by
  let century := min (e / 36524) 3
  let inCentury := e - 36524 * century
  let year := min (inCentury % 1461 / 365) 3
  refine ⟨⟨century, inCentury / 1461, year, inCentury % 1461 - 365 * year⟩, ?_, ?_⟩
  · constructor <;> dsimp only [century, inCentury, year] <;> omega
  · simp only [count]
    omega

variable {d : EraDay}

/-- The formula for the year leaves out the last days of cycles, centuries and the era. -/
theorem yearInEra_eq (hd : d.InRange) :
    (d.count - d.count / 1460 + d.count / 36524 - d.count / 146096) / 365 = d.yearInEra := by
  obtain ⟨c, k, j, i⟩ := d
  obtain ⟨hc, hk, hj, hi, hleap⟩ := hd
  simp only [count, yearInEra] at *
  generalize hcount : 36524 * c + 1461 * k + 365 * j + i = e
  have hcycles : e / 1460 = 25 * c + k + (24 * c + k + 365 * j + i) / 1460 := by omega
  have hcenturies : e / 36524 = c + e / 146096 := by
    rcases Int.lt_or_le (1461 * k + 365 * j + i) 36524 with hrest | hrest
    · have hera : e / 146096 = 0 := by omega
      rw [hera]
      omega
    · -- this is the last day of the era
      obtain ⟨hk', hi'⟩ : k = 24 ∧ i = 365 := by omega
      obtain ⟨hj', hc'⟩ := hleap hi'
      rw [hc' hk', hk', hi', hj'] at hcount
      rw [hc' hk', ← hcount]
      rfl
  omega

/-- The days before a year of the era. -/
theorem count_eq (hd : d.InRange) :
    d.count = 365 * d.yearInEra + d.yearInEra / 4 - d.yearInEra / 100 + d.day := by
  obtain ⟨hc, hk, hj, -, -⟩ := hd
  simp only [count, yearInEra]
  omega

theorem isYearDay (hd : d.InRange) (era : Int) : IsYearDay (d.yearInEra + 400 * era) d.day := by
  obtain ⟨hc, hk, hj, hi, hleap⟩ := hd
  refine ⟨hi.1, hi.2, fun hday => ?_⟩
  obtain ⟨hj', hc'⟩ := hleap hday
  rw [isLeapYear_iff, yearInEra]
  omega

end EraDay

theorem yearStart_add_era (y era : Int) (hy : 0 ≤ y ∧ y < 400) :
    yearStart (y + 400 * era) = 365 * y + y / 4 - y / 100 + 146097 * era := by
  rw [yearStart]
  omega

/-- Every day stands in a year that begins in March. -/
theorem exists_yearStart (n : Int) :
    ∃ y i, IsYearDay y i ∧ n + 719468 = yearStart y + i ∧ Date.ofDays n = Date.ofYearDay y i := by
  obtain ⟨d, hd, hcount⟩ := EraDay.exists_count (e := (n + 719468) % 146097)
    (Int.emod_nonneg _ (by decide)) (Int.emod_lt_of_pos _ (by decide))
  have hyear := EraDay.yearInEra_eq hd
  have hdays := EraDay.count_eq hd
  have hrange : 0 ≤ d.yearInEra ∧ d.yearInEra < 400 := by
    obtain ⟨hc, hk, hj, -, -⟩ := hd
    rw [EraDay.yearInEra]
    omega
  refine ⟨_, _, EraDay.isYearDay hd ((n + 719468) / 146097), ?_, ?_⟩
  · rw [yearStart_add_era _ _ hrange]
    omega
  · have hday : d.count - (365 * d.yearInEra + d.yearInEra / 4 - d.yearInEra / 100) = d.day := by
      omega
    have hmonth := monthOfYearDay_mem (EraDay.isYearDay hd 0)
    simp only [Date.ofDays, hcount, hyear, hday, Date.ofYearDay, ← monthOfYearDay.eq_def]
    congr 1
    split <;> split <;> omega

/-! ## Counting and naming days -/

namespace Date

/-- The day that is so many days after the first of 1970 is counted as that many. -/
theorem toDays_ofDays (n : Int) : (ofDays n).toDays = n := by
  obtain ⟨y, i, hday, hcount, hdate⟩ := exists_yearStart n
  rw [hdate, toDays_ofYearDay hday]
  omega

theorem month_ofDays_mem (n : Int) : 1 ≤ (ofDays n).month ∧ (ofDays n).month ≤ 12 := by
  obtain ⟨y, i, hday, -, hdate⟩ := exists_yearStart n
  have hm := monthOfYearDay_mem hday
  rw [hdate, ofYearDay]
  dsimp only
  split <;> omega

theorem day_ofDays_mem (n : Int) :
    1 ≤ (ofDays n).day ∧ (ofDays n).day ≤ daysInMonth (ofDays n).year (ofDays n).month := by
  obtain ⟨y, i, hday, -, hdate⟩ := exists_yearStart n
  rw [hdate]
  exact day_ofYearDay_mem hday

theorem daysInMonth_le (y : Int) (m : Nat) : daysInMonth y m ≤ 31 := by
  simp only [daysInMonth]
  split
  · split <;> omega
  · split <;> omega

/-- The day that is so many days after the first of 1970 is one that the calendar has, as far
as its years reach. -/
theorem isValid_ofDays {n : Int} (hleast : -262143 ≤ (ofDays n).year)
    (hgreatest : (ofDays n).year ≤ 262142) : (ofDays n).isValid = true := by
  have hmonth := month_ofDays_mem n
  have hday := day_ofDays_mem n
  simp [isValid, hleast, hgreatest, hmonth, hday]

end Date

/-- There are moments on the days of the years that are written with four digits. -/
theorem Moment.ofSeconds?_of_year {n : Int}
    (hleast : 0 ≤ (Date.ofDays (n / secondsPerDay)).year)
    (hgreatest : (Date.ofDays (n / secondsPerDay)).year ≤ 9999) :
    Moment.ofSeconds? n = some ⟨n, false⟩ := by
  obtain ⟨y, i, hday, hcount, hdate⟩ := exists_yearStart (n / secondsPerDay)
  have hyear : -1 ≤ y ∧ y ≤ 9999 := by
    rw [hdate, Date.ofYearDay] at hleast hgreatest
    dsimp only at hleast hgreatest
    split at hleast <;> omega
  have hnonneg := hday.nonneg
  have hle := hday.le
  rw [yearStart] at hcount
  have hfirst : (Date.mk (-262143) 1 1).toDays ≤ n / secondsPerDay := by
    have : (Date.mk (-262143) 1 1).toDays = -96465292 := rfl
    omega
  have hlast : n / secondsPerDay ≤ (Date.mk 262142 12 31).toDays := by
    have : (Date.mk 262142 12 31).toDays = 95026236 := rfl
    omega
  rw [Moment.ofSeconds?]
  simp [hfirst, hlast]

end ActionTree
