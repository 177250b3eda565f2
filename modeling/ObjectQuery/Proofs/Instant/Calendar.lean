import ObjectQuery.Instant

/-!
# Days and dates

The date of a day is a date of the calendar, and its days since the epoch are those of the day. Both
follow from what holds within an era of four hundred years, whose days both directions count alike.
So the years of four digits are a span of days, and a day beside it is of the year beside them.
-/

namespace ObjectQuery.Instant.Date

/-! ## Within an era -/

/-- The year of a day within an era. -/
def eraYear (dayOfEra : Nat) : Nat :=
  (dayOfEra - dayOfEra / 1460 + dayOfEra / 36524 - dayOfEra / 146096) / 365

/-- The days of an era before a year of it. -/
def eraDays (year : Nat) : Nat := 365 * year + year / 4 - year / 100

/-- Within an era later days are in no earlier year. -/
theorem eraYear_mono {d e : Nat} (h : d ≤ e) (he : e < 146097) : eraYear d ≤ eraYear e := by
  have hstep : ∀ k, k < 146096 → eraYear k ≤ eraYear (k + 1) := by
    intro k hk
    unfold eraYear
    refine Nat.div_le_div_right ?_
    -- A day more drops at most one leap day, but for the last of the era, which also adds one.
    have h1 : (k + 1) / 1460 ≤ k / 1460 + 1 := by omega
    by_cases hlast : k + 1 = 146096
    · obtain rfl : k = 146095 := by omega
      decide
    · have h2 : (k + 1) / 146096 = k / 146096 := by omega
      have h3 : k / 36524 ≤ (k + 1) / 36524 := by omega
      omega
  induction h with
  | refl => exact Nat.le_refl _
  | step h ih => exact Nat.le_trans (ih (by omega)) (hstep _ (by omega))

/-- The first and the last day of every year have that year. -/
theorem eraYear_ends : ∀ y < 400, eraYear (eraDays y) = y ∧ eraYear (eraDays (y + 1) - 1) = y := by
  decide +kernel

/-- An era has four hundred years. -/
theorem eraYear_lt {d : Nat} (h : d < 146097) : eraYear d < 400 := by
  unfold eraYear
  omega

/-- A year of the era begins on or before its days. -/
theorem eraDays_eraYear_le {d : Nat} (h : d < 146097) : eraDays (eraYear d) ≤ d := by
  refine Nat.le_of_not_lt fun hlt => ?_
  have hy := eraYear_lt h
  cases hd : eraYear d with
  | zero => simp [hd, eraDays] at hlt
  | succ y =>
    rw [hd] at hlt hy
    have hend := (eraYear_ends y (by omega)).2
    have hbound : eraDays (y + 1) - 1 < 146097 := by
      unfold eraDays
      omega
    have hmono := eraYear_mono (show d ≤ eraDays (y + 1) - 1 by omega) hbound
    omega

/-- The last era of the count has a day more than its years would have alone. -/
theorem lt_eraDays_succ {d : Nat} (h : d < 146097) :
    d < eraDays (eraYear d + 1) ∨ eraYear d = 399 ∧ d = eraDays 400 := by
  have hy := eraYear_lt h
  by_cases hlast : eraYear d = 399
  · rw [hlast]
    unfold eraDays
    omega
  · refine .inl (Nat.lt_of_not_le fun hle => ?_)
    have hstart := (eraYear_ends (eraYear d + 1) (by omega)).1
    have hmono := eraYear_mono hle h
    omega

/-- The day of the year, counted from March. -/
def yearDay (dayOfEra : Nat) : Nat := dayOfEra - eraDays (eraYear dayOfEra)

/-- A year has at most 366 days. -/
theorem yearDay_lt {d : Nat} (h : d < 146097) : yearDay d < 366 := by
  have hle := eraDays_eraYear_le h
  have hnext := lt_eraDays_succ h
  unfold yearDay eraDays at *
  omega

/-- Only a year that ends in a leap February has a day more than three hundred and sixty-five. -/
theorem leap_of_yearDay {d : Nat} (h : d < 146097) (hday : yearDay d = 365) :
    (eraYear d + 1) % 4 = 0 ∧ ((eraYear d + 1) % 100 ≠ 0 ∨ (eraYear d + 1) % 400 = 0) := by
  have hy := eraYear_lt h
  have hnext := lt_eraDays_succ h
  have hfour : (eraYear d + 1) / 4 = eraYear d / 4 ∨ (eraYear d + 1) % 4 = 0 := by omega
  have hhundred : (eraYear d + 1) % 100 ≠ 0 ∨ (eraYear d + 1) / 100 = eraYear d / 100 + 1 := by
    omega
  unfold yearDay eraDays at *
  omega

/-- The month of a day of the year, both counted from March. -/
def marchMonth (yearDay : Nat) : Nat := (5 * yearDay + 2) / 153

/-- The days of a year before a month, counted from March. -/
def monthDays (month : Nat) : Nat := (153 * month + 2) / 5

/-- A year that starts in March has twelve months. -/
theorem marchMonth_lt {d : Nat} (h : d < 366) : marchMonth d < 12 := by
  unfold marchMonth
  omega

/-- A month begins on or before its days. -/
theorem monthDays_marchMonth_le (d : Nat) : monthDays (marchMonth d) ≤ d := by
  unfold monthDays marchMonth
  omega

/-- The calendar month of a month counted from March. -/
def calendarMonth (marchMonth : Nat) : Nat :=
  if marchMonth < 10 then marchMonth + 3 else marchMonth - 9

/-! ## Dates of days -/

/-- The date of a day, with the parts of its computation named. -/
theorem ofDays_eq (n : Int) :
    let dayOfEra := ((n + 719468) % 146097).toNat
    let day := yearDay dayOfEra
    let month := calendarMonth (marchMonth day)
    ofDays n = {
      year := (n + 719468) / 146097 * 400 + eraYear dayOfEra + (if month ≤ 2 then 1 else 0)
      month := month
      day := day - monthDays (marchMonth day) + 1 } := by
  have hdiv : Int.fdiv (n + 719468) 146097 = (n + 719468) / 146097 :=
    Int.fdiv_eq_ediv_of_nonneg _ (by decide)
  have hmod : Int.fmod (n + 719468) 146097 = (n + 719468) % 146097 :=
    Int.fmod_eq_emod_of_nonneg _ (by decide)
  simp only [ofDays, hdiv, hmod]
  rfl

/-- The days of the date of a day are that day. -/
theorem toDays_ofDays (n : Int) : (ofDays n).toDays = n := by
  have hera : ((n + 719468) % 146097).toNat < 146097 := by omega
  have hsplit : n + 719468 = (n + 719468) / 146097 * 146097 + ((n + 719468) % 146097).toNat := by
    omega
  rw [ofDays_eq]
  generalize (n + 719468) / 146097 = era at *
  generalize ((n + 719468) % 146097).toNat = d at *
  have hyear := eraYear_lt hera
  have hstart := eraDays_eraYear_le hera
  have hday : eraDays (eraYear d) + yearDay d = d := by
    unfold yearDay
    omega
  have hmonth := marchMonth_lt (yearDay_lt hera)
  have hmonthStart := monthDays_marchMonth_le (yearDay d)
  have hback : (calendarMonth (marchMonth (yearDay d)) + 9) % 12 = marchMonth (yearDay d) := by
    unfold calendarMonth
    split <;> omega
  have hmarch : ∀ (y : Int) (m : Nat),
      (if m ≤ 2 then y + (if m ≤ 2 then 1 else 0) - 1 else y + (if m ≤ 2 then 1 else 0)) = y := by
    intro y m
    split <;> omega
  have hdiv : Int.fdiv (era * 400 + eraYear d) 400 = era := by
    rw [Int.fdiv_eq_ediv_of_nonneg _ (by decide)]
    omega
  have hmod : (Int.fmod (era * 400 + eraYear d) 400).toNat = eraYear d := by
    rw [Int.fmod_eq_emod_of_nonneg _ (by decide)]
    omega
  simp only [toDays, hmarch, hback, hdiv, hmod]
  unfold eraDays monthDays at *
  omega

/-- The days of a month, those of February up to the given one. -/
def monthLength (february month : Nat) : Nat :=
  if month = 2 then february
  else if month = 4 ∨ month = 6 ∨ month = 9 ∨ month = 11 then 30
  else 31

/-- No day lies behind the end of its month. -/
theorem day_le_monthLength : ∀ d < 366, d - monthDays (marchMonth d) + 1 ≤
    monthLength (if d = 365 then 29 else 28) (calendarMonth (marchMonth d)) := by
  decide +kernel

/-- The date of any day is a valid one. -/
theorem ofDays_valid (n : Int) : (ofDays n).valid = true := by
  have hera : ((n + 719468) % 146097).toNat < 146097 := by omega
  rw [ofDays_eq]
  generalize (n + 719468) / 146097 = era at *
  generalize ((n + 719468) % 146097).toNat = d at *
  have hday := yearDay_lt hera
  have hmonth := marchMonth_lt hday
  have hlength := day_le_monthLength _ hday
  simp only [valid, Bool.and_eq_true, decide_eq_true_eq]
  refine ⟨⟨⟨?_, ?_⟩, by omega⟩, Nat.le_trans hlength ?_⟩
  · unfold calendarMonth
    split <;> omega
  · unfold calendarMonth
    split <;> omega
  · unfold monthLength daysInMonth
    split
    · next hfebruary =>
      simp only [hfebruary, Nat.le_refl, ↓reduceIte]
      by_cases hlast : yearDay d = 365
      · -- The day after three hundred and sixty-five others ends a leap year.
        have hfour := leap_of_yearDay hera hlast
        have hleap : isLeapYear (era * 400 + eraYear d + 1) = true := by
          simp only [isLeapYear, Bool.and_eq_true, Bool.or_eq_true, beq_iff_eq, bne_iff_ne]
          omega
        simp only [hlast, hleap, ↓reduceIte, Nat.le_refl]
      · rw [if_neg hlast]
        split <;> omega
    · exact Nat.le_refl _

/-! ## Years of four digits -/

/-- No month is longer than 31 days. -/
theorem daysInMonth_le (year : Int) (month : Nat) : daysInMonth year month ≤ 31 := by
  unfold daysInMonth
  split
  · split <;> decide
  · split <;> decide

/-- The days of the years of four digits. -/
theorem toDays_bounds {d : Date} (h : d.valid = true) (hyear : 0 ≤ d.year ∧ d.year ≤ 9999) :
    -719528 ≤ d.toDays ∧ d.toDays ≤ 2932896 := by
  have hlength := daysInMonth_le d.year d.month
  simp only [valid, Bool.and_eq_true, decide_eq_true_eq] at h
  have hdiv : ∀ y : Int, Int.fdiv y 400 = y / 400 := fun _ =>
    Int.fdiv_eq_ediv_of_nonneg _ (by decide)
  have hmod : ∀ y : Int, Int.fmod y 400 = y % 400 := fun _ =>
    Int.fmod_eq_emod_of_nonneg _ (by decide)
  simp only [toDays, hdiv, hmod]
  split
  next hmonth =>
    -- The first two months end the year before, and those of the first year an era.
    have hday : 306 ≤ (153 * ((d.month + 9) % 12) + 2) / 5 ∧
        (153 * ((d.month + 9) % 12) + 2) / 5 ≤ 337 := by omega
    by_cases hfirst : d.year = 0
    · rw [hfirst]
      omega
    · omega
  next hmonth =>
    have hday : (153 * ((d.month + 9) % 12) + 2) / 5 ≤ 275 := by omega
    have hera : 0 ≤ d.year / 400 ∧ d.year / 400 ≤ 24 := by omega
    omega

/-- A day more at either end is of the year beside them. -/
theorem year_ofDays_bounds {n : Int} (hlow : -719529 ≤ n) (hhigh : n ≤ 2932897) :
    -1 ≤ (ofDays n).year ∧ (ofDays n).year ≤ 10000 := by
  rw [ofDays_eq]
  dsimp only
  have hera : ((n + 719468) % 146097).toNat < 146097 := by omega
  have hyear := eraYear_lt hera
  have hlast : n + 719468 < 0 → 399 ≤ eraYear ((n + 719468) % 146097).toNat := by
    intro hneg
    have hmono := eraYear_mono (show 146036 ≤ ((n + 719468) % 146097).toNat by omega) hera
    have hstart : eraYear 146036 = 399 := by decide
    omega
  split <;> omega

end ObjectQuery.Instant.Date
