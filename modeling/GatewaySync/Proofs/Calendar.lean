import Mathlib.Tactic.ByContra
import Mathlib.Tactic.IntervalCases
import Mathlib.Tactic.SplitIfs
import GatewaySync.Time.Reader
/-!
# Days and dates

A day number is that of the date it stands for. Years start in March, so a year of an era is found from the
day of the era by taking the leap days out; the day on which a year starts tells it from its neighbours.
-/
namespace GatewaySync.Calendar

def yearStart (year : Int) : Int := 365 * year + year / 4 - year / 100 + year / 400

/-- How far a day of an era is into it, if no year has a leap day. -/
def evenDay (day : Int) : Int := day - day / 1460 + day / 36524 - day / 146096

theorem evenDay_mono {day later : Int} (h : day ≤ later) : evenDay day ≤ evenDay later := by
  unfold evenDay
  omega

/-- Without leap days, each year starts no earlier than it should and the year before has ended by then. -/
theorem evenDay_yearStart (year : Int) (low : 0 ≤ year) (high : year < 400) :
    365 * year ≤ evenDay (yearStart year) ∧ evenDay (yearStart (year + 1) - 1) < 365 * (year + 1) := by
  have each : ∀ n : Nat, n < 400 → 365 * (n : Int) ≤ evenDay (yearStart n) ∧
      evenDay (yearStart (n + 1) - 1) < 365 * ((n : Int) + 1) := by decide +kernel
  obtain ⟨n, rfl⟩ := Int.eq_ofNat_of_zero_le low
  exact each n (by omega)

/-- A day of an era lies between the start of its year and that of the next one. -/
theorem yearOfEra_bounds {day year : Int} (low : 0 ≤ day) (high : day < 146097)
    (found : year = evenDay day / 365) :
    0 ≤ year ∧ year < 400 ∧ yearStart year ≤ day ∧ day < yearStart (year + 1) := by
  have first : evenDay 0 ≤ evenDay day := evenDay_mono low
  have last : evenDay day ≤ evenDay 146096 := evenDay_mono (by omega)
  have zero : evenDay 0 = 0 := rfl
  have full : evenDay 146096 = 145999 := by decide
  have nonneg : 0 ≤ year := by omega
  have bounded : year < 400 := by omega
  refine ⟨nonneg, bounded, ?_, ?_⟩
  · by_contra early
    by_cases start : year = 0
    · have none : yearStart 0 = 0 := rfl
      rw [start] at early
      omega
    · have before := (evenDay_yearStart (year - 1) (by omega) (by omega)).2
      have mono : evenDay day ≤ evenDay (yearStart (year - 1 + 1) - 1) := evenDay_mono (by
        rw [Int.sub_add_cancel]
        omega)
      omega
  · by_contra late
    by_cases final : year = 399
    · have era : yearStart (399 + 1) = 146097 := by decide
      rw [final] at late
      omega
    · have after := (evenDay_yearStart (year + 1) (by omega) (by omega)).1
      have mono : evenDay (yearStart (year + 1)) ≤ evenDay day := evenDay_mono (by omega)
      omega

theorem yearStart_succ (year : Int) :
    yearStart (year + 1) = yearStart year + 365 + if isLeap (year + 1) then 1 else 0 := by
  have hundreds (n : Int) : n / 100 = n / 4 / 25 := by omega
  have eras (n : Int) : n / 400 = n / 4 / 25 / 4 := by omega
  unfold yearStart isLeap
  rw [hundreds, hundreds year, eras, eras year]
  simp only [Bool.and_eq_true, Bool.or_eq_true, decide_eq_true_eq, bne_iff_ne, ne_eq]
  split_ifs with leap <;> omega

/-- A day number taken apart: its era, the year of the era, the day of that year and the month counted from
March. -/
structure Breakdown (days era year day month : Int) : Prop where
  sum : days + 719468 = era * 146097 + (365 * year + year / 4 - year / 100) + day
  year_nonneg : 0 ≤ year
  year_lt : year < 400
  day_nonneg : 0 ≤ day
  day_le : day ≤ 365
  leap : day = 365 → isLeap (year + 1)
  month_eq : month = (5 * day + 2) / 153

/-- The month that a day of a year lies in begins on that day or before, and the next one after it. -/
theorem Breakdown.bounds {days era year day month : Int} (h : Breakdown days era year day month) :
    0 ≤ month ∧ month < 12 ∧ (153 * month + 2) / 5 ≤ day ∧ day < (153 * (month + 1) + 2) / 5 := by
  have low := h.day_nonneg
  have high := h.day_le
  have found := h.month_eq
  omega

def joined (era year day month : Int) : Date :=
  ⟨if month < 10 then year + era * 400 else year + era * 400 + 1,
    (if month < 10 then month + 3 else month - 9).toNat, (day - (153 * month + 2) / 5 + 1).toNat⟩

theorem ofDayNumber_breakdown (days : Int) :
    ∃ era year day month, Breakdown days era year day month ∧
      ofDayNumber days = joined era year day month := by
  obtain ⟨era, dayOfEra, sum, low, high, era_eq, day_eq⟩ : ∃ era dayOfEra : Int,
      days + 719468 = era * 146097 + dayOfEra ∧ 0 ≤ dayOfEra ∧ dayOfEra < 146097 ∧
        (days + 719468).fdiv 146097 = era ∧ days + 719468 - era * 146097 = dayOfEra := by
    have floor : (days + 719468).fdiv 146097 = (days + 719468) / 146097 :=
      Int.fdiv_eq_ediv_of_nonneg _ (by decide)
    exact ⟨_, _, by omega, by omega, by omega, floor, rfl⟩
  obtain ⟨year, found⟩ : ∃ year, year = evenDay dayOfEra / 365 := ⟨_, rfl⟩
  obtain ⟨year_low, year_high, early, late⟩ := yearOfEra_bounds low high found
  have start : yearStart year = 365 * year + year / 4 - year / 100 := by
    unfold yearStart
    omega
  rw [yearStart_succ] at late
  have h : Breakdown days era year (dayOfEra - (365 * year + year / 4 - year / 100)) _ :=
    { sum := by omega
      year_nonneg := year_low
      year_lt := year_high
      day_nonneg := by omega
      day_le := by split_ifs at late <;> omega
      leap := by
        intro full
        by_contra common
        rw [if_neg common] at late
        omega
      month_eq := rfl }
  refine ⟨_, _, _, _, h, ?_⟩
  obtain ⟨first, last, -⟩ := h.bounds
  rw [evenDay] at found
  unfold ofDayNumber joined
  dsimp only
  rw [era_eq, day_eq, ← found]
  generalize (5 * (dayOfEra - (365 * year + year / 4 - year / 100)) + 2) / 153 = month at first last ⊢
  clear found
  by_cases spring : month < 10
  · rw [if_pos spring, if_pos spring, if_neg (by omega)]
  · rw [if_neg spring, if_neg spring, if_pos (by omega)]

theorem dayNumber_joined {days era year day month : Int} (h : Breakdown days era year day month) :
    dayNumber (joined era year day month) = days := by
  obtain ⟨first, last, early, late⟩ := h.bounds
  have sum := h.sum
  have year_low := h.year_nonneg
  have year_high := h.year_lt
  have shifted : (if (joined era year day month).month ≤ 2 then (joined era year day month).year - 1
      else (joined era year day month).year) = year + era * 400 := by
    unfold joined
    by_cases spring : month < 10
    · simp only [if_pos spring]
      rw [if_neg (by omega)]
    · simp only [if_neg spring]
      rw [if_pos (by omega)]
      omega
  have fromMarch : (if 2 < (joined era year day month).month then ((joined era year day month).month : Int) - 3
      else (joined era year day month).month + 9) = month := by
    unfold joined
    by_cases spring : month < 10
    · simp only [if_pos spring]
      rw [if_pos (by omega)]
      omega
    · simp only [if_neg spring]
      rw [if_neg (by omega)]
      omega
  have era_eq : (year + era * 400).fdiv 400 = era := by
    rw [Int.fdiv_eq_ediv_of_nonneg _ (by decide)]
    omega
  have ofEra : year + era * 400 - era * 400 = year := by omega
  have ofMonth : ((joined era year day month).day : Int) = day - (153 * month + 2) / 5 + 1 := by
    unfold joined
    dsimp only
    omega
  unfold dayNumber
  dsimp only
  rw [shifted, fromMarch, era_eq, ofEra, ofMonth]
  omega

theorem dayNumber_ofDayNumber (days : Int) : dayNumber (ofDayNumber days) = days := by
  obtain ⟨era, year, day, month, h, date⟩ := ofDayNumber_breakdown days
  rw [date]
  exact dayNumber_joined h

theorem ofDayNumber_valid (days : Int) :
    1 ≤ (ofDayNumber days).month ∧ (ofDayNumber days).month ≤ 12 ∧ 1 ≤ (ofDayNumber days).day ∧
      (ofDayNumber days).day ≤ daysInMonth (ofDayNumber days).year (ofDayNumber days).month := by
  obtain ⟨era, year, day, month, h, date⟩ := ofDayNumber_breakdown days
  obtain ⟨first, last, early, late⟩ := h.bounds
  have leap := h.leap
  have full := h.day_le
  have same : isLeap (year + era * 400 + 1) = isLeap (year + 1) := by
    have four : (year + era * 400 + 1) % 4 = (year + 1) % 4 := by omega
    have hundred : (year + era * 400 + 1) % 100 = (year + 1) % 100 := by omega
    have era : (year + era * 400 + 1) % 400 = (year + 1) % 400 := by omega
    simp only [isLeap, four, hundred, era]
  rw [date, joined]
  clear date h
  interval_cases month <;> simp [daysInMonth] <;> try omega
  rw [same]
  split_ifs with long
  · omega
  · have short : day ≠ 365 := fun all => long (leap all)
    omega

theorem daysInMonth_le (year : Int) (month : Nat) : daysInMonth year month ≤ 31 := by
  unfold daysInMonth
  split_ifs <;> omega

/-- The years of the first and the last day that instants are kept in bound those of the days between. -/
theorem ofDayNumber_year {days : Int} (low : dayNumber ⟨-Instant.lastYear - 1, 1, 1⟩ ≤ days)
    (high : days ≤ dayNumber ⟨Instant.lastYear, 12, 31⟩) :
    -Instant.lastYear - 1 ≤ (ofDayNumber days).year ∧ (ofDayNumber days).year ≤ Instant.lastYear := by
  obtain ⟨era, year, day, month, h, date⟩ := ofDayNumber_breakdown days
  have first : dayNumber ⟨-Instant.lastYear - 1, 1, 1⟩ = -96465292 := by decide
  have last : dayNumber ⟨Instant.lastYear, 12, 31⟩ = 95026236 := by decide
  obtain ⟨begins, ends, early, late⟩ := h.bounds
  have sum := h.sum
  have year_low := h.year_nonneg
  have year_high := h.year_lt
  rw [first] at low
  rw [last] at high
  have era_low : -656 ≤ era := by omega
  have era_high : era ≤ 655 := by omega
  rw [date, joined, Instant.lastYear]
  dsimp only
  constructor
  · by_cases within : era = -656
    · subst within
      split_ifs <;> omega
    · split_ifs <;> omega
  · by_cases within : era = 655
    · subst within
      split_ifs <;> omega
    · split_ifs <;> omega

end GatewaySync.Calendar
