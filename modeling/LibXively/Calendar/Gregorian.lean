import Mathlib.Algebra.Order.Ring.Int
import Mathlib.Tactic.Common
import Mathlib.Tactic.IntervalCases
import Mathlib.Tactic.Lemma

/-!
The proleptic Gregorian calendar, counted in days from 1 January 1970.
-/

namespace LibXively.Gregorian

def isLeap (y : ℤ) : Bool := decide (y % 4 = 0) && (decide (y % 100 ≠ 0) || decide (y % 400 = 0))

def yearLength (y : ℤ) : ℕ := if isLeap y then 366 else 365

/-- The days from 1 January 1970 to 1 January of a year. -/
def daysToYear (y : ℤ) : ℤ :=
  365 * (y - 1970) + (y - 1969) / 4 - (y - 1901) / 100 + (y - 1601) / 400

def monthLengths (leap : Bool) : List ℕ :=
  [31, if leap then 29 else 28, 31, 30, 31, 30, 31, 31, 30, 31, 30, 31]

/-- The length of a month, where January is month 0. -/
def monthLength (leap : Bool) (m : ℕ) : ℕ := (monthLengths leap).getD m 0

/-- The days of a year in front of a month. -/
def monthStart (leap : Bool) (m : ℕ) : ℕ := ((monthLengths leap).take m).sum

/-- The number of a day, where January is month 0 and the first of a month is day 0. -/
def dayNumber (y : ℤ) (m d : ℕ) : ℤ := daysToYear y + monthStart (isLeap y) m + d

/-! ### Years -/

lemma daysToYear_epoch : daysToYear 1970 = 0 := rfl

lemma isLeap_iff {y : ℤ} : isLeap y = true ↔ y % 4 = 0 ∧ (y % 100 ≠ 0 ∨ y % 400 = 0) := by
  simp [isLeap]

lemma daysToYear_succ (y : ℤ) : daysToYear (y + 1) = daysToYear y + yearLength y := by
  unfold daysToYear yearLength
  split
  · next h => rw [isLeap_iff] at h; push_cast; omega
  · next h => rw [isLeap_iff] at h; push_cast; omega

lemma yearLength_pos (y : ℤ) : 365 ≤ yearLength y ∧ yearLength y ≤ 366 := by
  unfold yearLength; split <;> omega

lemma daysToYear_mono {y z : ℤ} (h : y ≤ z) : daysToYear y ≤ daysToYear z := by
  unfold daysToYear; omega

lemma daysToYear_lt {y z : ℤ} (h : y < z) : daysToYear y + yearLength y ≤ daysToYear z := by
  rw [← daysToYear_succ]
  exact daysToYear_mono (by omega)

/-- A day lies in one year only. -/
lemma year_unique {y z : ℤ} {i j : ℕ} (hi : i < yearLength y) (hj : j < yearLength z)
    (h : daysToYear y + i = daysToYear z + j) : y = z ∧ i = j := by
  rcases lt_trichotomy y z with hlt | rfl | hlt
  · have := daysToYear_lt hlt; omega
  · exact ⟨rfl, by omega⟩
  · have := daysToYear_lt hlt; omega

/-! ### Months -/

lemma monthLength_pos (leap : Bool) {m : ℕ} (h : m < 12) :
    28 ≤ monthLength leap m ∧ monthLength leap m ≤ 31 := by
  interval_cases m <;> cases leap <;> decide

lemma monthStart_succ (leap : Bool) {m : ℕ} (h : m < 12) :
    monthStart leap (m + 1) = monthStart leap m + monthLength leap m := by
  interval_cases m <;> cases leap <;> rfl

lemma monthStart_year (y : ℤ) : monthStart (isLeap y) 12 = yearLength y := by
  unfold yearLength; cases isLeap y <;> rfl

lemma monthStart_mono (leap : Bool) {m k : ℕ} (hk : k ≤ 12) (h : m ≤ k) :
    monthStart leap m ≤ monthStart leap k := by
  induction k with
  | zero => rw [Nat.le_zero.mp h]
  | succ k ih =>
    rcases Nat.lt_or_eq_of_le h with hlt | rfl
    · rw [monthStart_succ leap (by omega)]
      have := ih (by omega) (by omega)
      omega
    · exact le_rfl

/-- A day of a year lies in one month only. -/
lemma month_unique {leap : Bool} {m k i j : ℕ} (hm : m < 12) (hk : k < 12)
    (hi : i < monthLength leap m) (hj : j < monthLength leap k)
    (h : monthStart leap m + i = monthStart leap k + j) : m = k ∧ i = j := by
  rcases lt_trichotomy m k with hlt | rfl | hlt
  · have h1 := monthStart_mono leap (m := m + 1) hk.le hlt
    rw [monthStart_succ leap hm] at h1
    omega
  · exact ⟨rfl, by omega⟩
  · have h1 := monthStart_mono leap (m := k + 1) hm.le hlt
    rw [monthStart_succ leap hk] at h1
    omega

lemma dayOfYear_lt {y : ℤ} {m d : ℕ} (hm : m < 12) (hd : d < monthLength (isLeap y) m) :
    monthStart (isLeap y) m + d < yearLength y := by
  have h1 := monthStart_mono (isLeap y) (m := m + 1) le_rfl hm
  rw [monthStart_succ _ hm, monthStart_year] at h1
  omega

/-! ### Moments -/

/-- A second of a date. -/
@[ext] structure Moment where
  year : ℤ
  month : ℕ
  day : ℕ
  second : ℕ
  month_lt : month < 12
  day_lt : day < monthLength (isLeap year) month
  second_lt : second < 86400

namespace Moment

/-- The number of the day of a moment. -/
def dayCount (x : Moment) : ℤ := dayNumber x.year x.month x.day

/-- The seconds from 1 January 1970. -/
def seconds (x : Moment) : ℤ := x.dayCount * 86400 + x.second

lemma dayCount_bounds (x : Moment) :
    daysToYear x.year ≤ x.dayCount ∧ x.dayCount < daysToYear (x.year + 1) := by
  have hday := dayOfYear_lt x.month_lt x.day_lt
  have hyear := daysToYear_succ x.year
  simp only [dayCount, dayNumber]
  omega

lemma seconds_div (x : Moment) : x.seconds / 86400 = x.dayCount := by
  have hsecond := x.second_lt
  simp only [seconds]
  omega

/-- The seconds tell the moment. -/
lemma seconds_injective {x y : Moment} (h : x.seconds = y.seconds) : x = y := by
  have hday : x.dayCount = y.dayCount := by rw [← seconds_div, ← seconds_div, h]
  have hsecond : x.second = y.second := by
    simp only [seconds, hday] at h
    omega
  have hx := dayOfYear_lt x.month_lt x.day_lt
  have hy := dayOfYear_lt y.month_lt y.day_lt
  simp only [dayCount, dayNumber] at hday
  obtain ⟨hyear, hstart⟩ := year_unique hx hy (by push_cast; omega)
  have hday_lt := x.day_lt
  rw [hyear] at hstart hday_lt
  obtain ⟨hmonth, hd⟩ := month_unique x.month_lt y.month_lt hday_lt y.day_lt hstart
  exact Moment.ext hyear hmonth hd hsecond

/-- The moment is in front of another, field by field. -/
def Before (x y : Moment) : Prop :=
  x.year < y.year ∨ x.year = y.year ∧ (x.month < y.month ∨ x.month = y.month ∧
    (x.day < y.day ∨ x.day = y.day ∧ x.second < y.second))

lemma before_total (x y : Moment) : x.Before y ∨ x = y ∨ y.Before x := by
  unfold Before
  by_cases hyear : x.year = y.year
  · by_cases hrest : x.month = y.month ∧ x.day = y.day ∧ x.second = y.second
    · exact .inr (.inl (Moment.ext hyear hrest.1 hrest.2.1 hrest.2.2))
    · omega
  · omega

lemma Before.seconds_lt {x y : Moment} (h : x.Before y) : x.seconds < y.seconds := by
  have hsecond := x.second_lt
  have hlt : x.dayCount < y.dayCount ∨ x.dayCount = y.dayCount ∧ x.second < y.second := by
    rcases h with hyear | ⟨hyear, hmonth | ⟨hmonth, hday⟩⟩
    · have hx := x.dayCount_bounds.2
      have hmono := daysToYear_mono (Int.add_one_le_iff.mpr hyear)
      have hy := y.dayCount_bounds.1
      omega
    · have hday := x.day_lt
      have hmono := monthStart_mono (isLeap y.year) y.month_lt.le hmonth
      rw [hyear] at hday
      rw [Nat.succ_eq_add_one, monthStart_succ _ x.month_lt] at hmono
      simp only [dayCount, dayNumber, hyear]
      omega
    · simp only [dayCount, dayNumber, hyear, hmonth]
      omega
  simp only [seconds]
  omega

/-- Moments are in the order of their seconds. -/
lemma seconds_lt_iff {x y : Moment} : x.seconds < y.seconds ↔ x.Before y := by
  refine ⟨fun h => ?_, Before.seconds_lt⟩
  rcases before_total x y with hbefore | rfl | hafter
  · exact hbefore
  · exact absurd h (lt_irrefl _)
  · exact absurd h (not_lt.mpr hafter.seconds_lt.le)

lemma seconds_nonneg_iff (x : Moment) : 0 ≤ x.seconds ↔ 1970 ≤ x.year := by
  have hbounds := x.dayCount_bounds
  have hsecond := x.second_lt
  have hepoch : daysToYear 1970 = 0 := daysToYear_epoch
  simp only [seconds]
  constructor
  · intro h
    by_contra hlt
    have hmono := daysToYear_mono (y := x.year + 1) (z := 1970) (by omega)
    omega
  · intro h
    have hmono := daysToYear_mono h
    omega

end Moment

end LibXively.Gregorian
