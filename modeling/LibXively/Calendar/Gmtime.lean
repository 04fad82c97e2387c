import LibXively.Calendar.Gregorian
import LibXively.Model.XiTime

/-!
`xi_gmtime` finds the Gregorian date of an instant.

It has a result for every argument: the remainder of the year loop is shorter than the year it
stops in, so the month loop stops inside the table.
-/

namespace LibXively.Gmtime

open LibXively.Decimal LibXively.Gregorian LibXively.XiTime

lemma leapyear_eq (y : ℤ) : leapyear y = isLeap y := by
  have h4 : y.tmod 4 = 0 ↔ y % 4 = 0 := by
    rw [← Int.dvd_iff_tmod_eq_zero, Int.dvd_iff_emod_eq_zero]
  have h100 : y.tmod 100 = 0 ↔ y % 100 = 0 := by
    rw [← Int.dvd_iff_tmod_eq_zero, Int.dvd_iff_emod_eq_zero]
  have h400 : y.tmod 400 = 0 ↔ y % 400 = 0 := by
    rw [← Int.dvd_iff_tmod_eq_zero, Int.dvd_iff_emod_eq_zero]
  simp [leapyear, isLeap, h4, h100, h400]

lemma yearsize_eq (y : ℤ) : yearsize y = yearLength y := by
  simp [yearsize, yearLength, leapyear_eq]

lemma ytabAt_natCast (leap : Bool) {m : ℕ} (h : m < 12) :
    ytabAt leap m = some (monthLength leap m) := by
  have hlen : m < (ytab leap).length := by simpa [ytab] using h
  rw [ytabAt, if_pos (by omega), Int.toNat_natCast, List.getElem?_eq_getElem hlen, monthLength,
    List.getD_eq_getElem?_getD, ← show ytab leap = monthLengths leap from rfl,
    List.getElem?_eq_getElem hlen]
  rfl

/-! ### The year loop -/

/-- The loop stops in a year that is longer than what is left. -/
lemma yearLoop_lt (k dayno : ℕ) (year : ℤ) (h : dayno ≤ k) :
    (yearLoop k dayno year).1 < yearLength (yearLoop k dayno year).2 := by
  induction k generalizing dayno year with
  | zero =>
    have := yearLength_pos year
    simp only [yearLoop]; omega
  | succ k ih =>
    have hpos := yearLength_pos year
    simp only [yearLoop, yearsize_eq]
    split
    · exact ih _ _ (by omega)
    · simpa using (by omega : dayno < yearLength year)

/-- The year the loop stops in is an `int`. -/
lemma yearLoop_int (k dayno : ℕ) {year : ℤ} (h : year < 2 ^ 31) :
    (yearLoop k dayno year).2 < 2 ^ 31 := by
  induction k generalizing dayno year with
  | zero => exact h
  | succ k ih =>
    rw [yearLoop]
    split
    · exact ih _ (toInt32_bounds (year + 1)).2
    · exact h

/-- As long as the year stays an `int`, the loop keeps the day it looks for. -/
lemma yearLoop_day (k dayno : ℕ) {year : ℤ} (h1 : -2 ^ 31 ≤ year)
    (h2 : daysToYear year + dayno < daysToYear (2 ^ 31)) :
    daysToYear (yearLoop k dayno year).2 + (yearLoop k dayno year).1 = daysToYear year + dayno ∧
      year ≤ (yearLoop k dayno year).2 := by
  induction k generalizing dayno year with
  | zero => simp [yearLoop]
  | succ k ih =>
    simp only [yearLoop, yearsize_eq]
    split
    · next hle =>
      have hsucc := daysToYear_succ year
      have hlt : year + 1 < 2 ^ 31 := by
        by_contra hge
        have := daysToYear_mono (y := 2 ^ 31) (z := year + 1) (by omega)
        omega
      rw [toInt32_eq (by omega) hlt]
      have := @ih (dayno - yearLength year) (year + 1) (by omega) (by omega)
      omega
    · simp

/-! ### The month loop -/

/-- From month `m` on, with `d` days left of the year, the loop stops in the month of the day. -/
lemma monLoop_spec {leap : Bool} {k m d : ℕ} (hm : m < 12) (hk : 12 - m ≤ k)
    (hd : monthStart leap m + d < monthStart leap 12) :
    ∃ m' d' : ℕ, monLoop leap k d m = some (d', (m' : ℤ)) ∧ m' < 12 ∧ d' < monthLength leap m' ∧
      monthStart leap m' + d' = monthStart leap m + d := by
  induction k generalizing m d with
  | zero => omega
  | succ k ih =>
    simp only [monLoop, ytabAt_natCast leap hm]
    have hsucc := monthStart_succ leap hm
    split
    · next hle =>
      have hm' : m + 1 < 12 := by
        by_contra hge
        obtain rfl : m = 11 := by omega
        norm_num at hsucc
        omega
      obtain ⟨m', d', h1, h2, h3, h4⟩ :=
        ih (m := m + 1) (d := d - monthLength leap m) hm' (by omega) (by omega)
      exact ⟨m', d', by exact_mod_cast h1, h2, h3, by omega⟩
    · exact ⟨m, d, rfl, hm, by omega, rfl⟩

/-! ### The function -/

/-- What the two loops make of a day number: the day of the year, the year, the day of the month
and the month. -/
lemma xiGmtime_spec (w : ℕ) (timer : ℤ) :
    ∃ (year : ℤ) (m d : ℕ), m < 12 ∧ d < monthLength (isLeap year) m ∧
      (monthStart (isLeap year) m + d, year) =
        yearLoop (ulong w timer / secsDay) (ulong w timer / secsDay) epochYr ∧
      xiGmtime w timer = some {
        tmSec := (ulong w timer % secsDay % 60 : ℕ)
        tmMin := (ulong w timer % secsDay % 3600 / 60 : ℕ)
        tmHour := (ulong w timer % secsDay / 3600 : ℕ)
        tmMday := (d : ℤ) + 1
        tmMon := m
        tmYear := year - year0
        tmWday := ((ulong w timer / secsDay + 4) % 7 : ℕ)
        tmYday := (monthStart (isLeap year) m + d : ℕ) } := by
  have hlt := yearLoop_lt _ (ulong w timer / secsDay) epochYr le_rfl
  simp only [xiGmtime]
  rcases hloop : yearLoop (ulong w timer / secsDay) (ulong w timer / secsDay) epochYr
    with ⟨yday, year⟩
  rw [hloop] at hlt
  obtain ⟨m, d, hmon, hm, hd, hday⟩ := @monLoop_spec (isLeap year) 13 0 yday (by norm_num)
    (by norm_num) (by rw [monthStart_year]; simpa [monthStart] using hlt)
  rw [show monthStart (isLeap year) 0 = 0 from rfl, Nat.zero_add] at hday
  refine ⟨year, m, d, hm, hd, by rw [hday], ?_⟩
  simp only [leapyear_eq]
  rw [show (0 : ℤ) = ((0 : ℕ) : ℤ) from rfl, hmon, hday]

/-- `xi_gmtime` never indexes outside its table. -/
lemma xiGmtime_isSome (w : ℕ) (timer : ℤ) : ∃ tm, xiGmtime w timer = some tm := by
  obtain ⟨_, _, _, _, _, _, h⟩ := xiGmtime_spec w timer
  exact ⟨_, h⟩

end LibXively.Gmtime
