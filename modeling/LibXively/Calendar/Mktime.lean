import Mathlib.Tactic.LinearCombination
import LibXively.Calendar.Gmtime

/-!
`xi_mktime` counts the seconds to a broken-down time.

The carries and the two day loops keep the instant they are given, and end in a month of the
table with a day of that month. So the function has a result for every argument, and undoes
`xi_gmtime`.
-/

namespace LibXively.Mktime

open LibXively.Decimal LibXively.Gregorian LibXively.XiTime LibXively.Gmtime

/-! ### Carries -/

lemma carry_spec {m : ℤ} (hm : 0 < m) (hi lo : ℤ) :
    0 ≤ (carry m hi lo).2 ∧ (carry m hi lo).2 < m ∧
      m * (carry m hi lo).1 + (carry m hi lo).2 = m * hi + lo := by
  have hdiv := Int.mul_tdiv_add_tmod lo m
  have hlow := Int.lt_tmod_of_pos lo hm
  have hhigh := Int.tmod_lt_of_pos lo hm
  simp only [carry]
  split
  · refine ⟨by simp only; omega, by simp only; omega, ?_⟩
    linear_combination hdiv
  · refine ⟨by simp only; omega, by simp only; omega, ?_⟩
    linear_combination hdiv

/-- The sum a borrow may take one from. -/
lemma carry_sum (m hi lo : ℤ) :
    hi + lo.tdiv m = (carry m hi lo).1 ∨ hi + lo.tdiv m = (carry m hi lo).1 + 1 := by
  simp only [carry]
  split
  · exact .inr (sub_add_cancel _ _).symm
  · exact .inl rfl

lemma carry_eq {m lo : ℤ} (h1 : 0 ≤ lo) (h2 : lo < m) (hi : ℤ) : carry m hi lo = (hi, lo) := by
  simp [carry, Int.tdiv_eq_ediv_of_nonneg h1, Int.tmod_eq_emod_of_nonneg h1,
    Int.ediv_eq_zero_of_lt h1 h2, Int.emod_eq_of_lt h1 h2, not_lt.mpr h1]

/-! ### What is kept in an `int` -/

/-- The years `borrowLoop` goes through, as `tm_year` and as the argument of `LEAPYEAR`. -/
def borrowYears : ℕ → ℤ → ℤ → ℤ → List ℤ
  | 0, _, _, _ => []
  | k + 1, day, mon, year =>
    if day < 0 then
      let (mon, year) := if mon - 1 < 0 then (11, year - 1) else (mon - 1, year)
      match ytabAt (leapyear (year0 + year)) mon with
      | none => [year, year0 + year]
      | some len => year :: (year0 + year) :: borrowYears k (day + len) mon year
    else []

/-- The years `dayLoop` goes through. -/
def dayYears : ℕ → ℤ → ℤ → ℤ → List ℤ
  | 0, _, _, _ => []
  | k + 1, day, mon, year =>
    year :: (year0 + year) :: match ytabAt (leapyear (year0 + year)) mon with
      | none => []
      | some len =>
        if len ≤ day then
          if mon + 1 = 12 then dayYears k (day - len) 0 (year + 1)
          else dayYears k (day - len) (mon + 1) year
        else []

/-- The years the loops go through, one behind the other. -/
def loopYears (day mon year : ℤ) : List ℤ :=
  borrowYears day.natAbs day mon year ++
  match borrowLoop day.natAbs day mon year with
  | none => []
  | some (day, mon, year) => dayYears (day.natAbs + 1) day mon year

/-- The sums, carries and years `xi_mktime` keeps in an `int`. -/
def mktimeInts (tm : XiTm) : List ℤ :=
  let (min, _) := carry 60 tm.tmMin tm.tmSec
  let (hour, _) := carry 60 tm.tmHour min
  let (day, _) := carry 24 0 hour
  let (year, mon) := carry 12 tm.tmYear tm.tmMon
  [tm.tmMin + tm.tmSec.tdiv 60, min, tm.tmHour + min.tdiv 60, hour,
    tm.tmYear + tm.tmMon.tdiv 12, year, tm.tmMday - 1] ++
  loopYears (day + (tm.tmMday - 1)) mon year

/-! ### The day loops -/

/-- The number of the day a month, a year since 1900 and a day of that month denote. The day may
lie outside the month. -/
def dayCount (day mon year : ℤ) : ℤ :=
  daysToYear (year0 + year) + monthStart (isLeap (year0 + year)) mon.toNat + day

lemma ytabAt_eq {mon : ℤ} (h : 0 ≤ mon ∧ mon < 12) (year : ℤ) :
    ytabAt (leapyear year) mon = some (monthLength (isLeap year) mon.toNat) := by
  have hcast : ((mon.toNat : ℕ) : ℤ) = mon := Int.toNat_of_nonneg h.1
  rw [leapyear_eq, ← hcast, ytabAt_natCast _ (by omega), hcast]

/-- The first day of a month is the day behind the last one of the month before. -/
lemma dayCount_succ {mon : ℤ} (h : 0 ≤ mon ∧ mon < 12) (day year : ℤ) :
    dayCount (day + monthLength (isLeap (year0 + year)) mon.toNat) mon year =
      if mon + 1 = 12 then dayCount day 0 (year + 1) else dayCount day (mon + 1) year := by
  have hsucc := monthStart_succ (isLeap (year0 + year)) (m := mon.toNat) (by omega)
  split
  · next hlast =>
    obtain rfl : mon = 11 := by omega
    have hyear := daysToYear_succ (year0 + year)
    rw [← monthStart_year, show (12 : ℕ) = (11 : ℤ).toNat + 1 from rfl, hsucc] at hyear
    have hnext : year0 + (year + 1) = year0 + year + 1 := by ring
    simp only [dayCount, hnext, hyear]
    push_cast
    simp [monthStart]
    ring
  · next hlast =>
    have hnat : (mon + 1).toNat = mon.toNat + 1 := by omega
    simp only [dayCount, hnat, hsucc]
    push_cast
    ring

/-- A round of the borrow loop: it goes back to the month before, and gains the days of that. -/
lemma borrow_step {day mon year : ℤ} (hm : 0 ≤ mon ∧ mon < 12) (hday : day < 0) :
    ∃ (m y : ℤ) (len : ℕ), (0 ≤ m ∧ m < 12) ∧ 12 * y + m + 1 = 12 * year + mon ∧
      (28 ≤ len ∧ len ≤ 31) ∧ dayCount (day + len) m y = dayCount day mon year ∧
      (∀ k, borrowLoop (k + 1) day mon year = borrowLoop k (day + len) m y) ∧
      ∀ k, borrowYears (k + 1) day mon year =
        y :: (year0 + y) :: borrowYears k (day + len) m y := by
  by_cases hfirst : mon - 1 < 0
  · obtain rfl : mon = 0 := by omega
    have hm' : (0 : ℤ) ≤ 11 ∧ (11 : ℤ) < 12 := by omega
    have hlen := monthLength_pos (isLeap (year0 + (year - 1))) (m := (11 : ℤ).toNat) (by decide)
    refine ⟨11, year - 1, _, hm', by omega, hlen, ?_, fun k => ?_, fun k => ?_⟩
    · rw [dayCount_succ hm', if_pos (by norm_num), sub_add_cancel]
    · simp only [borrowLoop, hday, hfirst, if_true, ytabAt_eq hm']
    · simp only [borrowYears, hday, hfirst, if_true, ytabAt_eq hm']
  · have hm' : 0 ≤ mon - 1 ∧ mon - 1 < 12 := by omega
    have hlen := monthLength_pos (isLeap (year0 + year)) (m := (mon - 1).toNat) (by omega)
    refine ⟨mon - 1, year, _, hm', by omega, hlen, ?_, fun k => ?_, fun k => ?_⟩
    · rw [dayCount_succ hm', if_neg (by omega), sub_add_cancel]
    · simp only [borrowLoop, hday, hfirst, if_true, if_false, ytabAt_eq hm']
    · simp only [borrowYears, hday, hfirst, if_true, if_false, ytabAt_eq hm']

/-- The borrow loop goes back whole months and stops as soon as the day is not negative. -/
lemma borrowLoop_spec {k : ℕ} {day mon year : ℤ} (hm : 0 ≤ mon ∧ mon < 12) (hk : -day ≤ k) :
    ∃ day' mon' year', borrowLoop k day mon year = some (day', mon', year') ∧
      (0 ≤ day' ∧ day' ≤ max 30 day) ∧ (0 ≤ mon' ∧ mon' < 12) ∧
      dayCount day' mon' year' = dayCount day mon year ∧ year' ≤ year ∧
      336 * year + 28 * mon + day ≤ 336 * year' + 28 * mon' + day' := by
  induction k generalizing day mon year with
  | zero =>
    exact ⟨day, mon, year, by rw [borrowLoop, if_neg (by omega)], by omega, hm, rfl, le_rfl,
      le_rfl⟩
  | succ k ih =>
    by_cases hday : day < 0
    · obtain ⟨m, y, len, hm', hback, hlen, hcount, hloop, -⟩ := borrow_step hm hday
      obtain ⟨day', mon', year', h1, h2, h3, h4, h5, h6⟩ :=
        @ih (day + len) m y hm' (by omega)
      exact ⟨day', mon', year', (hloop k).trans h1, by omega, h3, h4.trans hcount, by omega,
        by omega⟩
    · exact ⟨day, mon, year, by rw [borrowLoop, if_neg hday], by omega, hm, rfl, le_rfl, le_rfl⟩

/-- The borrow loop does not leave the neighbourhood of its year: each month back gains 28 days or
more. -/
lemma of_mem_borrowYears {k : ℕ} {day mon year v : ℤ} (hm : 0 ≤ mon ∧ mon < 12)
    (h : v ∈ borrowYears k day mon year) :
    ∃ y, (v = y ∨ v = year0 + y) ∧ y ≤ year ∧
      336 * year + 28 * mon + day ≤ 336 * y + 335 := by
  induction k generalizing day mon year with
  | zero => cases h
  | succ k ih =>
    by_cases hday : day < 0
    · obtain ⟨m, y, len, hm', hback, hlen, -, -, hyears⟩ := borrow_step hm hday
      rw [hyears, List.mem_cons, List.mem_cons] at h
      rcases h with h | h | h
      · exact ⟨y, .inl h, by omega, by omega⟩
      · exact ⟨y, .inr h, by omega, by omega⟩
      · obtain ⟨z, hv, hle, hgain⟩ := ih hm' h
        exact ⟨z, hv, by omega, by omega⟩
    · rw [borrowYears, if_neg hday] at h
      cases h

/-- A round of the day loop: it goes on to the month behind, and takes the days of this one. -/
lemma day_step {day mon year : ℤ} (hm : 0 ≤ mon ∧ mon < 12)
    (hday : (monthLength (isLeap (year0 + year)) mon.toNat : ℤ) ≤ day) :
    ∃ (m y : ℤ) (len : ℕ), (0 ≤ m ∧ m < 12) ∧ 12 * y + m = 12 * year + mon + 1 ∧
      (28 ≤ len ∧ len ≤ day) ∧ dayCount (day - len) m y = dayCount day mon year ∧
      (∀ k, dayLoop (k + 1) day mon year = dayLoop k (day - len) m y) ∧
      ∀ k, dayYears (k + 1) day mon year =
        year :: (year0 + year) :: dayYears k (day - len) m y := by
  have hlen := (monthLength_pos (isLeap (year0 + year)) (m := mon.toNat) (by omega)).1
  have hcount := dayCount_succ hm (day - monthLength (isLeap (year0 + year)) mon.toNat) year
  rw [sub_add_cancel] at hcount
  by_cases hlast : mon + 1 = 12
  · rw [if_pos hlast] at hcount
    refine ⟨0, year + 1, _, by omega, by omega, ⟨hlen, hday⟩, hcount.symm, fun k => ?_,
      fun k => ?_⟩
    · simp only [dayLoop, ytabAt_eq hm, hday, hlast, if_true]
    · simp only [dayYears, ytabAt_eq hm, hday, hlast, if_true]
  · rw [if_neg hlast] at hcount
    refine ⟨mon + 1, year, _, by omega, by omega, ⟨hlen, hday⟩, hcount.symm, fun k => ?_,
      fun k => ?_⟩
    · simp only [dayLoop, ytabAt_eq hm, hday, hlast, if_true, if_false]
    · simp only [dayYears, ytabAt_eq hm, hday, hlast, if_true, if_false]

/-- The day loop goes forward whole months and stops with a day of the month. -/
lemma dayLoop_spec {k : ℕ} {day mon year : ℤ} (hm : 0 ≤ mon ∧ mon < 12) (h0 : 0 ≤ day)
    (hk : day < k) :
    ∃ (d m : ℕ) (year' : ℤ), dayLoop k day mon year = some ((d : ℤ), (m : ℤ), year') ∧ m < 12 ∧
      d < monthLength (isLeap (year0 + year')) m ∧
      dayCount d m year' = dayCount day mon year := by
  induction k generalizing day mon year with
  | zero => omega
  | succ k ih =>
    by_cases hle : (monthLength (isLeap (year0 + year)) mon.toNat : ℤ) ≤ day
    · obtain ⟨m', y, len, hm', -, hlen, hcount, hloop, -⟩ := day_step hm hle
      obtain ⟨d, m, year', h1, h2, h3, h4⟩ := @ih (day - len) m' y hm' (by omega) (by omega)
      exact ⟨d, m, year', (hloop k).trans h1, h2, h3, h4.trans hcount⟩
    · obtain ⟨d, rfl⟩ := Int.eq_ofNat_of_zero_le h0
      obtain ⟨m, rfl⟩ := Int.eq_ofNat_of_zero_le hm.1
      rw [dayLoop, ytabAt_eq hm]
      simp only [if_neg hle]
      exact ⟨d, m, year, rfl, by omega, by simpa using hle, rfl⟩

/-- Nor does the day loop: each month forward takes 28 days or more. -/
lemma of_mem_dayYears {k : ℕ} {day mon year v : ℤ} (hm : 0 ≤ mon ∧ mon < 12) (h0 : 0 ≤ day)
    (h : v ∈ dayYears k day mon year) :
    ∃ y, (v = y ∨ v = year0 + y) ∧ year ≤ y ∧ 336 * y ≤ 336 * year + 28 * mon + day := by
  induction k generalizing day mon year with
  | zero => cases h
  | succ k ih =>
    by_cases hle : (monthLength (isLeap (year0 + year)) mon.toNat : ℤ) ≤ day
    · obtain ⟨m, y, len, hm', hnext, hlen, -, -, hyears⟩ := day_step hm hle
      rw [hyears, List.mem_cons, List.mem_cons] at h
      rcases h with h | h | h
      · exact ⟨year, .inl h, le_rfl, by omega⟩
      · exact ⟨year, .inr h, le_rfl, by omega⟩
      · obtain ⟨z, hv, hfirst, htaken⟩ := ih hm' (by omega) h
        exact ⟨z, hv, by omega, by omega⟩
    · simp only [dayYears, ytabAt_eq hm, if_neg hle, List.mem_cons, List.not_mem_nil,
        or_false] at h
      exact ⟨year, h, le_rfl, by omega⟩

/-- The loops stay near the year they start from, the nearer the fewer days there are. -/
lemma of_mem_loopYears {day mon year v : ℤ} (hm : 0 ≤ mon ∧ mon < 12)
    (h : v ∈ loopYears day mon year) :
    ∃ y, (v = y ∨ v = year0 + y) ∧ year - 2 - |day| / 336 ≤ y ∧ y ≤ year + 2 + |day| / 336 := by
  have hneg := neg_abs_le day
  have hpos := le_abs_self day
  rw [loopYears, List.mem_append] at h
  rcases h with h | h
  · obtain ⟨y, hv, hle, hgain⟩ := of_mem_borrowYears hm h
    exact ⟨y, hv, by omega, by omega⟩
  · obtain ⟨day', mon', year', hloop, hday, hm', -, hyear, hgain⟩ :=
      @borrowLoop_spec day.natAbs day mon year hm (by omega)
    rw [hloop] at h
    obtain ⟨y, hv, hle, htaken⟩ := of_mem_dayYears hm' hday.1 h
    exact ⟨y, hv, by omega, by omega⟩

lemma ydayUpto_eq (leap : Bool) {m : ℕ} (h : m ≤ 12) :
    ydayUpto leap m = some (monthStart leap m) := by
  induction m with
  | zero => rfl
  | succ m ih =>
    simp [ydayUpto, ih (by omega), ytabAt_natCast leap (show m < 12 by omega),
      monthStart_succ leap (show m < 12 by omega)]

/-! ### Normalisation -/

/-- The instant a broken-down time denotes, each field carried into the next one. -/
def instant (tm : XiTm) : ℤ :=
  86400 * (daysToYear (year0 + (tm.tmYear + tm.tmMon / 12)) +
    monthStart (isLeap (year0 + (tm.tmYear + tm.tmMon / 12))) (tm.tmMon % 12).toNat +
    (tm.tmMday - 1)) + 3600 * tm.tmHour + 60 * tm.tmMin + tm.tmSec

/-- A moment is at most some days behind the year that the months of a time are carried to. -/
lemma daysToYear_le_of_instant {tm : XiTm} {x : Moment} (hx : x.seconds = instant tm) {y : ℤ}
    (hy : year0 + (tm.tmYear + tm.tmMon / 12) ≤ y) :
    daysToYear x.year ≤ daysToYear y + 365 + tm.tmMday +
      (3600 * tm.tmHour + 60 * tm.tmMin + tm.tmSec) / 86400 := by
  have hfirst := daysToYear_mono hy
  have hmonth := monthStart_mono (isLeap (year0 + (tm.tmYear + tm.tmMon / 12))) le_rfl
    (by omega : (tm.tmMon % 12).toNat ≤ 12)
  have hlength := yearLength_pos (year0 + (tm.tmYear + tm.tmMon / 12))
  rw [monthStart_year] at hmonth
  have hbounds := x.dayCount_bounds
  have hdiv := x.seconds_div
  rw [hx, instant] at hdiv
  omega

/-- The broken-down time of a date and a second of that day. -/
def fields (year : ℤ) (m d s : ℕ) (wday yday : ℤ) : XiTm where
  tmSec := (s % 60 : ℕ)
  tmMin := (s % 3600 / 60 : ℕ)
  tmHour := (s / 3600 : ℕ)
  tmMday := (d : ℤ) + 1
  tmMon := m
  tmYear := year - year0
  tmWday := wday
  tmYday := yday

/-- The broken-down time of a moment, with the day of the week and of the year. -/
def brokenDown (x : Moment) : XiTm :=
  fields x.year x.month x.day x.second ((x.dayCount + 4) % 7)
    (monthStart (isLeap x.year) x.month + x.day)

/-- The fields of a date stay as they are. -/
lemma borrowLoop_nonneg {k : ℕ} {day mon year : ℤ} (h : 0 ≤ day) :
    borrowLoop k day mon year = some (day, mon, year) := by
  cases k <;> rw [borrowLoop, if_neg (by omega)]

lemma dayLoop_lt {k : ℕ} {year : ℤ} {m d : ℕ} (hm : m < 12)
    (hd : d < monthLength (isLeap (year0 + year)) m) :
    dayLoop (k + 1) d m year = some ((d : ℤ), (m : ℤ), year) := by
  have hlt : ¬ ((monthLength (isLeap (year0 + year)) m : ℤ) ≤ d) := by omega
  rw [dayLoop, ytabAt_eq ⟨by omega, by omega⟩, Int.toNat_natCast]
  simp only [if_neg hlt]

/-- `xi_mktime` finds the moment a broken-down time denotes, and goes on as for that. -/
lemma xiMktime_normal (w : ℕ) (tm : XiTm) : ∃ x : Moment, x.seconds = instant tm ∧
    xiMktime w tm = xiMktime w (fields x.year x.month x.day x.second tm.tmWday tm.tmYday) := by
  have hsec := @carry_spec 60 (by norm_num) tm.tmMin tm.tmSec
  rcases hmin : carry 60 tm.tmMin tm.tmSec with ⟨min, sec⟩
  have hmin' := @carry_spec 60 (by norm_num) tm.tmHour min
  rcases hhour : carry 60 tm.tmHour min with ⟨hour, min'⟩
  have hhour' := @carry_spec 24 (by norm_num) 0 hour
  rcases hday : carry 24 0 hour with ⟨day, hour'⟩
  have hmon' := @carry_spec 12 (by norm_num) tm.tmYear tm.tmMon
  rcases hyear : carry 12 tm.tmYear tm.tmMon with ⟨year, mon⟩
  rw [hmin] at hsec
  rw [hhour] at hmin'
  rw [hday] at hhour'
  rw [hyear] at hmon'
  simp only at hsec hmin' hhour' hmon'
  obtain ⟨day', mon', year', hborrow, ⟨h0, -⟩, hm, hcount, -⟩ :=
    @borrowLoop_spec (day + (tm.tmMday - 1)).natAbs (day + (tm.tmMday - 1)) mon year
      ⟨hmon'.1, hmon'.2.1⟩ (by omega)
  obtain ⟨d, m, year'', hloop, hm', hd', hcount'⟩ :=
    @dayLoop_spec (day'.natAbs + 1) day' mon' year' hm h0 (by omega)
  -- the second of the day, from the three carried fields
  obtain ⟨sec, rfl⟩ := Int.eq_ofNat_of_zero_le hsec.1
  obtain ⟨min', rfl⟩ := Int.eq_ofNat_of_zero_le hmin'.1
  obtain ⟨hour', rfl⟩ := Int.eq_ofNat_of_zero_le hhour'.1
  have hclock : hour' < 24 ∧ min' < 60 ∧ sec < 60 := by omega
  have hsecond : (hour' * 60 + min') * 60 + sec < 86400 := by omega
  refine ⟨⟨year0 + year'', m, d, (hour' * 60 + min') * 60 + sec, hm', hd', hsecond⟩, ?_, ?_⟩
  · have hfloor : tm.tmYear + tm.tmMon / 12 = year ∧ tm.tmMon % 12 = mon := by omega
    have hnumber : Moment.dayCount ⟨year0 + year'', m, d, _, hm', hd', hsecond⟩ =
        dayCount d m year'' := by
      simp only [Moment.dayCount, dayNumber, dayCount, Int.toNat_natCast]
    rw [instant, hfloor.1, hfloor.2, Moment.seconds, hnumber, hcount', hcount, dayCount]
    push_cast
    omega
  · have h1 : ((hour' * 60 + min') * 60 + sec) % 60 = sec := by omega
    have h2 : ((hour' * 60 + min') * 60 + sec) % 3600 / 60 = min' := by omega
    have h3 : ((hour' * 60 + min') * 60 + sec) / 3600 = hour' := by omega
    have h4 : year0 + year'' - year0 = year'' := by ring
    have h5 : 0 + ((d : ℤ) + 1 - 1) = d := by ring
    have c1 := @carry_eq 60 sec (by omega) (by omega) min'
    have c2 := @carry_eq 60 min' (by omega) (by omega) hour'
    have c3 := @carry_eq 24 hour' (by omega) (by omega) 0
    have c4 := @carry_eq 12 m (by omega) (by omega) year''
    have c5 := @borrowLoop_nonneg (d : ℤ).natAbs d m year'' (Int.natCast_nonneg d)
    have c6 := @dayLoop_lt (d : ℤ).natAbs year'' m d hm' hd'
    unfold xiMktime fields
    simp only [hmin, hhour, hday, hyear, hborrow, hloop, h1, h2, h3, h4, h5, c1, c2, c3, c4, c5, c6]

/-! ### Counting -/

lemma long_eq {w : ℕ} (hw : 0 < w) {v : ℤ} (h1 : -2 ^ (w - 1) ≤ v) (h2 : v < 2 ^ (w - 1)) :
    long w v = v := by
  obtain ⟨k, rfl⟩ := Nat.exists_eq_add_of_lt hw
  have hpow : (2 ^ (0 + k + 1) : ℕ) = 2 * 2 ^ k := by ring
  have hcast : ((2 ^ k : ℕ) : ℤ) = 2 ^ k := by push_cast; rfl
  simp only [Nat.zero_add, Nat.add_sub_cancel] at h1 h2
  rw [long, hpow]
  exact Int.bmod_eq_of_le (by omega) (by omega)

lemma long_lt {w : ℕ} (hw : 0 < w) (v : ℤ) : long w v < 2 ^ (w - 1) := by
  obtain ⟨k, rfl⟩ : ∃ k, w = k + 1 := ⟨w - 1, by omega⟩
  have hpow : (2 ^ (k + 1) : ℕ) = 2 * 2 ^ k := by ring
  have hcast : ((2 ^ k : ℕ) : ℤ) = 2 ^ k := by push_cast; rfl
  have hbound := @Int.bmod_lt v (2 * 2 ^ k) (by positivity)
  rw [long, hpow, Nat.add_sub_cancel]
  omega

lemma ulong_eq {w : ℕ} {v : ℤ} (h1 : 0 ≤ v) (h2 : v < 2 ^ w) : ulong w v = v.toNat := by
  rw [ulong, Int.emod_eq_of_lt h1 h2]

/-- The count of the days in front of a year passes no bound, and is exact. -/
lemma daysBefore_eq {w : ℕ} (hw : 0 < w) {year : ℤ} (h1 : 1970 ≤ year)
    (h2 : 366 * (year - 1969) < 2 ^ (w - 1)) : daysBefore w year = (daysToYear year, false) := by
  have hrem (m : ℤ) : remainderBelow year 1970 m =
      if year % m ≠ 0 ∧ year % m < 1970 % m then 1 else 0 := by
    simp only [remainderBelow, Int.tmod_eq_emod_of_nonneg (show 0 ≤ year by omega),
      Int.tmod_eq_emod_of_nonneg (show (0 : ℤ) ≤ 1970 by norm_num)]
  have hdiv (m : ℤ) : (year - 1970).tdiv m = (year - 1970) / m :=
    Int.tdiv_eq_ediv_of_nonneg (by omega)
  -- the years divisible by 4, 100 and 400 in front of this one
  have h4 : (year - 1970) / 4 + remainderBelow year 1970 4 = (year - 1969) / 4 := by
    rw [hrem]; split <;> omega
  have h100 : (year - 1970) / 100 + remainderBelow year 1970 100 = (year - 1901) / 100 := by
    rw [hrem]; split <;> omega
  have h400 : (year - 1970) / 400 + remainderBelow year 1970 400 = (year - 1601) / 400 := by
    rw [hrem]; split <;> omega
  have hmax : ((2 : ℤ) ^ (w - 1) - 1).tdiv 365 = (2 ^ (w - 1) - 1) / 365 :=
    Int.tdiv_eq_ediv_of_nonneg (by omega)
  have hyears : ¬ (((2 : ℤ) ^ (w - 1) - 1) / 365 < year - 1970) := by omega
  have hquarters : ¬ ((2 : ℤ) ^ (w - 1) - 1 - (year - 1970) * 365 < (year - 1970) / 4 + 1) := by
    omega
  simp only [daysBefore, hmax, hdiv, h4, h100, h400, hyears, decide_false, Bool.false_or]
  rw [@long_eq w hw ((year - 1970) * 365) (by omega) (by omega), decide_eq_false hquarters,
    @long_eq w hw (_ + (year - 1969) / 4) (by omega) (by omega),
    @long_eq w hw (_ - (year - 1901) / 100) (by omega) (by omega),
    @long_eq w hw _ (by omega) (by omega), daysToYear]
  congr 1
  ring

/-- The sum that is told to pass the bound is the one that passes it. -/
lemma overflow_iff {w s : ℕ} {day : ℤ} (hs : (s : ℤ) < 2 ^ w) (h0 : 0 ≤ day) (hday : day < 2 ^ w) :
    ulong w (2 ^ w - 1 - s) / secsDay < ulong w day ↔ 2 ^ w ≤ day * 86400 + s := by
  rw [ulong_eq (by omega) (by omega), ulong_eq h0 hday, show secsDay = 86400 from rfl,
    Nat.div_lt_iff_lt_mul (by norm_num)]
  omega

lemma long_add_long (w : ℕ) (a b : ℤ) : long w (a + long w b) = long w (a + b) := by
  simp only [long]
  exact_mod_cast Int.add_bmod_bmod

lemma daysToYear_nonneg {year : ℤ} (h : 1970 ≤ year) : 0 ≤ daysToYear year := by
  unfold daysToYear; omega

/-- The carries and the two day loops leave the fields of a moment alone. -/
lemma normal_steps (x : Moment) :
    carry 60 (x.second % 3600 / 60 : ℕ) (x.second % 60 : ℕ) =
      (((x.second % 3600 / 60 : ℕ) : ℤ), ((x.second % 60 : ℕ) : ℤ)) ∧
    carry 60 (x.second / 3600 : ℕ) (x.second % 3600 / 60 : ℕ) =
      (((x.second / 3600 : ℕ) : ℤ), ((x.second % 3600 / 60 : ℕ) : ℤ)) ∧
    carry 24 0 (x.second / 3600 : ℕ) = (0, ((x.second / 3600 : ℕ) : ℤ)) ∧
    carry 12 (x.year - year0) x.month = (x.year - year0, (x.month : ℤ)) ∧
    borrowLoop (x.day : ℤ).natAbs x.day x.month (x.year - year0) =
      some ((x.day : ℤ), (x.month : ℤ), x.year - year0) ∧
    dayLoop ((x.day : ℤ).natAbs + 1) x.day x.month (x.year - year0) =
      some ((x.day : ℤ), (x.month : ℤ), x.year - year0) := by
  have hsecond := x.second_lt
  have hmonth := x.month_lt
  have hyear : year0 + (x.year - year0) = x.year := by ring
  exact ⟨carry_eq (by omega) (by omega) _, carry_eq (by omega) (by omega) _,
    carry_eq (by omega) (by omega) _, carry_eq (by omega) (by omega) _,
    borrowLoop_nonneg (Int.natCast_nonneg _), dayLoop_lt hmonth (by rw [hyear]; exact x.day_lt)⟩

/-- A moment in front of 1970 has no count. -/
lemma xiMktime_before (w : ℕ) (x : Moment) (h : x.year < 1970) (wday yday : ℤ) :
    xiMktime w (fields x.year x.month x.day x.second wday yday) =
      some (-1, fields x.year x.month x.day x.second wday yday) := by
  obtain ⟨h1, h2, h3, h4, h5, h6⟩ := normal_steps x
  have hday : 0 + ((x.day : ℤ) + 1 - 1) = x.day := by ring
  have hepoch : x.year - year0 < epochYr - year0 := by simp only [epochYr, year0]; omega
  unfold xiMktime fields
  simp only [h1, h2, h3, h4, hday, h5, h6, if_pos hepoch]

/-- The seconds to a moment, as far as the two bounds of the count let them through. -/
lemma xiMktime_moment {w : ℕ} (hw : 32 ≤ w) (x : Moment) (h1970 : 1970 ≤ x.year)
    (hlast : 366 * (x.year - 1968) < 2 ^ (w - 1)) (wday yday : ℤ) :
    xiMktime w (fields x.year x.month x.day x.second wday yday) =
      some (if 2 ^ w ≤ x.seconds then -1 else long w x.seconds,
        brokenDown x) := by
  obtain ⟨h1, h2, h3, h4, h5, h6⟩ := normal_steps x
  have hsecond := x.second_lt
  have hw0 : 0 < w := by omega
  have hpow : (2 : ℤ) ^ w = 2 * 2 ^ (w - 1) := by
    rw [← pow_succ', Nat.sub_add_cancel hw0]
  have hroom : (2 : ℤ) ^ 31 ≤ 2 ^ (w - 1) := by
    exact_mod_cast Nat.pow_le_pow_right (by norm_num) (by omega : 31 ≤ w - 1)
  have hfirst : (x.day : ℤ) + 1 - 1 = x.day := by ring
  have hepoch : ¬ (x.year - year0 < epochYr - year0) := by simp only [epochYr, year0]; omega
  have hback : x.year - year0 + year0 = x.year := by ring
  have hbounds := x.dayCount_bounds
  have hstart : 0 ≤ daysToYear x.year := daysToYear_nonneg h1970
  have hend : daysToYear (x.year + 1) ≤ 366 * (x.year - 1968) := by unfold daysToYear; omega
  have hsum : daysToYear x.year + ((monthStart (isLeap x.year) x.month : ℕ) + (x.day : ℤ)) =
      x.dayCount := by simp only [Moment.dayCount, dayNumber]; ring
  have hclock : (((x.second / 3600 : ℕ) : ℤ) * 60 + (x.second % 3600 / 60 : ℕ)) * 60 +
      (x.second % 60 : ℕ) = x.second := by omega
  have hcount : long w x.dayCount = x.dayCount := long_eq hw0 (by omega) (by omega)
  have hclock' : long w x.second = x.second := long_eq hw0 (by omega) (by omega)
  have hneg : ¬ x.dayCount < 0 := by omega
  have hover : (ulong w (2 ^ w - 1 - x.second) / secsDay < ulong w x.dayCount) ↔
      2 ^ w ≤ x.seconds := overflow_iff (by omega) (by omega) (by omega)
  have hweek : (x.dayCount + 4).tmod 7 = (x.dayCount + 4) % 7 :=
    Int.tmod_eq_emod_of_nonneg (by omega)
  have hsecs : (x.second : ℤ) + x.dayCount * secsDay = x.seconds := by
    simp only [Moment.seconds, show ((secsDay : ℕ) : ℤ) = 86400 from rfl]
    ring
  unfold xiMktime brokenDown fields
  simp only [h1, h2, h3, h4, zero_add, h5, h6, if_neg hepoch, hback, daysBefore_eq hw0 h1970
    (by omega : 366 * (x.year - 1969) < 2 ^ (w - 1)), leapyear_eq, Int.toNat_natCast,
    ydayUpto_eq _ x.month_lt.le, hfirst, hsum, hclock, hcount, hclock', hweek, hneg, hover,
    long_add_long, hsecs, decide_false, Bool.or_false, Bool.false_or, decide_eq_true_eq]

/-- `xi_mktime` never indexes outside its table, and its loops end. -/
lemma xiMktime_isSome (w : ℕ) (tm : XiTm) : ∃ x, xiMktime w tm = some x := by
  obtain ⟨x, -, hnormal⟩ := xiMktime_normal w tm
  obtain ⟨h1, h2, h3, h4, h5, h6⟩ := normal_steps x
  have hday : 0 + ((x.day : ℤ) + 1 - 1) = x.day := by ring
  rw [hnormal, ← Option.isSome_iff_exists]
  unfold xiMktime fields
  simp only [h1, h2, h3, h4, hday, h5, h6, Int.toNat_natCast, ydayUpto_eq _ x.month_lt.le]
  split <;> rfl

/-- `xi_gmtime` finds the moment of an instant whose year is an `int`. -/
lemma xiGmtime_moment {w : ℕ} {t : ℤ} (h0 : 0 ≤ t) (hw : t < 2 ^ w)
    (hyear : t / 86400 < daysToYear (2 ^ 31)) :
    ∃ x : Moment, x.seconds = t ∧ 1970 ≤ x.year ∧ x.year < 2 ^ 31 ∧
      xiGmtime w t = some (brokenDown x) := by
  obtain ⟨n, rfl⟩ := Int.eq_ofNat_of_zero_le h0
  have hn : ulong w (n : ℤ) = n := by rw [ulong_eq h0 hw, Int.toNat_natCast]
  obtain ⟨year, m, d, hm, hd, hloop, htm⟩ := xiGmtime_spec w n
  rw [hn] at hloop htm
  have hepoch : daysToYear epochYr = 0 := daysToYear_epoch
  have hsecs : secsDay = 86400 := rfl
  obtain ⟨hday, hle⟩ := @yearLoop_day (n / secsDay) (n / secsDay) epochYr (by norm_num)
    (by rw [hepoch, hsecs]; omega)
  rw [← hloop, hepoch, hsecs] at hday
  rw [← hloop] at hle
  simp only at hday hle
  let x : Moment := ⟨year, m, d, n % 86400, hm, hd, Nat.mod_lt _ (by norm_num)⟩
  have hcount : x.dayCount = (n / 86400 : ℕ) := by
    simp only [x, Moment.dayCount, dayNumber]
    omega
  refine ⟨x, ?_, hle, ?_, ?_⟩
  · simp only [Moment.seconds, hcount]
    simp only [x]
    omega
  · by_contra hge
    have hmono := daysToYear_mono (not_lt.mp hge)
    have hbounds := x.dayCount_bounds
    omega
  · rw [htm, hsecs, brokenDown, hcount]
    simp only [fields, x]
    push_cast
    rfl

end LibXively.Mktime
