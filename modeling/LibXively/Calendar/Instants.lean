import LibXively.Calendar.Mktime

/-!
`xi_mktime` and `xi_gmtime` against the calendar.

With a `long` of 64 bits each is exact, and each undoes the other. With a `long` of 32 bits the
check for an overflow allows every count of an `unsigned long`, which is twice as many as the
result can hold.
-/

namespace LibXively.Instants

open LibXively.Gregorian LibXively.XiTime LibXively.Gmtime LibXively.Mktime

/-- No field is larger than 2^30, so that no carry leaves an `int`. -/
structure Moderate (tm : XiTm) : Prop where
  sec : |tm.tmSec| ≤ 2 ^ 30
  min : |tm.tmMin| ≤ 2 ^ 30
  hour : |tm.tmHour| ≤ 2 ^ 30
  mday : |tm.tmMday| ≤ 2 ^ 30
  mon : |tm.tmMon| ≤ 2 ^ 30
  year : |tm.tmYear| ≤ 2 ^ 30

/-- The fields of a broken-down time are those of a second of a day of a month. -/
structure InRange (tm : XiTm) : Prop where
  sec : 0 ≤ tm.tmSec ∧ tm.tmSec ≤ 59
  min : 0 ≤ tm.tmMin ∧ tm.tmMin ≤ 59
  hour : 0 ≤ tm.tmHour ∧ tm.tmHour ≤ 23
  mday : 1 ≤ tm.tmMday ∧ tm.tmMday ≤ monthLength (isLeap (year0 + tm.tmYear)) tm.tmMon.toNat
  mon : 0 ≤ tm.tmMon ∧ tm.tmMon ≤ 11
  wday : 0 ≤ tm.tmWday ∧ tm.tmWday ≤ 6
  yday : 0 ≤ tm.tmYday ∧ tm.tmYday ≤ 365

/-- The value is an `int`. -/
def FitsInt (v : ℤ) : Prop := -2 ^ 31 ≤ v ∧ v < 2 ^ 31

/-! ### Exactness -/

/-- Nothing that is kept in an `int` leaves its range: the carries and the day loops move a year by
less than 2^28. -/
lemma mktimeInts_fit {tm : XiTm} (h : Moderate tm) : ∀ v ∈ mktimeInts tm, FitsInt v := by
  obtain ⟨hsec, hmin, hhour, hmday, hmon, hyear⟩ := h
  rw [abs_le] at hsec hmin hhour hmday hmon hyear
  have hmin' := @carry_spec 60 (by norm_num) tm.tmMin tm.tmSec
  have hminSum := carry_sum 60 tm.tmMin tm.tmSec
  have hyear' := @carry_spec 12 (by norm_num) tm.tmYear tm.tmMon
  have hyearSum := carry_sum 12 tm.tmYear tm.tmMon
  rcases hcmin : carry 60 tm.tmMin tm.tmSec with ⟨min, sec⟩
  have hhour' := @carry_spec 60 (by norm_num) tm.tmHour min
  have hhourSum := carry_sum 60 tm.tmHour min
  rcases hchour : carry 60 tm.tmHour min with ⟨hour, min'⟩
  have hday' := @carry_spec 24 (by norm_num) 0 hour
  rcases hcday : carry 24 0 hour with ⟨day, hour'⟩
  rcases hcyear : carry 12 tm.tmYear tm.tmMon with ⟨year, mon⟩
  rw [hcmin] at hmin' hminSum
  rw [hchour] at hhour' hhourSum
  rw [hcday] at hday'
  rw [hcyear] at hyear' hyearSum
  simp only at hmin' hminSum hhour' hhourSum hday' hyear' hyearSum
  intro v hv
  simp only [mktimeInts, hcmin, hchour, hcday, hcyear, List.mem_append, List.mem_cons,
    List.not_mem_nil, or_false] at hv
  unfold FitsInt
  rcases hv with (rfl | rfl | rfl | rfl | rfl | rfl | rfl) | hv
  case inr =>
    have hdays : |day + (tm.tmMday - 1)| ≤ 2 ^ 31 := abs_le.mpr (by omega)
    obtain ⟨y, hy, hlow, hhigh⟩ := of_mem_loopYears ⟨hyear'.1, hyear'.2.1⟩ hv
    simp only [year0] at hy
    omega
  all_goals omega

/-- The year of a moderate time is far below the last `int`. -/
lemma year_lt_of_moderate {tm : XiTm} (h : Moderate tm) {x : Moment}
    (hx : x.seconds = instant tm) : x.year < 1500000000 := by
  obtain ⟨hsec, hmin, hhour, hmday, hmon, hyear⟩ := h
  rw [abs_le] at hsec hmin hhour hmday hmon hyear
  by_contra hge
  have hmono := daysToYear_mono (not_lt.mp hge)
  have hlast : daysToYear 1500000000 = 547863030472 := by decide
  have hcarried : year0 + (tm.tmYear + tm.tmMon / 12) ≤ 1163222209 := by
    simp only [year0]
    omega
  have hcount : daysToYear 1163222209 = 424857468143 := by decide
  have hfirst := daysToYear_le_of_instant hx hcarried
  omega

/-- With a `long` of 64 bits the count of a moment is exact. -/
lemma xiMktime_moment_64 (x : Moment) (h1 : 1970 ≤ x.year) (h2 : x.year < 2 ^ 31) (wday yday : ℤ) :
    xiMktime 64 (fields x.year x.month x.day x.second wday yday) =
      some (x.seconds, brokenDown x) := by
  have hbounds := x.dayCount_bounds
  have hdiv := x.seconds_div
  have hsecs := (x.seconds_nonneg_iff).mpr h1
  have hend : daysToYear (x.year + 1) ≤ 366 * (x.year - 1968) := by unfold daysToYear; omega
  rw [xiMktime_moment (by norm_num) x h1 (by norm_num; omega), if_neg (by omega),
    long_eq (by norm_num) (by norm_num; omega) (by norm_num; omega)]

/-- What `xi_mktime` makes of a moderate time. -/
lemma xiMktime_moderate {tm : XiTm} (h : Moderate tm) : ∃ x : Moment, x.seconds = instant tm ∧
    x.year < 1500000000 ∧ xiMktime 64 tm = some (if x.year < 1970 then
      (-1, fields x.year x.month x.day x.second tm.tmWday tm.tmYday)
      else (x.seconds, brokenDown x)) := by
  obtain ⟨x, hx, hrun⟩ := xiMktime_normal 64 tm
  have hyear := year_lt_of_moderate h hx
  refine ⟨x, hx, hyear, ?_⟩
  by_cases h1970 : x.year < 1970
  · rw [hrun, xiMktime_before 64 x h1970, if_pos h1970]
  · rw [hrun, xiMktime_moment_64 x (not_lt.mp h1970) (by omega), if_neg h1970]

/-- **Exact counts**: with a `long` of 64 bits and an `int` of 32, `xi_mktime` of a moderate time
leaves the range of neither, and finds the moment the time denotes. It returns -1 exactly for a
moment in front of 1970, and otherwise the seconds to it, with the normalised fields left in the
structure. -/
theorem xiMktime_exact (tm : XiTm) (h : Moderate tm) :
    (∀ v ∈ mktimeInts tm, FitsInt v) ∧
    ∃ (x : Moment) (t : ℤ) (tm' : XiTm),
      x.seconds = instant tm ∧ xiMktime 64 tm = some (t, tm') ∧ (t = -1 ↔ x.year < 1970) ∧
      (t ≠ -1 → t = instant tm ∧ tm' = brokenDown x) := by
  refine ⟨mktimeInts_fit h, ?_⟩
  obtain ⟨x, hx, -, hrun⟩ := xiMktime_moderate h
  by_cases h1970 : x.year < 1970
  · rw [if_pos h1970] at hrun
    exact ⟨x, -1, _, hx, hrun, by simp [h1970], fun hne => absurd rfl hne⟩
  · have hsecs := (x.seconds_nonneg_iff).mpr (not_lt.mp h1970)
    rw [if_neg h1970] at hrun
    exact ⟨x, x.seconds, brokenDown x, hx, hrun, by omega, fun _ => ⟨hx, rfl⟩⟩

/-- One second in front of the year 1971, as minus one second of its first day. -/
def lastSecond : XiTm := ⟨-1, 0, 0, 1, 0, 71, 0, 0⟩

theorem xiMktime_exact_1970 : ∃ tm', xiMktime 64 lastSecond = some (31535999, tm') := by
  have hmoderate : Moderate lastSecond := by constructor <;> decide
  obtain ⟨-, x, t, tm', hx, hrun, hbefore, hafter⟩ := xiMktime_exact lastSecond hmoderate
  have hinstant : instant lastSecond = 31535999 := by decide
  have hyear := (x.seconds_nonneg_iff).mp (by omega)
  obtain ⟨ht, -⟩ := hafter fun hneg => absurd (hbefore.mp hneg) (by omega)
  exact ⟨tm', by rw [hrun, ht, hinstant]⟩

/-! ### Inverses -/

lemma inRange_brokenDown {x : Moment} : InRange (brokenDown x) := by
  have hmonth := x.month_lt
  have hday := x.day_lt
  have hsecond := x.second_lt
  have hyday := dayOfYear_lt hmonth hday
  have hlength := yearLength_pos x.year
  have hyear : year0 + (x.year - year0) = x.year := by ring
  constructor <;> simp only [brokenDown, fields, hyear, Int.toNat_natCast] <;> omega

/-- **Inverses**: with a `long` of 64 bits, `xi_gmtime` of an instant whose year is an `int` has
fields in their ranges, and `xi_mktime` of it is that instant. `xi_gmtime` of the instant of a
broken-down time that `xi_mktime` accepts is what that left in the structure. -/
theorem xiGmtime_xiMktime :
    (∀ t : ℤ, 0 ≤ t → t / 86400 < daysToYear (2 ^ 31) → ∃ tm tm', xiGmtime 64 t = some tm ∧
      InRange tm ∧ xiMktime 64 tm = some (t, tm')) ∧
    ∀ tm : XiTm, Moderate tm → ∀ t tm', xiMktime 64 tm = some (t, tm') → t ≠ -1 →
      xiGmtime 64 t = some tm' := by
  have hlast : daysToYear (2 ^ 31) = 784351576777 := by decide
  constructor
  · intro t h0 hyear
    obtain ⟨x, rfl, h1, h2, hrun⟩ := @xiGmtime_moment 64 t h0 (by omega) hyear
    exact ⟨brokenDown x, brokenDown x, hrun, inRange_brokenDown, xiMktime_moment_64 x h1 h2 _ _⟩
  · intro tm hmoderate t tm' hrun hne
    obtain ⟨x, -, hyear, hrun'⟩ := xiMktime_moderate hmoderate
    rw [hrun, Option.some.injEq] at hrun'
    split at hrun'
    · exact absurd (Prod.mk.inj hrun').1 hne
    · next h1970 =>
      obtain ⟨rfl, rfl⟩ := Prod.mk.inj hrun'
      have hsecs := (x.seconds_nonneg_iff).mpr (not_lt.mp h1970)
      have hdiv := x.seconds_div
      have hbounds := x.dayCount_bounds
      have hmono := daysToYear_mono (by omega : x.year + 1 ≤ 2 ^ 31)
      obtain ⟨y, hy, -, -, hgmtime⟩ := @xiGmtime_moment 64 x.seconds hsecs (by omega) (by omega)
      rw [hgmtime, Moment.seconds_injective hy]

theorem xiGmtime_xiMktime_1970 :
    (∃ tm tm', xiGmtime 64 0 = some tm ∧ InRange tm ∧ xiMktime 64 tm = some (0, tm')) ∧
    ∃ tm', xiMktime 64 lastSecond = some (31535999, tm') ∧ xiGmtime 64 31535999 = some tm' := by
  have hmoderate : Moderate lastSecond := by constructor <;> decide
  obtain ⟨x, hx, -, hrun⟩ := xiMktime_moderate hmoderate
  have hinstant : instant lastSecond = 31535999 := by decide
  rw [hinstant] at hx
  have hyear := (x.seconds_nonneg_iff).mp (by omega)
  rw [if_neg (not_lt.mpr hyear), hx] at hrun
  exact ⟨xiGmtime_xiMktime.1 0 le_rfl (by decide),
    _, hrun, xiGmtime_xiMktime.2 lastSecond hmoderate _ _ hrun (by decide)⟩

/-! ### A long of 32 bits -/

/-- With a `long` of 32 bits the count of a moment stops at 2^32 seconds and wraps around from
2^31 seconds on. -/
lemma xiMktime_moment_32 (x : Moment) (h1 : 1970 ≤ x.year) (h2 : x.year ≤ 9999) (wday yday : ℤ) :
    xiMktime 32 (fields x.year x.month x.day x.second wday yday) =
      some (if 2 ^ 32 ≤ x.seconds then -1
        else if 2 ^ 31 ≤ x.seconds then x.seconds - 2 ^ 32 else x.seconds, brokenDown x) := by
  have hsecs := (x.seconds_nonneg_iff).mpr h1
  rw [xiMktime_moment le_rfl x h1 (by norm_num; omega)]
  by_cases hwide : 2 ^ 32 ≤ x.seconds
  · rw [if_pos hwide, if_pos hwide]
  · rw [if_neg hwide, if_neg hwide]
    by_cases hneg : 2 ^ 31 ≤ x.seconds
    · rw [if_pos hneg, long, Int.bmod_eq_emod]
      norm_num
      omega
    · rw [if_neg hneg, long_eq (by norm_num) (by norm_num; omega) (by norm_num; omega)]

/-- **Overflow**: with a `long` of 32 bits, `xi_mktime` of a date up to the year 9999 is its number
of seconds, or -1 if that is no `long`, exactly if the number is below 2^31 or at least
2^32 - 1. -/
theorem xiMktime_overflow (x : Moment) (h1 : 1970 ≤ x.year) (h2 : x.year ≤ 9999)
    (wday yday : ℤ) :
    (xiMktime 32 (fields x.year x.month x.day x.second wday yday)).map Prod.fst =
      some (if x.seconds < 2 ^ 31 then x.seconds else -1) ↔
    x.seconds < 2 ^ 31 ∨ 2 ^ 32 - 1 ≤ x.seconds := by
  have hsecs := (x.seconds_nonneg_iff).mpr h1
  rw [xiMktime_moment_32 x h1 h2]
  simp only [Option.map_some, Option.some.injEq]
  split <;> split <;> omega

def newYear2014 : Moment := ⟨2014, 0, 0, 0, by decide, by decide, by decide⟩

theorem xiMktime_overflow_2014 :
    (xiMktime 32 (fields 2014 0 0 0 0 0)).map Prod.fst = some 1388534400 :=
  (xiMktime_overflow newYear2014 (by decide) (by decide) 0 0).mpr (by decide)

/-- The second at which a `long` of 32 bits wraps around, in January 2038. -/
def wrapAround : Moment := ⟨2038, 0, 18, 11648, by decide, by decide, by decide⟩

theorem xiMktime_wraps :
    wrapAround.seconds = 2 ^ 31 ∧
    (xiMktime 32 (fields 2038 0 18 11648 0 0)).map Prod.fst = some (-2147483648) := by
  have hrun := xiMktime_moment_32 wrapAround (by decide) (by decide) 0 0
  have hsecs : wrapAround.seconds = 2147483648 := by decide
  refine ⟨by rw [hsecs]; norm_num, ?_⟩
  rw [hsecs] at hrun
  exact congrArg (Option.map Prod.fst) hrun

end LibXively.Instants
