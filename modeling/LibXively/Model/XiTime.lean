import LibXively.CLib.Decimal

/-!
The calendar conversions of `xi_time.c`.

An `int` is an integer; a `long` has `w` bits and wraps around. A table access outside `_ytab`
has no value, so neither has a conversion that makes one.
-/

namespace LibXively.XiTime

open LibXively.Decimal

/-- `struct xi_tm`, less the zone fields nothing reads. -/
structure XiTm where
  tmSec : ℤ
  tmMin : ℤ
  tmHour : ℤ
  tmMday : ℤ
  tmMon : ℤ
  tmYear : ℤ
  tmWday : ℤ
  tmYday : ℤ
  deriving DecidableEq

abbrev year0 : ℤ := 1900
abbrev epochYr : ℤ := 1970
abbrev secsDay : ℕ := 24 * 60 * 60

/-- `LEAPYEAR(year)`. -/
def leapyear (year : ℤ) : Bool :=
  year.tmod 4 = 0 && (year.tmod 100 ≠ 0 || year.tmod 400 = 0)

/-- `YEARSIZE(year)`. -/
def yearsize (year : ℤ) : ℕ := if leapyear year then 366 else 365

def ytab (leap : Bool) : List ℕ :=
  [31, if leap then 29 else 28, 31, 30, 31, 30, 31, 31, 30, 31, 30, 31]

/-- `_ytab[leap][mon]`. -/
def ytabAt (leap : Bool) (mon : ℤ) : Option ℕ :=
  if 0 ≤ mon then (ytab leap)[mon.toNat]? else none

/-- The value a `long` of `w` bits keeps of a result. -/
def long (w : ℕ) (v : ℤ) : ℤ := Int.bmod v (2 ^ w)

/-- The value as an `unsigned long`. -/
def ulong (w : ℕ) (v : ℤ) : ℕ := (v % 2 ^ w).toNat

/-! ### xi_gmtime -/

/-- `while (dayno >= YEARSIZE(year))`. A round takes at least one day off, so `dayno` rounds are
enough. -/
def yearLoop : ℕ → ℕ → ℤ → ℕ × ℤ
  | 0, dayno, year => (dayno, year)
  | k + 1, dayno, year =>
    if yearsize year ≤ dayno then yearLoop k (dayno - yearsize year) (toInt32 (year + 1))
    else (dayno, year)

/-- `while (dayno >= _ytab[..][timep->tm_mon])`. The table ends before the rounds do. -/
def monLoop (leap : Bool) : ℕ → ℕ → ℤ → Option (ℕ × ℤ)
  | 0, _, _ => none
  | k + 1, dayno, mon =>
    match ytabAt leap mon with
    | none => none
    | some len => if len ≤ dayno then monLoop leap k (dayno - len) (mon + 1) else some (dayno, mon)

def xiGmtime (w : ℕ) (timer : ℤ) : Option XiTm :=
  let dayclock := ulong w timer % secsDay
  let dayno := ulong w timer / secsDay
  let (yday, year) := yearLoop dayno dayno epochYr
  match monLoop (leapyear year) 13 yday 0 with
  | none => none
  | some (mday, mon) => some {
      tmSec := (dayclock % 60 : ℕ)
      tmMin := (dayclock % 3600 / 60 : ℕ)
      tmHour := (dayclock / 3600 : ℕ)
      tmWday := ((dayno + 4) % 7 : ℕ)
      tmYear := year - year0
      tmYday := yday
      tmMon := mon
      tmMday := mday + 1 }

/-! ### xi_mktime -/

/-- Carry from a field `lo` of `m` values into the next field, borrowing when the C remainder is
negative. -/
def carry (m hi lo : ℤ) : ℤ × ℤ :=
  let hi := hi + lo.tdiv m
  let lo := lo.tmod m
  if lo < 0 then (hi - 1, lo + m) else (hi, lo)

/-- `while (day < 0)`: a day, a month and the years since 1900. Every round adds at least one
day. -/
def borrowLoop : ℕ → ℤ → ℤ → ℤ → Option (ℤ × ℤ × ℤ)
  | 0, day, mon, year => if day < 0 then none else some (day, mon, year)
  | k + 1, day, mon, year =>
    if day < 0 then
      let (mon, year) := if mon - 1 < 0 then (11, year - 1) else (mon - 1, year)
      match ytabAt (leapyear (year0 + year)) mon with
      | none => none
      | some len => borrowLoop k (day + len) mon year
    else some (day, mon, year)

/-- `while (day >= _ytab[..][timep->tm_mon])`. -/
def dayLoop : ℕ → ℤ → ℤ → ℤ → Option (ℤ × ℤ × ℤ)
  | 0, _, _, _ => none
  | k + 1, day, mon, year =>
    match ytabAt (leapyear (year0 + year)) mon with
    | none => none
    | some len =>
      if len ≤ day then
        if mon + 1 = 12 then dayLoop k (day - len) 0 (year + 1)
        else dayLoop k (day - len) (mon + 1) year
      else some (day, mon, year)

/-- The length of the months in front of a month. -/
def ydayUpto (leap : Bool) : ℕ → Option ℕ
  | 0 => some 0
  | m + 1 =>
    match ydayUpto leap m, ytabAt leap m with
    | some yday, some len => some (yday + len)
    | _, _ => none

/-- `a % m && a % m < b % m` for positive `a` and `b`, as the number C makes of it. -/
def remainderBelow (a b m : ℤ) : ℤ := if a.tmod m ≠ 0 ∧ a.tmod m < b.tmod m then 1 else 0

/-- The days in front of a year and whether a bound on `long` was passed on the way. -/
def daysBefore (w : ℕ) (tmYear : ℤ) : ℤ × Bool :=
  let longMax := 2 ^ (w - 1) - 1
  let years := tmYear - epochYr
  let overflow := decide (longMax.tdiv 365 < years)
  let day := long w (years * 365)
  let overflow := overflow || decide (longMax - day < years.tdiv 4 + 1)
  let day := long w (day + (years.tdiv 4 + remainderBelow tmYear epochYr 4))
  let day := long w (day - (years.tdiv 100 + remainderBelow tmYear epochYr 100))
  (long w (day + (years.tdiv 400 + remainderBelow tmYear epochYr 400)), overflow)

/-- `xi_mktime`: the result, and the structure as the function leaves it. -/
def xiMktime (w : ℕ) (timep : XiTm) : Option (ℤ × XiTm) :=
  let (min, sec) := carry 60 timep.tmMin timep.tmSec
  let (hour, min) := carry 60 timep.tmHour min
  let (day, hour) := carry 24 0 hour
  let (year, mon) := carry 12 timep.tmYear timep.tmMon
  let day := day + (timep.tmMday - 1)
  match borrowLoop day.natAbs day mon year with
  | none => none
  | some (day, mon, year) =>
  match dayLoop (day.natAbs + 1) day mon year with
  | none => none
  | some (day, mon, year) =>
  let timep := { timep with
    tmSec := sec, tmMin := min, tmHour := hour, tmMday := day + 1, tmMon := mon, tmYear := year }
  if year < epochYr - year0 then some (-1, timep)
  else
    let tmYear := year + year0
    let (day, overflow) := daysBefore w tmYear
    match ydayUpto (leapyear tmYear) mon.toNat with
    | none => none
    | some months =>
      let yday := months + (timep.tmMday - 1)
      let overflow := overflow || decide (long w (day + yday) < 0)
      let day := long w (day + yday)
      let timep := { timep with tmYday := yday, tmWday := (day + 4).tmod 7 }
      let seconds := long w ((timep.tmHour * 60 + timep.tmMin) * 60 + timep.tmSec)
      let overflow := overflow || decide (ulong w (2 ^ w - 1 - seconds) / secsDay < ulong w day)
      let seconds := long w (seconds + long w (day * secsDay))
      some (if overflow then -1 else seconds, timep)

end LibXively.XiTime
