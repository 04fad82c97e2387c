import LibXively.Calendar.Instants
import LibXively.Decoding.Stamps

/-!
The texts the timestamp of a datapoint is read off.

The pattern of the decoder takes seven numerals with their separators off the front of a text: each
may have white space and a sign in front of its digits, and fewer digits than its width. What stands
between the last of them and the comma is not looked at, and the fields need not be those of a date.
-/

namespace LibXively.Timestamps

open LibXively.Bytes LibXively.Decimal LibXively.Scanf LibXively.CProc LibXively.Gregorian
open LibXively.XiTime LibXively.Mktime LibXively.Structures LibXively.CsvData LibXively.Values
open LibXively.Datapoints LibXively.Stamps

/-! ### Readings -/

/-- The seven numerals the pattern takes off a text. -/
structure Reading where
  ye : Numeral (some 4)
  mo : Numeral (some 2)
  da : Numeral (some 2)
  h : Numeral (some 2)
  m : Numeral (some 2)
  s : Numeral (some 2)
  ms : Numeral (some 6)

namespace Reading

def text (l : Reading) : Text :=
  l.ye.text ++ 45 :: (l.mo.text ++ 45 :: (l.da.text ++ 84 :: (l.h.text ++ 58 :: (l.m.text ++
    58 :: (l.s.text ++ 46 :: l.ms.text)))))

/-- The text starts with the numerals, and `rest` stands behind them. -/
def Reads (l : Reading) (t rest : Text) : Prop := t = l.text ++ rest ∧ l.ms.Ends rest

/-- The broken-down time of the numbers. -/
def time (l : Reading) : XiTm :=
  scannedTime l.ye.number l.mo.number l.da.number l.h.number l.m.number l.s.number

/-- The instant of the numbers, each carried into the next one. -/
def seconds (l : Reading) : ℤ := instant l.time

end Reading

/-- The numeral has a digit in every place, and nothing else. -/
def Bare {w : ℕ} (N : Numeral (some w)) : Prop :=
  N.space = [] ∧ N.sign = [] ∧ N.digits.length = w

/-- The numerals are those of a date and a time of day, and `Z,` stands behind them. -/
structure Strict (l : Reading) (rest : Text) : Prop where
  bare : Bare l.ye ∧ Bare l.mo ∧ Bare l.da ∧ Bare l.h ∧ Bare l.m ∧ Bare l.s ∧ Bare l.ms
  month : 1 ≤ l.mo.number ∧ l.mo.number ≤ 12
  day : 1 ≤ l.da.number ∧
    l.da.number ≤ monthLength (isLeap l.ye.number) (l.mo.number - 1).toNat
  clock : l.h.number ≤ 23 ∧ l.m.number ≤ 59 ∧ l.s.number ≤ 59
  behind : lit "Z," <+: rest

/-- `xi_mktime` counts the instant, and its count is not taken for an error. -/
def Counted (tg : Target) (l : Reading) : Prop :=
  (0 ≤ l.seconds ∧ l.seconds < 2 ^ tg.longBits) ∧ l.seconds % 2 ^ 32 ≠ 2 ^ 32 - 1

instance (tg : Target) (l : Reading) : Decidable (Counted tg l) :=
  inferInstanceAs (Decidable (_ ∧ _))

/-- There is a comma, and the value behind the first one fits. -/
def ValueFits (t : Text) : Prop :=
  ∃ a v, t = a ++ 44 :: v ∧ 44 ∉ a ∧ (fieldOf v).length < xiValueStringMaxSize

/-- A text whose numerals make an instant that is counted, although they are not those of a date and
a time of day, or a `long` does not hold the instant. -/
def Lax (tg : Target) (t : Text) : Prop :=
  ∃ l rest, Reading.Reads l t rest ∧ Counted tg l ∧ ValueFits rest ∧
    ¬ (Strict l rest ∧ l.seconds < 2 ^ (tg.longBits - 1))

/-- The first field of the text is the text of a moment, with a year of four digits. -/
def Stamped (t : Text) (x : Moment) (micro : ℕ) : Prop :=
  (0 ≤ x.year ∧ x.year ≤ 9999) ∧ micro ≤ 999999 ∧ isoText x micro ++ lit "," <+: t

/-- The decoder stores the instant its text denotes, or rejects the text with an error. -/
def ReadStrictly (tg : Target) (t : Text) : Prop :=
  ∀ e p, ∃ b e' p', csvDecodeDatapoint tg t e p = .ret b e' p' ∧
    (b = true → ∃ x micro, Stamped t x micro ∧ p'.timestamp = ⟨x.seconds, micro⟩) ∧
    (b = false → e' ≠ .noErr)

variable {tg : Target} {t rest : Text} {l : Reading}

/-! ### The scan -/

lemma toInt32_number {w : ℕ} (hw : w ≤ 9) (N : Numeral (some w)) : toInt32 N.number = N.number := by
  obtain ⟨hlow, hhigh⟩ := N.number_bounds
  have hpow : (10 : ℤ) ^ w ≤ 10 ^ 9 := by exact_mod_cast Nat.pow_le_pow_right (by norm_num) hw
  exact toInt32_eq (by omega) (by omega)

lemma ends_of_not_digit {width : Option ℕ} (N : Numeral width) {c : Byte} (hc : isDigit c = false)
    (u : Text) : N.Ends (c :: u) := .inr fun _ hd => by cases hd; exact hc

lemma Reading.Reads.scan_eq (hl : l.Reads t rest) : scan timestampPattern t =
    [.int l.ye.number, .int l.mo.number, .int l.da.number, .int l.h.number, .int l.m.number,
      .int l.s.number, .int l.ms.number] := by
  obtain ⟨rfl, hends⟩ := hl
  have hstep {w : ℕ} (hw : w ≤ 9) (N : Numeral (some w)) {fs : List Directive} {u : Text}
      (hN : N.Ends u) : scan (.int (some w) :: fs) (N.text ++ u) = .int N.number :: scan fs u :=
    scan_int_eq_cons.mpr ⟨N, u, rfl, hN, by rw [toInt32_number hw], rfl⟩
  have hlast : scan [.lit 90] rest = [] := by
    cases rest with
    | nil => rfl
    | cons c u => simp [scan]
  simp only [Reading.text, timestampPattern, List.append_assoc, List.cons_append]
  rw [hstep (by norm_num) _ (ends_of_not_digit _ (by decide) _), scan_lit_cons,
    hstep (by norm_num) _ (ends_of_not_digit _ (by decide) _), scan_lit_cons,
    hstep (by norm_num) _ (ends_of_not_digit _ (by decide) _), scan_lit_cons,
    hstep (by norm_num) _ (ends_of_not_digit _ (by decide) _), scan_lit_cons,
    hstep (by norm_num) _ (ends_of_not_digit _ (by decide) _), scan_lit_cons,
    hstep (by norm_num) _ (ends_of_not_digit _ (by decide) _), scan_lit_cons,
    hstep (by norm_num) _ hends, hlast]

/-- Seven numbers are read off seven numerals. -/
lemma reads_of_scan {ye mo da h m s ms : ℤ} (hscan : scan timestampPattern t =
    [.int ye, .int mo, .int da, .int h, .int m, .int s, .int ms]) : ∃ l rest,
      Reading.Reads l t rest := by
  simp only [timestampPattern, scan_int_eq_cons, scan_lit_eq_cons] at hscan
  obtain ⟨ye, -, rfl, -, -, -, rfl, mo, -, rfl, -, -, -, rfl, da, -, rfl, -, -, -, rfl, h, -, rfl,
    -, -, -, rfl, m, -, rfl, -, -, -, rfl, s, -, rfl, -, -, -, rfl, ms, rest, rfl, hends, -, -⟩ :=
    hscan
  refine ⟨⟨ye, mo, da, h, m, s, ms⟩, rest, ?_, hends⟩
  simp only [Reading.text, List.append_assoc, List.cons_append]

/-! ### The count -/

/-- The year of the carried numbers has at most five digits. -/
lemma year_lt_of_seconds {x : Moment} (hx : x.seconds = l.seconds) : x.year < 20000 := by
  have hye := l.ye.number_bounds
  have hmo := l.mo.number_bounds
  have hda := l.da.number_bounds
  have hh := l.h.number_bounds
  have hm := l.m.number_bounds
  have hs := l.s.number_bounds
  by_contra hge
  have hmono := daysToYear_mono (not_lt.mp hge)
  have hlast : daysToYear 20000 = 6585322 := by decide
  have hcarried : year0 + (l.ye.number - 1900 + (l.mo.number - 1) / 12) ≤ 10010 := by
    simp only [year0]
    omega
  have hcount : daysToYear 10010 = 2936550 := by decide
  rw [Reading.seconds] at hx
  have hfirst := daysToYear_le_of_instant hx hcarried
  simp only [Reading.time, scannedTime] at hfirst
  omega

/-- What `xi_mktime` makes of the numbers. -/
lemma xiMktime_reading (hlong : 32 ≤ tg.longBits) (l : Reading) : ∃ tm,
    xiMktime tg.longBits l.time = some (if 0 ≤ l.seconds ∧ l.seconds < 2 ^ tg.longBits then
      long tg.longBits l.seconds else -1, tm) := by
  obtain ⟨x, hx, hrun⟩ := xiMktime_normal tg.longBits l.time
  have hyear := @year_lt_of_seconds l x hx
  have hnonneg := x.seconds_nonneg_iff
  have hroom : (2 : ℤ) ^ 31 ≤ 2 ^ (tg.longBits - 1) := by
    exact_mod_cast Nat.pow_le_pow_right (by norm_num) (by omega : 31 ≤ tg.longBits - 1)
  rw [hrun, Reading.seconds, ← hx]
  by_cases h1970 : x.year < 1970
  · rw [xiMktime_before _ _ h1970, if_neg fun h => absurd (hnonneg.mp h.1) (by omega)]
    exact ⟨_, rfl⟩
  · rw [xiMktime_moment hlong x (by omega) (by omega)]
    refine ⟨_, congrArg some (Prod.ext ?_ rfl)⟩
    by_cases hwide : 2 ^ tg.longBits ≤ x.seconds
    · rw [if_pos hwide, if_neg fun h => absurd h.2 (not_lt.mpr hwide)]
    · rw [if_neg hwide, if_pos ⟨hnonneg.mpr (by omega), not_le.mp hwide⟩]

lemma toInt32_long {w : ℕ} (hw : 32 ≤ w) (v : ℤ) : toInt32 (long w v) = -1 ↔
    v % 2 ^ 32 = 2 ^ 32 - 1 := by
  have hdvd : (2 ^ 32 : ℤ) ∣ ((2 ^ w : ℕ) : ℤ) := by
    exact_mod_cast pow_dvd_pow 2 hw
  have hmod : long w v % 2 ^ 32 = v % 2 ^ 32 := by
    rw [long, ← Int.emod_emod_of_dvd _ hdvd, Int.bmod_emod, Int.emod_emod_of_dvd _ hdvd]
  rw [toInt32_eq_neg_one, hmod]

/-- A timestamp is read exactly if there are numerals whose instant is counted. -/
lemma readStamp_eq_ok (hlong : 32 ≤ tg.longBits) {stamp : XiTimestamp} :
    readStamp tg t = .ok stamp ↔ ∃ l rest, Reading.Reads l t rest ∧ Counted tg l ∧
      stamp = ⟨long tg.longBits l.seconds, l.ms.number⟩ := by
  have hread {l : Reading} {rest : Text} (hl : l.Reads t rest) : readStamp tg t =
      if Counted tg l then .ok ⟨long tg.longBits l.seconds, l.ms.number⟩
      else .error .csvTimeConvertionError := by
    obtain ⟨tm, hrun⟩ := xiMktime_reading hlong l
    rw [readStamp, hl.scan_eq]
    simp only [show scannedTime l.ye.number l.mo.number l.da.number l.h.number l.m.number
      l.s.number = l.time from rfl, hrun]
    by_cases hcount : 0 ≤ l.seconds ∧ l.seconds < 2 ^ tg.longBits
    · have hlow := toInt32_long hlong l.seconds
      simp only [if_pos hcount]
      by_cases hset : l.seconds % 2 ^ 32 = 2 ^ 32 - 1
      · rw [if_pos (hlow.mpr hset), if_neg fun hc => hc.2 hset]
      · rw [if_neg fun hc => hset (hlow.mp hc), if_pos ⟨hcount, hset⟩]
    · simp only [if_neg hcount]
      rw [if_pos (by decide : toInt32 (-1) = -1), if_neg fun hc => hcount hc.1]
  constructor
  · intro hstamp
    obtain ⟨l, rest, hl⟩ : ∃ l rest, Reading.Reads l t rest := by
      unfold readStamp at hstamp
      split at hstamp
      · next hscan => exact reads_of_scan hscan
      · cases hstamp
    rw [hread hl] at hstamp
    split at hstamp
    · next hcounted => exact ⟨l, rest, hl, hcounted, (Except.ok.inj hstamp).symm⟩
    · cases hstamp
  · rintro ⟨l, rest, hl, hcounted, rfl⟩
    rw [hread hl, if_pos hcounted]

/-! ### Strict readings -/

lemma text_of_bare {w : ℕ} {N : Numeral (some w)} (hw : 0 < w) (h : Bare N) :
    ∃ n : ℕ, n < 10 ^ w ∧ N.number = n ∧ N.text = pad w n := by
  obtain ⟨hspace, hsign, hlen⟩ := h
  refine ⟨value N.digits, ?_, ?_, ?_⟩
  · have hlt := value_lt N.digits_eq
    rwa [hlen] at hlt
  · rw [Numeral.number, hsign, signed, if_neg (by decide)]
  · rw [Numeral.text, hspace, hsign, pad_value hw N.digits_eq hlen]
    rfl

/-- A numeral at the front of digits that fill its width is these digits. -/
lemma bare_of_pad {w n : ℕ} {N : Numeral (some w)} {u v : Text} (hw : 0 < w) (hn : n < 10 ^ w)
    (hends : N.Ends u) (hv : ∀ c ∈ v.head?, isDigit c = false) (h : N.text ++ u = pad w n ++ v) :
    Bare N ∧ N.number = n ∧ u = v := by
  obtain ⟨d, ds, hds⟩ := List.exists_cons_of_ne_nil (pad_ne_nil w n)
  have hdigit : isDigit d = true :=
    isDigit_of_mem_pad (w := w) (n := n) (by rw [hds]; exact List.mem_cons_self ..)
  have hspace : N.space = [] := by
    cases hs : N.space with
    | nil => rfl
    | cons c sp =>
      rw [Numeral.text, hs, hds] at h
      have hc := N.space_eq c (by rw [hs]; exact List.mem_cons_self ..)
      rw [(List.cons.inj h).1, isSpace_of_isDigit hdigit] at hc
      exact absurd hc Bool.false_ne_true
  have hsign : N.sign = [] := by
    rw [Numeral.text, hspace, hds] at h
    rcases N.sign_eq with hs | hs | hs
    · exact hs
    · rw [hs] at h
      rw [← (List.cons.inj h).1] at hdigit
      exact absurd hdigit (by decide)
    · rw [hs] at h
      rw [← (List.cons.inj h).1] at hdigit
      exact absurd hdigit (by decide)
  have hlen : (pad w n).length = w := length_pad hw hn
  rw [Numeral.text, hspace, hsign, List.nil_append, List.nil_append] at h
  have hdigits : N.digits = pad w n := by
    rcases hends with hfull | hstop
    · have hfull' : N.digits.length = w := by simpa [hsign] using hfull.symm
      exact (List.append_inj h (by rw [hlen, hfull'])).1
    · rw [← takeWhile_digits N.digits_eq hstop, h,
        takeWhile_digits (fun _ => isDigit_of_mem_pad) hv]
  refine ⟨⟨hspace, hsign, by rw [hdigits, hlen]⟩, ?_, ?_⟩
  · rw [Numeral.number, hsign, hdigits, signed, if_neg (by decide), value_pad]
  · rw [hdigits] at h
    exact List.append_cancel_left h

/-- The numbers of a moment make its instant. -/
lemma seconds_eq {x : Moment} (hye : l.ye.number = x.year) (hmo : l.mo.number = x.month + 1)
    (hda : l.da.number = x.day + 1) (hh : l.h.number = (x.second / 3600 : ℕ))
    (hm : l.m.number = (x.second % 3600 / 60 : ℕ)) (hs : l.s.number = (x.second % 60 : ℕ)) :
    l.seconds = x.seconds := by
  have hmonth := x.month_lt
  have hyear : year0 + (x.year - 1900 + ((x.month : ℤ) + 1 - 1) / 12) = x.year := by
    simp only [year0]
    omega
  have hmon : (((x.month : ℤ) + 1 - 1) % 12).toNat = x.month := by omega
  simp only [Reading.seconds, Reading.time, scannedTime, instant, hye, hmo, hda, hh, hm, hs, hyear,
    hmon, Moment.seconds, Moment.dayCount, dayNumber]
  push_cast
  omega

/-- A strict reading is one of the text of a moment. -/
lemma stamped_of_strict (hl : l.Reads t rest) (h : Strict l rest) : ∃ x micro,
    Stamped t x micro ∧ x.seconds = l.seconds ∧ (micro : ℤ) = l.ms.number := by
  obtain ⟨⟨hye, hmo, hda, hh, hm, hs, hms⟩, hmonth, hday, hclock, r, hr⟩ := h
  obtain ⟨ye, hye, hyen, hyet⟩ := text_of_bare (by norm_num) hye
  obtain ⟨mo, hmo, hmon, hmot⟩ := text_of_bare (by norm_num) hmo
  obtain ⟨da, hda, hdan, hdat⟩ := text_of_bare (by norm_num) hda
  obtain ⟨hour, hh, hhn, hht⟩ := text_of_bare (by norm_num) hh
  obtain ⟨m, hm, hmn, hmt⟩ := text_of_bare (by norm_num) hm
  obtain ⟨s, hs, hsn, hst⟩ := text_of_bare (by norm_num) hs
  obtain ⟨ms, hms, hmsn, hmst⟩ := text_of_bare (by norm_num) hms
  rw [hmon] at hmonth hday
  rw [hdan, hyen] at hday
  rw [hhn, hmn, hsn] at hclock
  have hmonthNat : ((mo : ℤ) - 1).toNat = mo - 1 := by omega
  rw [hmonthNat] at hday
  have hfields : (3600 * hour + 60 * m + s) / 3600 = hour ∧
      (3600 * hour + 60 * m + s) % 3600 / 60 = m ∧ (3600 * hour + 60 * m + s) % 60 = s := by omega
  obtain ⟨hhour, hmin, hsec⟩ := hfields
  have hback : mo - 1 + 1 = mo ∧ da - 1 + 1 = da := by omega
  refine ⟨⟨ye, mo - 1, da - 1, 3600 * hour + 60 * m + s, by omega, by omega, by omega⟩, ms,
    ⟨⟨by simp, by simp; omega⟩, by omega, ?_⟩, ?_, hmsn.symm⟩
  · rw [hl.1]
    refine ⟨r, ?_⟩
    rw [← hr]
    simp only [isoText, isoTail_eq, hhour, hmin, hsec, hback, fmtD0_natCast, Reading.text, hyet,
      hmot, hdat, hht, hmt, hst, hmst, List.append_assoc, List.cons_append, List.nil_append]
    rfl
  · refine (seconds_eq hyen ?_ ?_ ?_ ?_ ?_).symm
    · rw [hmon]; push_cast; omega
    · rw [hdan]; push_cast; omega
    · rw [hhn, hhour]
    · rw [hmn, hmin]
    · rw [hsn, hsec]

/-- What is read off the text of a moment is strict. -/
lemma strict_of_stamped {x : Moment} {micro : ℕ} (hl : l.Reads t rest) (h : Stamped t x micro) :
    Strict l rest ∧ x.seconds = l.seconds ∧ (micro : ℤ) = l.ms.number := by
  obtain ⟨⟨hy1, hy2⟩, hmicro, r, hr⟩ := h
  obtain ⟨htext, hends⟩ := hl
  have hmonth := x.month_lt
  have hday := x.day_lt
  have hday31 := day_lt_31 x
  have hsecond := x.second_lt
  obtain ⟨year, hyear⟩ := Int.eq_ofNat_of_zero_le hy1
  rw [htext] at hr
  simp only [isoText, isoTail_eq, hyear, fmtD0_natCast, Reading.text, List.append_assoc,
    List.cons_append, List.nil_append] at hr
  have hstop (c : Byte) (hc : isDigit c = false) (u : Text) :
      ∀ d ∈ (c :: u).head?, isDigit d = false := fun d hd => by cases hd; exact hc
  obtain ⟨hye, hyen, hr⟩ := bare_of_pad (by norm_num) (by norm_num; omega)
    (ends_of_not_digit _ (by decide) _) (hstop 45 (by decide) _) hr.symm
  obtain ⟨hmo, hmon, hr⟩ := bare_of_pad (by norm_num) (by norm_num; omega)
    (ends_of_not_digit _ (by decide) _) (hstop 45 (by decide) _) (List.cons.inj hr).2
  obtain ⟨hda, hdan, hr⟩ := bare_of_pad (by norm_num) (by norm_num; omega)
    (ends_of_not_digit _ (by decide) _) (hstop 84 (by decide) _) (List.cons.inj hr).2
  obtain ⟨hh, hhn, hr⟩ := bare_of_pad (by norm_num) (by norm_num; omega)
    (ends_of_not_digit _ (by decide) _) (hstop 58 (by decide) _) (List.cons.inj hr).2
  obtain ⟨hm, hmn, hr⟩ := bare_of_pad (by norm_num) (by norm_num; omega)
    (ends_of_not_digit _ (by decide) _) (hstop 58 (by decide) _) (List.cons.inj hr).2
  obtain ⟨hs, hsn, hr⟩ := bare_of_pad (by norm_num) (by norm_num; omega)
    (ends_of_not_digit _ (by decide) _) (hstop 46 (by decide) _) (List.cons.inj hr).2
  obtain ⟨hms, hmsn, hr⟩ := bare_of_pad (by norm_num) (by norm_num; omega) hends
    (hstop 90 (by decide) _) (List.cons.inj hr).2
  have hpred : ((x.month + 1 : ℕ) - 1 : ℤ).toNat = x.month := by omega
  refine ⟨⟨⟨hye, hmo, hda, hh, hm, hs, hms⟩, ?_, ?_, ?_, ?_⟩, ?_, hmsn.symm⟩
  · rw [hmon]
    omega
  · rw [hdan, hyen, ← hyear, hmon, hpred]
    omega
  · rw [hhn, hmn, hsn]
    omega
  · rw [hr]
    exact ⟨r, rfl⟩
  · exact (seconds_eq (hyen.trans hyear.symm) (by rw [hmon]; push_cast; rfl)
      (by rw [hdan]; push_cast; rfl) hhn hmn hsn).symm

/-! ### Decoding -/

lemma comma_not_mem_text {width : Option ℕ} (N : Numeral width) : 44 ∉ N.text := by
  have hsign : 44 ∉ N.sign := by
    rcases N.sign_eq with hs | hs | hs <;> rw [hs] <;> decide
  simp only [Numeral.text, List.mem_append, not_or]
  exact ⟨fun h => absurd (N.space_eq _ h) (by decide), hsign,
    fun h => absurd (N.digits_eq _ h) (by decide)⟩

/-- The first comma of a text is behind its numerals. -/
lemma valueFits_iff (hl : l.Reads t rest) : ValueFits rest ↔ ∃ i,
    strstr (lit ",") t = some i ∧ (fieldOf (t.drop (i + 1))).length < xiValueStringMaxSize := by
  have htext : 44 ∉ l.text := by
    simp [Reading.text, comma_not_mem_text]
  have hfirst {a v : Text} (ha : 44 ∉ a) (hrest : rest = a ++ 44 :: v) :
      strstr (lit ",") t = some (l.text ++ a).length ∧ t.drop ((l.text ++ a).length + 1) = v := by
    have hmem : 44 ∉ l.text ++ a := by simp [htext, ha]
    rw [hl.1, hrest, ← List.append_assoc]
    refine ⟨strstr_singleton_append hmem v, ?_⟩
    rw [← List.drop_drop, List.drop_left]
    rfl
  constructor
  · rintro ⟨a, v, hrest, ha, hv⟩
    obtain ⟨hi, hdrop⟩ := hfirst ha hrest
    exact ⟨_, hi, by rwa [hdrop]⟩
  · rintro ⟨i, hi, hv⟩
    have hmem : 44 ∈ t := by
      rw [(strstr_singleton (c := 44) hi).1]
      simp
    rw [hl.1, List.mem_append] at hmem
    obtain ⟨a, v, hrest, ha⟩ := List.eq_append_cons_of_mem (hmem.resolve_left htext)
    obtain ⟨hi', hdrop⟩ := hfirst ha hrest
    obtain rfl := Option.some.inj (hi'.symm.trans hi)
    exact ⟨a, v, hrest, ha, by rwa [hdrop] at hv⟩

/-- A text with numerals that are counted and a value that fits is accepted, with what a `long`
keeps of their instant. -/
lemma csvDecodeDatapoint_reading (hlong : 32 ≤ tg.longBits) (hl : l.Reads t rest)
    (hcounted : Counted tg l) (hfits : ValueFits rest) (e : XiErr) (p : XiDatapoint) :
    ∃ p', csvDecodeDatapoint tg t e p = .ret true e p' ∧
      p'.timestamp = ⟨long tg.longBits l.seconds, l.ms.number⟩ := by
  obtain ⟨i, hi, hv⟩ := (valueFits_iff hl).mp hfits
  have hs := (readStamp_eq_ok hlong).mpr ⟨l, rest, hl, hcounted, rfl⟩
  obtain ⟨v, u, -, hrun⟩ := csvDecodeDatapoint_fits hi hs hv e p
  exact ⟨_, hrun, tagged_timestamp ..⟩

/-- A text that is accepted has numerals that are counted, and a value that fits. -/
lemma reads_of_accepts (hlong : 32 ≤ tg.longBits) (h : AcceptsPoint tg t) :
    ∃ l rest, Reading.Reads l t rest ∧ Counted tg l ∧ ValueFits rest := by
  obtain ⟨i, stamp, hi, hs, hv⟩ := h
  obtain ⟨l, rest, hl, hcounted, -⟩ := (readStamp_eq_ok hlong).mp hs
  exact ⟨l, rest, hl, hcounted, (valueFits_iff hl).mpr ⟨i, hi, hv⟩⟩

/-- A lax text is accepted, and what is stored is not what a strict text would denote. -/
lemma not_readStrictly (hlong : 32 ≤ tg.longBits) (h : Lax tg t) : ¬ ReadStrictly tg t := by
  obtain ⟨l, rest, hl, hcounted, hfits, hno⟩ := h
  intro hstrict
  obtain ⟨b, e', p', hrun, htrue, -⟩ := hstrict .noErr .zero
  obtain ⟨p'', hrun', hstamp⟩ := csvDecodeDatapoint_reading hlong hl hcounted hfits .noErr .zero
  rw [hrun] at hrun'
  cases hrun'
  obtain ⟨x, micro, hstamped, htime⟩ := htrue rfl
  obtain ⟨hl', hsecs, -⟩ := strict_of_stamped hl hstamped
  refine hno ⟨hl', ?_⟩
  -- what is stored is a `long`
  have hlt := long_lt (by omega : 0 < tg.longBits) l.seconds
  rw [hstamp] at htime
  rw [← hsecs, ← (XiTimestamp.mk.inj htime).1]
  exact hlt

/-- A text of the documented form whose instant is a `long` is not lax. -/
lemma not_lax_of_stamped {x : Moment} {micro : ℕ} (h : Stamped t x micro)
    (hlt : x.seconds < 2 ^ (tg.longBits - 1)) : ¬ Lax tg t := by
  rintro ⟨l, rest, hl, -, -, hno⟩
  obtain ⟨hl', hsecs, -⟩ := strict_of_stamped hl h
  exact hno ⟨hl', hsecs ▸ hlt⟩

/-- **Strict timestamps**: the decoder stores the instants of timestamps of the documented form, and
rejects every other text with an error, exactly if the text is not lax. -/
theorem readStrictly_iff (tg : Target) (hlong : 32 ≤ tg.longBits) (t : Text) :
    ReadStrictly tg t ↔ ¬ Lax tg t := by
  refine ⟨fun hstrict hlax => not_readStrictly hlong hlax hstrict, fun hlax e p => ?_⟩
  by_cases haccepts : AcceptsPoint tg t
  · obtain ⟨l, rest, hl, hcounted, hfits⟩ := reads_of_accepts hlong haccepts
    obtain ⟨hl', hlt⟩ : Strict l rest ∧ l.seconds < 2 ^ (tg.longBits - 1) := by
      by_contra hno
      exact hlax ⟨l, rest, hl, hcounted, hfits, hno⟩
    obtain ⟨p', hrun, hstamp⟩ := csvDecodeDatapoint_reading hlong hl hcounted hfits e p
    obtain ⟨x, micro, hstamped, hsecs, hmicro⟩ := stamped_of_strict hl hl'
    have hpos : (0 : ℤ) < 2 ^ (tg.longBits - 1) := by positivity
    refine ⟨true, e, p', hrun, fun _ => ⟨x, micro, hstamped, ?_⟩,
      fun hb => absurd hb.symm Bool.false_ne_true⟩
    rw [hstamp, hsecs, hmicro, long_eq (by omega) (by have := hcounted.1.1; omega) hlt]
  · obtain ⟨y, p', hy, hrun⟩ := csvDecodeDatapoint_rejects haccepts e p
    exact ⟨false, y, p', hrun, fun hb => absurd hb Bool.false_ne_true, fun _ => hy⟩

theorem readStrictly_newYear :
    ReadStrictly posixConfig (lit "2014-01-01T00:00:00.000005Z,1") := by
  have hstamped : Stamped (lit "2014-01-01T00:00:00.000005Z,1") Instants.newYear2014 5 :=
    ⟨⟨by decide, by decide⟩, by decide, by decide +kernel⟩
  exact (readStrictly_iff posixConfig (by decide) _).mpr (not_lax_of_stamped hstamped (by decide))

/-- A numeral with a digit in every place. -/
def bareNumeral (w n : ℕ) (hw : 0 < w) (hn : n < 10 ^ w) : Numeral (some w) :=
  ⟨[], [], pad w n, by simp, .inl rfl, fun _ => isDigit_of_mem_pad, pad_ne_nil w n,
    by simp [length_pad hw hn]⟩

/-- The numerals of a day, at midnight. -/
def dayReading (mo da : ℕ) (hmo : mo < 10 ^ 2) (hda : da < 10 ^ 2) : Reading where
  ye := bareNumeral 4 2014 (by decide) (by decide)
  mo := bareNumeral 2 mo (by decide) hmo
  da := bareNumeral 2 da (by decide) hda
  h := bareNumeral 2 0 (by decide) (by decide)
  m := bareNumeral 2 0 (by decide) (by decide)
  s := bareNumeral 2 0 (by decide) (by decide)
  ms := bareNumeral 6 0 (by decide) (by decide)

/-- The last of February 2014 plus three days, and a timestamp without its `Z`. -/
theorem not_readStrictly_2014 :
    ¬ ReadStrictly posixConfig (lit "2014-02-31T00:00:00.000000Z,1") ∧
    ¬ ReadStrictly posixConfig (lit "2014-01-01T00:00:00.000000,1") := by
  constructor
  · refine not_readStrictly (by decide) ⟨dayReading 2 31 (by decide) (by decide), lit "Z,1",
      ⟨by decide +kernel, .inl (by decide +kernel)⟩, by decide +kernel,
      ⟨lit "Z", lit "1", by decide, by decide, by decide⟩, fun h => ?_⟩
    exact absurd h.1.day.2 (by decide +kernel)
  · refine not_readStrictly (by decide) ⟨dayReading 1 1 (by decide) (by decide), lit ",1",
      ⟨by decide +kernel, .inl (by decide +kernel)⟩, by decide +kernel,
      ⟨[], lit "1", by decide, by decide, by decide⟩, fun h => ?_⟩
    exact absurd h.1.behind (by decide +kernel)

end LibXively.Timestamps
