import LibXively.Decoding.Datapoints

/-!
The text of a moment, `YYYY-MM-DDThh:mm:ss.ffffffZ`.

It is what the format string of the encoder prints for the fields of the moment, and what the
pattern of the decoder takes apart into these fields.
-/

namespace LibXively.Stamps

open LibXively.Bytes LibXively.Decimal LibXively.Scanf LibXively.Gregorian LibXively.XiTime
open LibXively.Mktime LibXively.Structures LibXively.CsvData LibXively.Datapoints

/-- What stands behind the year. -/
def isoTail (x : Moment) (micro : ℕ) : Text :=
  lit "-" ++ pad 2 (x.month + 1) ++ lit "-" ++ pad 2 (x.day + 1) ++ lit "T" ++
    pad 2 (x.second / 3600) ++ lit ":" ++ pad 2 (x.second % 3600 / 60) ++ lit ":" ++
    pad 2 (x.second % 60) ++ lit "." ++ pad 6 micro ++ lit "Z"

/-- The text of a moment and its microseconds. -/
def isoText (x : Moment) (micro : ℕ) : Text := fmtD0 4 x.year ++ isoTail x micro

variable {x y : Moment} {micro nano : ℕ} {tg : Target}

/-- The encoder prints the text of the moment whose fields it is given. -/
lemma timestampText_fields (x : Moment) (wday yday : ℤ) (micro : ℕ) :
    timestampText (fields x.year x.month x.day x.second wday yday) micro = isoText x micro := by
  have hyear : x.year - year0 + 1900 = x.year := by simp
  have hmonth : (x.month : ℤ) + 1 = (x.month + 1 : ℕ) := by push_cast; rfl
  have hday : (x.day : ℤ) + 1 = (x.day + 1 : ℕ) := by push_cast; rfl
  simp only [timestampText, fields, hyear, hmonth, hday, fmtD0_natCast, isoText, isoTail,
    List.append_assoc]

lemma isoTail_eq (x : Moment) (micro : ℕ) : isoTail x micro =
    45 :: (pad 2 (x.month + 1) ++ 45 :: (pad 2 (x.day + 1) ++ 84 :: (pad 2 (x.second / 3600) ++
      58 :: (pad 2 (x.second % 3600 / 60) ++ 58 :: (pad 2 (x.second % 60) ++
        46 :: (pad 6 micro ++ [90])))))) := by
  have hlit : lit "-" = [45] ∧ lit "T" = [84] ∧ lit ":" = [58] ∧ lit "." = [46] ∧
      lit "Z" = [90] := by decide
  obtain ⟨hminus, hT, hcolon, hdot, hZ⟩ := hlit
  simp only [isoTail, hminus, hT, hcolon, hdot, hZ, List.append_assoc, List.cons_append,
    List.nil_append]

lemma day_lt_31 (x : Moment) : x.day < 31 := by
  have hlength := monthLength_pos (isLeap x.year) x.month_lt
  have hday := x.day_lt
  omega

lemma length_isoTail (hmicro : micro ≤ 999999) : (isoTail x micro).length = 23 := by
  have hmonth := x.month_lt
  have hday := day_lt_31 x
  have hsecond := x.second_lt
  have hlen {n : ℕ} (h : n < 100) : (pad 2 n).length = 2 := length_pad (by norm_num) (by omega)
  simp only [isoTail_eq, List.length_cons, List.length_append, List.length_nil]
  rw [hlen (by omega), hlen (by omega), hlen (by omega), hlen (by omega), hlen (by omega),
    length_pad (by norm_num) (by norm_num; omega)]

lemma length_fmtD0_year (h1 : 0 ≤ x.year) (h2 : x.year ≤ 9999) : (fmtD0 4 x.year).length = 4 := by
  obtain ⟨n, hn⟩ := Int.eq_ofNat_of_zero_le h1
  rw [hn, fmtD0_natCast, length_pad (by norm_num) (by norm_num; omega)]

lemma length_isoText (h1 : 0 ≤ x.year) (h2 : x.year ≤ 9999) (hmicro : micro ≤ 999999) :
    (isoText x micro).length = 27 := by
  rw [isoText, List.length_append, length_fmtD0_year h1 h2, length_isoTail hmicro]

/-- Only digits and the five marks of the format occur in the text of a moment. -/
lemma of_mem_isoText {c : Byte} (h : c ∈ isoText x micro) :
    isDigit c = true ∨ c ∈ lit "-T:.Z" := by
  have hpad {w n : ℕ} (hc : c ∈ pad w n) : isDigit c = true := isDigit_of_mem_pad hc
  rw [isoText, isoTail_eq] at h
  simp only [List.mem_append, List.mem_cons, List.not_mem_nil, or_false] at h
  have hmarks : lit "-T:.Z" = [45, 84, 58, 46, 90] := by decide
  rw [hmarks]
  rcases h with h | rfl | h | rfl | h | rfl | h | rfl | h | rfl | h | rfl | h | rfl
  · exact (of_mem_fmtD0 h).imp_right fun h45 => by simp [h45]
  all_goals first | exact .inl (hpad h) | exact .inr (by decide)

/-- The last second of the year 9999. -/
lemma year_le_9999 (h : x.seconds ≤ 253402300799) : x.year ≤ 9999 := by
  by_contra hgt
  have hmono := daysToYear_mono (y := 10000) (z := x.year) (by omega)
  have h10000 : daysToYear 10000 = 2932897 := by decide
  have hbounds := x.dayCount_bounds
  have hdiv := x.seconds_div
  omega

lemma isoTail_injective {x y : Moment} (h : isoTail x micro = isoTail y micro) :
    x.month = y.month ∧ x.day = y.day ∧ x.second = y.second := by
  have hxmonth := x.month_lt
  have hymonth := y.month_lt
  have hxday := day_lt_31 x
  have hyday := day_lt_31 y
  have hxsecond := x.second_lt
  have hysecond := y.second_lt
  rw [isoTail_eq, isoTail_eq] at h
  obtain ⟨hmonth, h⟩ := pad_append_inj (by norm_num) (by norm_num; omega) (by norm_num; omega)
    (List.cons.inj h).2
  obtain ⟨hday, h⟩ := pad_append_inj (by norm_num) (by norm_num; omega) (by norm_num; omega)
    (List.cons.inj h).2
  obtain ⟨hhour, h⟩ := pad_append_inj (by norm_num) (by norm_num; omega) (by norm_num; omega)
    (List.cons.inj h).2
  obtain ⟨hmin, h⟩ := pad_append_inj (by norm_num) (by norm_num; omega) (by norm_num; omega)
    (List.cons.inj h).2
  obtain ⟨hsec, -⟩ := pad_append_inj (by norm_num) (by norm_num; omega) (by norm_num; omega)
    (List.cons.inj h).2
  omega

/-- The text in front of a comma tells the moment. -/
lemma isoText_injective {x y : Moment} {t u : Text} (hmicro : micro ≤ 999999)
    (h : isoText x micro ++ 44 :: t = isoText y micro ++ 44 :: u) : x = y := by
  have hcomma (z : Moment) (r : Text) :
      (isoText z micro ++ 44 :: r).takeWhile (· ≠ 44) = isoText z micro := by
    rw [takeWhile_append_stop (by simp), List.takeWhile_eq_self_iff]
    intro c hc
    have hne : c ≠ 44 := by
      rintro rfl
      exact absurd (of_mem_isoText hc) (by decide)
    simpa using hne
  have htext : isoText x micro = isoText y micro := by rw [← hcomma x t, h, hcomma]
  obtain ⟨hyear, htail⟩ := List.append_inj' htext
    (by rw [length_isoTail hmicro, length_isoTail hmicro])
  obtain ⟨hmonth, hday, hsecond⟩ := isoTail_injective htail
  exact Moment.ext (fmtD0_injective hyear) hmonth hday hsecond

/-! ### Reading -/

/-- The pattern takes the fields apart. -/
lemma scan_isoText (h1 : 0 ≤ x.year) (h2 : x.year ≤ 9999) (hmicro : micro ≤ 999999) (rest : Text) :
    scan timestampPattern (isoText x micro ++ rest) =
      [.int x.year, .int ((x.month : ℤ) + 1), .int ((x.day : ℤ) + 1), .int (x.second / 3600 : ℕ),
        .int (x.second % 3600 / 60 : ℕ), .int (x.second % 60 : ℕ), .int micro] := by
  have hmonth := x.month_lt
  have hday := day_lt_31 x
  have hsecond := x.second_lt
  obtain ⟨n, hn⟩ := Int.eq_ofNat_of_zero_le h1
  have hpad {w k : ℕ} {r : Text} {fs : List Directive} (hw : 0 < w) (hk : k < 10 ^ w)
      (h31 : (k : ℤ) < 2 ^ 31) :
      scan (.int (some w) :: fs) (pad w k ++ r) = .int k :: scan fs r := by
    rw [scan_int_pad hw hk, toInt32_eq (by omega) h31]
  rw [isoText, isoTail_eq, hn, fmtD0_natCast]
  simp only [List.append_assoc, List.cons_append, List.nil_append, timestampPattern]
  rw [hpad (by norm_num) (by norm_num; omega) (by omega), scan_lit_cons,
    hpad (by norm_num) (by norm_num; omega) (by omega), scan_lit_cons,
    hpad (by norm_num) (by norm_num; omega) (by omega), scan_lit_cons,
    hpad (by norm_num) (by norm_num; omega) (by omega), scan_lit_cons,
    hpad (by norm_num) (by norm_num; omega) (by omega), scan_lit_cons,
    hpad (by norm_num) (by norm_num; omega) (by omega), scan_lit_cons,
    hpad (by norm_num) (by norm_num; omega) (by omega), scan_lit_cons, scan_nil]
  push_cast
  rfl

lemma toInt32_eq_neg_one {t : ℤ} : toInt32 t = -1 ↔ t % 2 ^ 32 = 2 ^ 32 - 1 := by
  simp only [toInt32, Int.bmod]
  split <;> omega

/-- The text of a moment that a `long` can count is counted back, unless the low 32 bits of the
count are all set. -/
lemma readStamp_isoText (hlong : 32 ≤ tg.longBits) (h1 : 1970 ≤ x.year) (h2 : x.year ≤ 9999)
    (hcount : x.seconds < 2 ^ (tg.longBits - 1)) (hmicro : micro ≤ 999999) (rest : Text) :
    readStamp tg (isoText x micro ++ rest) =
      if x.seconds % 2 ^ 32 = 2 ^ 32 - 1 then .error .csvTimeConvertionError
      else .ok ⟨x.seconds, micro⟩ := by
  have hnonneg := (x.seconds_nonneg_iff).mpr h1
  have hpow : (2 : ℤ) ^ tg.longBits = 2 * 2 ^ (tg.longBits - 1) := by
    rw [← pow_succ', Nat.sub_add_cancel (by omega)]
  have hroom : (2 : ℤ) ^ 31 ≤ 2 ^ (tg.longBits - 1) := by
    exact_mod_cast Nat.pow_le_pow_right (by norm_num) (by omega : 31 ≤ tg.longBits - 1)
  have hback : scannedTime x.year ((x.month : ℤ) + 1) ((x.day : ℤ) + 1) (x.second / 3600 : ℕ)
      (x.second % 3600 / 60 : ℕ) (x.second % 60 : ℕ) =
      fields x.year x.month x.day x.second 0 0 := by simp [scannedTime, fields]
  have hmktime := @xiMktime_moment tg.longBits hlong x h1 (by omega) 0 0
  rw [if_neg (by omega), long_eq (by omega) (by omega) hcount] at hmktime
  rw [readStamp, scan_isoText (by omega) h2 hmicro]
  simp only [hback, hmktime, toInt32_eq_neg_one]

end LibXively.Stamps
