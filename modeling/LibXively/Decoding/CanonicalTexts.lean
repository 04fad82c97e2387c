import LibXively.Decoding.RoundTrip
import LibXively.Decoding.TaggedValues
import LibXively.Decoding.Timestamps
import LibXively.Decoding.Typing

/-!
The text the encoder makes of what the decoder has read.

The decoder reads many texts as one datapoint: numerals may be short, signed and behind white space,
and the fields need not be those of a date. The encoder writes one of them, and which it is tells
the datapoint.
-/

namespace LibXively.CanonicalTexts

open LibXively.Bytes LibXively.Decimal LibXively.Scanf LibXively.CProc LibXively.CharArray
open LibXively.Gregorian LibXively.XiTime LibXively.Mktime LibXively.Structures LibXively.CsvData
open LibXively.Xively LibXively.Append LibXively.CsvText LibXively.Values LibXively.Numbers
open LibXively.Typing LibXively.Datapoints LibXively.Stamps LibXively.Timestamps
open LibXively.RoundTrip LibXively.TaggedValues

/-! ### Printed numerals -/

/-- A number that is printed in all of its places, the sign being one of them. -/
lemma exists_numeral {w : ℕ} (hw : 1 < w) {v : ℤ} (hlow : -10 ^ (w - 1) < v) (hhigh : v < 10 ^ w) :
    ∃ N : Numeral (some w), N.text = fmtD0 w v ∧ N.number = v ∧ (fmtD0 w v).length = w ∧
      ∀ rest, N.Ends rest := by
  by_cases hv : v < 0
  · obtain ⟨n, hn⟩ := Int.eq_ofNat_of_zero_le (by omega : 0 ≤ -v)
    obtain rfl : v = -n := by omega
    have hlt : n < 10 ^ (w - 1) := by
      have hcast : (n : ℤ) < 10 ^ (w - 1) := by omega
      exact_mod_cast hcast
    have hlen : ([45] ++ pad (w - 1) n).length = w := by
      rw [List.length_append, length_pad (by omega) hlt, List.length_singleton]
      omega
    have htext : fmtD0 w (-n) = [45] ++ pad (w - 1) n := by
      rw [fmtD0, if_pos hv, Int.natAbs_neg, Int.natAbs_natCast]
      rfl
    refine ⟨⟨[], [45], pad (w - 1) n, by simp, .inr (.inr rfl), fun _ => isDigit_of_mem_pad,
      pad_ne_nil _ _, fun _ h => by cases h; exact hlen.le⟩, htext.symm, ?_, by rw [htext, hlen],
      fun rest => .inl (congrArg some hlen.symm)⟩
    simp [Numeral.number, signed, value_pad]
  · obtain ⟨n, rfl⟩ := Int.eq_ofNat_of_zero_le (not_lt.mp hv)
    have hlt : n < 10 ^ w := by exact_mod_cast hhigh
    have hlen : ([] ++ pad w n).length = w := length_pad (by omega) hlt
    have htext : fmtD0 w n = [] ++ pad w n := fmtD0_natCast w n
    refine ⟨⟨[], [], pad w n, by simp, .inl rfl, fun _ => isDigit_of_mem_pad, pad_ne_nil _ _,
      fun _ h => by cases h; exact hlen.le⟩, htext.symm, ?_, by rw [htext, hlen],
      fun rest => .inl (congrArg some hlen.symm)⟩
    simp [Numeral.number, signed, value_pad]

section Stamps

variable {x : Moment} {micro : ℤ}

/-- The timestamp of a moment up to the year 9999 is a reading of it. -/
lemma exists_reading (h1 : 0 ≤ x.year) (h2 : x.year ≤ 9999)
    (hmicro : -10 ^ 5 < micro ∧ micro < 10 ^ 6) (rest : Text) :
    (timestampText (brokenDown x) micro).length = 27 ∧ ∃ l : Reading,
      l.Reads (timestampText (brokenDown x) micro ++ rest) (90 :: rest) ∧
        l.seconds = x.seconds ∧ l.ms.number = micro := by
  have hmonth := x.month_lt
  have hday := day_lt_31 x
  have hsecond := x.second_lt
  obtain ⟨ye, hye, hyen, hyel, -⟩ := exists_numeral (w := 4) (v := x.year) (by norm_num)
    (by omega) (by omega)
  obtain ⟨mo, hmo, hmon, hmol, -⟩ := exists_numeral (w := 2) (v := x.month + 1) (by norm_num)
    (by omega) (by omega)
  obtain ⟨da, hda, hdan, hdal, -⟩ := exists_numeral (w := 2) (v := x.day + 1) (by norm_num)
    (by omega) (by omega)
  obtain ⟨h, hh, hhn, hhl, -⟩ := exists_numeral (w := 2) (v := (x.second / 3600 : ℕ))
    (by norm_num) (by omega) (by omega)
  obtain ⟨m, hm, hmn, hml, -⟩ := exists_numeral (w := 2) (v := (x.second % 3600 / 60 : ℕ))
    (by norm_num) (by omega) (by omega)
  obtain ⟨s, hs, hsn, hsl, -⟩ := exists_numeral (w := 2) (v := (x.second % 60 : ℕ))
    (by norm_num) (by omega) (by omega)
  obtain ⟨ms, hms, hmsn, hmsl, hends⟩ := exists_numeral (w := 6) (v := micro) (by norm_num)
    (by simpa using hmicro.1) (by simpa using hmicro.2)
  have hyear : x.year - year0 + 1900 = x.year := by simp
  have htext : timestampText (brokenDown x) micro = ye.text ++ 45 :: (mo.text ++ 45 :: (da.text ++
      84 :: (h.text ++ 58 :: (m.text ++ 58 :: (s.text ++ 46 :: (ms.text ++ [90])))))) := by
    have hlit : lit "-" = [45] ∧ lit "T" = [84] ∧ lit ":" = [58] ∧ lit "." = [46] ∧
        lit "Z" = [90] := by decide
    obtain ⟨hminus, hT, hcolon, hdot, hZ⟩ := hlit
    simp only [timestampText, brokenDown, fields, hyear, hminus, hT, hcolon, hdot, hZ, hye, hmo,
      hda, hh, hm, hs, hms, List.append_assoc, List.cons_append, List.nil_append]
  refine ⟨?_, ⟨ye, mo, da, h, m, s, ms⟩, ⟨?_, hends _⟩, ?_, hmsn⟩
  · rw [htext, hye, hmo, hda, hh, hm, hs, hms]
    simp only [List.length_append, List.length_cons, List.length_nil, hyel, hmol, hdal, hhl, hml,
      hsl, hmsl]
  · rw [htext]
    simp only [Reading.text, List.append_assoc, List.cons_append, List.nil_append]
  · exact seconds_eq hyen hmon hdan hhn hmn hsn

/-- A year of five digits is not read. -/
lemma not_reads_late (h : 9999 < x.year) {l : Reading} {rest rest' : Text} :
    ¬ l.Reads (timestampText (brokenDown x) micro ++ rest) rest' := by
  rintro ⟨htext, -⟩
  obtain ⟨n, hn⟩ := Int.eq_ofNat_of_zero_le (by omega : 0 ≤ x.year)
  have hyear : (brokenDown x).tmYear + 1900 = x.year := by simp [brokenDown, fields]
  have hminus : lit "-" = [45] := rfl
  have hlen : 4 < (pad 4 n).length := by
    by_contra hle
    have hvalue := value_lt (t := pad 4 n) fun _ => isDigit_of_mem_pad
    have hpow := Nat.pow_le_pow_right (by norm_num : 0 < 10) (not_lt.mp hle)
    rw [value_pad] at hvalue
    omega
  rw [timestampText, hyear, hn, fmtD0_natCast, hminus] at htext
  simp only [Reading.text, List.append_assoc, List.cons_append, List.nil_append] at htext
  have hskip := congrArg skipSpace htext
  obtain ⟨d, ds, hds⟩ := List.exists_cons_of_ne_nil (pad_ne_nil 4 n)
  have hd : isDigit d = true :=
    isDigit_of_mem_pad (w := 4) (n := n) (by rw [hds]; exact List.mem_cons_self ..)
  have hstop (u : Text) : ∀ c ∈ ((45 : Byte) :: u).head?, isDigit c = false := by
    intro c hc
    cases hc
    decide
  have hpad (u : Text) : skipSpace (pad 4 n ++ u) = pad 4 n ++ u := by
    rw [hds, List.cons_append, skipSpace_cons (isSpace_of_isDigit hd)]
  rw [hpad, Numeral.skipSpace_text] at hskip
  have hsign : l.ye.sign = [] := by
    rw [hds] at hskip
    rcases l.ye.sign_eq with hs | hs | hs
    · exact hs
    all_goals
      rw [hs] at hskip
      rw [(List.cons.inj hskip).1] at hd
      exact absurd hd (by decide)
  rw [hsign, List.nil_append] at hskip
  -- the numeral would have to take all the digits of the year, and has four places
  have hdigits := congrArg (List.takeWhile isDigit) hskip
  rw [takeWhile_digits (fun _ => isDigit_of_mem_pad) (hstop _),
    takeWhile_digits l.ye.digits_eq (hstop _)] at hdigits
  have hfits := l.ye.fits 4 rfl
  rw [hsign, List.nil_append, ← hdigits] at hfits
  omega

end Stamps

/-! ### Datapoints that have been read -/

/-- The datapoint has been read off a text without a vertical tab, and it is no float. -/
structure ReadOff (tg : Target) (t : Text) (q : XiDatapoint) : Prop where
  decoded : ∃ e dest e', csvDecodeDatapoint tg t e dest = .ret true e' q
  noTab : 11 ∉ t
  type : q.valueType ≠ .f32

/-- The instants behind the first second of 1970 and up to the year 9999. -/
def InEra (q : XiDatapoint) : Prop :=
  1 ≤ q.timestamp.timestamp ∧ q.timestamp.timestamp ≤ 253402300799

/-- What holds of a datapoint that has been read: it has an instant the decoder counts and
microseconds of a numeral, and its value is read off its text. -/
structure Settled (tg : Target) (q : XiDatapoint) : Prop where
  readable : q.Readable
  instant : ∃ x : Moment, x.seconds = q.timestamp.timestamp ∧ 1970 ≤ x.year ∧ x.year < 20000
  notSet : q.timestamp.timestamp % 2 ^ 32 ≠ 2 ^ 32 - 1
  micro : -10 ^ 5 < q.timestamp.micro ∧ q.timestamp.micro < 10 ^ 6
  type : q.valueType ≠ .f32
  value : ∃ v, valueText tg q = some v ∧ v.length < xiValueStringMaxSize ∧ fieldOf v = v ∧
    11 ∉ v ∧ Shows tg q (readValue tg v)

section Read

variable {tg : Target} {t : Text} {q q' : XiDatapoint}

/-- A minus sign leaves one digit less. -/
lemma number_gt {w : ℕ} (N : Numeral (some w)) : -10 ^ (w - 1) < N.number := by
  have hlen := N.fits w rfl
  rw [List.length_append] at hlen
  rw [Numeral.number, signed]
  split
  · next hsign =>
    rw [hsign, List.length_singleton] at hlen
    have hlt : value N.digits < 10 ^ (w - 1) :=
      (value_lt N.digits_eq).trans_le (Nat.pow_le_pow_right (by norm_num) (by omega))
    have hcast : (value N.digits : ℤ) < 10 ^ (w - 1) := by exact_mod_cast hlt
    omega
  · have hpos : (0 : ℤ) < 10 ^ (w - 1) := by positivity
    omega

/-- The instant of a reading that is counted. -/
lemma reading_moment {l : Reading} (h : 0 ≤ l.seconds) :
    ∃ x : Moment, x.seconds = l.seconds ∧ 1970 ≤ x.year ∧ x.year < 20000 := by
  obtain ⟨x, hx, -⟩ := xiMktime_normal 64 l.time
  have hseconds : x.seconds = l.seconds := hx
  exact ⟨x, hseconds, (x.seconds_nonneg_iff).mp (by omega), year_lt_of_seconds hseconds⟩

lemma seconds_bounds {x : Moment} (h1 : 1970 ≤ x.year) (h2 : x.year < 20000) :
    0 ≤ x.seconds ∧ x.seconds < 568971820800 := by
  have hmono := daysToYear_mono (by omega : x.year + 1 ≤ 20000)
  have hlast : daysToYear 20000 = 6585322 := by decide
  have hbounds := x.dayCount_bounds
  have hdiv := x.seconds_div
  exact ⟨(x.seconds_nonneg_iff).mpr h1, by omega⟩

lemma gmtime_moment {x : Moment} (h1 : 1970 ≤ x.year) (h2 : x.year < 20000) :
    xiGmtime 64 x.seconds = some (brokenDown x) := by
  obtain ⟨hlow, hhigh⟩ := seconds_bounds h1 h2
  have hlast : daysToYear (2 ^ 31) = 784351576777 := by decide
  obtain ⟨y, hy, -, -, hgmtime⟩ := @xiGmtime_moment 64 x.seconds hlow (by omega) (by omega)
  rw [hgmtime, Moment.seconds_injective hy]

/-- The text of an integer or a string is one field, and is read as what it is. -/
lemma value_settled {field : Text} (hfield : fieldOf field = field) (htab : 11 ∉ field)
    (hlen : field.length < xiValueStringMaxSize) (hq : Shows tg q (readValue tg field))
    (htype : q.valueType ≠ .f32) : ∃ v, valueText tg q = some v ∧
      v.length < xiValueStringMaxSize ∧ fieldOf v = v ∧ 11 ∉ v ∧ Shows tg q (readValue tg v) := by
  have htext := hq.text
  have hkind := hq.type
  cases hstate : finalState (scanState .initial field) with
  | float =>
    rw [readValue, hstate] at hkind
    exact absurd hkind htype
  | number =>
    simp only [readValue, hstate] at htext hq
    have hrange := (Int32.ofInt (atoi field)).le_toInt
    have hrange' := (Int32.ofInt (atoi field)).toInt_lt
    have hint := intText_fmtD (Int32.ofInt (atoi field)).toInt
    have hback : readValue tg (fmtD (Int32.ofInt (atoi field)).toInt) =
        .i32 (.ofInt (atoi field)) := by
      simp only [readValue, finalState_int hint, atoi_fmtD hrange hrange', Int32.ofInt_toInt]
    have hbytes := fieldByte_int hint
    have hshort : (fmtD (Int32.ofInt (atoi field)).toInt).length ≤ 11 := by
      rw [← toInt32_eq hrange hrange']
      exact length_fmtD_toInt32_le _
    refine ⟨_, htext, hshort.trans_lt (by decide),
      fieldOf_eq_self fun c hc => endsValue_fieldByte (hbytes c hc), fun h => ?_, ?_⟩
    · exact absurd (classify_newline.mpr (.inr rfl)) (classify_fieldByte (hbytes 11 h))
    · rwa [Value.text, hback]
  | _ =>
    have hstr : readValue tg field = .str field := by rw [readValue, hstate]
    rw [hstr] at htext
    exact ⟨field, htext, hlen, hfield, htab, hq⟩

/-- What has been read off a text without a vertical tab. -/
lemma read_shows {e e' : XiErr} {dest : XiDatapoint}
    (hrun : csvDecodeDatapoint tg t e dest = .ret true e' q) (htab : 11 ∉ t) :
    ∃ i stamp, strstr (lit ",") t = some i ∧ readStamp tg t = .ok stamp ∧
      (fieldOf (t.drop (i + 1))).length < xiValueStringMaxSize ∧
      11 ∉ fieldOf (t.drop (i + 1)) ∧ q.timestamp = stamp ∧
      Tracks tg (.value (readValue tg (fieldOf (t.drop (i + 1))))) q := by
  have haccepts : AcceptsPoint tg t := by
    by_contra hno
    obtain ⟨x, p', -, hrej⟩ := csvDecodeDatapoint_rejects hno e dest
    rw [hrun] at hrej
    cases hrej
  obtain ⟨i, stamp, hi, hs, hlen⟩ := haccepts
  have hfield : 11 ∉ fieldOf (t.drop (i + 1)) := fun h =>
    htab (List.mem_of_mem_drop ((List.takeWhile_sublist _).mem h))
  obtain ⟨q', hrun', htime, htracks⟩ := decode_shows hi hs hlen hfield e dest
  rw [hrun] at hrun'
  obtain rfl : q = q' := by
    injection hrun' with _ _ hq
  exact ⟨i, stamp, hi, hs, hlen, hfield, htime, htracks⟩

lemma ReadOff.settled (hlong : tg.longBits = 64) (h : ReadOff tg t q) : Settled tg q := by
  obtain ⟨⟨e, dest, e', hrun⟩, htab, htype⟩ := h
  obtain ⟨i, stamp, hi, hs, hlen, hfieldTab, htime, htracks⟩ := read_shows hrun htab
  have hself : fieldOf (fieldOf (t.drop (i + 1))) = fieldOf (t.drop (i + 1)) :=
    fieldOf_eq_self fun c hc => not_endsValue_of_mem hc
  obtain ⟨l, rest, hl, ⟨⟨hlow, -⟩, hset⟩, hstamp⟩ := (readStamp_eq_ok (by omega)).mp hs
  obtain ⟨x, hx, h1970, h20000⟩ := reading_moment hlow
  obtain ⟨-, hhigh⟩ := seconds_bounds h1970 h20000
  rw [hlong, long_eq (by norm_num) (by norm_num; omega) (by norm_num; omega)] at hstamp
  rw [hstamp] at htime
  constructor
  · exact htracks.readable
  · exact ⟨x, by rw [htime, hx], h1970, h20000⟩
  · rwa [htime]
  · rw [htime]
    exact ⟨number_gt l.ms, l.ms.number_bounds.2⟩
  · exact htype
  · exact value_settled hself hfieldTab hlen (htracks.shows _ rfl) htype

/-! ### Their lines -/

lemma agrees_of_shows {v : Value} (ht : q'.timestamp = q.timestamp) (hq : Shows tg q v)
    (hq' : Shows tg q' v) : Agrees q q' where
  timestamp := ht
  valueType := hq'.type.trans hq.type.symm
  int := by
    intro hi
    have htype : v.type = .i32 := hq.type.symm.trans hi
    cases v with
    | i32 z => exact (hq'.i32 z rfl).trans (hq.i32 z rfl).symm
    | f32 bits => cases htype
    | str text => cases htype
  str := by
    intro hs
    have htype : v.type = .str := hq.type.symm.trans hs
    cases v with
    | str text => exact (hq'.str text rfl).trans (hq.str text rfl).symm
    | i32 z => cases htype
    | f32 bits => cases htype

/-- The line of a datapoint that has been read. -/
lemma Settled.line (h : Settled tg q) (hlong : tg.longBits = 64) {x : Moment}
    (hx : x.seconds = q.timestamp.timestamp) (h1970 : 1970 ≤ x.year) (h20000 : x.year < 20000)
    (h0 : q.timestamp.timestamp ≠ 0) {v : Text} (hv : valueText tg q = some v) :
    datapointText tg q =
      some (timestampText (brokenDown x) q.timestamp.micro ++ 44 :: (v ++ [10])) := by
  obtain ⟨hlow, hhigh⟩ := h.micro
  have hmicro : toInt32 q.timestamp.micro = q.timestamp.micro :=
    toInt32_eq (by norm_num; omega) (by norm_num; omega)
  have hgmtime := gmtime_moment h1970 h20000
  rw [hx] at hgmtime
  simp [datapointText, hv, stampText, h0, hlong, hgmtime, hmicro, show lit "," = [44] from rfl,
    show lit "\n" = [10] from rfl]

lemma comma_not_mem_timestampText (tm : XiTm) (micro : ℤ) : 44 ∉ timestampText tm micro :=
  fun h => absurd (of_mem_timestampText h) (by decide)

/-- A line with a value that is one field. -/
lemma fieldOf_line {stamp v : Text} (hv : fieldOf v = v) :
    fieldOf ((stamp ++ 44 :: (v ++ [10])).drop (stamp.length + 1)) = v := by
  have hdrop : (stamp ++ 44 :: (v ++ [10])).drop (stamp.length + 1) = v ++ [10] := by simp
  rw [hdrop, fieldOf_append, hv]

/-- In the era, what has been read is written and read again. -/
lemma Settled.roundTrips (h : Settled tg q) (hlong : tg.longBits = 64)
    (hcsv : 61 ≤ tg.csvBufferSize) (hera : InEra q) : RoundTrips tg q := by
  obtain ⟨x, hx, h1970, h20000⟩ := h.instant
  obtain ⟨v, hv, hlen, hfield, htab, hshows⟩ := h.value
  obtain ⟨hlow, hhigh⟩ := seconds_bounds h1970 h20000
  have hline := h.line hlong hx h1970 h20000 (by have := hera.1; omega) hv
  obtain ⟨hstampLen, l, hl, hseconds, hms⟩ := exists_reading (by omega)
    (year_le_9999 (hx ▸ hera.2)) h.micro (44 :: (v ++ [10]))
  have hstamp : readStamp tg (timestampText (brokenDown x) q.timestamp.micro ++
      44 :: (v ++ [10])) = .ok q.timestamp := by
    refine (readStamp_eq_ok (by omega)).mpr ⟨l, _, hl, ⟨⟨by omega, ?_⟩, ?_⟩, ?_⟩
    · rw [hseconds, hlong]
      omega
    · rw [hseconds, hx]
      exact h.notSet
    · rw [hlong, hseconds, hx, hms,
        long_eq (by norm_num) (by norm_num; omega) (by norm_num; omega)]
  have hreads : ∀ e dest, ∃ q', csvDecodeDatapoint tg
      (timestampText (brokenDown x) q.timestamp.micro ++ 44 :: (v ++ [10])) e dest =
        .ret true e q' ∧ Agrees q q' := by
    intro e dest
    obtain ⟨q', hrun, htime, htracks⟩ := decode_shows
      (strstr_singleton_append (comma_not_mem_timestampText _ _) _) hstamp
      (by rwa [fieldOf_line hfield]) (by rwa [fieldOf_line hfield]) e dest
    rw [fieldOf_line hfield] at htracks
    exact ⟨q', hrun, agrees_of_shows htime hshows (htracks.shows _ rfl)⟩
  have hfit : FitsAt tg.csvBufferSize 0 (datapointText tg q) := by
    have hmax : xiValueStringMaxSize = 32 := rfl
    rw [hline, fitsAt_some]
    simp only [List.length_append, List.length_cons, List.length_nil]
    omega
  refine ⟨_, fun e b => ?_, hreads⟩
  obtain ⟨b', hb', -⟩ := (csvEncodeDatapoint_spec tg h.readable tg.csv_pos).1 hfit e b trivial
  rw [hline] at hb'
  exact ⟨b', hb'⟩

/-- What an encoder that comes back with a text has written. -/
lemma Settled.text_of_roundTrips (h : Settled tg q) (hround : RoundTrips tg q) :
    ∃ text, datapointText tg q = some text ∧ ∀ e dest, ∃ q',
      csvDecodeDatapoint tg text e dest = .ret true e q' ∧ Agrees q q' := by
  obtain ⟨text, hencode, hreads⟩ := hround
  obtain ⟨b, hb⟩ := hencode .noErr (zero _)
  by_cases hfit : FitsAt tg.csvBufferSize 0 (datapointText tg q)
  · obtain ⟨b', hb', -⟩ :=
      (csvEncodeDatapoint_spec tg h.readable tg.csv_pos).1 hfit .noErr (zero _) trivial
    obtain ⟨v, hv, -⟩ := hfit
    rw [hb, hv, Option.getD_some] at hb'
    injection hb' with heq
    cases heq
    exact ⟨text, hv, hreads⟩
  · obtain ⟨y, -, hnone⟩ := (csvEncodeDatapoint_spec tg h.readable tg.csv_pos).2 hfit
    obtain ⟨b', hb', -⟩ := hnone .noErr (zero _) trivial
    rw [hb] at hb'
    injection hb' with heq
    cases heq

lemma readValue_str {field text : Text} (h : readValue tg field = .str text) : text = field := by
  unfold readValue at h
  split at h <;> cases h
  rfl

/-- What stands behind a comma of a line is a shorter field than the line. -/
lemma fieldOf_drop_ne {v : Text} {i : ℕ} (hi : strstr (lit ",") (v ++ [10]) = some i) :
    fieldOf ((v ++ [10]).drop (i + 1)) ≠ v := by
  intro heq
  obtain ⟨hsplit, -⟩ := strstr_singleton (c := 44) hi
  have hlen := congrArg List.length hsplit
  have hlast := congrArg List.getLast? hsplit
  generalize (v ++ [10]).drop (i + 1) = w at hsplit hlen hlast heq
  have hend : 10 ∈ w := by
    rw [List.getLast?_concat, List.getLast?_append_of_ne_nil _ (List.cons_ne_nil _ _)] at hlast
    cases w with
    | nil => exact absurd hlast (by decide)
    | cons c w =>
      rw [List.getLast?_cons_cons] at hlast
      exact List.mem_of_getLast? hlast.symm
  simp only [List.length_append, List.length_cons, List.length_nil] at hlen
  have hwhole : fieldOf w = w := (List.takeWhile_sublist _).eq_of_length_le (by
    have hv := congrArg List.length heq
    unfold fieldOf at hv
    omega)
  rw [← hwhole] at hend
  exact absurd (not_endsValue_of_mem hend) (by decide)

/-- The line of the first second of 1970 has no timestamp. -/
lemma Settled.not_roundTrips_1970 (h : Settled tg q) (h0 : q.timestamp.timestamp = 0) :
    ¬ RoundTrips tg q := by
  intro hround
  obtain ⟨text, htext, hreads⟩ := h.text_of_roundTrips hround
  obtain ⟨v, hv, -, hfield, htab, hshows⟩ := h.value
  have hline : datapointText tg q = some (v ++ [10]) := by
    simp [datapointText, hv, stampText, h0, show lit "\n" = [10] from rfl]
  obtain rfl := Option.some.inj (htext.symm.trans hline)
  obtain ⟨q', hrun, hagrees⟩ := hreads .noErr .zero
  have htab' : 11 ∉ v ++ [10] := by simpa using htab
  obtain ⟨i, stamp, hi, -, -, -, -, htracks⟩ := read_shows hrun htab'
  have hshows' := htracks.shows _ rfl
  have htext := hshows.text
  rw [hv] at htext
  cases hvalue : readValue tg v with
  | i32 z =>
    have hcomma : 44 ∈ v ++ [10] := by
      rw [(strstr_singleton (c := 44) hi).1]
      simp
    have hmem : 44 ∈ v := by simpa using hcomma
    rw [hvalue] at htext
    rw [Option.some.inj htext] at hmem
    exact absurd (of_mem_fmtD hmem) (by decide)
  | f32 bits =>
    rw [hvalue] at hshows
    exact h.type hshows.type
  | str text =>
    -- the value that is read is what stands behind the comma of the value that is written
    rw [hvalue] at hshows
    obtain rfl := readValue_str hvalue
    have htype : q.valueType = .str := hshows.type
    have hstr := (hagrees.str htype).trans (hshows.str _ rfl)
    cases hvalue' : readValue tg (fieldOf ((text ++ [10]).drop (i + 1))) with
    | str text' =>
      rw [hvalue'] at hshows'
      have hstr' := hshows'.str _ rfl
      rw [readValue_str hvalue', hstr] at hstr'
      exact fieldOf_drop_ne hi (Option.some.inj hstr').symm
    | _ =>
      rw [hvalue'] at hshows'
      have hsame := hshows'.type.symm.trans (hagrees.valueType.trans htype)
      cases hsame

/-- The line of an instant behind the year 9999 is not read. -/
lemma Settled.not_roundTrips_late (h : Settled tg q) (hlong : tg.longBits = 64)
    (hlate : 253402300799 < q.timestamp.timestamp) : ¬ RoundTrips tg q := by
  intro hround
  obtain ⟨text, htext, hreads⟩ := h.text_of_roundTrips hround
  obtain ⟨x, hx, h1970, h20000⟩ := h.instant
  obtain ⟨v, hv, -, -, htab, -⟩ := h.value
  have hyear : 9999 < x.year := by
    by_contra hle
    have hmono := daysToYear_mono (by omega : x.year + 1 ≤ 10000)
    have h10000 : daysToYear 10000 = 2932897 := by decide
    have hbounds := x.dayCount_bounds
    have hdiv := x.seconds_div
    omega
  rw [h.line hlong hx h1970 h20000 (by omega) hv] at htext
  obtain rfl := Option.some.inj htext
  obtain ⟨q', hrun, -⟩ := hreads .noErr .zero
  have hstampTab : 11 ∉ timestampText (brokenDown x) q.timestamp.micro := fun h =>
    absurd (of_mem_timestampText h) (by decide)
  obtain ⟨i, stamp, -, hs, -⟩ := read_shows hrun (by simp [hstampTab, htab])
  obtain ⟨l, rest, hl, -⟩ := (readStamp_eq_ok (by omega)).mp hs
  exact not_reads_late hyear hl

/-- Datapoints that have been read are written the same exactly if they agree. -/
lemma datapointText_eq_iff {q₁ q₂ : XiDatapoint} (hlong : tg.longBits = 64)
    (hcsv : 61 ≤ tg.csvBufferSize) (h₁ : Settled tg q₁) (h₂ : Settled tg q₂) (he₁ : InEra q₁)
    (he₂ : InEra q₂) : datapointText tg q₁ = datapointText tg q₂ ↔ Agrees q₁ q₂ := by
  constructor
  · intro heq
    obtain ⟨text₁, htext₁, hreads₁⟩ := h₁.text_of_roundTrips (h₁.roundTrips hlong hcsv he₁)
    obtain ⟨text₂, htext₂, hreads₂⟩ := h₂.text_of_roundTrips (h₂.roundTrips hlong hcsv he₂)
    obtain rfl : text₁ = text₂ := Option.some.inj (htext₁.symm.trans (heq.trans htext₂))
    obtain ⟨p₁, hrun₁, hagrees₁⟩ := hreads₁ .noErr .zero
    obtain ⟨p₂, hrun₂, hagrees₂⟩ := hreads₂ .noErr .zero
    rw [hrun₁] at hrun₂
    obtain rfl : p₁ = p₂ := by
      injection hrun₂ with _ _ hp
    have htype := hagrees₂.valueType.symm.trans hagrees₁.valueType
    exact ⟨hagrees₂.timestamp.symm.trans hagrees₁.timestamp, htype,
      fun hi => (hagrees₂.int (htype.trans hi)).symm.trans (hagrees₁.int hi),
      fun hs => (hagrees₂.str (htype.trans hs)).symm.trans (hagrees₁.str hs)⟩
  · rintro ⟨htime, htype, hint, hstr⟩
    have hvalue : valueText tg q₁ = valueText tg q₂ := by
      unfold valueText
      rw [htype]
      cases hkind : q₁.valueType with
      | i32 => simp only [hint hkind]
      | f32 => exact absurd hkind h₁.type
      | str => exact (hstr hkind).symm
      | unknown _ => rfl
    simp only [datapointText, stampText, hvalue, htime]

end Read

/-- **Canonical texts**: of an integer or a string that has been read off any text without a
vertical tab, the encoder makes a text that is read as the same datapoint exactly if its instant is
behind the first second of 1970 and not behind the year 9999. Of two such datapoints it makes one
text exactly if they agree. -/
theorem canonical_texts {tg : Target} (hlong : tg.longBits = 64) (hcsv : 61 ≤ tg.csvBufferSize)
    {t₁ t₂ : Text} {q₁ q₂ : XiDatapoint} (h₁ : ReadOff tg t₁ q₁) (h₂ : ReadOff tg t₂ q₂) :
    (RoundTrips tg q₁ ↔ InEra q₁) ∧ (InEra q₁ → InEra q₂ →
      (datapointText tg q₁ = datapointText tg q₂ ↔ Agrees q₁ q₂)) := by
  have hs₁ := h₁.settled hlong
  have hs₂ := h₂.settled hlong
  refine ⟨⟨fun hround => ?_, hs₁.roundTrips hlong hcsv⟩,
    datapointText_eq_iff hlong hcsv hs₁ hs₂⟩
  obtain ⟨x, hx, h1970, -⟩ := hs₁.instant
  have hnonneg := (x.seconds_nonneg_iff).mpr h1970
  by_contra hera
  rcases not_and_or.mp hera with hlow | hhigh
  · exact hs₁.not_roundTrips_1970 (by omega) hround
  · exact hs₁.not_roundTrips_late hlong (not_le.mp hhigh) hround

/-- An integer that is read off a text. -/
lemma exists_readOff {tg : Target} {t : Text} {i : ℕ} {stamp : XiTimestamp} {z : Int32}
    (hi : strstr (lit ",") t = some i) (hs : readStamp tg t = .ok stamp)
    (hlen : (fieldOf (t.drop (i + 1))).length < xiValueStringMaxSize) (htab : 11 ∉ t)
    (hv : readValue tg (fieldOf (t.drop (i + 1))) = .i32 z) :
    ∃ q, ReadOff tg t q ∧ q.timestamp = stamp ∧ Shows tg q (.i32 z) := by
  obtain ⟨q, hrun, htime, htracks⟩ := decode_shows hi hs hlen (fun h =>
    htab (List.mem_of_mem_drop ((List.takeWhile_sublist _).mem h))) .noErr .zero
  have hshows := htracks.shows _ rfl
  rw [hv] at hshows
  have htype : q.valueType = .i32 := hshows.type
  exact ⟨q, ⟨⟨_, _, _, hrun⟩, htab, by simp [htype]⟩, htime, hshows⟩

theorem canonical_texts_march : ∃ q₁ q₂,
    ReadOff posixConfig (lit "2014-02-31T00:00:00.-5,007") q₁ ∧
    ReadOff posixConfig (lit "2014-03-03T00:00:00.-00005Z,7\n") q₂ ∧
    RoundTrips posixConfig q₁ ∧ datapointText posixConfig q₁ = datapointText posixConfig q₂ := by
  obtain ⟨q₁, h₁, htime₁, hshows₁⟩ := @exists_readOff posixConfig
    (lit "2014-02-31T00:00:00.-5,007") 22 ⟨1393804800, -5⟩ 7 (by decide +kernel) (by rfl)
    (by decide +kernel) (by decide +kernel) (by decide +kernel)
  obtain ⟨q₂, h₂, htime₂, hshows₂⟩ := @exists_readOff posixConfig
    (lit "2014-03-03T00:00:00.-00005Z,7\n") 27 ⟨1393804800, -5⟩ 7 (by decide +kernel) (by rfl)
    (by decide +kernel) (by decide +kernel) (by decide +kernel)
  have hera₁ : InEra q₁ := by
    rw [InEra, htime₁]
    decide
  have hera₂ : InEra q₂ := by
    rw [InEra, htime₂]
    decide
  obtain ⟨hround, htext⟩ := canonical_texts rfl (by decide) h₁ h₂
  exact ⟨q₁, q₂, h₁, h₂, hround.mpr hera₁,
    (htext hera₁ hera₂).mpr (agrees_of_shows (htime₂.trans htime₁.symm) hshows₁ hshows₂)⟩

end LibXively.CanonicalTexts
