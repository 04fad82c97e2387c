import LibXively.Decoding.Numbers
import LibXively.Decoding.Stamps
import LibXively.Requests.CsvText

/-!
What the encoder of a datapoint writes, the decoder reads.

The decoder sees the timestamp the encoder has printed, field by field, and counts it back to the
instant. It then refuses an instant whose low 32 bits are all set.
-/

namespace LibXively.RoundTrip

open LibXively.Bytes LibXively.Decimal LibXively.Scanf LibXively.CProc LibXively.CharArray
open LibXively.Gregorian LibXively.XiTime LibXively.Mktime LibXively.Structures LibXively.CsvData
open LibXively.Append LibXively.CsvText LibXively.Values LibXively.Numbers LibXively.Datapoints
open LibXively.Stamps

/-! ### Timestamps -/

/-- The timestamp of an instant is counted back to that instant, unless its low 32 bits are all
set. -/
lemma stamp_spec {tg : Target} (hlong : tg.longBits = 64) {t micro : ℤ} (ht1 : 0 ≤ t)
    (ht2 : t ≤ 253402300799) (hmicro : 0 ≤ micro ∧ micro ≤ 999999) :
    ∃ tm, xiGmtime tg.longBits t = some tm ∧ (timestampText tm micro).length = 27 ∧
      ∀ rest, readStamp tg (timestampText tm micro ++ rest) =
        if t % 2 ^ 32 = 2 ^ 32 - 1 then .error .csvTimeConvertionError else .ok ⟨t, micro⟩ := by
  have hlast : daysToYear (2 ^ 31) = 784351576777 := by decide
  obtain ⟨x, rfl, hy1, -, htm⟩ := @xiGmtime_moment 64 t ht1 (by omega) (by omega)
  have hy2 := year_le_9999 ht2
  obtain ⟨n, rfl⟩ := Int.eq_ofNat_of_zero_le hmicro.1
  have htext : timestampText (brokenDown x) n = isoText x n := timestampText_fields x _ _ n
  refine ⟨brokenDown x, by rw [hlong, htm], ?_, fun rest => ?_⟩
  · rw [htext, length_isoText (by omega) hy2 (by omega)]
  · rw [htext, readStamp_isoText (by omega) hy1 hy2 (by rw [hlong]; norm_num; omega) (by omega)]

/-! ### Datapoints -/

/-- A datapoint with an instant up to the year 9999 and an integer, or a string of printable
characters that is no number. -/
structure Plain (p : XiDatapoint) : Prop where
  instant : 1 ≤ p.timestamp.timestamp ∧ p.timestamp.timestamp ≤ 253402300799
  micro : 0 ≤ p.timestamp.micro ∧ p.timestamp.micro ≤ 999999
  value : p.valueType = .i32 ∨ ∃ s, p.valueType = .str ∧ cstr p.value = some s ∧
    (∀ c ∈ s, 32 ≤ c ∧ c ≤ 126) ∧ ¬ IntText s ∧ ¬ FloatText s

/-- The same instant and the same value. -/
structure Agrees (p q : XiDatapoint) : Prop where
  timestamp : q.timestamp = p.timestamp
  valueType : q.valueType = p.valueType
  int : p.valueType = .i32 → i32Value q.value = i32Value p.value
  str : p.valueType = .str → cstr q.value = cstr p.value

/-- The encoder comes back with a text, and the decoder makes the same datapoint of it, whatever
its destination holds. -/
def RoundTrips (tg : Target) (p : XiDatapoint) : Prop :=
  ∃ text, (∀ (e : XiErr) (b : Buf tg.csvBufferSize),
      ∃ b', csvEncodeDatapoint tg p e b = .ret (some text) e b') ∧
    ∀ e dest, ∃ q, csvDecodeDatapoint tg text e dest = .ret true e q ∧ Agrees p q

section Plain

variable {tg : Target} {p : XiDatapoint}

lemma clean_of_le {c : Byte} (h : 32 ≤ c) :
    endsValue c = false ∧ csvClassifyChar c ≠ .newline := by
  rw [UInt8.le_iff_toNat_le] at h
  have hne (d : Byte) (hd : d.toNat < 32) : c ≠ d := by
    rintro rfl
    exact absurd h (not_le.mpr hd)
  constructor
  · rw [← Bool.not_eq_true, endsValue_iff]
    simp [hne 10 (by decide), hne 0 (by decide), hne 13 (by decide)]
  · rw [ne_eq, classify_newline]
    exact not_or.mpr ⟨hne 13 (by decide), hne 11 (by decide)⟩

/-- The value text of a plain datapoint: it is one field, and it is read as what it is. -/
lemma Plain.valueText_eq (h : Plain p) : ∃ v, valueText tg p = some v ∧ v.length ≤ 31 ∧
    (∀ c ∈ v, endsValue c = false ∧ csvClassifyChar c ≠ .newline) ∧
    ((p.valueType = .i32 ∧ finalState (scanState .initial v) = .number ∧
        atoi v = i32Value p.value) ∨
      (p.valueType = .str ∧ finalState (scanState .initial v) = .string ∧
        cstr p.value = some v)) := by
  rcases h.value with hi | ⟨s, hs, hstr, hprint, hint, hfloat⟩
  · have hlen : (fmtD (i32Value p.value)).length ≤ 11 := length_fmtD_toInt32_le _
    obtain ⟨h1, h2⟩ := toInt32_bounds (wordOf p.value.bytes)
    refine ⟨fmtD (i32Value p.value), by simp [CsvText.valueText, hi], by omega, fun c hc => ?_,
      .inl ⟨hi, finalState_int (intText_fmtD _), atoi_fmtD h1 h2⟩⟩
    refine clean_of_le ?_
    rcases of_mem_fmtD hc with hc | rfl
    · rw [UInt8.le_iff_toNat_le]
      exact le_trans (by decide) (isDigit_iff.mp hc).1
    · decide
  · have hlen : s.length < 32 := length_lt_of_cstr hstr
    have hclean := fun c hc => clean_of_le (hprint c hc).1
    exact ⟨s, by simp [CsvText.valueText, hs, hstr], by omega, hclean,
      .inr ⟨hs, finalState_string (fun c hc => (hclean c hc).2) hint hfloat, hstr⟩⟩

/-- The line of a plain datapoint, and what the decoder makes of the timestamp in front. -/
lemma Plain.datapointText_eq (h : Plain p) (hlong : tg.longBits = 64) : ∃ stamp v,
    datapointText tg p = some (stamp ++ 44 :: (v ++ [10])) ∧ valueText tg p = some v ∧
    stamp.length = 27 ∧ 44 ∉ stamp ∧ ∀ rest, readStamp tg (stamp ++ rest) =
      if p.timestamp.timestamp % 2 ^ 32 = 2 ^ 32 - 1 then .error .csvTimeConvertionError
      else .ok p.timestamp := by
  obtain ⟨v, hv, -⟩ := @Plain.valueText_eq tg p h
  obtain ⟨ht1, ht2⟩ := h.instant
  obtain ⟨hm1, hm2⟩ := h.micro
  have hmicro : toInt32 p.timestamp.micro = p.timestamp.micro :=
    toInt32_eq (by omega) (by omega)
  obtain ⟨tm, htm, hlen, hread⟩ := stamp_spec hlong (by omega) ht2 h.micro
  refine ⟨timestampText tm p.timestamp.micro, v, ?_, hv, hlen, fun hmem => ?_, hread⟩
  · have hne : p.timestamp.timestamp ≠ 0 := by omega
    simp [datapointText, hv, stampText, hne, htm, hmicro, show lit "," = [44] from rfl,
      show lit "\n" = [10] from rfl]
  · exact absurd (of_mem_timestampText hmem) (by decide)

/-- What the encoder makes of a plain datapoint. -/
lemma Plain.encode (h : Plain p) (hlong : tg.longBits = 64) (hcsv : 61 ≤ tg.csvBufferSize) :
    ∃ text, datapointText tg p = some text ∧ ∀ (e : XiErr) (b : Buf tg.csvBufferSize),
      ∃ b', csvEncodeDatapoint tg p e b = .ret (some text) e b' := by
  obtain ⟨stamp, v, htext, hv, hlen, -⟩ := h.datapointText_eq hlong
  obtain ⟨v', hv', hlen', -⟩ := @Plain.valueText_eq tg p h
  rw [hv] at hv'
  cases hv'
  have hreadable : p.Readable := by
    intro hstr
    rcases h.value with hi | ⟨s, -, hs, -⟩
    · rw [hi] at hstr; cases hstr
    · exact zero_mem_of_cstr hs
  have hfit : FitsAt tg.csvBufferSize 0 (datapointText tg p) := by
    rw [htext, fitsAt_some]
    simp only [List.length_append, List.length_cons, List.length_nil]
    omega
  refine ⟨_, htext, fun e b => ?_⟩
  obtain ⟨b', hb', -⟩ := (csvEncodeDatapoint_spec tg hreadable tg.csv_pos).1 hfit e b trivial
  rw [htext] at hb'
  exact ⟨b', hb'⟩

/-- What the decoder makes of the text of a plain datapoint. -/
lemma Plain.decode (h : Plain p) (hlong : tg.longBits = 64) {text : Text}
    (htext : datapointText tg p = some text) (e : XiErr) (dest : XiDatapoint) :
    (p.timestamp.timestamp % 2 ^ 32 = 2 ^ 32 - 1 →
      csvDecodeDatapoint tg text e dest = .ret false .csvTimeConvertionError dest) ∧
    (p.timestamp.timestamp % 2 ^ 32 ≠ 2 ^ 32 - 1 →
      ∃ q, csvDecodeDatapoint tg text e dest = .ret true e q ∧ Agrees p q) := by
  obtain ⟨stamp, v, htext', hv, -, hcomma, hread⟩ := h.datapointText_eq hlong
  rw [htext] at htext'
  cases htext'
  have hfind : strstr (lit ",") (stamp ++ 44 :: (v ++ [10])) = some stamp.length :=
    strstr_singleton_append hcomma _
  refine ⟨fun hset => ?_, fun hset => ?_⟩
  · exact csvDecodeDatapoint_badStamp hfind (by rw [hread, if_pos hset]) e dest
  obtain ⟨v', hv', hlen, hclean, hkind⟩ := @Plain.valueText_eq tg p h
  rw [hv] at hv'
  cases hv'
  have hdrop : (stamp ++ 44 :: (v ++ [10])).drop (stamp.length + 1) = v ++ [10] := by simp
  have hfield : fieldOf (v ++ [10]) = v := by
    rw [fieldOf_append, fieldOf_eq_self fun c hc => (hclean c hc).1]
  have h0 : (0 : Byte) ∉ v := fun hmem => absurd (hclean 0 hmem).1 (by decide)
  obtain ⟨w, hw, hrun⟩ := csvDecodeValue_copies tg (t := v ++ [10])
    (by rw [hfield]; exact Nat.lt_succ_of_le hlen)
    (fun c hc => (hclean c (by rwa [hfield] at hc)).2) (by rwa [hfield]) e
    { dest with timestamp := p.timestamp }
  rw [hfield] at hw hrun
  refine ⟨_, csvDecodeDatapoint_value hfind (by rw [hread, if_neg hset]) (by rw [hdrop, hrun]), ?_⟩
  rcases hkind with ⟨htype, hstate, hint⟩ | ⟨htype, hstate, hstr⟩
  · rw [hstate]
    refine ⟨rfl, htype.symm, fun _ => ?_, fun hs => ?_⟩
    · obtain ⟨h1, h2⟩ := toInt32_bounds (wordOf p.value.bytes)
      simp only [tagged, hint]
      exact i32Value_setI32Value w h1 h2
    · rw [htype] at hs; cases hs
  · rw [hstate]
    refine ⟨rfl, htype.symm, fun hi => ?_, fun _ => ?_⟩
    · rw [htype] at hi; cases hi
    · rw [hstr]; exact hw

/-- A plain datapoint whose instant has its low 32 bits set is written and then refused. -/
lemma Plain.not_roundTrips (h : Plain p) (hlong : tg.longBits = 64)
    (hcsv : 61 ≤ tg.csvBufferSize) (hset : p.timestamp.timestamp % 2 ^ 32 = 2 ^ 32 - 1) :
    ¬ RoundTrips tg p := by
  rintro ⟨text', hencode', hdecode⟩
  obtain ⟨text, htext, hencode⟩ := h.encode hlong hcsv
  obtain ⟨b, hb⟩ := hencode .noErr (zero _)
  obtain ⟨b', hb'⟩ := hencode' .noErr (zero _)
  rw [hb] at hb'
  injection hb' with heq
  cases heq
  obtain ⟨q, hq, -⟩ := hdecode .noErr p
  rw [(h.decode hlong htext .noErr p).1 hset] at hq
  injection hq with hfalse
  cases hfalse

end Plain

/-- **Round trip of a datapoint**: with the buffers of the configuration and a `long` of 64 bits,
a plain datapoint is read back as it was, exactly if the low 32 bits of its instant are not all
set. -/
theorem datapoint_round_trip (userAgent : CString) (atof : Text → UInt32)
    (fmtF : UInt32 → CString) (p : XiDatapoint) (h : Plain p) :
    RoundTrips (xiConfig userAgent 64 atof fmtF) p ↔
      p.timestamp.timestamp % 2 ^ 32 ≠ 2 ^ 32 - 1 := by
  have hcsv : 61 ≤ (xiConfig userAgent 64 atof fmtF).csvBufferSize := by norm_num [xiConfig]
  obtain ⟨text, htext, hencode⟩ := h.encode rfl hcsv
  exact ⟨fun hround hset => h.not_roundTrips rfl hcsv hset hround,
    fun hset => ⟨text, hencode, fun e dest => (h.decode rfl htext e dest).2 hset⟩⟩

/-- The integer 0 at an instant. -/
def zeroAt (t : ℤ) : XiDatapoint := { XiDatapoint.zero with timestamp := ⟨t, 0⟩ }

lemma plain_zeroAt {t : ℤ} (h : 1 ≤ t ∧ t ≤ 253402300799) : Plain (zeroAt t) :=
  ⟨h, by simp [zeroAt], .inl rfl⟩

theorem datapoint_round_trip_2014 : RoundTrips posixConfig (zeroAt 1388534400) :=
  (datapoint_round_trip _ _ _ _ (plain_zeroAt (by norm_num))).mpr (by decide)

/-- The second before 7 February 2106, 06:28:16, does not come back. -/
theorem datapoint_lost_2106 :
    Plain (zeroAt 4294967295) ∧ ¬ RoundTrips posixConfig (zeroAt 4294967295) := by
  have h : Plain (zeroAt 4294967295) := plain_zeroAt (by norm_num)
  exact ⟨h, h.not_roundTrips rfl (by decide) (by decide)⟩

end LibXively.RoundTrip
