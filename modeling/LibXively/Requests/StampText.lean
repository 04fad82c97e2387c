import LibXively.Decoding.Stamps
import LibXively.Requests.CsvText

/-!
The instants the encoder writes.

`xi_gmtime` takes its argument for a number of seconds after the epoch that is never negative, and
counts the years in an `int`. Whatever it makes of an instant is a moment of the calendar, and the
text that is written is the text of that moment.
-/

namespace LibXively.StampText

open LibXively.Bytes LibXively.Decimal LibXively.CProc LibXively.CharArray LibXively.Gregorian
open LibXively.XiTime LibXively.Gmtime LibXively.Mktime LibXively.Structures LibXively.CsvData
open LibXively.Append LibXively.CsvText LibXively.Stamps

/-- The encoder returns -1, or the array holds the text of the instant, its comma and what follows
them, wherever in an array the encoder begins. -/
def Denotes (tg : Target) (p : XiDatapoint) : Prop :=
  ∀ (n : ℕ) (t : Text) (e : XiErr) (b : Buf n), t.length < n → Starts t b →
    (∃ s e' b', csvEncodeDatapointInPlace tg t.length (n - t.length) p e b = .ret s e' b') ∧
    ∀ s e' b', csvEncodeDatapointInPlace tg t.length (n - t.length) p e b = .ret s e' b' →
      s ≠ -1 → ∃ x : Moment, x.seconds = p.timestamp.timestamp ∧
        Starts (t ++ isoText x p.timestamp.micro.toNat ++ lit ",") b'

/-- A datapoint of none of the known types: its value has no text. -/
def Untyped (p : XiDatapoint) : Prop := ∃ code, p.valueType = .unknown code

/-- The instant is after the epoch, and its year is an `int`. -/
def YearFits (timestamp : ℤ) : Prop := 0 < timestamp ∧ timestamp / 86400 < daysToYear (2 ^ 31)

variable {tg : Target} {p : XiDatapoint} {n : ℕ}

lemma datapointText_eq_none (h : Untyped p) : datapointText tg p = none := by
  obtain ⟨code, hcode⟩ := h
  simp [datapointText, valueText, hcode]

lemma exists_datapointText (hp : p.Readable) (h : ¬ Untyped p) :
    ∃ v, datapointText tg p = some v := by
  have hvalue : ∃ v, valueText tg p = some v := by
    unfold valueText
    cases ht : p.valueType with
    | i32 => exact ⟨_, rfl⟩
    | f32 => exact ⟨_, rfl⟩
    | str => exact exists_cstr (hp ht)
    | unknown code => exact absurd ⟨code, ht⟩ h
  obtain ⟨v, hv⟩ := hvalue
  exact ⟨_, by rw [datapointText, hv]; rfl⟩

/-! ### The moment that is written -/

/-- What `xi_gmtime` makes of an instant are the fields of a moment. -/
lemma xiGmtime_fields (timer : ℤ) : ∃ (x : Moment) (wday yday : ℤ), x.year < 2 ^ 31 ∧
    (x.second : ℤ) = timer % 2 ^ 64 % 86400 ∧
    xiGmtime 64 timer = some (fields x.year x.month x.day x.second wday yday) := by
  obtain ⟨year, m, d, hm, hd, hloop, hrun⟩ := xiGmtime_spec 64 timer
  have hepoch : epochYr < 2 ^ 31 := by norm_num
  have hyear := yearLoop_int (ulong 64 timer / secsDay) (ulong 64 timer / secsDay) hepoch
  rw [← hloop] at hyear
  let x : Moment := ⟨year, m, d, ulong 64 timer % secsDay, hm, hd, Nat.mod_lt _ (by norm_num)⟩
  refine ⟨x, _, _, hyear, ?_, hrun⟩
  have hsecond : x.second = (timer % 2 ^ 64).toNat % 86400 := rfl
  rw [hsecond]
  omega

/-- The time of day that is found for an instant in front of the epoch is not its own: 2^64 is no
multiple of the seconds of a day. -/
lemma not_seconds_of_neg {x : Moment} {timer : ℤ} (hx : (x.second : ℤ) = timer % 2 ^ 64 % 86400)
    (hlow : -2 ^ 63 ≤ timer) (hneg : timer < 0) : x.seconds ≠ timer := by
  have hday : x.seconds % 86400 = x.second := by
    have hsecond := x.second_lt
    rw [Moment.seconds]
    omega
  have hulong : timer % 2 ^ 64 = timer + 2 ^ 64 := by
    rw [← Int.add_emod_right, Int.emod_eq_of_lt (by omega) (by omega)]
  rw [hulong] at hx
  rintro rfl
  omega

/-- The text that is written is that of a moment, and that moment is the instant if the year
fits. -/
lemma stampText_moment (hlong : tg.longBits = 64)
    (ht : -2 ^ 63 ≤ p.timestamp.timestamp ∧ p.timestamp.timestamp < 2 ^ 63)
    (h0 : p.timestamp.timestamp ≠ 0)
    (hmicro : 0 ≤ p.timestamp.micro ∧ p.timestamp.micro ≤ 999999) :
    ∃ x : Moment, stampText tg p = isoText x p.timestamp.micro.toNat ++ lit "," ∧
      (x.seconds = p.timestamp.timestamp ↔ YearFits p.timestamp.timestamp) := by
  have hint : toInt32 p.timestamp.micro = p.timestamp.micro.toNat := by
    rw [toInt32_eq (by omega) (by omega), Int.toNat_of_nonneg hmicro.1]
  have htext {x : Moment} {wday yday : ℤ} (hrun : xiGmtime 64 p.timestamp.timestamp =
      some (fields x.year x.month x.day x.second wday yday)) :
      stampText tg p = isoText x p.timestamp.micro.toNat ++ lit "," := by
    rw [stampText, if_neg h0, hlong, hrun, Option.elim_some, hint, timestampText_fields]
  by_cases hfits : YearFits p.timestamp.timestamp
  · obtain ⟨x, hx, -, -, hrun⟩ := @xiGmtime_moment 64 _ hfits.1.le (by omega) hfits.2
    exact ⟨x, htext hrun, iff_of_true hx hfits⟩
  · obtain ⟨x, wday, yday, hyear, hsecond, hrun⟩ := xiGmtime_fields p.timestamp.timestamp
    refine ⟨x, htext hrun, iff_of_false (fun hx => ?_) hfits⟩
    by_cases hpos : 0 < p.timestamp.timestamp
    · -- the year that is found is an `int`, and that of the instant is not
      have hmono := daysToYear_mono (Int.add_one_le_iff.mpr hyear)
      refine hfits ⟨hpos, ?_⟩
      rw [← hx, x.seconds_div]
      exact x.dayCount_bounds.2.trans_le hmono
    · exact not_seconds_of_neg hsecond ht.1 (by omega) hx

/-! ### Runs of the encoder -/

/-- A datapoint that can be read is printed, or the encoder returns -1. -/
lemma inPlace_readable (hp : p.Readable) {t : Text} (ht : t.length < n) (e : XiErr) {b : Buf n}
    (hb : Starts t b) :
    (∀ v, datapointText tg p = some v → t.length + v.length < n → ∃ b',
      csvEncodeDatapointInPlace tg t.length (n - t.length) p e b = .ret v.length e b' ∧
        Starts (t ++ v ++ [0]) b') ∧
    (¬ FitsAt n t.length (datapointText tg p) → ∃ x b',
      csvEncodeDatapointInPlace tg t.length (n - t.length) p e b = .ret (-1) x b') := by
  obtain ⟨hfit, hover⟩ := builds_inPlace (n := n) tg hp t ht
  refine ⟨fun v hv hlt => ?_, fun hno => ?_⟩
  · obtain ⟨b', hrun, hstarts⟩ := hfit v hv hlt e b hb
    exact ⟨b', hrun, hstarts⟩
  · obtain ⟨x, Q, -, hret⟩ := hover hno
    obtain ⟨b', hrun, -⟩ := hret e b hb
    exact ⟨_, b', hrun⟩

/-! ### The instants that are written right -/

lemma starts_stamp {x : Moment} {micro : ℕ} {t v : Text} {b : Buf n}
    (hstamp : stampText tg p = isoText x micro ++ lit ",") (hv : datapointText tg p = some v)
    (hb : Starts (t ++ v ++ [0]) b) : Starts (t ++ isoText x micro ++ lit ",") b := by
  obtain ⟨value, -, rfl⟩ := Option.map_eq_some_iff.mp hv
  rw [hstamp] at hb
  refine List.IsPrefix.trans ⟨value ++ lit "\n" ++ [0], ?_⟩ hb
  simp only [List.append_assoc]

section Instants

variable (hlong : tg.longBits = 64)
  (ht : -2 ^ 63 ≤ p.timestamp.timestamp ∧ p.timestamp.timestamp < 2 ^ 63)
  (h0 : p.timestamp.timestamp ≠ 0)
  (hmicro : 0 ≤ p.timestamp.micro ∧ p.timestamp.micro ≤ 999999)

include hlong ht h0 hmicro

/-- Into an array with enough room, the text of another moment is written. -/
lemma not_denotes (hp : p.Readable) (hyear : ¬ YearFits p.timestamp.timestamp)
    (htype : ¬ Untyped p) : ¬ Denotes tg p := by
  intro hdenotes
  obtain ⟨x, hstamp, hx⟩ := stampText_moment hlong ht h0 hmicro
  obtain ⟨v, hv⟩ := @exists_datapointText tg p hp htype
  have hroom : ([] : Text).length < v.length + 1 := Nat.zero_lt_succ _
  have hstarts := starts_nil (zero (v.length + 1))
  obtain ⟨b', hrun, hb'⟩ := (inPlace_readable hp hroom .noErr hstarts).1 v hv (by simp)
  obtain ⟨y, hy, hwritten⟩ := (hdenotes _ [] .noErr _ hroom hstarts).2 _ _ _ hrun (by omega)
  have hxy : x = y := by
    obtain ⟨u, hu⟩ := starts_stamp hstamp hv hb'
    obtain ⟨w, hw⟩ := hwritten
    simp only [List.nil_append, List.append_assoc] at hu hw
    exact isoText_injective (by omega) (hu.trans hw.symm)
  exact hyear (hx.mp (hxy ▸ hy))

/-- What is written is the text of the instant. -/
lemma denotes_of_fits (hp : p.Readable) (hcond : YearFits p.timestamp.timestamp ∨ Untyped p) :
    Denotes tg p := by
  obtain ⟨x, hstamp, hx⟩ := stampText_moment hlong ht h0 hmicro
  intro n t e b hlt hb
  obtain ⟨hprinted, hover⟩ := inPlace_readable hp hlt e hb
  by_cases hfit : FitsAt n t.length (datapointText tg p)
  · obtain ⟨v, hv, hroom⟩ := hfit
    obtain ⟨b', hrun, hb'⟩ := hprinted v hv hroom
    have hfits : YearFits p.timestamp.timestamp :=
      hcond.resolve_right fun hno => by simp [datapointText_eq_none hno] at hv
    refine ⟨⟨_, _, _, hrun⟩, fun s e' c hret _ => ?_⟩
    rw [hrun] at hret
    cases hret
    exact ⟨x, hx.mpr hfits, starts_stamp hstamp hv hb'⟩
  · obtain ⟨y, b', hrun⟩ := hover hfit
    refine ⟨⟨_, _, _, hrun⟩, fun s e' c hret hs => ?_⟩
    rw [hrun] at hret
    cases hret
    exact absurd rfl hs

/-- **Written instants**: with a `long` of 64 bits, what the encoder writes for a datapoint it can
read denotes its instant exactly if the instant is after the epoch and its year is an `int`, or the
type of the datapoint is none of the known ones and nothing is ever written. -/
theorem denotes_iff (hp : p.Readable) :
    Denotes tg p ↔ YearFits p.timestamp.timestamp ∨ Untyped p := by
  refine ⟨fun hdenotes => ?_, denotes_of_fits hlong ht h0 hmicro hp⟩
  by_contra hno
  obtain ⟨hyear, htype⟩ := not_or.mp hno
  exact not_denotes hlong ht h0 hmicro hp hyear htype hdenotes

end Instants

/-- A datapoint with the integer 0. -/
def zeroAt (timestamp : ℤ) : XiDatapoint := ⟨zero _, .i32, ⟨timestamp, 0⟩⟩

lemma readable_zeroAt (timestamp : ℤ) : (zeroAt timestamp).Readable := by
  intro hstr
  cases hstr

/-- The first second of the year 2014. -/
theorem denotes_2014 : Denotes posixConfig (zeroAt 1388534400) :=
  (denotes_iff rfl (by decide) (by decide) (by decide) (readable_zeroAt _)).mpr
    (.inl (by unfold YearFits; decide))

/-- The second in front of the epoch. -/
theorem not_denotes_before : ¬ Denotes posixConfig (zeroAt (-1)) := by
  refine not_denotes rfl (by decide) (by decide) (by decide) (readable_zeroAt _)
    (fun hfits => ?_) ?_
  · exact absurd hfits.1 (by decide)
  · rintro ⟨code, hcode⟩
    cases hcode

end LibXively.StampText
