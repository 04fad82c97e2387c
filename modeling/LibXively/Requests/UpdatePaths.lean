import LibXively.Decoding.FeedFormat

/-!
The datapoints the ways of an update have room for.

The line of a datapoint in a feed is built in a buffer of the size of the content headers, and the
line of a datapoint or of a datastream on its own in a buffer of twice that size. The longest line
is too long for the first and fits the second.
-/

namespace LibXively.UpdatePaths

open LibXively.Bytes LibXively.Decimal LibXively.CProc LibXively.CharArray LibXively.Gregorian
open LibXively.XiTime LibXively.Gmtime LibXively.Mktime LibXively.Structures LibXively.CsvData
open LibXively.HttpTransport LibXively.Append LibXively.CsvText LibXively.Encoders
open LibXively.FeedRequests LibXively.Stamps LibXively.FeedFormat

/-- An integer or a string, without a timestamp or with one up to the year 9999. -/
structure Admissible (longBits : ℕ) (p : XiDatapoint) : Prop where
  value : p.valueType = .i32 ∨ p.valueType = .str ∧ 0 ∈ p.value.bytes
  long : p.timestamp.timestamp < 2 ^ (longBits - 1)
  instant : p.timestamp.timestamp = 0 ∨
    (1 ≤ p.timestamp.timestamp ∧ p.timestamp.timestamp ≤ 253402300799) ∧
      0 ≤ p.timestamp.micro ∧ p.timestamp.micro ≤ 999999

/-- A feed of one datastream with one datapoint. -/
structure HoldsOne (feed : XiFeed) (id : CString) (p : XiDatapoint) : Prop where
  streams : feed.datastreamCount = 1
  points : (feed.datastreams 0).datapointCount = 1
  id : cstr (feed.datastreams 0).datastreamId = some id.bytes
  point : (feed.datastreams 0).datapoints 0 = p

/-- The body of the feed is assembled, and so are the line of the datapoint and the line of the
datastream. -/
structure AdmittedAlike (tg : Target) (feed : XiFeed) (id : CString) (p : XiDatapoint) : Prop where
  feed : ∀ e, ∃ o b, updateBody tg feed e (zero tg.contentBufferSize) = .ret o e b
  datapoint : ∀ e (b : Buf tg.csvBufferSize), ∃ t b',
    csvEncodeDatapoint tg p e b = .ret (some t) e b'
  datastream : ∀ e (b : Buf tg.csvBufferSize), ∃ t b',
    csvEncodeCreateDatastream tg id p e b = .ret (some t) e b'

/-! ### The length of a line -/

/-- The length of the timestamp field with its comma. -/
def stampLength (p : XiDatapoint) : ℕ := if p.timestamp.timestamp = 0 then 0 else 28

/-- The length of an integer or a string. -/
def valueLength (p : XiDatapoint) : ℕ :=
  match p.valueType with
  | .i32 => (fmtD (i32Value p.value)).length
  | _ => ((cstr p.value).getD []).length

/-- The length of a line with the id of the datastream. -/
def lineLength (id : CString) (p : XiDatapoint) : ℕ :=
  id.bytes.length + 1 + stampLength p + valueLength p + 1

variable {tg : Target} {feed : XiFeed} {id : CString} {p : XiDatapoint}

lemma Admissible.readable (h : Admissible tg.longBits p) : p.Readable := by
  intro hstr
  rcases h.value with hint | ⟨-, h0⟩
  · rw [hint] at hstr
    cases hstr
  · exact h0

lemma Admissible.stampLength (h : Admissible tg.longBits p) :
    (stampText tg p).length = stampLength p := by
  by_cases h0 : p.timestamp.timestamp = 0
  · rw [stampText, UpdatePaths.stampLength, if_pos h0, if_pos h0]
    rfl
  · obtain ⟨⟨h1, h9999⟩, hmicro⟩ := h.instant.resolve_left h0
    have hlong : p.timestamp.timestamp < 2 ^ tg.longBits :=
      h.long.trans_le (pow_le_pow_right₀ (by norm_num) (Nat.sub_le _ _))
    have hyear : p.timestamp.timestamp / 86400 < daysToYear (2 ^ 31) := by
      have hmono := daysToYear_mono (y := 10000) (z := 2 ^ 31) (by norm_num)
      have h10000 : daysToYear 10000 = 2932897 := by decide
      omega
    obtain ⟨x, hx, h1970, -, hrun⟩ := xiGmtime_moment (by omega) hlong hyear
    have hint : toInt32 p.timestamp.micro = p.timestamp.micro.toNat := by
      rw [toInt32_eq (by omega) (by omega), Int.toNat_of_nonneg hmicro.1]
    have htext : stampText tg p = isoText x p.timestamp.micro.toNat ++ lit "," := by
      rw [stampText, if_neg h0, hrun, Option.elim_some, hint, brokenDown, timestampText_fields]
    rw [htext, List.length_append,
      length_isoText (by omega) (year_le_9999 (hx ▸ h9999)) (by omega),
      UpdatePaths.stampLength, if_neg h0]
    rfl

lemma Admissible.valueText (h : Admissible tg.longBits p) : ∃ v, valueText tg p = some v ∧
    v.length = valueLength p ∧ v.length ≤ 31 := by
  rcases h.value with hint | ⟨hstr, h0⟩
  · refine ⟨fmtD (i32Value p.value), by rw [CsvText.valueText, hint],
      by rw [valueLength, hint], ?_⟩
    have hle := length_fmtD_toInt32_le (wordOf p.value.bytes)
    rw [i32Value]
    omega
  · obtain ⟨s, hs⟩ := exists_cstr h0
    have hlt : s.length < 32 := length_lt_of_cstr hs
    exact ⟨s, by rw [CsvText.valueText, hstr, hs], by rw [valueLength, hstr, hs]; rfl, by omega⟩

/-- The line of an admissible datapoint. -/
lemma Admissible.createText (h : Admissible tg.longBits p) (id : CString) :
    ∃ u, createText tg id p = some u ∧ u.length = lineLength id p := by
  obtain ⟨v, hv, hlength, -⟩ := h.valueText
  refine ⟨_, by rw [CsvText.createText, datapointText, hv]; rfl, ?_⟩
  have hcomma : (lit ",").length = 1 := by decide
  have hend : (lit "\n").length = 1 := by decide
  simp only [List.length_append, h.stampLength, hlength, hcomma, hend, lineLength]
  omega

/-- No line is longer than 76 bytes. -/
lemma lineLength_le (h : Admissible tg.longBits p) (hid : id.bytes.length ≤ 15) :
    lineLength id p ≤ 76 := by
  obtain ⟨v, -, hlength, hle⟩ := h.valueText
  have hstamp : stampLength p ≤ 28 := by
    unfold stampLength
    split <;> omega
  rw [lineLength]
  omega

/-! ### The three buffers -/

/-- In a buffer of 128 bytes there is room for both lines. -/
lemma local_fits {n : ℕ} (h : Admissible tg.longBits p) (hid : id.bytes.length ≤ 15)
    (hn : 128 ≤ n) : FitsAt n 0 (datapointText tg p) ∧ FitsAt n 0 (createText tg id p) := by
  obtain ⟨u, hu, hlength⟩ := h.createText id
  have hle := lineLength_le h hid
  obtain ⟨a, v, -, hv, huv⟩ := cat_eq_some hu
  have hv_le : v.length ≤ u.length := by rw [huv, List.length_append]; omega
  rw [hu, hv, fitsAt_some, fitsAt_some]
  omega

lemma HoldsOne.readable (hf : HoldsOne feed id p) (hp : p.Readable) : feed.Readable := by
  have hfirst (i : Fin xiMaxDatastreams) (hi : i.val < feed.datastreamCount) : i = 0 :=
    Fin.ext (by rw [hf.streams] at hi; simpa using hi)
  refine ⟨by rw [hf.streams]; decide, fun i hi => ?_, fun i hi => ?_, fun i j hi hj => ?_⟩
  · rw [hfirst i hi]
    exact zero_mem_of_cstr hf.id
  · rw [hfirst i hi, hf.points]
    decide
  · rw [hfirst i hi, hf.points] at hj
    obtain rfl : j = 0 := Fin.ext (by simpa using hj)
    rw [hfirst i hi, hf.point]
    exact hp

/-- The body of such a feed is the line of a new datastream. -/
lemma HoldsOne.feedLines (hf : HoldsOne feed id p) :
    feedLines tg feed = CsvText.createText tg id p := by
  have hstreams : (0 : ℕ) < xiMaxDatastreams := by decide
  have hpoints : (0 : ℕ) < xiMaxDatapoints := by decide
  have hline : streamLines tg (feed.datastreams 0) = CsvText.createText tg id p := by
    rw [streamLines, hf.points, cats_succ, cats_zero, dif_pos hpoints]
    show cat (pointLine tg _ ((feed.datastreams 0).datapoints 0)) _ = _
    rw [pointLine, hf.id, hf.point, CsvText.createText]
    cases datapointText tg p <;> simp
  rw [Encoders.feedLines, hf.streams, cats_succ, cats_zero, dif_pos hstreams]
  show cat (streamLines tg (feed.datastreams 0)) _ = _
  rw [hline]
  cases CsvText.createText tg id p <;> simp

/-- **Ways of an update**: the three ways have room for the same datapoints exactly where the line
with the id of the datastream has fewer than 64 bytes. -/
theorem admittedAlike_iff (userAgent : CString) (longBits : ℕ) (atof : Text → UInt32)
    (fmtF : UInt32 → CString) (feed : XiFeed) (id : CString) (p : XiDatapoint)
    (hf : HoldsOne feed id p) (hp : Admissible longBits p) :
    AdmittedAlike (xiConfig userAgent longBits atof fmtF) feed id p ↔ lineLength id p < 64 := by
  let tg := xiConfig userAgent longBits atof fmtF
  have hadm : Admissible tg.longBits p := hp
  obtain ⟨u, hu, hlength⟩ := hadm.createText id
  have hid : id.bytes.length ≤ 15 := Nat.le_of_lt_succ (length_lt_of_cstr hf.id)
  have hreadable := hf.readable hadm.readable
  obtain ⟨hpoint, hstream⟩ := local_fits (n := tg.csvBufferSize) hadm hid le_rfl
  have hfits : FitsAt tg.contentBufferSize 0 (feedLines tg feed) ↔ lineLength id p < 64 := by
    rw [hf.feedLines, hu, fitsAt_some, Nat.zero_add, hlength]
    rfl
  constructor
  · intro h
    by_contra hno
    obtain ⟨x, b, hover⟩ := updateBody_overflows hreadable (mt hfits.mp hno) .noErr
    obtain ⟨o, b', hret⟩ := h.feed .noErr
    rw [hover] at hret
    cases hret
  · intro hlt
    refine ⟨fun e => ?_, fun e b => ?_, fun e b => ?_⟩
    · obtain ⟨o, b, body, hret, -⟩ := updateBody_fits hreadable (hfits.mpr hlt) e
      exact ⟨o, b, hret⟩
    · obtain ⟨b', hret, -⟩ :=
        (csvEncodeDatapoint_spec tg hadm.readable tg.csv_pos).1 hpoint e b trivial
      exact ⟨_, b', hret⟩
    · obtain ⟨b', hret, -⟩ :=
        (csvEncodeCreateDatastream_spec tg hadm.readable tg.csv_pos id).1 hstream e b trivial
      exact ⟨_, b', hret⟩

/-- A feed of one datastream with one datapoint. -/
def feedOf (id : CString) (p : XiDatapoint) : XiFeed :=
  { XiFeed.zero with
    datastreamCount := 1
    datastreams := fun _ => ⟨strncpy _ id.bytes, 1, fun _ => p⟩ }

lemma holdsOne_feedOf (hid : id.bytes.length ≤ 15) (p : XiDatapoint) :
    HoldsOne (feedOf id p) id p :=
  ⟨rfl, rfl, cstr_strncpy id.noNul (Nat.lt_succ_of_le hid), rfl⟩

/-- A string at the first instant of 2014. -/
def stringAt (s : Text) : XiDatapoint := ⟨strncpy _ s, .str, ⟨1388534400, 0⟩⟩

lemma admissible_stringAt {s : Text} (h0 : 0 ∉ s) (hs : s.length ≤ 31) :
    Admissible 64 (stringAt s) := by
  exact ⟨.inr ⟨rfl, zero_mem_of_cstr (cstr_strncpy h0 (Nat.lt_succ_of_le hs))⟩,
    by norm_num [stringAt], .inr (by norm_num [stringAt])⟩

def fullId : CString := ⟨lit "abcdefghijklmno", by decide⟩

/-- A string of twenty characters behind the longest id. -/
def fullValue : Text := lit "abcdefghijklmnopqrst"

theorem admittedAlike_short :
    AdmittedAlike posixConfig (feedOf smallId (stringAt (lit "on"))) smallId
      (stringAt (lit "on")) :=
  (admittedAlike_iff _ 64 _ _ _ smallId (stringAt (lit "on")) (holdsOne_feedOf (by decide) _)
    (admissible_stringAt (by decide) (by decide))).mpr (by decide)

/-- The line of 65 bytes does not fit the buffer of the feed. -/
theorem not_admittedAlike_full :
    HoldsOne (feedOf fullId (stringAt fullValue)) fullId (stringAt fullValue) ∧
    Admissible 64 (stringAt fullValue) ∧
    ¬ AdmittedAlike posixConfig (feedOf fullId (stringAt fullValue)) fullId
      (stringAt fullValue) := by
  have hf : HoldsOne (feedOf fullId (stringAt fullValue)) fullId (stringAt fullValue) :=
    holdsOne_feedOf (by decide) _
  have hp : Admissible posixConfig.longBits (stringAt fullValue) :=
    admissible_stringAt (by decide) (by decide)
  refine ⟨hf, hp, fun h => ?_⟩
  obtain ⟨u, hu, hlength⟩ := hp.createText fullId
  have hno : ¬ FitsAt posixConfig.contentBufferSize 0
      (Encoders.feedLines posixConfig (feedOf fullId (stringAt fullValue))) := by
    rw [hf.feedLines, hu, fitsAt_some, hlength]
    decide
  obtain ⟨x, b, hover⟩ := updateBody_overflows (hf.readable hp.readable) hno .noErr
  obtain ⟨o, b', hret⟩ := h.feed .noErr
  rw [hover] at hret
  cases hret

end LibXively.UpdatePaths
