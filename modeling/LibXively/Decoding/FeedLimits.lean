import LibXively.Calendar.Instants
import LibXively.Decoding.LineLocality
import LibXively.Decoding.Stamps
import LibXively.Decoding.Typing

/-!
How many lines a feed holds, and how long an id may be.

The loop looks for the end of the datastreams behind a line it has decoded, and gives up on the
line that fills the last one. The copier of ids cuts an id to the room there is, and what it
returns then passes for an id that fits.
-/

namespace LibXively.FeedLimits

open LibXively.Bytes LibXively.Decimal LibXively.Scanf LibXively.CProc LibXively.CharArray
open LibXively.Gregorian LibXively.Structures LibXively.CsvData LibXively.Values
open LibXively.Numbers LibXively.Typing LibXively.Datapoints LibXively.Stamps LibXively.Feeds
open LibXively.LineLocality

/-! ### Lines of a feed -/

/-- A line of a feed: an id that fits, a moment between the first second of 1970 and the last one
of a `time_t` of 32 bits, and the text of an `int32_t`. -/
structure StreamLine where
  id : Text
  moment : Moment
  micro : ℕ
  value : Text
  id_ne_nil : id ≠ []
  id_lt : id.length < xiMaxDatastreamName
  id_plain : ∀ c ∈ id, c ≠ 44 ∧ c ≠ 13 ∧ c ≠ 10 ∧ c ≠ 0
  from_1970 : 1 ≤ moment.seconds
  to_2038 : moment.seconds ≤ 2147483647
  micro_le : micro ≤ 999999
  value_int : IntText value
  value_range : InInt32 (intOf value)
  value_lt : value.length < xiValueStringMaxSize

namespace StreamLine

/-- `id,timestamp,value` -/
def text (l : StreamLine) : Text := l.id ++ 44 :: (isoText l.moment l.micro ++ 44 :: l.value)

/-- A datastream with the id, the instant and the integer of a line. -/
structure Holds (l : StreamLine) (d : XiDatastream) : Prop where
  id : cstr d.datastreamId = some l.id
  count : d.datapointCount = 1
  timestamp : (d.datapoints 0).timestamp = ⟨l.moment.seconds, l.micro⟩
  valueType : (d.datapoints 0).valueType = .i32
  value : i32Value (d.datapoints 0).value = intOf l.value

variable {tg : Target}

lemma comma_not_mem_isoText (l : StreamLine) : 44 ∉ isoText l.moment l.micro := fun h =>
  absurd (of_mem_isoText h) (by decide)

lemma strstr_text (l : StreamLine) : strstr (lit ",") l.text = some l.id.length :=
  strstr_singleton_append (fun h => (l.id_plain 44 h).1 rfl) _

lemma newline_not_mem (l : StreamLine) : 10 ∉ l.text := by
  have hid : 10 ∉ l.id := fun h => (l.id_plain 10 h).2.2.1 rfl
  have hstamp : 10 ∉ isoText l.moment l.micro := fun h => absurd (of_mem_isoText h) (by decide)
  have hvalue : 10 ∉ l.value := fun h =>
    absurd (endsValue_fieldByte (fieldByte_int l.value_int 10 h)) (by decide)
  simp [text, hid, hstamp, hvalue]

lemma twoCommas_text (l : StreamLine) : TwoCommas l.text := twoCommas_of_mem (by simp)

/-- A line is decoded to a datastream that holds it. -/
lemma decodeStream_text (hlong : 32 ≤ tg.longBits) (l : StreamLine) (e : XiErr)
    (d : XiDatastream) : ∃ d', decodeStream tg l.text e d = .ret () e d' ∧ l.Holds d' := by
  have hfrom := l.from_1970
  have hto := l.to_2038
  have h1970 := (l.moment.seconds_nonneg_iff).mp (by omega)
  have hroom : (2 : ℤ) ^ 31 ≤ 2 ^ (tg.longBits - 1) := by
    exact_mod_cast Nat.pow_le_pow_right (by norm_num) (by omega : 31 ≤ tg.longBits - 1)
  have hbyte := fieldByte_int l.value_int
  have hdrop : l.text.drop (l.id.length + 1) =
      isoText l.moment l.micro ++ 44 :: l.value := by simp [text]
  have hvalue : (isoText l.moment l.micro ++ 44 :: l.value).drop
      ((isoText l.moment l.micro).length + 1) = l.value := by simp
  have hstamp : readStamp tg (isoText l.moment l.micro ++ 44 :: l.value) =
      .ok ⟨l.moment.seconds, l.micro⟩ := by
    rw [readStamp_isoText hlong h1970 (year_le_9999 (by omega)) (by omega) l.micro_le,
      if_neg (by omega)]
  have hfield : fieldOf l.value = fieldOf (l.value ++ [0]) := by
    rw [fieldOf_field hbyte (by decide),
      fieldOf_eq_self fun c hc => endsValue_fieldByte (hbyte c hc)]
  obtain ⟨p, hrun, htype, hint, htime⟩ := @csvDecodeValue_int tg l.value l.value_int l.value_lt 0
    (by decide) [] e { XiDatapoint.zero with timestamp := ⟨l.moment.seconds, l.micro⟩ }
  rw [← csvDecodeValue_local hfield, ← hvalue] at hrun
  have hpoint := csvDecodeDatapoint_value
    (strstr_singleton_append l.comma_not_mem_isoText l.value) hstamp hrun
  refine ⟨named d l.text p 1, by rw [decodeStream_comma l.strstr_text, hdrop, hpoint], ?_⟩
  have hid : copied xiMaxDatastreamName 44 l.text = l.id := by
    rw [text, copied_line (fun h => (l.id_plain 44 h).1 rfl) fun h => (l.id_plain 0 h).2.2.2 rfl]
    exact List.take_of_length_le (Nat.le_of_lt_succ l.id_lt)
  constructor
  · rw [cstr_named, hid]
  · rfl
  · simpa [named] using htime
  · simpa [named] using htype
  · simpa [named, toInt32_eq l.value_range.1 l.value_range.2] using hint

end StreamLine

/-! ### The number of lines -/

/-- The lines, with an end of line between any two of them. -/
def feedText (ls : List StreamLine) : Text := [10].intercalate (ls.map StreamLine.text)

/-- Lines for which there are datastreams are decoded into these in their order, and more lines are
refused, inside the array. -/
def CapacityUsed (tg : Target) (ls : List StreamLine) : Prop :=
  (ls.length ≤ xiMaxDatastreams → ∀ e f, ∃ f',
    csvDecodeFeed tg (feedText ls) e f = .ret true e f' ∧ f'.datastreamCount = ls.length ∧
      ∀ (i : Fin xiMaxDatastreams) l, ls[i.val]? = some l → l.Holds (f'.datastreams i)) ∧
  (xiMaxDatastreams < ls.length → ∀ e f, ∃ x f',
    csvDecodeFeed tg (feedText ls) e f = .ret false x f')

variable {tg : Target} {ls : List StreamLine}

lemma linesOf_feedText (hne : ls ≠ []) : linesOf (feedText ls) = ls.map StreamLine.text := by
  refine List.splitOn_intercalate 10 ?_ (by simpa using hne)
  rintro t ht
  obtain ⟨l, -, rfl⟩ := List.mem_map.mp ht
  exact l.newline_not_mem

lemma acceptsLine_of_ret {t : Text} {e e' : XiErr} {d d' : XiDatastream}
    (h : decodeStream tg t e d = .ret () e' d') : AcceptsLine tg t := by
  by_contra hno
  obtain ⟨d'', hrun⟩ := decodeStream_rejects hno e d
  rw [h] at hrun
  cases hrun

/-- The lines are accepted exactly if they leave a datastream free. -/
lemma acceptsFeed_feedText (hlong : 32 ≤ tg.longBits) (hne : ls ≠ []) :
    AcceptsFeed tg (feedText ls) ↔ ls.length < xiMaxDatastreams := by
  rw [AcceptsFeed, linesOf_feedText hne]
  constructor
  · rintro ⟨hcount, -⟩
    simpa using hcount
  · refine fun hcount => ⟨by simpa using hcount, fun j hj => ?_⟩
    rw [List.length_map] at hj
    obtain ⟨d', hrun, -⟩ := StreamLine.decodeStream_text hlong ls[j] .noErr .zero
    have hline : (ls.map StreamLine.text)[j]? = some ls[j].text := by simp [hj]
    rcases intercalate_drop hline with heq | ⟨r, heq⟩
    · rw [heq]
      exact acceptsLine_of_ret hrun
    · rw [heq]
      rw [← decodeStream_append ls[j].twoCommas_text r] at hrun
      exact acceptsLine_of_ret hrun

/-- **Capacity**: a feed of one line or more is decoded as long as there are datastreams for it,
except for the one length that fills them all. -/
theorem capacity_iff (tg : Target) (hlong : 32 ≤ tg.longBits) (ls : List StreamLine)
    (hne : ls ≠ []) : CapacityUsed tg ls ↔ ls.length ≠ xiMaxDatastreams := by
  have haccepts := acceptsFeed_feedText hlong hne
  constructor
  · rintro ⟨hfits, -⟩ hfull
    obtain ⟨f', hrun, -⟩ := hfits hfull.le .noErr .zero
    have hlt := haccepts.mp (csvDecodeFeed_ret hrun).1
    omega
  · refine fun hfull => ⟨fun hle e f => ?_, fun hlt e f => ?_⟩
    · obtain ⟨f', hrun, -, hcount, hdec, -⟩ :=
        csvDecodeFeed_accepts (haccepts.mpr (by omega)) e f
      rw [linesOf_feedText hne] at hcount hdec
      refine ⟨f', hrun, by simpa using hcount, fun i l hl => ?_⟩
      have hline : (ls.map StreamLine.text)[i.val]? = some l.text := by simp [hl]
      have hstream := decoded_line hdec hline l.twoCommas_text i rfl
      obtain ⟨d', hd', hholds⟩ := l.decodeStream_text hlong e (f.datastreams i)
      rw [hstream] at hd'
      injection hd' with _ _ hd'
      rwa [hd']
    · obtain ⟨m, g, hrej, -⟩ := csvDecodeFeed_rejects (mt haccepts.mp (by omega)) e f
      exact ⟨_, g, hrej⟩

lemma plainLine_id :
    (lit "a").length < xiMaxDatastreamName ∧
      ∀ c ∈ lit "a", c ≠ 44 ∧ c ≠ 13 ∧ c ≠ 10 ∧ c ≠ 0 :=
  ⟨by decide, by decide +kernel⟩

lemma plainLine_moment :
    1 ≤ Instants.newYear2014.seconds ∧ Instants.newYear2014.seconds ≤ 2147483647 := by decide

lemma plainLine_value :
    IntText (lit "5") ∧ InInt32 (intOf (lit "5")) ∧ (lit "5").length < xiValueStringMaxSize :=
  ⟨⟨[], lit "5", .inl rfl, by unfold Digits; decide +kernel, by decide, rfl⟩,
    by unfold InInt32; decide, by decide⟩

/-- The line `a,2014-01-01T00:00:00.000000Z,5`. -/
def plainLine : StreamLine where
  id := lit "a"
  moment := Instants.newYear2014
  micro := 0
  value := lit "5"
  id_ne_nil := List.cons_ne_nil _ _
  id_lt := plainLine_id.1
  id_plain := plainLine_id.2
  from_1970 := plainLine_moment.1
  to_2038 := plainLine_moment.2
  micro_le := Nat.zero_le _
  value_int := plainLine_value.1
  value_range := plainLine_value.2.1
  value_lt := plainLine_value.2.2

lemma secondLine_id :
    (lit "bc").length < xiMaxDatastreamName ∧
      ∀ c ∈ lit "bc", c ≠ 44 ∧ c ≠ 13 ∧ c ≠ 10 ∧ c ≠ 0 :=
  ⟨by decide, by decide +kernel⟩

/-- The line `bc,2014-01-01T00:00:00.000000Z,5`. -/
def secondLine : StreamLine :=
  { plainLine with
    id := lit "bc"
    id_ne_nil := List.cons_ne_nil _ _
    id_lt := secondLine_id.1
    id_plain := secondLine_id.2 }

theorem capacity_three : CapacityUsed posixConfig [plainLine, secondLine, plainLine] :=
  (capacity_iff posixConfig (by decide) [plainLine, secondLine, plainLine] (by simp)).mpr
    (by decide)

/-- Sixteen lines are refused. -/
theorem capacity_not_full : ¬ CapacityUsed posixConfig (List.replicate 16 plainLine) := by
  rintro ⟨hfits, -⟩
  obtain ⟨f', hrun, -⟩ := hfits (by simp) .noErr .zero
  have hlt := (acceptsFeed_feedText (by decide) (by simp)).mp (csvDecodeFeed_ret hrun).1
  rw [List.length_replicate] at hlt
  exact absurd hlt (lt_irrefl _)

/-! ### The length of an id -/

/-- The text behind the start of a line. -/
def lineStart (t : Text) (j : ℕ) : Text := [10].intercalate ((linesOf t).drop j)

/-- The id in front of the comma of a line. -/
def idText (t : Text) (j : ℕ) : Text := (lineStart t j).takeWhile (· ≠ 44)

/-- An id is the whole text in front of its comma, or the feed is refused, so that two ids stay
two. -/
structure IdsKept (tg : Target) (t : Text) : Prop where
  whole : ∀ e f e' f', csvDecodeFeed tg t e f = .ret true e' f' →
    ∀ i, i.val < f'.datastreamCount → cstr (f'.datastreams i).datastreamId = some (idText t i)
  long : (∃ j < (linesOf t).length, xiMaxDatastreamName ≤ (idText t j).length) →
    ∀ e f, ∃ f', csvDecodeFeed tg t e f = .ret false .csvDecodeFeedParserError f'
  apart : ∀ e f e' f', csvDecodeFeed tg t e f = .ret true e' f' →
    ∀ i k : Fin xiMaxDatastreams, i.val < f'.datastreamCount → k.val < f'.datastreamCount →
      idText t i ≠ idText t k →
        cstr (f'.datastreams i).datastreamId ≠ cstr (f'.datastreams k).datastreamId

/-- Every id of the text is shorter than the array for it. -/
def IdsFit (t : Text) : Prop :=
  ∀ j < (linesOf t).length, (idText t j).length < xiMaxDatastreamName

lemma intercalate_drop_suffix (ls : List Text) (j : ℕ) :
    [10].intercalate (ls.drop j) <:+ [10].intercalate ls := by
  induction j generalizing ls with
  | zero => exact List.suffix_refl _
  | succ j ih =>
    cases ls with
    | nil => exact List.suffix_refl _
    | cons l ls =>
      rw [List.drop_succ_cons]
      refine (ih ls).trans ?_
      cases ls with
      | nil => exact List.nil_suffix
      | cons l' ls =>
        rw [intercalate_line]
        exact ((List.suffix_cons 10 _).trans (List.suffix_append l _))

lemma zero_not_mem_lineStart {t : Text} (h0 : 0 ∉ t) (j : ℕ) : 0 ∉ lineStart t j := by
  intro hm
  have hsuffix := intercalate_drop_suffix (linesOf t) j
  rw [intercalate_linesOf] at hsuffix
  exact h0 (hsuffix.subset hm)

/-- What is copied of the id of a line with a comma. -/
lemma copied_lineStart {t : Text} (h0 : 0 ∉ t) {j i : ℕ}
    (hi : strstr (lit ",") (lineStart t j) = some i) :
    copied xiMaxDatastreamName 44 (lineStart t j) = (idText t j).take 15 := by
  obtain ⟨hsplit, hcomma⟩ := strstr_singleton (c := 44) hi
  have h0' := zero_not_mem_lineStart h0 j
  have hid : idText t j = (lineStart t j).take i := by
    rw [idText, hsplit, takeWhile_append_stop (by simp), ← hsplit, List.takeWhile_eq_self_iff]
    intro c hc
    simpa using fun h44 : c = 44 => hcomma (h44 ▸ hc)
  rw [hid, hsplit, copied_line hcomma (fun hm => h0' (List.mem_of_mem_take hm)), ← hsplit]

/-- The ids of an accepted feed, as far as they fit. -/
lemma decoded_id {text : CString} {e e' : XiErr} {f f' : XiFeed}
    (hrun : csvDecodeFeed tg text.bytes e f = .ret true e' f') :
    AcceptsFeed tg text.bytes ∧ f'.datastreamCount = (linesOf text.bytes).length ∧
      ∀ i : Fin xiMaxDatastreams, i.val < f'.datastreamCount →
        cstr (f'.datastreams i).datastreamId = some ((idText text.bytes i).take 15) := by
  obtain ⟨haccepts, hcount, hdec⟩ := csvDecodeFeed_ret hrun
  refine ⟨haccepts, hcount, fun i hi => ?_⟩
  obtain ⟨k, p, hk, -, hd⟩ := decodeStream_ret (hdec i i (Nat.zero_add _) (by omega))
  rw [hd, cstr_named]
  exact congrArg some (copied_lineStart text.noNul hk)

/-- **Ids**: the ids of a text are kept exactly if a text that is accepted has no id to be cut. -/
theorem ids_kept_iff (tg : Target) (text : CString) :
    IdsKept tg text.bytes ↔ (AcceptsFeed tg text.bytes → IdsFit text.bytes) := by
  constructor
  · intro hkept haccepts j hj
    by_contra hlong
    obtain ⟨g, hrej⟩ := hkept.long ⟨j, hj, not_lt.mp hlong⟩ .noErr .zero
    obtain ⟨f', hrun, -⟩ := csvDecodeFeed_accepts haccepts .noErr .zero
    rw [hrej] at hrun
    injection hrun with hfalse
    exact absurd hfalse Bool.false_ne_true
  · intro hfit
    have hwhole (e : XiErr) (f : XiFeed) (e' : XiErr) (f' : XiFeed)
        (hrun : csvDecodeFeed tg text.bytes e f = .ret true e' f') (i : Fin xiMaxDatastreams)
        (hi : i.val < f'.datastreamCount) :
        cstr (f'.datastreams i).datastreamId = some (idText text.bytes i) := by
      obtain ⟨haccepts, hcount, hid⟩ := decoded_id hrun
      have hlt : (idText text.bytes i).length < 16 := hfit haccepts i (by omega)
      rw [hid i hi, List.take_of_length_le (by omega)]
    refine ⟨hwhole, fun ⟨j, hj, hlong⟩ e f => ?_, fun e f e' f' hrun i k hi hk hne => ?_⟩
    · have hno : ¬ AcceptsFeed tg text.bytes := fun haccepts =>
        absurd (hfit haccepts j hj) (not_lt.mpr hlong)
      obtain ⟨m, f', hrej, -⟩ := csvDecodeFeed_rejects hno e f
      exact ⟨f', hrej⟩
    · rw [hwhole e f e' f' hrun i hi, hwhole e f e' f' hrun k hk]
      exact fun heq => hne (Option.some.inj heq)

/-- Two lines with ids that differ in their last character. -/
def longIds : CString :=
  ⟨lit "0123456789abcdeX,2014-01-01T00:00:00.000000Z,1\n" ++
    lit "0123456789abcdeY,2014-01-01T00:00:00.000000Z,2", by decide +kernel⟩

/-- The two ids are cut to the same one. -/
theorem ids_not_kept : ∃ f',
    csvDecodeFeed posixConfig longIds.bytes .noErr .zero = .ret true .noErr f' ∧
    cstr (f'.datastreams 0).datastreamId = some (lit "0123456789abcde") ∧
    cstr (f'.datastreams 1).datastreamId = some (lit "0123456789abcde") ∧
    ¬ IdsKept posixConfig longIds.bytes := by
  obtain ⟨f', hrun, -⟩ := @csvDecodeFeed_accepts posixConfig longIds.bytes (by decide +kernel)
    .noErr .zero
  obtain ⟨-, hcount, hid⟩ := decoded_id hrun
  have hlines : (linesOf longIds.bytes).length = 2 := by decide +kernel
  have hfirst := hid 0 (by rw [hcount, hlines]; decide)
  have hsecond := hid 1 (by rw [hcount, hlines]; decide)
  refine ⟨f', hrun, ?_, ?_, fun hkept => ?_⟩
  · rw [hfirst]
    decide +kernel
  · rw [hsecond]
    decide +kernel
  · have hwhole := hkept.whole _ _ _ _ hrun 0 (by rw [hcount, hlines]; decide)
    rw [hfirst] at hwhole
    exact absurd hwhole (by decide +kernel)

end LibXively.FeedLimits
