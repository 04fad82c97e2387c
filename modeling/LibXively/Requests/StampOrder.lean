import LibXively.CLib.TextOrder
import LibXively.Requests.StampText

/-!
Lines sorted as texts are sorted in time.

The fields of a timestamp stand in the order of their weight and have one width each. Two lines the
encoder writes are therefore, byte by byte, in the order of their instants.
-/

namespace LibXively.StampOrder

open LibXively.Bytes LibXively.Decimal LibXively.CProc LibXively.CharArray LibXively.TextOrder
open LibXively.Gregorian LibXively.Structures LibXively.CsvData LibXively.Append LibXively.CsvText
open LibXively.Stamps LibXively.StampText

/-- The instant of a datapoint, in microseconds. -/
def instant (p : XiDatapoint) : ℤ := p.timestamp.timestamp * 1000000 + p.timestamp.micro

/-- The datapoint has a timestamp of its own, in front of the year 10000. -/
structure Dated (p : XiDatapoint) : Prop where
  timestamp : 1 ≤ p.timestamp.timestamp ∧ p.timestamp.timestamp ≤ 253402300799
  micro : 0 ≤ p.timestamp.micro ∧ p.timestamp.micro ≤ 999999

/-- A run of the encoder returns the line of the datapoint. -/
def Writes (tg : Target) (p : XiDatapoint) (line : Text) : Prop :=
  ∃ (e : XiErr) (b : Buf tg.csvBufferSize) (e' : XiErr) (b' : Buf tg.csvBufferSize),
    csvEncodeDatapoint tg p e b = .ret (some line) e' b'

variable {tg : Target} {p q : XiDatapoint} {x y : Moment} {micro nano : ℕ} {t u : Text}

/-! ### Timestamps -/

/-- The hour, the minute and the second of a moment tell its second. -/
lemma clock_lt_iff (r s : ℕ) (later : Prop) :
    (r / 3600 < s / 3600 ∨ r / 3600 = s / 3600 ∧ (r % 3600 / 60 < s % 3600 / 60 ∨
      r % 3600 / 60 = s % 3600 / 60 ∧ (r % 60 < s % 60 ∨ r % 60 = s % 60 ∧ later))) ↔
      r < s ∨ r = s ∧ later := by
  by_cases h : later
  · simp only [h, and_true]
    omega
  · simp only [h, and_false, or_false]
    omega

lemma pair_lt_iff {m n : ℕ} (hm : m < 100) (hn : n < 100) :
    pad 2 m ++ t < pad 2 n ++ u ↔ m < n ∨ m = n ∧ t < u :=
  pad_append_lt_iff (by norm_num) hm hn

lemma clockText_lt_iff (x y : Moment) :
    pad 2 (x.second / 3600) ++ 58 :: (pad 2 (x.second % 3600 / 60) ++
        58 :: (pad 2 (x.second % 60) ++ t)) <
      pad 2 (y.second / 3600) ++ 58 :: (pad 2 (y.second % 3600 / 60) ++
        58 :: (pad 2 (y.second % 60) ++ u)) ↔
      x.second < y.second ∨ x.second = y.second ∧ t < u := by
  have hx := x.second_lt
  have hy := y.second_lt
  rw [pair_lt_iff (by omega) (by omega), cons_lt_cons_self, pair_lt_iff (by omega) (by omega),
    cons_lt_cons_self, pair_lt_iff (by omega) (by omega)]
  exact clock_lt_iff x.second y.second (t < u)

lemma isoTail_lt_iff (hmicro : micro ≤ 999999) (hnano : nano ≤ 999999) :
    isoTail x micro ++ t < isoTail y nano ++ u ↔
      x.month < y.month ∨ x.month = y.month ∧ (x.day < y.day ∨ x.day = y.day ∧
        (x.second < y.second ∨ x.second = y.second ∧ (micro < nano ∨ micro = nano ∧ t < u))) := by
  have hxday := day_lt_31 x
  have hyday := day_lt_31 y
  have hxmonth := x.month_lt
  have hymonth := y.month_lt
  simp only [isoTail_eq, List.cons_append, List.append_assoc, List.nil_append, cons_lt_cons_self]
  rw [pair_lt_iff (by omega) (by omega), cons_lt_cons_self, pair_lt_iff (by omega) (by omega),
    cons_lt_cons_self, clockText_lt_iff, cons_lt_cons_self,
    pad_append_lt_iff (by norm_num) (Nat.lt_succ_of_le hmicro) (Nat.lt_succ_of_le hnano),
    cons_lt_cons_self]
  simp only [Nat.add_lt_add_iff_right, Nat.add_right_cancel_iff]

/-- An order by two fields and by what is behind them. -/
lemma fields_lt_iff {before same before' same' later : Prop} :
    before ∨ same ∧ (before' ∨ same' ∧ later) ↔
      (before ∨ same ∧ before') ∨ (same ∧ same') ∧ later := by
  tauto

/-- Texts of moments are in the order of the moments and their microseconds. -/
lemma isoText_lt_iff (hx : 0 ≤ x.year ∧ x.year ≤ 9999) (hy : 0 ≤ y.year ∧ y.year ≤ 9999)
    (hmicro : micro ≤ 999999) (hnano : nano ≤ 999999) :
    isoText x micro ++ t < isoText y nano ++ u ↔
      x.Before y ∨ x = y ∧ (micro < nano ∨ micro = nano ∧ t < u) := by
  obtain ⟨m, hm⟩ := Int.eq_ofNat_of_zero_le hx.1
  obtain ⟨n, hn⟩ := Int.eq_ofNat_of_zero_le hy.1
  have hyear : pad 4 m ++ isoTail x micro ++ t < pad 4 n ++ isoTail y nano ++ u ↔
      m < n ∨ m = n ∧ isoTail x micro ++ t < isoTail y nano ++ u := by
    rw [List.append_assoc, List.append_assoc]
    exact pad_append_lt_iff (by norm_num) (by omega) (by omega)
  rw [isoText, isoText, hm, hn, fmtD0_natCast, fmtD0_natCast, hyear, isoTail_lt_iff hmicro hnano,
    Moment.Before, Moment.ext_iff, hm, hn, Int.ofNat_lt, Int.natCast_inj]
  generalize (micro < nano ∨ micro = nano ∧ t < u) = later
  simp only [fields_lt_iff, and_assoc]

/-- The text of a moment and its microseconds tells both. -/
lemma isoText_tells (hx : 0 ≤ x.year ∧ x.year ≤ 9999) (hy : 0 ≤ y.year ∧ y.year ≤ 9999)
    (hmicro : micro ≤ 999999) (hnano : nano ≤ 999999) (h : isoText x micro = isoText y nano) :
    x = y ∧ micro = nano := by
  have hlt := isoText_lt_iff (t := []) (u := []) hx hy hmicro hnano
  have hgt := isoText_lt_iff (t := []) (u := []) hy hx hnano hmicro
  rw [h, iff_false_left (List.lt_irrefl _)] at hlt
  rw [h, iff_false_left (List.lt_irrefl _)] at hgt
  rcases Moment.before_total x y with hbefore | rfl | hafter
  · exact absurd (.inl hbefore) hlt
  · refine ⟨rfl, ?_⟩
    by_contra hne
    rcases Nat.lt_or_gt_of_ne hne with hless | hmore
    · exact hlt (.inr ⟨rfl, .inl hless⟩)
    · exact hgt (.inr ⟨rfl, .inl hmore⟩)
  · exact absurd (.inl hafter) hgt

/-! ### Lines -/

lemma inPlace_eq {n : ℕ} (h0 : p.timestamp.timestamp ≠ 0) (a : ℕ) :
    csvEncodeDatapointInPlace (n := n) tg a (n - a) p = errHandling (-1) (stampStep tg a p 0 >>=
      fun o => valueSteps tg a p o >>= fun o => pure (o : ℤ)) := by
  simp [csvEncodeDatapointInPlace, stampStep, valueSteps, h0]

/-- A string that does not end is read over its end, unless there is no room for the timestamp. -/
lemma inPlace_unreadable (hp : ¬ p.Readable) (h0 : p.timestamp.timestamp ≠ 0) {n a : ℕ} {s : ℤ}
    {e e' : XiErr} {b b' : Buf n}
    (hrun : csvEncodeDatapointInPlace tg a (n - a) p e b = .ret s e' b') : s = -1 := by
  obtain ⟨hstr, hno⟩ := Classical.not_imp.mp hp
  have hvalue (o : ℕ) (x : XiErr) (c : Buf n) : valueSteps tg a p o x c = .fault .overread := by
    simp [valueSteps, csvEncodeValue, hstr, cstr_eq_none.mpr hno]
  rw [inPlace_eq h0] at hrun
  cases h : stampStep tg a p 0 e b with
  | ret o x c => simp [errHandling, h, hvalue] at hrun
  | goto x c =>
    simp only [errHandling, bind_apply, h, andThen_goto, Outcome.ret.injEq] at hrun
    exact hrun.1.symm
  | fault f => simp [errHandling, h] at hrun

/-- A line that is written is that of the datapoint. -/
lemma written_line (h0 : p.timestamp.timestamp ≠ 0) {line : Text} (h : Writes tg p line) :
    datapointText tg p = some line := by
  obtain ⟨e, b, e', b', hrun⟩ := h
  by_cases hp : p.Readable
  · obtain ⟨⟨v, hv, -⟩, hline⟩ := (csvEncodeDatapoint_spec tg hp tg.csv_pos).some hrun
    rw [hline, hv, Option.getD_some]
  · unfold csvEncodeDatapoint at hrun
    cases h : csvEncodeDatapointInPlace (n := tg.csvBufferSize) tg 0 tg.csvBufferSize p e b with
    | ret s x c =>
      have hs : s = -1 := inPlace_unreadable hp h0 (a := 0) (by simpa using h)
      subst hs
      rw [bind_ret h] at hrun
      cases hrun
    | goto x c => rw [bind_goto h] at hrun; cases hrun
    | fault f => rw [bind_fault h] at hrun; cases hrun

/-- The line of a dated datapoint begins with the text of its moment. -/
lemma dated_line (hlong : tg.longBits = 64) (hp : Dated p) {line : Text} (h : Writes tg p line) :
    ∃ (x : Moment) (v : Text), x.seconds = p.timestamp.timestamp ∧
      (0 ≤ x.year ∧ x.year ≤ 9999) ∧ valueText tg p = some v ∧
      line = isoText x p.timestamp.micro.toNat ++ (44 :: (v ++ lit "\n")) := by
  obtain ⟨h1, h2⟩ := hp.timestamp
  have h0 : p.timestamp.timestamp ≠ 0 := by omega
  have hyears : daysToYear (2 ^ 31) = 784351576777 := by decide
  have hfits : YearFits p.timestamp.timestamp := ⟨by omega, by omega⟩
  obtain ⟨x, hstamp, hx⟩ := stampText_moment hlong ⟨by omega, by omega⟩ h0 hp.micro
  have hseconds := hx.mpr hfits
  have hyear := (x.seconds_nonneg_iff).mp (by omega)
  obtain ⟨v, hv, hline⟩ := Option.map_eq_some_iff.mp (written_line h0 h)
  refine ⟨x, v, hseconds, ⟨by omega, year_le_9999 (by omega)⟩, hv, ?_⟩
  rw [← hline, hstamp]
  simp only [show lit "," = [44] from rfl, List.append_assoc, List.cons_append, List.nil_append]

/-- **Lines sorted as texts are sorted in time**: of two dated datapoints with any values, encoded
into buffers of any size, the line of the one is in front of that of the other, byte by byte, if and
only if its instant is, or their instants are the same and its value is in front of the other's. -/
theorem lines_in_order (hlong : tg.longBits = 64) (hp : Dated p) (hq : Dated q) {a b : Text}
    (ha : Writes tg p a) (hb : Writes tg q b) :
    ∃ v w, valueText tg p = some v ∧ valueText tg q = some w ∧
      (a < b ↔ instant p < instant q ∨ instant p = instant q ∧ v ++ lit "\n" < w ++ lit "\n") := by
  obtain ⟨x, v, hx, hxyear, hv, rfl⟩ := dated_line hlong hp ha
  obtain ⟨y, w, hy, hyyear, hw, rfl⟩ := dated_line hlong hq hb
  obtain ⟨hp1, hp2⟩ := hp.micro
  obtain ⟨hq1, hq2⟩ := hq.micro
  refine ⟨v, w, hv, hw, ?_⟩
  have hsame : x = y ↔ x.seconds = y.seconds := ⟨congrArg _, Moment.seconds_injective⟩
  rw [isoText_lt_iff hxyear hyyear (by omega) (by omega), cons_lt_cons_self,
    ← Moment.seconds_lt_iff, hsame, hx, hy]
  simp only [instant]
  by_cases hlt : v ++ lit "\n" < w ++ lit "\n"
  · simp only [hlt, and_true]
    omega
  · simp only [hlt, and_false, or_false]
    omega

theorem lines_in_order_2014 : ∃ a b, Writes posixConfig (zeroAt 1388534400) a ∧
    Writes posixConfig (zeroAt 1388534401) b ∧ a < b := by
  have hwrites (t : ℤ) (h : FitsAt 128 0 (datapointText posixConfig (zeroAt t))) :
      ∃ line, Writes posixConfig (zeroAt t) line := by
    have hreadable : (zeroAt t).Readable := fun hs => absurd hs (by simp [zeroAt])
    obtain ⟨b', hrun, -⟩ := (csvEncodeDatapoint_spec posixConfig hreadable (by decide)).1 h
      .noErr (zero 128) trivial
    exact ⟨_, .noErr, zero _, _, b', hrun⟩
  obtain ⟨a, ha⟩ := hwrites 1388534400 ⟨_, rfl, by decide +kernel⟩
  obtain ⟨b, hb⟩ := hwrites 1388534401 ⟨_, rfl, by decide +kernel⟩
  obtain ⟨v, w, -, -, horder⟩ := lines_in_order rfl
    ⟨by decide, by decide⟩ ⟨by decide, by decide⟩ ha hb
  exact ⟨a, b, ha, hb, horder.mpr (.inl (by decide))⟩

end LibXively.StampOrder
