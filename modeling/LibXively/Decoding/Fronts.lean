import LibXively.Decoding.FeedLimits
import LibXively.Decoding.TaggedValues

/-!
Contents that break off.

A number that is cut is read as a shorter number. A feed that is cut in a value, or in front of one,
is read as a feed that ends there, and a feed that is cut anywhere else is refused.
-/

namespace LibXively.Fronts

open LibXively.Bytes LibXively.Decimal LibXively.CProc LibXively.CharArray LibXively.Gregorian
open LibXively.Structures LibXively.CsvData LibXively.Values LibXively.Numbers LibXively.Typing
open LibXively.Datapoints LibXively.Stamps LibXively.Feeds LibXively.LineLocality
open LibXively.FeedLimits LibXively.TaggedValues

/-! ### Cut numbers -/

/-- Each digit that is cut off divides the value by ten. -/
lemma value_take {t : Text} (ht : Digits t) {k : ℕ} (hk : k ≤ t.length) :
    value (t.take (t.length - k)) = value t / 10 ^ k := by
  have hlen : (t.drop (t.length - k)).length = k := by
    rw [List.length_drop]
    omega
  have hlt := value_lt fun c hc => ht c (List.mem_of_mem_drop (i := t.length - k) hc)
  have hsplit := value_append (t.take (t.length - k)) (t.drop (t.length - k))
  rw [hlen] at hlt hsplit
  rw [List.take_append_drop] at hsplit
  rw [hsplit, mul_comm, Nat.mul_add_div (Nat.pow_pos (by norm_num)), Nat.div_eq_of_lt hlt,
    Nat.add_zero]

lemma intOf_digits {ds : Text} (hds : Digits ds) : intOf ds = value ds := by
  rw [intOf, if_neg]
  intro h45
  exact absurd (hds 45 (List.mem_of_head? h45)) (by decide)

lemma inInt32_tdiv {z : ℤ} (h : InInt32 z) (k : ℕ) : InInt32 (z.tdiv (10 ^ k)) := by
  obtain ⟨h1, h2⟩ := h
  rcases le_total 0 z with hz | hz
  · obtain ⟨m, rfl⟩ := Int.eq_ofNat_of_zero_le hz
    have hle : m / 10 ^ k ≤ m := Nat.div_le_self _ _
    have hdiv : (m : ℤ).tdiv (10 ^ k) = (m / 10 ^ k : ℕ) := by simp
    rw [hdiv]
    generalize m / 10 ^ k = q at hle
    constructor <;> omega
  · obtain ⟨m, hm⟩ := Int.eq_ofNat_of_zero_le (by omega : 0 ≤ -z)
    obtain rfl : z = -m := by omega
    have hle : m / 10 ^ k ≤ m := Nat.div_le_self _ _
    have hdiv : (-(m : ℤ)).tdiv (10 ^ k) = -(m / 10 ^ k : ℕ) := by simp [Int.neg_tdiv]
    rw [hdiv]
    generalize m / 10 ^ k = q at hle
    constructor <;> omega

/-- A number without its last `k` digits is a tenth of it, `k` times over. -/
lemma cut_int {s ds : Text} (hs : Sign s) (hds : Digits ds) (hrange : InInt32 (intOf (s ++ ds)))
    {k : ℕ} (hk : k < ds.length) :
    IntText (s ++ ds.take (ds.length - k)) ∧
      atoi (s ++ ds.take (ds.length - k)) = (intOf (s ++ ds)).tdiv (10 ^ k) := by
  have hfront : Digits (ds.take (ds.length - k)) := fun c hc => hds c (List.mem_of_mem_take hc)
  have hne : ds.take (ds.length - k) ≠ [] := by
    rw [ne_eq, List.take_eq_nil_iff, not_or]
    exact ⟨by omega, List.ne_nil_of_length_pos (by omega)⟩
  have hint : IntText (s ++ ds.take (ds.length - k)) := ⟨s, _, hs, hfront, hne, rfl⟩
  have hvalue := value_take hds hk.le
  have hcut : intOf (s ++ ds.take (ds.length - k)) = (intOf (s ++ ds)).tdiv (10 ^ k) := by
    rcases hs with rfl | rfl
    · rw [List.nil_append, List.nil_append, intOf_digits hfront, intOf_digits hds, hvalue]
      simp
    · have hminus (t : Text) : intOf ([45] ++ t) = -(value t : ℤ) := rfl
      rw [hminus, hminus, hvalue]
      simp [Int.neg_tdiv]
  obtain ⟨h1, h2⟩ := inInt32_tdiv hrange k
  exact ⟨hint, by rw [atoi_int hint, hcut, toInt32_eq h1 h2]⟩

/-! ### The front of a line -/

/-- The number of bytes in front of the value of a line. -/
def valueStart (l : StreamLine) : ℕ := l.id.length + (isoText l.moment l.micro).length + 2

/-- What the first `k` bytes of the value of a line are read as. -/
def frontValue (l : StreamLine) (k : ℕ) : Value :=
  if l.value.take k = [] ∨ l.value.take k = [45] then .str (l.value.take k)
  else .i32 (.ofInt ((intOf l.value).tdiv (10 ^ (l.value.length - k))))

/-- A datastream with the id and the instant of a line, and with the first `m` bytes of the line
for its value. -/
structure HoldsFront (tg : Target) (l : StreamLine) (m : ℕ) (d : XiDatastream) : Prop where
  id : cstr d.datastreamId = some l.id
  count : d.datapointCount = 1
  timestamp : (d.datapoints 0).timestamp = ⟨l.moment.seconds, l.micro⟩
  value : Shows tg (d.datapoints 0) (frontValue l (m - valueStart l))

section Line

variable {tg : Target} {l : StreamLine} {m : ℕ}

lemma not_sign_of_int {t : Text} (ht : IntText t) : ¬ (t = [] ∨ t = [45]) := by
  have hstate := finalState_int ht
  rintro (rfl | rfl) <;> exact absurd hstate (by decide)

lemma readValue_front (l : StreamLine) (k : ℕ) :
    readValue tg (l.value.take k) = frontValue l k := by
  obtain ⟨s, ds, hs, hds, hne, hvalue⟩ := l.value_int
  rcases Nat.lt_or_ge s.length k with hlt | hle
  · -- a digit has come in
    have hpos := List.length_pos_iff.mpr hne
    have hlen : l.value.length - k = ds.length - (k - s.length) := by
      rw [hvalue, List.length_append]
      omega
    have htake : l.value.take k = s ++ ds.take (ds.length - (l.value.length - k)) := by
      rw [hlen, hvalue, List.take_append, List.take_of_length_le hlt.le]
      congr 1
      rw [List.take_eq_take_iff]
      omega
    have hcut : l.value.length - k < ds.length := by omega
    obtain ⟨hint, hatoi⟩ := cut_int hs hds (hvalue ▸ l.value_range) hcut
    rw [← hvalue] at hatoi
    rw [← htake] at hint hatoi
    rw [frontValue, if_neg (not_sign_of_int hint), readValue, finalState_int hint]
    simp only [hatoi]
  · have htake : l.value.take k = s.take k := by
      rw [hvalue, List.take_append_of_le_length hle]
    have hsign : s.take k = [] ∨ s.take k = [45] := by
      rcases hs with rfl | rfl
      · exact .inl List.take_nil
      · cases k with
        | zero => exact .inl rfl
        | succ k => exact .inr (List.take_of_length_le (by simp))
    rw [frontValue, htake, if_pos hsign]
    rcases hsign with h | h <;> rw [h] <;> rfl

lemma take_streamLine (hm : valueStart l ≤ m) : l.text.take m =
    l.id ++ 44 :: (isoText l.moment l.micro ++ 44 :: l.value.take (m - valueStart l)) := by
  obtain ⟨k, rfl⟩ := Nat.exists_eq_add_of_le hm
  have hsplit : valueStart l + k =
      l.id.length + ((isoText l.moment l.micro).length + (k + 1) + 1) := by
    unfold valueStart
    omega
  rw [hsplit, StreamLine.text, List.take_length_add_append, List.take_succ_cons,
    List.take_length_add_append, List.take_succ_cons, ← hsplit, Nat.add_sub_cancel_left]

/-- In front of its value, a line has one comma at most. -/
lemma not_twoCommas_front (hm : m < valueStart l) : ¬ TwoCommas (l.text.take m) := by
  have hid : 44 ∉ l.id := fun h => (l.id_plain 44 h).1 rfl
  have hlen : (l.id ++ 44 :: isoText l.moment l.micro).length + 1 = valueStart l := by
    simp only [List.length_append, List.length_cons, valueStart]
    omega
  have htext : l.text = (l.id ++ 44 :: isoText l.moment l.micro) ++ 44 :: l.value := by
    simp [StreamLine.text]
  have hfront : l.text.take m = (l.id ++ 44 :: isoText l.moment l.micro).take m := by
    rw [htext, List.take_append_of_le_length (by omega)]
  have hcount : (l.id ++ 44 :: isoText l.moment l.micro).count 44 = 1 := by
    rw [List.count_append, List.count_cons_self, List.count_eq_zero_of_not_mem hid,
      List.count_eq_zero_of_not_mem l.comma_not_mem_isoText]
  have hle := (List.take_sublist m (l.id ++ 44 :: isoText l.moment l.micro)).count_le 44
  rw [TwoCommas, hfront]
  omega

/-- The front of a line that goes up to its value is decoded. -/
lemma decodeStream_front (hlong : 32 ≤ tg.longBits) (hm : valueStart l ≤ m) (e : XiErr)
    (d : XiDatastream) :
    ∃ d', decodeStream tg (l.text.take m) e d = .ret () e d' ∧ HoldsFront tg l m d' := by
  have hfrom := l.from_1970
  have hto := l.to_2038
  have h1970 := (l.moment.seconds_nonneg_iff).mp (by omega)
  have hid : 44 ∉ l.id := fun h => (l.id_plain 44 h).1 rfl
  have hstamp : readStamp tg (isoText l.moment l.micro ++ 44 :: l.value.take (m - valueStart l)) =
      .ok ⟨l.moment.seconds, l.micro⟩ := by
    rw [readStamp_isoText hlong h1970 (year_le_9999 (by omega)) (by
      have hroom : (2 : ℤ) ^ 31 ≤ 2 ^ (tg.longBits - 1) := by
        exact_mod_cast Nat.pow_le_pow_right (by norm_num) (by omega : 31 ≤ tg.longBits - 1)
      omega) l.micro_le, if_neg (by omega)]
  have hbyte {c : Byte} (hc : c ∈ l.value.take (m - valueStart l)) : FieldByte c :=
    fieldByte_int l.value_int c (List.mem_of_mem_take hc)
  have hfield : fieldOf (l.value.take (m - valueStart l)) = l.value.take (m - valueStart l) :=
    fieldOf_eq_self fun c hc => endsValue_fieldByte (hbyte hc)
  have hdrop : (isoText l.moment l.micro ++ 44 :: l.value.take (m - valueStart l)).drop
      ((isoText l.moment l.micro).length + 1) = l.value.take (m - valueStart l) := by simp
  have hlen : (l.value.take (m - valueStart l)).length < xiValueStringMaxSize :=
    (List.length_take_le' _ _).trans_lt l.value_lt
  have htab : 11 ∉ l.value.take (m - valueStart l) := fun h =>
    absurd (classify_newline.mpr (.inr rfl)) (classify_fieldByte (hbyte h))
  obtain ⟨q, hpoint, htime, hshows⟩ := decode_shows
    (strstr_singleton_append l.comma_not_mem_isoText _) hstamp (by rwa [hdrop, hfield])
    (by rwa [hdrop, hfield]) e .zero
  rw [hdrop, hfield, readValue_front] at hshows
  have hcopied : copied xiMaxDatastreamName 44 (l.text.take m) = l.id := by
    rw [take_streamLine hm, copied_line hid fun h => (l.id_plain 0 h).2.2.2 rfl]
    exact List.take_of_length_le (Nat.le_of_lt_succ l.id_lt)
  have hcomma : strstr (lit ",") (l.text.take m) = some l.id.length := by
    rw [take_streamLine hm]
    exact strstr_singleton_append hid _
  have hrest : (l.text.take m).drop (l.id.length + 1) =
      isoText l.moment l.micro ++ 44 :: l.value.take (m - valueStart l) := by
    rw [take_streamLine hm]
    simp
  refine ⟨named d (l.text.take m) q 1, by rw [decodeStream_comma hcomma, hrest, hpoint], ?_⟩
  constructor
  · rw [cstr_named, hcopied]
  · rfl
  · simpa only [named, Function.update_self] using htime
  · simpa only [named, Function.update_self] using hshows.shows _ rfl

end Line

/-! ### The front of a feed -/

/-- Lines of texts up to the first `m` bytes of one of them. -/
lemma take_intercalate {ls : List Text} (hne : ls ≠ []) {n : ℕ}
    (hn : n ≤ ([10].intercalate ls).length) : ∃ j l m, ls[j]? = some l ∧ m ≤ l.length ∧
      n = ((ls.take j).map fun l => l.length + 1).sum + m ∧
      ([10].intercalate ls).take n = [10].intercalate (ls.take j ++ [l.take m]) := by
  induction ls generalizing n with
  | nil => exact absurd rfl hne
  | cons l ls ih =>
    cases ls with
    | nil =>
      rw [List.intercalate_singleton] at hn
      exact ⟨0, l, n, rfl, hn, by simp, by simp⟩
    | cons l' ls =>
      rw [intercalate_line, List.length_append, List.length_cons] at hn
      rcases Nat.lt_or_ge l.length n with hlt | hle
      · obtain ⟨k, rfl⟩ := Nat.exists_eq_add_of_lt hlt
        obtain ⟨j, l'', m, hl, hm, hk, htake⟩ := ih (by simp) (show k ≤ _ by omega)
        refine ⟨j + 1, l'', m, hl, hm, ?_, ?_⟩
        · rw [List.take_succ_cons, List.map_cons, List.sum_cons]
          omega
        · have hcons (a : Text) : [10].intercalate (l :: ((l' :: ls).take j ++ [a])) =
              l ++ 10 :: [10].intercalate ((l' :: ls).take j ++ [a]) := by
            obtain ⟨b, bs, hb⟩ := List.exists_cons_of_ne_nil
              (List.append_ne_nil_of_right_ne_nil ((l' :: ls).take j) (List.cons_ne_nil a []))
            rw [hb, intercalate_line]
          rw [List.take_succ_cons, List.cons_append, hcons, ← htake, intercalate_line,
            Nat.add_assoc, List.take_length_add_append, List.take_succ_cons]
      · refine ⟨0, l, n, rfl, hle, by simp, ?_⟩
        rw [intercalate_line, List.take_append_of_le_length hle]
        simp

/-- The text of the lines in front of the `j`th one, with the first `m` bytes of that one. -/
def frontText (ls : List StreamLine) (j : ℕ) (l : StreamLine) (m : ℕ) : Text :=
  [10].intercalate ((ls.take j).map StreamLine.text ++ [l.text.take m])

/-- A feed with the lines in front of the `j`th one, and with the first `m` bytes of that one. -/
structure FrontFeed (tg : Target) (ls : List StreamLine) (j : Fin xiMaxDatastreams)
    (l : StreamLine) (m : ℕ) (f : XiFeed) : Prop where
  count : f.datastreamCount = j + 1
  whole : ∀ i < j, ∀ l', ls[i.val]? = some l' → l'.Holds (f.datastreams i)
  front : HoldsFront tg l m (f.datastreams j)

section Feed

variable {tg : Target} {ls : List StreamLine} {l : StreamLine} {m : ℕ}

lemma take_feedText (hne : ls ≠ []) {n : ℕ} (hn : n ≤ (feedText ls).length) : ∃ j l m,
    ls[j]? = some l ∧ m ≤ l.text.length ∧
      n = ((ls.take j).map fun l => l.text.length + 1).sum + m ∧
      (feedText ls).take n = frontText ls j l m := by
  obtain ⟨j, t, m, hl, hm, hsum, htake⟩ := take_intercalate (by simpa using hne) hn
  rw [List.getElem?_map, Option.map_eq_some_iff] at hl
  obtain ⟨l, hl, rfl⟩ := hl
  refine ⟨j, l, m, hl, hm, ?_, ?_⟩
  · rw [hsum, ← List.map_take, List.map_map]
    rfl
  · rw [feedText, htake, frontText, List.map_take]

lemma linesOf_frontText (j : ℕ) : linesOf (frontText ls j l m) =
    (ls.take j).map StreamLine.text ++ [l.text.take m] := by
  refine List.splitOn_intercalate 10 ?_ (by simp)
  intro t ht
  rcases List.mem_append.mp ht with ht | ht
  · obtain ⟨l', -, rfl⟩ := List.mem_map.mp ht
    exact l'.newline_not_mem
  · rw [List.mem_singleton.mp ht]
    exact fun h => l.newline_not_mem (List.mem_of_mem_take h)

variable {j : Fin xiMaxDatastreams} (hl : ls[j.val]? = some l)

include hl

lemma length_take_line : ((ls.take j).map StreamLine.text).length = j := by
  obtain ⟨hj, -⟩ := List.getElem?_eq_some_iff.mp hl
  rw [List.length_map, List.length_take]
  omega

/-- The lines of the front of a feed: whole ones, and the front of the last. -/
lemma frontLines_get {i : ℕ} {t : Text}
    (hi : ((ls.take j).map StreamLine.text ++ [l.text.take m])[i]? = some t) :
    (∃ l', i < j ∧ ls[i]? = some l' ∧ t = l'.text) ∨ (i = j ∧ t = l.text.take m) := by
  have hlen := length_take_line hl
  rcases Nat.lt_or_ge i j with hlt | hge
  · rw [List.getElem?_append_left (by omega), List.getElem?_map, List.getElem?_take_of_lt hlt,
      Option.map_eq_some_iff] at hi
    obtain ⟨l', hl', rfl⟩ := hi
    exact .inl ⟨l', hlt, hl', rfl⟩
  · rw [List.getElem?_append_right (by omega), hlen, List.getElem?_singleton] at hi
    split at hi
    · next h0 => exact .inr ⟨by omega, (Option.some.inj hi).symm⟩
    · cases hi

/-- The front of a feed is accepted exactly if it goes up to the value of its last line. -/
lemma acceptsFeed_front (hlong : 32 ≤ tg.longBits) (hlt : ls.length < xiMaxDatastreams) :
    AcceptsFeed tg (frontText ls j l m) ↔ valueStart l ≤ m := by
  obtain ⟨hj, -⟩ := List.getElem?_eq_some_iff.mp hl
  have hlen : ((ls.take j).map StreamLine.text ++ [l.text.take m]).length = j + 1 := by
    rw [List.length_append, length_take_line hl]
    rfl
  rw [AcceptsFeed, linesOf_frontText]
  constructor
  · rintro ⟨-, hlines⟩
    by_contra hm
    have hlast := hlines j (by omega)
    rw [List.drop_left' (length_take_line hl), List.intercalate_singleton] at hlast
    obtain ⟨d', hrun⟩ := decodeStream_accepts hlast .noErr .zero
    exact not_twoCommas_front (not_le.mp hm) (twoCommas_of_decode hrun)
  · refine fun hm => ⟨by omega, fun i hi => ?_⟩
    have hget := List.getElem?_eq_getElem hi
    have hline : ∃ d', decodeStream tg
        ((ls.take j).map StreamLine.text ++ [l.text.take m])[i] .noErr .zero =
          .ret () .noErr d' := by
      rcases frontLines_get hl hget with ⟨l', -, -, heq⟩ | ⟨-, heq⟩
      · obtain ⟨d', hrun, -⟩ := l'.decodeStream_text hlong .noErr .zero
        exact ⟨d', by rw [heq, hrun]⟩
      · obtain ⟨d', hrun, -⟩ := decodeStream_front hlong hm .noErr .zero
        exact ⟨d', by rw [heq, hrun]⟩
    obtain ⟨d', hrun⟩ := hline
    rcases intercalate_drop hget with heq | ⟨r, heq⟩
    · rw [heq]
      exact acceptsLine_of_ret hrun
    · rw [heq]
      rw [← decodeStream_append (twoCommas_of_decode hrun) r] at hrun
      exact acceptsLine_of_ret hrun

/-- What the front of a feed is decoded to, if it is. -/
lemma csvDecodeFeed_front (hlong : 32 ≤ tg.longBits) (hlt : ls.length < xiMaxDatastreams)
    (hm : valueStart l ≤ m) (e : XiErr) (f : XiFeed) :
    ∃ f', csvDecodeFeed tg (frontText ls j l m) e f = .ret true e f' ∧
      FrontFeed tg ls j l m f' := by
  obtain ⟨f', hrun, -, hcount, hdec, -⟩ :=
    csvDecodeFeed_accepts ((acceptsFeed_front hl hlong hlt).mpr hm) e f
  rw [linesOf_frontText] at hcount hdec
  have hlen := length_take_line hl
  refine ⟨f', hrun, ⟨?_, fun i hi l' hl' => ?_, ?_⟩⟩
  · rw [hcount, List.length_append, hlen]
    rfl
  · have hline : ((ls.take j).map StreamLine.text ++ [l.text.take m])[i.val]? = some l'.text := by
      rw [List.getElem?_append_left (by rw [hlen]; exact hi), List.getElem?_map,
        List.getElem?_take_of_lt hi, hl']
      rfl
    have hstream := decoded_line hdec hline l'.twoCommas_text i rfl
    obtain ⟨d', hd', hholds⟩ := l'.decodeStream_text hlong e (f.datastreams i)
    rw [hstream] at hd'
    injection hd' with _ _ hd'
    rwa [hd']
  · have hline : ((ls.take j).map StreamLine.text ++ [l.text.take m])[j.val]? =
        some (l.text.take m) := by
      rw [List.getElem?_append_right (by rw [hlen]), hlen, Nat.sub_self]
      rfl
    obtain ⟨d', hd', hholds⟩ := decodeStream_front hlong hm e (f.datastreams j)
    have hstream := decoded_line hdec hline (twoCommas_of_decode hd') j rfl
    rw [hstream] at hd'
    injection hd' with _ _ hd'
    rwa [hd']

end Feed

end LibXively.Fronts
