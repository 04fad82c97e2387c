import LibXively.Decoding.Feeds

/-!
From which lines a feed is decoded.

A line with two commas of its own is decoded as if it stood alone. A line with fewer takes its id
or its timestamp from the lines behind it.
-/

namespace LibXively.LineLocality

open LibXively.Bytes LibXively.Scanf LibXively.CProc LibXively.CharArray LibXively.Structures
open LibXively.CsvData
open LibXively.Values LibXively.Datapoints LibXively.Feeds

variable {tg : Target} {l : Text} {e : XiErr}

/-- A datastream is what its line says: the id is the text up to the first comma of the line, and
the datapoint is decoded from the rest of the line. -/
def LineLocal (tg : Target) (e : XiErr) (l : Text) (d : XiDatastream) : Prop :=
  ∃ i, strstr (lit ",") l = some i ∧ cstr d.datastreamId = some (l.take i) ∧
    csvDecodeDatapoint tg (l.drop (i + 1)) e .zero = .ret true e (d.datapoints 0)

/-- The line has a comma behind the id and one behind the timestamp. -/
def TwoCommas (l : Text) : Prop := 2 ≤ l.count 44

instance (l : Text) : Decidable (TwoCommas l) := inferInstanceAs (Decidable (2 ≤ _))

/-- The first comma of the line stands where the id still fits in front of it. -/
def IdFits (l : Text) : Prop := l.idxOf 44 < xiMaxDatastreamName

instance (l : Text) : Decidable (IdFits l) := inferInstanceAs (Decidable (_ < _))

lemma twoCommas_split (h : TwoCommas l) :
    ∃ a b, l = a ++ 44 :: b ∧ 44 ∉ a ∧ 44 ∈ b := by
  have hmem : 44 ∈ l := List.count_pos_iff.mp (lt_of_lt_of_le (by norm_num) h)
  obtain ⟨a, b, rfl, ha⟩ := List.eq_append_cons_of_mem hmem
  refine ⟨a, b, rfl, ha, List.count_pos_iff.mp ?_⟩
  rw [TwoCommas, List.count_append, List.count_eq_zero_of_not_mem ha, List.count_cons_self] at h
  omega

lemma twoCommas_of_mem {a b : Text} (h : 44 ∈ b) : TwoCommas (a ++ 44 :: b) := by
  have := List.count_pos_iff.mpr h
  rw [TwoCommas, List.count_append, List.count_cons_self]
  omega

lemma idxOf_comma {a : Text} (h : 44 ∉ a) (b : Text) : (a ++ 44 :: b).idxOf 44 = a.length := by
  simp [List.idxOf_append, h]

/-! ### Lines with two commas -/

/-- The copier sees no further than the first comma. -/
lemma copied_comma {n : ℕ} (a b : Text) :
    copied n 44 (a ++ 44 :: b) = (a.takeWhile fun c => c ≠ 44 ∧ c ≠ 0).take (n - 1) := by
  rw [copied, takeWhile_append_stop (by decide)]

/-- A line with two commas is decoded as if it stood alone. -/
lemma decodeStream_append (h : TwoCommas l) (r : Text) :
    decodeStream tg (l ++ 10 :: r) = decodeStream tg l := by
  obtain ⟨a, b, rfl, ha, hb⟩ := twoCommas_split h
  have hline : strstr (lit ",") (a ++ 44 :: b) = some a.length := strstr_singleton_append ha b
  have htext : strstr (lit ",") (a ++ 44 :: b ++ 10 :: r) = some a.length :=
    strstr_singleton_front ha b _
  have hrest : (a ++ 44 :: b ++ 10 :: r).drop (a.length + 1) = b ++ 10 :: r := by simp
  have hrest' : (a ++ 44 :: b).drop (a.length + 1) = b := by simp
  have hcopy : copied xiMaxDatastreamName 44 (a ++ 44 :: b ++ 10 :: r) =
      copied xiMaxDatastreamName 44 (a ++ 44 :: b) := by
    rw [List.append_assoc, List.cons_append, copied_comma, copied_comma]
  funext e d
  rw [decodeStream_comma htext, decodeStream_comma hline, hrest, hrest',
    csvDecodeDatapoint_append hb]
  simp only [named, hcopy]

lemma copied_line {a : Text} (ha : 44 ∉ a) (h0 : 0 ∉ a) (b : Text) :
    copied xiMaxDatastreamName 44 (a ++ 44 :: b) = a.take 15 := by
  have hrun : (a.takeWhile fun c => c ≠ 44 ∧ c ≠ 0) = a := by
    rw [List.takeWhile_eq_self_iff]
    intro c hc
    simpa using ⟨fun h => ha (h ▸ hc), fun h => h0 (h ▸ hc)⟩
  rw [copied_comma, hrun]
  rfl

lemma cstr_named (d : XiDatastream) (current : Text) (p : XiDatapoint) (k : ℕ) :
    cstr (named d current p k).datastreamId = some (copied xiMaxDatastreamName 44 current) := by
  have hlen := length_copied_lt current
  have hsize : 0 + (copied xiMaxDatastreamName 44 current ++ [0]).length ≤ 16 := by
    simp only [List.length_append, List.length_singleton]; omega
  refine cstr_of_starts (fun h => ?_) ?_
  · have := List.mem_takeWhile_imp (List.mem_of_mem_take h)
    simp at this
  · have h := @prefix_put _ d.datastreamId [] (copied xiMaxDatastreamName 44 current ++ [0])
      List.nil_prefix hsize
    simpa [named] using h

/-- What is decoded from a line of two commas is what the line says, if its id fits. -/
lemma lineLocal_of_twoCommas (h : TwoCommas l) (hid : IdFits l) (h0 : 0 ∉ l)
    {d d' : XiDatastream} (hrun : decodeStream tg l e d = .ret () e d') :
    LineLocal tg e l d' := by
  obtain ⟨a, b, rfl, ha, -⟩ := twoCommas_split h
  obtain ⟨i, p, hi, hp, rfl⟩ := decodeStream_ret hrun
  have hline : strstr (lit ",") (a ++ 44 :: b) = some a.length := strstr_singleton_append ha b
  rw [hline] at hi
  cases hi
  refine ⟨a.length, hline, ?_, ?_⟩
  · have hlen : a.length < 16 := by rwa [IdFits, idxOf_comma ha] at hid
    have ha0 : 0 ∉ a := fun hmem => h0 (by simp [hmem])
    rw [cstr_named, copied_line ha ha0, List.take_left' rfl,
      List.take_of_length_le (Nat.le_of_lt_succ hlen)]
  · rw [hp]
    simp [named]

/-! ### Lines without -/

/-- A line with a datapoint behind its first comma has two commas. -/
lemma twoCommas_of_point {i : ℕ} {e' : XiErr} {p q : XiDatapoint}
    (hi : strstr (lit ",") l = some i)
    (hp : csvDecodeDatapoint tg (l.drop (i + 1)) e q = .ret true e' p) : TwoCommas l := by
  have hcomma : 44 ∈ l.drop (i + 1) := by
    by_contra hno
    rw [csvDecodeDatapoint_noComma (strstr_singleton_none hno)] at hp
    cases hp
  rw [(strstr_singleton (c := 44) hi).1]
  exact twoCommas_of_mem hcomma

lemma twoCommas_of_decode {d d' : XiDatastream} {e' : XiErr}
    (h : decodeStream tg l e d = .ret () e' d') : TwoCommas l := by
  obtain ⟨i, p, hi, hp, -⟩ := decodeStream_ret h
  exact twoCommas_of_point hi hp

lemma twoCommas_of_lineLocal {d : XiDatastream} (h : LineLocal tg e l d) : TwoCommas l := by
  obtain ⟨i, hi, -, hp⟩ := h
  exact twoCommas_of_point hi hp

/-- A datastream that is what its line says has an id that fits. -/
lemma idFits_of_lineLocal {d : XiDatastream} (h : LineLocal tg e l d) : IdFits l := by
  obtain ⟨i, hi, hid, -⟩ := h
  obtain ⟨hl, hno⟩ := strstr_singleton (c := 44) hi
  have hlen : (l.take i).length < 16 := length_lt_of_cstr hid
  rw [IdFits, hl, idxOf_comma hno]
  exact hlen

/-! ### Feeds -/

/-- The text behind the start of a line is the line, or starts with it. -/
lemma intercalate_drop {ls : List Text} {j : ℕ} (h : ls[j]? = some l) :
    [10].intercalate (ls.drop j) = l ∨ ∃ r, [10].intercalate (ls.drop j) = l ++ 10 :: r := by
  obtain ⟨hj, rfl⟩ := List.getElem?_eq_some_iff.mp h
  rw [List.drop_eq_getElem_cons hj]
  cases ls.drop (j + 1) with
  | nil => exact Or.inl (List.intercalate_singleton ..)
  | cons l' ls' => exact Or.inr ⟨_, intercalate_line _ _ _⟩

lemma mem_intercalate {ls : List Text} {c : Byte} (hl : l ∈ ls) (hc : c ∈ l) :
    c ∈ [10].intercalate ls := by
  induction ls with
  | nil => simp at hl
  | cons l' ls ih =>
    cases ls with
    | nil =>
      obtain rfl := List.mem_singleton.mp hl
      simpa using hc
    | cons l'' ls =>
      rw [intercalate_line]
      rcases List.mem_cons.mp hl with rfl | hl
      · simp [hc]
      · exact List.mem_append_right _ (List.mem_cons_of_mem _ (ih hl))

/-- What a line of an accepted text has been decoded to. -/
lemma decoded_line {ls : List Text} {f f' : XiFeed} (h : LinesDecoded tg e ls ls.length 0 f f')
    {j : ℕ}
    (hj : ls[j]? = some l) (htwo : TwoCommas l) (i : Fin xiMaxDatastreams) (hi : j = i) :
    decodeStream tg l e (f.datastreams i) = .ret () e (f'.datastreams i) := by
  obtain ⟨hlt, -⟩ := List.getElem?_eq_some_iff.mp hj
  have hdec := h j i (by omega) hlt
  rcases intercalate_drop hj with heq | ⟨r, heq⟩
  · rwa [heq] at hdec
  · rwa [heq, decodeStream_append htwo] at hdec

/-- **Line locality**: an accepted text has one datastream for each of its lines. Each is what its
own line says exactly if every line has two commas, the first of them where the id fits in front
of it; without the condition on the id, each is what the decoder makes of its line alone. -/
theorem csvDecodeFeed_line_local (tg : Target) (text : CString) (e e' : XiErr) (f f' : XiFeed)
    (h : csvDecodeFeed tg text.bytes e f = .ret true e' f') :
    (f'.datastreamCount = (linesOf text.bytes).length ∧
      (linesOf text.bytes).length < xiMaxDatastreams) ∧
    ((∀ (i : Fin xiMaxDatastreams) l, (linesOf text.bytes)[i.val]? = some l →
        LineLocal tg e l (f'.datastreams i)) ↔
      ∀ l ∈ linesOf text.bytes, TwoCommas l ∧ IdFits l) ∧
    ((∀ (i : Fin xiMaxDatastreams) l, (linesOf text.bytes)[i.val]? = some l →
        decodeStream tg l e (f.datastreams i) = .ret () e (f'.datastreams i)) ↔
      ∀ l ∈ linesOf text.bytes, TwoCommas l) := by
  obtain ⟨haccepts, hcount, hdec⟩ := csvDecodeFeed_ret h
  have hlt : (linesOf text.bytes).length < xiMaxDatastreams := by
    have := haccepts.1
    omega
  -- every line has the number of a datastream
  have hnumber (l : Text) (hl : l ∈ linesOf text.bytes) :
      ∃ i : Fin xiMaxDatastreams, (linesOf text.bytes)[i.val]? = some l := by
    obtain ⟨j, hj, rfl⟩ := List.mem_iff_getElem.mp hl
    exact ⟨⟨j, by omega⟩, List.getElem?_eq_getElem hj⟩
  refine ⟨⟨hcount, hlt⟩, ⟨fun hall l hl => ?_, fun hall i l hi => ?_⟩,
    ⟨fun hall l hl => ?_, fun hall i l hi => ?_⟩⟩
  · obtain ⟨i, hi⟩ := hnumber l hl
    have hlocal := hall i l hi
    exact ⟨twoCommas_of_lineLocal hlocal, idFits_of_lineLocal hlocal⟩
  · have hmem := List.mem_of_getElem? hi
    obtain ⟨htwo, hid⟩ := hall l hmem
    have h0 : 0 ∉ l := fun h0 => text.noNul (by
      rw [← intercalate_linesOf text.bytes]
      exact mem_intercalate hmem h0)
    exact lineLocal_of_twoCommas htwo hid h0 (decoded_line hdec hi htwo i rfl)
  · obtain ⟨i, hi⟩ := hnumber l hl
    exact twoCommas_of_decode (hall i l hi)
  · exact decoded_line hdec hi (hall l (List.mem_of_getElem? hi)) i rfl

/-- Two lines of a feed. -/
def twoLines : CString :=
  ⟨lit "a,2014-01-01T00:00:00.000000Z,5\nb,2014-01-02T00:00:00.000000Z,on", by decide⟩

theorem csvDecodeFeed_twoLines : ∃ f',
    csvDecodeFeed posixConfig twoLines.bytes .noErr .zero = .ret true .noErr f' ∧
    f'.datastreamCount = 2 ∧
    ∀ (i : Fin xiMaxDatastreams) l, (linesOf twoLines.bytes)[i.val]? = some l →
      LineLocal posixConfig .noErr l (f'.datastreams i) := by
  obtain ⟨f', hrun, -⟩ := @csvDecodeFeed_accepts posixConfig twoLines.bytes (by decide) .noErr .zero
  obtain ⟨⟨hcount, -⟩, hlocal, -⟩ := csvDecodeFeed_line_local posixConfig twoLines _ _ _ f' hrun
  exact ⟨f', hrun, hcount, hlocal.mpr (by decide)⟩

/-- Two lines, the first of which is no more than an id. -/
def idAlone : CString := ⟨lit "id1\nid2,2014-01-01T00:00:00.000000Z,5", by decide⟩

/-- The id of the first datastream runs on into the second line. -/
theorem csvDecodeFeed_joins_lines : ∃ f',
    csvDecodeFeed posixConfig idAlone.bytes .noErr .zero = .ret true .noErr f' ∧
    (linesOf idAlone.bytes)[0]? = some (lit "id1") ∧
    cstr (f'.datastreams 0).datastreamId = some (lit "id1\nid2") ∧
    ¬ LineLocal posixConfig .noErr (lit "id1") (f'.datastreams 0) := by
  obtain ⟨f', hrun, -, -, hdec, -⟩ := @csvDecodeFeed_accepts posixConfig idAlone.bytes
    (by decide) .noErr .zero
  refine ⟨f', hrun, by decide, ?_, fun hlocal => ?_⟩
  · obtain ⟨_, p, -, -, hd⟩ := decodeStream_ret (hdec 0 0 rfl (by decide))
    rw [hd, cstr_named]
    decide
  · exact absurd (twoCommas_of_lineLocal hlocal) (by decide)

end LibXively.LineLocality
