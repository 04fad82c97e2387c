import LibXively.Decoding.Datapoints

/-!
Decoding a feed.

The decoder goes through the lines of the text, one datastream a line. But a line is decoded from
the whole text behind its start: the two searches for a comma do not stop at the end of the line.
-/

namespace LibXively.Feeds

open LibXively.Bytes LibXively.CProc LibXively.CharArray LibXively.Structures LibXively.CsvData
open LibXively.Values LibXively.Datapoints

/-! ### The id -/

section Copy

variable {n : ℕ}

/-- Two stores one behind the other. -/
lemma put_put (b : Buf n) {o : ℕ} {c : Byte} {t : Text} (h : o + (t.length + 1) ≤ n) :
    put (put b o [c]) (o + 1) t = put b o (c :: t) := by
  have hsize := b.size_eq
  have hfront : (b.bytes.take o ++ [c]).length = o + 1 := by simp; omega
  apply CharArray.ext
  rw [bytes_put (by omega), bytes_put (by simp; omega), bytes_put (by simp; omega),
    List.take_left' hfront, List.drop_append, hfront, List.drop_eq_nil_of_le (by omega),
    List.nil_append, List.drop_drop, List.length_singleton, List.length_cons,
    show o + 1 + (o + 1 + t.length - (o + 1)) = o + (t.length + 1) by omega]
  simp

/-- What the copier leaves of a text: the part in front of the delimiter, as far as there is
room. -/
def copied (n : ℕ) (delim : Byte) (src : Text) : Text :=
  (src.takeWhile fun c => c ≠ delim ∧ c ≠ 0).take (n - 1)

lemma copyLoop_apply (delim : Byte) (src : Text) {counter : ℕ} (h : counter < n) (e : XiErr)
    (b : Buf n) : copyLoop delim src counter e b =
      .ret (counter + ((src.takeWhile fun c => c ≠ delim ∧ c ≠ 0).take (n - 1 - counter)).length) e
        (put b counter
          ((src.takeWhile fun c => c ≠ delim ∧ c ≠ 0).take (n - 1 - counter) ++ [0])) := by
  induction src generalizing counter b with
  | nil => simp [copyLoop, store_apply (show counter + [(0 : Byte)].length ≤ n by simp; omega)]
  | cons c src ih =>
    by_cases hc : c ≠ delim ∧ counter < n - 1 ∧ c ≠ 0
    · have hroom : n - 1 - counter = (n - 1 - (counter + 1)) + 1 := by omega
      have htake : ((c :: src).takeWhile fun c => c ≠ delim ∧ c ≠ 0).take (n - 1 - counter) =
          c :: (src.takeWhile fun c => c ≠ delim ∧ c ≠ 0).take (n - 1 - (counter + 1)) := by
        rw [hroom, List.takeWhile_cons_of_pos (by simp [hc.1, hc.2.2]), List.take_succ_cons]
      have hfit : counter + (((src.takeWhile fun c => c ≠ delim ∧ c ≠ 0).take
          (n - 1 - (counter + 1)) ++ [0]).length + 1) ≤ n := by
        simp only [List.length_append, List.length_take, List.length_singleton]
        omega
      rw [copyLoop, if_pos hc, bind_apply, store_apply (by simp; omega), andThen_ret,
        ih (by omega), htake, List.cons_append, put_put b hfit, List.length_cons]
      congr 1
      omega
    · have hstop : ((c :: src).takeWhile fun c => c ≠ delim ∧ c ≠ 0).take (n - 1 - counter) =
          [] := by
        by_cases hd : c ≠ delim ∧ c ≠ 0
        · have hfull : ¬ counter < n - 1 := fun hlt => hc ⟨hd.1, hlt, hd.2⟩
          rw [show n - 1 - counter = 0 by omega, List.take_zero]
        · rw [List.takeWhile_cons_of_neg (by simpa using hd), List.take_nil]
      rw [copyLoop, if_neg hc, hstop]
      simp [store_apply (show counter + [(0 : Byte)].length ≤ n by simp; omega)]

/-- The copier stores what it copies, with a terminator, and nothing else. -/
lemma xiStrCopyUntiln_apply (hn : 0 < n) (src : Text) (delim : Byte) (e : XiErr) (b : Buf n) :
    xiStrCopyUntiln src delim e b =
      .ret (copied n delim src).length e (put b 0 (copied n delim src ++ [0])) := by
  have h := copyLoop_apply delim src hn e b
  rwa [Nat.zero_add, Nat.sub_zero] at h

end Copy

/-! ### One line -/

variable {tg : Target} {current : Text} {i : ℕ} {e x : XiErr} {d : XiDatastream}
  {p : XiDatapoint}

/-- A datastream before its line is decoded. -/
def cleared (d : XiDatastream) : XiDatastream :=
  { d with datapointCount := 0, datapoints := Function.update d.datapoints 0 .zero }

/-- A datastream with the id in front of a text and a datapoint. -/
def named (d : XiDatastream) (current : Text) (p : XiDatapoint) (count : ℕ) : XiDatastream where
  datastreamId := put d.datastreamId 0 (copied xiMaxDatastreamName 44 current ++ [0])
  datapointCount := count
  datapoints := Function.update d.datapoints 0 p

lemma decodeStream_noComma (h : strstr (lit ",") current = none) (e : XiErr)
    (d : XiDatastream) :
    decodeStream tg current e d = .goto .csvDecodeFeedParserError (cleared d) := by
  rw [decodeStream, h]
  rfl

lemma length_copied_lt (src : Text) : (copied xiMaxDatastreamName 44 src).length < 16 := by
  have := List.length_take_le (xiMaxDatastreamName - 1)
    (src.takeWhile fun c => c ≠ 44 ∧ c ≠ 0)
  exact Nat.lt_succ_of_le this

/-- Behind the comma, the line is what its datapoint is. -/
lemma decodeStream_comma (h : strstr (lit ",") current = some i) (e : XiErr)
    (d : XiDatastream) : decodeStream tg current e d =
      match csvDecodeDatapoint tg (current.drop (i + 1)) e .zero with
      | .ret true e' p => .ret () e' (named d current p 1)
      | .ret false _ p => .goto .csvDecodeFeedParserError (named d current p 0)
      | .goto e' p => .goto e' (named d current p 0)
      | .fault f => .fault f := by
  have hcopy := xiStrCopyUntiln_apply (n := xiMaxDatastreamName) (by norm_num) current 44
  have hlen := length_copied_lt current
  have hsize : ¬ ((xiMaxDatastreamName : ℤ) ≤ (copied xiMaxDatastreamName 44 current).length ∨
      ((copied xiMaxDatastreamName 44 current).length : ℤ) < 0) := by
    have hname : xiMaxDatastreamName = 16 := rfl
    omega
  rw [decodeStream, h]
  simp only [bind_apply, modify_apply, andThen_ret, onPoint, focus, checkZero_some, onId, hcopy,
    xiCheckSize, checkCnd_neg hsize, Function.update_self, Function.update_idem]
  rcases csvDecodeDatapoint tg (current.drop (i + 1)) e .zero with ⟨r, e', p⟩ | ⟨e', p⟩ | f
  · cases r <;> simp [named]
  · rfl
  · rfl

/-- What a line that is accepted is decoded to. -/
lemma decodeStream_ret {e' : XiErr} {d' : XiDatastream}
    (h : decodeStream tg current e d = .ret () e' d') :
    ∃ i p, strstr (lit ",") current = some i ∧
      csvDecodeDatapoint tg (current.drop (i + 1)) e .zero = .ret true e' p ∧
      d' = named d current p 1 := by
  cases hi : strstr (lit ",") current with
  | none => rw [decodeStream_noComma hi] at h; cases h
  | some i =>
    rw [decodeStream_comma hi] at h
    split at h
    · next p hp => cases h; exact ⟨i, p, rfl, hp, rfl⟩
    · cases h
    · cases h
    · cases h

/-- A line the decoder accepts: an id, a comma and a datapoint. -/
def AcceptsLine (tg : Target) (current : Text) : Prop :=
  ∃ i, strstr (lit ",") current = some i ∧ AcceptsPoint tg (current.drop (i + 1))

instance (tg : Target) (current : Text) : Decidable (AcceptsLine tg current) :=
  match hi : strstr (lit ",") current with
  | none => isFalse fun ⟨_, hi', _⟩ => by rw [hi] at hi'; cases hi'
  | some i => decidable_of_iff (AcceptsPoint tg (current.drop (i + 1)))
      ⟨fun hp => ⟨i, hi, hp⟩, fun ⟨_, hi', hp⟩ => by rw [hi] at hi'; cases hi'; exact hp⟩

lemma decodeStream_accepts (h : AcceptsLine tg current) (e : XiErr) (d : XiDatastream) :
    ∃ d', decodeStream tg current e d = .ret () e d' := by
  obtain ⟨i, hi, hp⟩ := h
  obtain ⟨p, hrun⟩ := csvDecodeDatapoint_accepts hp e .zero
  exact ⟨_, by rw [decodeStream_comma hi, hrun]⟩

lemma decodeStream_rejects (h : ¬ AcceptsLine tg current) (e : XiErr) (d : XiDatastream) :
    ∃ d', decodeStream tg current e d = .goto .csvDecodeFeedParserError d' := by
  cases hi : strstr (lit ",") current with
  | none => exact ⟨_, decodeStream_noComma hi e d⟩
  | some i =>
    obtain ⟨x, p, -, hrun⟩ := csvDecodeDatapoint_rejects (fun hp => h ⟨i, hi, hp⟩) e .zero
    exact ⟨_, by rw [decodeStream_comma hi, hrun]⟩

/-! ### The loop -/

/-- Only the datastreams from `lo` on and in front of `hi` have been written. -/
structure Confined (f f' : XiFeed) (lo hi : ℕ) : Prop where
  feedId : f'.feedId = f.feedId
  count : f'.datastreamCount = f.datastreamCount
  streams : ∀ i, i.val < lo ∨ hi ≤ i.val → f'.datastreams i = f.datastreams i

/-- The first `m` lines have gone into the datastreams from `counter` on, each decoded from the
text behind the start of its line. -/
def LinesDecoded (tg : Target) (e : XiErr) (ls : List Text) (m counter : ℕ) (f f' : XiFeed) :
    Prop :=
  ∀ j (i : Fin xiMaxDatastreams), counter + j = i → j < m →
    decodeStream tg ([10].intercalate (ls.drop j)) e (f.datastreams i) =
      .ret () e (f'.datastreams i)

/-- The lines fit the feed behind `counter` datastreams, and each of them is accepted. -/
def AcceptsLines (tg : Target) (ls : List Text) (counter : ℕ) : Prop :=
  counter + ls.length < xiMaxDatastreams ∧
    ∀ j < ls.length, AcceptsLine tg ([10].intercalate (ls.drop j))

/-- A feed with one datastream replaced. -/
def withStream (f : XiFeed) (i : Fin xiMaxDatastreams) (d : XiDatastream) : XiFeed :=
  { f with datastreams := Function.update f.datastreams i d }

lemma onStream_ret {α : Type} {m : Proc XiErr XiDatastream α} {i : Fin xiMaxDatastreams}
    {f : XiFeed} {a : α} {e e' : XiErr} {d : XiDatastream}
    (h : m e (f.datastreams i) = .ret a e' d) : onStream i m e f = .ret a e' (withStream f i d) :=
  focus_ret h

lemma onStream_goto {α : Type} {m : Proc XiErr XiDatastream α} {i : Fin xiMaxDatastreams}
    {f : XiFeed} {e e' : XiErr} {d : XiDatastream}
    (h : m e (f.datastreams i) = .goto e' d) : onStream i m e f = .goto e' (withStream f i d) :=
  focus_goto h

lemma confined_withStream (f : XiFeed) (i : Fin xiMaxDatastreams) (d : XiDatastream) :
    Confined f (withStream f i d) i (i + 1) := by
  refine ⟨rfl, rfl, fun j hj => Function.update_of_ne ?_ _ _⟩
  rintro rfl
  omega

lemma Confined.trans {f g h : XiFeed} {lo hi : ℕ} (h1 : Confined f g lo (lo + 1))
    (h2 : Confined g h (lo + 1) hi) (hle : lo + 1 ≤ hi) : Confined f h lo hi :=
  ⟨h2.feedId.trans h1.feedId, h2.count.trans h1.count, fun i hi' =>
    (h2.streams i (by omega)).trans (h1.streams i (by omega))⟩

/-- A round on a line that is accepted, and is not the one too many. -/
lemma feedLoop_last {k counter : ℕ} {current : Text} {e : XiErr} {f : XiFeed}
    {d : XiDatastream} (hc : counter + 1 < xiMaxDatastreams)
    (h : decodeStream tg current e (f.datastreams ⟨counter, by omega⟩) = .ret () e d)
    (hline : strstr (lit "\n") current = none) :
    feedLoop tg (k + 1) current counter e f =
      .ret (counter + 1) e (withStream f ⟨counter, by omega⟩ d) := by
  have hne : ¬ counter + 1 = xiMaxDatastreams := by omega
  rw [feedLoop, dif_pos (by omega), bind_apply, onStream_ret h, andThen_ret, bind_apply,
    checkCnd_neg hne, andThen_ret, hline]
  rfl

lemma feedLoop_next {k counter endOfLine : ℕ} {current : Text} {e : XiErr} {f : XiFeed}
    {d : XiDatastream} (hc : counter + 1 < xiMaxDatastreams)
    (h : decodeStream tg current e (f.datastreams ⟨counter, by omega⟩) = .ret () e d)
    (hline : strstr (lit "\n") current = some endOfLine) :
    feedLoop tg (k + 1) current counter e f =
      feedLoop tg k (current.drop (endOfLine + 1)) (counter + 1) e
        (withStream f ⟨counter, by omega⟩ d) := by
  have hne : ¬ counter + 1 = xiMaxDatastreams := by omega
  rw [feedLoop, dif_pos (by omega), bind_apply, onStream_ret h, andThen_ret, bind_apply,
    checkCnd_neg hne, andThen_ret, hline]

lemma feedLoop_full {k counter : ℕ} {current : Text} {e : XiErr} {f : XiFeed}
    {d : XiDatastream} (hc : counter + 1 = xiMaxDatastreams)
    (h : decodeStream tg current e (f.datastreams ⟨counter, by omega⟩) = .ret () e d) :
    feedLoop tg (k + 1) current counter e f =
      .goto .csvDecodeFeedParserError (withStream f ⟨counter, by omega⟩ d) := by
  rw [feedLoop, dif_pos (by omega), bind_apply, onStream_ret h, andThen_ret, bind_apply,
    checkCnd_pos hc, andThen_goto]

lemma feedLoop_refused {k counter : ℕ} {current : Text} {e x : XiErr} {f : XiFeed}
    {d : XiDatastream} (hc : counter < xiMaxDatastreams)
    (h : decodeStream tg current e (f.datastreams ⟨counter, hc⟩) = .goto x d) :
    feedLoop tg (k + 1) current counter e f = .goto x (withStream f ⟨counter, hc⟩ d) := by
  rw [feedLoop, dif_pos hc, bind_apply, onStream_goto h, andThen_goto]

lemma strstr_lastLine {l : Text} (h : 10 ∉ l) :
    strstr (lit "\n") ([10].intercalate [l]) = none := by
  rw [List.intercalate_singleton]
  exact strstr_singleton_none h

lemma intercalate_line (l l' : Text) (ls : List Text) :
    [10].intercalate (l :: l' :: ls) = l ++ 10 :: [10].intercalate (l' :: ls) := by
  simp

lemma strstr_line {l : Text} (h : 10 ∉ l) (l' : Text) (ls : List Text) :
    strstr (lit "\n") ([10].intercalate (l :: l' :: ls)) = some l.length := by
  rw [intercalate_line]
  exact strstr_singleton_append h _

lemma drop_line (l l' : Text) (ls : List Text) :
    ([10].intercalate (l :: l' :: ls)).drop (l.length + 1) = [10].intercalate (l' :: ls) := by
  rw [intercalate_line]
  simp

/-- A line in front of decoded lines. -/
lemma LinesDecoded.cons {l : Text} {ls : List Text} {m counter hi : ℕ} {f f' : XiFeed}
    {d : XiDatastream} (hc : counter < xiMaxDatastreams)
    (hd : decodeStream tg ([10].intercalate (l :: ls)) e (f.datastreams ⟨counter, hc⟩) =
      .ret () e d)
    (h : LinesDecoded tg e ls m (counter + 1) (withStream f ⟨counter, hc⟩ d) f')
    (hconf : Confined (withStream f ⟨counter, hc⟩ d) f' (counter + 1) hi) :
    LinesDecoded tg e (l :: ls) (m + 1) counter f f' := by
  intro j i hi' hj
  cases j with
  | zero =>
    obtain rfl : i = ⟨counter, hc⟩ := Fin.ext hi'.symm
    rw [hconf.streams _ (Or.inl (Nat.lt_succ_self counter))]
    simpa [withStream] using hd
  | succ j =>
    have hne : i ≠ ⟨counter, hc⟩ := by
      rintro rfl
      simp only at hi'
      omega
    have hrest := h j i (by omega) (by omega)
    simpa [withStream, Function.update_of_ne hne] using hrest

lemma linesDecoded_zero (ls : List Text) (counter : ℕ) (f f' : XiFeed) :
    LinesDecoded tg e ls 0 counter f f' := fun _ _ _ hj => absurd hj (Nat.not_lt_zero _)

lemma confined_refl (f : XiFeed) (lo hi : ℕ) : Confined f f lo hi := ⟨rfl, rfl, fun _ _ => rfl⟩

/-- Lines that are accepted go into the feed one by one. -/
lemma feedLoop_accepts {ls : List Text} (hne : ls ≠ []) (hlf : ∀ l ∈ ls, 10 ∉ l) {k counter : ℕ}
    (hk : ls.length ≤ k) (h : AcceptsLines tg ls counter) (e : XiErr) (f : XiFeed) :
    ∃ f', feedLoop tg k ([10].intercalate ls) counter e f = .ret (counter + ls.length) e f' ∧
      LinesDecoded tg e ls ls.length counter f f' ∧
      Confined f f' counter (counter + ls.length) := by
  induction ls generalizing k counter f with
  | nil => exact absurd rfl hne
  | cons l ls ih =>
    obtain ⟨hcount, hlines⟩ := h
    rw [List.length_cons] at hcount hk
    obtain ⟨k, rfl⟩ := Nat.exists_eq_succ_of_ne_zero (show k ≠ 0 by omega)
    have hc : counter < xiMaxDatastreams := by omega
    have hl := hlf l (by simp)
    obtain ⟨d, hd⟩ := decodeStream_accepts (hlines 0 (by simp)) e (f.datastreams ⟨counter, hc⟩)
    rw [List.drop_zero] at hd
    cases ls with
    | nil =>
      exact ⟨withStream f ⟨counter, hc⟩ d, feedLoop_last hcount hd (strstr_lastLine hl),
        LinesDecoded.cons hc hd (linesDecoded_zero _ _ _ _) (confined_refl _ _ (counter + 1)),
        confined_withStream f ⟨counter, hc⟩ d⟩
    | cons l' ls =>
      have hround := feedLoop_next (k := k) (show counter + 1 < xiMaxDatastreams by omega) hd
        (strstr_line hl l' ls)
      rw [drop_line] at hround
      have hrest : AcceptsLines tg (l' :: ls) (counter + 1) :=
        ⟨by omega, fun j hj => hlines (j + 1) (by simpa using hj)⟩
      obtain ⟨f', hrun, hdec, hconf⟩ := ih (by simp) (fun m hm => hlf m (List.mem_cons_of_mem l hm))
        (show (l' :: ls).length ≤ k by omega)
        hrest (withStream f ⟨counter, hc⟩ d)
      have hlen : counter + 1 + (l' :: ls).length = counter + (l :: l' :: ls).length := by
        simp only [List.length_cons]; omega
      rw [hlen] at hrun hconf
      refine ⟨f', hround.trans hrun, hdec.cons hc hd hconf, ?_⟩
      exact (confined_withStream f ⟨counter, hc⟩ d).trans hconf (by simp)

/-- The loop stops at the first line that is not accepted, or that is one too many. The lines in
front of it have been decoded. -/
lemma feedLoop_rejects {ls : List Text} (hne : ls ≠ []) (hlf : ∀ l ∈ ls, 10 ∉ l) {k counter : ℕ}
    (hc : counter < xiMaxDatastreams) (hk : xiMaxDatastreams ≤ counter + k)
    (h : ¬ AcceptsLines tg ls counter) (e : XiErr) (f : XiFeed) :
    ∃ m f', feedLoop tg k ([10].intercalate ls) counter e f =
        .goto .csvDecodeFeedParserError f' ∧ m < ls.length ∧ counter + m < xiMaxDatastreams ∧
      (counter + m + 1 = xiMaxDatastreams ∨ ¬ AcceptsLine tg ([10].intercalate (ls.drop m))) ∧
      LinesDecoded tg e ls m counter f f' ∧ Confined f f' counter (counter + m + 1) := by
  induction ls generalizing k counter f with
  | nil => exact absurd rfl hne
  | cons l ls ih =>
    obtain ⟨k, rfl⟩ := Nat.exists_eq_succ_of_ne_zero (show k ≠ 0 by omega)
    have hl := hlf l (by simp)
    by_cases hline : AcceptsLine tg ([10].intercalate (l :: ls))
    · obtain ⟨d, hd⟩ := decodeStream_accepts hline e (f.datastreams ⟨counter, hc⟩)
      by_cases hfull : counter + 1 = xiMaxDatastreams
      · exact ⟨0, _, feedLoop_full hfull hd, by simp, hc, .inl hfull, linesDecoded_zero _ _ _ _,
          confined_withStream f ⟨counter, hc⟩ d⟩
      cases ls with
      | nil =>
        refine absurd ⟨?_, fun j hj => ?_⟩ h
        · simp only [List.length_singleton]; omega
        · obtain rfl : j = 0 := by simpa using hj
          exact hline
      | cons l' ls =>
        have hround := feedLoop_next (k := k) (show counter + 1 < xiMaxDatastreams by omega) hd
          (strstr_line hl l' ls)
        rw [drop_line] at hround
        have hrest : ¬ AcceptsLines tg (l' :: ls) (counter + 1) := by
          rintro ⟨hcount, hlines⟩
          refine h ⟨by simp only [List.length_cons] at hcount ⊢; omega, fun j hj => ?_⟩
          cases j with
          | zero => exact hline
          | succ j => exact hlines j (by simpa using hj)
        obtain ⟨m, f', hrun, hm, hcm, hstop, hdec, hconf⟩ := ih (by simp)
          (fun m hm => hlf m (List.mem_cons_of_mem l hm)) (show counter + 1 < _ by omega)
          (show xiMaxDatastreams ≤ counter + 1 + k by omega) hrest
          (withStream f ⟨counter, hc⟩ d)
        rw [show counter + 1 + m + 1 = counter + (m + 1) + 1 by omega] at hstop hconf
        exact ⟨m + 1, f', hround.trans hrun, by simpa using hm, by omega, hstop,
          hdec.cons hc hd hconf,
          (confined_withStream f ⟨counter, hc⟩ d).trans hconf (show counter + 1 ≤ _ by omega)⟩
    · obtain ⟨d, hd⟩ := decodeStream_rejects hline e (f.datastreams ⟨counter, hc⟩)
      exact ⟨0, _, feedLoop_refused hc hd, by simp, hc, .inr hline, linesDecoded_zero _ _ _ _,
        confined_withStream f ⟨counter, hc⟩ d⟩

/-! ### The feed -/

/-- The lines of a text. -/
def linesOf (t : Text) : List Text := t.splitOn 10

/-- A text the decoder accepts as a feed. -/
def AcceptsFeed (tg : Target) (t : Text) : Prop := AcceptsLines tg (linesOf t) 0

instance (tg : Target) (t : Text) : Decidable (AcceptsFeed tg t) :=
  inferInstanceAs (Decidable (_ ∧ ∀ j < _, _))

lemma intercalate_linesOf (t : Text) : [10].intercalate (linesOf t) = t :=
  List.intercalate_splitOn 10

lemma linesOf_ne_nil (t : Text) : linesOf t ≠ [] := List.splitOn_ne_nil 10 t

lemma not_mem_linesOf {t l : Text} (h : l ∈ linesOf t) : 10 ∉ l := by
  induction t generalizing l with
  | nil => simp_all [linesOf]
  | cons c t ih =>
    rw [linesOf, List.splitOn_cons_eq_if_modifyHead] at h
    split at h
    · rcases List.mem_cons.mp h with rfl | h
      · simp
      · exact ih h
    · next hc =>
      obtain ⟨l', ls, hls⟩ := List.exists_cons_of_ne_nil (linesOf_ne_nil t)
      rw [← linesOf, hls, List.modifyHead_cons] at h
      rw [hls] at ih
      rcases List.mem_cons.mp h with rfl | h
      · have hne : c ≠ 10 := by simpa using hc
        simpa [hne.symm] using ih (List.mem_cons_self ..)
      · exact ih (List.mem_cons_of_mem _ h)

lemma csvDecodeFeed_accepts {t : Text} (h : AcceptsFeed tg t) (e : XiErr) (f : XiFeed) :
    ∃ f', csvDecodeFeed tg t e f = .ret true e f' ∧ f'.feedId = f.feedId ∧
      f'.datastreamCount = (linesOf t).length ∧
      LinesDecoded tg e (linesOf t) (linesOf t).length 0 f f' ∧
      ∀ i, (linesOf t).length ≤ i.val → f'.datastreams i = f.datastreams i := by
  have hk : (linesOf t).length ≤ xiMaxDatastreams := by have := h.1; omega
  obtain ⟨f', hrun, hdec, hconf⟩ := feedLoop_accepts (linesOf_ne_nil t) (fun _ => not_mem_linesOf)
    hk h e f
  rw [intercalate_linesOf, Nat.zero_add] at hrun
  refine ⟨{ f' with datastreamCount := (linesOf t).length }, errHandling_ret false ?_,
    hconf.feedId, rfl, hdec, fun i hi => hconf.streams i (Or.inr (by omega))⟩
  rw [bind_apply, hrun, andThen_ret]
  rfl

lemma csvDecodeFeed_rejects {t : Text} (h : ¬ AcceptsFeed tg t) (e : XiErr) (f : XiFeed) :
    ∃ m f', csvDecodeFeed tg t e f = .ret false .csvDecodeFeedParserError f' ∧
      m < (linesOf t).length ∧ m < xiMaxDatastreams ∧
      (m + 1 = xiMaxDatastreams ∨ ¬ AcceptsLine tg ([10].intercalate ((linesOf t).drop m))) ∧
      LinesDecoded tg e (linesOf t) m 0 f f' ∧ Confined f f' 0 (m + 1) := by
  have hk : xiMaxDatastreams ≤ 0 + xiMaxDatastreams := by omega
  obtain ⟨m, f', hrun, hm, hcm, hstop, hdec, hconf⟩ := feedLoop_rejects (linesOf_ne_nil t)
    (fun _ => not_mem_linesOf) (by norm_num) hk h e f
  rw [intercalate_linesOf] at hrun
  rw [Nat.zero_add] at hcm hconf hstop
  refine ⟨m, f', errHandling_goto false ?_, hm, hcm, hstop, hdec, hconf⟩
  rw [bind_apply, hrun, andThen_goto]

lemma csvDecodeFeed_ret {t : Text} {e e' : XiErr} {f f' : XiFeed}
    (hrun : csvDecodeFeed tg t e f = .ret true e' f') :
    AcceptsFeed tg t ∧ f'.datastreamCount = (linesOf t).length ∧
      LinesDecoded tg e (linesOf t) (linesOf t).length 0 f f' := by
  have haccepts : AcceptsFeed tg t := by
    by_contra hno
    obtain ⟨m, g, hrej, -⟩ := csvDecodeFeed_rejects hno e f
    rw [hrun] at hrej
    cases hrej
  obtain ⟨g, hrun', -, hcount, hdec, -⟩ := csvDecodeFeed_accepts haccepts e f
  rw [hrun] at hrun'
  injection hrun' with _ _ hg
  subst hg
  exact ⟨haccepts, hcount, hdec⟩

end LibXively.Feeds
