import LibXively.Decoding.RoundTrip
import LibXively.Decoding.Feeds
import LibXively.Requests.FeedRequests

/-!
The body of a feed update, and the reader of feeds.

The writer ends every line. The reader takes the text behind the last end of line for one more
line, and that line is empty.
-/

namespace LibXively.FeedFormat

open LibXively.Bytes LibXively.CProc LibXively.CharArray LibXively.Structures LibXively.CsvData
open LibXively.HttpTransport LibXively.Append LibXively.CsvText LibXively.Encoders
open LibXively.FeedRequests LibXively.Datapoints LibXively.Feeds LibXively.RoundTrip

variable {tg : Target} {feed : XiFeed}

/-- A feed of some datastreams, each with an id of plain characters and one integer. -/
structure PlainFeed (feed : XiFeed) : Prop where
  count : 1 ≤ feed.datastreamCount ∧ feed.datastreamCount < xiMaxDatastreams
  ids : ∀ i, i.val < feed.datastreamCount → ∃ id, cstr (feed.datastreams i).datastreamId = some id ∧
    id ≠ [] ∧ 44 ∉ id ∧ 13 ∉ id ∧ 10 ∉ id
  single : ∀ i, i.val < feed.datastreamCount → (feed.datastreams i).datapointCount = 1
  int : ∀ i, i.val < feed.datastreamCount → ((feed.datastreams i).datapoints 0).valueType = .i32
  instant : ∀ i, i.val < feed.datastreamCount →
    1 ≤ ((feed.datastreams i).datapoints 0).timestamp.timestamp ∧
      ((feed.datastreams i).datapoints 0).timestamp.timestamp ≤ 2147483647
  micro : ∀ i, i.val < feed.datastreamCount →
    0 ≤ ((feed.datastreams i).datapoints 0).timestamp.micro ∧
      ((feed.datastreams i).datapoints 0).timestamp.micro ≤ 999999

/-- The same datastreams in the same order. -/
structure SameFeed (feed feed' : XiFeed) : Prop where
  count : feed'.datastreamCount = feed.datastreamCount
  ids : ∀ i, i.val < feed.datastreamCount →
    cstr (feed'.datastreams i).datastreamId = cstr (feed.datastreams i).datastreamId
  single : ∀ i, i.val < feed.datastreamCount → (feed'.datastreams i).datapointCount = 1
  points : ∀ i, i.val < feed.datastreamCount →
    Agrees ((feed.datastreams i).datapoints 0) ((feed'.datastreams i).datapoints 0)

/-- If the body of an update can be assembled, the reader makes the same feed of it. -/
def FormatAgrees (tg : Target) (feed : XiFeed) : Prop :=
  ∀ e o e' b, updateBody tg feed e (zero tg.contentBufferSize) = .ret o e' b →
    ∃ body, cstr b = some body ∧
      ∀ e f, ∃ f', csvDecodeFeed tg body e f = .ret true e f' ∧ SameFeed feed f'

lemma PlainFeed.readable (h : PlainFeed feed) : feed.Readable where
  streams := h.count.2.le
  ids i hi := by
    obtain ⟨id, hid, -⟩ := h.ids i hi
    exact zero_mem_of_cstr hid
  points i hi := by
    rw [h.single i hi]
    norm_num
  values i j hi hj := by
    intro hstr
    rw [h.single i hi] at hj
    obtain rfl : j = 0 := Fin.ext (by simpa using hj)
    rw [h.int i hi] at hstr
    cases hstr

/-! ### The last line -/

/-- A text that ends in an end of line has an empty line behind it. -/
lemma linesOf_newline (t : Text) : linesOf (t ++ [10]) = linesOf t ++ [[]] :=
  List.splitOn_append_cons_self t []

lemma not_acceptsFeed_newline (t : Text) : ¬ AcceptsFeed tg (t ++ [10]) := by
  intro h
  have hlen : (linesOf t).length < (linesOf (t ++ [10])).length := by
    simp [linesOf_newline]
  have hline := h.2 _ hlen
  rw [linesOf_newline, List.drop_left' rfl] at hline
  obtain ⟨i, hi, -⟩ := hline
  cases hi

/-- A text that is there ends in an end of line. -/
def EndsLine (u : Option Text) : Prop := ∀ t, u = some t → ∃ s, t = s ++ [10]

lemma endsLine_cat {u v : Option Text} (h : EndsLine v) : EndsLine (cat u v) := by
  intro t ht
  obtain ⟨a, b, -, hb, rfl⟩ := cat_eq_some ht
  obtain ⟨s, rfl⟩ := h b hb
  exact ⟨a ++ s, (List.append_assoc ..).symm⟩

lemma endsLine_cats {u : ℕ → Option Text} {i k : ℕ}
    (h : ∀ j, i ≤ j → j < i + (k + 1) → EndsLine (u j)) : EndsLine (cats u i (k + 1)) := by
  induction k generalizing i with
  | zero =>
    intro t ht
    rw [cats_succ, cats_zero] at ht
    obtain ⟨a, b, ha, hb, rfl⟩ := cat_eq_some ht
    cases hb
    rw [List.append_nil]
    exact h i le_rfl (by omega) a ha
  | succ k ih =>
    rw [cats_succ]
    exact endsLine_cat (ih fun j h1 h2 => h j (by omega) (by omega))

lemma endsLine_datapointText (p : XiDatapoint) : EndsLine (datapointText tg p) := by
  intro t ht
  obtain ⟨v, -, rfl⟩ := Option.map_eq_some_iff.mp ht
  exact ⟨_, rfl⟩

/-- The body of a feed with a line ends in an end of line. -/
lemma endsLine_feedLines (hcount : 1 ≤ feed.datastreamCount)
    (hpoints : ∀ i, i.val < feed.datastreamCount → 1 ≤ (feed.datastreams i).datapointCount) :
    EndsLine (feedLines tg feed) := by
  obtain ⟨k, hk⟩ := Nat.exists_eq_add_of_le' hcount
  rw [feedLines, hk]
  refine endsLine_cats fun i _ hi => ?_
  split
  · next h16 =>
    obtain ⟨m, hm⟩ := Nat.exists_eq_add_of_le' (hpoints ⟨i, h16⟩ (show i < _ by omega))
    rw [streamLines, hm]
    refine endsLine_cats fun j _ _ => ?_
    split
    · exact endsLine_cat (endsLine_datapointText _)
    · exact fun t ht => nomatch ht
  · exact fun t ht => nomatch ht

/-! ### Assembling -/

/-- The body of a feed is assembled if it fits, and then it is what the buffer holds. -/
lemma updateBody_fits (hf : feed.Readable)
    (hfits : FitsAt tg.contentBufferSize 0 (feedLines tg feed)) (e : XiErr) :
    ∃ o b body, updateBody tg feed e (zero tg.contentBufferSize) = .ret o e b ∧
      feedLines tg feed = some body ∧ cstr b = some body := by
  obtain ⟨body, hbody, hlt⟩ := hfits
  obtain ⟨hfit, -⟩ := @appends_updateBody tg tg.contentBufferSize feed hf 0 [] rfl
    (by simpa using tg.content_pos)
  obtain ⟨b, hrun, hb⟩ := hfit body hbody (by omega) e _ (starts_zero tg.content_pos)
  exact ⟨_, b, body, hrun, hbody, cstr_of_starts (zero_not_mem_feedLines hbody) hb⟩

lemma updateBody_overflows (hf : feed.Readable)
    (hno : ¬ FitsAt tg.contentBufferSize 0 (feedLines tg feed)) (e : XiErr) :
    ∃ x b, updateBody tg feed e (zero tg.contentBufferSize) = .goto x b := by
  obtain ⟨-, hover⟩ := @appends_updateBody tg tg.contentBufferSize feed hf 0 [] rfl
    (by simpa using tg.content_pos)
  obtain ⟨x, Q, -, hl⟩ := hover (by simpa using hno)
  obtain ⟨b, hrun, -⟩ := hl e _ (starts_zero tg.content_pos)
  exact ⟨x, b, hrun⟩

/-- The body of a feed with a line is not read back. -/
lemma not_formatAgrees (hf : feed.Readable) (hcount : 1 ≤ feed.datastreamCount)
    (hpoints : ∀ i, i.val < feed.datastreamCount → 1 ≤ (feed.datastreams i).datapointCount)
    (hfits : FitsAt tg.contentBufferSize 0 (feedLines tg feed)) : ¬ FormatAgrees tg feed := by
  intro h
  obtain ⟨o, b, body, hrun, hbody, hb⟩ := updateBody_fits hf hfits .noErr
  obtain ⟨body', hb', hdec⟩ := h _ _ _ _ hrun
  rw [hb] at hb'
  cases hb'
  obtain ⟨s, rfl⟩ := endsLine_feedLines hcount hpoints body hbody
  obtain ⟨f', hrun', -⟩ := hdec .noErr .zero
  obtain ⟨m, g, hg, -⟩ := csvDecodeFeed_rejects (not_acceptsFeed_newline s) .noErr .zero
  rw [hg] at hrun'
  injection hrun' with hfalse
  cases hfalse

/-- **Writer and reader of feeds**: the reader makes the same feed of the body of an update only
where there is no body, because it does not fit its buffer. -/
theorem feed_format (tg : Target) (feed : XiFeed) (h : PlainFeed feed) :
    FormatAgrees tg feed ↔ ¬ FitsAt tg.contentBufferSize 0 (feedLines tg feed) := by
  refine ⟨fun hagrees hfits => ?_, fun hno e o e' b hrun => ?_⟩
  · have hpoints i hi : 1 ≤ (feed.datastreams i).datapointCount := (h.single i hi).ge
    exact not_formatAgrees h.readable h.count.1 hpoints hfits hagrees
  · obtain ⟨x, b', hover⟩ := updateBody_overflows h.readable hno e
    rw [hover] at hrun
    cases hrun

/-- A feed of one datastream, with the integer 0. -/
def oneStream : XiFeed :=
  { XiFeed.zero with
    datastreamCount := 1
    datastreams := fun _ => ⟨put (zero _) 0 (lit "a"), 1, fun _ => zeroAt 1388534400⟩ }

lemma cstr_a : cstr (put (zero xiMaxDatastreamName) 0 (lit "a")) = some (lit "a") := by decide

lemma plainFeed_oneStream : PlainFeed oneStream where
  count := by decide
  ids _ _ := ⟨lit "a", cstr_a, by decide, by decide, by decide, by decide⟩
  single _ _ := rfl
  int _ _ := rfl
  instant _ _ := by norm_num [oneStream, zeroAt]
  micro _ _ := by norm_num [oneStream, zeroAt]

theorem feed_format_oneStream :
    FormatAgrees posixConfig oneStream ↔ ¬ FitsAt 64 0 (feedLines posixConfig oneStream) :=
  feed_format posixConfig oneStream plainFeed_oneStream

/-- The body `a,2014-01-01T00:00:00.000000Z,0` with its end of line fits, and is not read back. -/
theorem feed_format_fails : PlainFeed oneStream ∧
    feedLines posixConfig oneStream = some (lit "a,2014-01-01T00:00:00.000000Z,0\n") ∧
    ¬ FormatAgrees posixConfig oneStream := by
  have hlines : feedLines posixConfig oneStream =
      some (lit "a,2014-01-01T00:00:00.000000Z,0\n") := by decide
  refine ⟨plainFeed_oneStream, hlines, not_formatAgrees plainFeed_oneStream.readable (by decide)
    (fun _ _ => le_rfl) ?_⟩
  rw [hlines, fitsAt_some]
  decide

end LibXively.FeedFormat
