import LibXively.Http.StartLine
import LibXively.Requests.RequestFraming

/-!
The resource a request names.

The id of a feed is unsigned and is printed as an `int`: the larger half of the ids comes out
negative.
-/

namespace LibXively.RequestTarget

open LibXively.Bytes LibXively.Decimal LibXively.CProc LibXively.CharArray LibXively.Structures
open LibXively.HttpQueries LibXively.Append LibXively.Builders LibXively.Encoders
open LibXively.FeedRequests LibXively.Framing LibXively.StartLine LibXively.RequestFraming

/-! ### What a call means -/

/-- A letter, a digit, an underscore, a minus, a plus or a point. -/
def NameByte (c : Byte) : Prop :=
  isDigit c = true ∨ (65 ≤ c ∧ c ≤ 90) ∨ (97 ≤ c ∧ c ≤ 122) ∨ c = 95 ∨ c = 45 ∨ c = 43 ∨ c = 46

def NameText (t : Text) : Prop := ∀ c ∈ t, NameByte c

/-- The ids a call puts in its target are names. -/
def Named : EncodeCall → Prop
  | .updateDatastream _ id _ => NameText id.bytes
  | .getDatastream _ id => NameText id.bytes
  | .deleteDatastream _ id => NameText id.bytes
  | .getFeed feed => ∀ (i : Fin xiMaxDatastreams) (t : Text), i.val < feed.datastreamCount →
    cstr (feed.datastreams i).datastreamId = some t → NameText t
  | _ => True

/-- The id of the feed a call is about. -/
def feedIdOf : EncodeCall → UInt32
  | .createDatastream feedId _ _ => feedId
  | .updateDatastream feedId _ _ => feedId
  | .getDatastream feedId _ => feedId
  | .deleteDatastream feedId _ => feedId
  | .deleteDatapoint feedId _ _ => feedId
  | .updateFeed feed => feed.feedId
  | .getFeed feed => feed.feedId
  | .datapointDeleteRange feedId _ _ _ => feedId

/-- The ids of the datastreams of a feed. -/
def feedIds (feed : XiFeed) : List Text :=
  (List.range' 0 feed.datastreamCount).map fun i =>
    if h : i < xiMaxDatastreams then (cstr (feed.datastreams ⟨i, h⟩).datastreamId).getD [] else []

/-- The query of a get of a feed, which asks for its datastreams. -/
def feedQuery (feed : XiFeed) : Option Text :=
  if feed.datastreamCount = 0 then none
  else some (lit "datastreams=" ++ [44].intercalate (feedIds feed))

def feedResource (feedId : UInt32) : Text := lit "/v2/feeds/" ++ digits feedId.toNat

/-- The request line of a call on a feed or on a datastream. -/
def resource : EncodeCall → Option RequestLine
  | .createDatastream feedId _ _ =>
    some ⟨lit "POST", feedResource feedId ++ lit "/datastreams.csv", none⟩
  | .updateDatastream feedId id _ =>
    some ⟨lit "PUT", feedResource feedId ++ (lit "/datastreams/" ++ id.bytes ++ lit ".csv"), none⟩
  | .getDatastream feedId id =>
    some ⟨lit "GET", feedResource feedId ++ (lit "/datastreams/" ++ id.bytes ++ lit ".csv"), none⟩
  | .deleteDatastream feedId id =>
    some ⟨lit "DELETE", feedResource feedId ++ (lit "/datastreams/" ++ id.bytes ++ lit ".csv"),
      none⟩
  | .updateFeed feed => some ⟨lit "PUT", feedResource feed.feedId ++ lit ".csv", none⟩
  | .getFeed feed => some ⟨lit "GET", feedResource feed.feedId ++ lit ".csv", feedQuery feed⟩
  | _ => none

/-- The number in the segment of a path behind `/v2/feeds/`. -/
def readFeedId (path : Text) : Option ℕ :=
  if lit "/v2/feeds/" <+: path then
    let segment := (path.drop 10).takeWhile fun c => c ≠ 47 ∧ c ≠ 46
    if segment ≠ [] ∧ segment.all isDigit then some (value segment) else none
  else none

/-- The first line of a request is that of the resource, and names its feed. -/
def NamesResource (c : EncodeCall) (r : RequestLine) (t : Text) : Prop :=
  (firstLine t).bind readRequestLine = some r ∧ readFeedId r.path = some (feedIdOf c).toNat

/-! ### Ids of feeds -/

/-- An id is printed as it is exactly if it is an `int`. -/
lemma fmtD_feedId (feedId : UInt32) :
    fmtD (toInt32 feedId.toNat) = digits feedId.toNat ↔ feedId.toNat < 2 ^ 31 := by
  have hmax : feedId.toNat < 2 ^ 32 := feedId.toNat_lt
  constructor
  · intro h
    by_contra hge
    have hneg : toInt32 feedId.toNat = (feedId.toNat : ℤ) - 2 ^ 32 := by
      rw [toInt32, Int.bmod_eq_emod]
      norm_num
      omega
    have hminus : (45 : Byte) ∈ fmtD (toInt32 feedId.toNat) := by
      rw [hneg, fmtD, if_pos (by omega)]
      simp
    rw [h] at hminus
    exact absurd (isDigit_of_mem_digits hminus) (by decide)
  · intro h
    rw [toInt32_eq (by omega) (by omega), fmtD_natCast]

/-- The number in front of the rest of a path is read back. -/
lemma readFeedId_feedResource (feedId : UInt32) {rest : Text}
    (h : rest.head? = some 47 ∨ rest.head? = some 46) :
    readFeedId (feedResource feedId ++ rest) = some feedId.toNat := by
  have hdigit : ∀ c ∈ digits feedId.toNat, isDigit c = true := fun _ => isDigit_of_mem_digits
  have hpath : feedResource feedId ++ rest =
      lit "/v2/feeds/" ++ (digits feedId.toNat ++ rest) := by
    rw [feedResource, List.append_assoc]
  have hlen : (lit "/v2/feeds/").length = 10 := by decide
  have hseg : (digits feedId.toNat ++ rest).takeWhile (fun c => decide (c ≠ 47 ∧ c ≠ 46)) =
      digits feedId.toNat := by
    rw [List.takeWhile_append_of_pos]
    · obtain ⟨c, rest, rfl⟩ : ∃ c r, rest = c :: r := by
        cases rest with
        | nil => simp at h
        | cons c r => exact ⟨c, r, rfl⟩
      simp only [List.head?_cons, Option.some.injEq] at h
      rcases h with rfl | rfl <;> simp
    · intro c hc
      have hd := hdigit c hc
      rw [decide_eq_true_eq]
      constructor <;> rintro rfl <;> simp [isDigit] at hd
  rw [hpath, readFeedId, if_pos (List.prefix_append _ _), List.drop_left' hlen, hseg]
  simp only [digits_ne_nil, ne_eq, not_false_eq_true, true_and, List.all_eq_true.mpr hdigit,
    if_true, value_digits]

/-! ### Ids of datastreams -/

lemma not_mem_of_nameText {t : Text} (h : NameText t) {c : Byte}
    (hc : c = 10 ∨ c = 32 ∨ c = 63) : c ∉ t := by
  intro hmem
  have hname := h c hmem
  rcases hc with rfl | rfl | rfl <;> revert hname <;> unfold NameByte <;> decide

/-- Texts with a comma between them are the first one, and the others each behind a comma. -/
lemma intercalate_comma (a : Text) (l : List Text) :
    [44].intercalate (a :: l) = a ++ l.flatMap (44 :: ·) := by
  induction l generalizing a with
  | nil => simp
  | cons b l ih =>
    have hstep : [44].intercalate (a :: b :: l) = a ++ 44 :: [44].intercalate (b :: l) := by
      simp [List.intercalate]
    rw [hstep, ih]
    simp

/-- The suffix of a get of a feed is its query. -/
lemma feedSuffix_eq {feed : XiFeed} (hf : feed.Readable) :
    feedSuffix feed = some ((feedQuery feed).elim [] (63 :: ·)) := by
  cases hcount : feed.datastreamCount with
  | zero => simp [feedSuffix, feedQuery, hcount, cats_zero]
  | succ k =>
    have hstreams := hf.streams
    have hid (i : ℕ) (hi : i < feed.datastreamCount) (h : i < xiMaxDatastreams) :
        cstr (feed.datastreams ⟨i, h⟩).datastreamId =
          some ((cstr (feed.datastreams ⟨i, h⟩).datastreamId).getD []) := by
      obtain ⟨t, ht⟩ := exists_cstr (hf.ids ⟨i, h⟩ hi)
      rw [ht]
      rfl
    have h0 : 0 < xiMaxDatastreams := by decide
    have hids : feedIds feed = (cstr (feed.datastreams ⟨0, h0⟩).datastreamId).getD [] ::
        (List.range' 1 k).map fun i => if h : i < xiMaxDatastreams then
          (cstr (feed.datastreams ⟨i, h⟩).datastreamId).getD [] else [] := by
      rw [feedIds, hcount, List.range'_succ]
      simp
    have hlit : (63 : Byte) :: lit "datastreams=" = lit "?datastreams=" := by decide
    have hcomma : lit "," = [44] := by decide
    rw [feedQuery, if_neg (by omega), hids, intercalate_comma, Option.elim_some, feedSuffix,
      hcount, cats_succ, dif_pos h0, hid 0 (by omega) h0]
    rw [@cats_eq_some _ fun i => 44 :: if h : i < xiMaxDatastreams then
      (cstr (feed.datastreams ⟨i, h⟩).datastreamId).getD [] else []]
    · simp [← hlit, List.flatMap_map]
    · intro j h1 h2
      have hj : j < xiMaxDatastreams := by omega
      rw [dif_pos hj, dif_pos hj, hid j (by omega) hj, if_neg (by omega), hcomma]
      rfl

/-! ### The first line -/

variable {tg : Target} {apiKey : CString}

lemma firstLine_text {c : EncodeCall} (h : HeadOneLine c) (hc : c.Readable) :
    firstLine (c.text tg apiKey) = some (requestLine c.method (c.path tg) (c.suffix tg)) := by
  rw [EncodeCall.text, EncodeCall.query, requestText_eq, List.append_assoc]
  exact firstLine_render (part_requestLine h hc).1 _ _

lemma headOneLine_of_named {c : EncodeCall} (h : Named c) {r : RequestLine}
    (hr : resource c = some r) : HeadOneLine c := by
  have hname {t : Text} (ht : NameText t) : OneLine t :=
    oneLine_of_not_mem (not_mem_of_nameText ht (Or.inl rfl))
  cases c with
  | updateDatastream feedId id p => exact hname h
  | getDatastream feedId id => exact hname h
  | deleteDatastream feedId id => exact hname h
  | getFeed feed => exact fun i t hi ht => hname (h i t hi ht)
  | deleteDatapoint feedId id o => cases hr
  | datapointDeleteRange feedId id start end_ => cases hr
  | createDatastream feedId id p => exact trivial
  | updateFeed feed => exact trivial

/-- The path of the request line as it is printed, with what stands behind the id of the feed. -/
def printedPath (feedId : UInt32) (rest : Text) : Text :=
  lit "/v2/feeds/" ++ fmtD (toInt32 feedId.toNat) ++ rest

/-- What a request prints of its resource: all of it, but the id of the feed as an `int`. -/
structure Prints (tg : Target) (c : EncodeCall) (r : RequestLine) (rest : Text) : Prop where
  method : r.method = c.method
  path : r.path = feedResource (feedIdOf c) ++ rest
  printed : lit "/v2/feeds" ++ c.path tg ++ lit ".csv" = printedPath (feedIdOf c) rest
  suffix : c.suffix tg = r.query.elim [] (63 :: ·)
  starts : rest.head? = some 47 ∨ rest.head? = some 46
  clean : 32 ∉ rest ∧ 63 ∉ rest
  query : 32 ∉ r.query.getD []

lemma clean_datastream {id : Text} (h : NameText id) :
    32 ∉ lit "/datastreams/" ++ id ++ lit ".csv" ∧
      63 ∉ lit "/datastreams/" ++ id ++ lit ".csv" := by
  have h1 := not_mem_of_nameText h (Or.inr (Or.inl rfl))
  have h2 := not_mem_of_nameText h (Or.inr (Or.inr rfl))
  simp only [List.mem_append, not_or]
  exact ⟨⟨⟨by decide, h1⟩, by decide⟩, ⟨⟨by decide, h2⟩, by decide⟩⟩

lemma printed_feed (feedId : UInt32) :
    lit "/v2/feeds" ++ feedPath feedId ++ lit ".csv" = printedPath feedId (lit ".csv") := by
  have hslash : lit "/v2/feeds/" = lit "/v2/feeds" ++ lit "/" := by decide
  simp only [feedPath, printedPath, hslash, List.append_assoc]

lemma printed_datastream (feedId : UInt32) (id : Text) :
    lit "/v2/feeds" ++ datastreamPath feedId (some id) ++ lit ".csv" =
      printedPath feedId (lit "/datastreams/" ++ id ++ lit ".csv") := by
  have hslash : lit "/v2/feeds/" = lit "/v2/feeds" ++ lit "/" := by decide
  have hstreams : lit "/datastreams/" = lit "/datastreams" ++ lit "/" := by decide
  simp only [datastreamPath, feedPath, printedPath, hslash, hstreams, Option.elim_some,
    List.append_assoc]

lemma printed_datastreams (feedId : UInt32) :
    lit "/v2/feeds" ++ datastreamPath feedId none ++ lit ".csv" =
      printedPath feedId (lit "/datastreams.csv") := by
  have hslash : lit "/v2/feeds/" = lit "/v2/feeds" ++ lit "/" := by decide
  have hstreams : lit "/datastreams.csv" = lit "/datastreams" ++ lit ".csv" := by decide
  simp only [datastreamPath, feedPath, printedPath, hslash, hstreams, Option.elim_none,
    List.append_assoc, List.append_nil]

lemma of_mem_intercalate {l : List Text} {c : Byte} (hc : c ≠ 44)
    (h : c ∈ [44].intercalate l) : ∃ t ∈ l, c ∈ t := by
  cases l with
  | nil => simp at h
  | cons a l =>
    rw [intercalate_comma, List.mem_append, List.mem_flatMap] at h
    rcases h with h | ⟨t, ht, h⟩
    · exact ⟨a, List.mem_cons_self, h⟩
    · exact ⟨t, List.mem_cons_of_mem _ ht, (List.mem_cons.mp h).resolve_left hc⟩

lemma nameText_of_mem_feedIds {feed : XiFeed} (h : Named (.getFeed feed)) {t : Text}
    (ht : t ∈ feedIds feed) : NameText t := by
  obtain ⟨i, hi, rfl⟩ := List.mem_map.mp ht
  rw [List.mem_range'_1] at hi
  intro c hc
  split at hc
  · next h16 =>
    cases hs : cstr (feed.datastreams ⟨i, h16⟩).datastreamId with
    | none => simp [hs] at hc
    | some u =>
      rw [hs, Option.getD_some] at hc
      exact h ⟨i, h16⟩ u (by simpa using hi.2) hs c hc
  · cases hc

lemma feedQuery_clean {feed : XiFeed} (h : Named (.getFeed feed)) :
    32 ∉ (feedQuery feed).getD [] := by
  unfold feedQuery
  split
  · simp
  · rw [Option.getD_some, List.mem_append, not_or]
    refine ⟨by decide, fun hmem => ?_⟩
    obtain ⟨t, ht, hin⟩ := of_mem_intercalate (by decide) hmem
    exact not_mem_of_nameText (nameText_of_mem_feedIds h ht) (Or.inr (Or.inl rfl)) hin

lemma exists_prints {c : EncodeCall} (hc : c.Readable) (h : Named c) {r : RequestLine}
    (hr : resource c = some r) : ∃ rest, Prints tg c r rest := by
  cases c with
  | createDatastream feedId id p =>
    cases hr
    exact ⟨lit "/datastreams.csv", rfl, rfl, printed_datastreams feedId, rfl, by decide,
      by decide, by simp⟩
  | updateDatastream feedId id p =>
    cases hr
    exact ⟨_, rfl, rfl, printed_datastream feedId id.bytes, rfl, Or.inl rfl,
      clean_datastream h, by simp⟩
  | getDatastream feedId id =>
    cases hr
    exact ⟨_, rfl, rfl, printed_datastream feedId id.bytes, rfl, Or.inl rfl,
      clean_datastream h, by simp⟩
  | deleteDatastream feedId id =>
    cases hr
    exact ⟨_, rfl, rfl, printed_datastream feedId id.bytes, rfl, Or.inl rfl,
      clean_datastream h, by simp⟩
  | updateFeed feed =>
    cases hr
    exact ⟨lit ".csv", rfl, rfl, printed_feed feed.feedId, rfl, by decide, by decide, by simp⟩
  | getFeed feed =>
    cases hr
    refine ⟨lit ".csv", rfl, rfl, printed_feed feed.feedId, ?_, by decide, by decide,
      feedQuery_clean h⟩
    have hsuffix := feedSuffix_eq hc
    simp [EncodeCall.suffix, EncodeCall.front, EncodeCall.staged, hsuffix]
  | deleteDatapoint feedId id o => cases hr
  | datapointDeleteRange feedId id start end_ => cases hr

lemma clean_printedPath (feedId : UInt32) {rest : Text} (h : 32 ∉ rest ∧ 63 ∉ rest) :
    32 ∉ printedPath feedId rest ∧ 63 ∉ printedPath feedId rest := by
  have hnumber {c : Byte} (hc : isDigit c = false ∧ c ≠ 45) :
      c ∉ fmtD (toInt32 feedId.toNat) := by
    intro hin
    rcases of_mem_fmtD hin with hd | rfl
    · simp [hc.1] at hd
    · exact hc.2 rfl
  simp only [printedPath, List.mem_append, not_or]
  exact ⟨⟨⟨by decide, hnumber (by decide)⟩, h.1⟩, ⟨⟨by decide, hnumber (by decide)⟩, h.2⟩⟩

/-- What the first line of a request is read as. -/
lemma readRequestLine_prints {c : EncodeCall} {r : RequestLine} {rest : Text}
    (h : Prints tg c r rest) :
    readRequestLine (requestLine c.method (c.path tg) (c.suffix tg)) =
      some { r with path := printedPath (feedIdOf c) rest } := by
  have hblank : lit " /v2/feeds" = 32 :: lit "/v2/feeds" := by decide
  have hversion : lit " HTTP/1.1" = 32 :: lit "HTTP/1.1" := by decide
  have hline : requestLine c.method (c.path tg) (c.suffix tg) =
      c.method ++ 32 :: (renderTarget (printedPath (feedIdOf c) rest) r.query ++
        32 :: lit "HTTP/1.1") := by
    rw [requestLine, renderTarget, ← h.printed, h.suffix, hblank, hversion]
    simp only [List.append_assoc, List.cons_append]
  have hmethod : 32 ∉ c.method := by
    cases c <;> simp only [EncodeCall.method] <;> decide
  rw [hline, readRequestLine_render hmethod (clean_printedPath _ h.clean) h.query, ← h.method]

lemma named_smallId : NameText smallId.bytes := fun c hc => by
  rw [List.mem_singleton.mp hc]
  exact Or.inr (Or.inr (Or.inl (by decide)))

/-- **Request targets**: the first line of a request names the resource that was asked for, and
reading it gives back the id of the feed, exactly if that id fits an `int`. -/
theorem request_target (tg : Target) (h56 : 56 ≤ tg.contentBufferSize) (apiKey : CString)
    (c : EncodeCall) (hc : c.Readable) (hnamed : Named c) (r : RequestLine)
    (hr : resource c = some r) (e e' : XiErr) (l l' : Statics tg) (t : Text)
    (h : c.encode tg apiKey e l = .ret (some t) e' l') :
    NamesResource c r t ↔ (feedIdOf c).toNat < 2 ^ 31 := by
  obtain ⟨-, ht⟩ := encode_some h56 hc h
  obtain ⟨rest, hprints⟩ := @exists_prints tg c hc hnamed r hr
  have hid : readFeedId r.path = some (feedIdOf c).toNat := by
    rw [hprints.path]
    exact readFeedId_feedResource _ hprints.starts
  rw [NamesResource, ht, firstLine_text (headOneLine_of_named hnamed hr) hc, Option.bind_some,
    readRequestLine_prints hprints, ← fmtD_feedId]
  have hpath : printedPath (feedIdOf c) rest = r.path ↔
      fmtD (toInt32 (feedIdOf c).toNat) = digits (feedIdOf c).toNat := by
    rw [hprints.path, printedPath, feedResource, List.append_left_inj, List.append_right_inj]
  rw [← hpath]
  constructor
  · rintro ⟨h1, -⟩
    exact congrArg RequestLine.path (Option.some.inj h1)
  · intro h1
    exact ⟨by rw [h1], hid⟩

theorem request_target_get :
    NamesResource smallGet ⟨lit "GET", lit "/v2/feeds/1/datastreams/a.csv", none⟩
      (smallGet.text posixConfig smallKey) := by
  have hreadable : smallGet.Readable := trivial
  obtain ⟨l, hl⟩ := encode_fits hreadable fits_smallGet
  exact (request_target posixConfig (by decide) smallKey smallGet hreadable named_smallId _
    (by decide) .noErr .noErr _ l _ hl).mpr (by decide)

/-- A request for a datastream of the feed with the largest id. -/
def largestGet : EncodeCall := .getDatastream 4294967295 smallId

lemma fits_largestGet : largestGet.Fits posixConfig smallKey :=
  ⟨by rintro _ ⟨⟩, by decide, by decide +kernel, by decide, by decide +kernel⟩

/-- That feed is asked for as feed -1. -/
theorem request_target_negative : ∃ l,
    largestGet.encode posixConfig smallKey .noErr (.fresh posixConfig) =
      .ret (some (largestGet.text posixConfig smallKey)) .noErr l ∧
    Named largestGet ∧
    resource largestGet =
      some ⟨lit "GET", lit "/v2/feeds/4294967295/datastreams/a.csv", none⟩ ∧
    (firstLine (largestGet.text posixConfig smallKey)).bind readRequestLine =
      some ⟨lit "GET", lit "/v2/feeds/-1/datastreams/a.csv", none⟩ := by
  have hreadable : largestGet.Readable := trivial
  obtain ⟨l, hl⟩ := encode_fits hreadable fits_largestGet
  exact ⟨l, hl, named_smallId, by decide +kernel, by decide +kernel⟩

end LibXively.RequestTarget
