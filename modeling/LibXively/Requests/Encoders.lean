import LibXively.Requests.Builders

/-!
The eight request encoders.

An encoder prints some texts in front, then the path, the request head, the content headers and
the assembled request, each into a buffer of its own. It returns the untruncated request exactly
if all of them fit, and otherwise null with an error.
-/

namespace LibXively.Encoders

open LibXively.Bytes LibXively.Decimal LibXively.CProc LibXively.CharArray LibXively.XiTime
open LibXively.Gmtime LibXively.Structures LibXively.CsvData LibXively.HttpQueries
open LibXively.HttpTransport LibXively.Append LibXively.CsvText LibXively.Builders

/-- A call of an encoder, less the API key. -/
inductive EncodeCall
  | createDatastream (feedId : UInt32) (datastreamId : CString) (datapoint : XiDatapoint)
  | updateDatastream (feedId : UInt32) (datastreamId : CString) (datapoint : XiDatapoint)
  | getDatastream (feedId : UInt32) (datastreamId : CString)
  | deleteDatastream (feedId : UInt32) (datastreamId : CString)
  | deleteDatapoint (feedId : UInt32) (datastreamId : CString) (o : XiDatapoint)
  | updateFeed (feed : XiFeed)
  | getFeed (feed : XiFeed)
  | datapointDeleteRange (feedId : UInt32) (datastreamId : CString)
      (start end_ : Option XiTimestamp)

variable (tg : Target)

def EncodeCall.encode (apiKey : CString) : EncodeCall → Proc XiErr (Statics tg) (Option Text)
  | .createDatastream feedId id p => httpEncodeCreateDatastream apiKey feedId id p
  | .updateDatastream feedId id p => httpEncodeUpdateDatastream apiKey feedId id p
  | .getDatastream feedId id => httpEncodeGetDatastream apiKey feedId id
  | .deleteDatastream feedId id => httpEncodeDeleteDatastream apiKey feedId id
  | .deleteDatapoint feedId id o => httpEncodeDeleteDatapoint apiKey feedId id o
  | .updateFeed feed => httpEncodeUpdateFeed apiKey feed
  | .getFeed feed => httpEncodeGetFeed apiKey feed
  | .datapointDeleteRange feedId id start end_ =>
    httpEncodeDatapointDeleteRange apiKey feedId id start end_

/-- The arguments are strings, counts and bounds an encoder may read. -/
def EncodeCall.Readable : EncodeCall → Prop
  | .createDatastream _ _ p => p.Readable
  | .updateDatastream _ _ p => p.Readable
  | .updateFeed feed => feed.Readable
  | .getFeed feed => feed.Readable
  | .datapointDeleteRange _ _ start end_ => start.isSome ∧ end_.isSome
  | _ => True

/-! ### The texts of a call -/

/-- The line of one datapoint of a feed. -/
def pointLine (id : Buf xiMaxDatastreamName) (p : XiDatapoint) : Option Text :=
  cat ((cstr id).map (· ++ lit ",")) (datapointText tg p)

/-- The lines of a datastream. -/
def streamLines (d : XiDatastream) : Option Text :=
  cats (fun j => if h : j < xiMaxDatapoints then pointLine tg d.datastreamId (d.datapoints ⟨j, h⟩)
    else none) 0 d.datapointCount

/-- The lines of a feed: the body of an update. -/
def feedLines (feed : XiFeed) : Option Text :=
  cats (fun i => if h : i < xiMaxDatastreams then streamLines tg (feed.datastreams ⟨i, h⟩)
    else none) 0 feed.datastreamCount

/-- The ids of a feed, as a query. -/
def feedSuffix (feed : XiFeed) : Option Text :=
  cats (fun i => if h : i < xiMaxDatastreams then
    (cstr (feed.datastreams ⟨i, h⟩).datastreamId).map
      ((if i = 0 then lit "?datastreams=" else lit ",") ++ ·) else none) 0 feed.datastreamCount

/-- The text of an instant. -/
def instantText (t : XiTimestamp) : Text :=
  (xiGmtime tg.longBits t.timestamp).elim [] fun tm => timestampText tm t.micro

/-- The target of a deletion of one datapoint, as the encoder appends it to the path. -/
def datapointTarget (datastreamId : CString) (o : XiDatapoint) : Text :=
  datastreamId.bytes ++ lit "/datapoints/" ++ instantText tg o.timestamp

/-- The target of a deletion of a range. -/
def rangeTarget (datastreamId : CString) (start end_ : XiTimestamp) : Text :=
  datastreamId.bytes ++ lit "/datapoints?start=" ++ instantText tg start ++ lit "&end=" ++
    instantText tg end_

/-- The text a call prints in front of everything else, if it prints one, and the size of the
buffer for it. A text that is missing has a datapoint of unknown type in it. -/
def EncodeCall.staged : EncodeCall → Option (Option Text × ℕ)
  | .createDatastream _ id p => some (createText tg id p, tg.csvBufferSize)
  | .updateDatastream _ _ p => some (datapointText tg p, tg.csvBufferSize)
  | .getDatastream _ _ => none
  | .deleteDatastream _ _ => none
  | .deleteDatapoint _ id o =>
    some (some (datapointTarget tg id o), tg.queryBufferSize + tg.contentBufferSize)
  | .updateFeed feed => some (feedLines tg feed, tg.contentBufferSize)
  | .getFeed feed => some (feedSuffix feed, tg.contentBufferSize)
  | .datapointDeleteRange _ id start end_ =>
    some (start.bind fun s => end_.map fun e => rangeTarget tg id s e,
      tg.queryBufferSize + tg.contentBufferSize)

/-- The text of a call that is printed in front. -/
def EncodeCall.front (c : EncodeCall) : Text := ((c.staged tg).bind Prod.fst).getD []

def EncodeCall.method : EncodeCall → Text
  | .createDatastream .. => lit "POST"
  | .updateDatastream .. => lit "PUT"
  | .updateFeed .. => lit "PUT"
  | .getDatastream .. => lit "GET"
  | .getFeed .. => lit "GET"
  | _ => lit "DELETE"

/-- The path of a call. -/
def EncodeCall.path (c : EncodeCall) : Text :=
  match c with
  | .createDatastream feedId _ _ => datastreamPath feedId none
  | .updateDatastream feedId id _ => datastreamPath feedId (some id.bytes)
  | .getDatastream feedId id => datastreamPath feedId (some id.bytes)
  | .deleteDatastream feedId id => datastreamPath feedId (some id.bytes)
  | .deleteDatapoint feedId _ _ => datastreamPath feedId (some (c.front tg))
  | .updateFeed feed => feedPath feed.feedId
  | .getFeed feed => feedPath feed.feedId
  | .datapointDeleteRange feedId _ _ _ => datastreamPath feedId (some (c.front tg))

/-- The query behind the path, which only a get of a feed has. -/
def EncodeCall.suffix (c : EncodeCall) : Text :=
  match c with
  | .getFeed _ => c.front tg
  | _ => []

/-- The request head of a call. -/
def EncodeCall.query (apiKey : CString) (c : EncodeCall) : Text :=
  queryText tg c.method (c.path tg) (c.suffix tg) apiKey

/-- The body of a call: what the data layer makes of the datapoint or feed it sends. -/
def EncodeCall.body (c : EncodeCall) : Option Text :=
  match c with
  | .createDatastream .. => some (c.front tg)
  | .updateDatastream .. => some (c.front tg)
  | .updateFeed .. => some (c.front tg)
  | _ => none

/-- The request of a call, at its full length. -/
def EncodeCall.text (apiKey : CString) (c : EncodeCall) : Text :=
  requestText (c.query tg apiKey) (c.body tg)

/-- Every text of a call fits its buffer with its terminator, and no datapoint that is sent has
an unknown type. -/
structure EncodeCall.Fits (apiKey : CString) (c : EncodeCall) : Prop where
  staged : ∀ x ∈ c.staged tg, FitsAt x.2 0 x.1
  path : (c.path tg).length < tg.idBufferSize
  query : (c.query tg apiKey).length < tg.queryBufferSize
  content : (bodyText (c.body tg)).1.length < tg.contentBufferSize
  text : (c.text tg apiKey).length < tg.queryBufferSize + tg.contentBufferSize

/-! ### Content headers always fit -/

variable {tg}

lemma length_contentTemplate_lt (h56 : 56 ≤ tg.contentBufferSize) (size : ℤ) :
    (contentTemplate (toInt32 size)).length < tg.contentBufferSize := by
  have h := length_fmtD_toInt32_le size
  have h1 : (lit "Content-Type: text/plain\r\n").length = 26 := by decide
  have h2 : (lit "Content-Length: ").length = 16 := by decide
  have h3 : (lit "\r\n").length = 2 := by decide
  simp only [contentTemplate, List.length_append, h1, h2, h3]
  omega

/-- The end of the requests with a body. -/
lemma decides_concatBody (h56 : 56 ≤ tg.contentBufferSize) {query data : Text}
    (hq : (0 : Byte) ∉ query) (hd : (0 : Byte) ∉ data) :
    Decides (concatBody query data : Request tg)
      ((requestText query (some data)).length < tg.queryBufferSize + tg.contentBufferSize)
      (requestText query (some data)) := by
  have hcontent : Yields (httpConstructContent data.length : Request tg) _ none :=
    (decides_content data.length).1 (length_contentTemplate_lt h56 _)
  have hpos : 0 < tg.queryBufferSize + tg.contentBufferSize := Nat.add_pos_left tg.query_pos _
  have hconcat : Decides (onHttpQueryBuffer (httpEncodeConcat query
      (some (contentTemplate (toInt32 data.length))) (some data)) : Request tg) _ _ :=
    (decides_concat hpos hq (b := some data) fun _ h => by cases h; exact hd).focus
      fun _ _ => rfl
  refine ⟨fun hlt => hcontent.seq (hconcat.1 hlt), fun hno => ?_⟩
  obtain ⟨x, hx, hy⟩ := hconcat.2 hno
  exact ⟨x, hx, hcontent.seq hy⟩

/-- The end of the requests without a body. -/
lemma decides_concatBare {query : Text} (hq : (0 : Byte) ∉ query) :
    Decides (onHttpQueryBuffer (httpEncodeConcat query none none) : Request tg)
      ((requestText query none).length < tg.queryBufferSize + tg.contentBufferSize)
      (requestText query none) :=
  (decides_concat (Nat.add_pos_left tg.query_pos _) hq (b := none) (by simp)).focus fun _ _ => rfl

lemma content_fits (h56 : 56 ≤ tg.contentBufferSize) (body : Option Text) :
    (bodyText body).1.length < tg.contentBufferSize := by
  cases body with
  | none => exact tg.content_pos
  | some data => exact length_contentTemplate_lt h56 _

/-- With the content buffer of `xi_config.h` the content headers fit in any case. -/
lemma fits_iff (h56 : 56 ≤ tg.contentBufferSize) (apiKey : CString) (c : EncodeCall) :
    c.Fits tg apiKey ↔ (∀ x ∈ c.staged tg, FitsAt x.2 0 x.1) ∧
      ((c.path tg).length < tg.idBufferSize ∧
        (c.query tg apiKey).length < tg.queryBufferSize) ∧
      (c.text tg apiKey).length < tg.queryBufferSize + tg.contentBufferSize :=
  ⟨fun h => ⟨h.staged, ⟨h.path, h.query⟩, h.text⟩,
    fun ⟨h1, ⟨h2, h3⟩, h4⟩ => ⟨h1, h2, h3, content_fits h56 _, h4⟩⟩

/-! ### Requests on a datastream -/

variable {apiKey : CString} {feedId : UInt32}

/-- The requests on a datastream with a line as their body. -/
lemma decides_withLine (h56 : 56 ≤ tg.contentBufferSize) {method data : Text}
    {datastream : Option Text} {csv : Request tg} {c : Prop} (hm : (0 : Byte) ∉ method)
    (hid : ∀ t, datastream = some t → (0 : Byte) ∉ t) (hdata : (0 : Byte) ∉ data)
    (hcsv : Decides csv c data) :
    Decides (unlessNull csv fun data =>
        unlessNull (httpConstructRequestDatastream method feedId datastream apiKey) fun query =>
        concatBody query data : Request tg)
      (c ∧ ((datastreamPath feedId datastream).length < tg.idBufferSize ∧
        (queryText tg method (datastreamPath feedId datastream) [] apiKey).length
          < tg.queryBufferSize) ∧
        (requestText (queryText tg method (datastreamPath feedId datastream) [] apiKey)
          (some data)).length < tg.queryBufferSize + tg.contentBufferSize)
      (requestText (queryText tg method (datastreamPath feedId datastream) [] apiKey)
        (some data)) :=
  hcsv.bind (Decides.bind (decides_requestDatastream feedId hm hid) (decides_concatBody h56
    (zero_not_mem_queryText apiKey hm (zero_not_mem_datastreamPath feedId hid) (by simp)) hdata))

lemma decides_create (h56 : 56 ≤ tg.contentBufferSize) {p : XiDatapoint} (hp : p.Readable)
    (id : CString) :
    Decides (EncodeCall.encode tg apiKey (.createDatastream feedId id p))
      (EncodeCall.Fits tg apiKey (.createDatastream feedId id p))
      (EncodeCall.text tg apiKey (.createDatastream feedId id p)) := by
  have hdata : (0 : Byte) ∉ (createText tg id p).getD [] := by
    cases h : createText tg id p with
    | none => simp
    | some v => exact zero_not_mem_createText tg h
  have hcsv : Decides (onCsvLocalBuffer (csvEncodeCreateDatastream tg id p)) _ _ :=
    (csvEncodeCreateDatastream_spec tg hp tg.csv_pos id).focus fun _ _ => rfl
  rw [fits_iff h56]
  simp only [EncodeCall.encode, EncodeCall.text, EncodeCall.query, EncodeCall.suffix,
    EncodeCall.path, EncodeCall.method, EncodeCall.body, EncodeCall.front, EncodeCall.staged,
    Option.bind_some, Option.mem_def, Option.some.injEq, forall_eq']
  exact decides_withLine h56 (by decide) (by simp) hdata hcsv

lemma decides_update (h56 : 56 ≤ tg.contentBufferSize) {p : XiDatapoint} (hp : p.Readable)
    (id : CString) :
    Decides (EncodeCall.encode tg apiKey (.updateDatastream feedId id p))
      (EncodeCall.Fits tg apiKey (.updateDatastream feedId id p))
      (EncodeCall.text tg apiKey (.updateDatastream feedId id p)) := by
  have hid : ∀ t, some id.bytes = some t → (0 : Byte) ∉ t := by
    rintro t ⟨⟩; exact id.noNul
  have hdata : (0 : Byte) ∉ (datapointText tg p).getD [] := by
    cases h : datapointText tg p with
    | none => simp
    | some v => exact zero_not_mem_datapointText tg h
  have hcsv : Decides (onCsvLocalBuffer (csvEncodeDatapoint tg p)) _ _ :=
    (csvEncodeDatapoint_spec tg hp tg.csv_pos).focus fun _ _ => rfl
  rw [fits_iff h56]
  simp only [EncodeCall.encode, EncodeCall.text, EncodeCall.query, EncodeCall.suffix,
    EncodeCall.path, EncodeCall.method, EncodeCall.body, EncodeCall.front, EncodeCall.staged,
    Option.bind_some, Option.mem_def, Option.some.injEq, forall_eq']
  exact decides_withLine h56 (by decide) hid hdata hcsv

/-- The requests on a datastream without a body. -/
lemma decides_bare {method id : Text} (hm : (0 : Byte) ∉ method) (h0 : (0 : Byte) ∉ id) :
    Decides (encodeBareDatastream method apiKey feedId id : Request tg)
      (((datastreamPath feedId (some id)).length < tg.idBufferSize ∧
        (queryText tg method (datastreamPath feedId (some id)) [] apiKey).length
          < tg.queryBufferSize) ∧
        (requestText (queryText tg method (datastreamPath feedId (some id)) [] apiKey)
          none).length < tg.queryBufferSize + tg.contentBufferSize)
      (requestText (queryText tg method (datastreamPath feedId (some id)) [] apiKey) none) := by
  have hid : ∀ t, some id = some t → (0 : Byte) ∉ t := by
    rintro t ⟨⟩; exact h0
  exact Decides.bind (decides_requestDatastream feedId hm hid) (decides_concatBare
    (zero_not_mem_queryText apiKey hm (zero_not_mem_datastreamPath feedId hid) (by simp)))

lemma decides_get (h56 : 56 ≤ tg.contentBufferSize) (id : CString) :
    Decides (EncodeCall.encode tg apiKey (.getDatastream feedId id))
      (EncodeCall.Fits tg apiKey (.getDatastream feedId id))
      (EncodeCall.text tg apiKey (.getDatastream feedId id)) := by
  rw [fits_iff h56]
  simp only [EncodeCall.encode, EncodeCall.text, EncodeCall.query, EncodeCall.suffix,
    EncodeCall.path, EncodeCall.method, EncodeCall.body, EncodeCall.staged, Option.mem_def,
    reduceCtorEq, false_implies, implies_true, true_and]
  exact decides_bare (by decide) id.noNul

lemma decides_delete (h56 : 56 ≤ tg.contentBufferSize) (id : CString) :
    Decides (EncodeCall.encode tg apiKey (.deleteDatastream feedId id))
      (EncodeCall.Fits tg apiKey (.deleteDatastream feedId id))
      (EncodeCall.text tg apiKey (.deleteDatastream feedId id)) := by
  rw [fits_iff h56]
  simp only [EncodeCall.encode, EncodeCall.text, EncodeCall.query, EncodeCall.suffix,
    EncodeCall.path, EncodeCall.method, EncodeCall.body, EncodeCall.staged, Option.mem_def,
    reduceCtorEq, false_implies, implies_true, true_and]
  exact decides_bare (by decide) id.noNul

/-! ### Deletions of datapoints -/

/-- A target printed into the request buffer, and the request for it. -/
def targetSteps (u : Text) (apiKey : CString) (feedId : UInt32) (e : XiErr) : Request tg := do
  let s ← onHttpQueryBuffer (snprintf 0 (tg.queryBufferSize + tg.contentBufferSize : ℕ) u)
  deleteTarget s apiKey feedId e

lemma decides_targetSteps {u : Text} {e : XiErr} (h0 : (0 : Byte) ∉ u) (he : e ≠ .noErr) :
    Decides (targetSteps u apiKey feedId e : Request tg)
      (FitsAt (tg.queryBufferSize + tg.contentBufferSize) 0 (some u) ∧
        ((datastreamPath feedId (some u)).length < tg.idBufferSize ∧
          (queryText tg (lit "DELETE") (datastreamPath feedId (some u)) [] apiKey).length
            < tg.queryBufferSize) ∧
          (requestText (queryText tg (lit "DELETE") (datastreamPath feedId (some u)) [] apiKey)
            none).length < tg.queryBufferSize + tg.contentBufferSize)
      (requestText (queryText tg (lit "DELETE") (datastreamPath feedId (some u)) [] apiKey)
        none) := by
  have hpos : 0 < tg.queryBufferSize + tg.contentBufferSize := Nat.add_pos_left tg.query_pos _
  obtain ⟨hfit, hover⟩ := prints_snprintf (n := tg.queryBufferSize + tg.contentBufferSize) u []
    hpos
  simp only [List.length_nil, Nat.cast_zero, sub_zero, zero_add, List.nil_append,
    List.append_nil, fitsAt_some] at hfit hover ⊢
  by_cases hlt : u.length < tg.queryBufferSize + tg.contentBufferSize
  · have hroom : ¬ (((tg.queryBufferSize + tg.contentBufferSize : ℕ) : ℤ) ≤ u.length ∨
        (u.length : ℤ) < 0) := by omega
    have hwrite : Returns _ (onHttpQueryBuffer (snprintf 0
        (tg.queryBufferSize + tg.contentBufferSize : ℕ) u) : Proc XiErr (Statics tg) ℤ) _ _ _ :=
      (hfit u rfl hlt).focus fun _ _ => rfl
    have hread : Returns _ (onHttpQueryBuffer readStr : Proc XiErr (Statics tg) Text) _ _
        fun _ => True :=
      ((returns_readStr h0).focus fun _ _ => rfl).mono (fun _ h => h) fun _ _ => trivial
    have hcheck := Returns.checkCnd hroom
      (fun l : Statics tg => Starts (u ++ [0]) l.httpQueryBuffer) e
    have hbare : Decides (encodeBareDatastream (lit "DELETE") apiKey feedId u : Request tg) _ _ :=
      decides_bare (by decide) h0
    refine ⟨fun ⟨_, h⟩ => ?_, fun hno => ?_⟩
    · exact (hwrite.seq ((hcheck.seq (hread.seq (hbare.1 h))).errHandling none)).yields
        fun l => starts_nil l.httpQueryBuffer
    · obtain ⟨x, hx, hy⟩ := hbare.2 fun h => hno ⟨hlt, h⟩
      exact ⟨x, hx, (hwrite.seq ((hcheck.seq (hread.seq hy)).errHandling none)).yields
        fun l => starts_nil l.httpQueryBuffer⟩
  · obtain ⟨s, w, Q, hs, hr⟩ := hover hlt
    have hwrite : Returns _ (onHttpQueryBuffer (snprintf 0
        (tg.queryBufferSize + tg.contentBufferSize : ℕ) u) : Proc XiErr (Statics tg) ℤ) _ _ _ :=
      hr.focus fun _ _ => rfl
    have hcheck := Leaves.checkCnd (by omega : ((tg.queryBufferSize + tg.contentBufferSize : ℕ) :
      ℤ) ≤ s ∨ s < 0) (fun l : Statics tg => Q l.httpQueryBuffer) e
    refine ⟨fun h => absurd h.1 hlt, fun _ => ⟨e, he, ?_⟩⟩
    exact (hwrite.sets (hcheck.bind.errHandling none)).yields fun l => starts_nil l.httpQueryBuffer

lemma zero_not_mem_instantText (t : XiTimestamp) : (0 : Byte) ∉ instantText tg t := by
  obtain ⟨tm, htm⟩ := xiGmtime_isSome tg.longBits t.timestamp
  rw [instantText, htm]
  exact zero_not_mem_timestampText _ _

lemma decides_deleteDatapoint (h56 : 56 ≤ tg.contentBufferSize) (id : CString)
    (o : XiDatapoint) :
    Decides (EncodeCall.encode tg apiKey (.deleteDatapoint feedId id o))
      (EncodeCall.Fits tg apiKey (.deleteDatapoint feedId id o))
      (EncodeCall.text tg apiKey (.deleteDatapoint feedId id o)) := by
  obtain ⟨tm, htm⟩ := xiGmtime_isSome tg.longBits o.timestamp.timestamp
  have htarget : datapointTarget tg id o =
      id.bytes ++ lit "/datapoints/" ++ timestampText tm o.timestamp.micro := by
    simp [datapointTarget, instantText, htm]
  have h0 : (0 : Byte) ∉ datapointTarget tg id o := by
    simp only [datapointTarget, List.mem_append, not_or]
    exact ⟨⟨id.noNul, by decide⟩, zero_not_mem_instantText _⟩
  rw [fits_iff h56]
  simp only [EncodeCall.encode, EncodeCall.text, EncodeCall.query, EncodeCall.suffix,
    EncodeCall.path, EncodeCall.method, EncodeCall.body, EncodeCall.front, EncodeCall.staged,
    Option.bind_some, Option.mem_def, Option.some.injEq, forall_eq', Option.getD_some]
  have hrun : (httpEncodeDeleteDatapoint apiKey feedId id o : Request tg) =
      targetSteps (datapointTarget tg id o) apiKey feedId .httpEncodeDeleteDatapoint := by
    rw [httpEncodeDeleteDatapoint, htm, htarget]; rfl
  rw [hrun]
  exact decides_targetSteps h0 (by decide)

lemma zero_not_mem_rangeTarget (id : CString) (start end_ : XiTimestamp) :
    (0 : Byte) ∉ rangeTarget tg id start end_ := by
  simp only [rangeTarget, List.mem_append, not_or]
  exact ⟨⟨⟨⟨id.noNul, by decide⟩, zero_not_mem_instantText _⟩, by decide⟩,
    zero_not_mem_instantText _⟩

/-- With both bounds the encoder prints the target they make. -/
lemma deleteRange_eq (apiKey : CString) (feedId : UInt32) (id : CString)
    (start end_ : XiTimestamp) :
    (httpEncodeDatapointDeleteRange apiKey feedId id (some start) (some end_) : Request tg) =
      errHandling none (targetSteps (rangeTarget tg id start end_) apiKey feedId
        .httpEncodeDeleteRangeDatapoint) := by
  obtain ⟨stm, hstm⟩ := xiGmtime_isSome tg.longBits start.timestamp
  obtain ⟨etm, hetm⟩ := xiGmtime_isSome tg.longBits end_.timestamp
  have htarget : rangeTarget tg id start end_ = id.bytes ++ lit "/datapoints?start=" ++
      timestampText stm start.micro ++ lit "&end=" ++ timestampText etm end_.micro := by
    simp [rangeTarget, instantText, hstm, hetm]
  rw [httpEncodeDatapointDeleteRange, boundTime, boundTime, hstm, hetm, htarget]
  rfl

lemma decides_deleteRange (h56 : 56 ≤ tg.contentBufferSize) (id : CString)
    (start end_ : XiTimestamp) :
    Decides (EncodeCall.encode tg apiKey (.datapointDeleteRange feedId id start end_))
      (EncodeCall.Fits tg apiKey (.datapointDeleteRange feedId id start end_))
      (EncodeCall.text tg apiKey (.datapointDeleteRange feedId id start end_)) := by
  rw [fits_iff h56]
  simp only [EncodeCall.encode, EncodeCall.text, EncodeCall.query, EncodeCall.suffix,
    EncodeCall.path, EncodeCall.method, EncodeCall.body, EncodeCall.front, EncodeCall.staged,
    Option.bind_some, Option.map_some, Option.mem_def, Option.some.injEq, forall_eq',
    Option.getD_some]
  rw [deleteRange_eq]
  exact (decides_targetSteps (zero_not_mem_rangeTarget id start end_) (by decide)).errHandling

end LibXively.Encoders
