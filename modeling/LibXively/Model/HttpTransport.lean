import LibXively.Model.HttpQueries

/-!
The request encoders of `http_transport_layer.c`.
-/

namespace LibXively.HttpTransport

open LibXively.Bytes LibXively.Decimal LibXively.CProc LibXively.CharArray
open LibXively.XiTime LibXively.Structures LibXively.CsvData LibXively.HttpQueries

/-- One piece of `http_encode_concat`: print at the offset, check, move on. -/
def appendPiece {n : ℕ} (offset : ℕ) (t : Text) (e : XiErr) : Proc XiErr (Buf n) ℕ := do
  let s ← snprintf offset (max (n - offset : ℤ) 0) t
  xiCheckS s n offset e

/-- `http_encode_concat`. -/
def httpEncodeConcat {n : ℕ} (query : Text) (content data : Option Text) :
    Proc XiErr (Buf n) (Option Text) := errHandling none do
  let offset ← appendPiece 0 query .httpEncodeCreateDatastream
  let offset ← match content with
    | some content => appendPiece offset content .httpEncodeCreateDatastream
    | none => pure offset
  let offset ← appendPiece offset (lit "\r\n") .httpEncodeCreateDatastream
  let offset ← match content, data with
    | some _, some data => appendPiece offset data .httpEncodeCreateDatastream
    | _, _ => pure offset
  let _ ← appendPiece offset (lit "\r\n") .httpEncodeCreateDatastream
  let t ← readStr
  return some t

variable {tg : Target}

/-- `a = f( .. ); if( a == 0 ) { return 0; }`, and what follows. -/
def unlessNull {σ α β : Type} (m : Proc XiErr σ (Option α)) (f : α → Proc XiErr σ (Option β)) :
    Proc XiErr σ (Option β) := do
  match ← m with
  | none => return none
  | some a => f a

/-- The end the encoders with a body share. -/
def concatBody (query data : Text) : Proc XiErr (Statics tg) (Option Text) := do
  let content ← httpConstructContent data.length
  onHttpQueryBuffer (httpEncodeConcat query content (some data))

def httpEncodeCreateDatastream (apiKey : CString) (feedId : UInt32) (datastreamId : CString)
    (datapoint : XiDatapoint) : Proc XiErr (Statics tg) (Option Text) :=
  unlessNull (onCsvLocalBuffer (csvEncodeCreateDatastream tg datastreamId datapoint)) fun data =>
  unlessNull (httpConstructRequestDatastream (lit "POST") feedId none apiKey) fun query =>
  concatBody query data

def httpEncodeUpdateDatastream (apiKey : CString) (feedId : UInt32) (datastreamId : CString)
    (datapoint : XiDatapoint) : Proc XiErr (Statics tg) (Option Text) :=
  unlessNull (onCsvLocalBuffer (csvEncodeDatapoint tg datapoint)) fun data =>
  unlessNull (httpConstructRequestDatastream (lit "PUT") feedId (some datastreamId.bytes) apiKey)
    fun query =>
  concatBody query data

/-- The two requests on a datastream that have no body. -/
def encodeBareDatastream (method : Text) (apiKey : CString) (feedId : UInt32)
    (datastreamId : Text) : Proc XiErr (Statics tg) (Option Text) :=
  unlessNull (httpConstructRequestDatastream method feedId (some datastreamId) apiKey) fun query =>
  onHttpQueryBuffer (httpEncodeConcat query none none)

def httpEncodeGetDatastream (apiKey : CString) (feedId : UInt32) (datastreamId : CString) :
    Proc XiErr (Statics tg) (Option Text) :=
  encodeBareDatastream (lit "GET") apiKey feedId datastreamId.bytes

def httpEncodeDeleteDatastream (apiKey : CString) (feedId : UInt32) (datastreamId : CString) :
    Proc XiErr (Statics tg) (Option Text) :=
  encodeBareDatastream (lit "DELETE") apiKey feedId datastreamId.bytes

/-- The end the deletions of datapoints share: a target has been printed into
`XI_HTTP_QUERY_BUFFER`, and is used as a datastream id. -/
def deleteTarget (s : ℤ) (apiKey : CString) (feedId : UInt32) (e : XiErr) :
    Proc XiErr (Statics tg) (Option Text) := errHandling none do
  xiCheckSize s (tg.queryBufferSize + tg.contentBufferSize : ℕ) e
  let id ← onHttpQueryBuffer readStr
  encodeBareDatastream (lit "DELETE") apiKey feedId id

def httpEncodeDeleteDatapoint (apiKey : CString) (feedId : UInt32) (datastreamId : CString)
    (o : XiDatapoint) : Proc XiErr (Statics tg) (Option Text) := do
  let ptm ← orCrash (xiGmtime tg.longBits o.timestamp.timestamp) .overrun
  let s ← onHttpQueryBuffer (snprintf 0 (tg.queryBufferSize + tg.contentBufferSize : ℕ)
    (datastreamId.bytes ++ lit "/datapoints/" ++ timestampText ptm o.timestamp.micro))
  deleteTarget s apiKey feedId .httpEncodeDeleteDatapoint

/-- The line of one datapoint in `http_encode_update_feed`. -/
def updatePoint (tg : Target) {n : ℕ} (id : Buf xiMaxDatastreamName) (p : XiDatapoint)
    (offset : ℕ) : Proc XiErr (Buf n) ℕ := do
  let id ← orCrash (cstr id) .overread
  let offset ← appendPiece offset (id ++ lit ",") .httpEncodeUpdateFeed
  let s ← csvEncodeDatapointInPlace tg offset (max (n - offset : ℤ) 0) p
  xiCheckS s n offset .httpEncodeUpdateFeed

/-- The loop over the datapoints of a datastream. -/
def updateStream (tg : Target) {n : ℕ} (d : XiDatastream) : ℕ → Proc XiErr (Buf n) ℕ :=
  forFrom (fun j offset =>
    if h : j < xiMaxDatapoints then updatePoint tg d.datastreamId (d.datapoints ⟨j, h⟩) offset
    else crash .overrun) 0 d.datapointCount

/-- The loop over the datastreams of a feed. -/
def updateBody (tg : Target) {n : ℕ} (feed : XiFeed) : Proc XiErr (Buf n) ℕ :=
  forFrom (fun i offset =>
    if h : i < xiMaxDatastreams then updateStream tg (feed.datastreams ⟨i, h⟩) offset
    else crash .overrun) 0 feed.datastreamCount 0

def httpEncodeUpdateFeed (apiKey : CString) (feed : XiFeed) :
    Proc XiErr (Statics tg) (Option Text) := errHandling none do
  onHttpQueryData (modify fun _ => zero _)
  let _ ← onHttpQueryData (updateBody tg feed)
  let query ← httpConstructRequestFeed (lit "PUT") (some feed.feedId) apiKey none
  let query ← orJump query
  let data ← onHttpQueryData readStr
  concatBody query data

/-- The loop over the datastreams asked for in `http_encode_get_feed`. -/
def getSuffix {n : ℕ} (feed : XiFeed) : Proc XiErr (Buf n) ℕ :=
  forFrom (fun i offset =>
    if h : i < xiMaxDatastreams then do
      let id ← orCrash (cstr (feed.datastreams ⟨i, h⟩).datastreamId) .overread
      appendPiece offset ((if i = 0 then lit "?datastreams=" else lit ",") ++ id)
        .httpEncodeUpdateFeed
    else crash .overrun) 0 feed.datastreamCount 0

def httpEncodeGetFeed (apiKey : CString) (feed : XiFeed) :
    Proc XiErr (Statics tg) (Option Text) := errHandling none do
  onHttpQueryData (modify fun _ => zero _)
  let _ ← onHttpQueryData (getSuffix feed)
  let suffix ← onHttpQueryData readStr
  let query ← httpConstructRequestFeed (lit "GET") (some feed.feedId) apiKey (some suffix)
  let query ← orJump query
  onHttpQueryBuffer (httpEncodeConcat query none none)

/-- The broken-down time of a bound that may be absent: `memcpy` reads it either way. -/
def boundTime (tg : Target) (bound : Option XiTimestamp) : Proc XiErr (Statics tg) XiTm :=
  match bound with
  | none => crash .nullPointer
  | some b => orCrash (xiGmtime tg.longBits b.timestamp) .overrun

/-- `http_encode_datapoint_delete_range`. Both bounds are read in front of the tests for them,
so the branches for an absent bound follow a fault. -/
def httpEncodeDatapointDeleteRange (apiKey : CString) (feedId : UInt32) (datastreamId : CString)
    (start end_ : Option XiTimestamp) : Proc XiErr (Statics tg) (Option Text) :=
  errHandling none do
    let stm ← boundTime tg start
    let etm ← boundTime tg end_
    let s ← match start, end_ with
      | some start, some end_ =>
        onHttpQueryBuffer (snprintf 0 (tg.queryBufferSize + tg.contentBufferSize : ℕ)
          (datastreamId.bytes ++ lit "/datapoints?start=" ++ timestampText stm start.micro ++
            lit "&end=" ++ timestampText etm end_.micro))
      | some start, none =>
        onHttpQueryBuffer (snprintf 0 (tg.queryBufferSize + tg.contentBufferSize : ℕ)
          (datastreamId.bytes ++ lit "/datapoints?start=" ++ timestampText stm start.micro))
      | none, some end_ =>
        onHttpQueryBuffer (snprintf 0 (tg.queryBufferSize + tg.contentBufferSize : ℕ)
          (datastreamId.bytes ++ lit "/datapoints?end=" ++ timestampText etm end_.micro))
      | none, none => pure 0
    deleteTarget s apiKey feedId .httpEncodeDeleteRangeDatapoint

end LibXively.HttpTransport
