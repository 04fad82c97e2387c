import LibXively.Model.CsvData

/-!
The request builders of `http_layer_queries.c`, on the static buffers of the library.

A builder that returns a pointer to a static buffer returns here the string the buffer holds at
that moment.
-/

namespace LibXively.HttpQueries

open LibXively.Bytes LibXively.Decimal LibXively.CProc LibXively.CharArray
open LibXively.Structures LibXively.CsvData

/-- The static variables of the library, less the error variable. -/
structure Statics (tg : Target) where
  csvLocalBuffer : Buf tg.csvBufferSize
  httpQueryBuffer : Buf (tg.queryBufferSize + tg.contentBufferSize)
  httpQueryData : Buf tg.contentBufferSize
  queryBuffer : Buf tg.queryBufferSize
  contentBuffer : Buf tg.contentBufferSize
  idBuffer : Buf tg.idBufferSize
  response : HttpResponse

/-- The static variables of a fresh process. -/
def Statics.fresh (tg : Target) : Statics tg where
  csvLocalBuffer := zero _
  httpQueryBuffer := zero _
  httpQueryData := zero _
  queryBuffer := zero _
  contentBuffer := zero _
  idBuffer := zero _
  response := .zero

variable {tg : Target} {α : Type}

def onCsvLocalBuffer (m : Proc XiErr (Buf tg.csvBufferSize) α) : Proc XiErr (Statics tg) α :=
  focus (fun l => l.csvLocalBuffer) (fun b l => { l with csvLocalBuffer := b }) m

def onHttpQueryBuffer (m : Proc XiErr (Buf (tg.queryBufferSize + tg.contentBufferSize)) α) :
    Proc XiErr (Statics tg) α :=
  focus (fun l => l.httpQueryBuffer) (fun b l => { l with httpQueryBuffer := b }) m

def onHttpQueryData (m : Proc XiErr (Buf tg.contentBufferSize) α) : Proc XiErr (Statics tg) α :=
  focus (fun l => l.httpQueryData) (fun b l => { l with httpQueryData := b }) m

def onQueryBuffer (m : Proc XiErr (Buf tg.queryBufferSize) α) : Proc XiErr (Statics tg) α :=
  focus (fun l => l.queryBuffer) (fun b l => { l with queryBuffer := b }) m

def onContentBuffer (m : Proc XiErr (Buf tg.contentBufferSize) α) : Proc XiErr (Statics tg) α :=
  focus (fun l => l.contentBuffer) (fun b l => { l with contentBuffer := b }) m

def onIdBuffer (m : Proc XiErr (Buf tg.idBufferSize) α) : Proc XiErr (Statics tg) α :=
  focus (fun l => l.idBuffer) (fun b l => { l with idBuffer := b }) m

section Paths

variable {n : ℕ}

/-- `http_construct_string( buffer + at, size, string_id )`. -/
def httpConstructString (at_ : ℕ) (size : ℤ) (stringId : Option Text) : Proc XiErr (Buf n) ℤ :=
  errHandling (-1) do
    match stringId with
    | none => return 0
    | some id => do
      let s ← snprintf at_ size (lit "/" ++ id)
      xiCheckSize s size .httpConstructRequestBufferOverrun
      return s

/-- `http_construct_int( buffer + at, size, feed_id )`: the id is printed as an `int`. -/
def httpConstructInt (at_ : ℕ) (size : ℤ) (feedId : Option UInt32) : Proc XiErr (Buf n) ℤ :=
  errHandling (-1) do
    match feedId with
    | none => return 0
    | some id => do
      let s ← snprintf at_ size (lit "/" ++ fmtD (toInt32 id.toNat))
      xiCheckSize s size .httpConstructRequestBufferOverrun
      return s

def httpConstructFeed (at_ : ℕ) (size : ℤ) (feedId : Option UInt32) : Proc XiErr (Buf n) ℤ :=
  match feedId with
  | some id => httpConstructInt at_ size (some id)
  | none => return 0

/-- `http_construct_datastream( buffer, n, feed_id, datastream_id )`. -/
def httpConstructDatastream (feedId : Option UInt32) (datastreamId : Option Text) :
    Proc XiErr (Buf n) ℤ := errHandling (-1) do
  let s ← httpConstructFeed 0 n feedId
  let offset ← xiCheckS s n 0 .httpConstructRequestBufferOverrun
  let s ← httpConstructString offset (n - offset) (some (lit "datastreams"))
  let offset ← xiCheckS s n offset .httpConstructRequestBufferOverrun
  match datastreamId with
  | some id => httpConstructString offset (n - offset) (some id)
  | none => return offset

/-- `http_construct_datapoint( buffer, n, feed_id, datastream_id, datapoint )`. -/
def httpConstructDatapoint (feedId : Option UInt32) (datastreamId datapoint : Option Text) :
    Proc XiErr (Buf n) ℤ := errHandling (-1) do
  let s ← httpConstructDatastream feedId datastreamId
  let offset ← xiCheckS s n 0 .httpConstructRequestBufferOverrun
  let s ← httpConstructString offset (n - offset) (some (lit "datapoints"))
  let offset ← xiCheckS s n offset .httpConstructRequestBufferOverrun
  match datapoint with
  | some id => httpConstructString offset (n - offset) (some id)
  | none => return offset

end Paths

/-- `XI_HTTP_TEMPLATE_FEED`, filled in. -/
def templateFeed (tg : Target) (method id suffix apiKey : Text) : Text :=
  method ++ lit " /v2/feeds" ++ id ++ lit ".csv" ++ suffix ++ lit " HTTP/1.1\r\n" ++
    lit "Host: " ++ xiHost ++ lit "\r\n" ++
    lit "User-Agent: " ++ tg.userAgent.bytes ++ lit "\r\n" ++
    lit "Accept: */*\r\n" ++
    lit "X-ApiKey: " ++ apiKey ++ lit "\r\n"

/-- `XI_HTTP_CONTENT_TEMPLATE`, filled in. -/
def contentTemplate (size : ℤ) : Text :=
  lit "Content-Type: text/plain\r\n" ++ lit "Content-Length: " ++ fmtD size ++ lit "\r\n"

/-- `http_construct_http_query`, for the id in `XI_ID_BUFFER`. -/
def httpConstructHttpQuery (method : Text) (querySuffix : Option Text) (apiKey : CString) :
    Proc XiErr (Statics tg) (Option Text) := errHandling none do
  let id ← onIdBuffer readStr
  let s ← onQueryBuffer (snprintf 0 tg.queryBufferSize
    (templateFeed tg method id (querySuffix.getD []) apiKey.bytes))
  xiCheckSize s tg.queryBufferSize .httpConstructRequestBufferOverrun
  let t ← onQueryBuffer readStr
  return some t

def httpConstructRequestDatapoint (method : Text) (feedId : UInt32) (datastream : Text)
    (datapoint : Option Text) (apiKey : CString) : Proc XiErr (Statics tg) (Option Text) :=
  errHandling none do
    let s ← onIdBuffer (httpConstructDatapoint (some feedId) (some datastream) datapoint)
    xiCheckSize s tg.idBufferSize .httpConstructContentBufferOverrun
    httpConstructHttpQuery method none apiKey

def httpConstructRequestDatastream (method : Text) (feedId : UInt32) (datastream : Option Text)
    (apiKey : CString) : Proc XiErr (Statics tg) (Option Text) :=
  errHandling none do
    let s ← onIdBuffer (httpConstructDatastream (some feedId) datastream)
    xiCheckSize s tg.idBufferSize .httpConstructContentBufferOverrun
    httpConstructHttpQuery method none apiKey

def httpConstructRequestFeed (method : Text) (feedId : Option UInt32) (apiKey : CString)
    (querySuffix : Option Text) : Proc XiErr (Statics tg) (Option Text) :=
  errHandling none do
    let s ← onIdBuffer (httpConstructFeed 0 tg.idBufferSize feedId)
    xiCheckSize s tg.idBufferSize .httpConstructContentBufferOverrun
    httpConstructHttpQuery method querySuffix apiKey

/-- `http_construct_content`; the size is an `int32_t`. -/
def httpConstructContent (contentSize : ℤ) : Proc XiErr (Statics tg) (Option Text) :=
  errHandling none do
    let s ← onContentBuffer (snprintf 0 tg.contentBufferSize
      (contentTemplate (toInt32 contentSize)))
    xiCheckSize s tg.contentBufferSize .httpConstructContentBufferOverrun
    let t ← onContentBuffer readStr
    return some t

end LibXively.HttpQueries
