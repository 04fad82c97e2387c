import LibXively.CLib.CharArray
import LibXively.CLib.Decimal

/-!
The constants of `xi_config.h`, the errors of `xi_err.h` and the structures of `xively.h`.
-/

namespace LibXively.Structures

open LibXively.Bytes LibXively.Decimal LibXively.CharArray

abbrev xiHttpMaxHeaders : ℕ := 16
abbrev xiHttpStatusStringSize : ℕ := 32
abbrev xiHttpHeaderNameMaxSize : ℕ := 64
abbrev xiHttpHeaderValueMaxSize : ℕ := 64
abbrev xiHttpMaxContentSize : ℕ := 192
abbrev xiMaxDatastreams : ℕ := 16
abbrev xiMaxDatapoints : ℕ := 16
abbrev xiMaxDatastreamName : ℕ := 16
abbrev xiValueStringMaxSize : ℕ := 32

instance : NeZero xiMaxDatastreams := ⟨by decide⟩
instance : NeZero xiMaxDatapoints := ⟨by decide⟩

def xiHost : Text := lit "api.xively.com"

/-- What a build fixes: the sizes of the static buffers, the user agent, the width of `long`, and
the float conversions of the C library. -/
structure Target where
  queryBufferSize : ℕ
  idBufferSize : ℕ
  csvBufferSize : ℕ
  contentBufferSize : ℕ
  query_pos : 0 < queryBufferSize
  id_pos : 0 < idBufferSize
  csv_pos : 0 < csvBufferSize
  content_pos : 0 < contentBufferSize
  userAgent : CString
  longBits : ℕ
  /-- `( float ) atof( s )` -/
  atof : Text → UInt32
  /-- `%f` -/
  fmtF : UInt32 → CString

/-- A build with the sizes of `xi_config.h`. -/
def xiConfig (userAgent : CString) (longBits : ℕ) (atof : Text → UInt32)
    (fmtF : UInt32 → CString) : Target where
  queryBufferSize := 128
  idBufferSize := 64
  csvBufferSize := 128
  contentBufferSize := 64
  query_pos := by decide
  id_pos := by decide
  csv_pos := by decide
  content_pos := by decide
  userAgent := userAgent
  longBits := longBits
  atof := atof
  fmtF := fmtF

/-- A build for a machine with a `long` of 64 bits. Its float conversions are those of zero, the
only float it is used for. -/
def posixConfig : Target :=
  xiConfig ⟨lit "libxively-posix", by decide⟩ 64 (fun _ => 0)
    fun _ => ⟨lit "0.000000", by decide⟩

/-- `xi_err_t`. -/
inductive XiErr
  | noErr
  | outOfMemory
  | httpStatusParseError
  | httpHeaderParseError
  | httpParseError
  | httpEncodeCreateDatastream
  | httpEncodeUpdateDatastream
  | httpEncodeGetDatastream
  | httpEncodeDeleteDatastream
  | httpEncodeDeleteDatapoint
  | httpEncodeDeleteRangeDatapoint
  | httpEncodeUpdateFeed
  | httpConstructRequestBufferOverrun
  | httpConstructContentBufferOverrun
  | csvEncodeDatapointBufferOverrun
  | csvEncodeDatastreamBufferOverrun
  | csvDecodeFeedParserError
  | csvDecodeDatapointParserError
  | csvTimeConvertionError
  | socketInitializationError
  | socketGethostbynameError
  | socketConnectionError
  | socketShutdownError
  | socketWriteError
  | socketReadError
  | socketCloseError
  | datapointValueBufferOverflow
  deriving DecidableEq

/-! ### Datapoints and feeds -/

/-- `xi_value_type_t`; a caller may have stored any other number. -/
inductive XiValueType
  | i32
  | f32
  | str
  | unknown (code : ℕ)
  deriving DecidableEq

/-- The union `xi_datapoint_value_t`, byte by byte. -/
abbrev XiDatapointValue := Buf xiValueStringMaxSize

structure XiTimestamp where
  timestamp : ℤ
  micro : ℤ
  deriving DecidableEq

structure XiDatapoint where
  value : XiDatapointValue
  valueType : XiValueType
  timestamp : XiTimestamp
  deriving DecidableEq

structure XiDatastream where
  datastreamId : Buf xiMaxDatastreamName
  datapointCount : ℕ
  datapoints : Fin xiMaxDatapoints → XiDatapoint

structure XiFeed where
  feedId : UInt32
  datastreamCount : ℕ
  datastreams : Fin xiMaxDatastreams → XiDatastream

/-- `memset( p, 0, sizeof( xi_datapoint_t ) )`. -/
def XiDatapoint.zero : XiDatapoint := ⟨CharArray.zero _, .i32, ⟨0, 0⟩⟩

/-- A datastream and a feed of zeros. -/
def XiDatastream.zero : XiDatastream := ⟨CharArray.zero _, 0, fun _ => .zero⟩

def XiFeed.zero : XiFeed := ⟨0, 0, fun _ => .zero⟩

/-- The four bytes of a word, least significant first. -/
def wordBytes (x : ℕ) : Text :=
  [.ofNat x, .ofNat (x / 2 ^ 8), .ofNat (x / 2 ^ 16), .ofNat (x / 2 ^ 24)]

/-- The word the first four bytes make. -/
def wordOf (t : Text) : ℕ :=
  (t.getD 0 0).toNat + 2 ^ 8 * (t.getD 1 0).toNat + 2 ^ 16 * (t.getD 2 0).toNat
    + 2 ^ 24 * (t.getD 3 0).toNat

def i32Value (v : XiDatapointValue) : ℤ := toInt32 (wordOf v.bytes)

def setI32Value (v : XiDatapointValue) (x : ℤ) : XiDatapointValue :=
  put v 0 (wordBytes (x % 2 ^ 32).toNat)

/-- The bits of `f32_value`. -/
def f32Value (v : XiDatapointValue) : UInt32 := .ofNat (wordOf v.bytes)

def setF32Value (v : XiDatapointValue) (x : UInt32) : XiDatapointValue :=
  put v 0 (wordBytes x.toNat)

lemma wordOf_wordBytes {x : ℕ} (h : x < 2 ^ 32) (r : Text) : wordOf (wordBytes x ++ r) = x := by
  simp [wordOf, wordBytes]
  omega

lemma i32Value_setI32Value (v : XiDatapointValue) {x : ℤ} (h1 : -2 ^ 31 ≤ x) (h2 : x < 2 ^ 31) :
    i32Value (setI32Value v x) = x := by
  have hlen : 0 + (wordBytes (x % 2 ^ 32).toNat).length ≤ xiValueStringMaxSize := by
    simp [wordBytes, xiValueStringMaxSize]
  have hx : (x % 2 ^ 32).toNat < 2 ^ 32 := by omega
  rw [i32Value, setI32Value, bytes_put hlen, List.take_zero, List.nil_append,
    wordOf_wordBytes hx, toInt32, Int.toNat_of_nonneg (by omega)]
  have hmod : (x % 2 ^ 32).bmod (2 ^ 32) = x.bmod (2 ^ 32) := by
    exact_mod_cast Int.emod_bmod x (2 ^ 32)
  rw [hmod]
  exact toInt32_eq h1 h2

lemma f32Value_setF32Value (v : XiDatapointValue) (x : UInt32) :
    f32Value (setF32Value v x) = x := by
  have hlen : 0 + (wordBytes x.toNat).length ≤ xiValueStringMaxSize := by
    simp [wordBytes, xiValueStringMaxSize]
  rw [f32Value, setF32Value, bytes_put hlen, List.take_zero, List.nil_append,
    wordOf_wordBytes x.toNat_lt, UInt32.ofNat_toNat]

/-- What the encoders read of a datapoint is a string where it has to be one. -/
def XiDatapoint.Readable (p : XiDatapoint) : Prop :=
  p.valueType = .str → 0 ∈ p.value.bytes

/-- The counts stay inside the arrays, and what the encoders read are strings. -/
structure XiFeed.Readable (f : XiFeed) : Prop where
  streams : f.datastreamCount ≤ xiMaxDatastreams
  ids : ∀ i, i.val < f.datastreamCount → 0 ∈ (f.datastreams i).datastreamId.bytes
  points : ∀ i, i.val < f.datastreamCount →
    (f.datastreams i).datapointCount ≤ xiMaxDatapoints
  values : ∀ i j, i.val < f.datastreamCount → j.val < (f.datastreams i).datapointCount →
    ((f.datastreams i).datapoints j).Readable

/-! ### Replies -/

/-- `http_header_type_t`, in the order of the enumeration. -/
inductive HttpHeaderType
  | date
  | contentType
  | contentLength
  | connection
  | xRequestId
  | cacheControl
  | vary
  | count
  | age
  | unknown
  deriving DecidableEq

structure HttpHeader where
  headerType : HttpHeaderType
  name : Buf xiHttpHeaderNameMaxSize
  value : Buf xiHttpHeaderValueMaxSize

/-- `http_response_t`. A checklist entry is the index of the header it points to.
`statusOverrun` says that the status scan has stored its terminator in the byte behind
`http_status_string`; that byte is padding, or part of a null checklist pointer, and is zero
before and after. -/
structure HttpResponse where
  httpVersion1 : ℤ
  httpVersion2 : ℤ
  httpStatus : ℤ
  httpStatusString : Buf xiHttpStatusStringSize
  statusOverrun : Bool
  httpHeadersChecklist : HttpHeaderType → Option (Fin xiHttpMaxHeaders)
  httpHeaders : Fin xiHttpMaxHeaders → HttpHeader
  httpHeadersSize : ℕ
  httpContent : Buf xiHttpMaxContentSize

def HttpHeader.zero : HttpHeader := ⟨.date, CharArray.zero _, CharArray.zero _⟩

/-- `memset( response, 0, sizeof( http_response_t ) )`. -/
def HttpResponse.zero : HttpResponse where
  httpVersion1 := 0
  httpVersion2 := 0
  httpStatus := 0
  httpStatusString := CharArray.zero _
  statusOverrun := false
  httpHeadersChecklist := fun _ => none
  httpHeaders := fun _ => .zero
  httpHeadersSize := 0
  httpContent := CharArray.zero _

end LibXively.Structures
