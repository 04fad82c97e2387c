import LibXively.CLib.Scanf
import LibXively.Model.Structures
import LibXively.Model.XiTime

/-!
The CSV data layer: `csv_data.c`, with the copier of `xi_helpers.c` and the checks of
`xi_macros.h` it uses.
-/

namespace LibXively.CsvData

open LibXively.Bytes LibXively.Decimal LibXively.Scanf LibXively.CProc LibXively.CharArray
open LibXively.XiTime LibXively.Structures

/-! ### Macros and helpers -/

/-- `XI_CHECK_SIZE(a,b,e)`. -/
def xiCheckSize {σ : Type} (a b : ℤ) (e : XiErr) : Proc XiErr σ Unit := checkCnd (b ≤ a ∨ a < 0) e

/-- `XI_CHECK_S(s,size,o,e)`: the offset moved on by `s`. -/
def xiCheckS {σ : Type} (s size : ℤ) (o : ℕ) (e : XiErr) : Proc XiErr σ ℕ := do
  xiCheckSize s (size - o) e
  return o + s.toNat

/-- The loop of `xi_str_copy_untiln`, with `counter` bytes copied. -/
def copyLoop {n : ℕ} (delim : Byte) : Text → ℕ → Proc XiErr (Buf n) ℕ
  | [], counter => do
    store counter [0]
    return counter
  | c :: src, counter =>
    if c ≠ delim ∧ counter < n - 1 ∧ c ≠ 0 then do
      store counter [c]
      copyLoop delim src (counter + 1)
    else do
      store counter [0]
      return counter

/-- `xi_str_copy_untiln( dst, sizeof( dst ), src, delim )`. -/
def xiStrCopyUntiln {n : ℕ} (src : Text) (delim : Byte) : Proc XiErr (Buf n) ℕ :=
  copyLoop delim src 0

/-! ### Encoding -/

/-- `YYYY-MM-DDThh:mm:ss.ffffffZ`, with the widths of the format string. -/
def timestampText (tm : XiTm) (micro : ℤ) : Text :=
  fmtD0 4 (tm.tmYear + 1900) ++ lit "-" ++ fmtD0 2 (tm.tmMon + 1) ++ lit "-" ++
    fmtD0 2 tm.tmMday ++ lit "T" ++ fmtD0 2 tm.tmHour ++ lit ":" ++ fmtD0 2 tm.tmMin ++
    lit ":" ++ fmtD0 2 tm.tmSec ++ lit "." ++ fmtD0 6 micro ++ lit "Z"

section Encode

variable {n : ℕ} (tg : Target)

/-- `csv_encode_value( in + at, size, p )`. -/
def csvEncodeValue (at_ : ℕ) (size : ℤ) (p : XiDatapoint) : Proc XiErr (Buf n) ℤ :=
  match p.valueType with
  | .i32 => snprintf at_ size (fmtD (i32Value p.value))
  | .f32 => snprintf at_ size (tg.fmtF (f32Value p.value)).bytes
  | .str => do
    let s ← orCrash (cstr p.value) .overread
    snprintf at_ size s
  | .unknown _ => return -1

/-- `csv_encode_datapoint_in_place( in + at, size, datapoint )`. -/
def csvEncodeDatapointInPlace (at_ : ℕ) (size : ℤ) (datapoint : XiDatapoint) :
    Proc XiErr (Buf n) ℤ := errHandling (-1) do
  let offset ←
    if datapoint.timestamp.timestamp ≠ 0 then do
      let gmtinfo ← orCrash (xiGmtime tg.longBits datapoint.timestamp.timestamp) .overrun
      let s ← snprintf at_ size
        (timestampText gmtinfo (toInt32 datapoint.timestamp.micro) ++ lit ",")
      xiCheckS s size 0 .csvEncodeDatapointBufferOverrun
    else pure 0
  let s ← csvEncodeValue tg (at_ + offset) (size - offset) datapoint
  let offset ← xiCheckS s size offset .csvEncodeDatapointBufferOverrun
  let s ← snprintf (at_ + offset) (size - offset) (lit "\n")
  let offset ← xiCheckS s size offset .csvEncodeDatapointBufferOverrun
  return offset

/-- `csv_encode_datapoint`, on `XI_CSV_LOCAL_BUFFER`. The string returned is the one the buffer
then holds. -/
def csvEncodeDatapoint (data : XiDatapoint) : Proc XiErr (Buf n) (Option Text) := do
  let s ← csvEncodeDatapointInPlace tg 0 n data
  if s = -1 then return none
  else
    let t ← readStr
    return some t

/-- `csv_encode_create_datastream`, on `XI_CSV_LOCAL_BUFFER`. -/
def csvEncodeCreateDatastream (datastreamId : CString) (data : XiDatapoint) :
    Proc XiErr (Buf n) (Option Text) := errHandling none do
  let s ← snprintf 0 n (datastreamId.bytes ++ lit ",")
  let offset ← xiCheckS s n 0 .csvEncodeDatastreamBufferOverrun
  let s ← csvEncodeDatapointInPlace tg offset (n - offset) data
  let _ ← xiCheckS s n offset .csvEncodeDatastreamBufferOverrun
  let t ← readStr
  return some t

end Encode

/-! ### Decoding -/

inductive XiCharType
  | unknown
  | number
  | letter
  | dot
  | space
  | newline
  | tab
  | minus
  deriving DecidableEq

def csvClassifyChar (c : Byte) : XiCharType :=
  if c = 13 ∨ c = 11 then .newline
  else if c = 9 then .tab
  else if c = 32 then .space
  else if c = 45 then .minus
  else if c = 46 then .dot
  else if 48 ≤ c ∧ c ≤ 57 then .number
  else if 65 ≤ c ∧ c ≤ 90 then .letter
  else if 97 ≤ c ∧ c ≤ 122 then .letter
  else .unknown

inductive XiDfaState
  | initial
  | minus
  | number
  | float
  | dot
  | string
  deriving DecidableEq

/-- The transition table. -/
def states : XiCharType → XiDfaState → XiDfaState
  | .unknown, _ => .string
  | .number, .initial => .number
  | .number, .minus => .number
  | .number, .number => .number
  | .number, .float => .float
  | .number, .dot => .float
  | .number, .string => .string
  | .letter, _ => .string
  | .dot, .initial => .dot
  | .dot, .minus => .dot
  | .dot, .number => .dot
  | .dot, .float => .string
  | .dot, .dot => .string
  | .dot, .string => .string
  | .space, _ => .string
  | .newline, _ => .initial
  | .tab, _ => .string
  | .minus, .initial => .minus
  | .minus, _ => .string

/-- `atoi`. -/
def atoi (t : Text) : ℤ := (scanInt none (skipSpace t)).elim 0 Prod.fst

/-- Run on the value bytes of a datapoint. -/
def onValue {α : Type} (m : Proc XiErr XiDatapointValue α) : Proc XiErr XiDatapoint α :=
  focus (fun p => p.value) (fun v p => { p with value := v }) m

/-- The loop of `csv_decode_value`. -/
def decodeChars : Text → ℕ → XiDfaState → Proc XiErr XiDatapoint (ℕ × XiDfaState)
  | [], counter, s => return (counter, s)
  | c :: buffer, counter, s =>
    if c = 10 ∨ c = 0 ∨ c = 13 then return (counter, s)
    else do
      checkCnd (xiValueStringMaxSize - 1 ≤ counter) .datapointValueBufferOverflow
      let s := states (csvClassifyChar c) s
      if s ≠ .initial then onValue (store counter [c])
      decodeChars buffer (counter + 1) s

/-- The state a text ends in, after the loose states have been turned into strings. -/
def finalState : XiDfaState → XiDfaState
  | .minus => .string
  | .dot => .string
  | .initial => .string
  | s => s

/-- `csv_decode_value`: whether the pointer returned is not null. -/
def csvDecodeValue (tg : Target) (buffer : Text) : Proc XiErr XiDatapoint Bool :=
  errHandling false do
    onValue (store (xiValueStringMaxSize - 1) [0])
    let (counter, s) ← decodeChars buffer 0 .initial
    onValue (store counter [0])
    match finalState s with
    | .number => do
      let t ← onValue readStr
      modify fun p => { p with value := setI32Value p.value (atoi t), valueType := .i32 }
    | .float => do
      let t ← onValue readStr
      modify fun p => { p with value := setF32Value p.value (tg.atof t), valueType := .f32 }
    | _ => modify fun p => { p with valueType := .str }
    return true

/-- `"%04d-%02d-%02dT%02d:%02d:%02d.%06dZ"`. -/
def timestampPattern : List Directive :=
  [.int (some 4), .lit 45, .int (some 2), .lit 45, .int (some 2), .lit 84, .int (some 2), .lit 58,
    .int (some 2), .lit 58, .int (some 2), .lit 46, .int (some 6), .lit 90]

/-- `csv_decode_datapoint`: whether the pointer returned is not null. -/
def csvDecodeDatapoint (tg : Target) (buffer : Text) : Proc XiErr XiDatapoint Bool :=
  errHandling false do
    let begOfValue ← checkZero (strstr (lit ",") buffer) .csvDecodeDatapointParserError
    match scan timestampPattern buffer with
    | [.int ye, .int mo, .int da, .int h, .int m, .int s, .int ms] => do
      let timeinfo : XiTm := {
        tmYear := ye - 1900
        tmMon := mo - 1
        tmMday := da
        tmHour := h
        tmMin := m
        tmSec := s
        tmWday := 0
        tmYday := 0 }
      let (timestamp, _) ← orCrash (xiMktime tg.longBits timeinfo) .overrun
      checkCnd (toInt32 timestamp = -1) .csvTimeConvertionError
      modify fun p => { p with timestamp := ⟨timestamp, ms⟩ }
    | _ => do
      setErr .csvDecodeDatapointParserError
      jump
    let r ← csvDecodeValue tg (buffer.drop (begOfValue + 1))
    checkCnd (r = false) .csvDecodeDatapointParserError
    return true

/-- Run on one datastream of a feed. -/
def onStream {α : Type} (i : Fin xiMaxDatastreams) (m : Proc XiErr XiDatastream α) :
    Proc XiErr XiFeed α :=
  focus (fun f => f.datastreams i)
    (fun d f => { f with datastreams := Function.update f.datastreams i d }) m

/-- Run on the first datapoint of a datastream. -/
def onPoint {α : Type} (m : Proc XiErr XiDatapoint α) : Proc XiErr XiDatastream α :=
  focus (fun d => d.datapoints 0)
    (fun p d => { d with datapoints := Function.update d.datapoints 0 p }) m

/-- Run on the id of a datastream. -/
def onId {α : Type} (m : Proc XiErr (Buf xiMaxDatastreamName) α) : Proc XiErr XiDatastream α :=
  focus (fun d => d.datastreamId) (fun b d => { d with datastreamId := b }) m

/-- One line of a feed: the body of the loop of `csv_decode_feed` on its datastream, from
`current` on. -/
def decodeStream (tg : Target) (current : Text) : Proc XiErr XiDatastream Unit := do
  modify fun d => { d with datapointCount := 0 }
  onPoint (modify fun _ => .zero)
  let endOfDatastreamId ← checkZero (strstr (lit ",") current) .csvDecodeFeedParserError
  let s ← onId (xiStrCopyUntiln current 44)
  xiCheckSize s xiMaxDatastreamName .csvDecodeFeedParserError
  let ret ← onPoint (csvDecodeDatapoint tg (current.drop (endOfDatastreamId + 1)))
  checkCnd (ret = false) .csvDecodeFeedParserError
  modify fun d => { d with datapointCount := 1 }

/-- `while( end_of_line )`, with `counter` datastreams decoded. -/
def feedLoop (tg : Target) : ℕ → Text → ℕ → Proc XiErr XiFeed ℕ
  | 0, _, _ => crash .diverge
  | k + 1, current, counter =>
    if h : counter < xiMaxDatastreams then do
      onStream ⟨counter, h⟩ (decodeStream tg current)
      checkCnd (counter + 1 = xiMaxDatastreams) .csvDecodeFeedParserError
      match strstr (lit "\n") current with
      | none => return counter + 1
      | some endOfLine => feedLoop tg k (current.drop (endOfLine + 1)) (counter + 1)
    else crash .overrun

/-- `csv_decode_feed`: whether the pointer returned is not null. -/
def csvDecodeFeed (tg : Target) (buffer : Text) : Proc XiErr XiFeed Bool :=
  errHandling false do
    let counter ← feedLoop tg xiMaxDatastreams buffer 0
    modify fun f => { f with datastreamCount := counter }
    return true

end LibXively.CsvData
