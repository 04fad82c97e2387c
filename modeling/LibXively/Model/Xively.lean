import LibXively.Model.CommLayers
import LibXively.Model.HttpParser
import LibXively.Model.HttpTransport

/-!
The setters of values and the API functions of `xively.c`.

The API functions are one body between the macros `XI_FUNCTION_PROLOGUE` and
`XI_FUNCTION_EPILOGUE`, for a request encoder and, in the two get functions, a decoder that writes
the caller's object.
-/

namespace LibXively.Xively

open LibXively.Bytes LibXively.CProc LibXively.CharArray LibXively.Structures
open LibXively.CsvData LibXively.HttpQueries LibXively.HttpTransport LibXively.HttpParser
open LibXively.CommLayers

/-! ### Values -/

/-- `xi_set_value_i32`: whether the pointer returned is not null. -/
def xiSetValueI32 (value : Int32) : Proc XiErr XiDatapoint Bool := do
  modify fun p => { p with value := setI32Value p.value value.toInt }
  modify fun p => { p with valueType := .i32 }
  return true

/-- `xi_set_value_str`: whether the pointer returned is not null. -/
def xiSetValueStr (value : CString) : Proc XiErr XiDatapoint Bool := errHandling false do
  let s ← onValue (xiStrCopyUntiln value.bytes 0)
  xiCheckSize s xiValueStringMaxSize .datapointValueBufferOverflow
  modify fun p => { p with valueType := .str }
  return true

/-- `xi_set_value_f32`, for the bits of the value. -/
def xiSetValueF32 (value : UInt32) : Proc XiErr XiDatapoint Bool := do
  modify fun p => { p with value := setF32Value p.value value }
  modify fun p => { p with valueType := .f32 }
  return true

def xiGetValueType (p : XiDatapoint) : XiValueType := p.valueType

/-- `xi_get_value_i32`: it reads the union whatever the type is. -/
def xiGetValueI32 (p : XiDatapoint) : ℤ := i32Value p.value

/-- `xi_get_value_f32`, which is zero for another type. -/
def xiGetValueF32 (p : XiDatapoint) : UInt32 := if p.valueType = .f32 then f32Value p.value else 0

/-- `xi_value_pointer_i32`: whether it is not null. It points to `i32_value`. -/
def xiValuePointerI32 (p : XiDatapoint) : Bool := p.valueType = .i32

/-- `xi_value_pointer_f32`: whether it is not null. It points to `f32_value`. -/
def xiValuePointerF32 (p : XiDatapoint) : Bool := p.valueType = .f32

/-- `xi_value_pointer_str`: whether it is not null. It points to `str_value`. -/
def xiValuePointerStr (p : XiDatapoint) : Bool := p.valueType = .str

/-! ### Exchanges -/

abbrev xiPort : ℕ := 80

/-- `xi_context_t`, less the fields the API functions do not read. -/
structure XiContext where
  apiKey : CString

/-- A process that uses the library, less the error variable. -/
structure Process (tg : Target) (cl : CommLayer) where
  statics : Statics tg
  world : cl.World

/-- The local variables of an API function that its exit reads, and the caller's object. -/
structure Frame (cl : CommLayer) (δ : Type) where
  conn : Option cl.Conn
  /-- whether `response` is not null -/
  response : Bool
  dest : δ

variable {tg : Target} {cl : CommLayer} {α δ : Type}

def onStatics (m : Proc XiErr (Statics tg) α) : Proc XiErr (Process tg cl) α :=
  focus (fun p => p.statics) (fun l p => { p with statics := l }) m

def onWorld (m : Proc XiErr cl.World α) : Proc XiErr (Process tg cl) α :=
  focus (fun p => p.world) (fun w p => { p with world := w }) m

def onResponse (m : Proc XiErr HttpResponse α) : Proc XiErr (Statics tg) α :=
  focus (fun l => l.response) (fun r l => { l with response := r }) m

/-- Run on the caller's object. -/
def onDest (m : Proc XiErr δ α) : Proc XiErr (Process tg cl × Frame cl δ) α :=
  focus (fun p => p.2.dest) (fun d p => (p.1, { p.2 with dest := d })) m

/-- `http_decode_reply`: whether the pointer returned is not null. -/
def httpDecodeReply (text : Text) : Proc XiErr (Statics tg) Bool := onResponse (parseHttp text)

/-- `if( c ) { goto err_handling; }`. -/
def jumpIf {σ : Type} (c : Prop) [Decidable c] : Proc XiErr σ Unit := if c then jump else pure ()

/-- `XI_FUNCTION_GET_RESPONSE` up to the read: what is in the local buffer after it. -/
def exchange (data : Text) : Proc XiErr (Process tg cl × Frame cl δ)
    (Buf xiHttpMaxContentSize) := do
  let conn ← outer (onWorld (cl.openConnection xiHost xiPort))
  let conn ← orJump conn
  assign fun f => { f with conn := some conn }
  let sent ← outer (onWorld (cl.sendData conn data))
  jumpIf (sent = -1)
  let recv ← outer (onWorld (cl.readData conn))
  jumpIf (recv.1 = -1)
  return recv.2

/-- `XI_FUNCTION_GET_RESPONSE`. -/
def xiFunctionGetResponse (data : Option Text) :
    Proc XiErr (Process tg cl × Frame cl δ) Unit := do
  let data ← orJump data
  let buffer ← exchange data
  let text ← orCrash (cstr buffer) .overread
  let response ← outer (onStatics (httpDecodeReply text))
  assign fun f => { f with response := response }
  jumpIf (response = false)

/-- `XI_FUNCTION_EPILOGUE` from its label on. -/
def xiFunctionEpilogue : Proc XiErr (Process tg cl × Frame cl δ) (Bool × δ) := do
  let p ← get
  match p.2.conn with
  | some conn => outer (onWorld (cl.closeConnection conn))
  | none => pure ()
  return (p.2.response, p.2.dest)

/-- The decoder of a get function, on the content of the response. -/
def decodeContent (decode : Text → Proc XiErr δ Bool) :
    Proc XiErr (Process tg cl × Frame cl δ) Unit := do
  let content ← outer (onStatics (onResponse (fun e r =>
    orCrash (cstr r.httpContent) .overread e r)))
  let o ← onDest (decode content)
  jumpIf (o = false)

/-- An API function: whether the response returned is not null, and the caller's object. -/
def xiFunction (request : Proc XiErr (Statics tg) (Option Text))
    (decode : Option (Text → Proc XiErr δ Bool)) (dest : δ) :
    Proc XiErr (Process tg cl) (Bool × δ) :=
  withLocals { conn := none, response := false, dest := dest } do
    errHandling () do
      let data ← outer (onStatics request)
      xiFunctionGetResponse data
      match decode with
      | some decode => decodeContent decode
      | none => pure ()
    xiFunctionEpilogue

/-! ### The eight functions -/

def xiFeedGet (xi : XiContext) (feed : XiFeed) : Proc XiErr (Process tg cl) (Bool × XiFeed) :=
  xiFunction (httpEncodeGetFeed xi.apiKey feed) (some (csvDecodeFeed tg)) feed

def xiDatastreamGet (xi : XiContext) (feedId : UInt32) (datastreamId : CString)
    (o : XiDatapoint) : Proc XiErr (Process tg cl) (Bool × XiDatapoint) :=
  xiFunction (httpEncodeGetDatastream xi.apiKey feedId datastreamId)
    (some (csvDecodeDatapoint tg)) o

/-- An API function without an object to fill. -/
def xiRequest (request : Proc XiErr (Statics tg) (Option Text)) :
    Proc XiErr (Process tg cl) Bool := Prod.fst <$> xiFunction request none ()

def xiFeedUpdate (xi : XiContext) (feed : XiFeed) : Proc XiErr (Process tg cl) Bool :=
  xiRequest (httpEncodeUpdateFeed xi.apiKey feed)

def xiDatastreamCreate (xi : XiContext) (feedId : UInt32) (datastreamId : CString)
    (datapoint : XiDatapoint) : Proc XiErr (Process tg cl) Bool :=
  xiRequest (httpEncodeCreateDatastream xi.apiKey feedId datastreamId datapoint)

def xiDatastreamUpdate (xi : XiContext) (feedId : UInt32) (datastreamId : CString)
    (datapoint : XiDatapoint) : Proc XiErr (Process tg cl) Bool :=
  xiRequest (httpEncodeUpdateDatastream xi.apiKey feedId datastreamId datapoint)

def xiDatastreamDelete (xi : XiContext) (feedId : UInt32) (datastreamId : CString) :
    Proc XiErr (Process tg cl) Bool :=
  xiRequest (httpEncodeDeleteDatastream xi.apiKey feedId datastreamId)

def xiDatapointDelete (xi : XiContext) (feedId : UInt32) (datastreamId : CString)
    (o : XiDatapoint) : Proc XiErr (Process tg cl) Bool :=
  xiRequest (httpEncodeDeleteDatapoint xi.apiKey feedId datastreamId o)

def xiDatapointDeleteRange (xi : XiContext) (feedId : UInt32) (datastreamId : CString)
    (start end_ : Option XiTimestamp) : Proc XiErr (Process tg cl) Bool :=
  xiRequest (httpEncodeDatapointDeleteRange xi.apiKey feedId datastreamId start end_)

end LibXively.Xively
