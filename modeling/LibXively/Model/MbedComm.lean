import LibXively.Model.NqComm

/-!
The mbed communication layer, `mbed_comm.cpp`, over the same system: the methods `connect`,
`send_all`, `receive` and `close` of a `TCPSocketConnection` get the answers of the calls of those
names, `send_all` of `write` and `receive` of `read`.
-/

namespace LibXively.MbedComm

open LibXively.Bytes LibXively.CProc LibXively.CharArray LibXively.Structures
open LibXively.CommLayers LibXively.PosixComm

/-- The kernel, and whether a pointer has been read that nobody had written. C++ gives no meaning
to what follows such a read. -/
abbrev MbedKernel : Type := Kernel × Bool

/-- `connection_t` of this layer, with the socket object `socket_ptr` it holds. -/
structure MbedConnection extends Connection where
  socketPtr : ℕ

/-- The local variables of `mbed_open_connection` its cleanup reads. The member `socket_ptr` of
`pos_comm_data` is not there before it is written. -/
structure MbedOpenLocals where
  posCommData : Option ℕ
  socketPtr : Option ℕ
  conn : Option ℕ
  address : Option ℕ

section Calls

variable (sys : System)

/-- `new TCPSocketConnection()`. -/
def newTcpSocketConnection : Proc XiErr Kernel (Option ℕ) := xiAlloc sys

/-- The method `connect`: the descriptor the object has open behind it. -/
def connect : Proc XiErr Kernel (Option ℕ) := socket { sys with socket := sys.connect }

/-- The cleanup at the error label of `mbed_open_connection`. -/
def mbedOpenCleanup : Proc XiErr (MbedKernel × MbedOpenLocals) Unit := do
  let l ← get
  if l.2.posCommData.isSome then
    match l.2.socketPtr with
    | some p => outer (outer (xiSafeFree (some p)))
    | none => outer (modify fun w => (w.1, true))
  outer (outer (xiSafeFree l.2.posCommData))
  if l.2.conn.isSome then outer (outer (xiSafeFree l.2.address))
  outer (outer (xiSafeFree l.2.conn))

/-- `mbed_open_connection` between its declarations and its label. -/
def mbedOpenBody : Proc XiErr (MbedKernel × MbedOpenLocals) (Option MbedConnection) := do
  let socketPtr ← outer (outer (newTcpSocketConnection sys))
  let socketPtr ← checkZero socketPtr .outOfMemory
  let posCommData ← outer (outer (xiAlloc sys))
  assign fun l => { l with posCommData := posCommData }
  let layerSpecific ← checkZero posCommData .outOfMemory
  let conn ← outer (outer (xiAlloc sys))
  assign fun l => { l with conn := conn }
  let block ← checkZero conn .outOfMemory
  let address ← outer (outer (xiAlloc sys))
  assign fun l => { l with address := address }
  let address ← checkZero address .outOfMemory
  assign fun l => { l with socketPtr := some socketPtr }
  let s ← outer (outer (connect sys))
  let socketFd ← checkZero s .socketConnectionError
  return some { block, address, layerSpecific, socketFd, socketPtr }

/-- `mbed_open_connection`. -/
def mbedOpenConnection (_address : Text) (_port : ℕ) :
    Proc XiErr MbedKernel (Option MbedConnection) :=
  withLocals { posCommData := none, socketPtr := none, conn := none, address := none }
    (errCleanup mbedOpenCleanup none (mbedOpenBody sys))

/-- `mbed_send_data`, which is `posix_send_data` with `send_all`. -/
def mbedSendData (conn : MbedConnection) (data : Text) : Proc XiErr MbedKernel ℤ :=
  outer (posixSendData sys conn.toConnection data)

/-- `mbed_read_data`, which is `posix_read_data` with `receive`. -/
def mbedReadData (conn : MbedConnection) :
    Proc XiErr MbedKernel (ℤ × Buf xiHttpMaxContentSize) :=
  outer (posixReadData sys conn.toConnection)

/-- `mbed_close_connection`. -/
def mbedCloseConnection (conn : MbedConnection) : Proc XiErr MbedKernel Unit :=
  outer do
    errHandling () do
      let c ← close sys conn.socketFd
      checkCnd (c = false) .socketCloseError
    xiSafeFree (some conn.socketPtr)
    xiSafeFree (some conn.address)
    xiSafeFree (some conn.layerSpecific)
    xiSafeFree (some conn.block)

end Calls

end LibXively.MbedComm
