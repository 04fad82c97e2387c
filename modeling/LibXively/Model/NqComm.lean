import LibXively.Model.PosixComm

/-!
The communication layer of NanoQplus, `nq_comm.c`, over the same system: `tcp_connect`, `tcp_send`,
`tcp_recv` and `tcp_close` get the answers of `connect`, `write`, `read` and `close`.
-/

namespace LibXively.NqComm

open LibXively.Bytes LibXively.CProc LibXively.CharArray LibXively.Structures
open LibXively.CommLayers LibXively.PosixComm

variable (sys : System)

/-- `tcp_connect`, which opens a connection of its own: none is left if it answers
`get_tcp_max_conn()`. -/
def tcpConnect : Proc XiErr Kernel (Option ℕ) := socket { sys with socket := sys.connect }

/-- `nq_open_connection` between its declarations and its label. -/
def nqOpenBody : Proc XiErr (Kernel × OpenLocals) (Option Connection) := do
  let nqCommData ← outer (xiAlloc sys)
  assign fun l => { l with posCommData := nqCommData }
  let layerSpecific ← checkZero nqCommData .outOfMemory
  let conn ← outer (xiAlloc sys)
  assign fun l => { l with conn := conn }
  let block ← checkZero conn .outOfMemory
  let address ← outer (xiAlloc sys)
  assign fun l => { l with address := address }
  let address ← checkZero address .outOfMemory
  let tcIdx ← outer (tcpConnect sys)
  let tcIdx ← checkZero tcIdx .socketConnectionError
  return some { block, address, layerSpecific, socketFd := tcIdx }

/-- `nq_open_connection`. The address is ignored, its own one is used instead. -/
def nqOpenConnection (_address : Text) (_port : ℕ) : Proc XiErr Kernel (Option Connection) :=
  withLocals { posCommData := none, conn := none, address := none }
    (errCleanup openCleanup none (nqOpenBody sys))

/-- `nq_send_data`, which is `posix_send_data` with `tcp_send`. -/
def nqSendData : Connection → Text → Proc XiErr Kernel ℤ := posixSendData sys

/-- `nq_read_data`, which is `posix_read_data` with `tcp_recv`. -/
def nqReadData : Connection → Proc XiErr Kernel (ℤ × Buf xiHttpMaxContentSize) :=
  posixReadData sys

/-- `nq_close_connection`. -/
def nqCloseConnection (conn : Connection) : Proc XiErr Kernel Unit := do
  let c ← close sys conn.socketFd
  -- a close that succeeds returns past the cleanup
  if c = false then do
    setErr .socketCloseError
    xiSafeFree (some conn.layerSpecific)
    xiSafeFree (some conn.address)
    xiSafeFree (some conn.block)

end LibXively.NqComm
