import LibXively.Model.PosixComm

/-!
The dummy communication layer, `dummy_comm.c`, which takes every request and answers with nothing.
-/

namespace LibXively.DummyComm

open LibXively.Bytes LibXively.CProc LibXively.CharArray LibXively.Structures
open LibXively.PosixComm

/-- `connection_t` of this layer. The `socket_fd` of its `dummy_comm_data` is never written. -/
structure DummyConnection where
  block : ℕ
  address : ℕ
  layerSpecific : ℕ

variable (sys : System)

/-- `dummy_open_connection` between its declarations and its label. -/
def dummyOpenBody : Proc XiErr (Kernel × OpenLocals) (Option DummyConnection) := do
  let dummyCommData ← outer (xiAlloc sys)
  assign fun l => { l with posCommData := dummyCommData }
  let layerSpecific ← checkZero dummyCommData .outOfMemory
  let conn ← outer (xiAlloc sys)
  assign fun l => { l with conn := conn }
  let block ← checkZero conn .outOfMemory
  let address ← outer (xiAlloc sys)
  assign fun l => { l with address := address }
  let address ← checkZero address .outOfMemory
  return some { block, address, layerSpecific }

/-- `dummy_open_connection`. Its cleanup is the one of `posix_open_connection`. -/
def dummyOpenConnection (_address : Text) (_port : ℕ) :
    Proc XiErr Kernel (Option DummyConnection) :=
  withLocals { posCommData := none, conn := none, address := none }
    (errCleanup openCleanup none (dummyOpenBody sys))

/-- `dummy_send_data`. -/
def dummySendData (_conn : DummyConnection) (data : Text) : Proc XiErr Kernel ℤ :=
  return data.length

/-- `dummy_read_data`. -/
def dummyReadData (_conn : DummyConnection) :
    Proc XiErr Kernel (ℤ × Buf xiHttpMaxContentSize) := return (0, zero _)

/-- `dummy_close_connection`. -/
def dummyCloseConnection (conn : DummyConnection) : Proc XiErr Kernel Unit := do
  xiSafeFree (some conn.layerSpecific)
  xiSafeFree (some conn.address)
  xiSafeFree (some conn.block)

end LibXively.DummyComm
