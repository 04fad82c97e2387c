import LibXively.Model.CommLayers

/-!
The POSIX communication layer, `posix_comm.c`, over a system whose calls may succeed or fail at
any time.
-/

namespace LibXively.PosixComm

open LibXively.Bytes LibXively.CProc LibXively.CharArray LibXively.Structures
open LibXively.CommLayers

/-- What the system answers to the n-th call made to it. `none` and `false` are failures. -/
structure System where
  alloc : ℕ → Bool
  socket : ℕ → Bool
  setsockopt : ℕ → Bool
  gethostbyname : ℕ → Bool
  connect : ℕ → Bool
  /-- how many of the offered bytes are accepted -/
  write : ℕ → ℕ → Option ℕ
  write_le : ∀ {i offered k}, write i offered = some k → k ≤ offered
  read : ℕ → Option Received
  shutdown : ℕ → Bool
  close : ℕ → Bool

/-- What the layer has asked of a socket. -/
inductive Transfer
  | wrote (fd : ℕ) (accepted : Text)
  | reads (fd : ℕ)

/-- The number of calls made so far, the blocks and descriptors that are live, each named by the
call that made it, and the transfers, latest first. -/
structure Kernel where
  calls : ℕ
  blocks : List ℕ
  sockets : List ℕ
  transfers : List Transfer

/-- `connection_t`, with the blocks it consists of. -/
structure Connection where
  block : ℕ
  address : ℕ
  layerSpecific : ℕ
  socketFd : ℕ

section Calls

variable (sys : System)

/-- A call that acquires nothing: its answer. -/
def sysCall {α : Type} (answer : ℕ → α) : Proc XiErr Kernel α := fun e k =>
  .ret (answer k.calls) e { k with calls := k.calls + 1 }

/-- `xi_alloc`. -/
def xiAlloc : Proc XiErr Kernel (Option ℕ) := fun e k =>
  if sys.alloc k.calls then
    .ret (some k.calls) e { k with calls := k.calls + 1, blocks := k.calls :: k.blocks }
  else .ret none e { k with calls := k.calls + 1 }

/-- `XI_SAFE_FREE`. -/
def xiSafeFree (block : Option ℕ) : Proc XiErr Kernel Unit :=
  match block with
  | some b => modify fun k => { k with blocks := k.blocks.erase b }
  | none => pure ()

/-- `socket`. -/
def socket : Proc XiErr Kernel (Option ℕ) := fun e k =>
  if sys.socket k.calls then
    .ret (some k.calls) e { k with calls := k.calls + 1, sockets := k.calls :: k.sockets }
  else .ret none e { k with calls := k.calls + 1 }

/-- `close`: the descriptor is released whatever the call reports. -/
def close (fd : ℕ) : Proc XiErr Kernel Bool := do
  modify fun k => { k with sockets := k.sockets.erase fd }
  sysCall sys.close

/-- The local variables of `posix_open_connection` its cleanup reads. -/
structure OpenLocals where
  posCommData : Option ℕ
  conn : Option ℕ
  address : Option ℕ

/-- The cleanup at the error label of `posix_open_connection`. -/
def openCleanup : Proc XiErr (Kernel × OpenLocals) Unit := do
  let l ← get
  outer (xiSafeFree l.2.posCommData)
  if l.2.conn.isSome then outer (xiSafeFree l.2.address)
  outer (xiSafeFree l.2.conn)

/-- `posix_open_connection` between its declarations and its label. -/
def openBody : Proc XiErr (Kernel × OpenLocals) (Option Connection) := do
  let posCommData ← outer (xiAlloc sys)
  assign fun l => { l with posCommData := posCommData }
  let layerSpecific ← checkZero posCommData .outOfMemory
  let conn ← outer (xiAlloc sys)
  assign fun l => { l with conn := conn }
  let block ← checkZero conn .outOfMemory
  let address ← outer (xiAlloc sys)
  assign fun l => { l with address := address }
  let address ← checkZero address .outOfMemory
  match ← outer (socket sys) with
  | none => do
    -- this failure returns without the cleanup
    setErr .socketInitializationError
    return none
  | some fd => do
    let received ← outer (sysCall sys.setsockopt)
    checkCnd (received = false) .socketInitializationError
    let sent ← outer (sysCall sys.setsockopt)
    checkCnd (sent = false) .socketInitializationError
    let hostinfo ← outer (sysCall sys.gethostbyname)
    checkCnd (hostinfo = false) .socketGethostbynameError
    let connected ← outer (sysCall sys.connect)
    checkCnd (connected = false) .socketConnectionError
    return some { block, address, layerSpecific, socketFd := fd }

/-- `posix_open_connection`. -/
def posixOpenConnection (_address : Text) (_port : ℕ) : Proc XiErr Kernel (Option Connection) :=
  withLocals { posCommData := none, conn := none, address := none }
    (errCleanup openCleanup none (openBody sys))

/-- `posix_send_data`. -/
def posixSendData (conn : Connection) (data : Text) : Proc XiErr Kernel ℤ := do
  match ← sysCall fun i => sys.write i data.length with
  | none => do
    setErr .socketWriteError
    return -1
  | some k => do
    modify fun s => { s with transfers := .wrote conn.socketFd (data.take k) :: s.transfers }
    return k

/-- `posix_read_data`. -/
def posixReadData (conn : Connection) : Proc XiErr Kernel (ℤ × Buf xiHttpMaxContentSize) := do
  modify fun s => { s with transfers := .reads conn.socketFd :: s.transfers }
  match ← sysCall sys.read with
  | none => do
    setErr .socketReadError
    return (-1, zero _)
  | some d => return (d.bytes.length, d.buffer)

/-- `posix_close_connection`. -/
def posixCloseConnection (conn : Connection) : Proc XiErr Kernel Unit := do
  errHandling () do
    let s ← sysCall sys.shutdown
    if s = false then do
      setErr .socketShutdownError
      let _ ← close sys conn.socketFd
      jump
    let c ← close sys conn.socketFd
    checkCnd (c = false) .socketCloseError
  xiSafeFree (some conn.layerSpecific)
  xiSafeFree (some conn.address)
  xiSafeFree (some conn.block)

end Calls

end LibXively.PosixComm
