import LibXively.Comm.PosixCalls
import LibXively.Model.NqComm

/-!
The NanoQplus layer is a communication layer.

Where it opens no connection it keeps nothing. A close that succeeds keeps the blocks of the
connection.
-/

namespace LibXively.NqLayer

open LibXively.Bytes LibXively.CProc LibXively.CharArray LibXively.Structures
open LibXively.CommLayers LibXively.PosixComm LibXively.PosixLayer LibXively.PosixCalls
open LibXively.NqComm

section Layer

variable (sys : System)

lemma blind_nqOpenBody : Blind (nqOpenBody sys) := by
  refine (steady_xiAlloc sys).outer.blind fun nqCommData => ?_
  refine (steady_assign _).blind fun _ => ?_
  refine blind_checkZero _ (by decide) fun layerSpecific => ?_
  refine (steady_xiAlloc sys).outer.blind fun conn => ?_
  refine (steady_assign _).blind fun _ => ?_
  refine blind_checkZero _ (by decide) fun block => ?_
  refine (steady_xiAlloc sys).outer.blind fun address => ?_
  refine (steady_assign _).blind fun _ => ?_
  refine blind_checkZero _ (by decide) fun address => ?_
  refine (steady_socket _).outer.blind fun tcIdx => ?_
  refine blind_checkZero _ (by decide) fun tcIdx => ?_
  exact fun s => .inl ⟨_, s, fun _ => rfl⟩

lemma open_reports (a : Text) (p : ℕ) : Reports (nqOpenConnection sys a p) (· = none) :=
  (blind_nqOpenBody sys).reports steady_openCleanup _

/-- The kernel behind a close: the blocks are released if the call fails. -/
def nqClosed (conn : Connection) (k : Kernel) : Kernel :=
  { k with
    calls := k.calls + 1
    blocks := if sys.close k.calls then k.blocks
      else ((k.blocks.erase conn.layerSpecific).erase conn.address).erase conn.block
    sockets := k.sockets.erase conn.socketFd }

lemma close_run (conn : Connection) (k : Kernel) (e : XiErr) :
    nqCloseConnection sys conn e k =
      .ret () (if sys.close k.calls then e else .socketCloseError) (nqClosed sys conn k) := by
  cases hclose : sys.close k.calls <;>
    simp [nqCloseConnection, close, sysCall, xiSafeFree, nqClosed, hclose]

lemma close_reports (conn : Connection) : MayReport (nqCloseConnection sys conn) := by
  intro k
  refine ⟨if sys.close k.calls then none else some .socketCloseError, nqClosed sys conn k, ?_,
    fun e => ?_⟩
  · split <;> decide
  · rw [close_run]
    split <;> rfl

/-- The NanoQplus layer over a system. -/
def nqLayer : CommLayer where
  World := Kernel
  Conn := Connection
  openConnection := nqOpenConnection sys
  sendData := nqSendData sys
  readData := nqReadData sys
  closeConnection := nqCloseConnection sys
  delivers _ k := sys.read k.calls
  open_reports := open_reports sys
  send_reports := send_reports sys
  read_some := read_some sys
  read_none := read_none sys
  close_reports := close_reports sys

end Layer

/-! ### What an attempt leaves -/

variable {sys : System} {a : Text} {p : ℕ} {k k' : Kernel} {conn : Connection} {e x : XiErr}

/-- All calls of an attempt succeed that starts with the `n`-th call. -/
structure NqOpens (sys : System) (n : ℕ) : Prop where
  allocates : Allocates sys n
  connect : sys.connect (n + 3) = true

/-- The kernel with the connection of an attempt open. -/
def nqOpened (k : Kernel) : Kernel := { Kernel.opened k with calls := k.calls + 4 }

lemma open_some (h : NqOpens sys k.calls) :
    nqOpenConnection sys a p e k = .ret (some (connectionAt k.calls)) e (nqOpened k) := by
  simp [nqOpenConnection, withLocals, errCleanup, nqOpenBody, xiAlloc, tcpConnect, socket, outer,
    focus, assign, connectionAt, nqOpened, Kernel.opened, h.allocates.1, h.allocates.2.1,
    h.allocates.2.2, h.connect]

lemma open_fails (h : ¬ NqOpens sys k.calls) :
    ∃ y c, nqOpenConnection sys a p e k = .ret none y { k with calls := c } := by
  have herase := erase_blocks k.calls k.blocks
  simp only [List.cons_append, List.nil_append] at herase
  unfold nqOpenConnection withLocals errCleanup nqOpenBody
  cases h0 : sys.alloc k.calls with
  | false =>
    exact ⟨.outOfMemory, k.calls + 1, by
      simp [openCleanup, xiAlloc, xiSafeFree, outer, focus, assign, h0]⟩
  | true =>
    cases h1 : sys.alloc (k.calls + 1) with
    | false =>
      exact ⟨.outOfMemory, k.calls + 2, by
        simp [openCleanup, xiAlloc, xiSafeFree, outer, focus, assign, h0, h1]⟩
    | true =>
      cases h2 : sys.alloc (k.calls + 2) with
      | false =>
        exact ⟨.outOfMemory, k.calls + 3, by
          simp [openCleanup, xiAlloc, xiSafeFree, outer, focus, assign, h0, h1, h2]⟩
      | true =>
        cases h3 : sys.connect (k.calls + 3) with
        | false =>
          exact ⟨.socketConnectionError, k.calls + 4, by
            simp [openCleanup, xiAlloc, tcpConnect, socket, xiSafeFree, outer, focus, assign, h0,
              h1, h2, h3, herase]⟩
        | true => exact absurd ⟨⟨h0, h1, h2⟩, h3⟩ h

lemma open_none (h : nqOpenConnection sys a p e k = .ret none x k') :
    ¬ NqOpens sys k.calls ∧ ∃ c, k' = { k with calls := c } := by
  by_cases hopens : NqOpens sys k.calls
  · rw [open_some hopens] at h
    cases h
  · obtain ⟨y, c, hrun⟩ := @open_fails sys a p k e hopens
    rw [hrun] at h
    injection h with _ _ hk
    exact ⟨hopens, c, hk.symm⟩

lemma open_conn (h : nqOpenConnection sys a p e k = .ret (some conn) x k') :
    NqOpens sys k.calls ∧ conn = connectionAt k.calls ∧ k' = nqOpened k := by
  by_cases hopens : NqOpens sys k.calls
  · rw [open_some hopens] at h
    injection h with hconn _ hk
    exact ⟨hopens, (Option.some.inj hconn).symm, hk.symm⟩
  · obtain ⟨y, c, hrun⟩ := @open_fails sys a p k e hopens
    rw [hrun] at h
    cases h

end LibXively.NqLayer
