import LibXively.Comm.PosixLayer

/-!
What each function of the POSIX layer leaves of the kernel.

An attempt to open a connection acquires three blocks and a socket one after the other. It gives
the blocks back where one of them is missing, keeps them where there is no socket, and keeps the
socket where one of the calls behind it fails.
-/

namespace LibXively.PosixCalls

open LibXively.Bytes LibXively.CProc LibXively.CharArray LibXively.Structures
open LibXively.CommLayers LibXively.Xively LibXively.Exchanges LibXively.PosixComm
open LibXively.PosixLayer

variable {sys : System} {a : Text} {p : ℕ} {k k' : Kernel} {conn : Connection} {data : Text}

/-- The three blocks of an attempt that starts with the `n`-th call are there. -/
def Allocates (sys : System) (n : ℕ) : Prop :=
  sys.alloc n = true ∧ sys.alloc (n + 1) = true ∧ sys.alloc (n + 2) = true

/-- All calls of an attempt succeed that starts with the `n`-th call. -/
structure Opens (sys : System) (n : ℕ) : Prop where
  allocates : Allocates sys n
  socket : sys.socket (n + 3) = true
  setsockopt : sys.setsockopt (n + 4) = true ∧ sys.setsockopt (n + 5) = true
  gethostbyname : sys.gethostbyname (n + 6) = true
  connect : sys.connect (n + 7) = true

/-- The connection of an attempt that starts with the `n`-th call. -/
def connectionAt (n : ℕ) : Connection := ⟨n + 1, n + 2, n, n + 3⟩

/-- The kernel with that connection open. -/
def Kernel.opened (k : Kernel) : Kernel where
  calls := k.calls + 8
  blocks := [k.calls + 2, k.calls + 1, k.calls] ++ k.blocks
  sockets := (k.calls + 3) :: k.sockets
  transfers := k.transfers

lemma erase_blocks (n : ℕ) (bs : List ℕ) :
    ((([n + 2, n + 1, n] ++ bs).erase n).erase (n + 2)).erase (n + 1) = bs := by
  have h1 : ¬ (n + 2 == n) = true := by simp
  have h2 : ¬ (n + 1 == n) = true := by simp
  rw [List.cons_append, List.cons_append, List.cons_append, List.nil_append,
    List.erase_cons_tail h1, List.erase_cons_tail h2, List.erase_cons_head, List.erase_cons_head,
    List.erase_cons_head]

/-! ### Opening -/

lemma open_some (h : Opens sys k.calls) (e : XiErr) :
    posixOpenConnection sys a p e k = .ret (some (connectionAt k.calls)) e (Kernel.opened k) := by
  simp [posixOpenConnection, withLocals, errCleanup, openBody, xiAlloc, socket, sysCall, outer,
    focus, assign, connectionAt, Kernel.opened, h.allocates.1, h.allocates.2.1, h.allocates.2.2,
    h.socket, h.setsockopt, h.gethostbyname, h.connect]

lemma open_noBlocks (h : ¬ Allocates sys k.calls) :
    ∃ c, ∀ e, posixOpenConnection sys a p e k = .ret none .outOfMemory { k with calls := c } := by
  unfold posixOpenConnection withLocals errCleanup openBody
  cases h0 : sys.alloc k.calls with
  | false =>
    exact ⟨k.calls + 1, fun e => by
      simp [openCleanup, xiAlloc, xiSafeFree, outer, focus, assign, h0]⟩
  | true =>
    cases h1 : sys.alloc (k.calls + 1) with
    | false =>
      exact ⟨k.calls + 2, fun e => by
        simp [openCleanup, xiAlloc, xiSafeFree, outer, focus, assign, h0, h1]⟩
    | true =>
      cases h2 : sys.alloc (k.calls + 2) with
      | false =>
        exact ⟨k.calls + 3, fun e => by
          simp [openCleanup, xiAlloc, xiSafeFree, outer, focus, assign, h0, h1, h2]⟩
      | true => exact absurd ⟨h0, h1, h2⟩ h

/-- Without a socket the function returns past its cleanup. -/
lemma open_noSocket (h : Allocates sys k.calls) (hs : sys.socket (k.calls + 3) = false)
    (e : XiErr) : posixOpenConnection sys a p e k = .ret none .socketInitializationError { k with
      calls := k.calls + 4
      blocks := [k.calls + 2, k.calls + 1, k.calls] ++ k.blocks } := by
  simp [posixOpenConnection, withLocals, errCleanup, openBody, xiAlloc, socket, outer, focus,
    assign, h.1, h.2.1, h.2.2, hs]

/-- The cleanup does not close the socket. -/
lemma open_socketLeft (h : Allocates sys k.calls) (hs : sys.socket (k.calls + 3) = true)
    (hno : ¬ Opens sys k.calls) : ∃ x c, ∀ e, posixOpenConnection sys a p e k = .ret none x { k with
      calls := c
      sockets := (k.calls + 3) :: k.sockets } := by
  have herase := erase_blocks k.calls k.blocks
  simp only [List.cons_append, List.nil_append] at herase
  unfold posixOpenConnection withLocals errCleanup openBody
  cases h4 : sys.setsockopt (k.calls + 4) with
  | false =>
    exact ⟨.socketInitializationError, k.calls + 5, fun e => by
      simp [openCleanup, xiAlloc, xiSafeFree, socket, sysCall, outer, focus, assign, h.1, h.2.1,
        h.2.2, hs, h4, herase]⟩
  | true =>
    cases h5 : sys.setsockopt (k.calls + 5) with
    | false =>
      exact ⟨.socketInitializationError, k.calls + 6, fun e => by
        simp [openCleanup, xiAlloc, xiSafeFree, socket, sysCall, outer, focus, assign, h.1, h.2.1,
          h.2.2, hs, h4, h5, herase]⟩
    | true =>
      cases h6 : sys.gethostbyname (k.calls + 6) with
      | false =>
        exact ⟨.socketGethostbynameError, k.calls + 7, fun e => by
          simp [openCleanup, xiAlloc, xiSafeFree, socket, sysCall, outer, focus, assign, h.1,
            h.2.1, h.2.2, hs, h4, h5, h6, herase]⟩
      | true =>
        cases h7 : sys.connect (k.calls + 7) with
        | false =>
          exact ⟨.socketConnectionError, k.calls + 8, fun e => by
            simp [openCleanup, xiAlloc, xiSafeFree, socket, sysCall, outer, focus, assign, h.1,
              h.2.1, h.2.2, hs, h4, h5, h6, h7, herase]⟩
        | true => exact absurd ⟨h, hs, ⟨h4, h5⟩, h6, h7⟩ hno

/-- What an attempt without a connection leaves behind. -/
lemma open_none {e x : XiErr} (h : posixOpenConnection sys a p e k = .ret none x k') :
    ¬ Opens sys k.calls ∧ k'.transfers = k.transfers ∧
      ((¬ Allocates sys k.calls ∧ k'.blocks = k.blocks ∧ k'.sockets = k.sockets) ∨
        (Allocates sys k.calls ∧ (k'.blocks = [k.calls + 2, k.calls + 1, k.calls] ++ k.blocks ∨
          k'.sockets = (k.calls + 3) :: k.sockets))) := by
  by_cases hopens : Opens sys k.calls
  · rw [open_some hopens] at h
    cases h
  refine ⟨hopens, ?_⟩
  by_cases hblocks : Allocates sys k.calls
  · cases hs : sys.socket (k.calls + 3) with
    | false =>
      rw [open_noSocket hblocks hs] at h
      injection h with _ _ hk
      subst hk
      exact ⟨rfl, .inr ⟨hblocks, .inl rfl⟩⟩
    | true =>
      obtain ⟨y, c, hrun⟩ := open_socketLeft (a := a) (p := p) hblocks hs hopens
      rw [hrun] at h
      injection h with _ _ hk
      subst hk
      exact ⟨rfl, .inr ⟨hblocks, .inr rfl⟩⟩
  · obtain ⟨c, hrun⟩ := open_noBlocks (a := a) (p := p) hblocks
    rw [hrun] at h
    injection h with _ _ hk
    subst hk
    exact ⟨rfl, .inl ⟨hblocks, rfl, rfl⟩⟩

lemma open_conn {e x : XiErr} (h : posixOpenConnection sys a p e k = .ret (some conn) x k') :
    Opens sys k.calls ∧ conn = connectionAt k.calls ∧ k' = Kernel.opened k := by
  by_cases hopens : Opens sys k.calls
  · rw [open_some hopens] at h
    injection h with hconn _ hk
    exact ⟨hopens, (Option.some.inj hconn).symm, hk.symm⟩
  by_cases hblocks : Allocates sys k.calls
  · cases hs : sys.socket (k.calls + 3) with
    | false => rw [open_noSocket hblocks hs] at h; cases h
    | true =>
      obtain ⟨y, c, hrun⟩ := open_socketLeft (a := a) (p := p) hblocks hs hopens
      rw [hrun] at h
      cases h
  · obtain ⟨c, hrun⟩ := open_noBlocks (a := a) (p := p) hblocks
    rw [hrun] at h
    cases h

/-! ### Transfers and closing -/

lemma send_accepted {n : ℤ} (h : posixSendData sys conn data .noErr k = .ret n .noErr k') :
    ∃ m, sys.write k.calls data.length = some m ∧ k' = { k with
      calls := k.calls + 1
      transfers := .wrote conn.socketFd (data.take m) :: k.transfers } := by
  cases hw : sys.write k.calls data.length with
  | none =>
    simp [posixSendData, sysCall, hw] at h
  | some m =>
    simp [posixSendData, sysCall, hw] at h
    exact ⟨m, rfl, h.2.symm⟩

lemma send_failed {x : XiErr} (h : posixSendData sys conn data .noErr k = .ret (-1) x k') :
    sys.write k.calls data.length = none ∧ k' = { k with calls := k.calls + 1 } := by
  cases hw : sys.write k.calls data.length with
  | none =>
    simp [posixSendData, sysCall, hw] at h
    exact ⟨rfl, h.2.symm⟩
  | some m =>
    simp [posixSendData, sysCall, hw] at h

lemma read_kernel {r : ℤ × Buf xiHttpMaxContentSize} {e x : XiErr}
    (h : posixReadData sys conn e k = .ret r x k') : k' = { k with
      calls := k.calls + 1
      transfers := .reads conn.socketFd :: k.transfers } := by
  cases hr : sys.read k.calls <;> simp [posixReadData, sysCall, hr] at h <;> exact h.2.2.symm

/-- The live blocks and the open sockets. -/
def held (k : Kernel) : List ℕ × List ℕ := (k.blocks, k.sockets)

lemma send_held {n : ℤ} {e x : XiErr} (h : posixSendData sys conn data e k = .ret n x k') :
    held k' = held k ∧ k'.calls = k.calls + 1 := by
  cases hw : sys.write k.calls data.length with
  | none =>
    simp [posixSendData, sysCall, hw] at h
    rw [← h.2.2]
    exact ⟨rfl, rfl⟩
  | some m =>
    simp [posixSendData, sysCall, hw] at h
    rw [← h.2.2]
    exact ⟨rfl, rfl⟩

lemma read_held {r : ℤ × Buf xiHttpMaxContentSize} {e x : XiErr}
    (h : posixReadData sys conn e k = .ret r x k') : held k' = held k ∧ k'.calls = k.calls + 1 := by
  rw [read_kernel h]
  exact ⟨rfl, rfl⟩

lemma close_kernel {e x : XiErr} (h : posixCloseConnection sys conn e k = .ret () x k') :
    k' = closed conn k := by
  cases hshutdown : sys.shutdown k.calls <;> cases hclose : sys.close (k.calls + 1) <;>
    simp [posixCloseConnection, sysCall, close, errHandling, xiSafeFree, hshutdown, hclose] at h <;>
    rw [← h.2] <;> rfl

/-- A request is answered if its connection is opened, a write takes some of it and the read brings
a reply in. -/
lemma delivers_opened {m : ℕ} {d : Received} (hopens : Opens sys k.calls)
    (hwrite : sys.write (k.calls + 8) data.length = some m)
    (hread : sys.read (k.calls + 9) = some d) :
    ∃ conn k', Delivers (posixLayer sys) data k conn d k' := by
  have hsend : posixSendData sys (connectionAt k.calls) data .noErr (Kernel.opened k) =
      .ret (m : ℤ) .noErr { Kernel.opened k with
        calls := k.calls + 9
        transfers := .wrote (k.calls + 3) (data.take m) :: k.transfers } := by
    simp [posixSendData, sysCall, Kernel.opened, connectionAt, hwrite]
  have hopen := @open_some sys xiHost xiPort k hopens .noErr
  obtain ⟨k', hread'⟩ := @read_some sys (connectionAt k.calls) { Kernel.opened k with
    calls := k.calls + 9
    transfers := .wrote (k.calls + 3) (data.take m) :: k.transfers } d hread
  exact ⟨_, k', _, m, _, hopen, hsend, by omega, hread, hread' .noErr⟩

end LibXively.PosixCalls
