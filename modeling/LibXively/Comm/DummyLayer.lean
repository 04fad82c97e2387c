import LibXively.Comm.PosixCalls
import LibXively.Model.DummyComm

/-!
The dummy layer is a communication layer. Its peer delivers no bytes to any read.
-/

namespace LibXively.DummyLayer

open LibXively.Bytes LibXively.CProc LibXively.CharArray LibXively.Structures
open LibXively.CommLayers LibXively.PosixComm LibXively.PosixLayer LibXively.PosixCalls
open LibXively.DummyComm

section Layer

variable (sys : System)

lemma blind_dummyOpenBody : Blind (dummyOpenBody sys) := by
  refine (steady_xiAlloc sys).outer.blind fun dummyCommData => ?_
  refine (steady_assign _).blind fun _ => ?_
  refine blind_checkZero _ (by decide) fun layerSpecific => ?_
  refine (steady_xiAlloc sys).outer.blind fun conn => ?_
  refine (steady_assign _).blind fun _ => ?_
  refine blind_checkZero _ (by decide) fun block => ?_
  refine (steady_xiAlloc sys).outer.blind fun address => ?_
  refine (steady_assign _).blind fun _ => ?_
  refine blind_checkZero _ (by decide) fun address => ?_
  exact fun s => .inl ⟨_, s, fun _ => rfl⟩

lemma open_reports (a : Text) (p : ℕ) : Reports (dummyOpenConnection sys a p) (· = none) :=
  (blind_dummyOpenBody sys).reports steady_openCleanup _

/-- What every read brings in. -/
def nothing : Received := ⟨[], Nat.zero_le _⟩

lemma steady_close (conn : DummyConnection) : Steady (dummyCloseConnection conn) :=
  (steady_xiSafeFree _).bind fun _ => (steady_xiSafeFree _).bind fun _ => steady_xiSafeFree _

lemma close_reports (conn : DummyConnection) : MayReport (dummyCloseConnection conn) := by
  intro k
  obtain ⟨v, k', hrun⟩ := steady_close conn k
  exact ⟨none, k', by decide, hrun⟩

/-- The dummy layer over a system, of which it uses the allocator only. -/
def dummyLayer : CommLayer where
  World := Kernel
  Conn := DummyConnection
  openConnection := dummyOpenConnection sys
  sendData := dummySendData
  readData := dummyReadData
  closeConnection := dummyCloseConnection
  delivers _ _ := some nothing
  open_reports := open_reports sys
  send_reports c t k := ⟨_, k, .inl ⟨by omega, fun _ => rfl⟩⟩
  read_some {c k d} h := by
    obtain rfl := Option.some.inj h
    exact ⟨k, fun e => rfl⟩
  read_none h := by cases h
  close_reports := close_reports

end Layer

/-! ### What is left behind -/

variable {sys : System} {a : Text} {p : ℕ} {k k' : Kernel} {conn : DummyConnection} {e x : XiErr}

/-- The connection of an attempt that starts with the `n`-th call. -/
def dummyConnectionAt (n : ℕ) : DummyConnection := ⟨n + 1, n + 2, n⟩

/-- The kernel with that connection open. -/
def dummyOpened (k : Kernel) : Kernel :=
  { k with calls := k.calls + 3, blocks := [k.calls + 2, k.calls + 1, k.calls] ++ k.blocks }

lemma open_some (h : Allocates sys k.calls) : dummyOpenConnection sys a p e k =
    .ret (some (dummyConnectionAt k.calls)) e (dummyOpened k) := by
  simp [dummyOpenConnection, withLocals, errCleanup, dummyOpenBody, xiAlloc, outer, focus, assign,
    dummyConnectionAt, dummyOpened, h.1, h.2.1, h.2.2]

lemma open_noBlocks (h : ¬ Allocates sys k.calls) : ∃ c, ∀ e,
    dummyOpenConnection sys a p e k = .ret none .outOfMemory { k with calls := c } := by
  unfold dummyOpenConnection withLocals errCleanup dummyOpenBody
  cases h0 : sys.alloc k.calls with
  | false =>
    exact ⟨k.calls + 1, fun e => by
      simp [openCleanup, xiAlloc, xiSafeFree, outer, focus, assign, h0]⟩
  | true =>
    cases h1 : sys.alloc (k.calls + 1) with
    | false =>
      exact ⟨k.calls + 2, fun e => by
        simp [openCleanup, xiAlloc, xiSafeFree, outer, focus, assign, h0, h1]⟩
    | true =>
      cases h2 : sys.alloc (k.calls + 2) with
      | false =>
        exact ⟨k.calls + 3, fun e => by
          simp [openCleanup, xiAlloc, xiSafeFree, outer, focus, assign, h0, h1, h2]⟩
      | true => exact absurd ⟨h0, h1, h2⟩ h

/-- An attempt without a connection leaves nothing behind. -/
lemma open_none (h : dummyOpenConnection sys a p e k = .ret none x k') : held k' = held k := by
  by_cases hblocks : Allocates sys k.calls
  · rw [open_some hblocks] at h
    cases h
  · obtain ⟨c, hrun⟩ := @open_noBlocks sys a p k hblocks
    rw [hrun] at h
    injection h with _ _ hk
    rw [← hk]
    rfl

lemma open_conn (h : dummyOpenConnection sys a p e k = .ret (some conn) x k') :
    conn = dummyConnectionAt k.calls ∧ k' = dummyOpened k := by
  by_cases hblocks : Allocates sys k.calls
  · rw [open_some hblocks] at h
    injection h with hconn _ hk
    exact ⟨(Option.some.inj hconn).symm, hk.symm⟩
  · obtain ⟨c, hrun⟩ := @open_noBlocks sys a p k hblocks
    rw [hrun] at h
    cases h

/-- A connection is given back as a whole. -/
lemma close_opened : held { dummyOpened k with
    blocks := (((dummyOpened k).blocks.erase (dummyConnectionAt k.calls).layerSpecific).erase
      (dummyConnectionAt k.calls).address).erase (dummyConnectionAt k.calls).block } = held k := by
  simp only [held, dummyOpened, dummyConnectionAt, erase_blocks]

end LibXively.DummyLayer
