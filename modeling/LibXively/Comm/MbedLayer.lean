import LibXively.Comm.PosixCalls
import LibXively.Model.MbedComm

/-!
The mbed layer is a communication layer.

An attempt that has a socket object and misses one of the blocks behind it keeps the object. A
connection that has been opened is given back as a whole.
-/

namespace LibXively.MbedLayer

open LibXively.Bytes LibXively.CProc LibXively.CharArray LibXively.Structures
open LibXively.CommLayers LibXively.PosixComm LibXively.PosixLayer LibXively.PosixCalls
open LibXively.MbedComm

section Outer

variable {σ τ α : Type}

lemma reports_outer {m : Proc XiErr σ α} {failed : α → Prop} (h : Reports m failed) :
    Reports (outer m : Proc XiErr (σ × τ) α) failed := by
  intro s
  obtain ⟨v, s', ⟨hv, hrun⟩ | ⟨hv, x, hx, hrun⟩⟩ := h s.1
  · exact ⟨v, (s', s.2), .inl ⟨hv, fun e => focus_ret (hrun e)⟩⟩
  · exact ⟨v, (s', s.2), .inr ⟨hv, x, hx, fun e => focus_ret (hrun e)⟩⟩

/-- What a function does from inside a scope, it does to the object itself. -/
lemma outer_ret {m : Proc XiErr σ α} {e x : XiErr} {s s' : σ × τ} {v : α}
    (h : outer m e s = .ret v x s') : m e s.1 = .ret v x s'.1 ∧ s'.2 = s.2 := by
  unfold outer focus at h
  cases hm : m e s.1 <;> rw [hm] at h <;> cases h
  exact ⟨rfl, rfl⟩

end Outer

section Layer

variable (sys : System)

lemma steady_openCleanup : Steady mbedOpenCleanup := by
  have hrest (l : MbedKernel × MbedOpenLocals) : Steady (do
      outer (outer (xiSafeFree l.2.posCommData))
      if l.2.conn.isSome then outer (outer (xiSafeFree l.2.address))
      outer (outer (xiSafeFree l.2.conn)) : Proc XiErr (MbedKernel × MbedOpenLocals) Unit) := by
    refine (steady_xiSafeFree _).outer.outer.bind fun _ => ?_
    by_cases hconn : l.2.conn.isSome
    · rw [if_pos hconn]
      exact (steady_xiSafeFree _).outer.outer.bind fun _ => (steady_xiSafeFree _).outer.outer
    · rw [if_neg hconn]
      exact (steady_xiSafeFree _).outer.outer
  refine Steady.bind (fun s => ⟨s, s, fun _ => rfl⟩) fun l => ?_
  by_cases hdata : l.2.posCommData.isSome
  · rw [if_pos hdata]
    cases l.2.socketPtr with
    | none => exact (steady_modify _).outer.bind fun _ => hrest l
    | some p => exact (steady_xiSafeFree _).outer.outer.bind fun _ => hrest l
  · rw [if_neg hdata]
    exact hrest l

lemma blind_openBody : Blind (mbedOpenBody sys) := by
  refine (steady_xiAlloc sys).outer.outer.blind fun socketPtr => ?_
  refine blind_checkZero _ (by decide) fun socketPtr => ?_
  refine (steady_xiAlloc sys).outer.outer.blind fun posCommData => ?_
  refine (steady_assign _).blind fun _ => ?_
  refine blind_checkZero _ (by decide) fun layerSpecific => ?_
  refine (steady_xiAlloc sys).outer.outer.blind fun conn => ?_
  refine (steady_assign _).blind fun _ => ?_
  refine blind_checkZero _ (by decide) fun block => ?_
  refine (steady_xiAlloc sys).outer.outer.blind fun address => ?_
  refine (steady_assign _).blind fun _ => ?_
  refine blind_checkZero _ (by decide) fun address => ?_
  refine (steady_assign _).blind fun _ => ?_
  refine (steady_socket _).outer.outer.blind fun s => ?_
  refine blind_checkZero _ (by decide) fun socketFd => ?_
  exact fun s => .inl ⟨_, s, fun _ => rfl⟩

lemma open_reports (a : Text) (p : ℕ) : Reports (mbedOpenConnection sys a p) (· = none) :=
  (blind_openBody sys).reports steady_openCleanup _

/-- The kernel behind a close: everything is released. -/
def mbedClosed (conn : MbedConnection) (k : Kernel) : Kernel :=
  { k with
    calls := k.calls + 1
    blocks := (((k.blocks.erase conn.socketPtr).erase conn.address).erase
      conn.layerSpecific).erase conn.block
    sockets := k.sockets.erase conn.socketFd }

lemma close_run (conn : MbedConnection) (w : MbedKernel) (e : XiErr) :
    mbedCloseConnection sys conn e w =
      .ret () (if sys.close w.1.calls then e else .socketCloseError)
        (mbedClosed conn w.1, w.2) := by
  cases hclose : sys.close w.1.calls <;>
    simp [mbedCloseConnection, close, sysCall, errHandling, xiSafeFree, outer, focus, mbedClosed,
      hclose]

lemma close_reports (conn : MbedConnection) : MayReport (mbedCloseConnection sys conn) := by
  intro w
  refine ⟨if sys.close w.1.calls then none else some .socketCloseError,
    (mbedClosed conn w.1, w.2), ?_, fun e => ?_⟩
  · split <;> decide
  · rw [close_run]
    split <;> rfl

/-- The mbed layer over a system. -/
def mbedLayer : CommLayer where
  World := MbedKernel
  Conn := MbedConnection
  openConnection := mbedOpenConnection sys
  sendData := mbedSendData sys
  readData := mbedReadData sys
  closeConnection := mbedCloseConnection sys
  delivers _ w := sys.read w.1.calls
  open_reports := open_reports sys
  send_reports c t := reports_outer (send_reports sys c.toConnection t)
  read_some {c w d} h := by
    obtain ⟨k', hrun⟩ := @read_some sys c.toConnection w.1 d h
    exact ⟨(k', w.2), fun e =>
      (focus_ret (hrun e) : outer (posixReadData sys c.toConnection) e w = _)⟩
  read_none {c w} h := by
    obtain ⟨x, b, k', hx, hrun⟩ := @read_none sys c.toConnection w.1 h
    exact ⟨x, b, (k', w.2), hx, fun e =>
      (focus_ret (hrun e) : outer (posixReadData sys c.toConnection) e w = _)⟩
  close_reports := close_reports sys

end Layer

/-! ### What an attempt leaves -/

variable {sys : System} {a : Text} {p : ℕ} {w w' : MbedKernel} {conn : MbedConnection}
  {e x : XiErr}

/-- All calls of an attempt succeed that starts with the `n`-th call. -/
structure MbedOpens (sys : System) (n : ℕ) : Prop where
  object : sys.alloc n = true
  allocates : Allocates sys (n + 1)
  connect : sys.connect (n + 4) = true

/-- The connection of an attempt that starts with the `n`-th call. -/
def mbedConnectionAt (n : ℕ) : MbedConnection := ⟨⟨n + 2, n + 3, n + 1, n + 4⟩, n⟩

/-- The kernel with that connection open. -/
def mbedOpened (k : Kernel) : Kernel :=
  { k with
    calls := k.calls + 5
    blocks := [k.calls + 3, k.calls + 2, k.calls + 1, k.calls] ++ k.blocks
    sockets := (k.calls + 4) :: k.sockets }

lemma open_some (h : MbedOpens sys w.1.calls) : mbedOpenConnection sys a p e w =
    .ret (some (mbedConnectionAt w.1.calls)) e (mbedOpened w.1, w.2) := by
  simp [mbedOpenConnection, withLocals, errCleanup, mbedOpenBody, newTcpSocketConnection, xiAlloc,
    MbedComm.connect, socket, outer, focus, assign, mbedConnectionAt, mbedOpened, h.object,
    h.allocates.1, h.allocates.2.1, h.allocates.2.2, h.connect]

lemma erase_objects (n : ℕ) (bs : List ℕ) :
    (((([n + 3, n + 2, n + 1, n] ++ bs).erase n).erase (n + 1)).erase (n + 3)).erase (n + 2) =
      bs := by simp

lemma open_noObject (h : sys.alloc w.1.calls = false) : mbedOpenConnection sys a p e w =
    .ret none .outOfMemory ({ w.1 with calls := w.1.calls + 1 }, w.2) := by
  simp [mbedOpenConnection, withLocals, errCleanup, mbedOpenBody, mbedOpenCleanup,
    newTcpSocketConnection, xiAlloc, xiSafeFree, outer, focus, h]

/-- Nothing deletes the socket object in front of the place that writes its pointer. -/
lemma open_noBlocks (h : sys.alloc w.1.calls = true) (hno : ¬ Allocates sys (w.1.calls + 1)) :
    ∃ c b, mbedOpenConnection sys a p e w = .ret none .outOfMemory
      ({ w.1 with calls := c, blocks := w.1.calls :: w.1.blocks }, b) := by
  unfold mbedOpenConnection withLocals errCleanup mbedOpenBody newTcpSocketConnection
  cases h1 : sys.alloc (w.1.calls + 1) with
  | false =>
    exact ⟨w.1.calls + 2, w.2, by
      simp [mbedOpenCleanup, xiAlloc, xiSafeFree, outer, focus, assign, h, h1]⟩
  | true =>
    cases h2 : sys.alloc (w.1.calls + 2) with
    | false =>
      exact ⟨w.1.calls + 3, true, by
        simp [mbedOpenCleanup, xiAlloc, xiSafeFree, outer, focus, assign, h, h1, h2]⟩
    | true =>
      cases h3 : sys.alloc (w.1.calls + 3) with
      | false =>
        exact ⟨w.1.calls + 4, true, by
          simp [mbedOpenCleanup, xiAlloc, xiSafeFree, outer, focus, assign, h, h1, h2, h3]⟩
      | true => exact absurd ⟨h1, h2, h3⟩ hno

lemma open_refused (h : sys.alloc w.1.calls = true) (hblocks : Allocates sys (w.1.calls + 1))
    (hno : sys.connect (w.1.calls + 4) = false) : mbedOpenConnection sys a p e w =
      .ret none .socketConnectionError ({ w.1 with calls := w.1.calls + 5 }, w.2) := by
  obtain ⟨h1, h2, h3⟩ := hblocks
  have herase := erase_objects w.1.calls w.1.blocks
  simp only [List.cons_append, List.nil_append] at herase
  simp [mbedOpenConnection, withLocals, errCleanup, mbedOpenBody, mbedOpenCleanup,
    newTcpSocketConnection, xiAlloc, MbedComm.connect, socket, xiSafeFree, outer, focus, assign, h,
    h1, h2, h3, hno, herase]

/-- What an attempt without a connection leaves behind. -/
lemma open_none (h : mbedOpenConnection sys a p e w = .ret none x w') :
    (sys.alloc w.1.calls = true ∧ ¬ Allocates sys (w.1.calls + 1) ∧
        w'.1.blocks = w.1.calls :: w.1.blocks) ∨
      ((sys.alloc w.1.calls = true → Allocates sys (w.1.calls + 1)) ∧
        ∃ c, w' = ({ w.1 with calls := c }, w.2)) := by
  by_cases h0 : sys.alloc w.1.calls = true
  · by_cases hblocks : Allocates sys (w.1.calls + 1)
    · by_cases hconnect : sys.connect (w.1.calls + 4) = true
      · rw [open_some ⟨h0, hblocks, hconnect⟩] at h
        cases h
      · rw [open_refused h0 hblocks (by simpa using hconnect)] at h
        injection h with _ _ hw
        exact .inr ⟨fun _ => hblocks, _, hw.symm⟩
    · obtain ⟨c, b, hrun⟩ := @open_noBlocks sys a p w e h0 hblocks
      rw [hrun] at h
      injection h with _ _ hw
      subst hw
      exact .inl ⟨h0, hblocks, rfl⟩
  · rw [open_noObject (by simpa using h0)] at h
    injection h with _ _ hw
    exact .inr ⟨fun h => absurd h h0, _, hw.symm⟩

lemma open_conn (h : mbedOpenConnection sys a p e w = .ret (some conn) x w') :
    MbedOpens sys w.1.calls ∧ conn = mbedConnectionAt w.1.calls ∧
      w' = (mbedOpened w.1, w.2) := by
  by_cases h0 : sys.alloc w.1.calls = true
  · by_cases hblocks : Allocates sys (w.1.calls + 1)
    · by_cases hconnect : sys.connect (w.1.calls + 4) = true
      · have hopens : MbedOpens sys w.1.calls := ⟨h0, hblocks, hconnect⟩
        rw [open_some hopens] at h
        injection h with hconn _ hw
        exact ⟨hopens, (Option.some.inj hconn).symm, hw.symm⟩
      · rw [open_refused h0 hblocks (by simpa using hconnect)] at h
        cases h
    · obtain ⟨c, b, hrun⟩ := @open_noBlocks sys a p w e h0 hblocks
      rw [hrun] at h
      cases h
  · rw [open_noObject (by simpa using h0)] at h
    cases h

end LibXively.MbedLayer
