import LibXively.Api.Exchanges
import LibXively.Model.PosixComm

/-!
The POSIX layer is a communication layer.

None of its functions looks at the error variable, and each of them sets an error exactly where it
answers with a failure.
-/

namespace LibXively.PosixLayer

open LibXively.Bytes LibXively.CProc LibXively.CharArray LibXively.Structures
open LibXively.CommLayers LibXively.PosixComm LibXively.Exchanges

section Blind

variable {σ τ α β : Type} {m : Proc XiErr σ α} {x : XiErr}

/-- The function comes back and has no part in errors. -/
def Steady (m : Proc XiErr σ α) : Prop := ∀ s, ∃ v s', ∀ e, m e s = .ret v e s'

/-- The function comes back with a value and leaves the error variable alone, or it sets an error
and comes back with nothing or jumps. -/
def Blind (m : Proc XiErr σ (Option β)) : Prop :=
  ∀ s, (∃ v s', ∀ e, m e s = .ret (some v) e s') ∨ ∃ x s', x ≠ .noErr ∧
    ((∀ e, m e s = .ret none x s') ∨ ∀ e, m e s = .goto x s')

lemma Steady.bind {f : α → Proc XiErr σ β} (hm : Steady m) (hf : ∀ a, Steady (f a)) :
    Steady (m >>= f) := by
  intro s
  obtain ⟨a, s₁, hrun⟩ := hm s
  obtain ⟨b, s₂, hrun'⟩ := hf a s₁
  exact ⟨b, s₂, fun e => (bind_ret (hrun e)).trans (hrun' e)⟩

lemma steady_pure (a : α) : Steady (pure a : Proc XiErr σ α) := fun s => ⟨a, s, fun _ => rfl⟩

lemma steady_modify (g : σ → σ) : Steady (modify g : Proc XiErr σ Unit) :=
  fun s => ⟨(), g s, fun _ => rfl⟩

lemma steady_assign (g : τ → τ) : Steady (assign g : Proc XiErr (σ × τ) Unit) := steady_modify _

lemma Steady.outer (hm : Steady m) : Steady (outer m : Proc XiErr (σ × τ) α) := by
  intro s
  obtain ⟨v, s', hrun⟩ := hm s.1
  exact ⟨v, (s', s.2), fun e => focus_ret (hrun e)⟩

lemma Steady.blind {f : α → Proc XiErr σ (Option β)} (hm : Steady m) (hf : ∀ a, Blind (f a)) :
    Blind (m >>= f) := by
  intro s
  obtain ⟨a, s₁, hrun⟩ := hm s
  rcases hf a s₁ with ⟨v, s', hv⟩ | ⟨x, s', hx, hn | hg⟩
  · exact .inl ⟨v, s', fun e => (bind_ret (hrun e)).trans (hv e)⟩
  · exact .inr ⟨x, s', hx, .inl fun e => (bind_ret (hrun e)).trans (hn e)⟩
  · exact .inr ⟨x, s', hx, .inr fun e => (bind_ret (hrun e)).trans (hg e)⟩

lemma blind_checkCnd {c : Prop} [Decidable c] {f : Unit → Proc XiErr σ (Option β)}
    (hx : x ≠ .noErr) (hf : Blind (f ())) : Blind (checkCnd c x >>= f) := by
  intro s
  by_cases hc : c
  · exact .inr ⟨x, s, hx, .inr fun e => bind_goto (checkCnd_pos hc x e s)⟩
  · have hstep (e : XiErr) : (checkCnd c x >>= f) e s = f () e s :=
      bind_ret (checkCnd_neg hc x e s)
    simpa only [hstep] using hf s

lemma blind_checkZero {f : α → Proc XiErr σ (Option β)} (a : Option α) (hx : x ≠ .noErr)
    (hf : ∀ a, Blind (f a)) : Blind (checkZero a x >>= f) := by
  intro s
  cases a with
  | none => exact .inr ⟨x, s, hx, .inr fun e => bind_goto (checkZero_none x e s)⟩
  | some a => exact hf a s

/-- With its locals and a cleanup at its label, such a function reports. -/
lemma Blind.reports {m : Proc XiErr (σ × τ) (Option β)} {cleanup : Proc XiErr (σ × τ) Unit}
    (hm : Blind m) (hc : Steady cleanup) (locals : τ) :
    Reports (withLocals locals (errCleanup cleanup none m)) (· = none) := by
  intro s
  unfold withLocals errCleanup
  rcases hm (s, locals) with ⟨v, s', hv⟩ | ⟨x, s', hx, hn | hg⟩
  · exact ⟨some v, s'.1, .inl ⟨by simp, fun e => by simp [hv]⟩⟩
  · exact ⟨none, s'.1, .inr ⟨rfl, x, hx, fun e => by simp [hn]⟩⟩
  · obtain ⟨_, s'', hclean⟩ := hc s'
    exact ⟨none, s''.1, .inr ⟨rfl, x, hx, fun e => by simp [hg, hclean]⟩⟩

end Blind

/-! ### Opening -/

variable (sys : System)

lemma steady_xiAlloc : Steady (xiAlloc sys) := by
  intro k
  unfold xiAlloc
  split
  · exact ⟨_, _, fun e => rfl⟩
  · exact ⟨_, _, fun e => rfl⟩

lemma steady_xiSafeFree (block : Option ℕ) : Steady (xiSafeFree block) := by
  cases block with
  | none => exact steady_pure ()
  | some b => exact steady_modify _

lemma steady_socket : Steady (socket sys) := by
  intro k
  unfold socket
  split
  · exact ⟨_, _, fun e => rfl⟩
  · exact ⟨_, _, fun e => rfl⟩

lemma steady_sysCall {α : Type} (answer : ℕ → α) : Steady (sysCall answer) :=
  fun _ => ⟨_, _, fun _ => rfl⟩

lemma steady_openCleanup : Steady openCleanup := by
  refine Steady.bind (fun s => ⟨s, s, fun _ => rfl⟩) fun l => ?_
  refine (steady_xiSafeFree _).outer.bind fun _ => ?_
  by_cases hconn : l.2.conn.isSome
  · rw [if_pos hconn]
    exact (steady_xiSafeFree _).outer.bind fun _ => (steady_xiSafeFree _).outer
  · rw [if_neg hconn]
    exact (steady_xiSafeFree _).outer

lemma blind_openBody : Blind (openBody sys) := by
  refine (steady_xiAlloc sys).outer.blind fun posCommData => ?_
  refine (steady_assign _).blind fun _ => ?_
  refine blind_checkZero _ (by decide) fun layerSpecific => ?_
  refine (steady_xiAlloc sys).outer.blind fun conn => ?_
  refine (steady_assign _).blind fun _ => ?_
  refine blind_checkZero _ (by decide) fun block => ?_
  refine (steady_xiAlloc sys).outer.blind fun address => ?_
  refine (steady_assign _).blind fun _ => ?_
  refine blind_checkZero _ (by decide) fun address => ?_
  refine (steady_socket sys).outer.blind fun fd => ?_
  cases fd with
  | none =>
    exact fun s => .inr ⟨.socketInitializationError, s, by decide, .inl fun _ => rfl⟩
  | some fd =>
    refine (steady_sysCall _).outer.blind fun received => blind_checkCnd (by decide) ?_
    refine (steady_sysCall _).outer.blind fun sent => blind_checkCnd (by decide) ?_
    refine (steady_sysCall _).outer.blind fun hostinfo => blind_checkCnd (by decide) ?_
    refine (steady_sysCall _).outer.blind fun connected => blind_checkCnd (by decide) ?_
    exact fun s => .inl ⟨_, s, fun _ => rfl⟩

lemma open_reports (a : Text) (p : ℕ) : Reports (posixOpenConnection sys a p) (· = none) :=
  (blind_openBody sys).reports steady_openCleanup _

/-! ### Transfers -/

lemma send_reports (conn : Connection) (data : Text) :
    Reports (posixSendData sys conn data) (· = -1) := by
  intro k
  cases hw : sys.write k.calls data.length with
  | none =>
    exact ⟨-1, { k with calls := k.calls + 1 },
      .inr ⟨rfl, .socketWriteError, by decide, fun e => by simp [posixSendData, sysCall, hw]⟩⟩
  | some n =>
    refine ⟨n, { k with
      calls := k.calls + 1, transfers := .wrote conn.socketFd (data.take n) :: k.transfers },
      .inl ⟨by omega, fun e => by simp [posixSendData, sysCall, hw]⟩⟩

lemma read_some {conn : Connection} {k : Kernel} {d : Received} (h : sys.read k.calls = some d) :
    ∃ k', ∀ e, posixReadData sys conn e k = .ret (d.bytes.length, d.buffer) e k' :=
  ⟨{ k with calls := k.calls + 1, transfers := .reads conn.socketFd :: k.transfers },
    fun e => by simp [posixReadData, sysCall, h]⟩

lemma read_none {conn : Connection} {k : Kernel} (h : sys.read k.calls = none) :
    ∃ x b k', x ≠ .noErr ∧ ∀ e, posixReadData sys conn e k = .ret (-1, b) x k' :=
  ⟨.socketReadError, zero _,
    { k with calls := k.calls + 1, transfers := .reads conn.socketFd :: k.transfers }, by decide,
    fun e => by simp [posixReadData, sysCall, h]⟩

/-! ### Closing -/

/-- The kernel behind a close: two calls have been made, and everything is released. -/
def closed (conn : Connection) (k : Kernel) : Kernel where
  calls := k.calls + 2
  blocks := ((k.blocks.erase conn.layerSpecific).erase conn.address).erase conn.block
  sockets := k.sockets.erase conn.socketFd
  transfers := k.transfers

lemma close_reports (conn : Connection) : MayReport (posixCloseConnection sys conn) := by
  intro k
  cases hshutdown : sys.shutdown k.calls with
  | false =>
    refine ⟨some .socketShutdownError, closed conn k, by decide, fun e => ?_⟩
    simp [posixCloseConnection, sysCall, close, errHandling, xiSafeFree, hshutdown, closed]
  | true =>
    cases hclose : sys.close (k.calls + 1) with
    | false =>
      refine ⟨some .socketCloseError, closed conn k, by decide, fun e => ?_⟩
      simp [posixCloseConnection, sysCall, close, errHandling, xiSafeFree, hshutdown, hclose,
        closed]
    | true =>
      refine ⟨none, closed conn k, by decide, fun e => ?_⟩
      simp [posixCloseConnection, sysCall, close, errHandling, xiSafeFree, hshutdown, hclose,
        closed]

/-- The POSIX layer over a system. -/
def posixLayer : CommLayer where
  World := Kernel
  Conn := Connection
  openConnection := posixOpenConnection sys
  sendData := posixSendData sys
  readData := posixReadData sys
  closeConnection := posixCloseConnection sys
  delivers _ k := sys.read k.calls
  open_reports := open_reports sys
  send_reports := send_reports sys
  read_some := read_some sys
  read_none := read_none sys
  close_reports := close_reports sys

/-- A system whose calls all succeed, and whose reads all bring in the same bytes. -/
def answering (reply : Received) : System where
  alloc _ := true
  socket _ := true
  setsockopt _ := true
  gethostbyname _ := true
  connect _ := true
  write _ offered := some offered
  write_le h := (Option.some.inj h).ge
  read _ := some reply
  shutdown _ := true
  close _ := true

/-- The world of a process that has made no calls yet. -/
def freshWorld (sys : System) : (posixLayer sys).World := (⟨0, [], [], []⟩ : Kernel)

/-- Over such a system every request is answered. -/
lemma delivers_answering (reply : Received) (data : Text)
    (k : (posixLayer (answering reply)).World) :
    ∃ conn k', Delivers (posixLayer (answering reply)) data k conn reply k' := by
  have hopen : ∃ conn k₁, (posixLayer (answering reply)).openConnection Structures.xiHost
      Xively.xiPort .noErr k = .ret (some conn) .noErr k₁ := ⟨_, _, rfl⟩
  obtain ⟨conn, k₁, hopen⟩ := hopen
  have hsend : ∃ k₂, (posixLayer (answering reply)).sendData conn data .noErr k₁ =
      .ret (data.length : ℤ) .noErr k₂ := ⟨_, rfl⟩
  obtain ⟨k₂, hsend⟩ := hsend
  have hdelivers : (posixLayer (answering reply)).delivers conn k₂ = some reply := rfl
  obtain ⟨k', hread⟩ := (posixLayer (answering reply)).read_some hdelivers
  exact ⟨conn, k', k₁, data.length, k₂, hopen, hsend, by omega, hdelivers, hread _⟩

end LibXively.PosixLayer
