import LibXively.Api.Layers
import LibXively.Api.Ledgers
import LibXively.Comm.Footprint

/-!
The communication layers as stacks: a layer, the kernel below it, and what the layer does to that
kernel.

The API functions are the same over each stack. Whatever is live when one of them is called is
still live when it returns.
-/

namespace LibXively.Stacks

open LibXively.Bytes LibXively.CProc LibXively.CharArray LibXively.Structures LibXively.FreshNames
open LibXively.Triples LibXively.HttpQueries LibXively.CommLayers LibXively.Xively
open LibXively.PosixComm LibXively.PosixLayer LibXively.PosixCalls LibXively.NqLayer
open LibXively.MbedComm LibXively.MbedLayer LibXively.DummyComm LibXively.DummyLayer
open LibXively.Footprint LibXively.Runs LibXively.Exchanges LibXively.Calls LibXively.Traffic
open LibXively.Layers LibXively.Ledgers

/-- A communication layer on top of the kernel. Its functions only touch what was made since any
earlier kernel, and an exchange over it restores what is held exactly if it is tidy. -/
structure Stack where
  sys : System
  comm : CommLayer
  kernel : comm.World → Kernel
  setKernel : Kernel → comm.World → comm.World
  /-- whether the program has left the language -/
  wild : comm.World → Bool
  /-- an exchange that starts with the `n`-th call gives back what it acquires -/
  Tidy : ℕ → Text → Prop
  /-- a connection consists of what was made since -/
  Owns : Kernel → comm.Conn → comm.World → Prop
  setKernel_kernel : ∀ w, setKernel (kernel w) w = w
  kernel_setKernel : ∀ k w, kernel (setKernel k w) = k
  wild_setKernel : ∀ k w, wild (setKernel k w) = wild w
  open_since : ∀ {k₀ : Kernel} {a p}, Kernel.Sound k₀ →
    Triple (Came k₀ kernel) (comm.openConnection a p)
      (fun c e w => Came k₀ kernel e w ∧ ∀ x ∈ c, Owns k₀ x w) (Came k₀ kernel)
  send_since : ∀ {k₀ : Kernel} {c d},
    Invariant (fun e w => Came k₀ kernel e w ∧ Owns k₀ c w) (comm.sendData c d)
  read_since : ∀ {k₀ : Kernel} {c},
    Invariant (fun e w => Came k₀ kernel e w ∧ Owns k₀ c w) (comm.readData c)
  close_since : ∀ {k₀ : Kernel} {c}, Kernel.Sound k₀ →
    Triple (fun e w => Came k₀ kernel e w ∧ Owns k₀ c w) (comm.closeConnection c)
      (fun _ => Came k₀ kernel) (Came k₀ kernel)
  tidy : ∀ {data w o conn w₁ y w'}, Exchanged comm data w o conn w₁ → Closing comm conn w₁ y w' →
    ((held (kernel w'), wild w') = (held (kernel w), wild w) ↔ Tidy (kernel w).calls data)

/-! ### The four layers -/

variable (sys : System)

def posixStack : Stack where
  sys := sys
  comm := posixLayer sys
  kernel k := k
  setKernel k _ := k
  wild _ := false
  Tidy n data := Layer.posix.Tidy sys n data
  Owns := Footprint.Owns
  setKernel_kernel _ := rfl
  kernel_setKernel _ _ := rfl
  wild_setKernel _ _ := rfl
  open_since hk := came_opening hk opening_posix
  send_since := connected_send
  read_since := connected_read
  close_since hk := came_posixClose hk
  tidy h hc := @exchange_ledger sys _ _ _ .posix _ _ _ _ h hc

def nqStack : Stack where
  sys := sys
  comm := nqLayer sys
  kernel k := k
  setKernel k _ := k
  wild _ := false
  Tidy n data := Layer.nq.Tidy sys n data
  Owns := Footprint.Owns
  setKernel_kernel _ := rfl
  kernel_setKernel _ _ := rfl
  wild_setKernel _ _ := rfl
  open_since hk := came_opening hk opening_nq
  send_since := connected_send
  read_since := connected_read
  close_since hk := came_nqClose hk
  tidy h hc := @exchange_ledger sys _ _ _ .nq _ _ _ _ h hc

def mbedStack : Stack where
  sys := sys
  comm := mbedLayer sys
  kernel := Prod.fst
  setKernel k w := (k, w.2)
  wild := Prod.snd
  Tidy n data := Layer.mbed.Tidy sys n data
  Owns k₀ c w := MbedOwns k₀ c w.1
  setKernel_kernel _ := rfl
  kernel_setKernel _ _ := rfl
  wild_setKernel _ _ := rfl
  open_since {_ a p} hk := came_mbedOpening hk a p
  send_since := connected_outer connected_send
  read_since := connected_outer connected_read
  close_since hk := came_mbedClose hk
  tidy h hc := @exchange_ledger sys _ _ _ .mbed _ _ _ _ h hc

/-- Whatever memory runs out, an exchange over the dummy layer leaves nothing behind. -/
lemma dummy_tidy {data : Text} {o : Bool} {y : Option XiErr} {k k' : Kernel}
    {k₁ : (dummyLayer sys).World} {conn : Option (dummyLayer sys).Conn}
    (h : Exchanged (dummyLayer sys) data k o conn k₁)
    (hc : Closing (dummyLayer sys) conn k₁ y k') : held k' = held k := by
  rcases @Exchanged.opened (dummyLayer sys) k k₁ data o conn _ id
    (fun _ _ _ _ _ _ _ h => (Outcome.ret.inj h).2.2.symm)
    (fun _ _ _ _ _ _ h => (Outcome.ret.inj h).2.2.symm) h with
    ⟨rfl, x, hopen⟩ | ⟨c, k₂, rfl, hopen, hsame⟩
  · obtain rfl : k' = k₁ := hc.2
    exact @DummyLayer.open_none sys xiHost xiPort k _ _ _ (hopen .noErr)
  · obtain ⟨rfl, rfl⟩ := @DummyLayer.open_conn sys xiHost xiPort k _ _ _ _ (hopen .noErr)
    obtain rfl : k₁ = dummyOpened k := hsame
    have hk := (Outcome.ret.inj (hc.2 .noErr)).2.2
    rw [← hk]
    exact close_opened

def dummyStack : Stack where
  sys := sys
  comm := dummyLayer sys
  kernel k := k
  setKernel k _ := k
  wild _ := false
  Tidy _ _ := True
  Owns k₀ c _ := DummyOwns k₀ c
  setKernel_kernel _ := rfl
  kernel_setKernel _ _ := rfl
  wild_setKernel _ _ := rfl
  open_since hk := came_opening hk opening_dummy
  send_since := Triple.pure fun _ _ h => h
  read_since := Triple.pure fun _ _ h => h
  close_since hk := fun e k h =>
    came_free hk h.2.layerSpecific h.2.address h.2.block e k h.1
  tidy h hc := iff_of_true (Prod.ext (dummy_tidy sys h hc) rfl) trivial

/-! ### One call -/

section Call

variable {st : Stack} {tg : Target} {k₀ : Kernel} {δ : Type} {dest : δ}
  {request : Proc XiErr (Statics tg) (Option Text)} {decode : Option (Text → Proc XiErr δ Bool)}

/-- An assertion on the layer below and the connection of a call. -/
abbrev Below (st : Stack) : Type := st.comm.World → Option st.comm.Conn → Prop

/-- The assertion, of a call. -/
def Below.of (tg : Target) (δ : Type) (P : Below st) :
    Assertion XiErr (Process tg st.comm × Frame st.comm δ) := fun _ p => P p.1.world p.2.conn

/-- The kernel has come here from `k₀`, and so has the connection. -/
def calling (k₀ : Kernel) : Below st := fun w conn =>
  Since k₀ (st.kernel w) ∧ ∀ c ∈ conn, st.Owns k₀ c w

lemma triple_onWorld {α : Type} {m : Proc XiErr st.comm.World α} {P J : Below st}
    {Q : α → Below st} (h : ∀ conn, Triple (fun _ w => P w conn) m (fun a _ w => Q a w conn)
      (fun _ w => J w conn)) :
    Triple (P.of tg δ) (outer (onWorld m)) (fun a => (Q a).of tg δ) (J.of tg δ) :=
  Triple.outer fun f => Triple.focus fun p => (h f.conn).conseq
    (fun _ w hp => by obtain ⟨rfl, hp⟩ := hp; exact hp) (fun _ _ _ hq => hq) fun _ _ hj => hj

lemma triple_jumpIf {P : Below st} {c : Prop} [Decidable c] :
    Triple (P.of tg δ) (jumpIf c) (fun _ => P.of tg δ) (P.of tg δ) := by
  unfold jumpIf
  by_cases hc : c
  · rw [if_pos hc]
    exact Triple.jump fun _ _ h => h
  · rw [if_neg hc]
    exact Triple.pure fun _ _ h => h

/-- An exchange that starts without a connection. -/
lemma calling_exchange (hk : Kernel.Sound k₀) (data : Text) :
    Triple (Below.of tg δ fun w conn => Since k₀ (st.kernel w) ∧ conn = none)
      (exchange data) (fun _ => (calling k₀).of tg δ) ((calling k₀).of tg δ) := by
  have hopen : Triple (Below.of tg δ fun w conn => Since k₀ (st.kernel w) ∧ conn = none)
      (outer (onWorld (st.comm.openConnection xiHost xiPort)))
      (fun c => Below.of tg δ fun w conn => Since k₀ (st.kernel w) ∧ conn = none ∧
        ∀ x ∈ c, st.Owns k₀ x w) ((calling k₀).of tg δ) :=
    triple_onWorld fun conn e w h => by
      obtain ⟨hsince, rfl⟩ := h
      exact ((st.open_since hk).conseq (fun _ _ h => h) (fun _ _ _ h => ⟨h.1, rfl, h.2⟩)
        fun _ _ h => ⟨h, by simp⟩) e w hsince
  refine hopen.bind fun c => ?_
  cases c with
  | none => exact fun e p h => ⟨h.1, by rw [h.2.1]; simp⟩
  | some c =>
    -- from here on the connection is there
    let I : Below st := fun w conn => conn = some c ∧ calling k₀ w conn
    have hassign : Triple (Below.of tg δ fun w conn => Since k₀ (st.kernel w) ∧ conn = none ∧
        ∀ x ∈ some c, st.Owns k₀ x w) (assign fun f => { f with conn := some c })
        (fun _ => I.of tg δ) (I.of tg δ) :=
      Triple.assign fun _ _ _ h => ⟨rfl, h.1, h.2.2⟩
    have hmove {α : Type} {m : Proc XiErr st.comm.World α}
        (h : Invariant (fun e w => Came k₀ st.kernel e w ∧ st.Owns k₀ c w) m) :
        Triple (I.of tg δ) (outer (onWorld m)) (fun _ => I.of tg δ) (I.of tg δ) := by
      refine triple_onWorld fun conn e w h' => ?_
      obtain ⟨rfl, hsince, hown⟩ := h'
      have hthere (e : XiErr) (w : st.comm.World)
          (h : Came k₀ st.kernel e w ∧ st.Owns k₀ c w) : I w (some c) :=
        ⟨rfl, h.1, by rintro x ⟨⟩; exact h.2⟩
      exact (h.conseq (fun _ _ h => h) (fun _ => hthere) hthere) e w ⟨hsince, hown c rfl⟩
    have hrest : Triple (I.of tg δ) (do
        let sent ← outer (onWorld (st.comm.sendData c data))
        jumpIf (sent = -1)
        let recv ← outer (onWorld (st.comm.readData c))
        jumpIf (recv.1 = -1)
        return recv.2) (fun _ => I.of tg δ) (I.of tg δ) :=
      (hmove st.send_since).bind fun sent => triple_jumpIf.bind fun _ =>
        (hmove st.read_since).bind fun recv => triple_jumpIf.bind fun _ =>
          Triple.pure fun _ _ h => h
    have hforget (e : XiErr) (p : Process tg st.comm × Frame st.comm δ) (h : I.of tg δ e p) :
        (calling k₀).of tg δ e p := h.2
    have hall := Triple.bind (hassign.conseq (fun _ _ h => h) (fun _ _ _ h => h) hforget) fun _ =>
      hrest.conseq (fun _ _ h => h) (fun _ => hforget) hforget
    exact hall

/-- What is live when an API function is called is still live when it returns, and its transfers
go over a descriptor of its own. -/
lemma xiFunction_since (hk : Kernel.Sound k₀) :
    Triple (Came k₀ fun p : Process tg st.comm => st.kernel p.world)
      (xiFunction request decode dest) (fun _ => Came k₀ fun p => st.kernel p.world)
      (Came k₀ fun p => st.kernel p.world) := by
  let I : Below st := fun w conn => Since k₀ (st.kernel w) ∧ conn = none
  have hkeeps {α : Type} {m : Proc XiErr (Process tg st.comm × Frame st.comm δ) α}
      (h : Keeps below m) (P : Below st) : Triple (P.of tg δ) m (fun _ => P.of tg δ) (P.of tg δ) :=
    Triple.of_keeps h fun b => P b.1 b.2
  have hforget (e : XiErr) (p : Process tg st.comm × Frame st.comm δ) (h : I.of tg δ e p) :
      (calling k₀).of tg δ e p := ⟨h.1, by rw [h.2]; simp⟩
  have hattempt : Triple (I.of tg δ) (attempt request decode) (fun _ => (calling k₀).of tg δ)
      ((calling k₀).of tg δ) := by
    rw [attempt_eq]
    refine Triple.bind ((hkeeps (keeps_onStatics request) I).conseq (fun _ _ h => h)
      (fun _ _ _ h => h) hforget) fun data => ?_
    refine Triple.bind (Q := fun _ => I.of tg δ)
      (Triple.orJump (fun _ _ _ _ h => h) fun e p _ h => hforget e p h) fun data => ?_
    exact (calling_exchange hk data).bind fun buffer => hkeeps (keeps_consume decode buffer) _
  have hepilogue : Triple ((calling k₀).of tg δ) xiFunctionEpilogue
      (fun _ _ p => Since k₀ (st.kernel p.1.world)) fun _ p => Since k₀ (st.kernel p.1.world) := by
    refine Triple.get fun p => ?_
    obtain ⟨p, conn, response, d⟩ := p
    cases conn with
    | none => exact fun e _ h => h.2.1
    | some c =>
      have hclose : Triple (Below.of tg δ fun w conn => conn = some c ∧ calling k₀ w conn)
          (outer (onWorld (st.comm.closeConnection c)))
          (fun _ => Below.of tg δ fun w _ => Since k₀ (st.kernel w))
          (Below.of tg δ fun w _ => Since k₀ (st.kernel w)) :=
        triple_onWorld fun conn e w h => by
          obtain ⟨rfl, hsince, hown⟩ := h
          exact st.close_since hk e w ⟨hsince, hown c rfl⟩
      rintro e _ ⟨rfl, h⟩
      have hall : Triple (Below.of tg δ fun w conn => conn = some c ∧ calling k₀ w conn)
          (outer (onWorld (st.comm.closeConnection c)) >>= fun _ => pure (response, d))
          (fun _ _ p => Since k₀ (st.kernel p.1.world))
          (Below.of tg δ fun w _ => Since k₀ (st.kernel w)) :=
        hclose.bind fun _ => Triple.pure fun _ _ h => h
      exact hall e _ ⟨rfl, h⟩
  refine Triple.withLocals (Triple.conseq ((hattempt.errHandling fun _ _ h => h).bind fun _ =>
    hepilogue) (fun e p h => ?_) (fun _ _ _ h => h) fun _ _ h => h)
  exact ⟨h.2, by rw [h.1]⟩

/-- A call of the API leaves what was live alone. -/
lemma run_since {c : ApiCall} {e e' : XiErr} {v : Bool} {p p' : Process tg st.comm}
    (hk : Kernel.Sound (st.kernel p.world)) (h : c.run e p = .ret v e' p') :
    Since (st.kernel p.world) (st.kernel p'.world) := by
  obtain ⟨δ, decode, dest, hrun⟩ := @run_function tg st.comm c
  have hcall : Triple (Came (st.kernel p.world) fun p : Process tg st.comm => st.kernel p.world)
      c.run (fun _ => Came (st.kernel p.world) fun p => st.kernel p.world)
      (Came (st.kernel p.world) fun p => st.kernel p.world) := by
    rw [hrun, map_eq_pure_bind]
    exact (xiFunction_since hk).bind fun _ => Triple.pure fun _ _ h => h
  exact hcall.ret (Since.refl _) h

lemma makes_unique {c : ApiCall} {e : XiErr} {l : Statics tg} {data data' : Text}
    (h : Makes tg c e l data) (h' : Makes tg c e l data') : data' = data := by
  obtain ⟨e₁, l₁, hrun⟩ := h
  obtain ⟨e₂, l₂, hrun'⟩ := h'
  exact Option.some.inj (Outcome.ret.inj (hrun'.symm.trans hrun)).1

/-- A call restores what is held exactly if the exchange of its request does. -/
lemma run_ledger {c : ApiCall} {e e' : XiErr} {v : Bool} {p p' : Process tg st.comm}
    (h : c.run e p = .ret v e' p') :
    (held (st.kernel p'.world), st.wild p'.world) = (held (st.kernel p.world), st.wild p.world) ↔
      ∀ data, Makes tg c e p.statics data → st.Tidy (st.kernel p.world).calls data := by
  obtain ⟨l, w⟩ := p
  rcases run_traffic h with ⟨hnone, hw, -⟩ | ⟨data, o, conn, w₁, y, hmakes, hexchanged, hclosing, -⟩
  · refine iff_of_true (by rw [hw]) ?_
    rintro data ⟨e₁, l₁, hrun⟩
    rcases hnone with ⟨l₂, hno⟩ | ⟨l₂, hno⟩
    · exact absurd (Outcome.ret.inj (hrun.symm.trans hno)).1 (Option.some_ne_none _)
    · rw [hrun] at hno
      cases hno
  · rw [st.tidy hexchanged hclosing]
    constructor
    · intro htidy data' hmakes'
      rw [makes_unique hmakes hmakes']
      exact htidy
    · exact fun htidy => htidy data hmakes

end Call

/-! ### Runs -/

section Runs

variable {st : Stack} {tg : Target} {p p₁ p₂ : Process tg st.comm}

/-- A call that comes back, with the program still inside the language. -/
def Stays (p : Process tg st.comm) (i : Visit) (p' : Process tg st.comm) : Prop :=
  Performs p i p' ∧ st.wild p'.world = false

lemma calls_since {is : List Visit} (hk : Kernel.Sound (st.kernel p.world))
    (h : Run Stays p is p₁) : Since (st.kernel p.world) (st.kernel p₁.world) := by
  let R (p p' : Process tg st.comm) : Prop := Since (st.kernel p.world) (st.kernel p'.world)
  have hstep {p p' : Process tg st.comm} {i : Visit}
      (hk : Kernel.Sound (st.kernel p.world)) (h : Stays p i p') : R p p' :=
    run_since hk (performs_run h.1)
  refine @Run.related _ _ Stays _ _ _ (fun p => Kernel.Sound (st.kernel p.world)) R ?_
    (fun _ => Since.refl _) (fun h h' => Since.trans h h') hstep h hk
  exact fun hk h => (hstep hk h).sound hk

/-- **Calls are apart**: of two stretches of calls one behind the other, over any layer and as long
as no pointer is deleted that nobody had written, the second moves no bytes over a connection the
first has used or has left open, and frees and closes nothing that was live in front of it. -/
theorem calls_apart {is is' : List Visit} (hk : Kernel.Sound (st.kernel p.world))
    (h : Run Stays p is p₁) (h' : Run Stays p₁ is' p₂) :
    ∃ made made', (st.kernel p₁.world).transfers = made ++ (st.kernel p.world).transfers ∧
      (st.kernel p₂.world).transfers = made' ++ (st.kernel p₁.world).transfers ∧
      (∀ t' ∈ made', Transfer.fd t' ∉ (st.kernel p₁.world).sockets ∧
        ∀ t ∈ made, Transfer.fd t' ≠ Transfer.fd t) ∧
      (st.kernel p₁.world).blocks <:+ (st.kernel p₂.world).blocks ∧
      (st.kernel p₁.world).sockets <:+ (st.kernel p₂.world).sockets := by
  have hfirst := calls_since hk h
  have hk' := hfirst.sound hk
  have hsecond := calls_since hk' h'
  obtain ⟨made, hmade, hrange⟩ := hfirst.transfers
  obtain ⟨made', hmade', hrange'⟩ := hsecond.transfers
  obtain ⟨kept, hblocks, -⟩ := hsecond.blocks
  obtain ⟨kept', hsockets, -⟩ := hsecond.sockets
  refine ⟨made, made', hmade, hmade', fun t' ht' => ⟨fun hopen => ?_, fun t ht => ?_⟩,
    ⟨kept, hblocks.symm⟩, ⟨kept', hsockets.symm⟩⟩
  · have hlow := (hrange' t' ht').1
    have hhigh := hk'.sockets.2 _ hopen
    omega
  · have hlow := (hrange' t' ht').1
    have hhigh := (hrange t ht).2
    omega

theorem calls_apart_twice : ∃ x x', ∃ p₁ p₂ : Process posixConfig (posixStack peers).comm,
    Run (@Stays (posixStack peers) posixConfig) ⟨.fresh posixConfig, Kernel.start⟩
      [(.noErr, deleteCall, (true, .nothing), x)] p₁ ∧
    Run (@Stays (posixStack peers) posixConfig) p₁
      [(.noErr, deleteCall, (true, .nothing), x')] p₂ ∧
    ∃ made made', p₁.world.transfers = made ++ Kernel.start.transfers ∧
      p₂.world.transfers = made' ++ p₁.world.transfers ∧
      (∀ t' ∈ made', Transfer.fd t' ∉ p₁.world.sockets ∧
        ∀ t ∈ made, Transfer.fd t' ≠ Transfer.fd t) ∧
      p₁.world.blocks <:+ p₂.world.blocks ∧ p₁.world.sockets <:+ p₂.world.sockets := by
  obtain ⟨x, p₁, h₁⟩ := deleteCall_performs ⟨.fresh posixConfig, Kernel.start⟩
  obtain ⟨x', p₂, h₂⟩ := deleteCall_performs p₁
  have hrun : Run (@Stays (posixStack peers) posixConfig) _ _ p₁ := .cons ⟨h₁, rfl⟩ (.nil p₁)
  have hrun' : Run (@Stays (posixStack peers) posixConfig) _ _ p₂ := .cons ⟨h₂, rfl⟩ (.nil p₂)
  have hstart : Kernel.Sound ((posixStack peers).kernel Kernel.start) := Kernel.sound_start
  exact ⟨x, x', p₁, p₂, hrun, hrun', @calls_apart (posixStack peers) posixConfig
    ⟨.fresh posixConfig, Kernel.start⟩ _ _ _ _ hstart hrun hrun'⟩

end Runs

end LibXively.Stacks
