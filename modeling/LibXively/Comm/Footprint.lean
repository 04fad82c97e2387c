import LibXively.CLib.FreshNames
import LibXively.CLib.Triples
import LibXively.Comm.DummyLayer
import LibXively.Comm.MbedLayer
import LibXively.Comm.NqLayer

/-!
What the layers touch of the kernel.

A layer frees and closes what it has made itself, and moves bytes over descriptors it has opened
itself. What was live before a connection is opened is out of its reach.
-/

namespace LibXively.Footprint

open LibXively.Bytes LibXively.CProc LibXively.CharArray LibXively.Structures LibXively.FreshNames
open LibXively.Triples LibXively.CommLayers LibXively.PosixComm LibXively.NqComm
open LibXively.MbedComm LibXively.DummyComm

/-- The descriptor a transfer goes over. -/
def Transfer.fd : Transfer → ℕ
  | .wrote fd _ => fd
  | .reads fd => fd

/-- Blocks and descriptors are live once, under the name of the call that has made them. -/
structure Kernel.Sound (k : Kernel) : Prop where
  blocks : Live k.calls k.blocks
  sockets : Live k.calls k.sockets

/-- The kernel before the first call. -/
def Kernel.start : Kernel := ⟨0, [], [], []⟩

lemma Kernel.sound_start : Kernel.Sound Kernel.start :=
  ⟨⟨List.nodup_nil, by simp [Kernel.start]⟩, ⟨List.nodup_nil, by simp [Kernel.start]⟩⟩

/-- A descriptor that was opened since. -/
def InUse (k₀ : Kernel) (fd : ℕ) (k : Kernel) : Prop := k₀.calls ≤ fd ∧ fd < k.calls

/-- What has become of a kernel: all that is new in it was made since, and what was there is still
there. -/
structure Since (k₀ k : Kernel) : Prop where
  calls : k₀.calls ≤ k.calls
  blocks : Grown k₀.calls k.calls k₀.blocks k.blocks
  sockets : Grown k₀.calls k.calls k₀.sockets k.sockets
  transfers : ∃ made, k.transfers = made ++ k₀.transfers ∧
    ∀ t ∈ made, InUse k₀ (Transfer.fd t) k

lemma Since.refl (k : Kernel) : Since k k :=
  ⟨le_rfl, Grown.refl .., Grown.refl .., [], rfl, by simp⟩

lemma Since.trans {k₀ k₁ k₂ : Kernel} (h : Since k₀ k₁) (h' : Since k₁ k₂) : Since k₀ k₂ := by
  obtain ⟨made, hmade, hrange⟩ := h.transfers
  obtain ⟨made', hmade', hrange'⟩ := h'.transfers
  refine ⟨h.calls.trans h'.calls, h.blocks.trans h'.blocks h.calls h'.calls,
    h.sockets.trans h'.sockets h.calls h'.calls, made' ++ made, ?_, fun t ht => ?_⟩
  · rw [hmade', hmade, List.append_assoc]
  · rcases List.mem_append.mp ht with ht | ht
    · exact ⟨h.calls.trans (hrange' t ht).1, (hrange' t ht).2⟩
    · exact ⟨(hrange t ht).1, (hrange t ht).2.trans_le h'.calls⟩

lemma Since.sound {k₀ k : Kernel} (h : Since k₀ k) (hk : Kernel.Sound k₀) : Kernel.Sound k :=
  ⟨h.blocks.live hk.blocks h.calls, h.sockets.live hk.sockets h.calls⟩

/-! ### Calls -/

variable {k₀ : Kernel} {sys : System} {σ : Type}

/-- The kernel has come here from `k₀`. -/
def Came (k₀ : Kernel) (kernel : σ → Kernel) : Assertion XiErr σ := fun _ s => Since k₀ (kernel s)

/-- A name that was handed out since. -/
def Made (k₀ : Kernel) (o : Option ℕ) : Prop := ∀ b ∈ o, k₀.calls ≤ b

lemma Since.call {k : Kernel} (h : Since k₀ k) : Since k₀ { k with calls := k.calls + 1 } := by
  obtain ⟨made, hmade, hrange⟩ := h.transfers
  refine ⟨Nat.le_succ_of_le h.calls, h.blocks.mono (Nat.le_succ _), h.sockets.mono (Nat.le_succ _),
    made, hmade, fun t ht => ⟨(hrange t ht).1, Nat.lt_succ_of_lt (hrange t ht).2⟩⟩

lemma Since.transfer {k : Kernel} (h : Since k₀ k) {t : Transfer}
    (ht : InUse k₀ (Transfer.fd t) k) :
    Since k₀ { k with transfers := t :: k.transfers } := by
  obtain ⟨made, hmade, hrange⟩ := h.transfers
  refine ⟨h.calls, h.blocks, h.sockets, t :: made, ?_, List.forall_mem_cons.mpr ⟨ht, hrange⟩⟩
  rw [hmade, List.cons_append]

variable {J : Assertion XiErr Kernel}

lemma came_sysCall {α : Type} (answer : ℕ → α) :
    Triple (Came k₀ id) (sysCall answer) (fun _ => Came k₀ id) J :=
  fun _ _ h => Since.call h

lemma came_xiAlloc : Triple (Came k₀ id) (xiAlloc sys)
    (fun b e k => Came k₀ id e k ∧ Made k₀ b) J := by
  intro e k h
  unfold xiAlloc
  by_cases hb : sys.alloc k.calls = true
  · rw [if_pos hb]
    have hcall := Since.call h
    exact ⟨⟨hcall.calls, Grown.push h.blocks h.calls, hcall.sockets, hcall.transfers⟩,
      by rintro b ⟨⟩; exact h.calls⟩
  · rw [if_neg hb]
    exact ⟨Since.call h, by simp [Made]⟩

lemma came_socket : Triple (Came k₀ id) (socket sys)
    (fun fd e k => Came k₀ id e k ∧ ∀ n ∈ fd, InUse k₀ n k) J := by
  intro e k h
  unfold socket
  by_cases hb : sys.socket k.calls = true
  · rw [if_pos hb]
    have hcall := Since.call h
    exact ⟨⟨hcall.calls, hcall.blocks, Grown.push h.sockets h.calls, hcall.transfers⟩,
      by rintro n ⟨⟩; exact ⟨h.calls, Nat.lt_succ_self _⟩⟩
  · rw [if_neg hb]
    exact ⟨Since.call h, by simp⟩

lemma came_xiSafeFree (hk : Kernel.Sound k₀) {b : Option ℕ} (hb : Made k₀ b) :
    Triple (Came k₀ id) (xiSafeFree b) (fun _ => Came k₀ id) J := by
  cases b with
  | none => exact Triple.pure fun _ _ h => h
  | some b =>
    refine Triple.modify fun _ k h => ⟨h.calls, ?_, h.sockets, h.transfers⟩
    exact h.blocks.erase hk.blocks.2 (hb b rfl)

lemma came_close (hk : Kernel.Sound k₀) {fd : ℕ} (hfd : k₀.calls ≤ fd) :
    Triple (Came k₀ id) (close sys fd) (fun _ => Came k₀ id) J := by
  refine Triple.bind (Triple.modify fun _ k h => ?_) fun _ => came_sysCall _
  exact ⟨h.calls, h.blocks, h.sockets.erase hk.sockets.2 hfd, h.transfers⟩

/-! ### Opening -/

section Opening

variable {τ α β : Type} {kernel : σ → Kernel} {Own : τ → Prop}

/-- The kernel has come here from `k₀`, and so have the blocks the local variables name. -/
def Opening (k₀ : Kernel) (kernel : σ → Kernel) (Own : τ → Prop) : Assertion XiErr (σ × τ) :=
  fun _ s => Since k₀ (kernel s.1) ∧ Own s.2

lemma opening_outer {m : Proc XiErr σ α} {R : α → Kernel → Prop}
    (h : Triple (Came k₀ kernel) m (fun a e s => Came k₀ kernel e s ∧ R a (kernel s))
      (Came k₀ kernel)) :
    Triple (Opening k₀ kernel Own) (outer m)
      (fun a e s => Opening k₀ kernel Own e s ∧ R a (kernel s.1)) (Opening k₀ kernel Own) := by
  refine Triple.outer fun t e s hp => ?_
  have hmeets := h e s hp.1
  cases hm : m e s with
  | ret a e' s' => rw [hm] at hmeets; exact ⟨⟨hmeets.1, hp.2⟩, hmeets.2⟩
  | goto e' s' => rw [hm] at hmeets; exact ⟨hmeets, hp.2⟩
  | fault x => trivial

/-- One allocation of an attempt to open a connection, and the check behind it. -/
lemma opening_alloc {alloc : Proc XiErr σ (Option ℕ)} {g : Option ℕ → τ → τ} {x : XiErr}
    {f : ℕ → Proc XiErr (σ × τ) β} {Q : β → Assertion XiErr (σ × τ)}
    (halloc : Triple (Came k₀ kernel) alloc (fun b e s => Came k₀ kernel e s ∧ Made k₀ b)
      (Came k₀ kernel))
    (hg : ∀ b l, Made k₀ b → Own l → Own (g b l))
    (hf : ∀ b, k₀.calls ≤ b → Triple (Opening k₀ kernel Own) (f b) Q (Opening k₀ kernel Own)) :
    Triple (Opening k₀ kernel Own)
      (outer alloc >>= fun b => assign (g b) >>= fun _ => checkZero b x >>= f) Q
      (Opening k₀ kernel Own) := by
  have hassign (b : Option ℕ) : Triple
      (fun e s => Opening k₀ kernel Own e s ∧ Made k₀ b) (assign (g b))
      (fun _ e s => Opening k₀ kernel Own e s ∧ Made k₀ b) (Opening k₀ kernel Own) :=
    Triple.assign fun _ _ l h => ⟨⟨h.1.1, hg b l h.2 h.1.2⟩, h.2⟩
  refine (opening_outer (R := fun b _ => Made k₀ b) halloc).bind fun b =>
    (hassign b).bind fun _ => ?_
  cases b with
  | none => exact fun e s h => h.1
  | some b => exact fun e s h => hf b (h.2 b rfl) e s h.1

/-- The blocks the locals of `posix_open_connection` name were made since. -/
def OwnLocals (k₀ : Kernel) (l : OpenLocals) : Prop :=
  Made k₀ l.posCommData ∧ Made k₀ l.conn ∧ Made k₀ l.address

lemma ownLocals_start (k₀ : Kernel) :
    OwnLocals k₀ { posCommData := none, conn := none, address := none } := by
  simp [OwnLocals, Made]

/-- The blocks of a connection and its descriptor were made since. -/
structure Owns (k₀ : Kernel) (c : Connection) (k : Kernel) : Prop where
  block : k₀.calls ≤ c.block
  address : k₀.calls ≤ c.address
  layerSpecific : k₀.calls ≤ c.layerSpecific
  socketFd : InUse k₀ c.socketFd k

lemma opening_openCleanup (hk : Kernel.Sound k₀) : Triple (Opening k₀ id (OwnLocals k₀))
    openCleanup (fun _ _ s => Since k₀ s.1) (fun _ s => Since k₀ s.1) := by
  have hfree {b : Option ℕ} (hb : Made k₀ b) : Triple (fun _ s => Since k₀ s.1)
      (outer (xiSafeFree b) : Proc XiErr (Kernel × OpenLocals) Unit) (fun _ _ s => Since k₀ s.1)
      (fun _ s => Since k₀ s.1) :=
    Triple.outer fun _ => came_xiSafeFree hk hb
  refine Triple.get fun l => ?_
  rintro e s ⟨rfl, hsince, hdata, hconn, haddress⟩
  refine ((hfree hdata).bind fun _ => ?_) e s hsince
  by_cases hsome : s.2.conn.isSome
  · rw [if_pos hsome]
    exact (hfree haddress).bind fun _ => hfree hconn
  · rw [if_neg hsome]
    exact hfree hconn

/-- An attempt with the cleanup of `posix_open_connection`. -/
lemma came_opening {body : Proc XiErr (Kernel × OpenLocals) (Option α)} {R : α → Kernel → Prop}
    (hk : Kernel.Sound k₀)
    (h : Triple (Opening k₀ id (OwnLocals k₀)) body
      (fun c _ s => Since k₀ s.1 ∧ ∀ a ∈ c, R a s.1) (Opening k₀ id (OwnLocals k₀))) :
    Triple (Came k₀ id) (withLocals { posCommData := none, conn := none, address := none }
      (errCleanup openCleanup none body)) (fun c e k => Came k₀ id e k ∧ ∀ a ∈ c, R a k)
      (Came k₀ id) := by
  refine Triple.withLocals (Triple.conseq (h.errCleanup ?_)
    (fun e s hp => ⟨hp.2, hp.1 ▸ ownLocals_start k₀⟩) (fun _ _ _ hq => hq) fun _ _ hj => hj)
  exact (opening_openCleanup hk).conseq (fun _ _ hp => hp) (fun _ _ _ hq => ⟨hq, by simp⟩)
    fun _ _ hj => hj

lemma opening_posix : Triple (Opening k₀ id (OwnLocals k₀)) (openBody sys)
    (fun c _ s => Since k₀ s.1 ∧ ∀ a ∈ c, Owns k₀ a s.1) (Opening k₀ id (OwnLocals k₀)) := by
  refine opening_alloc came_xiAlloc (fun _ _ hb h => ⟨hb, h.2⟩) fun layerSpecific hlayer => ?_
  refine opening_alloc came_xiAlloc (fun _ _ hb h => ⟨h.1, hb, h.2.2⟩) fun block hblock => ?_
  refine opening_alloc came_xiAlloc (fun _ _ hb h => ⟨h.1, h.2.1, hb⟩) fun address haddress => ?_
  have hcheck {answer : ℕ → Bool} {x : XiErr} {fd : ℕ}
      {f : Unit → Proc XiErr (Kernel × OpenLocals) (Option Connection)}
      (hf : Triple (fun e s => Opening k₀ id (OwnLocals k₀) e s ∧ InUse k₀ fd s.1) (f ())
        (fun c _ s => Since k₀ s.1 ∧ ∀ a ∈ c, Owns k₀ a s.1) (Opening k₀ id (OwnLocals k₀))) :
      Triple (fun e s => Opening k₀ id (OwnLocals k₀) e s ∧ InUse k₀ fd s.1)
        (outer (sysCall answer) >>= fun b => checkCnd (b = false) x >>= f)
        (fun c _ s => Since k₀ s.1 ∧ ∀ a ∈ c, Owns k₀ a s.1) (Opening k₀ id (OwnLocals k₀)) := by
    have hcall : Triple (fun e s => Opening k₀ id (OwnLocals k₀) e s ∧ InUse k₀ fd s.1)
        (outer (sysCall answer) : Proc XiErr (Kernel × OpenLocals) Bool)
        (fun _ e s => Opening k₀ id (OwnLocals k₀) e s ∧ InUse k₀ fd s.1)
        (Opening k₀ id (OwnLocals k₀)) :=
      Triple.outer fun l e k h => ⟨⟨Since.call h.1.1, h.1.2⟩, h.2.1, Nat.lt_succ_of_lt h.2.2⟩
    refine hcall.bind fun b => Triple.bind (Triple.checkCnd (fun _ _ _ h => h) ?_) fun _ => hf
    exact fun _ _ _ h => h.1
  refine (opening_outer (R := fun fd k => ∀ n ∈ fd, InUse k₀ n k) came_socket).bind fun fd => ?_
  cases fd with
  | none => exact fun e s h => ⟨h.1.1, by simp⟩
  | some fd =>
    have hopen : Triple (fun e s => Opening k₀ id (OwnLocals k₀) e s ∧ InUse k₀ fd s.1)
        (pure (some { block, address, layerSpecific, socketFd := fd }))
        (fun c _ s => Since k₀ s.1 ∧ ∀ a ∈ c, Owns k₀ a s.1) (Opening k₀ id (OwnLocals k₀)) :=
      Triple.pure fun _ s h => ⟨h.1.1, by rintro a ⟨⟩; exact ⟨hblock, haddress, hlayer, h.2⟩⟩
    exact (hcheck (hcheck (hcheck (hcheck hopen)))).conseq (fun e s h => ⟨h.1, h.2 fd rfl⟩)
      (fun _ _ _ hq => hq) fun _ _ hj => hj

lemma opening_nq : Triple (Opening k₀ id (OwnLocals k₀)) (nqOpenBody sys)
    (fun c _ s => Since k₀ s.1 ∧ ∀ a ∈ c, Owns k₀ a s.1) (Opening k₀ id (OwnLocals k₀)) := by
  refine opening_alloc came_xiAlloc (fun _ _ hb h => ⟨hb, h.2⟩) fun layerSpecific hlayer => ?_
  refine opening_alloc came_xiAlloc (fun _ _ hb h => ⟨h.1, hb, h.2.2⟩) fun block hblock => ?_
  refine opening_alloc came_xiAlloc (fun _ _ hb h => ⟨h.1, h.2.1, hb⟩) fun address haddress => ?_
  refine (opening_outer (R := fun fd k => ∀ n ∈ fd, InUse k₀ n k) came_socket).bind fun fd => ?_
  cases fd with
  | none => exact fun e s h => h.1
  | some fd =>
    exact fun e s h => ⟨h.1.1, by rintro a ⟨⟩; exact ⟨hblock, haddress, hlayer, h.2 fd rfl⟩⟩

/-- The blocks of a connection of the dummy layer were made since. -/
structure DummyOwns (k₀ : Kernel) (c : DummyConnection) : Prop where
  block : k₀.calls ≤ c.block
  address : k₀.calls ≤ c.address
  layerSpecific : k₀.calls ≤ c.layerSpecific

lemma opening_dummy : Triple (Opening k₀ id (OwnLocals k₀)) (dummyOpenBody sys)
    (fun c _ s => Since k₀ s.1 ∧ ∀ a ∈ c, DummyOwns k₀ a) (Opening k₀ id (OwnLocals k₀)) := by
  refine opening_alloc came_xiAlloc (fun _ _ hb h => ⟨hb, h.2⟩) fun layerSpecific hlayer => ?_
  refine opening_alloc came_xiAlloc (fun _ _ hb h => ⟨h.1, hb, h.2.2⟩) fun block hblock => ?_
  refine opening_alloc came_xiAlloc (fun _ _ hb h => ⟨h.1, h.2.1, hb⟩) fun address haddress => ?_
  exact fun e s h => ⟨h.1, by rintro a ⟨⟩; exact ⟨hblock, haddress, hlayer⟩⟩

/-- The blocks the locals of `mbed_open_connection` name were made since. -/
def MbedOwnLocals (k₀ : Kernel) (l : MbedOpenLocals) : Prop :=
  (Made k₀ l.posCommData ∧ Made k₀ l.socketPtr) ∧ Made k₀ l.conn ∧ Made k₀ l.address

/-- The blocks of a connection, its socket object and its descriptor were made since. -/
structure MbedOwns (k₀ : Kernel) (c : MbedConnection) (k : Kernel) : Prop
    extends Owns k₀ c.toConnection k where
  socketPtr : k₀.calls ≤ c.socketPtr

lemma came_outer {m : Proc XiErr Kernel α} {Q : α → Kernel → Prop}
    (h : Triple (Came k₀ id) m (fun a e k => Came k₀ id e k ∧ Q a k) (Came k₀ id)) :
    Triple (Came k₀ Prod.fst) (outer m : Proc XiErr MbedKernel α)
      (fun a e w => Came k₀ Prod.fst e w ∧ Q a w.1) (Came k₀ Prod.fst) :=
  Triple.outer fun _ => h

lemma opening_mbed : Triple (Opening k₀ Prod.fst (MbedOwnLocals k₀)) (mbedOpenBody sys)
    (fun c _ s => Since k₀ s.1.1 ∧ ∀ a ∈ c, MbedOwns k₀ a s.1.1)
    (Opening k₀ Prod.fst (MbedOwnLocals k₀)) := by
  have halloc : Triple (Came k₀ Prod.fst) (outer (xiAlloc sys) : Proc XiErr MbedKernel (Option ℕ))
      (fun b e w => Came k₀ Prod.fst e w ∧ Made k₀ b) (Came k₀ Prod.fst) :=
    came_outer (Q := fun b _ => Made k₀ b) came_xiAlloc
  refine (opening_outer (R := fun b _ => Made k₀ b) halloc).bind fun socketPtr => ?_
  cases socketPtr with
  | none => exact fun e s h => h.1
  | some socketPtr =>
    intro e s ⟨hs, hptr⟩
    refine (?_ : Triple (Opening k₀ Prod.fst (MbedOwnLocals k₀)) _ _ _) e s hs
    refine opening_alloc halloc (fun _ _ hb h => ⟨⟨hb, h.1.2⟩, h.2⟩) fun layerSpecific hlayer => ?_
    refine opening_alloc halloc (fun _ _ hb h => ⟨h.1, hb, h.2.2⟩) fun block hblock => ?_
    refine opening_alloc halloc (fun _ _ hb h => ⟨h.1, h.2.1, hb⟩) fun address haddress => ?_
    refine Triple.bind (Triple.assign (Q := fun _ => Opening k₀ Prod.fst (MbedOwnLocals k₀))
      fun _ _ l h => ⟨h.1, ⟨h.2.1.1, hptr⟩, h.2.2⟩) fun _ => ?_
    refine (opening_outer (R := fun fd k => ∀ n ∈ fd, InUse k₀ n k)
      (came_outer came_socket)).bind fun fd => ?_
    cases fd with
    | none => exact fun e s h => h.1
    | some fd =>
      refine fun e s h => ⟨h.1.1, ?_⟩
      rintro a ⟨⟩
      exact ⟨⟨hblock, haddress, hlayer, h.2 fd rfl⟩, hptr socketPtr rfl⟩

lemma opening_mbedCleanup (hk : Kernel.Sound k₀) :
    Triple (Opening k₀ Prod.fst (MbedOwnLocals k₀)) mbedOpenCleanup
      (fun _ _ s => Since k₀ s.1.1) (fun _ s => Since k₀ s.1.1) := by
  have hfree {b : Option ℕ} (hb : Made k₀ b) : Triple (fun _ s => Since k₀ s.1.1)
      (outer (outer (xiSafeFree b)) : Proc XiErr (MbedKernel × MbedOpenLocals) Unit)
      (fun _ _ s => Since k₀ s.1.1) (fun _ s => Since k₀ s.1.1) :=
    Triple.outer fun _ => Triple.outer fun _ => came_xiSafeFree hk hb
  have hrest {l : MbedKernel × MbedOpenLocals} (h : MbedOwnLocals k₀ l.2) :
      Triple (fun _ s => Since k₀ s.1.1) (do
        outer (outer (xiSafeFree l.2.posCommData))
        if l.2.conn.isSome then outer (outer (xiSafeFree l.2.address))
        outer (outer (xiSafeFree l.2.conn)) : Proc XiErr (MbedKernel × MbedOpenLocals) Unit)
        (fun _ _ s => Since k₀ s.1.1) (fun _ s => Since k₀ s.1.1) := by
    refine (hfree h.1.1).bind fun _ => ?_
    by_cases hsome : l.2.conn.isSome
    · rw [if_pos hsome]
      exact (hfree h.2.2).bind fun _ => hfree h.2.1
    · rw [if_neg hsome]
      exact hfree h.2.1
  refine Triple.get fun l => ?_
  rintro e s ⟨rfl, hsince, hown⟩
  by_cases hsome : s.2.posCommData.isSome
  · rw [if_pos hsome]
    cases hobject : s.2.socketPtr with
    | none => exact hrest hown _ _ hsince
    | some p =>
      have hptr := hown.1.2
      rw [hobject] at hptr
      exact ((hfree hptr).bind fun _ => hrest hown) _ _ hsince
  · rw [if_neg hsome]
    exact hrest hown _ _ hsince

lemma came_mbedOpening (hk : Kernel.Sound k₀) (a : Text) (p : ℕ) :
    Triple (Came k₀ Prod.fst) (mbedOpenConnection sys a p)
      (fun c e w => Came k₀ Prod.fst e w ∧ ∀ x ∈ c, MbedOwns k₀ x w.1) (Came k₀ Prod.fst) := by
  refine Triple.withLocals (Triple.conseq (opening_mbed.errCleanup ?_)
    (fun e s hp => ⟨hp.2, hp.1 ▸ ?_⟩) (fun _ _ _ hq => hq) fun _ _ hj => hj)
  · exact (opening_mbedCleanup hk).conseq (fun _ _ hp => hp) (fun _ _ _ hq => ⟨hq, by simp⟩)
      fun _ _ hj => hj
  · simp [MbedOwnLocals, Made]

end Opening

/-! ### Transfers and closing -/

section Transfers

variable {c : Connection} {data : Text}

lemma Owns.mono {k k' : Kernel} (h : Owns k₀ c k) (hk : k.calls ≤ k'.calls) : Owns k₀ c k' :=
  ⟨h.block, h.address, h.layerSpecific, h.socketFd.1, h.socketFd.2.trans_le hk⟩

/-- The kernel has come here from `k₀`, and the connection was made since. -/
def Connected (k₀ : Kernel) (c : Connection) : Assertion XiErr Kernel :=
  fun _ k => Since k₀ k ∧ Owns k₀ c k

lemma connected_sysCall {α : Type} (answer : ℕ → α) :
    Triple (Connected k₀ c) (sysCall answer) (fun _ => Connected k₀ c) J :=
  fun _ _ h => ⟨Since.call h.1, h.2.mono (Nat.le_succ _)⟩

lemma connected_transfer {t : Transfer} (ht : Transfer.fd t = c.socketFd) :
    Triple (Connected k₀ c) (modify fun k => { k with transfers := t :: k.transfers })
      (fun _ => Connected k₀ c) J :=
  Triple.modify fun _ _ h => ⟨Since.transfer h.1 (ht ▸ h.2.socketFd), h.2.mono le_rfl⟩

lemma connected_send :
    Triple (Connected k₀ c) (posixSendData sys c data) (fun _ => Connected k₀ c) J := by
  refine (connected_sysCall _).bind fun accepted => ?_
  cases accepted with
  | none =>
    exact (Triple.setErr (Q := fun _ => Connected k₀ c) fun _ _ h => h).bind fun _ =>
      Triple.pure fun _ _ h => h
  | some k => exact (connected_transfer rfl).bind fun _ => Triple.pure fun _ _ h => h

lemma connected_read :
    Triple (Connected k₀ c) (posixReadData sys c) (fun _ => Connected k₀ c) J := by
  refine (connected_transfer rfl).bind fun _ => (connected_sysCall _).bind fun received => ?_
  cases received with
  | none =>
    exact (Triple.setErr (Q := fun _ => Connected k₀ c) fun _ _ h => h).bind fun _ =>
      Triple.pure fun _ _ h => h
  | some d => exact Triple.pure fun _ _ h => h

/-- The same of the mbed layer. -/
def MbedConnected (k₀ : Kernel) (c : MbedConnection) : Assertion XiErr MbedKernel :=
  fun _ w => Since k₀ w.1 ∧ MbedOwns k₀ c w.1

lemma connected_outer {c : MbedConnection} {α : Type} {m : Proc XiErr Kernel α}
    (h : Triple (Connected k₀ c.toConnection) m (fun _ => Connected k₀ c.toConnection)
      (Connected k₀ c.toConnection)) :
    Triple (MbedConnected k₀ c) (outer m : Proc XiErr MbedKernel α)
      (fun _ => MbedConnected k₀ c) (MbedConnected k₀ c) := by
  intro e w ⟨hsince, hown⟩
  refine (Triple.outer (P := fun e w => Connected k₀ c.toConnection e w.1) fun _ => ?_) e w
    ⟨hsince, hown.toOwns⟩
  exact h.conseq (fun _ _ h => h) (fun _ _ _ h => ⟨h.1, h.2, hown.socketPtr⟩)
    fun _ _ h => ⟨h.1, h.2, hown.socketPtr⟩

/-- The three blocks of a connection, given back one after the other. -/
lemma came_free (hk : Kernel.Sound k₀) {a b d : ℕ} (ha : k₀.calls ≤ a) (hb : k₀.calls ≤ b)
    (hd : k₀.calls ≤ d) : Triple (Came k₀ id) (do
      xiSafeFree (some a)
      xiSafeFree (some b)
      xiSafeFree (some d)) (fun _ => Came k₀ id) J := by
  have hfree {b : ℕ} (hb : k₀.calls ≤ b) :
      Triple (Came k₀ id) (xiSafeFree (some b)) (fun _ => Came k₀ id) J :=
    came_xiSafeFree hk (by rintro c ⟨⟩; exact hb)
  exact (hfree ha).bind fun _ => (hfree hb).bind fun _ => hfree hd

lemma came_posixClose (hk : Kernel.Sound k₀) : Triple (Connected k₀ c)
    (posixCloseConnection sys c) (fun _ => Came k₀ id) (Came k₀ id) := by
  intro e k ⟨hsince, hown⟩
  have hclosed : Triple (Came k₀ id) (do
      let s ← sysCall sys.shutdown
      if s = false then do
        setErr .socketShutdownError
        let _ ← close sys c.socketFd
        jump
      let r ← close sys c.socketFd
      checkCnd (r = false) .socketCloseError) (fun _ => Came k₀ id) (Came k₀ id) := by
    have hlast : Triple (Came k₀ id) (do
        let r ← close sys c.socketFd
        checkCnd (r = false) .socketCloseError) (fun _ => Came k₀ id) (Came k₀ id) :=
      (came_close hk hown.socketFd.1).bind fun r =>
        Triple.checkCnd (fun _ _ _ h => h) fun _ _ _ h => h
    refine (came_sysCall _).bind fun s => ?_
    cases s with
    | true => exact hlast
    | false =>
      refine (Triple.setErr (Q := fun _ => Came k₀ id) fun _ _ h => h).bind fun _ => ?_
      refine (came_close hk hown.socketFd.1).bind fun _ => ?_
      exact Triple.bind (Q := fun _ => Came k₀ id) (Triple.jump fun _ _ h => h) fun _ => hlast
  exact ((hclosed.errHandling fun _ _ h => h).bind fun _ =>
    came_free hk hown.layerSpecific hown.address hown.block) e k hsince

lemma came_nqClose (hk : Kernel.Sound k₀) : Triple (Connected k₀ c)
    (nqCloseConnection sys c) (fun _ => Came k₀ id) (Came k₀ id) := by
  intro e k ⟨hsince, hown⟩
  refine ((came_close hk hown.socketFd.1).bind fun r => ?_) e k hsince
  cases r with
  | true => exact Triple.pure fun _ _ h => h
  | false =>
    exact (Triple.setErr (Q := fun _ => Came k₀ id) fun _ _ h => h).bind fun _ =>
      came_free hk hown.layerSpecific hown.address hown.block

lemma came_mbedClose (hk : Kernel.Sound k₀) {c : MbedConnection} :
    Triple (MbedConnected k₀ c) (mbedCloseConnection sys c)
      (fun _ => Came k₀ Prod.fst) (Came k₀ Prod.fst) := by
  intro e w ⟨hsince, hown⟩
  refine (Triple.outer (P := Came k₀ Prod.fst) fun _ => ?_) e w hsince
  refine Triple.bind (Q := fun _ => Came k₀ id) (Triple.errHandling (K := Came k₀ id) ?_ ?_)
    fun _ => ?_
  · exact (came_close hk hown.socketFd.1).bind fun r =>
      Triple.checkCnd (fun _ _ _ h => h) fun _ _ _ h => h
  · exact fun _ _ h => h
  · refine (came_xiSafeFree hk ?_).bind fun _ =>
      came_free hk hown.address hown.layerSpecific hown.block
    rintro b ⟨⟩
    exact hown.socketPtr

end Transfers

end LibXively.Footprint
