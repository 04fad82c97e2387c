import LibXively.CLib.Runs
import LibXively.Api.Traffic
import LibXively.Comm.NqLayer
import LibXively.Comm.MbedLayer

/-!
What a run of the API functions leaves allocated and open, over each communication layer.

The layers leak in different places. The POSIX layer keeps what it holds when a call behind its
allocations fails, the NanoQplus layer keeps the blocks of each connection it has closed, and the
mbed layer keeps the socket object when a block behind it is missing.
-/

namespace LibXively.Ledgers

open LibXively.Bytes LibXively.CProc LibXively.CharArray LibXively.Structures LibXively.Runs
open LibXively.HttpQueries LibXively.CommLayers LibXively.Xively LibXively.PosixComm
open LibXively.PosixLayer LibXively.PosixCalls LibXively.NqComm LibXively.NqLayer
open LibXively.MbedComm LibXively.MbedLayer LibXively.FeedRequests LibXively.Exchanges
open LibXively.Calls LibXively.Traffic

/-- The communication layers. -/
inductive Layer | posix | nq | mbed

def Layer.comm (sys : System) : Layer → CommLayer
  | .posix => posixLayer sys
  | .nq => nqLayer sys
  | .mbed => mbedLayer sys

/-- The kernel below a layer, and whether the program has left the language. -/
def Layer.kernel (sys : System) : (layer : Layer) → (layer.comm sys).World → Kernel × Bool
  | .posix, k => (k, false)
  | .nq, k => (k, false)
  | .mbed, w => w

/-- What is live and open, and whether the program has left the language. -/
def Layer.ledger (sys : System) (layer : Layer) (w : (layer.comm sys).World) :
    (List ℕ × List ℕ) × Bool :=
  (held (layer.kernel sys w).1, (layer.kernel sys w).2)

/-- The call of `tcp_close` in an exchange that starts with the `n`-th call. -/
def closeCall (sys : System) (n : ℕ) (data : Text) : ℕ :=
  if (sys.write (n + 4) data.length).isSome then n + 6 else n + 5

/-- An exchange that starts with the `n`-th call gives back what it acquires. -/
def Layer.Tidy (sys : System) (n : ℕ) (data : Text) : Layer → Prop
  | .posix => Allocates sys n → Opens sys n
  | .nq => NqOpens sys n → sys.close (closeCall sys n data) = false
  | .mbed => sys.alloc n = true → Allocates sys (n + 1)

/-! ### One exchange -/

variable {sys : System} {data : Text} {o : Bool} {y : Option XiErr}

lemma posix_tidy {w w₁ w' : Kernel} {conn : Option Connection}
    (h : Exchanged (posixLayer sys) data w o conn w₁) (hc : Closing (posixLayer sys) conn w₁ y w') :
    held w' = held w ↔ (Allocates sys w.calls → Opens sys w.calls) := by
  rcases @Exchanged.opened (posixLayer sys) w w₁ data o conn _ held
    (fun _ _ _ _ _ _ _ h => (send_held h).1) (fun _ _ _ _ _ _ h => (read_held h).1) h with
    ⟨rfl, x, hopen⟩ | ⟨c, w₂, rfl, hopen, hheld⟩
  · obtain rfl : w' = w₁ := hc.2
    obtain ⟨hno, -, ⟨hblocks, hb, hs⟩ | ⟨hblocks, hleft⟩⟩ :=
      @PosixCalls.open_none sys xiHost xiPort w _ _ _ (hopen .noErr)
    · exact iff_of_true (Prod.ext hb hs) fun ha => absurd ha hblocks
    · refine iff_of_false (fun hsame => ?_) fun himp => hno (himp hblocks)
      obtain ⟨hb, hs⟩ := Prod.mk.inj hsame
      rcases hleft with hleft | hleft
      · have hlen := congrArg List.length (hleft.symm.trans hb)
        rw [List.length_append, List.length_cons] at hlen
        omega
      · exact absurd (hleft.symm.trans hs) (List.cons_ne_self _ _)
  · obtain ⟨hopens, rfl, rfl⟩ :=
      @PosixCalls.open_conn sys xiHost xiPort w _ _ _ _ (hopen .noErr)
    obtain rfl : w' = closed (connectionAt w.calls) w₁ := close_kernel (hc.2 .noErr)
    refine iff_of_true ?_ fun _ => hopens
    obtain ⟨hb, hs⟩ := Prod.mk.inj hheld
    simp only [held, closed, hb, hs, connectionAt, Kernel.opened, erase_blocks,
      List.erase_cons_head]

/-- The close of a connection that has been open. -/
lemma nq_closing {k k₁ k' : Kernel} (hopens : NqOpens sys k.calls)
    (hheld : held k₁ = held (nqOpened k)) (hcalls : k₁.calls = closeCall sys k.calls data)
    (hc : Closing (nqLayer sys) (some (connectionAt k.calls)) k₁ y k') :
    held k' = held k ↔
      (NqOpens sys k.calls → sys.close (closeCall sys k.calls data) = false) := by
  have hrun := (close_run sys (connectionAt k.calls) k₁ .noErr).symm.trans (hc.2 .noErr)
  obtain rfl : nqClosed sys (connectionAt k.calls) k₁ = k' := (Outcome.ret.inj hrun).2.2
  obtain ⟨hb, hs⟩ := Prod.mk.inj hheld
  simp only [held, nqClosed, hcalls, hb, hs, Prod.mk.injEq]
  cases hfails : sys.close (closeCall sys k.calls data) with
  | false =>
    refine iff_of_true ?_ fun _ => rfl
    simp [connectionAt, nqOpened, Kernel.opened]
  | true =>
    refine iff_of_false (fun hsame => ?_) fun himp => absurd (himp hopens).symm Bool.false_ne_true
    have hlen := congrArg List.length hsame.1
    simp only [nqOpened, Kernel.opened, if_true, List.length_append, List.length_cons] at hlen
    omega

lemma nq_tidy {k k' : Kernel} {w₁ : (nqLayer sys).World} {conn : Option (nqLayer sys).Conn}
    (h : Exchanged (nqLayer sys) data k o conn w₁) (hc : Closing (nqLayer sys) conn w₁ y k') :
    held k' = held k ↔
      (NqOpens sys k.calls → sys.close (closeCall sys k.calls data) = false) := by
  have hread {conn : Connection} {k₁ k₂ k₃ : Kernel} {n : ℤ} {r : ℤ × Buf xiHttpMaxContentSize}
      {x : XiErr} (hopen : nqOpenConnection sys xiHost xiPort .noErr k = .ret (some conn) .noErr k₁)
      (hsend : posixSendData sys conn data .noErr k₁ = .ret n .noErr k₂)
      (hread : posixReadData sys conn .noErr k₂ = .ret r x k₃)
      (hc : Closing (nqLayer sys) (some conn) k₃ y k') : held k' = held k ↔
        (NqOpens sys k.calls → sys.close (closeCall sys k.calls data) = false) := by
    obtain ⟨hopens, rfl, rfl⟩ := NqLayer.open_conn hopen
    obtain ⟨m, hm, -⟩ := send_accepted hsend
    obtain ⟨hheld, hcalls⟩ := send_held hsend
    obtain ⟨hheld', hcalls'⟩ := read_held hread
    have hsome : (sys.write (k.calls + 4) data.length).isSome :=
      Option.isSome_iff_exists.mpr ⟨m, hm⟩
    refine nq_closing hopens (hheld'.trans hheld) ?_ hc
    rw [hcalls', hcalls, closeCall, if_pos hsome]
    rfl
  cases h with
  | unopened hopen =>
    obtain ⟨hno, c, rfl⟩ := @NqLayer.open_none sys xiHost xiPort k _ _ _ (hopen .noErr)
    obtain rfl : k' = { k with calls := c } := hc.2
    exact iff_of_true rfl fun hopens => absurd hopens hno
  | unsent hopen hsend =>
    obtain ⟨hopens, rfl, rfl⟩ := @NqLayer.open_conn sys xiHost xiPort k _ _ _ _ (hopen .noErr)
    obtain ⟨hheld, hcalls⟩ := send_held (hsend .noErr)
    obtain ⟨hnone, -⟩ := send_failed (hsend .noErr)
    have hfails : ¬ (sys.write (k.calls + 4) data.length).isSome := by
      rw [show sys.write (k.calls + 4) data.length = none from hnone]
      exact nofun
    refine nq_closing hopens hheld ?_ hc
    rw [hcalls, closeCall, if_neg hfails]
    rfl
  | unread hopen hsend _ hread' => exact hread (hopen _) (hsend _) (hread' _) hc
  | answered hopen hsend _ hread' => exact hread (hopen _) (hsend _) (hread' _) hc

/-- The live blocks, the open sockets, and whether the program has left the language. -/
def mbedHeld (w : MbedKernel) : (List ℕ × List ℕ) × Bool := (held w.1, w.2)

lemma mbed_tidy {w w' : MbedKernel} {w₁ : (mbedLayer sys).World}
    {conn : Option (mbedLayer sys).Conn} (h : Exchanged (mbedLayer sys) data w o conn w₁)
    (hc : Closing (mbedLayer sys) conn w₁ y w') :
    mbedHeld w' = mbedHeld w ↔ (sys.alloc w.1.calls = true → Allocates sys (w.1.calls + 1)) := by
  have hsend (c : MbedConnection) (d : Text) (e : XiErr) (n : ℤ) (x : XiErr) (v v' : MbedKernel)
      (h : mbedSendData sys c d e v = .ret n x v') : mbedHeld v' = mbedHeld v :=
    Prod.ext (send_held (outer_ret h).1).1 (outer_ret h).2
  have hread (c : MbedConnection) (e : XiErr) (r : ℤ × Buf xiHttpMaxContentSize) (x : XiErr)
      (v v' : MbedKernel) (h : mbedReadData sys c e v = .ret r x v') : mbedHeld v' = mbedHeld v :=
    Prod.ext (read_held (outer_ret h).1).1 (outer_ret h).2
  rcases @Exchanged.opened (mbedLayer sys) w w₁ data o conn _ mbedHeld hsend hread h with
    ⟨rfl, x, hopen⟩ | ⟨c, w₂, rfl, hopen, hheld⟩
  · obtain rfl : w' = w₁ := hc.2
    rcases @MbedLayer.open_none sys xiHost xiPort w _ _ _ (hopen .noErr) with
      ⟨hobject, hblocks, hleft⟩ | ⟨himp, k, rfl⟩
    · refine iff_of_false (fun hsame => ?_) fun himp => hblocks (himp hobject)
      have hb := congrArg (fun l => l.1.1) hsame
      exact absurd (hleft.symm.trans hb) (List.cons_ne_self _ _)
    · exact iff_of_true rfl himp
  · obtain ⟨hopens, rfl, rfl⟩ := @MbedLayer.open_conn sys xiHost xiPort w _ _ _ _ (hopen .noErr)
    have hrun := (MbedLayer.close_run sys (mbedConnectionAt w.1.calls) w₁ .noErr).symm.trans
      (hc.2 .noErr)
    obtain rfl := (Outcome.ret.inj hrun).2.2
    refine iff_of_true ?_ fun _ => hopens.allocates
    obtain ⟨hk, hb⟩ := Prod.mk.inj hheld
    obtain ⟨hblocks, hsockets⟩ := Prod.mk.inj hk
    simp [mbedHeld, held, mbedClosed, hblocks, hsockets, hb, mbedConnectionAt, mbedOpened]

/-! ### Runs -/

variable {tg : Target} {layer : Layer}

/-- One call, made with an error pending that earlier calls may have left. -/
def callStep (tg : Target) (sys : System) (layer : Layer) (p : Process tg (layer.comm sys))
    (c : XiErr × ApiCall) : Option (Process tg (layer.comm sys)) :=
  match c.2.run c.1 p with
  | .ret _ _ p' => some p'
  | _ => none

/-- If the call makes a request, its exchange gives back what it acquires. -/
def TidyCall (p : Process tg (layer.comm sys)) (c : XiErr × ApiCall) : Prop :=
  ∀ data, Makes tg c.2 c.1 p.statics data →
    layer.Tidy sys (layer.kernel sys p.world).1.calls data

lemma exchange_ledger {w w₁ w' : (layer.comm sys).World} {conn : Option (layer.comm sys).Conn}
    (h : Exchanged (layer.comm sys) data w o conn w₁)
    (hc : Closing (layer.comm sys) conn w₁ y w') :
    layer.ledger sys w' = layer.ledger sys w ↔
      layer.Tidy sys (layer.kernel sys w).1.calls data := by
  cases layer with
  | posix => exact Prod.mk_left_inj.trans (posix_tidy h hc)
  | nq => exact Prod.mk_left_inj.trans (nq_tidy h hc)
  | mbed => exact mbed_tidy h hc

lemma callStep_ledger (p : Process tg (layer.comm sys)) (c : XiErr × ApiCall)
    (p' : Process tg (layer.comm sys)) (h : callStep tg sys layer p c = some p') :
    layer.ledger sys p'.world = layer.ledger sys p.world ↔ TidyCall p c := by
  obtain ⟨l, w⟩ := p
  obtain ⟨e, c⟩ := c
  obtain ⟨v, e', hrun⟩ : ∃ v e', c.run e (⟨l, w⟩ : Process tg (layer.comm sys)) =
      .ret v e' p' := by
    unfold callStep at h
    split at h
    · next v e' p₁ hrun => exact ⟨v, e', by rw [hrun, Option.some.inj h]⟩
    · cases h
  rcases run_traffic hrun with ⟨⟨l₁, hnone⟩ | ⟨l₁, hgoto⟩, hw, -⟩ |
    ⟨data, o, conn, w₁, y, ⟨e₁, l₁, hmakes⟩, hexchanged, hclosing, -⟩
  · refine iff_of_true (congrArg _ hw) fun data ⟨e₁, l₂, hmakes⟩ => ?_
    rw [hnone] at hmakes
    cases hmakes
  · refine iff_of_true (congrArg _ hw) fun data ⟨e₁, l₂, hmakes⟩ => ?_
    rw [hgoto] at hmakes
    cases hmakes
  · rw [exchange_ledger hexchanged hclosing]
    constructor
    · rintro htidy data' ⟨e₂, l₂, hmakes'⟩
      rw [hmakes] at hmakes'
      obtain rfl := Option.some.inj (Outcome.ret.inj hmakes').1
      exact htidy
    · exact fun htidy => htidy data ⟨e₁, l₁, hmakes⟩

/-- **No leaks**: behind each call of a run the ledger is what it was at the start exactly if every
call of the run that makes a request gives back what its exchange acquires. -/
theorem ledgers_restored (tg : Target) (sys : System) (layer : Layer) (cs : List (XiErr × ApiCall))
    (p : Process tg (layer.comm sys)) :
    (∀ p' ∈ reached (callStep tg sys layer) cs p,
      layer.ledger sys p'.world = layer.ledger sys p.world) ↔
    EachStep (callStep tg sys layer) TidyCall cs p :=
  unchanged_iff callStep_ledger cs p

/-! ### Three leaks -/

/-- A system for each layer: one that has no sockets, one whose calls all succeed, and one that has
memory for the first allocation only. -/
def Layer.leaky : Layer → System
  | .posix => { peers with socket := fun _ => false }
  | .nq => peers
  | .mbed => { peers with alloc := fun i => i == 0 }

def Layer.start (sys : System) : (layer : Layer) → (layer.comm sys).World
  | .posix => (⟨0, [], [], []⟩ : Kernel)
  | .nq => (⟨0, [], [], []⟩ : Kernel)
  | .mbed => ((⟨0, [], [], []⟩, false) : MbedKernel)

/-- One deletion leaves something behind. -/
def Layer.Leaks (layer : Layer) : Prop :=
  ∃ p' ∈ reached (callStep posixConfig layer.leaky layer) [(.noErr, deleteCall)]
      ⟨.fresh posixConfig, layer.start layer.leaky⟩,
    layer.ledger layer.leaky p'.world ≠ layer.ledger layer.leaky (layer.start layer.leaky)

lemma leaks_of_untidy (layer : Layer) (h : ¬ layer.Tidy layer.leaky 0
    (deleteCall.request.text posixConfig deleteCall.apiKey)) : layer.Leaks := by
  have hreply : ∀ conn d w', Delivers (layer.comm layer.leaky)
      (deleteCall.request.text posixConfig deleteCall.apiKey) (layer.start layer.leaky) conn d w' →
        d = emptyReply := by
    rintro conn d w' ⟨w₁, n, w₂, -, -, -, hd, -⟩
    cases layer <;> exact (Option.some.inj hd).symm
  obtain ⟨v, x, p', hrun⟩ := deleteCall_returns (.fresh posixConfig) hreply
  have hstep : callStep posixConfig layer.leaky layer
      ⟨.fresh posixConfig, layer.start layer.leaky⟩ (.noErr, deleteCall) = some p' := by
    simp only [callStep, hrun]
  refine ⟨p', by simp [reached, hstep], fun hsame => h ?_⟩
  have htidy := (callStep_ledger _ _ _ hstep).mp hsame
  have hreadable : deleteCall.request.Readable := trivial
  obtain ⟨l, hl, -⟩ := (encode_decides (by decide) hreadable).1 fits_deleteCall .noErr
    (.fresh posixConfig) trivial
  have hcalls : (layer.kernel layer.leaky (layer.start layer.leaky)).1.calls = 0 := by
    cases layer <;> rfl
  have hzero := htidy _ ⟨_, l, hl⟩
  rwa [hcalls] at hzero

theorem ledgers_restored_leaks :
    Layer.Leaks .posix ∧ Layer.Leaks .nq ∧ Layer.Leaks .mbed := by
  refine ⟨leaks_of_untidy .posix ?_, leaks_of_untidy .nq ?_, leaks_of_untidy .mbed ?_⟩
  · exact fun htidy => absurd (htidy ⟨rfl, rfl, rfl⟩).socket nofun
  · exact fun htidy => absurd (htidy ⟨⟨rfl, rfl, rfl⟩, rfl⟩) nofun
  · exact fun htidy => absurd (htidy rfl).1 nofun

end LibXively.Ledgers
