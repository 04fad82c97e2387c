import LibXively.Api.Traffic
import LibXively.Comm.PosixCalls

/-!
What a call has sent when it reads its reply.

The layer makes one write and reports how much of the request the socket has taken. An API function
looks for a failure in that report and at nothing else.
-/

namespace LibXively.Sending

open LibXively.Bytes LibXively.CProc LibXively.CharArray LibXively.Structures
open LibXively.HttpQueries LibXively.CommLayers LibXively.Xively LibXively.Append
open LibXively.Encoders LibXively.FeedRequests LibXively.PosixComm LibXively.PosixLayer
open LibXively.PosixCalls LibXively.Exchanges LibXively.Calls LibXively.Traffic

/-- The bytes a socket has accepted, in order, of transfers that stand latest first. -/
def accepted (fd : ℕ) : List Transfer → Text
  | [] => []
  | .wrote fd' t :: ts => accepted fd ts ++ if fd' = fd then t else []
  | .reads _ :: ts => accepted fd ts

/-- In front of every read the socket has accepted the data. -/
def ReadsLast (data : Text) (ts : List Transfer) : Prop :=
  ∀ later fd earlier, ts = later ++ .reads fd :: earlier → accepted fd earlier = data

/-- A call that starts in a kernel and ends in another reads only when its data has been accepted,
and returns null with an error if its data has not been accepted. -/
def SendsFirst (data : Text) (k k' : Kernel) (v : Bool) (e' : XiErr) : Prop :=
  ∃ ts, k'.transfers = ts ++ k.transfers ∧ ReadsLast data ts ∧
    ((∃ fd, accepted fd ts = data) ∨ (v = false ∧ e' ≠ .noErr))

/-- The write of a call that starts with the `n`-th system call fails or takes all of the data, if
it is reached. -/
def WritesAtOnce (sys : System) (n : ℕ) (data : Text) : Prop :=
  Opens sys n → ∀ m, sys.write (n + 8) data.length = some m → m = data.length

variable {tg : Target} {sys : System} {data : Text} {k k' : Kernel} {v : Bool} {e' : XiErr}

/-- The kernel below a process. -/
def asKernel (w : (posixLayer sys).World) : Kernel := w

def kernel (p : Process tg (posixLayer sys)) : Kernel := asKernel p.world

lemma sendsFirst_iff {ts : List Transfer} (h : k'.transfers = ts ++ k.transfers) :
    SendsFirst data k k' v e' ↔
      ReadsLast data ts ∧ ((∃ fd, accepted fd ts = data) ∨ (v = false ∧ e' ≠ .noErr)) := by
  constructor
  · rintro ⟨ts', h', hrest⟩
    rw [h, List.append_left_inj] at h'
    rwa [h']
  · exact fun hrest => ⟨ts, h, hrest⟩

/-- A call without transfers. -/
lemma sendsFirst_silent (h : k'.transfers = k.transfers) (hv : v = false ∧ e' ≠ .noErr) :
    SendsFirst data k k' v e' :=
  (sendsFirst_iff (h.trans (List.nil_append _).symm)).mpr
    ⟨fun later fd earlier hts => by simp at hts, .inr hv⟩

/-- A call with a write and a read. -/
lemma sendsFirst_read {fd m : ℕ}
    (h : k'.transfers = [.reads fd, .wrote fd (data.take m)] ++ k.transfers)
    (hm : m ≤ data.length) : SendsFirst data k k' v e' ↔ m = data.length := by
  have haccepted : accepted fd [.wrote fd (data.take m)] = data.take m := by simp [accepted]
  rw [sendsFirst_iff h]
  constructor
  · rintro ⟨hreads, -⟩
    have htake := hreads [] fd [.wrote fd (data.take m)] rfl
    rw [haccepted] at htake
    have hlen := congrArg List.length htake
    rw [List.length_take] at hlen
    omega
  · rintro rfl
    rw [List.take_length] at haccepted ⊢
    refine ⟨fun later fd' earlier hts => ?_, .inl ⟨fd, haccepted⟩⟩
    cases later with
    | nil =>
      injection hts with hfd hearlier
      cases hfd
      rw [← hearlier, haccepted]
    | cons t later =>
      injection hts with _ hts
      cases later with
      | nil => injection hts with ht; cases ht
      | cons t' later => simp at hts

/-! ### One call -/

/-- The transfers of an exchange: none, or one write and one read. -/
lemma exchanged_transfers {o : Bool} {w w' : (posixLayer sys).World}
    {conn : Option (posixLayer sys).Conn} (h : Exchanged (posixLayer sys) data w o conn w') :
    (o = false ∧ (asKernel w').transfers = (asKernel w).transfers ∧
      WritesAtOnce sys (asKernel w).calls data) ∨
    ∃ fd m, Opens sys (asKernel w).calls ∧
      sys.write ((asKernel w).calls + 8) data.length = some m ∧
      (asKernel w').transfers =
        [.reads fd, .wrote fd (data.take m)] ++ (asKernel w).transfers := by
  have htransfers {conn : Connection} {k₁ k₂ : Kernel} {n : ℤ}
      {a : ℤ × Buf xiHttpMaxContentSize} {x : XiErr}
      (hopen : ∀ e, posixOpenConnection sys xiHost xiPort e (asKernel w) = .ret (some conn) e k₁)
      (hsend : ∀ e, posixSendData sys conn data e k₁ = .ret n e k₂)
      (hread : posixReadData sys conn .noErr k₂ = .ret a x (asKernel w')) :
      ∃ fd m, Opens sys (asKernel w).calls ∧
        sys.write ((asKernel w).calls + 8) data.length = some m ∧
        (asKernel w').transfers =
          [.reads fd, .wrote fd (data.take m)] ++ (asKernel w).transfers := by
    obtain ⟨hopens, -, rfl⟩ := open_conn (hopen .noErr)
    obtain ⟨m, hm, rfl⟩ := send_accepted (hsend .noErr)
    refine ⟨conn.socketFd, m, hopens, hm, ?_⟩
    rw [read_kernel hread]
    rfl
  cases h with
  | unopened hopen =>
    obtain ⟨hno, htransfers, -⟩ := @open_none sys xiHost xiPort (asKernel w) _ _ _ (hopen .noErr)
    exact .inl ⟨rfl, htransfers, fun hopens => absurd hopens hno⟩
  | unsent hopen hsend =>
    obtain ⟨-, -, rfl⟩ := @open_conn sys xiHost xiPort (asKernel w) _ _ _ _ (hopen .noErr)
    obtain ⟨hnone, rfl⟩ := send_failed (hsend .noErr)
    refine .inl ⟨rfl, rfl, fun _ m hm => ?_⟩
    exact nomatch hm.symm.trans hnone
  | unread hopen hsend hn hread => exact .inr (htransfers hopen hsend (hread .noErr))
  | answered hopen hsend hn hread => exact .inr (htransfers hopen hsend (hread .noErr))

lemma closing_transfers {w w' : (posixLayer sys).World} {conn : Option (posixLayer sys).Conn}
    {y : Option XiErr} (h : Closing (posixLayer sys) conn w y w') :
    (asKernel w').transfers = (asKernel w).transfers := by
  cases conn with
  | none => rw [h.2]
  | some conn => exact (congrArg Kernel.transfers (close_kernel (h.2 .noErr))).trans rfl

variable {c : ApiCall} {e : XiErr} {p p' : Process tg (posixLayer sys)}

/-- A call whose request fits its buffers. -/
lemma sendsFirst_fits (h56 : 56 ≤ tg.contentBufferSize) (hc : c.request.Readable)
    (hfits : c.request.Fits tg c.apiKey) (h : c.run e p = .ret v e' p') :
    SendsFirst (c.request.text tg c.apiKey) (kernel p) (kernel p') v e' ↔
      WritesAtOnce sys (kernel p).calls (c.request.text tg c.apiKey) := by
  obtain ⟨l, w⟩ := p
  have hstart : kernel ⟨l, w⟩ = asKernel w := rfl
  obtain ⟨l₁, hencode, -⟩ := (@encode_decides tg c.apiKey h56 c.request hc).1 hfits e l trivial
  rcases run_traffic h with ⟨⟨l₂, hnone⟩ | ⟨l₂, hgoto⟩, -⟩ |
    ⟨data, o, conn, w₁, y, ⟨e₁, l₂, hmakes⟩, hexchanged, hclosing, hfails⟩
  · rw [hencode] at hnone
    cases hnone
  · rw [hencode] at hgoto
    cases hgoto
  rw [hencode] at hmakes
  obtain rfl := Option.some.inj (Outcome.ret.inj hmakes).1
  have hclosed : (kernel p').transfers = (asKernel w₁).transfers := closing_transfers hclosing
  rcases exchanged_transfers hexchanged with
    ⟨rfl, htransfers, honce⟩ | ⟨fd, m, hopens, hm, htransfers⟩
  · exact iff_of_true (sendsFirst_silent (hclosed.trans htransfers) (hfails rfl)) honce
  · rw [hstart, sendsFirst_read (hclosed.trans htransfers) (sys.write_le hm)]
    constructor
    · intro hall _ m' hm'
      exact (Option.some.inj (hm'.symm.trans hm)).trans hall
    · exact fun honce => honce hopens m hm

/-- A call whose request does not fit its buffers is silent. -/
lemma sendsFirst_unfit (h56 : 56 ≤ tg.contentBufferSize) (hc : c.request.Readable)
    (hfits : ¬ c.request.Fits tg c.apiKey) (h : c.run e p = .ret v e' p') :
    SendsFirst (c.request.text tg c.apiKey) (kernel p) (kernel p') v e' := by
  obtain ⟨l, w⟩ := p
  obtain ⟨x, hx, hnone⟩ := (@encode_decides tg c.apiKey h56 c.request hc).2 hfits
  obtain ⟨l₁, hencode, -⟩ := hnone e l trivial
  rcases run_traffic h with ⟨⟨l₂, hnone⟩ | ⟨l₂, hgoto⟩, hw, hv⟩ |
    ⟨data, o, conn, w₁, y, ⟨e₁, l₂, hmakes⟩, -⟩
  · rw [hencode] at hnone
    injection hnone with _ he _
    exact sendsFirst_silent (congrArg (fun w => (asKernel w).transfers) hw) ⟨hv, he ▸ hx⟩
  · rw [hencode] at hgoto
    cases hgoto
  · rw [hencode] at hmakes
    cases hmakes

/-- **Requests are sent first**: a call that comes back has read only when its socket has accepted
the whole request, and has returned null with an error otherwise, exactly if its one write, if it
comes to that, fails or takes the whole request. -/
theorem sends_first (tg : Target) (h56 : 56 ≤ tg.contentBufferSize) (sys : System) (c : ApiCall)
    (hc : c.Readable) (e e' : XiErr) (p p' : Process tg (posixLayer sys)) (v : Bool)
    (h : c.run e p = .ret v e' p') :
    SendsFirst (c.request.text tg c.apiKey) (kernel p) (kernel p') v e' ↔
      (c.request.Fits tg c.apiKey →
        WritesAtOnce sys (kernel p).calls (c.request.text tg c.apiKey)) := by
  have hreadable : c.request.Readable := by
    rcases readable_cases hc with hreadable | ⟨xi, feedId, id, start, end_, rfl, habsent⟩
    · exact hreadable
    · obtain ⟨l, w⟩ := p
      rw [run_absentBound habsent] at h
      cases h
  by_cases hfits : c.request.Fits tg c.apiKey
  · rw [sendsFirst_fits h56 hreadable hfits h]
    exact ⟨fun honce _ => honce, fun honce => honce hfits⟩
  · exact iff_of_true (sendsFirst_unfit h56 hreadable hfits h) fun hf => absurd hf hfits

/-! ### Two sockets -/

theorem sends_first_delete :
    ∃ x p', deleteCall.run .noErr
        (⟨.fresh posixConfig, freshWorld peers⟩ : Process posixConfig (posixLayer peers)) =
          .ret true x p' ∧
      SendsFirst (deleteCall.request.text posixConfig deleteCall.apiKey) ⟨0, [], [], []⟩
        (kernel p') true x := by
  obtain ⟨conn, k', hd⟩ := delivers_answering emptyReply
    (deleteCall.request.text posixConfig deleteCall.apiKey) (freshWorld peers)
  obtain ⟨x, p', hrun⟩ := deleteCall_answered hd (.fresh posixConfig)
  refine ⟨x, p', hrun, ?_⟩
  refine (sends_first posixConfig (by decide) peers deleteCall trivial _ _ _ _ _ hrun).mpr ?_
  exact fun _ _ m hm => (Option.some.inj hm).symm

/-- A system whose sockets accept one byte a write. -/
def sparing : System :=
  { answering emptyReply with
    write := fun _ offered => some (min 1 offered)
    write_le := fun h => (Option.some.inj h).ge.trans (Nat.min_le_right ..) }

/-- The call gets a reply to the first byte of its request. -/
theorem sends_first_byte :
    ∃ x p', deleteCall.run .noErr
        (⟨.fresh posixConfig, freshWorld sparing⟩ : Process posixConfig (posixLayer sparing)) =
          .ret true x p' ∧
      ¬ SendsFirst (deleteCall.request.text posixConfig deleteCall.apiKey) ⟨0, [], [], []⟩
        (kernel p') true x := by
  have hopens : Opens sparing 0 := ⟨⟨rfl, rfl, rfl⟩, rfl, ⟨rfl, rfl⟩, rfl, rfl⟩
  have hfirst : min 1 (deleteCall.request.text posixConfig deleteCall.apiKey).length ≠
      (deleteCall.request.text posixConfig deleteCall.apiKey).length := by decide +kernel
  obtain ⟨conn, k', hd⟩ := @delivers_opened sparing ⟨0, [], [], []⟩
    (deleteCall.request.text posixConfig deleteCall.apiKey) _ emptyReply hopens rfl rfl
  obtain ⟨x, p', hrun⟩ := deleteCall_answered hd (.fresh posixConfig)
  refine ⟨x, p', hrun, fun hsends => hfirst ?_⟩
  have hreadable : deleteCall.request.Readable := trivial
  exact (sendsFirst_fits (by decide) hreadable fits_deleteCall hrun).mp hsends hopens _ rfl

end LibXively.Sending
