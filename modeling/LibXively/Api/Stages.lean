import LibXively.Api.ErrorSources
import LibXively.Api.Fates

/-!
What the pending error says of a session.

A call fails at one of its stages, or succeeds. The error that is pending names the stage at which
the last call failed that was not a mere failure to decode: such a failure needs a good reply, and
with an error pending the parser takes no reply for good.
-/

namespace LibXively.Stages

open LibXively.Bytes LibXively.CProc LibXively.CharArray LibXively.Triples LibXively.Structures
open LibXively.CsvData LibXively.HttpQueries LibXively.HttpParser LibXively.CommLayers
open LibXively.Xively LibXively.Append LibXively.Encoders LibXively.FeedRequests
open LibXively.PosixComm LibXively.PosixLayer LibXively.Runs
open LibXively.Head LibXively.Exchanges LibXively.Calls LibXively.Fates LibXively.ErrorSources

variable {tg : Target} {cl : CommLayer} {δ : Type}

/-! ### Errors of the steps -/

section Steps

variable {σ α : Type} {m : Proc XiErr σ α} {st : Stage} {e x : XiErr} {s s' : σ} {a : α}

/-- What a confined function returns with, from no error pending. -/
lemma of_ret (h : Confined (Of st) m) (hrun : m .noErr s = .ret a x s') : Of st x :=
  Triple.ret h (.inl rfl) hrun

lemma of_goto (h : Confined (Of st) m) (hrun : m .noErr s = .goto x s') : Of st x := by
  have hmeets := h .noErr s (.inl rfl)
  rwa [hrun] at hmeets

end Steps

lemma confined_exchange (hcl : TrafficOnly cl) (data : Text) : Confined (Of .traffic)
    (exchange data : Proc XiErr (Process tg cl × Frame cl δ) (Buf xiHttpMaxContentSize)) := by
  have hjump (c : Prop) [Decidable c] :
      Confined (Of .traffic) (jumpIf c : Proc XiErr (Process tg cl × Frame cl δ) Unit) :=
    .ite (fun _ => .jump) fun _ => .pure _
  exact (hcl.openConnection _ _).focus.outer.bind fun _ => Confined.orJump.bind fun _ =>
    (Confined.assign _).bind fun _ => (hcl.sendData _ _).focus.outer.bind fun _ =>
      (hjump _).bind fun _ => (hcl.readData _).focus.outer.bind fun _ => (hjump _).bind fun _ =>
        .pure _

/-- An error a close sets is one of traffic. -/
lemma of_closing (hcl : TrafficOnly cl) {conn : Option cl.Conn} {w w' : cl.World} {y : XiErr}
    (hc : Closing cl conn w (some y) w') : stageOf y = some .traffic := by
  cases conn with
  | none => cases hc.1
  | some conn =>
    have hy : y ≠ .noErr := fun h => hc.1 (congrArg some h)
    exact (of_ret (hcl.closeConnection conn) (hc.2 .noErr)).stageOf hy

/-! ### A call -/

/-- Where the reply to a call fails. -/
inductive ReplyFailsAt (tg : Target) (c : ApiCall) (text : Text) : Option Stage → Prop
  | refused (hv : headVerdict text = .refused) : ReplyFailsAt tg c text (some .reply)
  | undecoded (hv : headVerdict text = .good) (hno : ¬ c.Accepts tg (payloadOf text)) :
      ReplyFailsAt tg c text (some .content)
  | accepted (hv : headVerdict text = .good) (hok : c.Accepts tg (payloadOf text)) :
      ReplyFailsAt tg c text none

/-- Where a call fails on its own. -/
inductive FailsAt (tg : Target) (c : ApiCall) (w : cl.World) : Option Stage → Prop
  | unmade (h : ¬ c.request.Fits tg c.apiKey) : FailsAt tg c w (some .request)
  | undelivered (hfits : c.request.Fits tg c.apiKey)
      (h : ∀ conn d w', ¬ Delivers cl (c.request.text tg c.apiKey) w conn d w') :
      FailsAt tg c w (some .traffic)
  | unclosed {conn text w'} (h : c.Answered tg w conn text w') (hclose : CloseFails cl conn w') :
      FailsAt tg c w (some .traffic)
  | answered {conn text w' st} (h : c.Answered tg w conn text w')
      (hclose : ¬ CloseFails cl conn w') (hreply : ReplyFailsAt tg c text st) : FailsAt tg c w st

lemma ReplyFailsAt.unique {c : ApiCall} {text : Text} {st st' : Option Stage}
    (h : ReplyFailsAt tg c text st) (h' : ReplyFailsAt tg c text st') : st' = st := by
  cases h <;> cases h' <;> first | rfl | simp_all

/-- A call fails at one stage at most. -/
lemma FailsAt.unique {c : ApiCall} {w : cl.World} {st st' : Option Stage}
    (h : FailsAt tg c w st) (h' : FailsAt tg c w st') : st' = st := by
  cases h with
  | unmade hno =>
    cases h' with
    | unmade => rfl
    | undelivered hfits => exact absurd hfits hno
    | unclosed h' => exact absurd h'.1 hno
    | answered h' => exact absurd h'.1 hno
  | undelivered hfits hno =>
    cases h' with
    | unmade hno' => exact absurd hfits hno'
    | undelivered => rfl
    | unclosed h' => obtain ⟨-, d, hd, -⟩ := h'; exact absurd hd (hno _ _ _)
    | answered h' => obtain ⟨-, d, hd, -⟩ := h'; exact absurd hd (hno _ _ _)
  | unclosed h hclose =>
    cases h' with
    | unmade hno => exact absurd h.1 hno
    | undelivered _ hno => obtain ⟨-, d, hd, -⟩ := h; exact absurd hd (hno _ _ _)
    | unclosed => rfl
    | answered h' hclose' =>
      obtain ⟨rfl, rfl, rfl⟩ := answered_unique h h'
      exact absurd hclose hclose'
  | answered h hclose hreply =>
    cases h' with
    | unmade hno => exact absurd h.1 hno
    | undelivered _ hno => obtain ⟨-, d, hd, -⟩ := h; exact absurd hd (hno _ _ _)
    | unclosed h' hclose' =>
      obtain ⟨rfl, rfl, rfl⟩ := answered_unique h h'
      exact absurd hclose' hclose
    | answered h' _ hreply' =>
      obtain ⟨rfl, rfl, rfl⟩ := answered_unique h h'
      exact hreply.unique hreply'

/-- The stage that is blamed behind an action, from the one blamed before it and the stage at which
the action fails on its own. -/
def blame (pending : Option Stage) : Action × Option Stage → Option Stage
  | (.readError, _) => none
  | (.call _, none) => pending
  | (.call _, some .content) => pending.or (some .content)
  | (.call _, some st) => some st

section Function

variable {request : Proc XiErr (Statics tg) (Option Text)} {data : Text} {fits : Prop}
  {decode : Option (Text → Proc XiErr δ Bool)} {dest : δ} {e x : XiErr} {y : Option XiErr}
  {w w' w'' : cl.World} {conn : cl.Conn} {text : Text} {l : Statics tg}

/-- A reply that is rejected leaves the error the parser has left, unless the close sets one. -/
lemma rejected_ret (hreq : Decides request fits data) (h : Answered cl fits data w conn text w')
    (hparse : ∀ r, ∃ r', parseHttp text e r = .ret false x r')
    (hc : Closing cl (some conn) w' y w'') (l : Statics tg) (dest : δ) : ∃ l',
    xiFunction request decode dest e (⟨l, w⟩ : Process tg cl) =
      .ret (false, dest) (y.getD x) ⟨l', w''⟩ := by
  obtain ⟨hfits, d, hd, ht⟩ := h
  obtain ⟨l', hdata, -⟩ := hreq.1 hfits e l trivial
  obtain ⟨r', hr'⟩ := hparse l'.response
  refine ⟨{ l' with response := r' }, xiFunction_ret (errHandling_goto () ?_) hc⟩
  rw [attempt, bind_ret (onStatics_ret hdata)]
  exact bind_goto (getResponse_rejected hd ht hr' dest)

/-- A request that cannot be made leaves its own error. -/
lemma unmade_ret (hreq : Decides request fits data) (h : Confined (Of .request) request)
    (hfits : ¬ fits) (w : cl.World) (dest : δ) : ∃ x, stageOf x = some .request ∧ ∀ e l, ∃ l',
      xiFunction request decode dest e (⟨l, w⟩ : Process tg cl) =
        .ret (false, dest) x ⟨l', w⟩ := by
  obtain ⟨x, hx, hnone⟩ := hreq.2 hfits
  obtain ⟨l₁, hown, -⟩ := hnone .noErr (.fresh tg) trivial
  refine ⟨x, (of_ret h hown).stageOf hx, fun e l => ?_⟩
  obtain ⟨l', hdata, -⟩ := hnone e l trivial
  have hc : Closing cl none w none w := ⟨rfl, rfl⟩
  refine ⟨l', xiFunction_ret (x := none) (errHandling_goto () ?_) hc⟩
  rw [attempt, bind_ret (onStatics_ret hdata)]
  exact bind_goto rfl

/-- So does an exchange that does not come about. -/
lemma undelivered_ret (hcl : TrafficOnly cl) (hreq : Decides request fits data) (hfits : fits)
    (h : ∀ conn d w', ¬ Delivers cl data w conn d w') (dest : δ) :
    ∃ x w', stageOf x = some .traffic ∧ ∀ e l, ∃ l',
      xiFunction request decode dest e (⟨l, w⟩ : Process tg cl) =
        .ret (false, dest) x ⟨l', w'⟩ := by
  obtain ⟨x, conn, w₁, hx, hexchange⟩ := exchange_fails tg δ h
  obtain ⟨y, w', hc⟩ := exists_closing conn w₁
  refine ⟨y.getD x, w', ?_, fun e l => ?_⟩
  · cases y with
    | some y => exact of_closing hcl hc
    | none =>
      have hgoto := hexchange .noErr (.fresh tg) dest
      exact (of_goto (confined_exchange hcl data) hgoto).stageOf hx
  · obtain ⟨l', hdata, -⟩ := hreq.1 hfits e l trivial
    refine ⟨l', xiFunction_ret (errHandling_goto () ?_) hc⟩
    rw [attempt, bind_ret (onStatics_ret hdata)]
    refine bind_goto ?_
    rw [xiFunctionGetResponse, bind_ret (orJump_some _ _ _)]
    exact bind_goto (hexchange e l' dest)

end Function

/-! ### The decoders -/

/-- A decoder of an object, or none, sets errors of contents only. -/
def ConfinedDecoder (decode : Option (Text → Proc XiErr δ Bool)) : Prop :=
  ∀ d ∈ decode, ∀ content, Confined (Of .content) (d content)

lemma of_decoded {decode : Option (Text → Proc XiErr δ Bool)} (h : ConfinedDecoder decode)
    {content : Text} {dest dest' : δ} {x : XiErr} (hd : Decoded decode content dest dest' x) :
    Of .content x := by
  cases decode with
  | none => exact .inl hd.2
  | some d =>
    obtain ⟨ok, hrun⟩ := hd
    exact of_ret (h d rfl content) hrun

/-- A call is an API function whose request and decoder are confined. -/
lemma run_confined (h56 : 56 ≤ tg.contentBufferSize) {c : ApiCall} (hc : c.request.Readable) :
    ∃ (δ : Type) (decode : Option (Text → Proc XiErr δ Bool)) (dest : δ),
      (c.run : Proc XiErr (Process tg cl) Bool) =
        Prod.fst <$> xiFunction (c.request.encode tg c.apiKey) decode dest ∧
      Decides (c.request.encode tg c.apiKey) (c.request.Fits tg c.apiKey)
        (c.request.text tg c.apiKey) ∧
      ∀ content, ∃ dest' x, Decoded decode content dest dest' x ∧ Of .content x ∧
        (x = .noErr ↔ c.Accepts tg content) := by
  have hnone (p : Prop) (hp : p) (content : Text) : ∃ dest' x,
      Decoded (none : Option (Text → Proc XiErr Unit Bool)) content () dest' x ∧
        Of .content x ∧ (x = .noErr ↔ p) := ⟨(), .noErr, ⟨rfl, rfl⟩, .inl rfl, by simp [hp]⟩
  have hreq := @encode_decides tg c.apiKey h56 _ hc
  cases c with
  | feedGet xi feed =>
    refine ⟨_, some (csvDecodeFeed tg), feed, rfl, hreq, fun content => ?_⟩
    obtain ⟨f, x, hd, hx⟩ := @decoded_feed tg content feed
    have hconfined : ConfinedDecoder (some (csvDecodeFeed tg)) := by
      rintro d ⟨⟩
      exact confined_decodeFeed
    exact ⟨f, x, hd, of_decoded hconfined hd, hx⟩
  | datastreamGet xi feedId id o =>
    refine ⟨_, some (csvDecodeDatapoint tg), o, rfl, hreq, fun content => ?_⟩
    obtain ⟨f, x, hd, hx⟩ := @decoded_point tg content o
    have hconfined : ConfinedDecoder (some (csvDecodeDatapoint tg)) := by
      rintro d ⟨⟩
      exact confined_decodeDatapoint
    exact ⟨f, x, hd, of_decoded hconfined hd, hx⟩
  | _ => exact ⟨_, none, (), rfl, hreq, hnone _ trivial⟩

section Calls

variable {c : ApiCall} {e x : XiErr} {v : Bool} {decode : Option (Text → Proc XiErr δ Bool)}
  {dest : δ} {l : Statics tg} {w w' w'' : cl.World} {conn : cl.Conn} {text : Text}
  {y : Option XiErr}

/-- What an answered call leaves, but for its close. -/
lemma answered_blames (hreq : Decides (c.request.encode tg c.apiKey) (c.request.Fits tg c.apiKey)
      (c.request.text tg c.apiKey))
    (hcontent : ∀ content, ∃ dest' x, Decoded decode content dest dest' x ∧ Of .content x ∧
      (x = .noErr ↔ c.Accepts tg content))
    (h : c.Answered tg w conn text w') (hcrash : headVerdict text ≠ .crash)
    (hclose : Closing cl (some conn) w' y w'') (e : XiErr) (l : Statics tg) :
    ∃ v d x p' own, xiFunction (c.request.encode tg c.apiKey) decode dest e
        (⟨l, w⟩ : Process tg cl) = .ret (v, d) (y.getD x) p' ∧
      ReplyFailsAt tg c text own ∧ stageOf x = blame (stageOf e) (.call c, own) := by
  cases hv : headVerdict text with
  | crash => exact absurd hv hcrash
  | refused =>
    obtain ⟨x, r', hx, hparse⟩ := parseHttp_refused hv
    obtain ⟨l', hl'⟩ := rejected_ret hreq h (fun r => ⟨r', hparse e r⟩) hclose l dest
    have hstage := (of_ret (confined_parseHttp text) (hparse .noErr .zero)).stageOf hx
    exact ⟨_, _, x, _, _, hl', .refused hv, hstage⟩
  | good =>
    obtain ⟨dest', x, hdec, hof, hx⟩ := hcontent (payloadOf text)
    by_cases he : e = .noErr
    · subst he
      obtain ⟨l', hl'⟩ := responds_good hreq h hv hdec hclose l
      by_cases hacc : c.Accepts tg (payloadOf text)
      · exact ⟨_, _, x, _, _, hl', .accepted hv hacc, by rw [hx.mpr hacc]; rfl⟩
      · exact ⟨_, _, x, _, _, hl', .undecoded hv hacc, hof.stageOf (mt hx.mp hacc)⟩
    · -- the error that is pending has the good reply refused, and stays
      obtain ⟨r', -, hpending⟩ := parseHttp_good hv
      obtain ⟨l', hl'⟩ := rejected_ret hreq h (fun r => ⟨r', hpending e r he⟩) hclose l dest
      obtain ⟨st, hst⟩ := Option.ne_none_iff_exists'.mp (mt stageOf_eq_none.mp he)
      by_cases hacc : c.Accepts tg (payloadOf text)
      · exact ⟨_, _, e, _, _, hl', .accepted hv hacc, rfl⟩
      · exact ⟨_, _, e, _, _, hl', .undecoded hv hacc, by rw [hst]; rfl⟩

/-- What a call leaves is what it is blamed for. -/
lemma call_blames (h56 : 56 ≤ tg.contentBufferSize) (hcl : TrafficOnly cl)
    (hc : c.request.Readable) {p p' : Process tg cl} (h : c.run e p = .ret v x p') :
    ∃ own, FailsAt tg c p.world own ∧ stageOf x = blame (stageOf e) (.call c, own) := by
  obtain ⟨l, w⟩ := p
  obtain ⟨δ, decode, dest, hrun, hreq, hcontent⟩ := @run_confined tg cl h56 c hc
  rw [hrun] at h
  have hsame {v₁ : Bool} {d₁ : δ} {x₁ : XiErr} {p₁ : Process tg cl}
      (h₁ : xiFunction (c.request.encode tg c.apiKey) decode dest e (⟨l, w⟩ : Process tg cl) =
        .ret (v₁, d₁) x₁ p₁) : x = x₁ :=
    (Outcome.ret.inj (h.symm.trans (ret_map h₁ Prod.fst))).2.1
  have hfault {f : Fault} (hf : xiFunction (c.request.encode tg c.apiKey) decode dest e
      (⟨l, w⟩ : Process tg cl) = .fault f) : False := by
    rw [run_fault hf] at h
    cases h
  by_cases hfits : c.request.Fits tg c.apiKey
  swap
  · obtain ⟨x₁, hx₁, hret⟩ := unmade_ret hreq (confined_encode c.request) hfits w dest
    obtain ⟨l', hl'⟩ := hret e l
    exact ⟨_, .unmade hfits, by rw [hsame hl', hx₁]; rfl⟩
  by_cases hdel : ∃ conn d w', Delivers cl (c.request.text tg c.apiKey) w conn d w'
  swap
  · have hno (conn d w') (hd : Delivers cl (c.request.text tg c.apiKey) w conn d w') : False :=
      hdel ⟨conn, d, w', hd⟩
    obtain ⟨x₁, w₁, hx₁, hret⟩ := undelivered_ret hcl hreq hfits hno dest
    obtain ⟨l', hl'⟩ := hret e l
    exact ⟨_, .undelivered hfits hno, by rw [hsame hl', hx₁]; rfl⟩
  obtain ⟨conn, d, w', hd⟩ := hdel
  cases ht : cstr d.buffer with
  | none => exact (hfault (overread_unterminated hreq hfits hd ht e l dest)).elim
  | some text =>
    have hans : c.Answered tg w conn text w' := ⟨hfits, d, hd, ht⟩
    have hcrash : headVerdict text ≠ .crash := fun hv =>
      hfault (badLength_crash hreq hans hv e l dest)
    obtain ⟨y, w'', hclose⟩ := exists_closing (some conn) w'
    obtain ⟨v₁, d₁, x₁, p₁, own, hret, hreply, hx₁⟩ :=
      answered_blames hreq hcontent hans hcrash hclose e l
    cases y with
    | some y =>
      -- an error of the close hides the one before it
      have hfails : CloseFails cl conn w' := (closeFails_iff hclose).mpr (by simp)
      exact ⟨_, .unclosed hans hfails, by
        rw [hsame hret, Option.getD_some, of_closing hcl hclose]; rfl⟩
    | none =>
      have hcloses : ¬ CloseFails cl conn w' := by simp [closeFails_iff hclose]
      exact ⟨own, .answered hans hcloses hreply, by rw [hsame hret, Option.getD_none, hx₁]⟩

end Calls

/-! ### Sessions -/

/-- An action of a session, with the stage at which it fails on its own. -/
def Told (tg : Target) (cl : CommLayer) (s : XiErr × Process tg cl) (i : Action × Option Stage)
    (s' : XiErr × Process tg cl) : Prop :=
  sessionStep tg cl s i.1 = some s' ∧
    match i.1 with
    | .call c => FailsAt tg c s.2.world i.2
    | .readError => i.2 = none

lemma Told.unique {s s' s'' : XiErr × Process tg cl} {a : Action} {st st' : Option Stage}
    (h : Told tg cl s (a, st) s') (h' : Told tg cl s (a, st') s'') : s'' = s' ∧ st' = st := by
  refine ⟨Option.some.inj (h'.1.symm.trans h.1), ?_⟩
  cases a with
  | call c => exact FailsAt.unique h.2 h'.2
  | readError => exact Eq.trans h'.2 h.2.symm

lemma session_blames (h56 : 56 ≤ tg.contentBufferSize) (hcl : TrafficOnly cl) {a : Action}
    (ha : a.Complete) {s s' : XiErr × Process tg cl} (h : sessionStep tg cl s a = some s') :
    ∃ own, Told tg cl s (a, own) s' ∧ stageOf s'.1 = blame (stageOf s.1) (a, own) := by
  obtain ⟨e, p⟩ := s
  cases hrun : a.run e p with
  | goto e' p' => simp [sessionStep, hrun] at h
  | fault f => simp [sessionStep, hrun] at h
  | ret v e' p' =>
    obtain rfl : (e', p') = s' := by simpa [sessionStep, hrun] using h
    cases a with
    | call c =>
      obtain ⟨own, hown, hstage⟩ := call_blames h56 hcl ha hrun
      exact ⟨own, ⟨h, hown⟩, hstage⟩
    | readError =>
      rw [readError_run] at hrun
      cases hrun
      exact ⟨none, ⟨h, rfl⟩, rfl⟩

/-- **Errors name their stage**: over each of the four layers (over mbed, while no pointer has been
deleted that nobody had written), the error pending behind a session is of the stage that the calls
since it was last read are to be blamed for: a request that does not fit, an exchange or a close
that fails and a reply that is refused hide what has been pending, and a content that cannot be
decoded is reported only if nothing is. -/
theorem errors_name_their_stage (h56 : 56 ≤ tg.contentBufferSize) (hcl : Shipped cl)
    {as : List Action} (has : ∀ a ∈ as, a.Complete) {s s' : XiErr × Process tg cl}
    (h : Run (fun s a s' => sessionStep tg cl s a = some s') s as s') :
    ∃ is, (is.map Prod.fst = as ∧ Run (Told tg cl) s is s') ∧
      (∀ is', is'.map Prod.fst = as → Run (Told tg cl) s is' s' → is' = is) ∧
      stageOf s'.1 = is.foldl blame (stageOf s.1) := by
  induction h with
  | nil s => exact ⟨[], ⟨rfl, .nil s⟩, fun is' h' _ => List.map_eq_nil_iff.mp h', rfl⟩
  | @cons s s₁ s' a as hstep _ ih =>
    obtain ⟨ha, hrest⟩ := List.forall_mem_cons.mp has
    obtain ⟨is, ⟨rfl, hrun⟩, honly, hstage⟩ := ih hrest
    obtain ⟨own, htold, hfirst⟩ := session_blames h56 hcl.trafficOnly ha hstep
    refine ⟨(a, own) :: is, ⟨rfl, .cons htold hrun⟩, fun is' h' hrun' => ?_, ?_⟩
    · cases hrun' with
      | nil => cases h'
      | @cons _ s₂ _ i is' htold' hrun' =>
        obtain ⟨a', st⟩ := i
        obtain ⟨rfl, hmap⟩ := List.cons.inj h'
        obtain ⟨rfl, rfl⟩ := htold.unique htold'
        rw [honly is' hmap hrun']
    · rw [List.foldl_cons, ← hfirst, hstage]

/-- A get whose content cannot be decoded, and the deletion that is refused for it. -/
theorem errors_name_their_stage_delete : ∃ s' is,
    is.map Prod.fst = [.call getCall, .call deleteCall] ∧
    Run (Told posixConfig (posixLayer peers)) (.noErr, ⟨.fresh _, freshWorld peers⟩) is s' ∧
    s'.1 ≠ .noErr ∧ stageOf s'.1 = is.foldl blame (stageOf .noErr) := by
  obtain ⟨x, p₁, y, p₂, hget, -, hdelete, hy⟩ :=
    getThenDelete_runs ⟨.fresh posixConfig, freshWorld peers⟩
  have hfirst : sessionStep posixConfig (posixLayer peers)
      (.noErr, ⟨.fresh _, freshWorld peers⟩) (.call getCall) = some (x, p₁) := by
    simp only [sessionStep, Action.run, hget]
  have hsecond : sessionStep posixConfig (posixLayer peers) (x, p₁) (.call deleteCall) =
      some (y, p₂) := by
    simp only [sessionStep, Action.run, hdelete]
  have hcomplete : ∀ a ∈ [Action.call getCall, .call deleteCall], a.Complete :=
    List.forall_mem_cons.mpr ⟨trivial, List.forall_mem_singleton.mpr trivial⟩
  obtain ⟨is, ⟨hmap, htold⟩, -, hstage⟩ := errors_name_their_stage (by decide) (.posix _)
    hcomplete (.cons hfirst (.cons hsecond (.nil _)))
  exact ⟨_, is, hmap, htold, hy, hstage⟩

end LibXively.Stages
