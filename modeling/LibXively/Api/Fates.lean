import LibXively.Api.Sessions
import LibXively.CLib.Runs
import LibXively.Comm.DummyLayer

/-!
Sessions as runs of a machine with two states.

What becomes of a call is settled by the call and the world it is made in, up to one bit: whether an
error is pending. A session is then a walk of that bit over what its calls do on their own, and it
is safe as far as its peers send what the parser can read.
-/

namespace LibXively.Fates

open LibXively.Bytes LibXively.CProc LibXively.CharArray LibXively.Structures
open LibXively.HttpQueries LibXively.HttpParser LibXively.CommLayers LibXively.Xively
open LibXively.PosixComm LibXively.PosixLayer
open LibXively.DummyLayer LibXively.Append LibXively.FeedRequests
open LibXively.Runs LibXively.Head LibXively.Exchanges LibXively.Calls LibXively.Sessions

variable {tg : Target} {cl : CommLayer}

/-! ### One call -/

/-- What becomes of a call, and the world behind it: it faults, it returns null, or it returns a
response and may leave an error. -/
inductive Fate (World : Type)
  | faults
  | fails (w : World)
  | responds (leaves : Bool) (w : World)

/-- The fate of a call: what it does on its own, in a fresh process with no error pending. -/
def fate (tg : Target) (cl : CommLayer) (c : ApiCall) (w : cl.World) : Fate cl.World :=
  match (c.run : Proc XiErr (Process tg cl) Bool) .noErr ⟨.fresh tg, w⟩ with
  | .ret true e p => .responds (e ≠ .noErr) p.world
  | .ret false _ p => .fails p.world
  | _ => .faults

/-- What the call does to a session that is in some state. -/
def Fate.Holds (f : Fate cl.World) (tg : Target) (c : ApiCall) (w : cl.World) : Prop :=
  match f with
  | .faults => ∃ x, ∀ e (l : Statics tg), c.run e (⟨l, w⟩ : Process tg cl) = .fault x
  | .fails w' => ∀ e (l : Statics tg), ∃ x l', x ≠ .noErr ∧
      c.run e (⟨l, w⟩ : Process tg cl) = .ret false x ⟨l', w'⟩
  | .responds leaves w' =>
    (∀ l : Statics tg, ∃ x l', (x ≠ .noErr ↔ leaves) ∧
      c.run .noErr (⟨l, w⟩ : Process tg cl) = .ret true x ⟨l', w'⟩) ∧
    ∀ e (l : Statics tg), e ≠ .noErr → ∃ x l', x ≠ .noErr ∧
      c.run e (⟨l, w⟩ : Process tg cl) = .ret false x ⟨l', w'⟩

/-- A call has its fate in every process. -/
lemma fate_holds (h56 : 56 ≤ tg.contentBufferSize) {c : ApiCall} (hc : c.Readable) (w : cl.World) :
    (fate tg cl c w).Holds tg c w := by
  rcases run_ends h56 hc w with ⟨-, w', hnone, hsome⟩ | ⟨-, ⟨w', hfails⟩ | ⟨x, hfault⟩⟩
  · obtain ⟨x, l', hown, hx⟩ := hnone (.fresh tg)
    have hfate : fate tg cl c w = .responds (x ≠ .noErr) w' := by simp only [fate, hown]
    rw [hfate]
    refine ⟨fun l => ?_, hsome⟩
    obtain ⟨y, l'', hrun, hy⟩ := hnone l
    exact ⟨y, l'', by simp [hy, hx], hrun⟩
  · obtain ⟨x, l', -, hown⟩ := hfails .noErr (.fresh tg)
    have hfate : fate tg cl c w = .fails w' := by simp only [fate, hown]
    rw [hfate]
    exact hfails
  · have hfate : fate tg cl c w = .faults := by simp only [fate, hfault]
    rw [hfate]
    exact ⟨x, hfault⟩

/-! ### Sessions -/

/-- What a user does: make a call, or read the error. -/
inductive Action
  | call (c : ApiCall)
  | readError

/-- The arguments of the call are strings and counts it may read. -/
def Action.Readable : Action → Prop
  | .call c => c.Readable
  | .readError => True

/-- What the user sees of an action: whether there is a response, and whether an error was
pending. -/
def Action.run : Action → Proc XiErr (Process tg cl) Bool
  | .call c => c.run
  | .readError => do
    let e ← xiGetLastError
    return e ≠ .noErr

/-- What the user sees of a session. A fault is the last of it. -/
def seen : List Action → XiErr → Process tg cl → List (Option Bool)
  | [], _, _ => []
  | a :: as, e, p =>
    match a.run e p with
    | .ret v e' p' => some v :: seen as e' p'
    | _ => [none]

/-- The machine: an error is pending or not, and the next call is made in `w`. -/
def foreseen (tg : Target) : List Action → Bool → cl.World → List (Option Bool)
  | [], _, _ => []
  | .readError :: as, pending, w => some pending :: foreseen tg as false w
  | .call c :: as, pending, w =>
    match fate tg cl c w with
    | .faults => [none]
    | .fails w' => some false :: foreseen tg as true w'
    | .responds leaves w' => some (!pending) :: foreseen tg as (pending || leaves) w'

section Steps

variable {a : Action} {as : List Action} {e e' : XiErr} {p p' : Process tg cl} {v : Bool}

lemma seen_ret (h : a.run e p = .ret v e' p') :
    seen (a :: as) e p = some v :: seen as e' p' := by rw [seen, h]

lemma readError_run (e : XiErr) (p : Process tg cl) :
    Action.readError.run e p = .ret (decide (e ≠ .noErr)) .noErr p := by
  simp [Action.run, xiGetLastError]

lemma seen_fault {x : Fault} (h : a.run e p = .fault x) : seen (a :: as) e p = [none] := by
  rw [seen, h]

end Steps

/-- **Sessions of two states**: whatever a user calls and whenever the error is read, over every
layer and from any static buffers, all that is seen of a session is what the machine foresees from
what the calls do on their own. -/
theorem seen_eq_foreseen (tg : Target) (h56 : 56 ≤ tg.contentBufferSize) (cl : CommLayer)
    (as : List Action) (has : ∀ a ∈ as, a.Readable) (e : XiErr) (p : Process tg cl) :
    seen as e p = foreseen tg as (e ≠ .noErr) p.world := by
  induction as generalizing e p with
  | nil => rfl
  | cons a as ih =>
    obtain ⟨l, w⟩ := p
    obtain ⟨ha, hrest⟩ := List.forall_mem_cons.mp has
    cases a with
    | readError =>
      rw [seen_ret (readError_run e _), ih hrest]
      simp [foreseen]
    | call c =>
      have hfate := fate_holds h56 ha w
      cases hf : fate tg cl c w with
      | faults =>
        rw [hf] at hfate
        obtain ⟨x, hfault⟩ := hfate
        have hrun : (Action.call c).run e (⟨l, w⟩ : Process tg cl) = .fault x := hfault e l
        rw [seen_fault hrun, foreseen, hf]
      | fails w' =>
        rw [hf] at hfate
        obtain ⟨x, l', hx, hrun⟩ := hfate e l
        have hrun : (Action.call c).run e (⟨l, w⟩ : Process tg cl) = .ret false x ⟨l', w'⟩ := hrun
        rw [seen_ret hrun, ih hrest, foreseen, hf]
        simp [hx]
      | responds leaves w' =>
        rw [hf] at hfate
        obtain ⟨hnone, hsome⟩ := hfate
        rw [foreseen, hf]
        by_cases he : e = .noErr
        · subst he
          obtain ⟨x, l', hx, hrun⟩ := hnone l
          have hrun : (Action.call c).run .noErr (⟨l, w⟩ : Process tg cl) =
            .ret true x ⟨l', w'⟩ := hrun
          rw [seen_ret hrun, ih hrest]
          simp [hx]
        · -- the error that is pending has the good reply refused
          obtain ⟨x, l', hx, hrun⟩ := hsome e l he
          have hrun : (Action.call c).run e (⟨l, w⟩ : Process tg cl) = .ret false x ⟨l', w'⟩ := hrun
          rw [seen_ret hrun, ih hrest]
          simp [hx, he]

/-- A get without a datapoint, the error it leaves, and a deletion. -/
def getThenDelete : List Action := [.call getCall, .readError, .call deleteCall]

lemma readable_getThenDelete : ∀ a ∈ getThenDelete, a.Readable :=
  List.forall_mem_cons.mpr ⟨trivial, List.forall_mem_cons.mpr ⟨trivial,
    List.forall_mem_cons.mpr ⟨trivial, by simp⟩⟩⟩

theorem seen_eq_foreseen_get :
    seen getThenDelete .noErr
      (⟨.fresh posixConfig, freshWorld peers⟩ : Process posixConfig (posixLayer peers)) =
    foreseen posixConfig getThenDelete false (freshWorld peers) :=
  seen_eq_foreseen posixConfig (by decide) _ _ readable_getThenDelete .noErr _

/-! ### Safety -/

/-- Whatever the peer delivers to the call is a string with no header line that ends directly behind
its colon. -/
def Parsable (tg : Target) (c : ApiCall) (w : cl.World) : Prop :=
  c.request.Fits tg c.apiKey → ∀ conn d w',
    Delivers cl (c.request.text tg c.apiKey) w conn d w' →
      ∃ text, cstr d.buffer = some text ∧ headVerdict text ≠ .crash

lemma endsWell_returns {c : ApiCall} {w : cl.World} (h : EndsWell tg c w)
    (e : XiErr) (l : Statics tg) :
    ∃ v e' p', c.run e (⟨l, w⟩ : Process tg cl) = .ret v e' p' := by
  obtain ⟨w', hnone, hsome⟩ := h
  by_cases he : e = .noErr
  · subst he
    obtain ⟨x, l', hrun, -⟩ := hnone l
    exact ⟨true, x, _, hrun⟩
  · obtain ⟨x, l', -, hrun⟩ := hsome e l he
    exact ⟨false, x, _, hrun⟩

/-- A call comes back exactly if its request can be made from its arguments, and what is delivered
can be parsed. -/
lemma run_returns_iff (h56 : 56 ≤ tg.contentBufferSize) {c : ApiCall} (hc : c.Readable) (e : XiErr)
    (p : Process tg cl) : (∃ v e' p', c.run e p = .ret v e' p') ↔
      c.request.Readable ∧ Parsable tg c p.world := by
  obtain ⟨l, w⟩ := p
  have hno {x : Fault} (h : c.run e (⟨l, w⟩ : Process tg cl) = .fault x) :
      ¬ ∃ v e' p', c.run e (⟨l, w⟩ : Process tg cl) = .ret v e' p' := by
    rintro ⟨v, e', p', hrun⟩
    rw [h] at hrun
    cases hrun
  rcases readable_cases hc with hreadable | ⟨xi, feedId, id, start, end_, rfl, habsent⟩
  swap
  · refine iff_of_false (hno (run_absentBound habsent e l w)) fun h => ?_
    rcases habsent with rfl | rfl
    · exact absurd h.1.1 (by simp)
    · exact absurd h.1.2 (by simp)
  obtain ⟨δ, request, decode, dest, hrun, hreq, -⟩ := @run_eq tg cl h56 c hreadable
  rw [and_iff_right hreadable]
  by_cases hdel : c.request.Fits tg c.apiKey ∧ ∃ conn d w',
      Delivers cl (c.request.text tg c.apiKey) w conn d w'
  · obtain ⟨hfits, conn, d, w', hd⟩ := hdel
    have honly : Parsable tg c w ↔
        ∃ text, cstr d.buffer = some text ∧ headVerdict text ≠ .crash := by
      refine ⟨fun h => h hfits conn d w' hd, fun h _ conn' d' w'' hd' => ?_⟩
      obtain ⟨-, rfl, -⟩ := delivers_unique hd hd'
      exact h
    rw [honly]
    cases ht : cstr d.buffer with
    | none =>
      refine iff_of_false (@hno .overread ?_) (by simp)
      rw [hrun, run_fault (overread_unterminated hreq hfits hd ht e l dest)]
    | some text =>
      have hans : c.Answered tg w conn text w' := ⟨hfits, d, hd, ht⟩
      cases hv : headVerdict text with
      | good =>
        rcases run_delivered h56 hreadable hfits hd with ⟨-, hwell⟩ | ⟨hbad, -⟩
        · exact iff_of_true (endsWell_returns hwell e l) ⟨text, rfl, by simp [hv]⟩
        · exact absurd ⟨conn, text, w', hans, hv⟩ hbad
      | refused =>
        obtain ⟨w'', hfails⟩ := fails_refused decode hreq hans hv
        obtain ⟨x, l', -, hret⟩ := hfails e l dest
        exact iff_of_true ⟨false, x, _, by rw [hrun, run_ret hret]⟩ ⟨text, rfl, by simp [hv]⟩
      | crash =>
        refine iff_of_false (@hno .badLength ?_) (by simp [hv])
        rw [hrun, run_fault (badLength_crash hreq hans hv e l dest)]
  · obtain ⟨w', hfails⟩ := fails_undelivered decode hreq
      fun conn d w' hfits hd => hdel ⟨hfits, conn, d, w', hd⟩
    obtain ⟨x, l', -, hret⟩ := hfails e l dest
    exact iff_of_true ⟨false, x, _, by rw [hrun, run_ret hret]⟩
      fun hfits conn d w' hd => absurd ⟨hfits, conn, d, w', hd⟩ hdel

/-- One action of a session: the error and the process it starts in, and those behind it. -/
def sessionStep (tg : Target) (cl : CommLayer) (s : XiErr × Process tg cl) (a : Action) :
    Option (XiErr × Process tg cl) :=
  match a.run s.1 s.2 with
  | .ret _ e p => some (e, p)
  | _ => none

/-- A call has both bounds if it deletes a range, and what is delivered to it can be parsed. -/
def SafeAction (s : XiErr × Process tg cl) : Action → Prop
  | .call c => c.request.Readable ∧ Parsable tg c s.2.world
  | .readError => True

lemma sessionStep_some_iff (h56 : 56 ≤ tg.contentBufferSize) {a : Action} (ha : a.Readable)
    (s : XiErr × Process tg cl) :
    (∃ s', sessionStep tg cl s a = some s') ↔ SafeAction s a := by
  have hstep : (∃ s', sessionStep tg cl s a = some s') ↔
      ∃ v e' p', a.run s.1 s.2 = .ret v e' p' := by
    unfold sessionStep
    cases a.run s.1 s.2 <;> simp
  rw [hstep]
  cases a with
  | call c => exact run_returns_iff h56 ha s.1 s.2
  | readError => exact iff_of_true ⟨_, _, _, rfl⟩ trivial

/-- **Safe sessions**: over every layer, a session comes to its end without a fault exactly if every
call it comes to has its bounds, if it deletes a range, and is delivered nothing but strings without
a header line that the parser comes to and that ends directly behind its colon. -/
theorem sessions_safe (tg : Target) (h56 : 56 ≤ tg.contentBufferSize) (cl : CommLayer)
    (as : List Action) (has : ∀ a ∈ as, a.Readable) (e : XiErr) (p : Process tg cl) :
    Completes (sessionStep tg cl) as (e, p) ↔ Admits (sessionStep tg cl) SafeAction as (e, p) :=
  completes_iff as (fun _ ha s => sessionStep_some_iff h56 (has _ ha) s) (e, p)

/-- Over these peers a call is delivered the one reply. -/
lemma parsable_peers (c : ApiCall) (k : (posixLayer peers).World) : Parsable posixConfig c k := by
  intro hfits conn d k' hd
  obtain ⟨conn', k₁, hd'⟩ := delivers_answering emptyReply (c.request.text posixConfig c.apiKey) k
  obtain ⟨-, rfl, -⟩ := delivers_unique hd' hd
  exact ⟨_, cstr_emptyReply, by rw [headVerdict_emptyReply]; decide⟩

theorem sessions_safe_get :
    Completes (sessionStep posixConfig (posixLayer peers)) getThenDelete
      (.noErr, ⟨.fresh posixConfig, freshWorld peers⟩) := by
  refine (sessions_safe posixConfig (by decide) _ _ readable_getThenDelete _ _).mpr ?_
  exact ⟨⟨trivial, parsable_peers _ _⟩, fun _ _ => ⟨trivial, fun _ _ =>
    ⟨⟨trivial, parsable_peers _ _⟩, fun _ _ => trivial⟩⟩⟩

/-! ### The dummy layer -/

section Dummy

variable {sys : System}

/-- The dummy layer delivers the empty string, and that is no reply. -/
lemma delivers_dummy {data : Text} {k k' : (dummyLayer sys).World} {conn : (dummyLayer sys).Conn}
    {d : Received} (h : Delivers (dummyLayer sys) data k conn d k') :
    cstr d.buffer = some [] ∧ headVerdict [] = .refused := by
  obtain ⟨w₁, n, w₂, -, -, -, hdel, -⟩ := h
  obtain rfl := Option.some.inj hdel
  exact ⟨by decide +kernel, by decide +kernel⟩

lemma readable_of_request {c : ApiCall} (hc : c.request.Readable) : c.Readable := by
  cases c <;> first | exact hc | trivial

lemma dummy_fails (h56 : 56 ≤ tg.contentBufferSize) {c : ApiCall} (hc : c.request.Readable)
    (k : (dummyLayer sys).World) : ∃ k', ∀ e (l : Statics tg), ∃ x l', x ≠ .noErr ∧
      c.run e (⟨l, k⟩ : Process tg (dummyLayer sys)) = .ret false x ⟨l', k'⟩ := by
  have hparsable : Parsable tg c k := fun _ conn d k' hd => by
    obtain ⟨ht, hv⟩ := delivers_dummy hd
    exact ⟨_, ht, by rw [hv]; decide⟩
  rcases run_ends h56 (readable_of_request hc) k with
    ⟨⟨conn, text, k', ⟨-, d, hd, ht⟩, hgood⟩, -⟩ | ⟨-, hfails | ⟨f, hfault⟩⟩
  · obtain ⟨ht', hv⟩ := delivers_dummy hd
    obtain rfl := Option.some.inj (ht'.symm.trans ht)
    rw [hv] at hgood
    cases hgood
  · exact hfails
  · obtain ⟨v, e', p', hrun⟩ := (run_returns_iff h56 (readable_of_request hc) .noErr
      (⟨.fresh tg, k⟩ : Process tg (dummyLayer sys))).mpr ⟨hc, hparsable⟩
    rw [hfault] at hrun
    cases hrun

/-- What is seen of a session whose calls all fail. -/
def foreseenFailing : List Action → Bool → List (Option Bool)
  | [], _ => []
  | .readError :: as, pending => some pending :: foreseenFailing as false
  | .call _ :: as, _ => some false :: foreseenFailing as true

/-- The request of the call can be made from its arguments. -/
def Action.Complete : Action → Prop
  | .call c => c.request.Readable
  | .readError => True

/-- **Sessions over the dummy layer**: no call of a session faults or gets a response, as long as
the arguments of each can be read and its ranges have both their bounds, whatever memory runs out
and whatever has been pending, and each of them leaves an error. -/
theorem dummy_seen (tg : Target) (h56 : 56 ≤ tg.contentBufferSize) (sys : System) (as : List Action)
    (has : ∀ a ∈ as, a.Complete) (e : XiErr) (p : Process tg (dummyLayer sys)) :
    seen as e p = foreseenFailing as (e ≠ .noErr) := by
  induction as generalizing e p with
  | nil => rfl
  | cons a as ih =>
    obtain ⟨ha, hrest⟩ := List.forall_mem_cons.mp has
    cases a with
    | readError => rw [seen_ret (readError_run e p), ih hrest]; simp [foreseenFailing]
    | call c =>
      obtain ⟨l, k⟩ := p
      obtain ⟨k', hfails⟩ := dummy_fails h56 ha k
      obtain ⟨x, l', hx, hrun⟩ := hfails e l
      have hrun : (Action.call c).run e (⟨l, k⟩ : Process tg (dummyLayer sys)) =
        .ret false x ⟨l', k'⟩ := hrun
      rw [seen_ret hrun, ih hrest]
      simp [foreseenFailing, hx]

theorem dummy_seen_get :
    seen [.call getCall, .readError, .readError] .noErr
      (⟨.fresh posixConfig, freshWorld peers⟩ : Process posixConfig (dummyLayer peers)) =
    [some false, some true, some false] := by
  have hactions : ∀ a ∈ [Action.call getCall, .readError, .readError], a.Complete :=
    List.forall_mem_cons.mpr ⟨trivial, List.forall_mem_cons.mpr ⟨trivial,
      List.forall_mem_cons.mpr ⟨trivial, by simp⟩⟩⟩
  exact dummy_seen posixConfig (by decide) peers _ hactions .noErr _

end Dummy

end LibXively.Fates
