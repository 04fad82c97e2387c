import Mathlib.Data.List.Chain
import LibXively.Api.Calls

/-!
Sessions: calls of the API one after the other.

The error variable is the one thing a call hands on to the next. A call may return a response and
leave an error behind; the parser takes that error for an error of the next reply.
-/

namespace LibXively.Sessions

open LibXively.Bytes LibXively.CProc LibXively.CharArray LibXively.Structures
open LibXively.HttpQueries LibXively.HttpParser LibXively.CommLayers LibXively.Xively
open LibXively.Datapoints LibXively.PosixComm LibXively.PosixLayer LibXively.Head LibXively.Calls

/-! ### One reply -/

/-- What the parser makes of a reply: whether it accepts it, and the response; nothing if it
faults. -/
def judgement (text : Text) (e : XiErr) (r : HttpResponse) : Option (Bool × HttpResponse) :=
  match parseHttp text e r with
  | .ret v _ r' => some (v, r')
  | _ => none

/-- A reply is judged alike from any response and two errors unless it is good and exactly one of
the errors is none. -/
lemma judgement_eq_iff (text : Text) (e₁ e₂ : XiErr) (r₁ r₂ : HttpResponse) :
    judgement text e₁ r₁ = judgement text e₂ r₂ ↔
      ((e₁ = .noErr ↔ e₂ = .noErr) ∨ headVerdict text ≠ .good) := by
  cases hv : headVerdict text with
  | good =>
    obtain ⟨r', hnone, hsome⟩ := parseHttp_good hv
    unfold judgement
    by_cases h₁ : e₁ = .noErr <;> by_cases h₂ : e₂ = .noErr <;>
      simp [h₁, h₂, hnone, hsome]
  | refused =>
    obtain ⟨x, r', -, hrun⟩ := parseHttp_refused hv
    simp [judgement, hrun]
  | crash => simp [judgement, parseHttp_crash hv]

/-! ### Sessions -/

variable {tg : Target} {cl : CommLayer}

/-- The user makes a call, and reads the error if it has returned null. -/
def userCall (c : ApiCall) : Proc XiErr (Process tg cl) Bool := do
  let response ← c.run
  if response = false then do
    let _ ← xiGetLastError
  return response

/-- The answers of a session: a fault is the last of them. -/
def answers : List ApiCall → XiErr → Process tg cl → List (Option Bool)
  | [], _, _ => []
  | c :: cs, e, p =>
    match userCall c e p with
    | .ret v e' p' => some v :: answers cs e' p'
    | _ => [none]

/-- The calls of a session, each with the world it starts in. -/
def visits : List ApiCall → XiErr → Process tg cl → List (ApiCall × cl.World)
  | [], _, _ => []
  | c :: cs, e, p => (c, p.world) ::
    match userCall c e p with
    | .ret _ e' p' => visits cs e' p'
    | _ => []

/-- The answer a call gets on its own: from a fresh process with no error pending. -/
def ownAnswer (tg : Target) (v : ApiCall × cl.World) : Option Bool :=
  match (v.1.run : Proc XiErr (Process tg cl) Bool) .noErr ⟨.fresh tg, v.2⟩ with
  | .ret a _ _ => some a
  | _ => none

/-- The next call does not get a good reply behind a call that has left an error. -/
def Undisturbed (tg : Target) (v v' : ApiCall × cl.World) : Prop :=
  ¬ (v.1.LeavesError tg v.2 ∧ v'.1.WellAnswered tg v'.2)

lemma userCall_true {c : ApiCall} {e e' : XiErr} {p p' : Process tg cl}
    (h : c.run e p = .ret true e' p') : userCall c e p = .ret true e' p' := by
  simp [userCall, h]

lemma userCall_false {c : ApiCall} {e e' : XiErr} {p p' : Process tg cl}
    (h : c.run e p = .ret false e' p') : userCall c e p = .ret false .noErr p' := by
  simp [userCall, h, xiGetLastError]

lemma userCall_fault {c : ApiCall} {e : XiErr} {f : Fault} {p : Process tg cl}
    (h : c.run e p = .fault f) : userCall c e p = .fault f := by
  simp [userCall, h]

section Rounds

variable {c : ApiCall} {cs : List ApiCall} {e e' : XiErr} {p p' : Process tg cl} {v : Bool}

lemma answers_ret (h : userCall c e p = .ret v e' p') :
    answers (c :: cs) e p = some v :: answers cs e' p' := by rw [answers, h]

lemma visits_ret (h : userCall c e p = .ret v e' p') :
    visits (c :: cs) e p = (c, p.world) :: visits cs e' p' := by rw [visits, h]

lemma answers_fault {f : Fault} (h : userCall c e p = .fault f) :
    answers (c :: cs) e p = [none] := by rw [answers, h]

lemma visits_fault {f : Fault} (h : userCall c e p = .fault f) :
    visits (c :: cs) e p = [(c, p.world)] := by rw [visits, h]

lemma ownAnswer_ret {x : XiErr} {w : cl.World} {p' : Process tg cl}
    (h : c.run .noErr (⟨.fresh tg, w⟩ : Process tg cl) = .ret v x p') :
    ownAnswer tg (c, w) = some v := by simp [ownAnswer, h]

end Rounds

/-- A session gets the answers of its calls on their own exactly if no error is pending where its
first call is well answered, and none is left in front of a later one. -/
lemma answers_own_iff (h56 : 56 ≤ tg.contentBufferSize) (cs : List ApiCall)
    (hcs : ∀ c ∈ cs, c.Readable) (e : XiErr) (p : Process tg cl) :
    answers cs e p = (visits cs e p).map (ownAnswer tg) ↔
      (∀ v ∈ (visits cs e p).head?, e = .noErr ∨ ¬ v.1.WellAnswered tg v.2) ∧
        (visits cs e p).IsChain (Undisturbed tg) := by
  induction cs generalizing e p with
  | nil => simp [answers, visits]
  | cons c cs ih =>
    obtain ⟨l, w⟩ := p
    have hrest := ih fun c' hc' => hcs c' (List.mem_cons_of_mem c hc')
    rcases run_ends h56 (hcs c (List.mem_cons_self ..)) w with
      ⟨hwell, w', hnone, hsome⟩ | ⟨hbad, ⟨w', hfails⟩ | ⟨f, hfault⟩⟩
    · obtain ⟨x₀, l₀, hown, -⟩ := hnone (.fresh tg)
      by_cases he : e = .noErr
      · -- the call is judged as on its own, and the error it leaves is pending at the next
        subst he
        obtain ⟨x, l', hrun, hx⟩ := hnone l
        have hnext (v : ApiCall × cl.World) :
            (x = .noErr ∨ ¬ v.1.WellAnswered tg v.2) ↔ Undisturbed tg (c, w) v := by
          rw [Undisturbed, ← hx]
          tauto
        rw [answers_ret (userCall_true hrun), visits_ret (userCall_true hrun), List.map_cons,
          ownAnswer_ret hown, List.cons.injEq, hrest, List.isChain_cons]
        simp [hnext]
      · obtain ⟨x, l', -, hrun⟩ := hsome e l he
        rw [answers_ret (userCall_false hrun), visits_ret (userCall_false hrun), List.map_cons,
          ownAnswer_ret hown]
        simp [he, hwell]
    · -- the call fails in any case, and the user reads its error
      obtain ⟨x, l', -, hrun⟩ := hfails e l
      obtain ⟨x₀, l₀, -, hown⟩ := hfails .noErr (.fresh tg)
      have hleaves : ¬ c.LeavesError tg w := by
        rintro ⟨conn, text, w'', hans, hv, -⟩
        exact hbad ⟨conn, text, w'', hans, hv⟩
      rw [answers_ret (userCall_false hrun), visits_ret (userCall_false hrun), List.map_cons,
        ownAnswer_ret hown, List.cons.injEq, hrest, List.isChain_cons]
      simp [hbad, Undisturbed, hleaves]
    · rw [answers_fault (userCall_fault (hfault e l)), visits_fault (userCall_fault (hfault e l))]
      simp [ownAnswer, hfault, hbad]

/-- **Replies on their own**: a reply is judged alike under any two errors unless it is good and
one of the two is no error. A session that starts with no error pending gets the answers its calls
would get on their own exactly if none of its calls gets a good reply behind a call that has
returned a response and left an error. -/
theorem replies_on_their_own (tg : Target) (h56 : 56 ≤ tg.contentBufferSize) (cl : CommLayer) :
    (∀ (text : CString) e₁ e₂ r₁ r₂,
      judgement text.bytes e₁ r₁ = judgement text.bytes e₂ r₂ ↔
        ((e₁ = .noErr ↔ e₂ = .noErr) ∨ headVerdict text.bytes ≠ .good)) ∧
    ∀ (cs : List ApiCall) (p : Process tg cl), (∀ c ∈ cs, c.Readable) →
      (answers cs .noErr p = (visits cs .noErr p).map (ownAnswer tg) ↔
        (visits cs .noErr p).IsChain (Undisturbed tg)) := by
  refine ⟨fun text => judgement_eq_iff text.bytes, fun cs p hcs => ?_⟩
  rw [answers_own_iff h56 cs hcs .noErr p]
  exact and_iff_right fun _ _ => .inl rfl

lemma visits_singleton (c : ApiCall) (e : XiErr) (p : Process tg cl) :
    visits [c] e p = [(c, p.world)] := by
  unfold visits
  split <;> rfl

/-! ### Two sessions -/

/-- A deletion, and a get that is well answered behind it. -/
theorem replies_on_their_own_delete :
    answers [deleteCall, getCall] .noErr
      (⟨.fresh posixConfig, freshWorld peers⟩ : Process posixConfig (posixLayer peers)) =
        (visits [deleteCall, getCall] .noErr
          (⟨.fresh posixConfig, freshWorld peers⟩ : Process posixConfig (posixLayer peers))).map
            (ownAnswer posixConfig) ∧
    ∃ k, visits [deleteCall, getCall] .noErr
      (⟨.fresh posixConfig, freshWorld peers⟩ : Process posixConfig (posixLayer peers)) =
        [(deleteCall, freshWorld peers), (getCall, k)] ∧ getCall.WellAnswered posixConfig k := by
  obtain ⟨k₁, hdelete, -⟩ := endsWell_peers fits_deleteCall trivial (freshWorld peers)
  obtain ⟨x, l₁, hrun, -⟩ := hdelete (.fresh posixConfig)
  have hvisits : visits [deleteCall, getCall] .noErr
      (⟨.fresh posixConfig, freshWorld peers⟩ : Process posixConfig (posixLayer peers)) =
        [(deleteCall, freshWorld peers), (getCall, k₁)] := by
    rw [visits_ret (userCall_true hrun), visits_singleton]
  obtain ⟨conn, k₂, hget⟩ := answered_peers fits_getCall k₁
  refine ⟨((replies_on_their_own posixConfig (by decide) _).2 _ _ ?_).mpr ?_, k₁, hvisits,
    conn, _, k₂, hget, headVerdict_emptyReply⟩
  · exact List.forall_mem_cons.mpr ⟨trivial, List.forall_mem_singleton.mpr trivial⟩
  · rw [hvisits]
    exact List.isChain_pair.mpr fun hdisturbed => not_leavesError_deleteCall _ hdisturbed.1

/-- The deletion is refused because of the get in front of it, whose content is no datapoint. -/
theorem leftover_error :
    judgement emptyReply.bytes .noErr .zero ≠
      judgement emptyReply.bytes .csvDecodeDatapointParserError .zero ∧
    answers [getCall, deleteCall] .noErr
      (⟨.fresh posixConfig, freshWorld peers⟩ : Process posixConfig (posixLayer peers)) =
        [some true, some false] ∧
    (visits [getCall, deleteCall] .noErr
      (⟨.fresh posixConfig, freshWorld peers⟩ : Process posixConfig (posixLayer peers))).map
        (ownAnswer posixConfig) = [some true, some true] := by
  refine ⟨?_, ?_⟩
  · rw [ne_eq, judgement_eq_iff]
    simp [headVerdict_emptyReply]
  obtain ⟨x, p₁, y, p₂, hget, -, hdelete, -⟩ :=
    getThenDelete_runs ⟨.fresh posixConfig, freshWorld peers⟩
  obtain ⟨k, hown, -⟩ := endsWell_peers fits_deleteCall trivial p₁.world
  obtain ⟨z, l, hown, -⟩ := hown (.fresh posixConfig)
  have hfirst := userCall_true hget
  have hsecond := userCall_false hdelete
  rw [answers_ret hfirst, answers_ret hsecond, visits_ret hfirst, visits_ret hsecond]
  simp [answers, visits, ownAnswer_ret hget, ownAnswer_ret hown]

end LibXively.Sessions
