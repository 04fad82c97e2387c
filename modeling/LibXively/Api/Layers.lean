import LibXively.Api.Traffic
import LibXively.CLib.Runs
import LibXively.CLib.Simulations

/-!
Layers that follow each other.

The API functions see of a communication layer what its four functions answer. So where the
functions of one layer follow those of another, whole sessions over the two are the same to the
user.
-/

namespace LibXively.Layers

open LibXively.Bytes LibXively.CProc LibXively.CharArray LibXively.Structures LibXively.Runs
open LibXively.Simulations
open LibXively.HttpQueries LibXively.CommLayers LibXively.Xively LibXively.FeedRequests
open LibXively.PosixComm LibXively.PosixLayer LibXively.Exchanges LibXively.Calls LibXively.Traffic

/-- The functions of `cl'` follow those of `cl`, from related worlds and on related connections. -/
structure LayerSim (cl cl' : CommLayer) where
  worlds : cl.World → cl'.World → Prop
  conns : cl.Conn → cl'.Conn → Prop
  open_follows : ∀ a p, Follows worlds (Option.Rel conns) (cl.openConnection a p)
    (cl'.openConnection a p)
  send_follows : ∀ {c c'} d, conns c c' → Follows worlds Eq (cl.sendData c d) (cl'.sendData c' d)
  read_follows : ∀ {c c'}, conns c c' → Follows worlds Eq (cl.readData c) (cl'.readData c')
  close_follows : ∀ {c c'}, conns c c' →
    Follows worlds Eq (cl.closeConnection c) (cl'.closeConnection c')

section Function

variable {tg : Target} {cl cl' : CommLayer} {δ α α' : Type} (S : LayerSim cl cl')

/-- Processes that differ in their worlds only. -/
def LayerSim.processes (p : Process tg cl) (p' : Process tg cl') : Prop :=
  p.statics = p'.statics ∧ S.worlds p.world p'.world

/-- Frames that differ in their connections only. -/
def LayerSim.frames (f : Frame cl δ) (f' : Frame cl' δ) : Prop :=
  Option.Rel S.conns f.conn f'.conn ∧ f.response = f'.response ∧ f.dest = f'.dest

/-- What an API function works on. -/
def LayerSim.scopes (s : Process tg cl × Frame cl δ) (s' : Process tg cl' × Frame cl' δ) : Prop :=
  S.processes s.1 s'.1 ∧ S.frames s.2 s'.2

variable {S}

lemma follows_outer {A : α → α' → Prop} {m : Proc XiErr (Process tg cl) α}
    {m' : Proc XiErr (Process tg cl') α'} (h : Follows S.processes A m m') :
    Follows (@LayerSim.scopes tg cl cl' δ S) A (outer m) (outer m') :=
  h.focus (fun _ _ ht => ht.1) fun _ _ _ _ ht hs => ⟨hs, ht.2⟩

lemma follows_onStatics (m : Proc XiErr (Statics tg) α) :
    Follows (@LayerSim.scopes tg cl cl' δ S) Eq (outer (onStatics m)) (outer (onStatics m)) :=
  follows_outer ((Follows.refl m).focus (fun _ _ h => h.1) fun _ _ _ _ h hs => ⟨hs, h.2⟩)

lemma follows_onWorld {A : α → α' → Prop} {m : Proc XiErr cl.World α} {m' : Proc XiErr cl'.World α'}
    (h : Follows S.worlds A m m') :
    Follows (@LayerSim.scopes tg cl cl' δ S) A (outer (onWorld m)) (outer (onWorld m')) :=
  follows_outer (h.focus (fun _ _ h => h.2) fun _ _ _ _ h hs => ⟨h.1, hs⟩)

lemma follows_jumpIf (c : Prop) [Decidable c] :
    Follows (@LayerSim.scopes tg cl cl' δ S) Eq (jumpIf c) (jumpIf c) := by
  unfold jumpIf
  by_cases hc : c
  · rw [if_pos hc, if_pos hc]
    exact Follows.jump
  · rw [if_neg hc, if_neg hc]
    exact Follows.pure rfl

lemma follows_exchange (data : Text) :
    Follows (@LayerSim.scopes tg cl cl' δ S) Eq (exchange data) (exchange data) := by
  refine (follows_onWorld (S.open_follows _ _)).bind fun o o' ho => ?_
  refine (Follows.orJump ho).bind fun c c' hc => ?_
  refine Follows.bind (A := Eq) (Follows.modify fun s s' h => ?_) fun _ _ _ => ?_
  · exact ⟨h.1, .some hc, h.2.2⟩
  refine (follows_onWorld (S.send_follows data hc)).bind fun sent _ h => ?_
  subst h
  refine (follows_jumpIf _).bind fun _ _ _ => ?_
  refine (follows_onWorld (S.read_follows hc)).bind fun recv _ h => ?_
  subst h
  exact (follows_jumpIf _).bind fun _ _ _ => Follows.pure rfl

lemma follows_decodeStep (decode : Option (Text → Proc XiErr δ Bool)) :
    Follows (@LayerSim.scopes tg cl cl' δ S) Eq (decodeStep decode) (decodeStep decode) := by
  cases decode with
  | none => exact Follows.pure rfl
  | some decode =>
    refine (follows_onStatics _).bind fun content _ h => ?_
    subst h
    refine Follows.bind (A := Eq) ?_ fun o _ h => ?_
    · exact (Follows.refl (decode content)).focus (fun _ _ h => h.2.2.2)
        fun _ _ _ _ h hs => ⟨h.1, h.2.1, h.2.2.1, hs⟩
    · subst h
      exact follows_jumpIf _

lemma follows_consume (decode : Option (Text → Proc XiErr δ Bool))
    (buffer : Buf xiHttpMaxContentSize) :
    Follows (@LayerSim.scopes tg cl cl' δ S) Eq (consume decode buffer)
      (consume decode buffer) := by
  refine (Follows.orCrash _ _).bind fun text _ h => ?_
  subst h
  refine (follows_onStatics _).bind fun response _ h => ?_
  subst h
  refine Follows.bind (A := Eq) (Follows.modify fun s s' h => ?_) fun _ _ _ => ?_
  · exact ⟨h.1, h.2.1, rfl, h.2.2.2⟩
  exact (follows_jumpIf _).bind fun _ _ _ => follows_decodeStep decode

lemma follows_epilogue : Follows (@LayerSim.scopes tg cl cl' δ S) Eq xiFunctionEpilogue
    xiFunctionEpilogue := by
  refine Follows.get fun s s' h => ?_
  obtain ⟨p, conn, response, d⟩ := s
  obtain ⟨p', conn', response', d'⟩ := s'
  obtain ⟨-, hconn, rfl, rfl⟩ := h
  cases hconn with
  | none => exact Follows.pure rfl
  | some hc => exact (follows_onWorld (S.close_follows hc)).bind fun _ _ _ => Follows.pure rfl

/-- An API function follows itself from one layer to the other. -/
lemma follows_xiFunction (request : Proc XiErr (Statics tg) (Option Text))
    (decode : Option (Text → Proc XiErr δ Bool)) (dest : δ) :
    Follows (@LayerSim.processes tg cl cl' S) Eq (xiFunction request decode dest)
      (xiFunction request decode dest) := by
  refine Follows.withLocals (T := S.frames) ⟨.none, rfl, rfl⟩ ?_
  refine Follows.bind (A := Eq) (Follows.errHandling ?_ rfl) fun _ _ _ => follows_epilogue
  show Follows S.scopes Eq (attempt request decode) (attempt request decode)
  rw [attempt_eq, attempt_eq]
  refine (follows_onStatics request).bind fun data _ h => ?_
  subst h
  refine (Follows.orJump (A := Eq) ?_).bind fun data _ h => ?_
  · cases data with
    | none => exact .none
    | some data => exact .some rfl
  subst h
  refine (follows_exchange data).bind fun buffer _ h => ?_
  subst h
  exact follows_consume decode buffer

end Function

/-! ### Whole calls -/

/-- The object a call has filled, for the two get functions. -/
inductive Filled
  | feed (feed : XiFeed)
  | datapoint (o : XiDatapoint)
  | nothing

section Calls

variable {tg : Target} {cl cl' : CommLayer} {S : LayerSim cl cl'}

/-- What a call does: whether it returns a response, and the object it fills. -/
def perform : ApiCall → Proc XiErr (Process tg cl) (Bool × Filled)
  | .feedGet xi feed => Prod.map id Filled.feed <$> xiFeedGet xi feed
  | .datastreamGet xi feedId datastreamId o =>
    Prod.map id Filled.datapoint <$> xiDatastreamGet xi feedId datastreamId o
  | c => (fun v => (v, Filled.nothing)) <$> c.run

lemma perform_run (c : ApiCall) :
    (c.run : Proc XiErr (Process tg cl) Bool) = Prod.fst <$> perform c := by
  cases c <;> simp only [perform, ApiCall.run, Functor.map_map] <;>
    first | rfl | exact (id_map _).symm

lemma follows_map {σ σ' α β : Type} {R : σ → σ' → Prop} {m : Proc XiErr σ α} {m' : Proc XiErr σ' α}
    (h : Follows R Eq m m') (g : α → β) : Follows R Eq (g <$> m) (g <$> m') := by
  rw [map_eq_pure_bind, map_eq_pure_bind]
  exact h.bind fun _ _ ha => ha ▸ Follows.pure rfl

lemma follows_perform (c : ApiCall) :
    Follows (@LayerSim.processes tg cl cl' S) Eq (perform c) (perform c) := by
  cases c with
  | feedGet xi feed => exact follows_map (follows_xiFunction _ _ _) _
  | datastreamGet xi feedId id o => exact follows_map (follows_xiFunction _ _ _) _
  | _ => exact follows_map (follows_map (follows_xiFunction _ _ _) _) _

/-- A call as a user makes it and sees it come back: the error pending, the call, what it does, and
the error behind it. -/
abbrev Visit : Type := XiErr × ApiCall × (Bool × Filled) × XiErr

def Performs (p : Process tg cl) (i : Visit) (p' : Process tg cl) : Prop :=
  perform i.2.1 i.1 p = .ret i.2.2.1 i.2.2.2 p'

lemma performs_run {p p' : Process tg cl} {i : Visit} (h : Performs p i p') :
    i.2.1.run i.1 p = .ret i.2.2.1.1 i.2.2.2 p' := by
  rw [perform_run, map_apply, h, andThen_ret, pure_apply]

lemma run_performs {c : ApiCall} {e x : XiErr} {v : Bool} {p p' : Process tg cl}
    (h : c.run e p = .ret v x p') : ∃ o, Performs p (e, c, (v, o), x) p' := by
  rw [perform_run] at h
  obtain ⟨⟨v', o⟩, hperform, rfl⟩ := map_ret h
  exact ⟨o, hperform⟩

end Calls

/-! ### Recorded layers -/

/-- A call of a function of the layer, with its answer. -/
inductive Event (Conn : Type)
  | opened (conn : Option Conn)
  | sent (conn : Conn) (data : Text) (n : ℤ)
  | received (conn : Conn) (n : ℤ)
  | closed (conn : Conn)

section Recording

variable {World Conn α : Type} {event : α → Event Conn} {m : Proc XiErr World α} {e e' : XiErr}
  {w w' : World} {a : α} {log : List (Event Conn)}

/-- Run a function of a layer, and write it down. -/
def recording (event : α → Event Conn) (m : Proc XiErr World α) :
    Proc XiErr (World × List (Event Conn)) α := do
  let a ← outer m
  assign fun log => log ++ [event a]
  return a

lemma recording_ret (h : m e w = .ret a e' w') :
    recording event m e (w, log) = .ret a e' (w', log ++ [event a]) := by
  simp [recording, outer, focus, assign, h]

/-- The record holds what the function has answered. -/
lemma recorded_answer {s s' : World × List (Event Conn)}
    (h : recording event m e s = .ret a e' s') : s'.2 = s.2 ++ [event a] := by
  obtain ⟨w, log⟩ := s
  cases hm : m e w with
  | ret b e₁ w₁ =>
    rw [recording_ret hm] at h
    cases h
    rfl
  | goto e₁ w₁ => simp [recording, outer, focus, hm] at h
  | fault x => simp [recording, outer, focus, hm] at h

lemma recording_reports {failed : α → Prop} (h : Reports m failed) :
    Reports (recording event m) failed := by
  rintro ⟨w, log⟩
  obtain ⟨v, w', ⟨hv, hall⟩ | ⟨hv, x, hx, hall⟩⟩ := h w
  · exact ⟨v, _, .inl ⟨hv, fun e => recording_ret (hall e)⟩⟩
  · exact ⟨v, _, .inr ⟨hv, x, hx, fun e => recording_ret (hall e)⟩⟩

/-- A recorded function does what it does unrecorded. -/
lemma follows_recording :
    Follows (fun w (s : World × List (Event Conn)) => s.1 = w) Eq m (recording event m) := by
  rintro e _ ⟨w, log⟩ rfl
  cases hm : m e w with
  | ret a e' w' =>
    rw [recording_ret hm]
    exact .ret rfl rfl
  | goto e' w' =>
    simp only [recording, outer, focus, bind_apply, hm, andThen_goto]
    exact .goto rfl
  | fault x =>
    simp only [recording, outer, focus, bind_apply, hm, andThen_fault]
    exact .fault x

end Recording

/-- A layer that writes down what is asked of it. -/
def recorded (cl : CommLayer) : CommLayer where
  World := cl.World × List (Event cl.Conn)
  Conn := cl.Conn
  openConnection a p := recording .opened (cl.openConnection a p)
  sendData c d := recording (.sent c d) (cl.sendData c d)
  readData c := recording (fun r => .received c r.1) (cl.readData c)
  closeConnection c := recording (fun _ => .closed c) (cl.closeConnection c)
  delivers c s := cl.delivers c s.1
  open_reports a p := recording_reports (cl.open_reports a p)
  send_reports c d := recording_reports (cl.send_reports c d)
  read_some {c s d} h := by
    obtain ⟨w', hread⟩ := cl.read_some h
    exact ⟨_, fun e => recording_ret (hread e)⟩
  read_none {c s} h := by
    obtain ⟨x, b, w', hx, hread⟩ := cl.read_none h
    exact ⟨x, b, _, hx, fun e => recording_ret (hread e)⟩
  close_reports c s := by
    obtain ⟨x, w', hx, hclose⟩ := cl.close_reports c s.1
    exact ⟨x, _, hx, fun e => recording_ret (hclose e)⟩

/-- A recorded layer follows the layer it records. -/
def recordedSim (cl : CommLayer) : LayerSim cl (recorded cl) where
  worlds w s := s.1 = w
  conns := Eq
  open_follows a p := follows_recording.mono fun o o' h => by
    subst h
    cases o with
    | none => exact .none
    | some c => exact .some rfl
  send_follows d h := h ▸ follows_recording
  read_follows h := h ▸ follows_recording
  close_follows h := h ▸ follows_recording

/-! ### Runs -/

variable {tg : Target} {cl cl' : CommLayer}

/-- **Layers alike**: where the functions of one layer follow those of another, every run of calls
over the one is a run over the other: the user sees the same responses, objects and errors, the
static buffers are the same, and the call behind it faults over the one exactly if it does over the
other. -/
theorem layers_alike (S : LayerSim cl cl') {p p₁ : Process tg cl} {p' : Process tg cl'}
    {is : List Visit} (hp : S.processes p p') (hrun : Run Performs p is p₁) :
    ∃ p₁', Run Performs p' is p₁' ∧ S.processes p₁ p₁' ∧
      ∀ c e x, perform c e p₁ = .fault x ↔ perform c e p₁' = .fault x := by
  obtain ⟨p₁', hrun', hp₁⟩ := @Run.simulated _ _ _ _ _ Performs _ _ _ S.processes id
    (fun {p i p₁ p'} hp h => by
      obtain ⟨a', p₁', h', rfl, hp₁⟩ := (follows_perform i.2.1).ret hp h
      exact ⟨p₁', h', hp₁⟩) hrun _ hp
  rw [List.map_id] at hrun'
  exact ⟨p₁', hrun', hp₁, fun c e x => (follows_perform c).faults_iff hp₁⟩

/-- Over these peers a deletion gets its response. -/
lemma deleteCall_performs (p : Process posixConfig (posixLayer peers)) :
    ∃ x p', Performs p (.noErr, deleteCall, (true, .nothing), x) p' := by
  obtain ⟨conn, k', hd⟩ := delivers_answering emptyReply
    (deleteCall.request.text posixConfig deleteCall.apiKey) p.world
  obtain ⟨x, p', hrun⟩ := @deleteCall_answered (posixLayer peers) _ _ _ hd p.statics
  exact ⟨x, p', ret_map hrun _⟩

/-- A process over these peers that has not begun. -/
def idle : Process posixConfig (posixLayer peers) := ⟨.fresh posixConfig, freshWorld peers⟩

/-- The get, and the deletion that is refused for the error it has left. -/
lemma getThenDelete_performs (p : Process posixConfig (posixLayer peers)) : ∃ o x o' y p',
    x ≠ .noErr ∧ Run Performs p
      [(.noErr, getCall, (true, o), x), (x, deleteCall, (false, o'), y)] p' := by
  obtain ⟨x, p₁, y, p₂, hget, hx, hdelete, -⟩ := getThenDelete_runs p
  obtain ⟨o, hget⟩ := run_performs hget
  obtain ⟨o', hdelete⟩ := run_performs hdelete
  exact ⟨o, x, o', y, p₂, hx, .cons hget (.cons hdelete (.nil p₂))⟩

theorem layers_alike_recorded : ∃ o x o' y p₁, x ≠ .noErr ∧ Run Performs idle
      [(.noErr, getCall, (true, o), x), (x, deleteCall, (false, o'), y)] p₁ ∧
    ∃ p₁', Run Performs (⟨idle.statics, (idle.world, [])⟩ : Process posixConfig (recorded _))
        [(.noErr, getCall, (true, o), x), (x, deleteCall, (false, o'), y)] p₁' ∧
      (recordedSim _).processes p₁ p₁' ∧
      ∀ c e z, perform c e p₁ = .fault z ↔ perform c e p₁' = .fault z := by
  obtain ⟨o, x, o', y, p₁, hx, hrun⟩ := getThenDelete_performs idle
  have hstart : (recordedSim _).processes idle
      (⟨idle.statics, (idle.world, [])⟩ : Process posixConfig (recorded _)) := ⟨rfl, rfl⟩
  exact ⟨o, x, o', y, p₁, hx, hrun, layers_alike _ hstart hrun⟩

end LibXively.Layers
