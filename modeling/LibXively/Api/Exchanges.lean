import LibXively.Model.Xively
import LibXively.Replies.Head
import LibXively.Requests.Append

/-!
One API function, from its request to its return.

A call ends in one of six ways, and the request, the world and the reply decide in which: the error
variable has a part in it only where a reply is good. Each way is one lemma.
-/

namespace LibXively.Exchanges

open LibXively.Bytes LibXively.CProc LibXively.CharArray LibXively.Structures
open LibXively.HttpQueries LibXively.HttpParser LibXively.CommLayers LibXively.Xively
open LibXively.Append LibXively.Head

/-! ### Operations of the layer below -/

section Reports

variable {σ α : Type} {m : Proc XiErr σ α} {failed : α → Prop} {s s' : σ} {v : α}

/-- What succeeds with no error pending succeeds with any. -/
lemma reports_ret (h : Reports m failed) (hrun : m .noErr s = .ret v .noErr s') (e : XiErr) :
    m e s = .ret v e s' := by
  obtain ⟨v₁, s₁, ⟨-, hall⟩ | ⟨-, x, hx, hall⟩⟩ := h s
  · have hone := hall .noErr
    rw [hrun] at hone
    injection hone with hv _ hs
    subst hv hs
    exact hall e
  · have hone := hall .noErr
    rw [hrun] at hone
    injection hone with _ he _
    exact absurd he.symm hx

end Reports

variable {cl : CommLayer}

/-- The request goes out on a connection, and the peer delivers `d` to the read. -/
def Delivers (cl : CommLayer) (data : Text) (w : cl.World) (conn : cl.Conn) (d : Received)
    (w' : cl.World) : Prop :=
  ∃ w₁ n w₂, cl.openConnection xiHost xiPort .noErr w = .ret (some conn) .noErr w₁ ∧
    cl.sendData conn data .noErr w₁ = .ret n .noErr w₂ ∧ n ≠ -1 ∧ cl.delivers conn w₂ = some d ∧
    cl.readData conn .noErr w₂ = .ret (d.bytes.length, d.buffer) .noErr w'

lemma delivers_unique {data : Text} {w w' w'' : cl.World} {conn conn' : cl.Conn}
    {d d' : Received} (h : Delivers cl data w conn d w') (h' : Delivers cl data w conn' d' w'') :
    conn' = conn ∧ d' = d ∧ w'' = w' := by
  obtain ⟨w₁, n, w₂, hopen, hsend, -, hdel, hread⟩ := h
  obtain ⟨v₁, k, v₂, hopen', hsend', -, hdel', hread'⟩ := h'
  rw [hopen] at hopen'
  injection hopen' with hc _ hw
  cases hc; cases hw
  rw [hsend] at hsend'
  injection hsend' with _ _ hw
  cases hw
  rw [hdel] at hdel'
  cases hdel'
  rw [hread] at hread'
  injection hread' with _ _ hw
  exact ⟨rfl, rfl, hw.symm⟩

/-- What becomes of a connection at the exit of an API function: the world behind it, and the error
that is set, if one is. -/
def Closing (cl : CommLayer) (conn : Option cl.Conn) (w : cl.World) (x : Option XiErr)
    (w' : cl.World) : Prop :=
  match conn with
  | none => x = none ∧ w' = w
  | some conn => x ≠ some .noErr ∧ ∀ e, cl.closeConnection conn e w = .ret () (x.getD e) w'

lemma exists_closing (conn : Option cl.Conn) (w : cl.World) : ∃ x w', Closing cl conn w x w' := by
  cases conn with
  | none => exact ⟨none, w, rfl, rfl⟩
  | some conn => exact cl.close_reports conn w

lemma closing_error {conn : Option cl.Conn} {w w' : cl.World} {x : Option XiErr}
    (h : Closing cl conn w x w') {e : XiErr} (he : e ≠ .noErr) : x.getD e ≠ .noErr := by
  cases x with
  | none => exact he
  | some x =>
    cases conn with
    | none => cases h.1
    | some conn => simpa using h.1

/-! ### The steps of an API function -/

variable {tg : Target} {δ : Type} {e e' : XiErr} {l l' : Statics tg} {w w' : cl.World}
  {f : Frame cl δ}

section Scopes

variable {α : Type} {v : α}

lemma onStatics_ret {m : Proc XiErr (Statics tg) α} (h : m e l = .ret v e' l') :
    outer (onStatics m) e ((⟨l, w⟩ : Process tg cl), f) = .ret v e' (⟨l', w⟩, f) := by
  simp [outer, onStatics, focus, h]

lemma onStatics_fault {m : Proc XiErr (Statics tg) α} {x : Fault} (h : m e l = .fault x) :
    outer (onStatics m) e ((⟨l, w⟩ : Process tg cl), f) = .fault x := by
  simp [outer, onStatics, focus, h]

lemma onWorld_ret {m : Proc XiErr cl.World α} (h : m e w = .ret v e' w') :
    outer (onWorld m) e ((⟨l, w⟩ : Process tg cl), f) = .ret v e' (⟨l, w'⟩, f) := by
  simp [outer, onWorld, focus, h]

lemma jumpIf_pos {c : Prop} [Decidable c] (h : c) {σ : Type} (e : XiErr) (s : σ) :
    jumpIf c e s = .goto e s := by rw [jumpIf, if_pos h]; rfl

lemma jumpIf_neg {c : Prop} [Decidable c] (h : ¬ c) {σ : Type} (e : XiErr) (s : σ) :
    jumpIf c e s = .ret () e s := by rw [jumpIf, if_neg h]; rfl

end Scopes

/-- The local variables at the start of an API function. -/
def start (cl : CommLayer) (dest : δ) : Frame cl δ := ⟨none, false, dest⟩

variable {data text : Text} {conn : cl.Conn} {d : Received} {dest dest' : δ}

lemma orJump_some {σ α : Type} (a : α) (e : XiErr) (s : σ) :
    (orJump (some a) : Proc XiErr σ α) e s = .ret a e s := rfl

lemma orJump_none {σ α : Type} (e : XiErr) (s : σ) :
    (orJump none : Proc XiErr σ α) e s = .goto e s := rfl

lemma assign_apply {σ τ : Type} (g : τ → τ) (e : XiErr) (s : σ) (t : τ) :
    assign g e (s, t) = .ret () e (s, g t) := rfl

lemma exchange_delivers (h : Delivers cl data w conn d w') (e : XiErr) (l : Statics tg)
    (dest : δ) : exchange data e ((⟨l, w⟩ : Process tg cl), start cl dest) =
      .ret d.buffer e (⟨l, w'⟩, ⟨some conn, false, dest⟩) := by
  obtain ⟨w₁, n, w₂, hopen, hsend, hn, hdel, hread⟩ := h
  have hread' : cl.readData conn e w₂ = .ret (d.bytes.length, d.buffer) e w' := by
    obtain ⟨v, hv⟩ := cl.read_some hdel
    have hone := hv .noErr
    rw [hread] at hone
    injection hone with _ _ hw
    rw [hv e, hw]
  have hlen : ¬ ((d.bytes.length : ℤ) = -1) := by omega
  rw [exchange, bind_ret (onWorld_ret (reports_ret (cl.open_reports _ _) hopen e)),
    bind_ret (orJump_some _ _ _), bind_ret (assign_apply _ _ _ _),
    bind_ret (onWorld_ret (reports_ret (cl.send_reports _ _) hsend e)),
    bind_ret (jumpIf_neg hn _ _), bind_ret (onWorld_ret hread'), bind_ret (jumpIf_neg hlen _ _)]
  rfl

/-! ### The ways an exchange goes -/

/-- The ways an exchange goes from a world, up to the close: whether a reply has been read, the
connection that is left open, and the world behind it. -/
inductive Exchanged (cl : CommLayer) (data : Text) (w : cl.World) :
    Bool → Option cl.Conn → cl.World → Prop
  | unopened {x w'} (hopen : ∀ e, cl.openConnection xiHost xiPort e w = .ret none x w') :
      Exchanged cl data w false none w'
  | unsent {conn w₁ x w'}
      (hopen : ∀ e, cl.openConnection xiHost xiPort e w = .ret (some conn) e w₁)
      (hsend : ∀ e, cl.sendData conn data e w₁ = .ret (-1) x w') :
      Exchanged cl data w false (some conn) w'
  | unread {conn w₁ n w₂ x b w'}
      (hopen : ∀ e, cl.openConnection xiHost xiPort e w = .ret (some conn) e w₁)
      (hsend : ∀ e, cl.sendData conn data e w₁ = .ret n e w₂) (hn : n ≠ -1)
      (hread : ∀ e, cl.readData conn e w₂ = .ret (-1, b) x w') :
      Exchanged cl data w false (some conn) w'
  | answered {conn w₁ n w₂ d w'}
      (hopen : ∀ e, cl.openConnection xiHost xiPort e w = .ret (some conn) e w₁)
      (hsend : ∀ e, cl.sendData conn data e w₁ = .ret n e w₂) (hn : n ≠ -1)
      (hread : ∀ e, cl.readData conn e w₂ = .ret ((d : Received).bytes.length, d.buffer) e w') :
      Exchanged cl data w true (some conn) w'

/-- What sending and reading leave alone is behind an exchange what it is behind its attempt to open
a connection. -/
lemma Exchanged.opened {o : Bool} {conn : Option cl.Conn} {β : Type} {held : cl.World → β}
    (hsend : ∀ c d e n x w w', cl.sendData c d e w = .ret n x w' → held w' = held w)
    (hread : ∀ c e r x w w', cl.readData c e w = .ret r x w' → held w' = held w)
    (h : Exchanged cl data w o conn w') :
    (conn = none ∧ ∃ x, ∀ e, cl.openConnection xiHost xiPort e w = .ret none x w') ∨
    ∃ c w₁, conn = some c ∧ (∀ e, cl.openConnection xiHost xiPort e w = .ret (some c) e w₁) ∧
      held w' = held w₁ := by
  cases h with
  | unopened hopen => exact .inl ⟨rfl, _, hopen⟩
  | unsent hopen hsend' => exact .inr ⟨_, _, rfl, hopen, hsend _ _ _ _ _ _ _ (hsend' .noErr)⟩
  | unread hopen hsend' _ hread' =>
    exact .inr ⟨_, _, rfl, hopen, (hread _ _ _ _ _ _ (hread' .noErr)).trans
      (hsend _ _ _ _ _ _ _ (hsend' .noErr))⟩
  | answered hopen hsend' _ hread' =>
    exact .inr ⟨_, _, rfl, hopen, (hread _ _ _ _ _ _ (hread' .noErr)).trans
      (hsend _ _ _ _ _ _ _ (hsend' .noErr))⟩

/-- An exchange comes to one of these ends, whatever error is pending. -/
lemma exchange_exchanged (tg : Target) (δ : Type) (data : Text) (w : cl.World) :
    ∃ o conn w', Exchanged cl data w o conn w' ∧
      ((o = false ∧ ∃ x, x ≠ .noErr ∧ ∀ e (l : Statics tg) (dest : δ),
        exchange data e ((⟨l, w⟩ : Process tg cl), start cl dest) =
          .goto x (⟨l, w'⟩, ⟨conn, false, dest⟩)) ∨
      (o = true ∧ ∃ buffer, ∀ e (l : Statics tg) (dest : δ),
        exchange data e ((⟨l, w⟩ : Process tg cl), start cl dest) =
          .ret buffer e (⟨l, w'⟩, ⟨conn, false, dest⟩))) := by
  obtain ⟨conn, w₁, ⟨hconn, hopen⟩ | ⟨rfl, x, hx, hopen⟩⟩ := cl.open_reports xiHost xiPort w
  swap
  · refine ⟨false, none, w₁, .unopened hopen, .inl ⟨rfl, x, hx, fun e l dest => ?_⟩⟩
    rw [exchange, bind_ret (onWorld_ret (hopen e)), bind_goto (orJump_none _ _)]
    rfl
  obtain ⟨conn, rfl⟩ := Option.ne_none_iff_exists'.mp hconn
  obtain ⟨n, w₂, ⟨hn, hsend⟩ | ⟨rfl, x, hx, hsend⟩⟩ := cl.send_reports conn data w₁
  swap
  · refine ⟨false, some conn, w₂, .unsent hopen hsend, .inl ⟨rfl, x, hx, fun e l dest => ?_⟩⟩
    rw [exchange, bind_ret (onWorld_ret (hopen e)), bind_ret (orJump_some _ _ _),
      bind_ret (assign_apply _ _ _ _), bind_ret (onWorld_ret (hsend e)),
      bind_goto (jumpIf_pos rfl _ _)]
    rfl
  have hsent (e : XiErr) (l : Statics tg) (dest : δ) :
      exchange data e ((⟨l, w⟩ : Process tg cl), start cl dest) =
        (do
          let recv ← outer (onWorld (cl.readData conn))
          jumpIf (recv.1 = -1)
          return recv.2 : Proc XiErr (Process tg cl × Frame cl δ) _)
          e (⟨l, w₂⟩, ⟨some conn, false, dest⟩) := by
    rw [exchange, bind_ret (onWorld_ret (hopen e)), bind_ret (orJump_some _ _ _),
      bind_ret (assign_apply _ _ _ _), bind_ret (onWorld_ret (hsend e)),
      bind_ret (jumpIf_neg hn _ _)]
    rfl
  cases hdel : cl.delivers conn w₂ with
  | some d =>
    obtain ⟨w', hread⟩ := cl.read_some hdel
    have hlen : ¬ ((d.bytes.length : ℤ) = -1) := by omega
    refine ⟨true, some conn, w', .answered hopen hsend hn hread, .inr ⟨rfl, d.buffer,
      fun e l dest => ?_⟩⟩
    rw [hsent, bind_ret (onWorld_ret (hread e)), bind_ret (jumpIf_neg hlen _ _)]
    rfl
  | none =>
    obtain ⟨x, b, w', hx, hread⟩ := cl.read_none hdel
    refine ⟨false, some conn, w', .unread hopen hsend hn hread, .inl ⟨rfl, x, hx,
      fun e l dest => ?_⟩⟩
    rw [hsent, bind_ret (onWorld_ret (hread e)), bind_goto (jumpIf_pos rfl _ _)]

/-- An exchange that has read a reply has been delivered one. -/
lemma Exchanged.delivers {conn : Option cl.Conn} (h : Exchanged cl data w true conn w') :
    ∃ c d, Delivers cl data w c d w' := by
  cases h with
  | @answered c w₁ n w₂ d w' hopen hsend hn hread =>
    cases hdel : cl.delivers c w₂ with
    | some d' =>
      obtain ⟨v, hread'⟩ := cl.read_some hdel
      have hworld := (Outcome.ret.inj ((hread .noErr).symm.trans (hread' .noErr))).2.2
      subst hworld
      exact ⟨c, d', w₁, n, w₂, hopen _, hsend _, hn, hdel, hread' _⟩
    | none =>
      obtain ⟨x, b, v, -, hread'⟩ := cl.read_none hdel
      have hanswer := (Outcome.ret.inj ((hread .noErr).symm.trans (hread' .noErr))).1
      have hlen := congrArg Prod.fst hanswer
      simp only at hlen
      omega

/-- If the peer delivers nothing, an error is pending at the exit. -/
lemma exchange_fails (tg : Target) (δ : Type) (h : ∀ conn d w', ¬ Delivers cl data w conn d w') :
    ∃ x conn w', x ≠ .noErr ∧ ∀ e (l : Statics tg) (dest : δ),
      exchange data e ((⟨l, w⟩ : Process tg cl), start cl dest) =
        .goto x (⟨l, w'⟩, ⟨conn, false, dest⟩) := by
  obtain ⟨o, conn, w', hexchanged, ⟨-, x, hx, hgoto⟩ | ⟨rfl, -⟩⟩ :=
    exchange_exchanged tg δ data w
  · exact ⟨x, conn, w', hx, hgoto⟩
  · obtain ⟨c, d, hdelivers⟩ := hexchanged.delivers
    exact absurd hdelivers (h c d w')

/-! ### The response -/

/-- The request is made, and the peer answers with a text. -/
def Answered (cl : CommLayer) (fits : Prop) (data : Text) (w : cl.World) (conn : cl.Conn)
    (text : Text) (w' : cl.World) : Prop :=
  fits ∧ ∃ d, Delivers cl data w conn d w' ∧ cstr d.buffer = some text

lemma answered_unique {fits : Prop} {conn' : cl.Conn} {text' : Text} {w'' : cl.World}
    (h : Answered cl fits data w conn text w') (h' : Answered cl fits data w conn' text' w'') :
    conn' = conn ∧ text' = text ∧ w'' = w' := by
  obtain ⟨-, d, hd, ht⟩ := h
  obtain ⟨-, d', hd', ht'⟩ := h'
  obtain ⟨rfl, rfl, rfl⟩ := delivers_unique hd hd'
  rw [ht] at ht'
  cases ht'
  exact ⟨rfl, rfl, rfl⟩

lemma httpDecodeReply_ret {r : HttpResponse} {v : Bool}
    (h : parseHttp text e l.response = .ret v e' r) :
    httpDecodeReply text e l = .ret v e' { l with response := r } := by
  rw [httpDecodeReply, onResponse, focus_ret h]

lemma httpDecodeReply_fault {x : Fault} (h : parseHttp text e l.response = .fault x) :
    httpDecodeReply text e l = .fault x := by
  rw [httpDecodeReply, onResponse, focus_fault h]

/-- Behind the read, everything hangs on the verdict on the reply. -/
lemma getResponse_eq (h : Delivers cl data w conn d w') (ht : cstr d.buffer = some text)
    (e : XiErr) (l : Statics tg) (dest : δ) :
    xiFunctionGetResponse (some data) e ((⟨l, w⟩ : Process tg cl), start cl dest) =
      (do
        let response ← outer (onStatics (httpDecodeReply text))
        assign fun f => { f with response := response }
        jumpIf (response = false) : Proc XiErr (Process tg cl × Frame cl δ) Unit)
        e (⟨l, w'⟩, ⟨some conn, false, dest⟩) := by
  rw [xiFunctionGetResponse, bind_ret (orJump_some _ _ _), bind_ret (exchange_delivers h e l dest),
    ht]
  rfl

lemma getResponse_rejected {r : HttpResponse} (h : Delivers cl data w conn d w')
    (ht : cstr d.buffer = some text) (hparse : parseHttp text e l.response = .ret false e' r)
    (dest : δ) :
    xiFunctionGetResponse (some data) e ((⟨l, w⟩ : Process tg cl), start cl dest) =
      .goto e' (⟨{ l with response := r }, w'⟩, ⟨some conn, false, dest⟩) := by
  rw [getResponse_eq h ht, bind_ret (onStatics_ret (httpDecodeReply_ret hparse)),
    bind_ret (assign_apply _ _ _ _), jumpIf_pos rfl]

lemma getResponse_accepted {r : HttpResponse} (h : Delivers cl data w conn d w')
    (ht : cstr d.buffer = some text) (hparse : parseHttp text e l.response = .ret true e' r)
    (dest : δ) :
    xiFunctionGetResponse (some data) e ((⟨l, w⟩ : Process tg cl), start cl dest) =
      .ret () e' (⟨{ l with response := r }, w'⟩, ⟨some conn, true, dest⟩) := by
  rw [getResponse_eq h ht, bind_ret (onStatics_ret (httpDecodeReply_ret hparse)),
    bind_ret (assign_apply _ _ _ _), jumpIf_neg (by decide)]

lemma getResponse_fault {x : Fault} (h : Delivers cl data w conn d w')
    (ht : cstr d.buffer = some text) (hparse : parseHttp text e l.response = .fault x)
    (dest : δ) :
    xiFunctionGetResponse (some data) e ((⟨l, w⟩ : Process tg cl), start cl dest) = .fault x := by
  rw [getResponse_eq h ht, bind_fault (onStatics_fault (httpDecodeReply_fault hparse))]

lemma getResponse_unterminated (h : Delivers cl data w conn d w') (ht : cstr d.buffer = none)
    (e : XiErr) (l : Statics tg) (dest : δ) :
    xiFunctionGetResponse (some data) e ((⟨l, w⟩ : Process tg cl), start cl dest) =
      .fault .overread := by
  rw [xiFunctionGetResponse, bind_ret (orJump_some _ _ _), bind_ret (exchange_delivers h e l dest),
    ht]
  rfl

/-! ### The whole function -/

section Function

variable {request : Proc XiErr (Statics tg) (Option Text)}
  {decode : Option (Text → Proc XiErr δ Bool)} {fits : Prop}

/-- What a get function does with the content of its response; the other functions do nothing. -/
def decodeStep (decode : Option (Text → Proc XiErr δ Bool)) :
    Proc XiErr (Process tg cl × Frame cl δ) Unit :=
  match decode with
  | some decode => decodeContent decode
  | none => pure ()

/-- An API function between its declarations and its label. -/
def attempt (request : Proc XiErr (Statics tg) (Option Text))
    (decode : Option (Text → Proc XiErr δ Bool)) :
    Proc XiErr (Process tg cl × Frame cl δ) Unit := do
  let data ← outer (onStatics request)
  xiFunctionGetResponse data
  decodeStep decode

lemma epilogue_apply {conn : Option cl.Conn} {x : Option XiErr} (hc : Closing cl conn w x w')
    (e : XiErr) (l : Statics tg) (response : Bool) (dest : δ) :
    xiFunctionEpilogue e ((⟨l, w⟩ : Process tg cl), ⟨conn, response, dest⟩) =
      .ret (response, dest) (x.getD e) (⟨l, w'⟩, ⟨conn, response, dest⟩) := by
  cases conn with
  | none =>
    obtain ⟨rfl, rfl⟩ := hc
    rfl
  | some conn =>
    show Outcome.andThen (outer (onWorld (cl.closeConnection conn)) e _) _ = _
    rw [onWorld_ret (hc.2 e)]
    rfl

/-- An attempt that has come to its label, and the exit behind it. -/
lemma xiFunction_ret {conn : Option cl.Conn} {response : Bool} {x : Option XiErr} {w'' : cl.World}
    (h : errHandling () (attempt request decode) e ((⟨l, w⟩ : Process tg cl), start cl dest) =
      .ret () e' (⟨l', w'⟩, ⟨conn, response, dest'⟩)) (hc : Closing cl conn w' x w'') :
    xiFunction request decode dest e ⟨l, w⟩ = .ret (response, dest') (x.getD e') ⟨l', w''⟩ := by
  have hrun : (errHandling () (attempt request decode) >>= fun _ => xiFunctionEpilogue) e
      ((⟨l, w⟩ : Process tg cl), start cl dest) =
        .ret (response, dest') (x.getD e') (⟨l', w''⟩, ⟨conn, response, dest'⟩) := by
    rw [bind_ret h, epilogue_apply hc]
  show withLocals (start cl dest) (errHandling () (attempt request decode) >>= fun _ =>
    xiFunctionEpilogue) e ⟨l, w⟩ = _
  rw [withLocals, hrun]

lemma xiFunction_fault {x : Fault}
    (h : attempt request decode e ((⟨l, w⟩ : Process tg cl), start cl dest) = .fault x) :
    xiFunction request decode dest e ⟨l, w⟩ = .fault x := by
  have hrun : (errHandling () (attempt request decode) >>= fun _ => xiFunctionEpilogue) e
      ((⟨l, w⟩ : Process tg cl), start cl dest) = .fault x :=
    bind_fault (errHandling_fault () h)
  show withLocals (start cl dest) (errHandling () (attempt request decode) >>= fun _ =>
    xiFunctionEpilogue) e ⟨l, w⟩ = _
  rw [withLocals, hrun]

/-! ### The ways a call ends -/

/-- The call returns null and leaves an error, whatever error has been pending. -/
def Fails (request : Proc XiErr (Statics tg) (Option Text))
    (decode : Option (Text → Proc XiErr δ Bool)) (w w' : cl.World) : Prop :=
  ∀ e l dest, ∃ x l', x ≠ .noErr ∧
    xiFunction request decode dest e (⟨l, w⟩ : Process tg cl) = .ret (false, dest) x ⟨l', w'⟩

/-- A call whose exchange does not come about. -/
lemma fails_undelivered (decode : Option (Text → Proc XiErr δ Bool))
    (hreq : Decides request fits data)
    (h : ∀ conn d w', fits → ¬ Delivers cl data w conn d w') :
    ∃ w', Fails request decode w w' := by
  by_cases hfits : fits
  · obtain ⟨x, conn, w₁, hx, hexchange⟩ := exchange_fails tg δ fun conn d w' =>
      h conn d w' hfits
    obtain ⟨y, w', hc⟩ := exists_closing conn w₁
    refine ⟨w', fun e l dest => ?_⟩
    obtain ⟨l', hdata, -⟩ := hreq.1 hfits e l trivial
    refine ⟨y.getD x, l', closing_error hc hx, xiFunction_ret (errHandling_goto () ?_) hc⟩
    rw [attempt, bind_ret (onStatics_ret hdata)]
    refine bind_goto ?_
    rw [xiFunctionGetResponse, bind_ret (orJump_some _ _ _)]
    exact bind_goto (hexchange e l' dest)
  · obtain ⟨x, hx, hnone⟩ := hreq.2 hfits
    refine ⟨w, fun e l dest => ?_⟩
    obtain ⟨l', hdata, -⟩ := hnone e l trivial
    have hc : Closing cl none w none w := ⟨rfl, rfl⟩
    refine ⟨x, l', hx, xiFunction_ret (errHandling_goto () ?_) hc⟩
    rw [attempt, bind_ret (onStatics_ret hdata)]
    exact bind_goto rfl

/-- What has been received holds no string. -/
lemma overread_unterminated (hreq : Decides request fits data) (hfits : fits)
    (h : Delivers cl data w conn d w') (ht : cstr d.buffer = none) (e : XiErr) (l : Statics tg)
    (dest : δ) : xiFunction request decode dest e (⟨l, w⟩ : Process tg cl) = .fault .overread := by
  obtain ⟨l', hdata, -⟩ := hreq.1 hfits e l trivial
  refine xiFunction_fault ?_
  rw [attempt, bind_ret (onStatics_ret hdata)]
  exact bind_fault (getResponse_unterminated h ht _ l' dest)

/-- A reply whose head is refused. -/
lemma fails_refused (decode : Option (Text → Proc XiErr δ Bool))
    (hreq : Decides request fits data) (h : Answered cl fits data w conn text w')
    (hv : headVerdict text = .refused) : ∃ w'', Fails request decode w w'' := by
  obtain ⟨hfits, d, hd, ht⟩ := h
  obtain ⟨x, r, hx, hparse⟩ := parseHttp_refused hv
  obtain ⟨y, w'', hc⟩ := exists_closing (some conn) w'
  refine ⟨w'', fun e l dest => ?_⟩
  obtain ⟨l', hdata, -⟩ := hreq.1 hfits e l trivial
  refine ⟨y.getD x, { l' with response := r }, closing_error hc hx,
    xiFunction_ret (errHandling_goto () ?_) hc⟩
  rw [attempt, bind_ret (onStatics_ret hdata)]
  exact bind_goto (getResponse_rejected hd ht (hparse _ _) dest)

lemma badLength_crash (hreq : Decides request fits data)
    (h : Answered cl fits data w conn text w') (hv : headVerdict text = .crash) (e : XiErr)
    (l : Statics tg) (dest : δ) :
    xiFunction request decode dest e (⟨l, w⟩ : Process tg cl) = .fault .badLength := by
  obtain ⟨hfits, d, hd, ht⟩ := h
  obtain ⟨l', hdata, -⟩ := hreq.1 hfits e l trivial
  refine xiFunction_fault ?_
  rw [attempt, bind_ret (onStatics_ret hdata)]
  exact bind_fault (getResponse_fault hd ht (parseHttp_crash hv _ _) dest)

/-- A good reply, taken for a bad one because an error was pending. -/
lemma fails_pending (hreq : Decides request fits data) (h : Answered cl fits data w conn text w')
    (hv : headVerdict text = .good) {y : Option XiErr} {w'' : cl.World}
    (hc : Closing cl (some conn) w' y w'') (he : e ≠ .noErr) (l : Statics tg) (dest : δ) :
    ∃ x l', x ≠ .noErr ∧
      xiFunction request decode dest e (⟨l, w⟩ : Process tg cl) =
        .ret (false, dest) x ⟨l', w''⟩ := by
  obtain ⟨hfits, d, hd, ht⟩ := h
  obtain ⟨r, -, hparse⟩ := parseHttp_good hv
  obtain ⟨l', hdata, -⟩ := hreq.1 hfits e l trivial
  refine ⟨y.getD e, { l' with response := r }, closing_error hc he,
    xiFunction_ret (errHandling_goto () ?_) hc⟩
  rw [attempt, bind_ret (onStatics_ret hdata)]
  exact bind_goto (getResponse_rejected hd ht (hparse _ _ he) dest)

/-- What the decoding of a content leaves of the caller's object and of the error variable. -/
def Decoded (decode : Option (Text → Proc XiErr δ Bool)) (content : Text) (dest dest' : δ)
    (x : XiErr) : Prop :=
  match decode with
  | some decode => ∃ ok, decode content .noErr dest = .ret ok x dest'
  | none => dest' = dest ∧ x = .noErr

lemma decodeStep_ret {content : Text} {x : XiErr} (h : Decoded decode content dest dest' x)
    (ht : cstr l.response.httpContent = some content) :
    errHandling () (decodeStep decode) .noErr ((⟨l, w⟩ : Process tg cl), ⟨some conn, true, dest⟩) =
      .ret () x (⟨l, w⟩, ⟨some conn, true, dest'⟩) := by
  cases decode with
  | none =>
    obtain ⟨rfl, rfl⟩ := h
    rfl
  | some decode =>
    obtain ⟨ok, hrun⟩ := h
    have hcontent : onResponse (fun e r => orCrash (cstr r.httpContent) .overread e r) .noErr l =
        .ret content .noErr l := by simp [onResponse, focus, ht]
    have hdest : onDest (decode content) .noErr
        ((⟨l, w⟩ : Process tg cl), (⟨some conn, true, dest⟩ : Frame cl δ)) =
          .ret ok x (⟨l, w⟩, ⟨some conn, true, dest'⟩) := by
      rw [onDest, focus_ret hrun]
    have hstep : decodeStep (some decode) .noErr
        ((⟨l, w⟩ : Process tg cl), (⟨some conn, true, dest⟩ : Frame cl δ)) =
          jumpIf (ok = false) x (⟨l, w⟩, ⟨some conn, true, dest'⟩) := by
      rw [decodeStep, decodeContent, bind_ret (onStatics_ret hcontent), bind_ret hdest]
    cases ok with
    | true => exact errHandling_ret () (by rw [hstep, jumpIf_neg (by decide)])
    | false => exact errHandling_goto () (by rw [hstep, jumpIf_pos rfl])

/-- The content of a response to a good reply is the payload of the reply. -/
lemma cstr_payload (ht : cstr d.buffer = some text) :
    cstr (strncpy xiHttpMaxContentSize (payloadOf text)) = some (payloadOf text) := by
  have h0 := zero_not_mem_of_cstr ht
  have hlen := length_lt_of_cstr ht
  unfold payloadOf
  cases strstr xiHttpCrlfX2 text with
  | none => exact cstr_strncpy List.not_mem_nil (by norm_num)
  | some headersEnd =>
    refine cstr_strncpy (fun hmem => h0 (List.mem_of_mem_drop hmem)) ?_
    simp only [Option.elim_some, List.length_drop]
    omega

/-- A good reply with no error pending. -/
lemma responds_good (hreq : Decides request fits data) (h : Answered cl fits data w conn text w')
    (hv : headVerdict text = .good) {x : XiErr}
    (hdec : Decoded decode (payloadOf text) dest dest' x) {y : Option XiErr} {w'' : cl.World}
    (hc : Closing cl (some conn) w' y w'') (l : Statics tg) :
    ∃ l', xiFunction request decode dest .noErr (⟨l, w⟩ : Process tg cl) =
      .ret (true, dest') (y.getD x) ⟨l', w''⟩ := by
  obtain ⟨hfits, d, hd, ht⟩ := h
  obtain ⟨r, hparse, -⟩ := parseHttp_good hv
  obtain ⟨l', hdata, -⟩ := hreq.1 hfits .noErr l trivial
  refine ⟨{ l' with response := { r with httpContent := strncpy _ (payloadOf text) } },
    xiFunction_ret ?_ hc⟩
  rw [attempt, errHandling_bind () (onStatics_ret hdata), Option.getD_none,
    errHandling_bind () (getResponse_accepted hd ht (hparse _) dest)]
  exact decodeStep_ret hdec (cstr_payload ht)

end Function

end LibXively.Exchanges
