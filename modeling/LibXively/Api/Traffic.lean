import LibXively.Api.Calls

/-!
What an API function does to the layer below.

It opens a connection, sends its request, reads a reply and closes the connection, and each failure
takes it to the close. Nothing between the read and the close touches the layer.
-/

namespace LibXively.Traffic

open LibXively.Bytes LibXively.CProc LibXively.CharArray LibXively.Structures
open LibXively.HttpQueries LibXively.CommLayers LibXively.Xively LibXively.Encoders
open LibXively.Exchanges LibXively.Calls

variable {tg : Target} {cl : CommLayer} {δ : Type} {data : Text} {w w' : cl.World}

/-! ### Behind the read -/

/-- The layer below and the connection of a call. -/
def below (p : Process tg cl × Frame cl δ) : cl.World × Option cl.Conn := (p.1.world, p.2.conn)

lemma keeps_onStatics {α : Type} (m : Proc XiErr (Statics tg) α) :
    Keeps (@below tg cl δ) (outer (onStatics m) : Proc XiErr (Process tg cl × Frame cl δ) α) := by
  have hworld : Keeps (fun p : Process tg cl => p.world) (onStatics m) :=
    Keeps.focus (by intros; rfl) m
  exact hworld.focusPart fun s t h => by simp only [below, h]

lemma keeps_respond (response : Bool) :
    Keeps (@below tg cl δ) (assign fun f => { f with response := response } :
      Proc XiErr (Process tg cl × Frame cl δ) Unit) :=
  Keeps.modify fun _ => rfl

lemma keeps_jumpIf (c : Prop) [Decidable c] :
    Keeps (@below tg cl δ) (jumpIf c) := by
  unfold jumpIf
  split
  · exact Keeps.jump
  · exact Keeps.pure ()

lemma keeps_decodeStep (decode : Option (Text → Proc XiErr δ Bool)) :
    Keeps (@below tg cl δ) (decodeStep decode) := by
  cases decode with
  | none => exact Keeps.pure ()
  | some decode =>
    refine (keeps_onStatics _).bind fun content => Keeps.bind ?_ fun ok => keeps_jumpIf _
    exact Keeps.focus (by intros; rfl) _

/-- What a call does with what it has read. -/
def consume (decode : Option (Text → Proc XiErr δ Bool)) (buffer : Buf xiHttpMaxContentSize) :
    Proc XiErr (Process tg cl × Frame cl δ) Unit := do
  let text ← orCrash (cstr buffer) .overread
  let response ← outer (onStatics (httpDecodeReply text))
  assign fun f => { f with response := response }
  jumpIf (response = false)
  decodeStep decode

lemma keeps_consume (decode : Option (Text → Proc XiErr δ Bool))
    (buffer : Buf xiHttpMaxContentSize) :
    Keeps (@below tg cl δ) (consume decode buffer) :=
  (Keeps.orCrash _ _).bind fun _ => (keeps_onStatics _).bind fun response =>
    (keeps_respond response).bind fun _ => (keeps_jumpIf _).bind fun _ => keeps_decodeStep _

variable {request : Proc XiErr (Statics tg) (Option Text)}
  {decode : Option (Text → Proc XiErr δ Bool)} {e e' e₁ : XiErr} {l l' l₁ : Statics tg}
  {dest dest' : δ} {v : Bool}

lemma attempt_eq : (attempt request decode : Proc XiErr (Process tg cl × Frame cl δ) Unit) =
    (outer (onStatics request) >>= fun data => orJump data >>= fun data =>
      exchange data >>= consume decode) := by
  unfold attempt xiFunctionGetResponse consume
  simp only [bind_assoc]

lemma attempt_some (h : request e l = .ret (some data) e₁ l₁) :
    attempt request decode e ((⟨l, w⟩ : Process tg cl), start cl dest) =
      (exchange data >>= consume decode) e₁ (⟨l₁, w⟩, start cl dest) := by
  rw [attempt_eq, bind_ret (onStatics_ret h), bind_ret (orJump_some _ _ _)]

/-- A call that jumps to its exit without a response. -/
lemma xiFunction_jump {conn : Option cl.Conn} {w₁ w₂ : cl.World} {x : XiErr} {y : Option XiErr}
    (h : xiFunction request decode dest e (⟨l, w⟩ : Process tg cl) =
      .ret (v, dest') e' ⟨l', w'⟩)
    (hattempt : attempt request decode e ((⟨l, w⟩ : Process tg cl), start cl dest) =
      .goto x (⟨l₁, w₁⟩, ⟨conn, false, dest⟩))
    (hc : Closing cl conn w₁ y w₂) : v = false ∧ e' = y.getD x ∧ w' = w₂ := by
  have hrun := xiFunction_ret (errHandling_goto () hattempt) hc
  rw [hrun] at h
  injection h with hv he hp
  injection hv with hv _
  injection hp with _ hw
  exact ⟨hv.symm, he.symm, hw.symm⟩

/-- A call that has read a reply does not touch the layer up to its exit. -/
lemma xiFunction_read {conn : Option cl.Conn} {w₁ : cl.World} {buffer : Buf xiHttpMaxContentSize}
    (h : xiFunction request decode dest e (⟨l, w⟩ : Process tg cl) =
      .ret (v, dest') e' ⟨l', w'⟩)
    (hattempt : attempt request decode e ((⟨l, w⟩ : Process tg cl), start cl dest) =
      consume decode buffer e₁ (⟨l₁, w₁⟩, ⟨conn, false, dest⟩)) :
    ∃ y, Closing cl conn w₁ y w' := by
  have hkeeps := @keeps_consume tg cl δ decode buffer e₁ (⟨l₁, w₁⟩, ⟨conn, false, dest⟩)
  cases ho : (consume decode buffer e₁
      ((⟨l₁, w₁⟩ : Process tg cl), (⟨conn, false, dest⟩ : Frame cl δ))).object with
  | none =>
    obtain ⟨x, hfault⟩ := fault_of_object ho
    rw [xiFunction_fault (hattempt.trans hfault)] at h
    cases h
  | some s =>
    obtain ⟨⟨l₂, w₂⟩, ⟨conn₂, response, dest₂⟩⟩ := s
    obtain ⟨rfl, rfl⟩ : w₂ = w₁ ∧ conn₂ = conn := by
      have hs := hkeeps _ ho
      exact ⟨congrArg Prod.fst hs, congrArg Prod.snd hs⟩
    rw [← hattempt] at ho
    obtain ⟨a, e₂, hlabel⟩ := errHandling_object () ho
    obtain ⟨y, w₃, hclosing⟩ := exists_closing conn₂ w₂
    have hrun := xiFunction_ret hlabel hclosing
    rw [hrun] at h
    injection h with _ _ hp
    injection hp with _ hw
    subst hw
    exact ⟨y, hclosing⟩

/-- An API function that comes back has made no request and left the layer alone, or it has gone
through an exchange and closed the connection. -/
lemma xiFunction_traffic
    (h : xiFunction request decode dest e (⟨l, w⟩ : Process tg cl) =
      .ret (v, dest') e' ⟨l', w'⟩) :
    (((∃ l₁, request e l = .ret none e' l₁) ∨ ∃ l₁, request e l = .goto e' l₁) ∧ w' = w ∧
      v = false) ∨
    ∃ data e₁ l₁ o conn w₁ y, request e l = .ret (some data) e₁ l₁ ∧
      Exchanged cl data w o conn w₁ ∧ Closing cl conn w₁ y w' ∧
      (o = false → v = false ∧ e' ≠ .noErr) := by
  have hc : Closing cl none w none w := ⟨rfl, rfl⟩
  cases hrequest : request e l with
  | fault x =>
    have hfault : attempt request decode e ((⟨l, w⟩ : Process tg cl), start cl dest) = .fault x :=
      bind_fault (onStatics_fault hrequest)
    rw [xiFunction_fault hfault] at h
    cases h
  | goto e₁ l₁ =>
    have hattempt : attempt request decode e ((⟨l, w⟩ : Process tg cl), start cl dest) =
        .goto e₁ (⟨l₁, w⟩, ⟨none, false, dest⟩) := by
      refine bind_goto ?_
      simp [outer, onStatics, focus, hrequest, start]
    obtain ⟨hv, rfl, hw⟩ := xiFunction_jump h hattempt hc
    exact .inl ⟨.inr ⟨l₁, rfl⟩, hw, hv⟩
  | ret a e₁ l₁ =>
    cases a with
    | none =>
      have hattempt : attempt request decode e ((⟨l, w⟩ : Process tg cl), start cl dest) =
          .goto e₁ (⟨l₁, w⟩, ⟨none, false, dest⟩) := by
        rw [attempt, bind_ret (onStatics_ret hrequest)]
        exact bind_goto rfl
      obtain ⟨hv, rfl, hw⟩ := xiFunction_jump h hattempt hc
      exact .inl ⟨.inl ⟨l₁, rfl⟩, hw, hv⟩
    | some data =>
      refine .inr ⟨data, e₁, l₁, ?_⟩
      obtain ⟨o, conn, w₁, hexchanged, ⟨rfl, x, hx, hgoto⟩ | ⟨rfl, buffer, hret⟩⟩ :=
        @exchange_exchanged cl tg δ data w
      · obtain ⟨y, w₂, hclosing⟩ := exists_closing conn w₁
        have hattempt : attempt request decode e ((⟨l, w⟩ : Process tg cl), start cl dest) =
            .goto x (⟨l₁, w₁⟩, ⟨conn, false, dest⟩) := by
          rw [attempt_some hrequest]
          exact bind_goto (hgoto e₁ l₁ dest)
        obtain ⟨hv, rfl, rfl⟩ := xiFunction_jump h hattempt hclosing
        exact ⟨false, conn, w₁, y, rfl, hexchanged, hclosing,
          fun _ => ⟨hv, closing_error hclosing hx⟩⟩
      · have hattempt : attempt request decode e ((⟨l, w⟩ : Process tg cl), start cl dest) =
            consume decode buffer e₁ (⟨l₁, w₁⟩, ⟨conn, false, dest⟩) := by
          rw [attempt_some hrequest]
          exact bind_ret (hret e₁ l₁ dest)
        obtain ⟨y, hclosing⟩ := xiFunction_read h hattempt
        exact ⟨true, conn, w₁, y, rfl, hexchanged, hclosing,
          fun ho => absurd ho.symm Bool.false_ne_true⟩

/-! ### Calls -/

/-- A call makes the request `data`. -/
def Makes (tg : Target) (c : ApiCall) (e : XiErr) (l : Statics tg) (data : Text) : Prop :=
  ∃ e₁ l₁, c.request.encode tg c.apiKey e l = .ret (some data) e₁ l₁

/-- Every call is an API function with its request. -/
lemma run_function (c : ApiCall) : ∃ (δ : Type) (decode : Option (Text → Proc XiErr δ Bool))
    (dest : δ), (c.run : Proc XiErr (Process tg cl) Bool) =
      Prod.fst <$> xiFunction (c.request.encode tg c.apiKey) decode dest := by
  cases c <;> exact ⟨_, _, _, rfl⟩

/-- A call that comes back has made no request and left the layer alone, or it has gone through an
exchange and closed the connection. -/
lemma run_traffic {c : ApiCall} {p' : Process tg cl}
    (h : c.run e (⟨l, w⟩ : Process tg cl) = .ret v e' p') :
    (((∃ l₁, c.request.encode tg c.apiKey e l = .ret none e' l₁) ∨
        ∃ l₁, c.request.encode tg c.apiKey e l = .goto e' l₁) ∧ p'.world = w ∧ v = false) ∨
    ∃ data o conn w₁ y, Makes tg c e l data ∧ Exchanged cl data w o conn w₁ ∧
      Closing cl conn w₁ y p'.world ∧ (o = false → v = false ∧ e' ≠ .noErr) := by
  obtain ⟨δ, decode, dest, hrun⟩ := @run_function tg cl c
  rw [hrun, map_apply] at h
  cases ho : xiFunction (c.request.encode tg c.apiKey) decode dest e
      (⟨l, w⟩ : Process tg cl) with
  | fault x => rw [ho] at h; cases h
  | goto e₁ p₁ => rw [ho] at h; cases h
  | ret a e₁ p₁ =>
    rw [ho] at h
    cases h
    obtain ⟨l', w'⟩ := p'
    obtain ⟨b, dest'⟩ := a
    rcases xiFunction_traffic ho with hnone | ⟨data, e₂, l₂, o, conn, w₁, y, hmakes, hrest⟩
    · exact .inl hnone
    · exact .inr ⟨data, o, conn, w₁, y, ⟨e₂, l₂, hmakes⟩, hrest⟩

end LibXively.Traffic
