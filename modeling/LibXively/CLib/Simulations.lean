import LibXively.CLib.CProc

/-!
Simulation of C functions.

A function on one object follows a function on another if from related objects, with the same error
pending, it leaves in the same way, with related answers, the same error and related objects. Both
fault alike.
-/

namespace LibXively.Simulations

open LibXively.CProc

variable {ε σ σ' τ τ' α α' β β' : Type}

/-- Two functions have left alike. -/
inductive Alike (R : σ → σ' → Prop) (A : α → α' → Prop) : Outcome ε σ α → Outcome ε σ' α' → Prop
  | ret {a a' e s s'} (ha : A a a') (hs : R s s') : Alike R A (.ret a e s) (.ret a' e s')
  | goto {e s s'} (hs : R s s') : Alike R A (.goto e s) (.goto e s')
  | fault (x : Fault) : Alike R A (.fault x) (.fault x)

/-- From related objects the functions leave alike. -/
def Follows (R : σ → σ' → Prop) (A : α → α' → Prop) (m : Proc ε σ α) (m' : Proc ε σ' α') : Prop :=
  ∀ e s s', R s s' → Alike R A (m e s) (m' e s')

variable {R : σ → σ' → Prop} {A : α → α' → Prop} {B : β → β' → Prop} {m : Proc ε σ α}
  {m' : Proc ε σ' α'}

/-! ### What a simulation says of a run -/

section Runs

variable {e e' : ε} {s t : σ} {s' : σ'} {a : α}

lemma Follows.ret (h : Follows R A m m') (hs : R s s') (hrun : m e s = .ret a e' t) :
    ∃ a' t', m' e s' = .ret a' e' t' ∧ A a a' ∧ R t t' := by
  have halike := h e s s' hs
  rw [hrun] at halike
  generalize m' e s' = o' at halike
  cases halike with
  | ret ha ht => exact ⟨_, _, rfl, ha, ht⟩

lemma Follows.faults_iff {x : Fault} (h : Follows R A m m') (hs : R s s') :
    m e s = .fault x ↔ m' e s' = .fault x := by
  have halike := h e s s' hs
  generalize m e s = o, m' e s' = o' at halike
  cases halike with
  | ret => simp
  | goto => simp
  | fault y => simp

end Runs

/-! ### Rules -/

lemma Follows.mono {A' : α → α' → Prop} (h : Follows R A m m') (hA : ∀ a a', A a a' → A' a a') :
    Follows R A' m m' := by
  intro e s s' hs
  have halike := h e s s' hs
  generalize m e s = o, m' e s' = o' at halike
  cases halike with
  | ret ha ht => exact .ret (hA _ _ ha) ht
  | goto ht => exact .goto ht
  | fault x => exact .fault x

lemma Follows.pure {a : α} {a' : α'} (ha : A a a') :
    Follows R A (pure a : Proc ε σ α) (pure a' : Proc ε σ' α') := fun _ _ _ hs => .ret ha hs

lemma Follows.jump : Follows R A (jump : Proc ε σ α) (jump : Proc ε σ' α') :=
  fun _ _ _ hs => .goto hs

lemma Follows.crash (x : Fault) : Follows R A (crash x : Proc ε σ α) (crash x : Proc ε σ' α') :=
  fun _ _ _ _ => .fault x

lemma Follows.bind {f : α → Proc ε σ β} {f' : α' → Proc ε σ' β'} (h : Follows R A m m')
    (h' : ∀ a a', A a a' → Follows R B (f a) (f' a')) :
    Follows R B (m >>= f) (m' >>= f') := by
  intro e s s' hs
  have halike := h e s s' hs
  rw [bind_apply, bind_apply]
  generalize m e s = o, m' e s' = o' at halike
  cases halike with
  | ret ha ht => exact h' _ _ ha _ _ _ ht
  | goto ht => exact .goto ht
  | fault x => exact .fault x

/-- What follows a look at the object knows the object. -/
lemma Follows.get {f : σ → Proc ε σ β} {f' : σ' → Proc ε σ' β'}
    (h : ∀ s s', R s s' → Follows R B (f s) (f' s')) :
    Follows R B (get >>= f) (get >>= f') :=
  fun e s s' hs => h s s' hs e s s' hs

lemma Follows.modify {g : σ → σ} {g' : σ' → σ'} (h : ∀ s s', R s s' → R (g s) (g' s')) :
    Follows R Eq (modify g : Proc ε σ Unit) (modify g') := fun _ _ _ hs => .ret rfl (h _ _ hs)

lemma Follows.orJump {o : Option α} {o' : Option α'} (h : Option.Rel A o o') :
    Follows R A (orJump o : Proc ε σ α) (orJump o') := by
  cases h with
  | some ha => exact Follows.pure ha
  | none => exact Follows.jump

lemma Follows.orCrash (o : Option α) (x : Fault) :
    Follows R Eq (orCrash o x : Proc ε σ α) (orCrash o x : Proc ε σ' α) := by
  cases o with
  | none => exact Follows.crash x
  | some a => exact Follows.pure rfl

lemma Follows.errHandling {v : α} {v' : α'} (h : Follows R A m m') (hv : A v v') :
    Follows R A (errHandling v m) (errHandling v' m') := by
  intro e s s' hs
  have halike := h e s s' hs
  unfold CProc.errHandling
  generalize m e s = o, m' e s' = o' at halike
  cases halike with
  | ret ha ht => exact .ret ha ht
  | goto ht => exact .ret hv ht
  | fault x => exact .fault x

/-- Functions on related parts of related objects. -/
lemma Follows.focus {R' : τ → τ' → Prop} {read : τ → σ} {write : σ → τ → τ} {read' : τ' → σ'}
    {write' : σ' → τ' → τ'} (h : Follows R A m m') (hread : ∀ t t', R' t t' → R (read t) (read' t'))
    (hwrite : ∀ t t' s s', R' t t' → R s s' → R' (write s t) (write' s' t')) :
    Follows R' A (focus read write m) (focus read' write' m') := by
  intro e t t' ht
  have halike := h e _ _ (hread _ _ ht)
  unfold CProc.focus
  generalize m e (read t) = o, m' e (read' t') = o' at halike
  cases halike with
  | ret ha hs => exact .ret ha (hwrite _ _ _ _ ht hs)
  | goto hs => exact .goto (hwrite _ _ _ _ ht hs)
  | fault x => exact .fault x

lemma Follows.withLocals {T : τ → τ' → Prop} {l : τ} {l' : τ'} {m : Proc ε (σ × τ) α}
    {m' : Proc ε (σ' × τ') α'} (hl : T l l')
    (h : Follows (fun p p' => R p.1 p'.1 ∧ T p.2 p'.2) A m m') :
    Follows R A (withLocals l m) (withLocals l' m') := by
  intro e s s' hs
  have halike := h e (s, l) (s', l') ⟨hs, hl⟩
  unfold CProc.withLocals
  generalize m e (s, l) = o, m' e (s', l') = o' at halike
  cases halike with
  | ret ha ht => exact .ret ha ht.1
  | goto ht => exact .goto ht.1
  | fault x => exact .fault x

/-- A function follows itself. -/
lemma Follows.refl (m : Proc ε σ α) : Follows Eq Eq m m := by
  rintro e s _ rfl
  cases m e s with
  | ret a e' s' => exact .ret rfl rfl
  | goto e' s' => exact .goto rfl
  | fault x => exact .fault x

end LibXively.Simulations
