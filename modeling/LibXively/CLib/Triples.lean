import LibXively.CLib.CProc

/-!
Partial correctness of C functions.

A triple says what holds where a function comes back, with its answer, and where it jumps to its
error label. It says nothing of a fault. An invariant is a triple with the same condition in all
three places.
-/

namespace LibXively.Triples

open LibXively.CProc

variable {ε σ τ α β : Type}

/-- A condition on the error variable and the object. -/
abbrev Assertion (ε σ : Type) : Type := ε → σ → Prop

/-- `Q` holds behind a return, `J` behind a jump. -/
def Meets (Q : α → Assertion ε σ) (J : Assertion ε σ) : Outcome ε σ α → Prop
  | .ret a e s => Q a e s
  | .goto e s => J e s
  | .fault _ => True

/-- From `P` the function comes back with `Q`, jumps with `J`, or faults. -/
def Triple (P : Assertion ε σ) (m : Proc ε σ α) (Q : α → Assertion ε σ)
    (J : Assertion ε σ) : Prop :=
  ∀ e s, P e s → Meets Q J (m e s)

variable {P P' J J' K : Assertion ε σ} {Q Q' : α → Assertion ε σ} {R : β → Assertion ε σ}
  {m : Proc ε σ α} {f : α → Proc ε σ β} {e e' : ε} {s s' : σ} {a : α}

@[simp] lemma meets_ret : Meets Q J (.ret a e s) ↔ Q a e s := Iff.rfl
@[simp] lemma meets_goto : Meets Q J (.goto e s : Outcome ε σ α) ↔ J e s := Iff.rfl
@[simp] lemma meets_fault {x : Fault} : Meets Q J (.fault x : Outcome ε σ α) := trivial

/-! ### What a triple says of a run -/

lemma Triple.ret (h : Triple P m Q J) (hp : P e s) (hrun : m e s = .ret a e' s') : Q a e' s' := by
  have hmeets := h e s hp
  rwa [hrun] at hmeets

lemma Triple.goto (h : Triple P m Q J) (hp : P e s) (hrun : m e s = .goto e' s') : J e' s' := by
  have hmeets := h e s hp
  rwa [hrun] at hmeets

/-! ### Rules -/

lemma Triple.conseq (h : Triple P m Q J) (hP : ∀ e s, P' e s → P e s)
    (hQ : ∀ a e s, Q a e s → Q' a e s) (hJ : ∀ e s, J e s → J' e s) : Triple P' m Q' J' := by
  intro e s hp
  have hmeets := h e s (hP e s hp)
  cases hm : m e s with
  | ret a e' s' => rw [hm] at hmeets; exact hQ a e' s' hmeets
  | goto e' s' => rw [hm] at hmeets; exact hJ e' s' hmeets
  | fault x => trivial

lemma Triple.bind {Q : α → Assertion ε σ} (h : Triple P m Q J) (h' : ∀ a, Triple (Q a) (f a) R J) :
    Triple P (m >>= f) R J := by
  intro e s hp
  have hmeets := h e s hp
  rw [bind_apply]
  cases hm : m e s with
  | ret a e' s' => rw [hm] at hmeets; exact h' a e' s' hmeets
  | goto e' s' => rw [hm] at hmeets; exact hmeets
  | fault x => trivial

lemma Triple.pure (h : ∀ e s, P e s → Q a e s) : Triple P (pure a) Q J := h

lemma Triple.modify {Q : Unit → Assertion ε σ} {g : σ → σ} (h : ∀ e s, P e s → Q () e (g s)) :
    Triple P (modify g) Q J := h

/-- What follows a look at the object knows the object. -/
lemma Triple.get {f : σ → Proc ε σ β} (h : ∀ t, Triple (fun e s => s = t ∧ P e s) (f t) R J) :
    Triple P (get >>= f) R J :=
  fun e s hp => h s e s ⟨rfl, hp⟩

lemma Triple.setErr {Q : Unit → Assertion ε σ} {x : ε} (h : ∀ e s, P e s → Q () x s) :
    Triple P (setErr x) Q J := h

lemma Triple.jump (h : ∀ e s, P e s → J e s) : Triple P jump Q J := h

lemma Triple.checkCnd {Q : Unit → Assertion ε σ} {c : Prop} [Decidable c] {x : ε}
    (hQ : ∀ e s, ¬ c → P e s → Q () e s) (hJ : ∀ e s, c → P e s → J x s) :
    Triple P (checkCnd c x) Q J := by
  intro e s hp
  by_cases hc : c
  · rw [checkCnd_pos hc]
    exact hJ e s hc hp
  · rw [checkCnd_neg hc]
    exact hQ e s hc hp

lemma Triple.checkZero {o : Option α} {x : ε} (hQ : ∀ a e s, o = some a → P e s → Q a e s)
    (hJ : ∀ e s, o = none → P e s → J x s) : Triple P (checkZero o x) Q J := by
  cases o with
  | none => exact fun e s hp => hJ e s rfl hp
  | some a => exact fun e s hp => hQ a e s rfl hp

lemma Triple.orJump {o : Option α} (hQ : ∀ a e s, o = some a → P e s → Q a e s)
    (hJ : ∀ e s, o = none → P e s → J e s) : Triple P (orJump o) Q J := by
  cases o with
  | none => exact fun e s hp => hJ e s rfl hp
  | some a => exact fun e s hp => hQ a e s rfl hp

lemma Triple.orCrash {o : Option α} {x : Fault} (hQ : ∀ a e s, o = some a → P e s → Q a e s) :
    Triple P (orCrash o x) Q J := by
  cases o with
  | none => exact fun e s _ => trivial
  | some a => exact fun e s hp => hQ a e s rfl hp

lemma Triple.errHandling {v : α} (h : Triple P m Q K) (hK : ∀ e s, K e s → Q v e s) :
    Triple P (errHandling v m) Q J := by
  intro e s hp
  have hmeets := h e s hp
  unfold CProc.errHandling
  cases hm : m e s with
  | ret a e' s' => rw [hm] at hmeets; exact hmeets
  | goto e' s' => rw [hm] at hmeets; exact hK e' s' hmeets
  | fault x => trivial

lemma Triple.errCleanup {cleanup : Proc ε σ Unit} {v : α} (h : Triple P m Q J')
    (hc : Triple J' cleanup (fun _ => Q v) J) : Triple P (errCleanup cleanup v m) Q J := by
  intro e s hp
  have hmeets := h e s hp
  unfold CProc.errCleanup
  cases hm : m e s with
  | ret a e' s' => rw [hm] at hmeets; exact hmeets
  | goto e' s' =>
    rw [hm] at hmeets
    exact (hc.bind fun _ => Triple.pure fun _ _ hq => hq) e' s' hmeets
  | fault x => trivial

/-- A function on a part of the object, for each object it is a part of. -/
lemma Triple.focus {P J : Assertion ε τ} {Q : α → Assertion ε τ} {read : τ → σ} {write : σ → τ → τ}
    (h : ∀ t, Triple (fun e s => s = read t ∧ P e t) m (fun a e s => Q a e (write s t))
      (fun e s => J e (write s t))) : Triple P (focus read write m) Q J := by
  intro e t hp
  have hmeets := h t e (read t) ⟨rfl, hp⟩
  unfold CProc.focus
  cases hm : m e (read t) <;> rw [hm] at hmeets <;> exact hmeets

lemma Triple.outer {P J : Assertion ε (σ × τ)} {Q : α → Assertion ε (σ × τ)}
    (h : ∀ t, Triple (fun e s => P e (s, t)) m (fun a e s => Q a e (s, t))
      (fun e s => J e (s, t))) : Triple P (outer m) Q J :=
  Triple.focus fun t => (h t.2).conseq (fun e s hp => by rw [hp.1]; exact hp.2)
    (fun _ _ _ hq => hq) (fun _ _ hj => hj)

lemma Triple.assign {P J : Assertion ε (σ × τ)} {Q : Unit → Assertion ε (σ × τ)} {g : τ → τ}
    (h : ∀ e s t, P e (s, t) → Q () e (s, g t)) : Triple P (assign g) Q J :=
  Triple.modify fun e s hp => h e s.1 s.2 hp

lemma Triple.withLocals {locals : τ} {m : Proc ε (σ × τ) α}
    (h : Triple (fun e p => p.2 = locals ∧ P e p.1) m (fun a e p => Q a e p.1)
      (fun e p => J e p.1)) : Triple P (withLocals locals m) Q J := by
  intro e s hp
  have hmeets := h e (s, locals) ⟨rfl, hp⟩
  unfold CProc.withLocals
  cases hm : m e (s, locals) <;> rw [hm] at hmeets <;> exact hmeets

/-- A loop, by an invariant on the counter and the variables the body carries along. -/
lemma Triple.forFrom {g : ℕ → α → Proc ε σ α} {I : ℕ → α → Assertion ε σ}
    (h : ∀ i a, Triple (I i a) (g i a) (I (i + 1)) J) (i k : ℕ) (a : α) :
    Triple (I i a) (forFrom g i k a) (I (i + k)) J := by
  induction k generalizing i a with
  | zero => exact Triple.pure fun _ _ hi => hi
  | succ k ih =>
    have hnext (b : α) := ih (i + 1) b
    rw [Nat.add_right_comm, Nat.add_assoc] at hnext
    exact (h i a).bind hnext

/-- What is known of a part a function does not write is known behind it. -/
lemma Triple.of_keeps {g : σ → τ} (h : Keeps g m) (R : τ → Prop) :
    Triple (fun _ s => R (g s)) m (fun _ _ s => R (g s)) (fun _ s => R (g s)) := by
  intro e s hr
  have hkeeps := h e s
  cases hm : m e s with
  | ret a e' s' => rw [hm] at hkeeps; exact (congrArg R (hkeeps s' rfl)).mpr hr
  | goto e' s' => rw [hm] at hkeeps; exact (congrArg R (hkeeps s' rfl)).mpr hr
  | fault x => trivial

/-! ### Invariants -/

/-- The function keeps `I`, whichever way it leaves. -/
def Invariant (I : Assertion ε σ) (m : Proc ε σ α) : Prop := Triple I m (fun _ => I) I

variable {I : Assertion ε σ}

lemma Invariant.bind (h : Invariant I m) (h' : ∀ a, Invariant I (f a)) : Invariant I (m >>= f) :=
  Triple.bind h h'

lemma Invariant.pure (a : α) : Invariant I (pure a : Proc ε σ α) := Triple.pure fun _ _ h => h

/-! ### The errors a function sets -/

/-- The error variable does not leave `S`, on any object. -/
def Confined (S : ε → Prop) (m : Proc ε σ α) : Prop := Invariant (fun e _ => S e) m

namespace Confined

variable {S : ε → Prop} {c : Prop} [Decidable c] {x : ε} {o : Option α}

lemma bind (h : Confined S m) (h' : ∀ a, Confined S (f a)) : Confined S (m >>= f) :=
  Triple.bind h h'

lemma pure (a : α) : Confined S (pure a : Proc ε σ α) := fun _ _ h => h

lemma get : Confined S (get : Proc ε σ σ) := fun _ _ h => h

lemma getErr {f : ε → Proc ε σ β} (h : ∀ x, S x → Confined S (f x)) :
    Confined S (getErr >>= f) := fun e s he => h e he e s he

lemma modify (g : σ → σ) : Confined S (modify g : Proc ε σ Unit) := fun _ _ h => h

lemma setErr (h : S x) : Confined S (setErr x : Proc ε σ Unit) := fun _ _ _ => h

lemma jump : Confined S (jump : Proc ε σ α) := fun _ _ h => h

lemma crash (x : Fault) : Confined S (crash x : Proc ε σ α) := fun _ _ _ => trivial

lemma checkCnd (h : S x) : Confined S (checkCnd c x : Proc ε σ Unit) :=
  Triple.checkCnd (fun _ _ _ he => he) fun _ _ _ _ => h

lemma checkZero (h : S x) : Confined S (checkZero o x : Proc ε σ α) :=
  Triple.checkZero (fun _ _ _ _ he => he) fun _ _ _ _ => h

lemma orJump : Confined S (orJump o : Proc ε σ α) :=
  Triple.orJump (fun _ _ _ _ he => he) fun _ _ _ he => he

lemma orCrash (x : Fault) : Confined S (orCrash o x : Proc ε σ α) :=
  Triple.orCrash fun _ _ _ _ he => he

lemma errHandling (h : Confined S m) (v : α) : Confined S (errHandling v m) :=
  Triple.errHandling h fun _ _ he => he

lemma errCleanup (h : Confined S m) {cleanup : Proc ε σ Unit} (hc : Confined S cleanup) (v : α) :
    Confined S (errCleanup cleanup v m) := Triple.errCleanup h hc

lemma focus (h : Confined S m) {read : τ → σ} {write : σ → τ → τ} :
    Confined S (focus read write m) :=
  Triple.focus fun _ => h.conseq (fun _ _ hp => hp.2) (fun _ _ _ hq => hq) fun _ _ hj => hj

lemma outer (h : Confined S m) : Confined S (outer m : Proc ε (σ × τ) α) := h.focus

lemma assign (g : τ → τ) : Confined S (assign g : Proc ε (σ × τ) Unit) := modify _

lemma withLocals {locals : τ} {m : Proc ε (σ × τ) α} (h : Confined S m) :
    Confined S (withLocals locals m) :=
  Triple.withLocals (h.conseq (fun _ _ hp => hp.2) (fun _ _ _ hq => hq) fun _ _ hj => hj)

lemma forFrom {g : ℕ → α → Proc ε σ α} (h : ∀ i a, Confined S (g i a)) (i k : ℕ) (a : α) :
    Confined S (forFrom g i k a) := Triple.forFrom h i k a

lemma ite {m' : Proc ε σ α} (h : c → Confined S m) (h' : ¬ c → Confined S m') :
    Confined S (if c then m else m') := by
  split
  · next hc => exact h hc
  · next hc => exact h' hc

lemma map (h : Confined S m) (g : α → β) : Confined S (g <$> m) := by
  rw [map_eq_pure_bind]
  exact h.bind fun _ => Confined.pure _

end Confined

end LibXively.Triples
