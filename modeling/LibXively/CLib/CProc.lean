import Mathlib.Logic.Basic
import Mathlib.Tactic.Common
import Mathlib.Tactic.Lemma

/-!
C functions with a global error variable and an error label.

A function runs on the error variable and on the object it may write to. It comes to its next
statement, or jumps to its error label, or does something C gives no meaning to. The label is
where `errHandling` puts it: there the jump becomes an ordinary return.
-/

namespace LibXively.CProc

/-- The ways a C function can leave the language. -/
inductive Fault
  /-- a string read past the end of an array that holds no NUL -/
  | overread
  /-- an access outside an array -/
  | overrun
  /-- a copy of a negative number of bytes -/
  | badLength
  | nullPointer
  /-- a loop that goes round more often than its bound -/
  | diverge
  deriving DecidableEq

inductive Outcome (ε σ α : Type)
  | ret (a : α) (err : ε) (s : σ)
  | goto (err : ε) (s : σ)
  | fault (f : Fault)

def Proc (ε σ α : Type) : Type := ε → σ → Outcome ε σ α

variable {ε σ τ α β : Type}

/-- The answer of a function that returns. -/
def Outcome.answer : Outcome ε σ α → Option α
  | .ret a _ _ => some a
  | _ => none

/-- What follows a statement: a jump or a fault skips it. -/
def Outcome.andThen (o : Outcome ε σ α) (f : α → Proc ε σ β) : Outcome ε σ β :=
  match o with
  | .ret a e s => f a e s
  | .goto e s => .goto e s
  | .fault x => .fault x

instance : Monad (Proc ε σ) where
  pure a := fun e s => .ret a e s
  bind m f := fun e s => (m e s).andThen f

@[simp] lemma andThen_ret (a : α) (e : ε) (s : σ) (f : α → Proc ε σ β) :
    (Outcome.ret a e s).andThen f = f a e s := rfl
@[simp] lemma andThen_goto (e : ε) (s : σ) (f : α → Proc ε σ β) :
    (Outcome.goto e s).andThen f = .goto e s := rfl
@[simp] lemma andThen_fault (x : Fault) (f : α → Proc ε σ β) :
    (Outcome.fault x : Outcome ε σ α).andThen f = .fault x := rfl

@[simp] lemma pure_apply (a : α) (e : ε) (s : σ) : (pure a : Proc ε σ α) e s = .ret a e s := rfl
@[simp] lemma bind_apply (m : Proc ε σ α) (f : α → Proc ε σ β) (e : ε) (s : σ) :
    (m >>= f) e s = (m e s).andThen f := rfl

instance : LawfulMonad (Proc ε σ) := by
  refine LawfulMonad.mk' _ ?_ ?_ ?_
  · intro α m
    funext e s
    show (m e s).andThen (fun a => pure (id a)) = m e s
    cases m e s <;> rfl
  · exact fun _ _ => rfl
  · intro α β γ m f g
    funext e s
    show ((m e s).andThen f).andThen g = (m e s).andThen fun a => f a >>= g
    cases m e s <;> rfl

@[simp] lemma map_apply (f : α → β) (m : Proc ε σ α) (e : ε) (s : σ) :
    (f <$> m) e s = (m e s).andThen fun a => pure (f a) := rfl

/-! ### Statements -/

def get : Proc ε σ σ := fun e s => .ret s e s

def modify (f : σ → σ) : Proc ε σ Unit := fun e s => .ret () e (f s)

def setErr (x : ε) : Proc ε σ Unit := fun _ s => .ret () x s

def getErr : Proc ε σ ε := fun e s => .ret e e s

/-- `goto err_handling`. -/
def jump : Proc ε σ α := fun e s => .goto e s

def crash (x : Fault) : Proc ε σ α := fun _ _ => .fault x

/-- Set the error and jump to the error label if the condition holds. -/
def checkCnd (c : Prop) [Decidable c] (x : ε) : Proc ε σ Unit :=
  fun e s => if c then .goto x s else .ret () e s

/-- A pointer that must not be null: a null pointer sets the error and jumps. -/
def checkZero (a : Option α) (x : ε) : Proc ε σ α :=
  match a with
  | none => fun _ s => .goto x s
  | some a => pure a

/-- `if( a == 0 ) { goto err_handling; }`. -/
def orJump (a : Option α) : Proc ε σ α :=
  match a with
  | none => jump
  | some a => pure a

/-- A value that is not there for reasons C gives no meaning to. -/
def orCrash (a : Option α) (x : Fault) : Proc ε σ α :=
  match a with
  | none => crash x
  | some a => pure a

/-- The error label `err_handling: return v`. -/
def errHandling (v : α) (m : Proc ε σ α) : Proc ε σ α := fun e s =>
  match m e s with
  | .goto e s => .ret v e s
  | o => o

/-- The error label `err_handling: cleanup; return v`. -/
def errCleanup (cleanup : Proc ε σ Unit) (v : α) (m : Proc ε σ α) : Proc ε σ α := fun e s =>
  match m e s with
  | .goto e s => (cleanup >>= fun _ => pure v) e s
  | o => o

/-- Run a function on a part of the object. -/
def focus (read : τ → σ) (write : σ → τ → τ) (m : Proc ε σ α) : Proc ε τ α := fun e t =>
  match m e (read t) with
  | .ret a e s => .ret a e (write s t)
  | .goto e s => .goto e (write s t)
  | .fault x => .fault x

/-- Run with local variables of its own, which start with the given values. -/
def withLocals (locals : τ) (m : Proc ε (σ × τ) α) : Proc ε σ α := fun e s =>
  match m e (s, locals) with
  | .ret a e s => .ret a e s.1
  | .goto e s => .goto e s.1
  | .fault x => .fault x

/-- Run on the object itself, from inside a scope. -/
def outer (m : Proc ε σ α) : Proc ε (σ × τ) α := focus Prod.fst (fun s p => (s, p.2)) m

/-- Assign to the local variables. -/
def assign (f : τ → τ) : Proc ε (σ × τ) Unit := modify fun p => (p.1, f p.2)

/-- `for( ; i < i + k; ++i )`, with the local variables the body carries along. -/
def forFrom (f : ℕ → α → Proc ε σ α) : ℕ → ℕ → α → Proc ε σ α
  | _, 0, a => pure a
  | i, k + 1, a => do
    let a ← f i a
    forFrom f (i + 1) k a

@[simp] lemma get_apply (e : ε) (s : σ) : get e s = .ret s e s := rfl
@[simp] lemma modify_apply (f : σ → σ) (e : ε) (s : σ) : modify f e s = .ret () e (f s) := rfl
@[simp] lemma setErr_apply (x e : ε) (s : σ) : setErr x e s = .ret () x s := rfl
@[simp] lemma getErr_apply (e : ε) (s : σ) : getErr e s = .ret e e s := rfl
@[simp] lemma jump_apply (e : ε) (s : σ) : (jump : Proc ε σ α) e s = .goto e s := rfl
@[simp] lemma crash_apply (x : Fault) (e : ε) (s : σ) :
    (crash x : Proc ε σ α) e s = .fault x := rfl

lemma checkCnd_pos {c : Prop} [Decidable c] (h : c) (x e : ε) (s : σ) :
    checkCnd c x e s = .goto x s := if_pos h
lemma checkCnd_neg {c : Prop} [Decidable c] (h : ¬ c) (x e : ε) (s : σ) :
    checkCnd c x e s = .ret () e s := if_neg h

@[simp] lemma checkCnd_true [Decidable True] (x e : ε) (s : σ) :
    checkCnd True x e s = .goto x s := checkCnd_pos trivial x e s
@[simp] lemma checkCnd_false [Decidable False] (x e : ε) (s : σ) :
    checkCnd False x e s = .ret () e s := checkCnd_neg id x e s

@[simp] lemma checkZero_none (x e : ε) (s : σ) :
    (checkZero none x : Proc ε σ α) e s = .goto x s := rfl
@[simp] lemma checkZero_some (a : α) (x e : ε) (s : σ) :
    checkZero (some a) x e s = .ret a e s := rfl

@[simp] lemma orCrash_none (x : Fault) (e : ε) (s : σ) :
    (orCrash none x : Proc ε σ α) e s = .fault x := rfl
@[simp] lemma orCrash_some (a : α) (x : Fault) (e : ε) (s : σ) :
    orCrash (some a) x e s = .ret a e s := rfl

section Steps

variable {m : Proc ε σ α} {f : α → Proc ε σ β} {e e' : ε} {s s' : σ} {a : α} {x : Fault}

lemma bind_ret (h : m e s = .ret a e' s') : (m >>= f) e s = f a e' s' := by
  rw [bind_apply, h, andThen_ret]

lemma bind_goto (h : m e s = .goto e' s') : (m >>= f) e s = .goto e' s' := by
  rw [bind_apply, h, andThen_goto]

lemma bind_fault (h : m e s = .fault x) : (m >>= f) e s = .fault x := by
  rw [bind_apply, h, andThen_fault]

lemma ret_map (h : m e s = .ret a e' s') (g : α → β) : (g <$> m) e s = .ret (g a) e' s' := by
  rw [map_apply, h, andThen_ret, pure_apply]

lemma map_ret {g : α → β} {b : β} (h : (g <$> m) e s = .ret b e' s') :
    ∃ a, m e s = .ret a e' s' ∧ g a = b := by
  rw [map_apply] at h
  cases hm : m e s with
  | ret a e₁ s₁ => rw [hm] at h; cases h; exact ⟨a, rfl, rfl⟩
  | goto e₁ s₁ => rw [hm] at h; cases h
  | fault x => rw [hm] at h; cases h

end Steps

lemma errHandling_ret {m : Proc ε σ α} {e e' : ε} {s s' : σ} {a : α} (v : α)
    (h : m e s = .ret a e' s') : errHandling v m e s = .ret a e' s' := by
  simp [errHandling, h]

lemma errHandling_goto {m : Proc ε σ α} {e e' : ε} {s s' : σ} (v : α)
    (h : m e s = .goto e' s') : errHandling v m e s = .ret v e' s' := by
  simp [errHandling, h]

lemma errHandling_fault {m : Proc ε σ α} {e : ε} {s : σ} {x : Fault} (v : α)
    (h : m e s = .fault x) : errHandling v m e s = .fault x := by
  simp [errHandling, h]

lemma focus_ret {read : τ → σ} {write : σ → τ → τ} {m : Proc ε σ α} {e e' : ε} {t : τ} {s' : σ}
    {a : α} (h : m e (read t) = .ret a e' s') :
    focus read write m e t = .ret a e' (write s' t) := by
  simp [focus, h]

lemma focus_goto {read : τ → σ} {write : σ → τ → τ} {m : Proc ε σ α} {e e' : ε} {t : τ} {s' : σ}
    (h : m e (read t) = .goto e' s') : focus read write m e t = .goto e' (write s' t) := by
  simp [focus, h]

lemma focus_fault {read : τ → σ} {write : σ → τ → τ} {m : Proc ε σ α} {e : ε} {t : τ}
    {x : Fault} (h : m e (read t) = .fault x) : focus read write m e t = .fault x := by
  simp [focus, h]

lemma errHandling_bind {m : Proc ε σ α} {f : α → Proc ε σ β} {e e' : ε} {s s' : σ} {a : α} (v : β)
    (h : m e s = .ret a e' s') : errHandling v (m >>= f) e s = errHandling v (f a) e' s' := by
  simp [errHandling, h]

/-! ### Pre- and postconditions -/

/-- From an object with `P`, whatever the error variable holds, the function comes to the next
statement with the answer `v`, the object has `Q`, and the error is `w`, or the one that was
there if `w` is `none`. -/
def Returns (P : σ → Prop) (m : Proc ε σ α) (v : α) (w : Option ε) (Q : σ → Prop) : Prop :=
  ∀ e s, P s → ∃ s', m e s = .ret v (w.getD e) s' ∧ Q s'

/-- From an object with `P` the function jumps to its error label. -/
def Leaves (P : σ → Prop) (m : Proc ε σ α) (w : Option ε) (Q : σ → Prop) : Prop :=
  ∀ e s, P s → ∃ s', m e s = .goto (w.getD e) s' ∧ Q s'

/-- The function answers `v` on every object. -/
def Yields (m : Proc ε σ α) (v : α) (w : Option ε) : Prop :=
  Returns (fun _ => True) m v w fun _ => True

variable {P Q R : σ → Prop} {m : Proc ε σ α} {f : α → Proc ε σ β} {v : α} {v' : β}
  {w w' : Option ε}

lemma Returns.bind (h : Returns P m v w Q) (h' : Returns Q (f v) v' w' R) :
    Returns P (m >>= f) v' (w'.or w) R := by
  intro e s hs
  obtain ⟨t, ht, hq⟩ := h e s hs
  obtain ⟨u, hu, hr⟩ := h' _ t hq
  refine ⟨u, ?_, hr⟩
  rw [bind_apply, ht, andThen_ret, hu, Option.getD_or]

lemma Returns.bindLeaves (h : Returns P m v w Q) (h' : Leaves Q (f v) w' R) :
    Leaves P (m >>= f) (w'.or w) R := by
  intro e s hs
  obtain ⟨t, ht, hq⟩ := h e s hs
  obtain ⟨u, hu, hr⟩ := h' _ t hq
  refine ⟨u, ?_, hr⟩
  rw [bind_apply, ht, andThen_ret, hu, Option.getD_or]

lemma Leaves.bind (h : Leaves P m w Q) : Leaves P (m >>= f) w Q := by
  intro e s hs
  obtain ⟨t, ht, hq⟩ := h e s hs
  exact ⟨t, by simp [ht], hq⟩

/-- A statement that leaves the error variable alone, in front of another one. -/
lemma Returns.seq (h : Returns P m v none Q) (h' : Returns Q (f v) v' w R) :
    Returns P (m >>= f) v' w R := by simpa using h.bind h'

lemma Returns.seqLeaves (h : Returns P m v none Q) (h' : Leaves Q (f v) w R) :
    Leaves P (m >>= f) w R := by simpa using h.bindLeaves h'

/-- A jump that sets no error leaves with the one that was set before it. -/
lemma Returns.seqJump {x : ε} (h : Returns P m v (some x) Q) (h' : Leaves Q (f v) none R) :
    Leaves P (m >>= f) (some x) R := h.bindLeaves h'

/-- A jump that sets its own error hides the one before it. -/
lemma Returns.seqFails {x : ε} (h : Returns P m v w Q) (h' : Leaves Q (f v) (some x) R) :
    Leaves P (m >>= f) (some x) R := h.bindLeaves h'

/-- A statement that sets an error hides the one before it. -/
lemma Returns.sets {x : ε} (h : Returns P m v w Q) (h' : Returns Q (f v) v' (some x) R) :
    Returns P (m >>= f) v' (some x) R := h.bind h'

/-- The error a statement has set is still there after statements that set none. -/
lemma Returns.keeps {x : ε} (h : Returns P m v (some x) Q) (h' : Returns Q (f v) v' none R) :
    Returns P (m >>= f) v' (some x) R := h.bind h'

lemma Returns.errHandling (h : Returns P m v w Q) (d : α) :
    Returns P (errHandling d m) v w Q := by
  intro e s hs
  obtain ⟨t, ht, hq⟩ := h e s hs
  exact ⟨t, errHandling_ret d ht, hq⟩

lemma Leaves.errHandling (h : Leaves P m w Q) (d : α) : Returns P (errHandling d m) d w Q := by
  intro e s hs
  obtain ⟨t, ht, hq⟩ := h e s hs
  exact ⟨t, errHandling_goto d ht, hq⟩

/-- A statement that comes to the next one, in a function with an error label. -/
lemma Returns.handled {d : β} (h : Returns P m v w Q)
    (h' : Returns Q (CProc.errHandling d (f v)) v' w' R) :
    Returns P (CProc.errHandling d (m >>= f)) v' (w'.or w) R := by
  intro e s hs
  obtain ⟨t, ht, hq⟩ := h e s hs
  obtain ⟨u, hu, hr⟩ := h' _ t hq
  exact ⟨u, by rw [errHandling_bind d ht, hu, Option.getD_or], hr⟩

lemma Returns.mono {P' Q' : σ → Prop} (h : Returns P m v w Q) (hP : ∀ s, P' s → P s)
    (hQ : ∀ s, Q s → Q' s) : Returns P' m v w Q' := by
  intro e s hs
  obtain ⟨t, ht, hq⟩ := h e s (hP s hs)
  exact ⟨t, ht, hQ t hq⟩

lemma Returns.yields (h : Returns P m v w Q) (hP : ∀ s, P s) : Yields m v w :=
  h.mono (fun s _ => hP s) (fun _ _ => trivial)

lemma Leaves.mono {P' Q' : σ → Prop} (h : Leaves P m w Q) (hP : ∀ s, P' s → P s)
    (hQ : ∀ s, Q s → Q' s) : Leaves P' m w Q' := by
  intro e s hs
  obtain ⟨t, ht, hq⟩ := h e s (hP s hs)
  exact ⟨t, ht, hQ t hq⟩

lemma Returns.pure (P : σ → Prop) (v : α) : Returns P (pure v : Proc ε σ α) v none P :=
  fun _ s hs => ⟨s, rfl, hs⟩

/-- The answer of a function, changed on the way. -/
lemma Returns.map (h : Returns P m v w Q) (g : α → β) :
    Returns P (m >>= fun a => Pure.pure (g a)) (g v) w Q := by
  intro e s hs
  obtain ⟨t, ht, hq⟩ := h e s hs
  exact ⟨t, by rw [bind_apply, ht]; rfl, hq⟩

lemma Leaves.jump (P : σ → Prop) : Leaves P (jump : Proc ε σ α) none P :=
  fun _ s hs => ⟨s, rfl, hs⟩

lemma Returns.checkCnd {c : Prop} [Decidable c] (h : ¬ c) (P : σ → Prop) (x : ε) :
    Returns P (checkCnd c x) () none P :=
  fun e s hs => ⟨s, checkCnd_neg h x e s, hs⟩

lemma Leaves.checkCnd {c : Prop} [Decidable c] (h : c) (P : σ → Prop) (x : ε) :
    Leaves P (checkCnd c x) (some x) P :=
  fun e s hs => ⟨s, checkCnd_pos h x e s, hs⟩

lemma Returns.orJump (v : α) (P : σ → Prop) :
    Returns P (orJump (some v) : Proc ε σ α) v none P := Returns.pure P v

lemma Leaves.orJump (P : σ → Prop) : Leaves P (orJump none : Proc ε σ α) none P := Leaves.jump P

lemma Returns.orCrash {a : Option α} (h : a = some v) (P : σ → Prop) (x : Fault) :
    Returns P (orCrash a x : Proc ε σ α) v none P :=
  fun e s hs => ⟨s, by simp [h], hs⟩

/-- A function on a part of the object does to that part what it does on its own. -/
lemma Returns.focus {read : τ → σ} {write : σ → τ → τ} (h : Returns P m v w Q)
    (hrw : ∀ s t, read (write s t) = s) :
    Returns (fun t => P (read t)) (focus read write m) v w (fun t => Q (read t)) := by
  intro e t ht
  obtain ⟨s', hs', hq⟩ := h e _ ht
  exact ⟨_, focus_ret hs', by simpa only [hrw] using hq⟩

lemma Leaves.focus {read : τ → σ} {write : σ → τ → τ} (h : Leaves P m w Q)
    (hrw : ∀ s t, read (write s t) = s) :
    Leaves (fun t => P (read t)) (focus read write m) w (fun t => Q (read t)) := by
  intro e t ht
  obtain ⟨s', hs', hq⟩ := h e _ ht
  exact ⟨_, focus_goto hs', by simpa only [hrw] using hq⟩

/-! ### Parts of the object a function does not write -/

/-- The object a function leaves, unless it faults. -/
def Outcome.object : Outcome ε σ α → Option σ
  | .ret _ _ s => some s
  | .goto _ s => some s
  | .fault _ => none

@[simp] lemma object_ret (a : α) (e : ε) (s : σ) :
    (Outcome.ret a e s).object = some s := rfl
@[simp] lemma object_goto (e : ε) (s : σ) :
    (Outcome.goto e s : Outcome ε σ α).object = some s := rfl
@[simp] lemma object_fault (x : Fault) : (Outcome.fault x : Outcome ε σ α).object = none := rfl

/-- The function leaves `g` of the object as it was. -/
def Keeps (g : σ → τ) (m : Proc ε σ α) : Prop :=
  ∀ e s, ∀ s' ∈ (m e s).object, g s' = g s

variable {g : σ → τ}

lemma Keeps.pure (v : α) : Keeps g (pure v : Proc ε σ α) := by
  intro e s s' hs'
  cases hs'; rfl

lemma Keeps.checkCnd (c : Prop) [Decidable c] (x : ε) : Keeps g (checkCnd c x) := by
  intro e s s' hs'
  unfold CProc.checkCnd at hs'
  split at hs' <;> cases hs' <;> rfl

lemma Keeps.bind (h : Keeps g m) (h' : ∀ a, Keeps g (f a)) : Keeps g (m >>= f) := by
  intro e s s' hs'
  have hm := h e s
  rw [bind_apply] at hs'
  cases ho : m e s with
  | ret b e1 s1 =>
    rw [ho] at hs' hm
    exact (h' b e1 s1 s' hs').trans (hm s1 rfl)
  | goto e1 s1 => rw [ho] at hs' hm; exact hm s' hs'
  | fault x => rw [ho] at hs'; cases hs'

lemma object_errHandling (d : α) (m : Proc ε σ α) (e : ε) (s : σ) :
    (errHandling d m e s).object = (m e s).object := by
  unfold errHandling
  cases m e s <;> rfl

/-- What does not fault comes back behind an error label. -/
lemma errHandling_object (d : α) {m : Proc ε σ α} {e : ε} {s s' : σ}
    (h : (m e s).object = some s') : ∃ a e', errHandling d m e s = .ret a e' s' := by
  cases ho : m e s with
  | ret a e1 s1 => rw [ho] at h; cases h; exact ⟨a, e1, errHandling_ret d ho⟩
  | goto e1 s1 => rw [ho] at h; cases h; exact ⟨d, e1, errHandling_goto d ho⟩
  | fault x => rw [ho] at h; cases h

lemma fault_of_object {m : Proc ε σ α} {e : ε} {s : σ} (h : (m e s).object = none) :
    ∃ x, m e s = .fault x := by
  cases ho : m e s with
  | fault x => exact ⟨x, rfl⟩
  | _ => rw [ho] at h; cases h

lemma Keeps.errHandling (h : Keeps g m) (d : α) : Keeps g (errHandling d m) := by
  intro e s s' hs'
  rw [object_errHandling] at hs'
  exact h e s s' hs'

/-- A function on another part of the object leaves `g` alone. -/
lemma Keeps.focus {υ : Type} {g : τ → υ} {read : τ → σ} {write : σ → τ → τ}
    (hg : ∀ s t, g (write s t) = g t) (m : Proc ε σ α) : Keeps g (focus read write m) := by
  intro e t t' ht'
  unfold CProc.focus at ht'
  cases ho : m e (read t) <;> rw [ho] at ht' <;> cases ht' <;> exact hg _ _

/-- A function on a part of the object that leaves something of that part alone. -/
lemma Keeps.focusPart {υ ζ : Type} {g : τ → υ} {k : σ → ζ} {read : τ → σ} {write : σ → τ → τ}
    (h : Keeps k m) (hg : ∀ s t, k s = k (read t) → g (write s t) = g t) :
    Keeps g (CProc.focus read write m) := by
  intro e t t' ht'
  have hm := h e (read t)
  unfold CProc.focus at ht'
  cases ho : m e (read t) with
  | ret a e1 s1 => rw [ho] at ht' hm; cases ht'; exact hg _ _ (hm s1 rfl)
  | goto e1 s1 => rw [ho] at ht' hm; cases ht'; exact hg _ _ (hm s1 rfl)
  | fault x => rw [ho] at ht'; cases ht'

lemma Keeps.modify {f : σ → σ} (h : ∀ s, g (f s) = g s) : Keeps g (modify f : Proc ε σ Unit) := by
  intro e s s' hs'
  cases hs'
  exact h s

lemma Keeps.jump : Keeps g (jump : Proc ε σ α) := by
  intro e s s' hs'
  cases hs'; rfl

lemma Keeps.orCrash (a : Option α) (x : Fault) : Keeps g (orCrash a x : Proc ε σ α) := by
  intro e s s' hs'
  cases a <;> cases hs'
  rfl

/-- What is known of a part that is left alone is known afterwards too. -/
lemma Returns.frame (h : Returns P m v w Q) (hk : Keeps g m) (R : τ → Prop) :
    Returns (fun s => P s ∧ R (g s)) m v w fun s => Q s ∧ R (g s) := by
  intro e s ⟨hp, hr⟩
  obtain ⟨t, ht, hq⟩ := h e s hp
  exact ⟨t, ht, hq, by rwa [hk e s t (by simp [ht])]⟩

end LibXively.CProc
