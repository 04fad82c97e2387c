import Mathlib.Tactic.Common
import Mathlib.Tactic.Lemma

/-!
Runs of a machine that takes one input after the other and may stop at any of them.
-/

namespace LibXively.Runs

variable {σ ι β : Type} (step : σ → ι → Option σ)

/-- The states a run comes to, one behind each input, up to the input the machine stops at. -/
def reached : List ι → σ → List σ
  | [], _ => []
  | i :: is, s =>
    match step s i with
    | some s' => s' :: reached is s'
    | none => []

/-- Every input the machine does not stop at meets a condition on the input and the state it is
taken in. -/
def EachStep (P : σ → ι → Prop) : List ι → σ → Prop
  | [], _ => True
  | i :: is, s => ∀ s', step s i = some s' → P s i ∧ EachStep P is s'

variable {step}

/-- A part of the state that a step leaves unchanged exactly under a condition, as long as the
machine keeps an invariant, is what it was at the start, in all states of a run, exactly if every
step meets the condition. -/
lemma unchanged_iff_of_invariant {f : σ → β} {P : σ → ι → Prop} {I : σ → Prop}
    (hI : ∀ s i s', I s → step s i = some s' → I s')
    (h : ∀ s i s', I s → step s i = some s' → (f s' = f s ↔ P s i)) (is : List ι) (s : σ)
    (hs : I s) : (∀ s' ∈ reached step is s, f s' = f s) ↔ EachStep step P is s := by
  induction is generalizing s with
  | nil => simp [reached, EachStep]
  | cons i is ih =>
    unfold reached EachStep
    cases hstep : step s i with
    | none => simp
    | some s₁ =>
      have hfirst := h s i s₁ hs hstep
      simp only [List.forall_mem_cons, Option.some.injEq, forall_eq', hfirst]
      refine and_congr_right fun hp => ?_
      rw [← ih s₁ (hI s i s₁ hs hstep), hfirst.mpr hp]

/-- The same where the step lemma needs no invariant. -/
lemma unchanged_iff {f : σ → β} {P : σ → ι → Prop}
    (h : ∀ s i s', step s i = some s' → (f s' = f s ↔ P s i)) (is : List ι) (s : σ) :
    (∀ s' ∈ reached step is s, f s' = f s) ↔ EachStep step P is s :=
  unchanged_iff_of_invariant (I := fun _ => True) (fun _ _ _ _ _ => trivial)
    (fun s i s' _ => h s i s') is s trivial

/-- The machine takes every input. -/
def Completes (step : σ → ι → Option σ) : List ι → σ → Prop
  | [], _ => True
  | i :: is, s => ∃ s', step s i = some s' ∧ Completes step is s'

/-- Every input the machine comes to meets a condition on the input and the state it is taken in. -/
def Admits (step : σ → ι → Option σ) (P : σ → ι → Prop) : List ι → σ → Prop
  | [], _ => True
  | i :: is, s => P s i ∧ ∀ s', step s i = some s' → Admits step P is s'

/-- A machine that takes an input exactly under a condition takes all of them exactly if every input
it comes to meets the condition. -/
lemma completes_iff {P : σ → ι → Prop} (is : List ι)
    (h : ∀ i ∈ is, ∀ s, (∃ s', step s i = some s') ↔ P s i) (s : σ) :
    Completes step is s ↔ Admits step P is s := by
  induction is generalizing s with
  | nil => exact Iff.rfl
  | cons i is ih =>
    obtain ⟨hi, his⟩ := List.forall_mem_cons.mp h
    unfold Completes Admits
    constructor
    · rintro ⟨s', hs', hrest⟩
      refine ⟨(hi s).mp ⟨s', hs'⟩, fun s₁ hs₁ => ?_⟩
      obtain rfl := Option.some.inj (hs'.symm.trans hs₁)
      exact (ih his s').mp hrest
    · rintro ⟨hp, hrest⟩
      obtain ⟨s', hs'⟩ := (hi s).mpr hp
      exact ⟨s', hs', (ih his s').mpr (hrest s' hs')⟩

/-! ### Runs of a relation -/

section Relation

variable {σ τ ι κ : Type} {step : σ → ι → σ → Prop} {step' : τ → κ → τ → Prop} {s s' : σ}
  {is : List ι}

/-- The runs of a machine whose steps are labelled. -/
inductive Run (step : σ → ι → σ → Prop) : σ → List ι → σ → Prop
  | nil (s : σ) : Run step s [] s
  | cons {s s₁ s' : σ} {i : ι} {is : List ι} (h : step s i s₁) (hrun : Run step s₁ is s') :
    Run step s (i :: is) s'

/-- What is so between the ends of each step, and of two stretches one behind the other, is so
between the ends of a run. -/
lemma Run.related {I : σ → Prop} {R : σ → σ → Prop} (hI : ∀ {s i s'}, I s → step s i s' → I s')
    (hrefl : ∀ s, R s s) (htrans : ∀ {s s₁ s'}, R s s₁ → R s₁ s' → R s s')
    (h : ∀ {s i s'}, I s → step s i s' → R s s') (hrun : Run step s is s') (hs : I s) :
    R s s' := by
  induction hrun with
  | nil s => exact hrefl s
  | cons hstep _ ih => exact htrans (h hs hstep) (ih (hI hs hstep))

/-- A machine whose steps another one can follow is followed by it through whole runs. -/
lemma Run.simulated {R : σ → τ → Prop} {g : ι → κ}
    (h : ∀ {s i s' t}, R s t → step s i s' → ∃ t', step' t (g i) t' ∧ R s' t')
    (hrun : Run step s is s') {t : τ} (hR : R s t) :
    ∃ t', Run step' t (is.map g) t' ∧ R s' t' := by
  induction hrun generalizing t with
  | nil s => exact ⟨t, .nil t, hR⟩
  | cons hstep _ ih =>
    obtain ⟨t₁, hstep', hR₁⟩ := h hR hstep
    obtain ⟨t', hrun', hR'⟩ := ih hR₁
    exact ⟨t', .cons hstep' hrun', hR'⟩

end Relation

end LibXively.Runs
