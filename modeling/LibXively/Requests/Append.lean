import LibXively.Model.HttpTransport

/-!
Appending to a string in a fixed array, with an offset that is checked after every print.

Every encoder is a chain of prints of this kind. What one print does is stated once, and what a
chain does follows: the array holds the texts one behind the other, or the chain stops with an
error at the first text that does not fit with its terminator.
-/

namespace LibXively.Append

open LibXively.Bytes LibXively.CProc LibXively.CharArray LibXively.Structures
open LibXively.CsvData LibXively.HttpTransport

/-- Two texts one behind the other, where a missing text stands for one that cannot be
printed. -/
def cat (u v : Option Text) : Option Text := u.bind fun a => v.map (a ++ ·)

/-- The texts of a loop one behind the other. -/
def cats (u : ℕ → Option Text) (i k : ℕ) : Option Text :=
  ((List.range' i k).map u).foldr cat (some [])

@[simp] lemma cat_some (a b : Text) : cat (some a) (some b) = some (a ++ b) := rfl
@[simp] lemma cat_none_left (v : Option Text) : cat none v = none := rfl
@[simp] lemma cat_none_right (u : Option Text) : cat u none = none := by cases u <;> rfl

lemma cat_eq_some {u v : Option Text} {t : Text} (h : cat u v = some t) :
    ∃ a b, u = some a ∧ v = some b ∧ t = a ++ b := by
  cases u with
  | none => cases h
  | some a =>
    cases v with
    | none => cases h
    | some b => exact ⟨a, b, rfl, rfl, (Option.some.inj h).symm⟩

lemma cats_zero (u : ℕ → Option Text) (i : ℕ) : cats u i 0 = some [] := rfl
lemma cats_succ (u : ℕ → Option Text) (i k : ℕ) :
    cats u i (k + 1) = cat (u i) (cats u (i + 1) k) := rfl

/-- What holds of the texts of a loop, and of what they make one behind the other, holds of the
whole. -/
lemma cats_closed {P : Text → Prop} (hnil : P []) (happ : ∀ a b, P a → P b → P (a ++ b))
    {u : ℕ → Option Text} {i k : ℕ} (hu : ∀ j v, i ≤ j → j < i + k → u j = some v → P v)
    {v : Text} (h : cats u i k = some v) : P v := by
  induction k generalizing i v with
  | zero => cases h; exact hnil
  | succ k ih =>
    rw [cats_succ] at h
    obtain ⟨a, b, ha, hb, rfl⟩ := cat_eq_some h
    exact happ a b (hu i a le_rfl (by omega) ha)
      (ih (fun j v h1 h2 => hu j v (by omega) (by omega)) hb)

/-- A loop whose texts are all there. -/
lemma cats_eq_some {u : ℕ → Option Text} {w : ℕ → Text} {i k : ℕ}
    (h : ∀ j, i ≤ j → j < i + k → u j = some (w j)) :
    cats u i k = some ((List.range' i k).flatMap w) := by
  induction k generalizing i with
  | zero => rfl
  | succ k ih =>
    rw [cats_succ, h i le_rfl (by omega), ih fun j h1 h2 => h j (by omega) (by omega),
      List.range'_succ, cat_some, List.flatMap_cons]

variable {n : ℕ}

/-- The text fits behind `o` bytes, with its terminator. -/
def FitsAt (n o : ℕ) (u : Option Text) : Prop := ∃ v, u = some v ∧ o + v.length < n

lemma fitsAt_some {o : ℕ} {v : Text} : FitsAt n o (some v) ↔ o + v.length < n := by
  simp [FitsAt]

/-- A print, given the room up to the end of the array, prints `u` behind a front `t`, behind
which stands `z`; or it answers with a number that is too large or negative. -/
def Prints (z : Text) (g : ℕ → ℤ → Proc XiErr (Buf n) ℤ) (u : Option Text) : Prop :=
  ∀ t : Text, t.length < n →
    (∀ v, u = some v → t.length + v.length < n →
      Returns (Starts (t ++ z)) (g t.length (n - t.length)) v.length none
        (Starts (t ++ v ++ [0]))) ∧
    (¬ FitsAt n t.length u → ∃ (s : ℤ) (w : Option XiErr) (Q : Buf n → Prop),
      (n - t.length ≤ s ∨ s < 0) ∧ Returns (Starts (t ++ z)) (g t.length (n - t.length)) s w Q)

/-- A step that takes an offset, counted from `a` on, to the next: it appends `u` to a front `t`,
behind which stands `z`, or jumps with an error if `u` does not fit. -/
def Appends (a : ℕ) (z : Text) (f : ℕ → Proc XiErr (Buf n) ℕ) (u : Option Text) : Prop :=
  ∀ (o : ℕ) (t : Text), t.length = a + o → a + o < n →
    (∀ v, u = some v → a + o + v.length < n →
      Returns (Starts (t ++ z)) (f o) (o + v.length) none (Starts (t ++ v ++ [0]))) ∧
    (¬ FitsAt n (a + o) u → ∃ (x : XiErr) (Q : Buf n → Prop),
      x ≠ .noErr ∧ Leaves (Starts (t ++ z)) (f o) (some x) Q)

/-- A print that answers -1 with an error if the text does not fit. -/
def Builds (g : ℕ → ℤ → Proc XiErr (Buf n) ℤ) (u : Option Text) : Prop :=
  ∀ t : Text, t.length < n →
    (∀ v, u = some v → t.length + v.length < n →
      Returns (Starts t) (g t.length (n - t.length)) v.length none (Starts (t ++ v ++ [0]))) ∧
    (¬ FitsAt n t.length u → ∃ (x : XiErr) (Q : Buf n → Prop),
      x ≠ .noErr ∧ Returns (Starts t) (g t.length (n - t.length)) (-1) (some x) Q)

/-- On every object the function answers `v` if `c` holds, and otherwise nothing, with an
error. -/
def Decides {σ β : Type} (m : Proc XiErr σ (Option β)) (c : Prop) (v : β) : Prop :=
  (c → Yields m (some v) none) ∧ (¬ c → ∃ x : XiErr, x ≠ .noErr ∧ Yields m none (some x))

/-! ### One print -/

lemma prints_snprintf (u : Text) : Prints (n := n) [] (fun at_ size => snprintf at_ size u)
    (some u) := by
  intro t ht
  have hsize : (t.length : ℤ) + (n - t.length) ≤ n := by omega
  have hpos : (0 : ℤ) < n - t.length := by omega
  have h := @returns_snprintf _ XiErr _ _ hpos hsize u
  rw [List.append_nil]
  refine ⟨?_, fun hfit => ⟨u.length, none, _, Or.inl ?_, h⟩⟩
  · intro v hv hlt
    cases hv
    rwa [List.take_of_length_le (by omega)] at h
  · rw [fitsAt_some] at hfit
    omega

lemma returns_checkS {s size : ℤ} {o : ℕ} {x : XiErr} (h : 0 ≤ s ∧ s < size - o)
    (P : Buf n → Prop) : Returns P (xiCheckS s size o x) (o + s.toNat) none P :=
  Returns.seq (Returns.checkCnd (by omega) P x) (Returns.pure P (o + s.toNat))

lemma leaves_checkS {s size : ℤ} {o : ℕ} {x : XiErr} (h : size - o ≤ s ∨ s < 0)
    (P : Buf n → Prop) : Leaves P (xiCheckS s size o x) (some x) P :=
  Leaves.bind (Leaves.checkCnd h P x)

/-- A print whose answer is checked and added to the offset. -/
lemma Prints.appends {z : Text} {g : ℕ → ℤ → Proc XiErr (Buf n) ℤ} {u : Option Text}
    (h : Prints z g u) (a : ℕ) {x : XiErr} (hx : x ≠ .noErr) :
    Appends a z (fun o => do
      let s ← g (a + o) (n - a - o)
      xiCheckS s (n - a) o x) u := by
  intro o t ht ho
  obtain ⟨hfit, hover⟩ := h t (by omega)
  have hroom : (n : ℤ) - t.length = n - a - o := by omega
  rw [hroom, ht] at hfit hover
  refine ⟨fun v hv hlt => ?_, fun hno => ?_⟩
  · exact (hfit v hv hlt).seq (returns_checkS (by omega) _)
  · obtain ⟨s, w, Q, hs, hret⟩ := hover hno
    exact ⟨x, Q, hx, hret.seqFails (leaves_checkS (by omega) Q)⟩

lemma appends_appendPiece (u : Text) {x : XiErr} (hx : x ≠ .noErr) :
    Appends (n := n) 0 [] (fun o => appendPiece o u x) (some u) := by
  have h := (prints_snprintf (n := n) u).appends 0 hx
  intro o t ht ho
  have hmax : max ((n : ℤ) - o) 0 = n - o := by omega
  simpa [appendPiece, hmax] using h o t ht ho

lemma Builds.prints {g : ℕ → ℤ → Proc XiErr (Buf n) ℤ} {u : Option Text} (h : Builds g u) :
    Prints [] g u := by
  intro t ht
  obtain ⟨hfit, hover⟩ := h t ht
  rw [List.append_nil]
  refine ⟨hfit, fun hno => ?_⟩
  obtain ⟨x, Q, -, hr⟩ := hover hno
  exact ⟨-1, some x, Q, Or.inr (by decide), hr⟩

/-! ### Chains and loops -/

lemma Appends.weaken {a : ℕ} {z : Text} {f : ℕ → Proc XiErr (Buf n) ℕ} {u : Option Text}
    (h : Appends a [] f u) : Appends a z f u := by
  intro o t ht ho
  obtain ⟨hfit, hover⟩ := h o t ht ho
  rw [List.append_nil] at hfit hover
  refine ⟨fun v hv hlt => (hfit v hv hlt).mono (fun _ => Starts.of_append) (fun _ h => h),
    fun hno => ?_⟩
  obtain ⟨x, Q, hx, hl⟩ := hover hno
  exact ⟨x, Q, hx, hl.mono (fun _ => Starts.of_append) (fun _ h => h)⟩

/-- A step only matters at the offsets inside the array. -/
lemma Appends.congr {a : ℕ} {z : Text} {f g : ℕ → Proc XiErr (Buf n) ℕ} {u : Option Text}
    (h : Appends a z f u) (hfg : ∀ o, a + o < n → f o = g o) : Appends a z g u := by
  intro o t ht ho
  rw [← hfg o ho]
  exact h o t ht ho

lemma Appends.andThen {a : ℕ} {z : Text} {f g : ℕ → Proc XiErr (Buf n) ℕ} {u v : Option Text}
    (hf : Appends a z f u) (hg : Appends a [0] g v) :
    Appends a z (fun o => f o >>= g) (cat u v) := by
  intro o t ht ho
  obtain ⟨hfit, hover⟩ := hf o t ht ho
  by_cases hu : FitsAt n (a + o) u
  · obtain ⟨x, rfl, hx⟩ := hu
    have hret := hfit x rfl hx
    obtain ⟨hfit', hover'⟩ := hg (o + x.length) (t ++ x) (by simp [ht]; omega) (by omega)
    refine ⟨fun y hy hlt => ?_, fun hno => ?_⟩
    · obtain ⟨x', y, ⟨⟩, rfl, rfl⟩ := cat_eq_some hy
      rw [List.length_append] at hlt ⊢
      have := hret.seq (hfit' y rfl (by omega))
      rwa [← List.append_assoc, ← Nat.add_assoc]
    · obtain ⟨e, Q, he, hl⟩ := hover' fun ⟨y, hy, hlt⟩ => hno ⟨x ++ y, by simp [hy], by
        rw [List.length_append]; omega⟩
      exact ⟨e, Q, he, hret.seqLeaves hl⟩
  · obtain ⟨e, Q, he, hl⟩ := hover hu
    refine ⟨fun y hy hlt => absurd ?_ hu, fun _ => ⟨e, Q, he, hl.bind⟩⟩
    obtain ⟨x, y', rfl, rfl, rfl⟩ := cat_eq_some hy
    rw [List.length_append] at hlt
    exact fitsAt_some.mpr (by omega)

lemma appends_pure (a : ℕ) : Appends (n := n) a [0] (fun o => pure o) (some []) := by
  intro o t _ ho
  refine ⟨fun v hv _ => ?_, fun hno => absurd (fitsAt_some.mpr (by simpa using ho)) hno⟩
  cases hv
  simpa using Returns.pure _ _

lemma Appends.forFrom {a : ℕ} {f : ℕ → ℕ → Proc XiErr (Buf n) ℕ} {u : ℕ → Option Text}
    {i k : ℕ} (h : ∀ j, i ≤ j → j < i + k → Appends a [0] (f j) (u j)) :
    Appends a [0] (fun o => forFrom f i k o) (cats u i k) := by
  induction k generalizing i with
  | zero => exact appends_pure a
  | succ k ih =>
    rw [cats_succ]
    exact (h i le_rfl (by omega)).andThen (ih fun j h1 h2 => h j (by omega) (by omega))

/-! ### Functions that return a text -/

/-- A chain from the front of the array, and then the string that is in it. -/
lemma Appends.decides {f : ℕ → Proc XiErr (Buf n) ℕ} {u : Option Text} (hf : Appends 0 [] f u)
    (hn : 0 < n) (h0 : ∀ v, u = some v → (0 : Byte) ∉ v) :
    Decides (errHandling none (f 0 >>= fun _ => readStr >>= fun t => pure (some t)))
      (FitsAt n 0 u) (u.getD []) := by
  obtain ⟨hfit, hover⟩ := hf 0 [] rfl (by simpa using hn)
  simp only [zero_add, List.nil_append] at hfit hover
  refine ⟨fun ⟨v, hv, hlt⟩ => ?_, fun hno => ?_⟩
  · have hread := (returns_readStr (ε := XiErr) (n := n) (h0 v hv)).map some
    rw [hv, Option.getD_some]
    exact (((hfit v hv (by omega)).seq hread).errHandling none).yields starts_nil
  · obtain ⟨x, Q, hx, hl⟩ := hover hno
    exact ⟨x, hx, (hl.bind.errHandling none).yields starts_nil⟩

variable {σ τ β γ : Type} {m : Proc XiErr σ (Option β)} {c d : Prop} {v : β}

lemma Decides.focus {read : τ → σ} {write : σ → τ → τ} (h : Decides m c v)
    (hrw : ∀ s t, read (write s t) = s) : Decides (focus read write m) c v := by
  refine ⟨fun hc => Returns.focus (h.1 hc) hrw, fun hc => ?_⟩
  obtain ⟨x, hx, hy⟩ := h.2 hc
  exact ⟨x, hx, Returns.focus hy hrw⟩

/-- Return nothing if there is nothing, and otherwise go on. -/
lemma Decides.bind {f : β → Proc XiErr σ (Option γ)} {u : γ} (h : Decides m c v)
    (h' : Decides (f v) d u) :
    Decides (unlessNull m f) (c ∧ d) u := by
  refine ⟨fun ⟨hc, hd⟩ => (h.1 hc).seq (h'.1 hd), fun hcd => ?_⟩
  by_cases hc : c
  · obtain ⟨x, hx, hy⟩ := h'.2 fun hd => hcd ⟨hc, hd⟩
    exact ⟨x, hx, (h.1 hc).seq hy⟩
  · obtain ⟨x, hx, hy⟩ := h.2 hc
    exact ⟨x, hx, hy.keeps (Returns.pure _ none)⟩

lemma Decides.errHandling (h : Decides m c v) : Decides (errHandling none m) c v := by
  refine ⟨fun hc => (h.1 hc).errHandling none, fun hc => ?_⟩
  obtain ⟨x, hx, hy⟩ := h.2 hc
  exact ⟨x, hx, hy.errHandling none⟩

/-- What stands in front of a function and leaves the error variable alone. -/
lemma Decides.after {α : Type} {k : Proc XiErr σ α} {a : α} {f : α → Proc XiErr σ (Option β)}
    (hk : Yields k a none) (h : Decides (f a) c v) : Decides (k >>= f) c v := by
  refine ⟨fun hc => hk.seq (h.1 hc), fun hc => ?_⟩
  obtain ⟨x, hx, hy⟩ := h.2 hc
  exact ⟨x, hx, hk.seq hy⟩

/-- Whatever is decided comes back. -/
lemma Decides.returns (h : Decides m c v) (e : XiErr) (s : σ) :
    ∃ a e' s', m e s = .ret a e' s' := by
  by_cases hc : c
  · obtain ⟨s', hs, -⟩ := h.1 hc e s trivial
    exact ⟨_, _, s', hs⟩
  · obtain ⟨x, -, hy⟩ := h.2 hc
    obtain ⟨s', hs, -⟩ := hy e s trivial
    exact ⟨_, _, s', hs⟩

/-- Only the value decided on is returned, and only if the condition holds. -/
lemma Decides.some {w : β} {e e' : XiErr} {s s' : σ} (h : Decides m c v)
    (hret : m e s = .ret (some w) e' s') : c ∧ w = v := by
  by_cases hc : c
  · obtain ⟨t, ht, -⟩ := h.1 hc e s trivial
    rw [hret] at ht
    injection ht with hw
    exact ⟨hc, Option.some.inj hw⟩
  · obtain ⟨x, -, hy⟩ := h.2 hc
    obtain ⟨t, ht, -⟩ := hy e s trivial
    rw [hret] at ht
    injection ht with hw
    cases hw

lemma Decides.congr {e : Prop} (h : Decides m c v) (hce : c ↔ e) : Decides m e v := by
  rwa [← hce]

end LibXively.Append
