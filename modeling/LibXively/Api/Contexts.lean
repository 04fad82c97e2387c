import LibXively.Comm.Footprint
import LibXively.Model.XiContexts

/-!
What the creation and the deletion of a context do to the heap.

In a sound heap the cells are the contexts and their keys: each key belongs to one context, and
nothing is stored in a block that is not live. A context then stands for the settings it was created
with, and the two functions act on these settings alone.
-/

namespace LibXively.Contexts

open LibXively.Bytes LibXively.CProc LibXively.Structures LibXively.FreshNames LibXively.PosixComm
open LibXively.Footprint LibXively.XiContexts

/-- What a context is created with. -/
structure Settings where
  protocol : XiProtocol
  apiKey : Option CString
  feedId : UInt32

/-- The contexts that are there, each under its pointer. -/
abbrev Store : Type := ℕ → Option Settings

/-- What the contexts of a heap stand for. -/
def settings (h : Heap) : Store := fun b =>
  (h.contextAt b).map fun c => ⟨c.protocol, c.apiKey.bind h.charsAt, c.feedId⟩

structure Sound (h : Heap) : Prop where
  kernel : Kernel.Sound h.kernel
  live : ∀ {b c}, h.cells b = some c → b ∈ h.kernel.blocks
  key : ∀ {b c p}, h.cells b = some (.context c) → c.apiKey = some p →
    ∃ s, h.cells p = some (.chars s)
  owned : ∀ {p s}, h.cells p = some (.chars s) →
    ∃ b c, h.cells b = some (.context c) ∧ c.apiKey = some p
  alone : ∀ {b b' c c' p}, h.cells b = some (.context c) → h.cells b' = some (.context c') →
    c.apiKey = some p → c'.apiKey = some p → b = b'

/-- The live blocks in which nothing of the library is stored. -/
def bare (h : Heap) : List ℕ := h.kernel.blocks.filter fun b => (h.cells b).isNone

variable {h : Heap} {sys : System} {b p n : ℕ} {c : ContextCell} {s : CString}

/-- The heap before the first call. -/
def start : Heap := ⟨Kernel.start, fun _ => none⟩

lemma sound_start : Sound start :=
  ⟨Kernel.sound_start, by simp [start], by simp [start], by simp [start], by simp [start]⟩

lemma Sound.fresh (hs : Sound h) (hn : h.kernel.calls ≤ n) : h.cells n = none := by
  by_contra hsome
  obtain ⟨c, hc⟩ := Option.ne_none_iff_exists'.mp hsome
  exact absurd (hs.kernel.blocks.2 n (hs.live hc)) (by omega)

lemma Sound.cellAt (hs : Sound h) (b : ℕ) : h.cellAt b = h.cells b := by
  unfold Heap.cellAt
  by_cases hb : b ∈ h.kernel.blocks
  · rw [if_pos hb]
  · rw [if_neg hb]
    by_contra hsome
    obtain ⟨c, hc⟩ := Option.ne_none_iff_exists'.mp (Ne.symm hsome)
    exact hb (hs.live hc)

lemma Sound.contextAt_iff (hs : Sound h) :
    h.contextAt b = some c ↔ h.cells b = some (.context c) := by
  unfold Heap.contextAt
  rw [hs.cellAt]
  cases h.cells b with
  | none => simp
  | some d => cases d <;> simp

/-- What is stored under a pointer to a context. -/
def settingsIn (cells : ℕ → Option Cell) : Store := fun b =>
  match cells b with
  | some (.context c) => some ⟨c.protocol, c.apiKey.bind fun p =>
      match cells p with
      | some (.chars s) => some s
      | _ => none, c.feedId⟩
  | _ => none

lemma Sound.settings_eq (hs : Sound h) : settings h = settingsIn h.cells := by
  funext b
  unfold settings settingsIn Heap.contextAt Heap.charsAt
  simp only [hs.cellAt]
  cases h.cells b with
  | none => rfl
  | some d => cases d <;> rfl

/-- Settings are stored alike where the cells of a context and of its key are. -/
lemma settingsIn_congr {cells cells' : ℕ → Option Cell} (hb : cells' b = cells b)
    (hp : ∀ c p, cells b = some (.context c) → c.apiKey = some p → cells' p = cells p) :
    settingsIn cells' b = settingsIn cells b := by
  unfold settingsIn
  rw [hb]
  cases hcell : cells b with
  | none => rfl
  | some d =>
    cases d with
    | chars s => rfl
    | context c =>
      cases hkey : c.apiKey with
      | none => simp [hkey]
      | some p => simp [hkey, hp c p hcell hkey]

/-- A kernel that has only come further holds the same contexts. -/
lemma Sound.since (hs : Sound h) {k : Kernel} (hk : Since h.kernel k) :
    Sound { h with kernel := k } :=
  ⟨hk.sound hs.kernel, fun hb => hk.blocks.mem (hs.live hb), hs.key, hs.owned, hs.alone⟩

lemma settings_since (hs : Sound h) {k : Kernel} (hk : Since h.kernel k) :
    settings { h with kernel := k } = settings h := by
  rw [(hs.since hk).settings_eq, hs.settings_eq]

/-- What the library stores is not among what has been made since. -/
lemma bare_since_iff (hs : Sound h) {k : Kernel} (hk : Since h.kernel k) :
    bare { h with kernel := k } = bare h ↔ k.blocks = h.kernel.blocks :=
  hk.blocks.filter_eq_iff fun b hb => by rw [hs.fresh hb, Option.isNone_none]

/-! ### Creation -/

/-- The heap with a context created in it: its block is the next one, and its key, if it has one,
the one behind it. -/
def created (h : Heap) (t : Settings) : Heap :=
  let n := h.kernel.calls
  match t.apiKey with
  | none =>
    { kernel := { h.kernel with calls := n + 1, blocks := n :: h.kernel.blocks },
      cells := Function.update h.cells n (some (.context ⟨none, t.protocol, t.feedId⟩)) }
  | some s =>
    { kernel := { h.kernel with calls := n + 2, blocks := (n + 1) :: n :: h.kernel.blocks },
      cells := Function.update (Function.update h.cells (n + 1) (some (.chars s))) n
        (some (.context ⟨some (n + 1), t.protocol, t.feedId⟩)) }

/-- The cells of a context that is created in a sound heap. -/
lemma created_bare_cell (protocol : XiProtocol) (feedId : UInt32) (b : ℕ) :
    (created h ⟨protocol, none, feedId⟩).cells b =
      if b = h.kernel.calls then some (.context ⟨none, protocol, feedId⟩) else h.cells b := by
  simp only [created, Function.update_apply]

lemma created_keyed_cell (protocol : XiProtocol) (s : CString) (feedId : UInt32) (b : ℕ) :
    (created h ⟨protocol, some s, feedId⟩).cells b =
      if b = h.kernel.calls then some (.context ⟨some (h.kernel.calls + 1), protocol, feedId⟩)
      else if b = h.kernel.calls + 1 then some (.chars s) else h.cells b := by
  simp only [created, Function.update_apply]

lemma created_kernel (h : Heap) (t : Settings) : Since h.kernel (created h t).kernel := by
  have hrefl := Grown.refl h.kernel.calls h.kernel.calls h.kernel.blocks
  have hsockets := Grown.refl h.kernel.calls h.kernel.calls h.kernel.sockets
  obtain ⟨protocol, key, feedId⟩ := t
  cases key with
  | none =>
    exact ⟨Nat.le_succ _, hrefl.push le_rfl, hsockets.mono (Nat.le_succ _), [], rfl, by simp⟩
  | some s =>
    exact ⟨Nat.le_add_right _ 2, (hrefl.push le_rfl).push (Nat.le_succ _),
      hsockets.mono (Nat.le_add_right _ 2), [], rfl, by simp⟩

lemma Sound.created (hs : Sound h) (t : Settings) : Sound (created h t) := by
  have hkernel := (created_kernel h t).sound hs.kernel
  have h0 := hs.fresh (le_refl h.kernel.calls)
  have h1 := hs.fresh (Nat.le_succ h.kernel.calls)
  obtain ⟨protocol, key, feedId⟩ := t
  cases key with
  | none =>
    have hcell := @created_bare_cell h protocol feedId
    refine ⟨hkernel, fun {b c} hb => ?_, fun {b c p} hb hp => ?_, fun {p s} hp => ?_,
      fun {b b' c c' p} hb hb' hp hp' => ?_⟩
    · rw [hcell] at hb
      split_ifs at hb with h
      · exact h ▸ List.mem_cons_self
      · exact List.mem_cons_of_mem _ (hs.live hb)
    · have hkey := @hs.key
      grind
    · have howned := @hs.owned
      grind
    · have halone := @hs.alone
      grind
  | some s =>
    have hcell := @created_keyed_cell h protocol s feedId
    refine ⟨hkernel, fun {b c} hb => ?_, fun {b c p} hb hp => ?_, fun {p s} hp => ?_,
      fun {b b' c c' p} hb hb' hp hp' => ?_⟩
    · rw [hcell] at hb
      split_ifs at hb with h h
      · exact h ▸ List.mem_cons_of_mem _ List.mem_cons_self
      · exact h ▸ List.mem_cons_self
      · exact List.mem_cons_of_mem _ (List.mem_cons_of_mem _ (hs.live hb))
    · have hkey := @hs.key
      grind
    · have howned := @hs.owned
      grind
    · have halone := @hs.alone
      have hkey := @hs.key
      grind

/-- The new context is there, and the others are what they were. -/
lemma settings_created (hs : Sound h) (t : Settings) :
    settings (created h t) = Function.update (settings h) h.kernel.calls (some t) := by
  have h1 := hs.fresh (Nat.le_succ h.kernel.calls)
  have h0 := hs.fresh (le_refl h.kernel.calls)
  have hkey (b c p) (hb : h.cells b = some (.context c)) (hp : c.apiKey = some p) :
      p ≠ h.kernel.calls ∧ p ≠ h.kernel.calls + 1 := by
    obtain ⟨s, hs'⟩ := hs.key hb hp
    exact ⟨fun he => by simp [he, h0] at hs', fun he => by simp [he, h1] at hs'⟩
  rw [(hs.created t).settings_eq, hs.settings_eq]
  funext b
  rw [Function.update_apply]
  obtain ⟨protocol, key, feedId⟩ := t
  split_ifs with hb
  · subst hb
    cases key <;> simp [settingsIn, created_bare_cell, created_keyed_cell]
  · cases key with
    | none =>
      refine settingsIn_congr (by rw [created_bare_cell, if_neg hb]) fun c p hcell hp => ?_
      rw [created_bare_cell, if_neg (hkey b c p hcell hp).1]
    | some s =>
      by_cases hb' : b = h.kernel.calls + 1
      · subst hb'
        simp [settingsIn, created_keyed_cell, h1]
      · refine settingsIn_congr (by rw [created_keyed_cell, if_neg hb, if_neg hb'])
          fun c p hcell hp => ?_
        rw [created_keyed_cell, if_neg (hkey b c p hcell hp).1, if_neg (hkey b c p hcell hp).2]

lemma bare_created (hs : Sound h) (t : Settings) : bare (created h t) = bare h := by
  have hold (b : ℕ) (hb : b ∈ h.kernel.blocks) :
      b ≠ h.kernel.calls ∧ b ≠ h.kernel.calls + 1 := by
    have hlt := hs.kernel.blocks.2 b hb
    omega
  obtain ⟨protocol, key, feedId⟩ := t
  unfold bare
  cases key with
  | none =>
    have hblocks : (created h ⟨protocol, none, feedId⟩).kernel.blocks =
        h.kernel.calls :: h.kernel.blocks := rfl
    rw [hblocks, List.filter_cons_of_neg (by simp [created_bare_cell])]
    exact List.filter_congr fun b hb => by rw [created_bare_cell, if_neg (hold b hb).1]
  | some s =>
    have hblocks : (created h ⟨protocol, some s, feedId⟩).kernel.blocks =
        (h.kernel.calls + 1) :: h.kernel.calls :: h.kernel.blocks := rfl
    rw [hblocks, List.filter_cons_of_neg (by simp [created_keyed_cell]),
      List.filter_cons_of_neg (by simp [created_keyed_cell])]
    exact List.filter_congr fun b hb => by
      rw [created_keyed_cell, if_neg (hold b hb).1, if_neg (hold b hb).2]

/-- A context is created, or there is no memory for it and nothing is left behind. -/
lemma xiCreateContext_cases (hs : Sound h) (t : Settings) :
    (∀ e, xiCreateContext sys t.protocol t.apiKey t.feedId e h =
      .ret (some h.kernel.calls) e (created h t)) ∨
    ∃ c, h.kernel.calls ≤ c ∧ ∀ e, xiCreateContext sys t.protocol t.apiKey t.feedId e h =
      .ret none .outOfMemory { h with kernel := { h.kernel with calls := c } } := by
  have h0 := hs.fresh (le_refl h.kernel.calls)
  have hcells (d : Cell) : Function.update (Function.update h.cells h.kernel.calls (some d))
      h.kernel.calls none = h.cells := by
    rw [Function.update_idem, ← h0, Function.update_eq_self]
  obtain ⟨protocol, key, feedId⟩ := t
  unfold xiCreateContext withLocals errCleanup createBody
  cases ha : sys.alloc h.kernel.calls with
  | false =>
    refine .inr ⟨h.kernel.calls + 1, Nat.le_succ _, fun e => ?_⟩
    simp [createCleanup, onKernel, xiAlloc, outer, focus, assign, ha]
  | true =>
    cases key with
    | none =>
      refine .inl fun e => ?_
      simp [write, onKernel, xiAlloc, outer, focus, assign, ha, created]
    | some s =>
      cases hb : sys.alloc (h.kernel.calls + 1) with
      | false =>
        refine .inr ⟨h.kernel.calls + 2, Nat.le_add_right _ _, fun e => ?_⟩
        simp [createCleanup, xiStrDup, write, xiFree, onKernel, xiAlloc, outer, focus, assign, ha,
          hb, hcells]
      | true =>
        refine .inl fun e => ?_
        simp [xiStrDup, write, onKernel, xiAlloc, outer, focus, assign, ha, hb, created]

/-! ### Deletion -/

/-- The heap with something else stored in a block. -/
def stored (h : Heap) (b : ℕ) (d : Cell) : Heap :=
  { h with cells := Function.update h.cells b (some d) }

/-- The heap without a block. -/
def dropped (h : Heap) (b : ℕ) : Heap where
  kernel := { h.kernel with blocks := h.kernel.blocks.erase b }
  cells := Function.update h.cells b none

/-- The heap without a context and its key. -/
def removed (h : Heap) (b : ℕ) (key : Option ℕ) : Heap :=
  match key with
  | none => dropped h b
  | some p => dropped (dropped h p) b

lemma xiFree_live (hb : b ∈ h.kernel.blocks) (e : XiErr) :
    xiFree b e h = .ret () e (dropped h b) := if_pos hb

lemma xiDeleteContext_run (hs : Sound h) (hb : h.cells b = some (.context c)) (e : XiErr) :
    xiDeleteContext (some b) e h = .ret () e (removed h b c.apiKey) := by
  have hlive := hs.live hb
  have hread := readContext_some (hs.contextAt_iff.mpr hb) e
  show (readContext b >>= fun c => freeKey b c >>= fun _ => xiFree b) e h = _
  rw [bind_ret hread]
  unfold freeKey
  cases hkey : c.apiKey with
  | none => exact xiFree_live hlive e
  | some p =>
    obtain ⟨s, hp⟩ := hs.key hb hkey
    have hne : b ≠ p := by
      rintro rfl
      rw [hb] at hp
      cases hp
    have hb' : b ∈ (dropped h p).kernel.blocks := (List.mem_erase_of_ne hne).mpr hlive
    -- the null pointer is stored in a block that is freed next
    have hfreed : (xiFree p >>= fun _ => write b (.context { c with apiKey := none })) e h =
        .ret () e (stored (dropped h p) b (.context { c with apiKey := none })) :=
      (bind_ret (xiFree_live (hs.live hp) e)).trans (if_pos hb')
    have hlast := @xiFree_live (stored (dropped h p) b (.context { c with apiKey := none })) b hb' e
    refine (bind_ret hfreed).trans (hlast.trans ?_)
    simp only [removed, dropped, stored, Function.update_idem]

/-- The cells without a context and its key. -/
lemma removed_cell (b : ℕ) (key : Option ℕ) (x : ℕ) :
    (removed h b key).cells x = if x = b ∨ key = some x then none else h.cells x := by
  cases key with
  | none => simp [removed, dropped, Function.update_apply]
  | some p =>
    simp only [removed, dropped, Function.update_apply, Option.some.injEq]
    split_ifs <;> simp_all

lemma removed_blocks (hs : Sound h) (b : ℕ) (key : Option ℕ) :
    (removed h b key).kernel.blocks =
      h.kernel.blocks.filter fun x => ¬ (x = b ∨ key = some x) := by
  have hnodup := hs.kernel.blocks.1
  cases key with
  | none =>
    show h.kernel.blocks.erase b = _
    rw [hnodup.erase_eq_filter]
    exact List.filter_congr fun x _ => by grind
  | some p =>
    show (h.kernel.blocks.erase p).erase b = _
    rw [(hnodup.erase p).erase_eq_filter, hnodup.erase_eq_filter, List.filter_filter]
    exact List.filter_congr fun x _ => by grind

/-- Nothing but the blocks of the kernel changes. -/
lemma removed_kernel (h : Heap) (b : ℕ) (key : Option ℕ) :
    (removed h b key).kernel.calls = h.kernel.calls ∧
      (removed h b key).kernel.sockets = h.kernel.sockets ∧
      (removed h b key).kernel.transfers = h.kernel.transfers := by
  cases key <;> exact ⟨rfl, rfl, rfl⟩

lemma Sound.removed (hs : Sound h) (hb : h.cells b = some (.context c)) :
    Sound (removed h b c.apiKey) := by
  have hcell := removed_cell (h := h) b c.apiKey
  have hblocks := removed_blocks hs b c.apiKey
  obtain ⟨hcalls, hsockets, -⟩ := removed_kernel h b c.apiKey
  have hkey := @hs.key
  have howned := @hs.owned
  have halone := @hs.alone
  refine ⟨⟨?_, ?_⟩, fun {x d} hx => ?_, fun {x d p} hx hp => ?_, fun {p s} hp => ?_,
    fun {x x' d d' p} hx hx' hp hp' => ?_⟩
  · rw [hblocks, hcalls]
    exact ⟨hs.kernel.blocks.1.filter _,
      fun x hx => hs.kernel.blocks.2 x (List.mem_of_mem_filter hx)⟩
  · rw [hsockets, hcalls]
    exact hs.kernel.sockets
  · have hlive := @hs.live
    rw [hblocks, List.mem_filter]
    grind
  · grind
  · grind
  · grind

/-- The context is gone, and the others are what they were. -/
lemma settings_removed (hs : Sound h) (hb : h.cells b = some (.context c)) :
    settings (removed h b c.apiKey) = Function.update (settings h) b none := by
  have hcell := removed_cell (h := h) b c.apiKey
  have hkey := @hs.key
  have halone := @hs.alone
  rw [(hs.removed hb).settings_eq, hs.settings_eq]
  funext x
  rw [Function.update_apply]
  split_ifs with hx
  · subst hx
    simp [settingsIn, hcell]
  · by_cases hp : c.apiKey = some x
    · obtain ⟨s, hs'⟩ := hs.key hb hp
      have hnone : (removed h b c.apiKey).cells x = none := by rw [hcell, if_pos (.inr hp)]
      simp only [settingsIn, hnone, hs']
    · refine settingsIn_congr (by rw [hcell, if_neg (by simp [hx, hp])]) fun d p hd hp' => ?_
      rw [hcell, if_neg]
      grind

lemma bare_removed (hs : Sound h) (hb : h.cells b = some (.context c)) :
    bare (removed h b c.apiKey) = bare h := by
  have hcell := removed_cell (h := h) b c.apiKey
  have hkey := @hs.key
  unfold bare
  rw [removed_blocks hs, List.filter_filter]
  refine List.filter_congr fun x _ => ?_
  rw [hcell]
  grind

end LibXively.Contexts
