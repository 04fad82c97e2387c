import LibXively.Api.Contexts
import LibXively.Api.Stacks

/-!
Programs that create contexts, delete them, and make calls of the API through them, in any order
and over any communication layer.

The contexts of such a program are a store: a creation puts settings under a pointer that was free,
a deletion takes them away, and a call works with the settings its context was created with. What
the program holds besides is what its communication layer holds.
-/

namespace LibXively.Programs

open LibXively.Bytes LibXively.CProc LibXively.Structures LibXively.Runs LibXively.FreshNames
open LibXively.HttpQueries LibXively.Xively LibXively.PosixComm LibXively.PosixCalls
open LibXively.Footprint LibXively.XiContexts LibXively.Contexts LibXively.Calls
open LibXively.FeedRequests LibXively.Traffic LibXively.Layers LibXively.Stacks

variable {tg : Target} {st : Stack} {α : Type}

/-- A process that uses the library, with the cells of its heap. -/
structure Program (tg : Target) (st : Stack) where
  process : Process tg st.comm
  cells : ℕ → Option Cell

def Program.heap (p : Program tg st) : Heap := ⟨st.kernel p.process.world, p.cells⟩

def onHeap (m : Proc XiErr Heap α) : Proc XiErr (Program tg st) α :=
  focus Program.heap (fun h p =>
    ⟨{ p.process with world := st.setKernel h.kernel p.process.world }, h.cells⟩) m

def onProcess (m : Proc XiErr (Process tg st.comm) α) : Proc XiErr (Program tg st) α :=
  focus (fun p => p.process) (fun q p => { p with process := q }) m

/-- What a program does with the library. A call is made with the context behind a pointer. -/
inductive Op
  | create (t : Settings)
  | delete (context : Option ℕ)
  | call (context : ℕ) (c : XiContext → ApiCall)

/-- What comes back: a pointer, nothing, or whether there is a response. -/
inductive Answer
  | context (b : Option ℕ)
  | deleted
  | response (v : Bool)

/-- An operation. The key of a context that has none is a null pointer, which the call would print
as a string. -/
def Op.run : Op → Proc XiErr (Program tg st) Answer
  | .create t => Answer.context <$>
      onHeap (xiCreateContext st.sys t.protocol t.apiKey t.feedId)
  | .delete context => (fun _ => Answer.deleted) <$> onHeap (xiDeleteContext context)
  | .call context c => do
    let xi ← onHeap (readContext context)
    let apiKey ← orCrash xi.apiKey .nullPointer
    let apiKey ← onHeap (readChars apiKey)
    Answer.response <$> onProcess (c ⟨apiKey⟩).run

/-- The step of a program that comes back from an operation, made with an error pending, and is
still inside the language. -/
def Steps (p : Program tg st) (i : XiErr × Op × Answer) (p' : Program tg st) : Prop :=
  (∃ e', i.2.1.run i.1 p = .ret i.2.2 e' p') ∧ st.wild p'.process.world = false

/-! ### One operation -/

section Steps

variable {p p' : Program tg st} {e e' : XiErr} {a : Answer} {m : Proc XiErr Heap α}

lemma heap_write (p : Program tg st) (h : Heap) : Program.heap
    (⟨{ p.process with world := st.setKernel h.kernel p.process.world }, h.cells⟩ :
      Program tg st) = h := by
  unfold Program.heap
  rw [st.kernel_setKernel]

/-- An operation on the heap changes nothing else. -/
lemma onHeap_ret {v : α} {h : Heap} (hrun : m e p.heap = .ret v e' h) :
    ∃ p', onHeap m e p = .ret v e' p' ∧ p'.heap = h ∧
      p'.process.statics = p.process.statics ∧
      st.wild p'.process.world = st.wild p.process.world :=
  ⟨_, focus_ret hrun, heap_write p h, rfl, st.wild_setKernel _ _⟩

/-- An operation that only looks at the heap. -/
lemma onHeap_read {v : α} (hm : m e p.heap = .ret v e' p.heap) : onHeap m e p = .ret v e' p := by
  refine (focus_ret hm).trans ?_
  simp only [Program.heap, st.setKernel_kernel]

/-- What a creation does: it creates, or it finds no memory. -/
lemma create_cases {t : Settings} (hs : Sound p.heap)
    (h : (Op.create t).run e p = .ret a e' p') :
    st.wild p'.process.world = st.wild p.process.world ∧
    ((a = .context (some p.heap.kernel.calls) ∧ p'.heap = created p.heap t) ∨
      ∃ k, p.heap.kernel.calls ≤ k ∧ a = .context none ∧
        p'.heap = { p.heap with kernel := { p.heap.kernel with calls := k } }) := by
  obtain ⟨v, hrun, rfl⟩ := map_ret h
  rcases @xiCreateContext_cases p.heap st.sys hs t with hnew | ⟨k, hk, hnone⟩
  · obtain ⟨q, hq, hheap, -, hwild⟩ := onHeap_ret (hnew e)
    rw [hq] at hrun
    cases hrun
    exact ⟨hwild, .inl ⟨rfl, hheap⟩⟩
  · obtain ⟨q, hq, hheap, -, hwild⟩ := onHeap_ret (hnone e)
    rw [hq] at hrun
    cases hrun
    exact ⟨hwild, .inr ⟨k, hk, rfl, hheap⟩⟩

/-- What a deletion does: the context is there, unless the pointer is null. -/
lemma delete_cases {b : Option ℕ} (hs : Sound p.heap)
    (h : (Op.delete b).run e p = .ret a e' p') : a = .deleted ∧
      st.wild p'.process.world = st.wild p.process.world ∧
      ((b = none ∧ p'.heap = p.heap) ∨ ∃ x c, b = some x ∧
        p.heap.cells x = some (.context c) ∧ p'.heap = removed p.heap x c.apiKey) := by
  obtain ⟨v, hrun, rfl⟩ := map_ret h
  cases b with
  | none =>
    obtain ⟨q, hq, hheap, -, hwild⟩ :=
      @onHeap_ret tg st _ p e e (xiDeleteContext none) () p.heap rfl
    rw [hq] at hrun
    cases hrun
    exact ⟨rfl, hwild, .inl ⟨rfl, hheap⟩⟩
  | some x =>
    cases hx : p.heap.contextAt x with
    | none =>
      have hfault : xiDeleteContext (some x) e p.heap = .fault .overrun :=
        bind_fault (readContext_none hx e)
      rw [onHeap, focus_fault hfault] at hrun
      cases hrun
    | some c =>
      have hcell := hs.contextAt_iff.mp hx
      obtain ⟨q, hq, hheap, -, hwild⟩ := onHeap_ret (xiDeleteContext_run hs hcell e)
      rw [hq] at hrun
      cases hrun
      exact ⟨rfl, hwild, .inr ⟨x, c, rfl, hcell, hheap⟩⟩

/-- A call through a context with a key is the call with that key. -/
lemma call_run {b : ℕ} {c : XiContext → ApiCall} {t : Settings} {k : CString}
    (hb : settings p.heap b = some t) (hkey : t.apiKey = some k) (e : XiErr) :
    (Op.call b c).run e p = (Answer.response <$> onProcess (c ⟨k⟩).run) e p := by
  obtain ⟨xi, hxi, rfl⟩ := Option.map_eq_some_iff.mp hb
  obtain ⟨x, hx, hchars⟩ := Option.bind_eq_some_iff.mp hkey
  have hread : onHeap (readContext b) e p = .ret xi e p :=
    onHeap_read (readContext_some hxi e)
  have hreadKey : onHeap (readChars x) e p = .ret k e p :=
    onHeap_read (readChars_some hchars e)
  show (onHeap (readContext b) >>= fun xi => orCrash xi.apiKey .nullPointer >>= fun apiKey =>
    onHeap (readChars apiKey) >>= fun apiKey => Answer.response <$> onProcess (c ⟨apiKey⟩).run)
    e p = _
  rw [bind_ret hread, hx, bind_ret (orCrash_some _ _ _ _), bind_ret hreadKey]

/-- What a call does: its context is there, with a key. -/
lemma call_cases {b : ℕ} {c : XiContext → ApiCall} (h : (Op.call b c).run e p = .ret a e' p') :
    ∃ t k v, settings p.heap b = some t ∧ t.apiKey = some k ∧ a = .response v ∧
      p'.cells = p.cells ∧ (c ⟨k⟩).run e p.process = .ret v e' p'.process := by
  have hno {x : Fault} (hx : (Op.call b c).run e p = .fault x) : False := by
    rw [hx] at h
    cases h
  cases hxi : p.heap.contextAt b with
  | none => exact (hno (bind_fault (focus_fault (readContext_none hxi e)))).elim
  | some xi =>
    have hread : onHeap (readContext b) e p = .ret xi e p :=
      onHeap_read (readContext_some hxi e)
    cases hx : xi.apiKey with
    | none => exact (hno ((bind_ret hread).trans (bind_fault (by rw [hx, orCrash_none])))).elim
    | some x =>
      have hkey : orCrash xi.apiKey .nullPointer e p = .ret x e p := by rw [hx, orCrash_some]
      cases hchars : p.heap.charsAt x with
      | none =>
        exact (hno ((bind_ret hread).trans ((bind_ret hkey).trans
          (bind_fault (focus_fault (readChars_none hchars e)))))).elim
      | some k =>
        have hsettings : settings p.heap b = some ⟨xi.protocol, some k, xi.feedId⟩ := by
          simp [settings, hxi, hx, hchars]
        rw [call_run hsettings rfl] at h
        obtain ⟨v, hrun, rfl⟩ := map_ret h
        unfold onProcess focus at hrun
        cases hcall : (c ⟨k⟩).run e p.process with
        | ret w e₁ q =>
          rw [hcall] at hrun
          cases hrun
          exact ⟨_, k, v, hsettings, rfl, rfl, rfl, hcall⟩
        | goto e₁ q => rw [hcall] at hrun; cases hrun
        | fault y => rw [hcall] at hrun; cases hrun

end Steps

/-! ### The store of contexts -/

/-- What the operations are to a user of the contexts. -/
inductive StoreStep (s : Store) : Op × Answer → Store → Prop
  | created {t b} (hfree : s b = none) :
      StoreStep s (.create t, .context (some b)) (Function.update s b (some t))
  | refused {t} : StoreStep s (.create t, .context none) s
  | deleted {b t} (hb : s b = some t) :
      StoreStep s (.delete (some b), .deleted) (Function.update s b none)
  | spared : StoreStep s (.delete none, .deleted) s
  | called {b t k c v} (hb : s b = some t) (hkey : t.apiKey = some k) :
      StoreStep s (.call b c, .response v) s

variable {p p' : Program tg st} {i : XiErr × Op × Answer} {op : Op} {a : Answer} {e e' : XiErr}

lemma since_calls {k : Kernel} {n : ℕ} (hn : k.calls ≤ n) : Since k { k with calls := n } :=
  ⟨hn, FreshNames.Grown.refl .., FreshNames.Grown.refl .., [], rfl, by simp⟩

/-- The kernel behind a call. -/
lemma call_since {c : ApiCall} {v : Bool} (hs : Sound p.heap)
    (hcells : p'.cells = p.cells) (h : c.run e p.process = .ret v e' p'.process) :
    ∃ k, p'.heap = { p.heap with kernel := k } ∧ Since p.heap.kernel k :=
  ⟨_, by rw [Program.heap, hcells]; rfl, run_since hs.kernel h⟩

/-- Whatever the operation, the heap stays sound, and the store makes its step. -/
lemma op_refines (hs : Sound p.heap) (h : op.run e p = .ret a e' p') :
    Sound p'.heap ∧ StoreStep (settings p.heap) (op, a) (settings p'.heap) := by
  cases op with
  | create t =>
    obtain ⟨-, ⟨rfl, hheap⟩ | ⟨k, hk, rfl, hheap⟩⟩ := create_cases hs h
    · rw [hheap, settings_created hs]
      have hfree : settings p.heap p.heap.kernel.calls = none := by
        rw [hs.settings_eq, settingsIn, hs.fresh le_rfl]
      exact ⟨hs.created t, .created hfree⟩
    · rw [hheap, settings_since hs (since_calls hk)]
      exact ⟨hs.since (since_calls hk), .refused⟩
  | delete b =>
    obtain ⟨rfl, -, ⟨rfl, hheap⟩ | ⟨x, c, rfl, hcell, hheap⟩⟩ := delete_cases hs h
    · rw [hheap]
      exact ⟨hs, .spared⟩
    · rw [hheap, settings_removed hs hcell]
      have hthere : ∃ t, settings p.heap x = some t := by
        rw [hs.settings_eq, settingsIn, hcell]
        exact ⟨_, rfl⟩
      obtain ⟨t, ht⟩ := hthere
      exact ⟨hs.removed hcell, .deleted ht⟩
  | call b c =>
    obtain ⟨t, k, v, hb, hkey, rfl, hcells, hrun⟩ := call_cases h
    obtain ⟨k', hheap, hsince⟩ := call_since hs hcells hrun
    rw [hheap, settings_since hs hsince]
    exact ⟨hs.since hsince, .called hb hkey⟩

/-- A pointer that is in the store can be deleted. -/
lemma delete_stored (hs : Sound p.heap) {b : ℕ} {t : Settings} (hb : settings p.heap b = some t)
    (e : XiErr) : ∃ p', (Op.delete (some b)).run e p = .ret .deleted e p' ∧
      st.wild p'.process.world = st.wild p.process.world := by
  obtain ⟨c, hc, -⟩ := Option.map_eq_some_iff.mp hb
  obtain ⟨q, hq, -, -, hwild⟩ := onHeap_ret (xiDeleteContext_run hs (hs.contextAt_iff.mp hc) e)
  exact ⟨q, ret_map hq _, hwild⟩

/-- **Contexts are a store**: in every run of creations, deletions and calls, over every layer and
as long as no pointer is deleted that nobody had written, the contexts follow the store step by
step; and each pointer that is in the store behind the run can be deleted, and makes calls with the
key its context was created with. -/
theorem contexts_refine {is : List (XiErr × Op × Answer)} (hs : Sound p.heap)
    (hrun : Run Steps p is p') :
    Run StoreStep (settings p.heap) (is.map Prod.snd) (settings p'.heap) ∧
      ∀ b t, settings p'.heap b = some t →
        (∀ e, ∃ p'', (Op.delete (some b)).run e p' = .ret .deleted e p'') ∧
        ∀ k, t.apiKey = some k → ∀ c e,
          (Op.call b c).run e p' = (Answer.response <$> onProcess (c ⟨k⟩).run) e p' := by
  obtain ⟨s', hstore, hs', rfl⟩ := hrun.simulated
    (R := fun p s => Sound p.heap ∧ settings p.heap = s)
    (fun {p i p' s} hR h => by
      obtain ⟨hs, rfl⟩ := hR
      obtain ⟨⟨e', h⟩, -⟩ := h
      obtain ⟨hs', hstep⟩ := op_refines hs h
      exact ⟨_, hstep, hs', rfl⟩) ⟨hs, rfl⟩
  refine ⟨hstore, fun b t hb => ⟨fun e => ?_, fun k hkey c e => call_run hb hkey e⟩⟩
  obtain ⟨q, hq, -⟩ := delete_stored hs' hb e
  exact ⟨q, hq⟩

/-- A program over the POSIX layer that has not begun. -/
def idle : Program posixConfig (posixStack peers) :=
  ⟨⟨.fresh posixConfig, Kernel.start⟩, fun _ => none⟩

/-- What a context is created with. -/
def smallSettings : Settings := ⟨.http, some smallKey, 1⟩

/-- A context is created, and a datastream is deleted through it. -/
def createThenCall : List (XiErr × Op × Answer) :=
  [(.noErr, .create smallSettings, .context (some 0)),
    (.noErr, .call 0 fun xi => .datastreamDelete xi 1 smallId, .response true)]

/-- The program creates a context, and makes a deletion through it. -/
lemma idle_createThenCall : ∃ p₁ x p₂, (Op.create smallSettings).run .noErr idle =
      .ret (.context (some 0)) .noErr p₁ ∧ settings p₁.heap 0 = some smallSettings ∧
    (Op.call 0 fun xi => .datastreamDelete xi 1 smallId).run .noErr p₁ =
      .ret (.response true) x p₂ := by
  have hs : Sound idle.heap := sound_start
  have hcreate : xiCreateContext peers .http (some smallKey) 1 .noErr idle.heap =
      .ret (some 0) .noErr (created idle.heap smallSettings) := rfl
  obtain ⟨p₁, h₁, hheap, -⟩ := onHeap_ret hcreate
  have hstored : settings p₁.heap 0 = some smallSettings := by
    rw [hheap, settings_created hs]
    exact Function.update_self ..
  obtain ⟨x, q, hperforms⟩ := deleteCall_performs p₁.process
  have hrun := performs_run hperforms
  refine ⟨p₁, x, { p₁ with process := q }, ret_map h₁ _, hstored, ?_⟩
  exact (call_run hstored rfl _).trans (ret_map (focus_ret hrun) _)

theorem contexts_refine_idle : ∃ p', Run Steps idle createThenCall p' ∧
    Run StoreStep (settings idle.heap) (createThenCall.map Prod.snd) (settings p'.heap) ∧
      ∀ b t, settings p'.heap b = some t →
        (∀ e, ∃ p'', (Op.delete (some b)).run e p' = .ret .deleted e p'') ∧
        ∀ k, t.apiKey = some k → ∀ c e,
          (Op.call b c).run e p' = (Answer.response <$> onProcess (c ⟨k⟩).run) e p' := by
  obtain ⟨p₁, x, p₂, hcreate, -, hcall⟩ := idle_createThenCall
  have hall : Run Steps idle createThenCall p₂ :=
    .cons ⟨⟨_, hcreate⟩, rfl⟩ (.cons ⟨⟨x, hcall⟩, rfl⟩ (.nil _))
  exact ⟨p₂, hall, contexts_refine sound_start hall⟩

/-! ### What a program holds -/

/-- What is live besides the contexts, what is open, and whether the program has left the
language. -/
def ledger (p : Program tg st) : (List ℕ × List ℕ) × Bool :=
  ((bare p.heap, p.heap.kernel.sockets), st.wild p.process.world)

/-- One operation, made with an error pending that earlier ones may have left. -/
def opStep (tg : Target) (st : Stack) (p : Program tg st) (i : XiErr × Op) :
    Option (Program tg st) :=
  match i.2.run i.1 p with
  | .ret _ _ p' => some p'
  | _ => none

/-- If the operation is a call that makes a request, its exchange gives back what it acquires. -/
def TidyOp (p : Program tg st) (i : XiErr × Op) : Prop :=
  ∀ b c t k, i.2 = .call b c → settings p.heap b = some t → t.apiKey = some k →
    ∀ data, Makes tg (c ⟨k⟩) i.1 p.process.statics data → st.Tidy p.heap.kernel.calls data

lemma opStep_ret {i : XiErr × Op} (h : opStep tg st p i = some p') :
    ∃ a e', i.2.run i.1 p = .ret a e' p' := by
  unfold opStep at h
  split at h
  · next a e' p₁ hrun => exact ⟨a, e', by rw [hrun, Option.some.inj h]⟩
  · cases h

lemma opStep_ledger (hs : Sound p.heap) {i : XiErr × Op} (h : opStep tg st p i = some p') :
    ledger p' = ledger p ↔ TidyOp p i := by
  obtain ⟨e, op⟩ := i
  obtain ⟨a, e', h⟩ := opStep_ret h
  cases op with
  | create t =>
    refine iff_of_true ?_ (by rintro b c t k ⟨⟩)
    obtain ⟨hwild, ⟨-, hheap⟩ | ⟨k, hk, -, hheap⟩⟩ := create_cases hs h
    · have hsockets : (created p.heap t).kernel.sockets = p.heap.kernel.sockets := by
        obtain ⟨protocol, key, feedId⟩ := t
        cases key <;> rfl
      simp only [ledger, hheap, hwild, bare_created hs, hsockets]
    · have hbare : bare { p.heap with kernel := { p.heap.kernel with calls := k } } =
          bare p.heap := rfl
      simp only [ledger, hheap, hwild, hbare]
  | delete b =>
    refine iff_of_true ?_ (by rintro b c t k ⟨⟩)
    obtain ⟨-, hwild, ⟨-, hheap⟩ | ⟨x, c, -, hcell, hheap⟩⟩ := delete_cases hs h
    · simp only [ledger, hheap, hwild]
    · obtain ⟨-, hsockets, -⟩ := removed_kernel p.heap x c.apiKey
      simp only [ledger, hheap, hwild, bare_removed hs hcell, hsockets]
  | call b c =>
    obtain ⟨t, k, v, hb, hkey, rfl, hcells, hrun⟩ := call_cases h
    obtain ⟨k', hheap, hsince⟩ := call_since hs hcells hrun
    have hledger : ledger p' = ledger p ↔
        (held (st.kernel p'.process.world), st.wild p'.process.world) =
          (held (st.kernel p.process.world), st.wild p.process.world) := by
      have hkernel : st.kernel p'.process.world = k' := congrArg Heap.kernel hheap
      simp only [ledger, hheap, held, Prod.mk.injEq, bare_since_iff hs hsince, hkernel]
      exact Iff.rfl
    have htidy : TidyOp p (e, .call b c) ↔ ∀ data, Makes tg (c ⟨k⟩) e p.process.statics data →
        st.Tidy p.heap.kernel.calls data := by
      constructor
      · exact fun h data hmakes => h b c t k rfl hb hkey data hmakes
      · rintro h b' c' t' k₁ ⟨⟩ hb' hkey' data hmakes
        obtain rfl := Option.some.inj (hb.symm.trans hb')
        obtain rfl := Option.some.inj (hkey.symm.trans hkey')
        exact h data hmakes
    rw [hledger, htidy]
    exact run_ledger hrun

/-- **What a program holds**: behind every operation of a run the program holds, besides its
contexts and their keys, what it held at the start, exactly if every call of the run gives back
what its exchange acquires. Creations and deletions leave nothing behind, in whichever order they
come and whatever memory runs out. -/
theorem programs_ledger (is : List (XiErr × Op)) (p : Program tg st) (hs : Sound p.heap) :
    (∀ p' ∈ reached (opStep tg st) is p, ledger p' = ledger p) ↔
      EachStep (opStep tg st) TidyOp is p := by
  refine unchanged_iff_of_invariant (I := fun p => Sound p.heap) (fun p i p' hs h => ?_)
    (fun p i p' hs h => opStep_ledger hs h) is p hs
  obtain ⟨a, e', hrun⟩ := opStep_ret h
  exact (op_refines hs hrun).1

lemma opStep_some (h : op.run e p = .ret a e' p') : opStep tg st p (e, op) = some p' := by
  simp only [opStep, h]

/-- Over a system whose calls succeed, every operation is tidy. -/
lemma tidyOp_peers (p : Program posixConfig (posixStack peers)) (i : XiErr × Op) : TidyOp p i :=
  fun _ _ _ _ _ _ _ _ _ hblocks => ⟨hblocks, rfl, ⟨rfl, rfl⟩, rfl, rfl⟩

/-- A context is created, a datastream is deleted through it, and the context is deleted. -/
def createCallDelete : List (XiErr × Op) :=
  [(.noErr, .create smallSettings),
    (.noErr, .call 0 fun xi => .datastreamDelete xi 1 smallId), (.noErr, .delete (some 0))]

theorem programs_ledger_idle : ∃ p₁ p₂ p₃,
    reached (opStep posixConfig (posixStack peers)) createCallDelete idle = [p₁, p₂, p₃] ∧
      ∀ p' ∈ [p₁, p₂, p₃], ledger p' = ledger idle := by
  obtain ⟨p₁, x, p₂, hcreate, hstored, hcall⟩ := idle_createThenCall
  obtain ⟨hs₁, -⟩ := op_refines (p := idle) sound_start hcreate
  obtain ⟨hs₂, hstep⟩ := op_refines hs₁ hcall
  have hstored₂ : settings p₂.heap 0 = some smallSettings := by
    generalize settings p₂.heap = s at hstep ⊢
    cases hstep
    exact hstored
  obtain ⟨p₃, hdelete, -⟩ := delete_stored hs₂ hstored₂ .noErr
  have hreached : reached (opStep posixConfig (posixStack peers)) createCallDelete idle =
      [p₁, p₂, p₃] := by
    simp only [createCallDelete, reached, opStep_some hcreate, opStep_some hcall,
      opStep_some hdelete]
  refine ⟨p₁, p₂, p₃, hreached, ?_⟩
  rw [← hreached]
  refine (programs_ledger _ idle sound_start).mpr ?_
  exact fun p _ => ⟨tidyOp_peers _ _, fun p' _ => ⟨tidyOp_peers _ _, fun p'' _ =>
    ⟨tidyOp_peers _ _, trivial⟩⟩⟩

end LibXively.Programs
