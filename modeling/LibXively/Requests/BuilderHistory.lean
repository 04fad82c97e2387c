import LibXively.Requests.FeedRequests

/-!
Histories of the request builders.

All builders share the buffer of the path. A call with the id of a feed writes it from the front,
so nothing of an earlier call is left in the string it holds. A call without one does not write it
at all: it asks for the path of the call before it.
-/

namespace LibXively.BuilderHistory

open LibXively.Bytes LibXively.Decimal LibXively.CProc LibXively.CharArray LibXively.Structures
open LibXively.CsvData LibXively.HttpQueries LibXively.HttpTransport LibXively.Append
open LibXively.Builders LibXively.FeedRequests

/-- A call of one of the three builders. -/
inductive BuilderCall
  | requestFeed (httpMethod : CString) (feedId : Option UInt32) (apiKey : CString)
      (querySuffix : Option CString)
  | requestDatastream (httpMethod : CString) (feedId : UInt32) (datastream : Option CString)
      (apiKey : CString)
  | requestDatapoint (httpMethod : CString) (feedId : UInt32) (datastream : CString)
      (datapoint : Option CString) (apiKey : CString)

namespace BuilderCall

def feedId : BuilderCall → Option UInt32
  | requestFeed _ id _ _ => id
  | requestDatastream _ id _ _ => some id
  | requestDatapoint _ id _ _ _ => some id

def method : BuilderCall → CString
  | requestFeed m _ _ _ => m
  | requestDatastream m _ _ _ => m
  | requestDatapoint m _ _ _ _ => m

def apiKey : BuilderCall → CString
  | requestFeed _ _ k _ => k
  | requestDatastream _ _ _ k => k
  | requestDatapoint _ _ _ _ k => k

def querySuffix : BuilderCall → Option CString
  | requestFeed _ _ _ s => s
  | _ => none

def run (tg : Target) : BuilderCall → Proc XiErr (Statics tg) (Option Text)
  | requestFeed m id k s => httpConstructRequestFeed m.bytes id k (s.map CString.bytes)
  | requestDatastream m id d k =>
    httpConstructRequestDatastream m.bytes id (d.map CString.bytes) k
  | requestDatapoint m id d p k =>
    httpConstructRequestDatapoint m.bytes id d.bytes (p.map CString.bytes) k

/-- The request head of a call for the path that is in its buffer. -/
def headFor (tg : Target) (c : BuilderCall) (path : Text) : Text :=
  queryText tg c.method.bytes path ((c.querySuffix.map CString.bytes).getD []) c.apiKey

end BuilderCall

/-- The calls one after the other, with what they return. -/
def calls (tg : Target) (cs : List BuilderCall) :
    Proc XiErr (Statics tg) (List (Option Text)) := cs.mapM (BuilderCall.run tg)

/-! ### Builders of paths -/

variable {n : ℕ}

/-- From an array with `p` a builder comes back with an answer that is its own, counted from `a`
on: -1, or some bytes of the string it leaves. That string is its own too. -/
structure Settles (p : Buf n → Prop) (m : Proc XiErr (Buf n) ℤ) (a : ℕ) (v : ℤ) (u : Text) :
    Prop where
  run : ∃ w, Returns p m v w (Starts (u ++ [0]))
  answer : v = -1 ∨ 1 ≤ v
  reach : a + v ≤ u.length
  fits : u.length < n
  noNul : 0 ∉ u
  nonempty : 1 < n → u ≠ []

def Settled (p : Buf n → Prop) (m : Proc XiErr (Buf n) ℤ) (a : ℕ) : Prop :=
  ∃ v u, Settles p m a v u

/-- A print that is checked against the room it was given. -/
def checkedPrint (x : Text) (at_ : ℕ) (size : ℤ) : Proc XiErr (Buf n) ℤ := errHandling (-1) do
  let s ← snprintf at_ size x
  xiCheckSize s size .httpConstructRequestBufferOverrun
  return s

lemma settled_checkedPrint {p : Buf n → Prop} {t x : Text} (ht : t.length < n)
    (hp : ∀ b, p b → Starts t b) (h0 : 0 ∉ t) (hx : 0 ∉ x) (hne : x ≠ []) :
    Settled p (checkedPrint x t.length (n - t.length)) t.length := by
  have hpos : 0 < x.length := List.length_pos_iff.mpr hne
  have hroom : ((n : ℤ) - t.length).toNat - 1 = n - t.length - 1 := by omega
  have hprint : Returns p (snprintf t.length (n - t.length) x : Proc XiErr (Buf n) ℤ) x.length
      none (Starts (t ++ x.take (n - t.length - 1) ++ [0])) := by
    have h := @returns_snprintf n XiErr t (n - t.length) (by omega) (by omega) x
    rw [hroom] at h
    exact h.mono hp fun _ h => h
  have hzero : 0 ∉ t ++ x.take (n - t.length - 1) := by
    rw [List.mem_append, not_or]
    exact ⟨h0, fun h => hx (List.mem_of_mem_take h)⟩
  have hlen : (t ++ x.take (n - t.length - 1)).length =
      t.length + min (n - t.length - 1) x.length := by
    rw [List.length_append, List.length_take]
  have hsome : 1 < n → t ++ x.take (n - t.length - 1) ≠ [] := by
    intro hn hnil
    have := congrArg List.length hnil
    rw [hlen, List.length_nil] at this
    omega
  by_cases hfit : t.length + x.length < n
  · refine ⟨x.length, _, ⟨⟨none, ?_⟩, by omega, by rw [hlen]; omega, by rw [hlen]; omega,
      hzero, hsome⟩⟩
    have hcheck := (Returns.checkCnd (by omega : ¬ ((n : ℤ) - t.length ≤ x.length ∨
      (x.length : ℤ) < 0)) (Starts (n := n) (t ++ x.take (n - t.length - 1) ++ [0]))
      XiErr.httpConstructRequestBufferOverrun).map fun _ => (x.length : ℤ)
    exact (hprint.seq hcheck).errHandling (-1)
  · refine ⟨-1, _, ⟨⟨some .httpConstructRequestBufferOverrun, ?_⟩, by omega, by rw [hlen]; omega,
      by rw [hlen]; omega, hzero, hsome⟩⟩
    have hcheck : Leaves (Starts (n := n) (t ++ x.take (n - t.length - 1) ++ [0]))
        (xiCheckSize (x.length : ℤ) (n - t.length) .httpConstructRequestBufferOverrun
          >>= fun _ => pure (x.length : ℤ)) (some .httpConstructRequestBufferOverrun) _ :=
      Leaves.bind (Leaves.checkCnd (by omega) _ _)
    exact (hprint.seqFails hcheck).errHandling (-1)

/-- What follows a builder behind a check of its answer: the offset is inside the string. -/
lemma Settled.check {p : Buf n → Prop} {m : Proc XiErr (Buf n) ℤ} {a : ℕ}
    {k : ℕ → Proc XiErr (Buf n) ℤ} {x : XiErr} (h : Settled p m a)
    (hk : ∀ (u : Text) (o : ℕ), 0 ∉ u → 1 ≤ o → o ≤ u.length → u.length < n →
      Settled (Starts (u ++ [0])) (errHandling (-1) (k o)) 0) :
    Settled p (errHandling (-1) (m >>= fun s => xiCheckS s n a x >>= k)) 0 := by
  obtain ⟨v, u, ⟨w, hrun⟩, hv, hreach, hfits, h0, hne⟩ := h
  rcases hv with rfl | hv
  · refine ⟨-1, u, ⟨some x, ?_⟩, Or.inl rfl, by omega, hfits, h0, hne⟩
    have hcheck := leaves_checkS (x := x) (by omega : (n : ℤ) - a ≤ -1 ∨ (-1 : ℤ) < 0)
      (Starts (n := n) (u ++ [0]))
    exact (hrun.seqFails hcheck.bind).errHandling (-1)
  · obtain ⟨v', u', hs⟩ := hk u (a + v.toNat) h0 (by omega) (by omega) hfits
    obtain ⟨w', hrun'⟩ := hs.run
    have hcheck := returns_checkS (x := x) (by omega : 0 ≤ v ∧ v < n - a)
      (Starts (n := n) (u ++ [0]))
    exact ⟨v', u', { hs with run := ⟨_, hrun.handled (hcheck.handled hrun')⟩ }⟩

/-- A print at an offset inside the string. -/
lemma settled_inside {u x : Text} {o : ℕ} (h0 : 0 ∉ u) (ho : o ≤ u.length) (hu : u.length < n)
    (hx : 0 ∉ x) (hne : x ≠ []) :
    Settled (Starts (u ++ [0])) (checkedPrint (n := n) x o (n - o)) o := by
  have hlen : (u.take o).length = o := by rw [List.length_take]; omega
  have h := @settled_checkedPrint n (Starts (u ++ [0])) (u.take o) x (by omega)
    (fun b hb => ((List.take_prefix o u).trans (List.prefix_append u [0])).trans hb)
    (fun h => h0 (List.mem_of_mem_take h)) hx hne
  rwa [hlen] at h

/-- An answer counted from further behind is one counted from the front. -/
lemma Settled.front {p : Buf n → Prop} {m : Proc XiErr (Buf n) ℤ} {a : ℕ} (h : Settled p m a) :
    Settled p (errHandling (-1) m) 0 := by
  obtain ⟨v, u, hs⟩ := h
  obtain ⟨w, hrun⟩ := hs.run
  have hreach := hs.reach
  exact ⟨v, u, { hs with run := ⟨w, hrun.errHandling (-1)⟩, reach := by omega }⟩

lemma settled_offset {u : Text} {o : ℕ} (h0 : 0 ∉ u) (h1 : 1 ≤ o) (ho : o ≤ u.length)
    (hu : u.length < n) :
    Settled (Starts (u ++ [0])) (errHandling (-1) (pure (o : ℤ) : Proc XiErr (Buf n) ℤ)) 0 := by
  refine ⟨o, u, ⟨⟨none, (Returns.pure _ _).errHandling (-1)⟩, by omega, by omega, hu, h0, ?_⟩⟩
  rintro - rfl
  simp at ho
  omega

/-- The last part of a path, which may be absent. -/
lemma settled_last {id : Option Text} {u : Text} {o : ℕ} (h0 : 0 ∉ u) (h1 : 1 ≤ o)
    (ho : o ≤ u.length) (hu : u.length < n) : (∀ t, id = some t → 0 ∉ t) →
    Settled (Starts (u ++ [0])) (errHandling (-1) (match id with
      | some id => httpConstructString o (n - o) (some id)
      | none => return o : Proc XiErr (Buf n) ℤ)) 0 := by
  intro hid
  cases id with
  | none => exact settled_offset h0 h1 ho hu
  | some t =>
    have hx : 0 ∉ lit "/" ++ t := by
      rw [List.mem_append, not_or]
      exact ⟨by decide, hid t rfl⟩
    exact (settled_inside h0 ho hu hx (by simp [lit])).front

lemma settled_feed (hn : 0 < n) (feedId : UInt32) :
    Settled (n := n) (fun _ => True) (httpConstructFeed 0 n (some feedId)) 0 := by
  have h := @settled_checkedPrint n (fun _ => True) [] (feedPath feedId) hn
    (fun b _ => starts_nil b) (by simp) (zero_not_mem_feedPath feedId) (by simp [feedPath, lit])
  simp only [List.length_nil, Nat.cast_zero, sub_zero] at h
  exact h

lemma settled_datastream (hn : 0 < n) (feedId : UInt32) {datastreamId : Option Text}
    (hid : ∀ t, datastreamId = some t → 0 ∉ t) :
    Settled (n := n) (fun _ => True) (httpConstructDatastream (some feedId) datastreamId) 0 := by
  refine (settled_feed hn feedId).check fun u o h0 _ ho hu => ?_
  refine (settled_inside h0 ho hu (by decide) (by decide)).check fun u o h0 h1 ho hu => ?_
  exact settled_last h0 h1 ho hu hid

lemma settled_datapoint (hn : 0 < n) (feedId : UInt32) {datastreamId datapoint : Option Text}
    (hid : ∀ t, datastreamId = some t → 0 ∉ t) (hpoint : ∀ t, datapoint = some t → 0 ∉ t) :
    Settled (n := n) (fun _ => True)
      (httpConstructDatapoint (some feedId) datastreamId datapoint) 0 := by
  refine (settled_datastream hn feedId hid).check fun u o h0 _ ho hu => ?_
  refine (settled_inside h0 ho hu (by decide) (by decide)).check fun u o h0 h1 ho hu => ?_
  exact settled_last h0 h1 ho hu hpoint

/-! ### Calls -/

variable {tg : Target} {c : BuilderCall}

/-- The path that is in its buffer. -/
def Holds (u : Text) (l : Statics tg) : Prop := Starts (u ++ [0]) l.idBuffer

lemma keeps_httpConstructHttpQuery (method : Text) (suffix : Option Text) (apiKey : CString) :
    Keeps (fun l : Statics tg => l.idBuffer) (httpConstructHttpQuery method suffix apiKey) := by
  have hquery {α : Type} (m : Proc XiErr (Buf tg.queryBufferSize) α) :
      Keeps (fun l : Statics tg => l.idBuffer) (onQueryBuffer m) :=
    Keeps.focus (by intros; rfl) m
  have hread : Keeps (fun l : Statics tg => l.idBuffer) (onIdBuffer readStr) := by
    intro e l l' hl
    cases hc : cstr l.idBuffer <;> simp [onIdBuffer, focus, readStr, hc] at hl
    rw [← hl]
  exact Keeps.errHandling (hread.bind fun id => (hquery _).bind fun s =>
    (Keeps.checkCnd _ _).bind fun _ => (hquery _).bind fun t => Keeps.pure _) none

/-- What a call returns, once its path is in the buffer. -/
def BuilderCall.answer (tg : Target) (c : BuilderCall) (path : Text) : Option Text :=
  if (c.headFor tg path).length < tg.queryBufferSize then some (c.headFor tg path) else none

lemma query_answer {u : Text} (h0 : 0 ∉ u) : ∃ w,
    Returns (Holds u) (httpConstructHttpQuery c.method.bytes (c.querySuffix.map CString.bytes)
      c.apiKey : Proc XiErr (Statics tg) (Option Text)) (c.answer tg u) w (Holds u) := by
  have hsuffix : 0 ∉ (c.querySuffix.map CString.bytes).getD [] := by
    cases c.querySuffix with
    | none => simp
    | some s => exact s.noNul
  obtain ⟨hfit, hover⟩ := @httpConstructHttpQuery_spec tg c.method.bytes u
    (c.querySuffix.map CString.bytes) c.apiKey c.method.noNul h0 hsuffix
  have hkeep := @keeps_httpConstructHttpQuery tg c.method.bytes
    (c.querySuffix.map CString.bytes) c.apiKey
  by_cases hlt : (c.headFor tg u).length < tg.queryBufferSize
  · rw [BuilderCall.answer, if_pos hlt]
    exact ⟨none, ((hfit hlt).frame hkeep (Starts (u ++ [0]))).mono (fun _ h => ⟨h, h⟩)
      fun _ h => h.2⟩
  · rw [BuilderCall.answer, if_neg hlt]
    exact ⟨_, ((hover hlt).frame hkeep (Starts (u ++ [0]))).mono (fun _ h => ⟨h, h⟩)
      fun _ h => h.2⟩

/-- A call that prints a path returns what is its own, and leaves a path that is its own. -/
lemma returns_printed {build : Proc XiErr (Buf tg.idBufferSize) ℤ} {x : XiErr}
    (h : Settled (fun _ => True) build 0) : ∃ r w u, 0 ∉ u ∧ u.length < tg.idBufferSize ∧
      (1 < tg.idBufferSize → u ≠ []) ∧
    Returns (fun _ => True) (errHandling none do
      let s ← onIdBuffer build
      xiCheckSize s tg.idBufferSize x
      httpConstructHttpQuery c.method.bytes (c.querySuffix.map CString.bytes) c.apiKey) r w
      (@Holds tg u) := by
  obtain ⟨v, u, hs⟩ := h
  obtain ⟨w, hrun⟩ := hs.run
  have hbuild : Returns (fun _ => True) (onIdBuffer build) v w (@Holds tg u) :=
    hrun.focus fun _ _ => rfl
  have hreach := hs.reach
  have hfits := hs.fits
  rcases hs.answer with rfl | hv
  · have hcheck := Leaves.checkCnd (by omega : (tg.idBufferSize : ℤ) ≤ -1 ∨ (-1 : ℤ) < 0)
      (@Holds tg u) x
    exact ⟨_, _, u, hs.noNul, hfits, hs.nonempty, (hbuild.seqFails hcheck.bind).errHandling none⟩
  · obtain ⟨w', hq⟩ := @query_answer tg c u hs.noNul
    have hcheck := Returns.checkCnd (by omega : ¬ ((tg.idBufferSize : ℤ) ≤ v ∨ v < 0))
      (@Holds tg u) x
    exact ⟨_, _, u, hs.noNul, hfits, hs.nonempty, (hbuild.bind (hcheck.seq hq)).errHandling none⟩

lemma run_withId (h : c.feedId.isSome) : ∃ r w u, 0 ∉ u ∧ u.length < tg.idBufferSize ∧
    (1 < tg.idBufferSize → u ≠ []) ∧ Returns (fun _ => True) (c.run tg) r w (Holds u) := by
  have hstring (s : Option CString) : ∀ t, s.map CString.bytes = some t → 0 ∉ t := by
    intro t ht
    obtain ⟨s, -, rfl⟩ := Option.map_eq_some_iff.mp ht
    exact s.noNul
  cases c with
  | requestFeed m id k s =>
    obtain ⟨id, rfl⟩ := Option.isSome_iff_exists.mp h
    exact @returns_printed tg (.requestFeed m (some id) k s) _ _ (settled_feed tg.id_pos id)
  | requestDatastream m id d k =>
    exact @returns_printed tg (.requestDatastream m id d k) _ _
      (settled_datastream tg.id_pos id (hstring d))
  | requestDatapoint m id d p k =>
    exact @returns_printed tg (.requestDatapoint m id d p k) _ _
      (settled_datapoint tg.id_pos id (hstring (some d)) (hstring p))

/-- A call without an id asks for the path it finds. -/
lemma run_withoutId (h : c.feedId = none) {u : Text} (h0 : 0 ∉ u) : ∃ w,
    Returns (Holds u) (c.run tg) (c.answer tg u) w (Holds u) := by
  cases c with
  | requestFeed m id k s =>
    obtain rfl : id = none := h
    obtain ⟨w, hq⟩ := @query_answer tg (.requestFeed m none k s) u h0
    have hbuild : Returns (Holds u) (onIdBuffer (httpConstructFeed 0 tg.idBufferSize none)) 0
        none (@Holds tg u) := fun e l hl => ⟨l, rfl, hl⟩
    have hpos := tg.id_pos
    have hcheck := Returns.checkCnd (by omega : ¬ ((tg.idBufferSize : ℤ) ≤ 0 ∨ (0 : ℤ) < 0))
      (@Holds tg u) XiErr.httpConstructContentBufferOverrun
    exact ⟨w, (hbuild.seq (hcheck.seq hq)).errHandling none⟩
  | requestDatastream m id d k => cases h
  | requestDatapoint m id d p k => cases h

/-! ### Histories -/

/-- The paths a process comes across: strings that fit the buffer. -/
def IsPath (tg : Target) (u : Text) : Prop := 0 ∉ u ∧ u.length < tg.idBufferSize

lemma run_step (c : BuilderCall) {u : Text} (hu : IsPath tg u) : ∃ r w u', IsPath tg u' ∧
    Returns (Holds u) (c.run tg) r w (Holds u') ∧
    (u' = [] ↔ tg.idBufferSize = 1 ∨ (u = [] ∧ c.feedId = none)) := by
  cases hid : c.feedId with
  | none =>
    obtain ⟨w, hrun⟩ := @run_withoutId tg c hid u hu.1
    refine ⟨_, w, u, hu, hrun, ?_⟩
    have hlen := hu.2
    constructor
    · exact fun h => Or.inr ⟨h, rfl⟩
    · rintro (h | h)
      · exact List.length_eq_zero_iff.mp (by omega)
      · exact h.1
  | some id =>
    obtain ⟨r, w, u', h0, hlen, hne, hrun⟩ := @run_withId tg c (by rw [hid]; rfl)
    refine ⟨r, w, u', ⟨h0, hlen⟩, hrun.mono (fun _ _ => trivial) fun _ h => h, ?_⟩
    have hpos := tg.id_pos
    constructor
    · intro h
      by_contra hno
      exact hne (by omega) h
    · rintro (h | h)
      · exact List.length_eq_zero_iff.mp (by omega)
      · exact absurd h.2 (by simp)

/-- The path that is left by a history is empty if none of its calls had an id. -/
lemma calls_run (cs : List BuilderCall) {u : Text} (hu : IsPath tg u) : ∃ rs w u', IsPath tg u' ∧
    Returns (Holds u) (calls tg cs) rs w (Holds u') ∧
    (u' = [] ↔ tg.idBufferSize = 1 ∨ (u = [] ∧ ∀ c ∈ cs, c.feedId = none)) := by
  induction cs generalizing u with
  | nil =>
    refine ⟨[], none, u, hu, Returns.pure _ _, ?_⟩
    have hlen := hu.2
    constructor
    · exact fun h => Or.inr ⟨h, by simp⟩
    · rintro (h | h)
      · exact List.length_eq_zero_iff.mp (by omega)
      · exact h.1
  | cons c cs ih =>
    obtain ⟨r, w, u', hu', hrun, hempty⟩ := run_step c hu
    obtain ⟨rs, w', u'', hu'', hruns, hempties⟩ := ih hu'
    have hcalls : calls tg (c :: cs) = c.run tg >>= fun r => calls tg cs >>= fun rs =>
        pure (r :: rs) := by simp [calls]
    rw [hcalls]
    refine ⟨r :: rs, _, u'', hu'', hrun.bind (hruns.map (r :: ·)), ?_⟩
    rw [hempties, hempty, List.forall_mem_cons]
    tauto

lemma answer_eq_iff {u : Text} :
    c.answer tg u = c.answer tg [] ↔ u = [] ∨ tg.queryBufferSize ≤ (c.headFor tg []).length := by
  have hlen : (c.headFor tg u).length = (c.headFor tg []).length + u.length := by
    simp only [BuilderCall.headFor, queryText, templateFeed, List.length_append, List.length_nil]
    omega
  unfold BuilderCall.answer
  constructor
  · intro h
    by_contra hno
    rw [not_or, not_le] at hno
    rw [if_pos hno.2] at h
    split at h
    · have heq := congrArg List.length (Option.some.inj h)
      exact hno.1 (List.length_eq_zero_iff.mp (by omega))
    · cases h
  · rintro (h | h)
    · rw [h]
    · have hu : ¬ (c.headFor tg u).length < tg.queryBufferSize := by omega
      rw [if_neg hu, if_neg h.not_gt]

lemma holds_fresh (tg : Target) : Holds [] (Statics.fresh tg) := starts_zero tg.id_pos

/-- **Memory of the builders**: every history of calls comes to its end, and so does the next
call. It returns what it returns in a fresh process exactly if it has the id of a feed, or no call
before it had one, or there is no room: none for a path, or none for the head without one. -/
theorem builders_memory (tg : Target) (cs : List BuilderCall) (c : BuilderCall) :
    ∃ rs e l r e' l' r₀ e₀ l₀,
      calls tg cs .noErr (.fresh tg) = .ret rs e l ∧ c.run tg e l = .ret r e' l' ∧
      c.run tg .noErr (.fresh tg) = .ret r₀ e₀ l₀ ∧
      (r = r₀ ↔ c.feedId.isSome ∨ (∀ b ∈ cs, b.feedId = none) ∨ tg.idBufferSize = 1 ∨
        tg.queryBufferSize ≤ (c.headFor tg []).length) := by
  have hstart : IsPath tg [] := ⟨by simp, tg.id_pos⟩
  obtain ⟨rs, w, u, hu, hruns, hempty⟩ := calls_run cs hstart
  obtain ⟨l, hl, hholds⟩ := hruns .noErr (.fresh tg) (holds_fresh tg)
  cases hid : c.feedId with
  | some id =>
    obtain ⟨r, w', u', -, -, -, hrun⟩ := @run_withId tg c (by rw [hid]; rfl)
    obtain ⟨l', hl', -⟩ := hrun (w.getD .noErr) l trivial
    obtain ⟨l₀, hl₀, -⟩ := hrun .noErr (.fresh tg) trivial
    exact ⟨rs, _, l, r, _, l', r, _, l₀, hl, hl', hl₀, by simp⟩
  | none =>
    obtain ⟨w', hrun⟩ := @run_withoutId tg c hid u hu.1
    obtain ⟨w₀, hrun₀⟩ := @run_withoutId tg c hid [] (by simp)
    obtain ⟨l', hl', -⟩ := hrun (w.getD .noErr) l hholds
    obtain ⟨l₀, hl₀, -⟩ := hrun₀ .noErr (.fresh tg) (holds_fresh tg)
    refine ⟨rs, _, l, _, _, l', _, _, l₀, hl, hl', hl₀, ?_⟩
    rw [answer_eq_iff, hempty]
    simp only [Option.isSome_none, Bool.false_eq_true, false_or, true_and]
    rw [or_assoc, or_left_comm]

def getMethod : CString := ⟨lit "GET", by decide⟩

/-- Gets of a feed, with its id and without one. -/
def smallFeed : BuilderCall := .requestFeed getMethod (some 1) smallKey none

def noFeed : BuilderCall := .requestFeed getMethod none smallKey none

/-- The path of the call before stands in a request that has none. -/
theorem builders_memory_stale :
    (calls posixConfig [smallFeed, noFeed] .noErr (.fresh posixConfig)).answer =
      some [some (smallFeed.headFor posixConfig (lit "/1")),
        some (noFeed.headFor posixConfig (lit "/1"))] ∧
    (calls posixConfig [noFeed] .noErr (.fresh posixConfig)).answer =
      some [some (noFeed.headFor posixConfig [])] ∧
    noFeed.headFor posixConfig (lit "/1") ≠ noFeed.headFor posixConfig [] := by
  refine ⟨by decide +kernel, by decide +kernel, by decide +kernel⟩

end LibXively.BuilderHistory
