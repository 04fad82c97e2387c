import LibXively.Requests.CsvText

/-!
The paths, the request head and the assembled request.
-/

namespace LibXively.Builders

open LibXively.Bytes LibXively.Decimal LibXively.CProc LibXively.CharArray LibXively.Structures
open LibXively.CsvData LibXively.HttpQueries LibXively.HttpTransport LibXively.Append
open LibXively.CsvText

/-! ### Paths -/

/-- The id of a feed in a path. -/
def feedPath (feedId : UInt32) : Text := lit "/" ++ fmtD (toInt32 feedId.toNat)

/-- The path of the datastreams of a feed, or of one of them. -/
def datastreamPath (feedId : UInt32) (datastreamId : Option Text) : Text :=
  feedPath feedId ++ lit "/datastreams" ++ (datastreamId.elim [] fun id => lit "/" ++ id)

lemma zero_not_mem_feedPath (feedId : UInt32) : (0 : Byte) ∉ feedPath feedId := by
  rw [feedPath, List.mem_append, not_or]
  exact ⟨by decide, zero_not_mem_fmtD _⟩

lemma zero_not_mem_datastreamPath (feedId : UInt32) {datastreamId : Option Text}
    (h : ∀ id, datastreamId = some id → (0 : Byte) ∉ id) :
    (0 : Byte) ∉ datastreamPath feedId datastreamId := by
  simp only [datastreamPath, List.mem_append, not_or]
  refine ⟨⟨zero_not_mem_feedPath feedId, by decide⟩, ?_⟩
  cases datastreamId with
  | none => simp
  | some id =>
    rw [Option.elim_some, List.mem_append, not_or]
    exact ⟨by decide, h id rfl⟩

variable {n : ℕ}

/-- A print that is checked against the room it was given. -/
lemma builds_checked (u : Text) : Builds (n := n) (fun at_ size => errHandling (-1) do
    let s ← snprintf at_ size u
    xiCheckSize s size .httpConstructRequestBufferOverrun
    return s) (some u) := by
  intro t ht
  obtain ⟨hfit, hover⟩ := prints_snprintf (n := n) u t ht
  rw [List.append_nil] at hfit hover
  refine ⟨fun v hv hlt => ?_, fun hno => ?_⟩
  · have hroom : ¬ ((n : ℤ) - t.length ≤ v.length ∨ (v.length : ℤ) < 0) := by omega
    have hcheck := (Returns.checkCnd hroom (Starts (n := n) (t ++ v ++ [0]))
      XiErr.httpConstructRequestBufferOverrun).map fun _ => (v.length : ℤ)
    exact ((hfit v hv hlt).seq hcheck).errHandling (-1)
  · obtain ⟨s, w, Q, hs, hr⟩ := hover hno
    have hcheck : Leaves Q (xiCheckSize s (n - t.length) .httpConstructRequestBufferOverrun
        >>= fun _ => pure s) (some .httpConstructRequestBufferOverrun) Q :=
      Leaves.bind (Leaves.checkCnd (by omega) Q _)
    exact ⟨_, Q, by decide, (hr.seqFails hcheck).errHandling (-1)⟩

lemma builds_httpConstructString (id : Text) :
    Builds (n := n) (fun at_ size => httpConstructString at_ size (some id))
      (some (lit "/" ++ id)) := builds_checked _

lemma builds_httpConstructFeed (feedId : UInt32) :
    Builds (n := n) (fun at_ size => httpConstructFeed at_ size (some feedId))
      (some (feedPath feedId)) := builds_checked _

/-- A builder of a whole path: it answers with a number below the size of the array, and the
path is there, or with -1 and an error. -/
def BuildsPath (m : Proc XiErr (Buf n) ℤ) (path : Text) : Prop :=
  (path.length < n → ∃ s : ℤ, 0 ≤ s ∧ s < n ∧
    Returns (fun _ => True) m s none (Starts (path ++ [0]))) ∧
  (¬ path.length < n → ∃ (x : XiErr) (Q : Buf n → Prop),
    x ≠ .noErr ∧ Returns (fun _ => True) m (-1) (some x) Q)

/-- The same for a builder that needs more than that the path fits, or less. -/
def BuildsIf (m : Proc XiErr (Buf n) ℤ) (c : Prop) (path : Text) : Prop :=
  (c → ∃ s : ℤ, 0 ≤ s ∧ s < n ∧ Returns (fun _ => True) m s none (Starts (path ++ [0]))) ∧
  (¬ c → ∃ (x : XiErr) (Q : Buf n → Prop),
    x ≠ .noErr ∧ Returns (fun _ => True) m (-1) (some x) Q)

lemma BuildsPath.buildsIf {m : Proc XiErr (Buf n) ℤ} {path : Text} (h : BuildsPath m path) :
    BuildsIf m (path.length < n) path := h

lemma Builds.path {g : ℕ → ℤ → Proc XiErr (Buf n) ℤ} {u : Text} (h : Builds g (some u))
    (hn : 0 < n) : BuildsPath (g 0 n) u := by
  obtain ⟨hfit, hover⟩ := h [] hn
  simp only [List.length_nil, Nat.cast_zero, sub_zero, zero_add, List.nil_append,
    fitsAt_some] at hfit hover
  refine ⟨fun hlt => ⟨u.length, by omega, by omega, ?_⟩, fun hno => ?_⟩
  · exact (hfit u rfl hlt).mono (fun b _ => starts_nil b) (fun _ h => h)
  · obtain ⟨x, Q, hx, hr⟩ := hover hno
    exact ⟨x, Q, hx, hr.mono (fun b _ => starts_nil b) (fun _ h => h)⟩

/-- The steps of `http_construct_datastream` in front of the id. -/
def streamsSteps (feedId : UInt32) (o : ℕ) : Proc XiErr (Buf n) ℕ := do
  let s ← httpConstructFeed (0 + o) (n - (0 : ℕ) - o) (some feedId)
  let o ← xiCheckS s (n - (0 : ℕ)) o .httpConstructRequestBufferOverrun
  let s ← httpConstructString (0 + o) (n - (0 : ℕ) - o) (some (lit "datastreams"))
  xiCheckS s (n - (0 : ℕ)) o .httpConstructRequestBufferOverrun

lemma appends_streamsSteps (feedId : UInt32) :
    Appends (n := n) 0 [] (streamsSteps feedId) (some (datastreamPath feedId none)) := by
  have h1 := (builds_httpConstructFeed (n := n) feedId).prints.appends 0
    (x := .httpConstructRequestBufferOverrun) (by decide)
  have h2 := (builds_httpConstructString (n := n) (lit "datastreams")).prints.appends 0
    (x := .httpConstructRequestBufferOverrun) (by decide)
  have h := h1.andThen h2.weaken
  simp only [bind_assoc, cat_some] at h
  rw [datastreamPath, Option.elim_none, List.append_nil]
  exact h

/-- The last segment of a path, if there is one. -/
def lastSegment (id : Option Text) (o : ℕ) : Proc XiErr (Buf n) ℤ :=
  id.elim (pure (o : ℤ)) fun id => httpConstructString o (n - o) (some id)

/-- The text of the last segment. -/
def segmentText (id : Option Text) : Text := id.elim [] fun id => lit "/" ++ id

/-- The number a builder answers with: where the path ends, or how long its last segment is. -/
def segmentAnswer (t : Text) (id : Option Text) : ℤ :=
  id.elim (t.length : ℤ) fun id => ((lit "/" ++ id).length : ℤ)

/-- A front that is there under a condition, and the last segment behind it. -/
lemma lastSegment_spec {m : Proc XiErr (Buf n) ℕ} {c : Prop} {t : Text} (id : Option Text)
    (hfit : c → t.length < n ∧ Returns (fun _ => True) m t.length none (Starts (t ++ [0])))
    (hover : ¬ c → ∃ (x : XiErr) (Q : Buf n → Prop),
      x ≠ .noErr ∧ Leaves (fun _ => True) m (some x) Q) :
    (c ∧ (t ++ segmentText id).length < n →
      Returns (fun _ => True) (errHandling (-1) (m >>= lastSegment id)) (segmentAnswer t id) none
        (Starts (t ++ segmentText id ++ [0]))) ∧
    (¬ (c ∧ (t ++ segmentText id).length < n) → ∃ (x : XiErr) (Q : Buf n → Prop),
      x ≠ .noErr ∧ Returns (fun _ => True) (errHandling (-1) (m >>= lastSegment id)) (-1)
        (some x) Q) := by
  by_cases hc : c
  · obtain ⟨hlen, hfront⟩ := hfit hc
    cases id with
    | none =>
      have hsame : t ++ segmentText none = t := List.append_nil t
      rw [hsame]
      exact ⟨fun _ => (hfront.map fun o => (o : ℤ)).errHandling (-1),
        fun hno => absurd ⟨hc, hlen⟩ hno⟩
    | some id =>
      obtain ⟨hfit', hover'⟩ := builds_httpConstructString (n := n) id t hlen
      rw [fitsAt_some, ← List.length_append] at hover'
      have hbefore := hfront.mono (fun _ h => h) fun _ => Starts.of_append
      refine ⟨fun ⟨_, hlt⟩ => ?_, fun hno => ?_⟩
      · rw [segmentText, Option.elim_some, List.length_append] at hlt
        exact (hbefore.seq (hfit' _ rfl hlt)).errHandling (-1)
      · obtain ⟨x, Q, hx, hr⟩ := hover' fun hlt => hno ⟨hc, hlt⟩
        exact ⟨x, Q, hx, (hbefore.seq hr).errHandling (-1)⟩
  · obtain ⟨x, Q, hx, hl⟩ := hover hc
    exact ⟨fun h => absurd h.1 hc, fun _ => ⟨x, Q, hx, hl.bind.errHandling (-1)⟩⟩

lemma datastreamPath_eq (feedId : UInt32) (datastreamId : Option Text) :
    datastreamPath feedId datastreamId =
      datastreamPath feedId none ++ segmentText datastreamId := by
  simp [datastreamPath, segmentText]

/-- What the builder of a datastream answers with and leaves in the array. -/
lemma httpConstructDatastream_answer (feedId : UInt32) (datastreamId : Option Text) (hn : 0 < n) :
    ((datastreamPath feedId datastreamId).length < n →
      Returns (fun _ => True)
        (httpConstructDatastream (some feedId) datastreamId : Proc XiErr (Buf n) ℤ)
        (segmentAnswer (datastreamPath feedId none) datastreamId) none
        (Starts (datastreamPath feedId datastreamId ++ [0]))) ∧
    (¬ (datastreamPath feedId datastreamId).length < n → ∃ (x : XiErr) (Q : Buf n → Prop),
      x ≠ .noErr ∧ Returns (fun _ => True)
        (httpConstructDatastream (some feedId) datastreamId) (-1) (some x) Q) := by
  obtain ⟨hfit, hover⟩ := appends_streamsSteps (n := n) feedId 0 [] rfl (by simpa using hn)
  simp only [zero_add, List.nil_append, fitsAt_some] at hfit hover
  have htop : ∀ b : Buf n, True → Starts [] b := fun b _ => starts_nil b
  have hrun : httpConstructDatastream (n := n) (some feedId) datastreamId = errHandling (-1)
      (streamsSteps feedId 0 >>= lastSegment datastreamId) := by
    show _ = errHandling (-1) (streamsSteps feedId 0 >>= fun (o : ℕ) =>
      datastreamId.elim (pure (o : ℤ)) fun id => httpConstructString o (n - o) (some id))
    cases datastreamId <;> simp [httpConstructDatastream, streamsSteps]
  have hcond : (datastreamPath feedId none).length < n ∧
      (datastreamPath feedId none ++ segmentText datastreamId).length < n ↔
        (datastreamPath feedId none ++ segmentText datastreamId).length < n := by
    rw [List.length_append]
    omega
  have h := @lastSegment_spec n (streamsSteps feedId 0) _ _ datastreamId
    (fun hlt => ⟨hlt, (hfit _ rfl hlt).mono htop fun _ h => h⟩) fun hno => by
      obtain ⟨x, Q, hx, hl⟩ := hover hno
      exact ⟨x, Q, hx, hl.mono htop fun _ h => h⟩
  rw [hcond, ← datastreamPath_eq, ← hrun] at h
  exact h

/-- The answer is below the size of the array. -/
lemma segmentAnswer_lt {t : Text} {id : Option Text} (h : (t ++ segmentText id).length < n) :
    0 ≤ segmentAnswer t id ∧ segmentAnswer t id < n := by
  cases id with
  | none =>
    simp only [segmentAnswer, segmentText, Option.elim_none, List.append_nil] at h ⊢
    omega
  | some id =>
    simp only [segmentAnswer, segmentText, Option.elim_some, List.length_append] at h ⊢
    omega

lemma httpConstructDatastream_spec (feedId : UInt32) (datastreamId : Option Text) (hn : 0 < n) :
    BuildsPath (n := n) (httpConstructDatastream (some feedId) datastreamId)
      (datastreamPath feedId datastreamId) := by
  obtain ⟨hfit, hover⟩ := httpConstructDatastream_answer (n := n) feedId datastreamId hn
  refine ⟨fun hlt => ?_, hover⟩
  have hends := hlt
  rw [datastreamPath_eq] at hends
  exact ⟨_, (segmentAnswer_lt hends).1, (segmentAnswer_lt hends).2, hfit hlt⟩

/-! ### Request heads -/

variable {tg : Target}

/-- A function that returns a text, on the static buffers. -/
abbrev Request (tg : Target) : Type := Proc XiErr (Statics tg) (Option Text)

/-- The request head for a path. -/
def queryText (tg : Target) (method path suffix : Text) (apiKey : CString) : Text :=
  templateFeed tg method path suffix apiKey.bytes

lemma zero_not_mem_queryText {method path suffix : Text} (apiKey : CString)
    (hm : (0 : Byte) ∉ method) (hp : (0 : Byte) ∉ path) (hs : (0 : Byte) ∉ suffix) :
    (0 : Byte) ∉ queryText tg method path suffix apiKey := by
  simp only [queryText, templateFeed, List.mem_append, not_or, hm, hp, hs, apiKey.noNul,
    tg.userAgent.noNul, not_false_eq_true, and_true, true_and]
  decide

/-- Print a text at the front of one of the buffers, check it and read it back. -/
lemma print_spec {σ : Type} (read : σ → Buf n) (write : Buf n → σ → σ)
    (hrw : ∀ b l, read (write b l) = b) {u : Text} {x : XiErr} (hn : 0 < n)
    (h0 : (0 : Byte) ∉ u) :
    (u.length < n → Returns (fun _ => True) (do
      let s ← focus read write (snprintf 0 n u)
      xiCheckSize s n x
      let t ← focus read write readStr
      return some t) (some u) none fun _ => True) ∧
    (¬ u.length < n → Leaves (fun _ => True) (do
      let s ← focus read write (snprintf 0 n u)
      xiCheckSize s n x
      let t ← focus read write readStr
      return some t) (some x) fun _ => True) := by
  obtain ⟨hfit, hover⟩ := prints_snprintf (n := n) u [] hn
  simp only [List.length_nil, Nat.cast_zero, sub_zero, zero_add, List.nil_append,
    List.append_nil, fitsAt_some] at hfit hover
  refine ⟨fun hlt => ?_, fun hno => ?_⟩
  · have hroom : ¬ ((n : ℤ) ≤ u.length ∨ (u.length : ℤ) < 0) := by omega
    have hwrite := (hfit u rfl hlt).focus hrw
    have hread := (((returns_readStr (ε := XiErr) (n := n) h0).focus hrw).map some).mono
      (fun _ h => h) fun _ _ => trivial
    exact (hwrite.seq ((Returns.checkCnd hroom _ x).seq hread)).mono
      (fun l _ => starts_nil (read l)) fun _ _ => trivial
  · obtain ⟨s, w, Q, hs, hr⟩ := hover hno
    exact ((hr.focus hrw).seqFails (Leaves.bind (Leaves.checkCnd (by omega) _ x))).mono
      (fun l _ => starts_nil (read l)) fun _ _ => trivial

/-- `http_construct_http_query`, once the path is in its buffer. -/
lemma httpConstructHttpQuery_spec {method path : Text} {suffix : Option Text}
    {apiKey : CString} (hm : (0 : Byte) ∉ method) (hp : (0 : Byte) ∉ path)
    (hs : (0 : Byte) ∉ suffix.getD []) :
    ((queryText tg method path (suffix.getD []) apiKey).length < tg.queryBufferSize →
      Returns (fun l : Statics tg => Starts (path ++ [0]) l.idBuffer)
        (httpConstructHttpQuery method suffix apiKey)
        (some (queryText tg method path (suffix.getD []) apiKey)) none fun _ => True) ∧
    (¬ (queryText tg method path (suffix.getD []) apiKey).length < tg.queryBufferSize →
      Returns (fun l : Statics tg => Starts (path ++ [0]) l.idBuffer)
        (httpConstructHttpQuery method suffix apiKey) none
        (some .httpConstructRequestBufferOverrun) fun _ => True) := by
  have hid : Returns (fun l : Statics tg => Starts (path ++ [0]) l.idBuffer)
      (onIdBuffer readStr) path none fun _ => True :=
    ((returns_readStr hp).focus fun _ _ => rfl).mono (fun _ h => h) fun _ _ => trivial
  obtain ⟨hfit, hover⟩ := print_spec (fun l : Statics tg => l.queryBuffer)
    (fun b l => { l with queryBuffer := b }) (x := .httpConstructRequestBufferOverrun)
    (fun _ _ => rfl) tg.query_pos
    (zero_not_mem_queryText apiKey hm hp hs)
  exact ⟨fun hlt => (hid.seq (hfit hlt)).errHandling none,
    fun hno => (hid.seqLeaves (hover hno)).errHandling none⟩

/-- A path in its buffer, and the head of a request for it. -/
lemma decides_request {build : Proc XiErr (Buf tg.idBufferSize) ℤ} {c : Prop} {method path : Text}
    {suffix : Option Text} {apiKey : CString} {x : XiErr} (hb : BuildsIf build c path)
    (hm : (0 : Byte) ∉ method) (hp : (0 : Byte) ∉ path) (hs : (0 : Byte) ∉ suffix.getD [])
    (hx : x ≠ .noErr) :
    Decides (errHandling none do
      let s ← onIdBuffer build
      xiCheckSize s tg.idBufferSize x
      httpConstructHttpQuery method suffix apiKey)
      (c ∧ (queryText tg method path (suffix.getD []) apiKey).length < tg.queryBufferSize)
      (queryText tg method path (suffix.getD []) apiKey) := by
  obtain ⟨hfit, hover⟩ := hb
  obtain ⟨hfit', hover'⟩ := @httpConstructHttpQuery_spec tg _ _ _ apiKey hm hp hs
  by_cases hc : c
  · obtain ⟨s, h0, hsize, hr⟩ := hfit hc
    have hbuild : Returns (fun _ => True) (onIdBuffer build) s none
      fun l => Starts (path ++ [0]) l.idBuffer := hr.focus fun _ _ => rfl
    have hcheck := Returns.checkCnd (by omega : ¬ ((tg.idBufferSize : ℤ) ≤ s ∨ s < 0))
      (fun l : Statics tg => Starts (path ++ [0]) l.idBuffer) x
    refine ⟨fun hboth => ?_, fun hno => ⟨.httpConstructRequestBufferOverrun, by decide, ?_⟩⟩
    · exact (hbuild.seq (hcheck.seq (hfit' hboth.2))).errHandling none
    · exact (hbuild.seq (hcheck.seq (hover' fun hq => hno ⟨hc, hq⟩))).errHandling none
  · obtain ⟨y, Q, hy, hr⟩ := hover hc
    have hcheck := Leaves.checkCnd (by omega : (tg.idBufferSize : ℤ) ≤ -1 ∨ (-1 : ℤ) < 0)
      (fun l : Statics tg => Q l.idBuffer) x
    refine ⟨fun h => absurd h.1 hc, fun _ => ⟨x, hx, ?_⟩⟩
    have hbuild : Returns (fun _ => True) (onIdBuffer build) (-1) (some y)
      fun l => Q l.idBuffer := hr.focus fun _ _ => rfl
    exact ((hbuild.seqFails hcheck.bind).errHandling none).yields fun _ => trivial

lemma decides_requestDatastream {method : Text} (feedId : UInt32) {datastream : Option Text}
    {apiKey : CString} (hm : (0 : Byte) ∉ method)
    (hd : ∀ id, datastream = some id → (0 : Byte) ∉ id) :
    Decides (httpConstructRequestDatastream method feedId datastream apiKey : Request tg)
      ((datastreamPath feedId datastream).length < tg.idBufferSize ∧
        (queryText tg method (datastreamPath feedId datastream) [] apiKey).length
          < tg.queryBufferSize)
      (queryText tg method (datastreamPath feedId datastream) [] apiKey) :=
  @decides_request tg _ _ _ _ none _ _
    (httpConstructDatastream_spec feedId datastream tg.id_pos).buildsIf hm
    (zero_not_mem_datastreamPath feedId hd) (by simp) (by decide)

lemma decides_requestFeed {method : Text} (feedId : UInt32) {apiKey : CString}
    {suffix : Option Text} (hm : (0 : Byte) ∉ method) (hs : (0 : Byte) ∉ suffix.getD []) :
    Decides (httpConstructRequestFeed method (some feedId) apiKey suffix : Request tg)
      ((feedPath feedId).length < tg.idBufferSize ∧
        (queryText tg method (feedPath feedId) (suffix.getD []) apiKey).length
          < tg.queryBufferSize)
      (queryText tg method (feedPath feedId) (suffix.getD []) apiKey) :=
  decides_request (Builds.path (builds_httpConstructFeed feedId) tg.id_pos).buildsIf hm
    (zero_not_mem_feedPath feedId) hs (by decide)

/-! ### Content headers and the assembled request -/

lemma zero_not_mem_contentTemplate (size : ℤ) : (0 : Byte) ∉ contentTemplate size := by
  simp only [contentTemplate, List.mem_append, not_or]
  exact ⟨⟨⟨by decide, by decide⟩, zero_not_mem_fmtD _⟩, by decide⟩

lemma decides_content (size : ℤ) :
    Decides (httpConstructContent size : Request tg)
      ((contentTemplate (toInt32 size)).length < tg.contentBufferSize)
      (contentTemplate (toInt32 size)) := by
  obtain ⟨hfit, hover⟩ := print_spec (fun l : Statics tg => l.contentBuffer)
    (fun b l => { l with contentBuffer := b }) (x := .httpConstructContentBufferOverrun)
    (fun _ _ => rfl) tg.content_pos
    (zero_not_mem_contentTemplate (toInt32 size))
  exact ⟨fun hlt => (hfit hlt).errHandling none,
    fun hno => ⟨_, by decide, (hover hno).errHandling none⟩⟩

/-- The content headers and the body of a request. -/
def bodyText (body : Option Text) : Text × Text :=
  body.elim ([], []) fun data => (contentTemplate (toInt32 data.length), data)

/-- The assembled request: head, content headers, empty line, body, and an end of line. -/
def requestText (query : Text) (body : Option Text) : Text :=
  query ++ (bodyText body).1 ++ lit "\r\n" ++ (bodyText body).2 ++ lit "\r\n"

lemma zero_not_mem_requestText {query : Text} {body : Option Text} (hq : (0 : Byte) ∉ query)
    (hb : ∀ data, body = some data → (0 : Byte) ∉ data) :
    (0 : Byte) ∉ requestText query body := by
  have hcrlf : (0 : Byte) ∉ lit "\r\n" := by decide
  cases body with
  | none => simp [requestText, bodyText, hq, hcrlf]
  | some data =>
    simp [requestText, bodyText, hq, hcrlf, hb data rfl, zero_not_mem_contentTemplate]

/-- The steps of `http_encode_concat`. -/
def concatSteps (query : Text) (content data : Option Text) (o : ℕ) : Proc XiErr (Buf n) ℕ := do
  let offset ← appendPiece o query .httpEncodeCreateDatastream
  let offset ← match content with
    | some content => appendPiece offset content .httpEncodeCreateDatastream
    | none => pure offset
  let offset ← appendPiece offset (lit "\r\n") .httpEncodeCreateDatastream
  let offset ← match content, data with
    | some _, some data => appendPiece offset data .httpEncodeCreateDatastream
    | _, _ => pure offset
  appendPiece offset (lit "\r\n") .httpEncodeCreateDatastream

lemma appends_concatSteps (query : Text) (body : Option Text) :
    Appends (n := n) 0 [] (concatSteps query
      (body.map fun data => contentTemplate (toInt32 data.length)) body)
      (some (requestText query body)) := by
  have piece (z u : Text) : Appends (n := n) 0 z
      (fun o => appendPiece o u .httpEncodeCreateDatastream) (some u) :=
    (appends_appendPiece u (by decide)).weaken
  cases body with
  | none =>
    have h := ((piece [] query).andThen (piece _ (lit "\r\n"))).andThen (piece _ (lit "\r\n"))
    simp only [bind_assoc, cat_some] at h
    have htext : requestText query none = query ++ lit "\r\n" ++ lit "\r\n" := by
      simp [requestText, bodyText]
    rw [htext]
    exact h
  | some data =>
    have h := ((((piece [] query).andThen
      (piece _ (contentTemplate (toInt32 data.length)))).andThen (piece _ (lit "\r\n"))).andThen
      (piece _ data)).andThen (piece _ (lit "\r\n"))
    simp only [bind_assoc, cat_some] at h
    exact h

lemma decides_concat {query : Text} {b : Option Text} (hn : 0 < n) (hq : (0 : Byte) ∉ query)
    (hb : ∀ data, b = some data → (0 : Byte) ∉ data) :
    Decides (httpEncodeConcat (n := n) query
      (b.map fun data => contentTemplate (toInt32 data.length)) b)
      ((requestText query b).length < n) (requestText query b) := by
  have hrun : httpEncodeConcat (n := n) query
      (b.map fun data => contentTemplate (toInt32 data.length)) b = errHandling none
        (concatSteps query (b.map fun data => contentTemplate (toInt32 data.length)) b 0 >>=
          fun _ => readStr >>= fun t => pure (some t)) := by
    cases b <;> simp [httpEncodeConcat, concatSteps]
  rw [hrun]
  have h := (appends_concatSteps query b).decides hn fun v hv => by
    cases hv; exact zero_not_mem_requestText hq hb
  rwa [fitsAt_some, Nat.zero_add, Option.getD_some] at h

end LibXively.Builders
