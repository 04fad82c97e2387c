import LibXively.Requests.Encoders

/-!
The two requests on a feed, and the result for all encoders.

The texts of these two are built by loops over the datastreams and, inside, the datapoints. One
round appends one line or one id, so a loop appends them one behind the other.
-/

namespace LibXively.FeedRequests

open LibXively.Bytes LibXively.Decimal LibXively.CProc LibXively.CharArray LibXively.XiTime
open LibXively.Gmtime LibXively.Structures LibXively.CsvData LibXively.HttpQueries
open LibXively.HttpTransport LibXively.Append LibXively.CsvText LibXively.Builders
open LibXively.Encoders

variable {tg : Target} {n : ℕ} {apiKey : CString}

/-! ### The loops -/

/-- One round of the inner loop appends the line of a datapoint. -/
lemma appends_updatePoint {id : Buf xiMaxDatastreamName} {p : XiDatapoint}
    (hid : 0 ∈ id.bytes) (hp : p.Readable) :
    Appends (n := n) 0 [] (updatePoint tg id p) (pointLine tg id p) := by
  obtain ⟨t, ht⟩ := exists_cstr hid
  have h1 : Appends (n := n) 0 [] (fun o => appendPiece o (t ++ lit ",") .httpEncodeUpdateFeed)
      (some (t ++ lit ",")) := appends_appendPiece _ (by decide)
  have h2 := ((builds_inPlace (n := n) tg hp).prints.appends 0
    (x := .httpEncodeUpdateFeed) (by decide)).congr (g := fun o => do
      let s ← csvEncodeDatapointInPlace tg o (max (n - o : ℤ) 0) p
      xiCheckS s n o .httpEncodeUpdateFeed) fun o ho => by
    have hmax : max ((n : ℤ) - o) 0 = n - o := by omega
    simp [hmax]
  have h := h1.andThen h2.weaken
  rw [pointLine, ht]
  refine h.congr fun o _ => ?_
  rw [updatePoint, ht]
  rfl

lemma appends_updateStream {d : XiDatastream} (hid : 0 ∈ d.datastreamId.bytes)
    (hcount : d.datapointCount ≤ xiMaxDatapoints)
    (hp : ∀ j : Fin xiMaxDatapoints, j.val < d.datapointCount → (d.datapoints j).Readable) :
    Appends (n := n) 0 [0] (updateStream tg d) (streamLines tg d) := by
  refine Appends.forFrom fun j _ hj => ?_
  have hj' : j < xiMaxDatapoints := by omega
  simp only [hj', dif_pos]
  exact (appends_updatePoint hid (hp ⟨j, hj'⟩ (by simpa using hj))).weaken

lemma appends_updateBody {feed : XiFeed} (hf : feed.Readable) :
    Appends (n := n) 0 [0] (fun o => forFrom (fun i offset =>
      if h : i < xiMaxDatastreams then updateStream tg (feed.datastreams ⟨i, h⟩) offset
      else crash .overrun) 0 feed.datastreamCount o) (feedLines tg feed) := by
  refine Appends.forFrom fun i _ hi => ?_
  have hi0 : i < feed.datastreamCount := by simpa using hi
  have hi' : i < xiMaxDatastreams := lt_of_lt_of_le hi0 hf.streams
  simp only [hi', dif_pos]
  exact appends_updateStream (hf.ids ⟨i, hi'⟩ hi0) (hf.points ⟨i, hi'⟩ hi0)
    fun j hj => hf.values ⟨i, hi'⟩ j hi0 hj

lemma appends_getSuffix {feed : XiFeed} (hf : feed.Readable) :
    Appends (n := n) 0 [0] (fun o => forFrom (fun i offset =>
      if h : i < xiMaxDatastreams then do
        let id ← orCrash (cstr (feed.datastreams ⟨i, h⟩).datastreamId) .overread
        appendPiece offset ((if i = 0 then lit "?datastreams=" else lit ",") ++ id)
          .httpEncodeUpdateFeed
      else crash .overrun) 0 feed.datastreamCount o) (feedSuffix feed) := by
  refine Appends.forFrom fun i _ hi => ?_
  have hi0 : i < feed.datastreamCount := by simpa using hi
  have hi' : i < xiMaxDatastreams := lt_of_lt_of_le hi0 hf.streams
  obtain ⟨t, ht⟩ := exists_cstr (hf.ids ⟨i, hi'⟩ hi0)
  simp only [hi', dif_pos, ht]
  exact (appends_appendPiece ((if i = 0 then lit "?datastreams=" else lit ",") ++ t)
    (by decide)).weaken

/-! ### The bytes of the texts -/

/-- Texts without a NUL make a text without one. -/
lemma zero_not_mem_cats {u : ℕ → Option Text} (hu : ∀ i v, u i = some v → (0 : Byte) ∉ v)
    {i k : ℕ} {v : Text} (h : cats u i k = some v) : (0 : Byte) ∉ v :=
  cats_closed (P := fun v => (0 : Byte) ∉ v) (by simp)
    (fun _ _ ha hb => by rw [List.mem_append, not_or]; exact ⟨ha, hb⟩)
    (fun i v _ _ hv => hu i v hv) h

lemma zero_not_mem_feedLines {feed : XiFeed} {v : Text} (h : feedLines tg feed = some v) :
    (0 : Byte) ∉ v := by
  refine zero_not_mem_cats (fun i v hv => ?_) h
  split at hv
  · refine zero_not_mem_cats (fun j v hv => ?_) hv
    split at hv
    · obtain ⟨a, b, ha, hb, rfl⟩ := cat_eq_some hv
      obtain ⟨t, ht, rfl⟩ := Option.map_eq_some_iff.mp ha
      simp only [List.mem_append, not_or]
      exact ⟨⟨zero_not_mem_of_cstr ht, by decide⟩, zero_not_mem_datapointText tg hb⟩
    · cases hv
  · cases hv

lemma zero_not_mem_feedSuffix {feed : XiFeed} {v : Text} (h : feedSuffix feed = some v) :
    (0 : Byte) ∉ v := by
  refine zero_not_mem_cats (fun i v hv => ?_) h
  split at hv
  · obtain ⟨t, ht, rfl⟩ := Option.map_eq_some_iff.mp hv
    rw [List.mem_append, not_or]
    exact ⟨by split <;> decide, zero_not_mem_of_cstr ht⟩
  · cases hv

/-! ### The requests -/

/-- What a request for a feed does not write. -/
lemma keeps_requestFeed (method : Text) (feedId : Option UInt32) (suffix : Option Text) :
    Keeps (fun l : Statics tg => l.httpQueryData)
      (httpConstructRequestFeed method feedId apiKey suffix) := by
  have hid (m : Proc XiErr (Buf tg.idBufferSize) ℤ) :
      Keeps (fun l : Statics tg => l.httpQueryData) (onIdBuffer m) :=
    Keeps.focus (by intros; rfl) m
  have hread : Keeps (fun l : Statics tg => l.httpQueryData) (onIdBuffer readStr) :=
    Keeps.focus (by intros; rfl) _
  have hquery {α : Type} (m : Proc XiErr (Buf tg.queryBufferSize) α) :
      Keeps (fun l : Statics tg => l.httpQueryData) (onQueryBuffer m) :=
    Keeps.focus (by intros; rfl) m
  refine Keeps.errHandling ((hid _).bind fun s => (Keeps.checkCnd _ _).bind fun _ => ?_) none
  exact Keeps.errHandling (hread.bind fun id => (hquery _).bind fun s =>
    (Keeps.checkCnd _ _).bind fun _ => (hquery _).bind fun t => Keeps.pure _) none

/-- The buffer of the query data is cleared in front of a loop. -/
lemma clear_spec : Returns (fun _ => True) (onHttpQueryData (modify fun _ => zero _)) () none
    fun l : Statics tg => Starts ([] ++ [0]) l.httpQueryData :=
  fun _ _ _ => ⟨_, rfl, starts_zero tg.content_pos⟩

/-- What is in the buffer behind it is read back. -/
lemma queryData_spec {u : Text} (h0 : 0 ∉ u) :
    Returns (fun l : Statics tg => Starts (u ++ [0]) l.httpQueryData) (onHttpQueryData readStr) u
      none fun _ => True :=
  ((returns_readStr h0).focus fun _ _ => rfl).mono (fun _ h => h) fun _ _ => trivial

/-- A request head that must be there, and what follows it, behind statements that leave the error
variable alone. -/
lemma decides_behind {α : Type} {k : Proc XiErr (Statics tg) α} {a : α}
    {m : α → Request tg} {f : α → Text → Request tg} {c d : Prop} {v u : Text}
    {P : Statics tg → Prop} (hk : Returns (fun _ => True) k a none P)
    (hm : (c → Returns P (m a) (some v) none P) ∧
      (¬ c → ∃ x, x ≠ .noErr ∧ Returns P (m a) none (some x) P))
    (hf : (d → Returns P (f a v) (some u) none fun _ => True) ∧
      (¬ d → ∃ x, x ≠ .noErr ∧ Returns P (f a v) none (some x) fun _ => True)) :
    Decides (errHandling none (k >>= fun a => m a >>= fun r => orJump r >>= f a)) (c ∧ d) u := by
  refine ⟨fun ⟨hc, hd⟩ => ?_, fun hno => ?_⟩
  · exact (hk.seq ((hm.1 hc).seq ((Returns.orJump v P).seq (hf.1 hd)))).errHandling none
  · by_cases hc : c
    · obtain ⟨x, hx, hy⟩ := hf.2 fun hd => hno ⟨hc, hd⟩
      exact ⟨x, hx, (hk.seq ((hm.1 hc).seq ((Returns.orJump v P).seq hy))).errHandling none⟩
    · obtain ⟨x, hx, hy⟩ := hm.2 hc
      have hl : Leaves P (m a >>= fun r => orJump r >>= f a) (some x) P :=
        hy.seqJump (Leaves.orJump P).bind
      exact ⟨x, hx, ((hk.seqLeaves hl).errHandling none).yields fun _ => trivial⟩

/-- A function that answers on every object does so where the query data is known, and leaves
them. -/
lemma Decides.known {m : Request tg} {c : Prop} {v : Text} (h : Decides m c v)
    (hk : Keeps (fun l : Statics tg => l.httpQueryData) m)
    (R : Buf tg.contentBufferSize → Prop) :
    (c → Returns (fun l => R l.httpQueryData) m (some v) none fun l => R l.httpQueryData) ∧
      (¬ c → ∃ x, x ≠ .noErr ∧
        Returns (fun l => R l.httpQueryData) m none (some x) fun l => R l.httpQueryData) := by
  refine ⟨fun hc => ((h.1 hc).frame hk R).mono (fun _ h => ⟨trivial, h⟩) fun _ h => h.2,
    fun hc => ?_⟩
  obtain ⟨x, hx, hy⟩ := h.2 hc
  exact ⟨x, hx, (Returns.frame hy hk R).mono (fun _ h => ⟨trivial, h⟩) fun _ h => h.2⟩

lemma decides_getFeed (h56 : 56 ≤ tg.contentBufferSize) {feed : XiFeed} (hf : feed.Readable) :
    Decides (EncodeCall.encode tg apiKey (.getFeed feed))
      (EncodeCall.Fits tg apiKey (.getFeed feed))
      (EncodeCall.text tg apiKey (.getFeed feed)) := by
  obtain ⟨hfit, hover⟩ := appends_getSuffix (n := tg.contentBufferSize) hf 0 [] rfl
    (by simpa using tg.content_pos)
  rw [fits_iff h56]
  simp only [EncodeCall.encode, EncodeCall.text, EncodeCall.query, EncodeCall.suffix,
    EncodeCall.path, EncodeCall.method, EncodeCall.body, EncodeCall.front, EncodeCall.staged,
    Option.bind_some, Option.mem_def, Option.some.injEq, forall_eq']
  by_cases hfits : FitsAt tg.contentBufferSize 0 (feedSuffix feed)
  · obtain ⟨suffix, hsuffix, hlt⟩ := hfits
    have h0 := zero_not_mem_feedSuffix hsuffix
    have hquery : Decides (httpConstructRequestFeed (lit "GET") (some feed.feedId) apiKey
      (some suffix) : Request tg) _ _ := decides_requestFeed feed.feedId (by decide) h0
    have hconcat : Decides (onHttpQueryBuffer (httpEncodeConcat (queryText tg (lit "GET")
        (feedPath feed.feedId) suffix apiKey) none none) : Request tg) _ _ :=
      decides_concatBare (zero_not_mem_queryText apiKey (by decide) (zero_not_mem_feedPath _) h0)
    have hfront : Returns (fun _ => True) (do
        onHttpQueryData (modify fun _ => zero _)
        let _ ← onHttpQueryData (getSuffix feed)
        onHttpQueryData readStr : Proc XiErr (Statics tg) Text) suffix none fun _ => True :=
      clear_spec.seq (((hfit suffix hsuffix hlt).focus fun _ _ => rfl).seq (queryData_spec h0))
    have h := decides_behind (m := fun suffix => httpConstructRequestFeed (lit "GET")
      (some feed.feedId) apiKey (some suffix))
      (f := fun _ query => onHttpQueryBuffer (httpEncodeConcat query none none))
      hfront hquery hconcat
    simp only [bind_assoc] at h
    rw [hsuffix, Option.getD_some, httpEncodeGetFeed]
    exact h.congr (and_iff_right (fitsAt_some.mpr hlt)).symm
  · obtain ⟨x, Q, hx, hl⟩ := hover hfits
    have hloop : Leaves _ (onHttpQueryData (getSuffix feed) : Proc XiErr (Statics tg) ℕ) _ _ :=
      hl.focus fun _ _ => rfl
    exact ⟨fun h => absurd h.1 hfits, fun _ => ⟨x, hx,
      ((clear_spec.seqLeaves hloop.bind).errHandling none).yields fun _ => trivial⟩⟩

lemma decides_updateFeed (h56 : 56 ≤ tg.contentBufferSize) {feed : XiFeed}
    (hf : feed.Readable) :
    Decides (EncodeCall.encode tg apiKey (.updateFeed feed))
      (EncodeCall.Fits tg apiKey (.updateFeed feed))
      (EncodeCall.text tg apiKey (.updateFeed feed)) := by
  obtain ⟨hfit, hover⟩ := appends_updateBody (n := tg.contentBufferSize) hf 0 [] rfl
    (by simpa using tg.content_pos)
  rw [fits_iff h56]
  simp only [EncodeCall.encode, EncodeCall.text, EncodeCall.query, EncodeCall.suffix,
    EncodeCall.path, EncodeCall.method, EncodeCall.body, EncodeCall.front, EncodeCall.staged,
    Option.bind_some, Option.mem_def, Option.some.injEq, forall_eq']
  by_cases hfits : FitsAt tg.contentBufferSize 0 (feedLines tg feed)
  · obtain ⟨data, hdata, hlt⟩ := hfits
    have h0 := zero_not_mem_feedLines hdata
    have hq0 : (0 : Byte) ∉ queryText tg (lit "PUT") (feedPath feed.feedId) [] apiKey :=
      zero_not_mem_queryText apiKey (by decide) (zero_not_mem_feedPath _) (by simp)
    have hfront : Returns (fun _ => True) (do
        onHttpQueryData (modify fun _ => zero _)
        onHttpQueryData (updateBody tg feed) : Proc XiErr (Statics tg) ℕ) (0 + data.length) none
        fun l => Starts (data ++ [0]) l.httpQueryData :=
      clear_spec.seq ((hfit data hdata hlt).focus fun _ _ => rfl)
    have hquery : Decides (httpConstructRequestFeed (lit "PUT") (some feed.feedId) apiKey none :
      Request tg) _ _ := decides_requestFeed feed.feedId (by decide) (by simp)
    have hconcat : Decides (concatBody (queryText tg (lit "PUT") (feedPath feed.feedId) [] apiKey)
      data : Request tg) _ _ := decides_concatBody h56 hq0 h0
    have h := decides_behind
      (m := fun _ => httpConstructRequestFeed (lit "PUT") (some feed.feedId) apiKey none)
      (f := fun _ query => do
        let data ← onHttpQueryData readStr
        concatBody query data)
      hfront (Decides.known hquery (keeps_requestFeed _ _ _) (Starts (data ++ [0])))
      ⟨fun hc => (queryData_spec h0).seq (hconcat.1 hc), fun hc => by
        obtain ⟨x, hx, hy⟩ := hconcat.2 hc
        exact ⟨x, hx, (queryData_spec h0).seq hy⟩⟩
    simp only [bind_assoc] at h
    rw [hdata, Option.getD_some, httpEncodeUpdateFeed]
    exact h.congr (and_iff_right (fitsAt_some.mpr hlt)).symm
  · obtain ⟨x, Q, hx, hl⟩ := hover hfits
    have hloop : Leaves _ (onHttpQueryData (updateBody tg feed) : Proc XiErr (Statics tg) ℕ) _ _ :=
      hl.focus fun _ _ => rfl
    exact ⟨fun h => absurd h.1 hfits, fun _ => ⟨x, hx,
      ((clear_spec.seqLeaves hloop.bind).errHandling none).yields fun _ => trivial⟩⟩

/-! ### All encoders -/

lemma encode_decides (h56 : 56 ≤ tg.contentBufferSize) {c : EncodeCall} (hc : c.Readable) :
    Decides (c.encode tg apiKey) (c.Fits tg apiKey) (c.text tg apiKey) := by
  cases c with
  | createDatastream feedId id p => exact decides_create h56 hc id
  | updateDatastream feedId id p => exact decides_update h56 hc id
  | getDatastream feedId id => exact decides_get h56 id
  | deleteDatastream feedId id => exact decides_delete h56 id
  | deleteDatapoint feedId id o => exact decides_deleteDatapoint h56 id o
  | updateFeed feed => exact decides_updateFeed h56 hc
  | getFeed feed => exact decides_getFeed h56 hc
  | datapointDeleteRange feedId id start end_ =>
    obtain ⟨hs, he⟩ := hc
    obtain ⟨s, rfl⟩ := Option.isSome_iff_exists.mp hs
    obtain ⟨t, rfl⟩ := Option.isSome_iff_exists.mp he
    exact decides_deleteRange h56 id s t

/-- What an encoder returns, if it returns a request. -/
lemma encode_some (h56 : 56 ≤ tg.contentBufferSize) {c : EncodeCall} (hc : c.Readable)
    {e e' : XiErr} {l l' : Statics tg} {t : Text}
    (h : c.encode tg apiKey e l = .ret (some t) e' l') :
    c.Fits tg apiKey ∧ t = c.text tg apiKey :=
  (@encode_decides tg apiKey h56 c hc).some h

def smallId : CString := ⟨lit "a", by decide⟩

def smallKey : CString := ⟨lit "k", by decide⟩

/-- A request that puts the integer 0 into a datastream. -/
def smallPut : EncodeCall := .updateDatastream 1 smallId .zero

lemma readable_smallPut : smallPut.Readable := fun hstr => absurd hstr (by decide)

lemma fits_smallPut : smallPut.Fits posixConfig smallKey where
  staged := by
    rintro _ ⟨⟩
    exact ⟨_, rfl, by decide⟩
  path := by decide
  query := by decide +kernel
  content := by decide
  text := by decide +kernel

end LibXively.FeedRequests
