import LibXively.Requests.RequestTarget

/-!
The path of a datapoint.

The builder of a datastream answers with the length of the last segment it has printed, and the
builder of a datapoint takes that number for the end of the path.
-/

namespace LibXively.DatapointPath

open LibXively.Bytes LibXively.Decimal LibXively.CProc LibXively.CharArray LibXively.Structures
open LibXively.CsvData LibXively.HttpQueries LibXively.Append LibXively.Builders
open LibXively.FeedRequests LibXively.RequestTarget

/-- The path of the datapoints of a datastream, or of one of them. -/
def datapointPath (feedId : UInt32) (datastream : Text) (datapoint : Option Text) : Text :=
  lit "/" ++ digits feedId.toNat ++ lit "/datastreams/" ++ datastream ++ lit "/datapoints" ++
    segmentText datapoint

/-- What is left of the path of the datastream: as many bytes as its last segment has. -/
def cutPath (feedId : UInt32) (datastream : Text) : Text :=
  (datastreamPath feedId (some datastream)).take (lit "/" ++ datastream).length

/-- The path that is written. -/
def writtenPath (feedId : UInt32) (datastream : Text) (datapoint : Option Text) : Text :=
  cutPath feedId datastream ++ lit "/datapoints" ++ segmentText datapoint

variable {n : ℕ} {feedId : UInt32} {datastream : Text} {datapoint : Option Text}

/-! ### The builder -/

/-- The steps of `http_construct_datapoint` in front of the datapoint. -/
def pointsSteps (o : ℕ) : Proc XiErr (Buf n) ℕ := do
  let s ← httpConstructString (0 + o) (n - (0 : ℕ) - o) (some (lit "datapoints"))
  xiCheckS s (n - (0 : ℕ)) o .httpConstructRequestBufferOverrun

lemma appends_pointsSteps :
    Appends (n := n) 0 [] pointsSteps (some (lit "/datapoints")) :=
  (builds_httpConstructString (n := n) (lit "datapoints")).prints.appends 0 (by decide)

lemma length_cutPath (feedId : UInt32) (datastream : Text) :
    (cutPath feedId datastream).length = (lit "/" ++ datastream).length := by
  have hle : (lit "/" ++ datastream).length ≤
      (datastreamPath feedId (some datastream)).length := by
    rw [datastreamPath_eq]
    exact (List.suffix_append _ (segmentText (some datastream))).length_le
  rw [cutPath, List.length_take, Nat.min_eq_left hle]

/-- The steps of `http_construct_datapoint` up to the datapoint. -/
def frontSteps (feedId : UInt32) (datastream : Text) : Proc XiErr (Buf n) ℕ := do
  let s ← httpConstructDatastream (some feedId) (some datastream)
  let o ← xiCheckS s n 0 .httpConstructRequestBufferOverrun
  pointsSteps o

/-- They leave the datapoints behind what they take for the path of the datastream. -/
lemma frontSteps_spec (feedId : UInt32) (datastream : Text) (hn : 0 < n) :
    ((datastreamPath feedId (some datastream)).length < n ∧
        (cutPath feedId datastream ++ lit "/datapoints").length < n →
      Returns (fun _ : Buf n => True) (frontSteps feedId datastream)
        (cutPath feedId datastream ++ lit "/datapoints").length none
        (Starts (cutPath feedId datastream ++ lit "/datapoints" ++ [0]))) ∧
    (¬ ((datastreamPath feedId (some datastream)).length < n ∧
        (cutPath feedId datastream ++ lit "/datapoints").length < n) →
      ∃ (x : XiErr) (Q : Buf n → Prop), x ≠ .noErr ∧
        Leaves (fun _ => True) (frontSteps feedId datastream) (some x) Q) := by
  obtain ⟨hstream, hstreamOver⟩ := httpConstructDatastream_answer (n := n) feedId (some datastream)
    hn
  by_cases hpath : (datastreamPath feedId (some datastream)).length < n
  · have hcut := length_cutPath feedId datastream
    have hanswer : segmentAnswer (datastreamPath feedId none) (some datastream) =
        (cutPath feedId datastream).length := by rw [hcut]; rfl
    have hlt : (cutPath feedId datastream).length < n :=
      lt_of_le_of_lt (List.length_take_le' _ _) hpath
    -- the front of the path is all that is left of it
    have hfront : Returns (fun _ : Buf n => True)
        (httpConstructDatastream (some feedId) (some datastream))
        ((cutPath feedId datastream).length : ℤ) none (Starts (cutPath feedId datastream)) := by
      rw [← hanswer]
      exact (hstream hpath).mono (fun _ h => h) fun b hb =>
        (List.take_prefix _ _).trans (Starts.of_append hb)
    have hcheck := returns_checkS (x := .httpConstructRequestBufferOverrun)
      (by omega : 0 ≤ ((cutPath feedId datastream).length : ℤ) ∧
        ((cutPath feedId datastream).length : ℤ) < n - (0 : ℕ))
      (Starts (n := n) (cutPath feedId datastream))
    rw [Nat.zero_add, Int.toNat_natCast] at hcheck
    obtain ⟨hfit, hover⟩ := appends_pointsSteps (n := n) (cutPath feedId datastream).length
      (cutPath feedId datastream) (Nat.zero_add _).symm (by omega)
    rw [List.append_nil, Nat.zero_add] at hfit hover
    rw [List.length_append]
    refine ⟨fun ⟨_, hlt⟩ => ?_, fun hno => ?_⟩
    · exact hfront.seq (hcheck.seq (hfit _ rfl hlt))
    · rw [fitsAt_some] at hover
      obtain ⟨x, Q, hx, hl⟩ := hover fun hlt => hno ⟨hpath, hlt⟩
      exact ⟨x, Q, hx, hfront.seqLeaves (hcheck.seqLeaves hl)⟩
  · obtain ⟨x, Q, hx, hr⟩ := hstreamOver hpath
    have hcheck := leaves_checkS (x := .httpConstructRequestBufferOverrun)
      (by omega : (n : ℤ) - (0 : ℕ) ≤ -1 ∨ (-1 : ℤ) < 0) Q
    exact ⟨fun h => absurd h.1 hpath, fun _ => ⟨_, Q, by decide, hr.seqFails hcheck.bind⟩⟩

/-- The builder of a datapoint writes its own path, if there is room for it and for the path of
the datastream. -/
lemma httpConstructDatapoint_spec (feedId : UInt32) (datastream : Text) (datapoint : Option Text)
    (hn : 0 < n) :
    BuildsIf (n := n) (httpConstructDatapoint (some feedId) (some datastream) datapoint)
      ((datastreamPath feedId (some datastream)).length < n ∧
        (writtenPath feedId datastream datapoint).length < n)
      (writtenPath feedId datastream datapoint) := by
  obtain ⟨hfit, hover⟩ := frontSteps_spec (n := n) feedId datastream hn
  obtain ⟨hdone, hfailed⟩ := @lastSegment_spec n _ _ _ datapoint (fun h => ⟨h.2, hfit h⟩) hover
  have hrun : httpConstructDatapoint (n := n) (some feedId) (some datastream) datapoint =
      errHandling (-1) (frontSteps feedId datastream >>= lastSegment datapoint) := by
    show _ = errHandling (-1) (frontSteps feedId datastream >>= fun (o : ℕ) =>
      datapoint.elim (pure (o : ℤ)) fun id => httpConstructString o (n - o) (some id))
    cases datapoint <;> simp [httpConstructDatapoint, frontSteps, pointsSteps]
  have hcond : (datastreamPath feedId (some datastream)).length < n ∧
      (writtenPath feedId datastream datapoint).length < n →
        ((datastreamPath feedId (some datastream)).length < n ∧
          (cutPath feedId datastream ++ lit "/datapoints").length < n) ∧
            (writtenPath feedId datastream datapoint).length < n := by
    rintro ⟨hpath, hlt⟩
    have hle := (List.prefix_append (cutPath feedId datastream ++ lit "/datapoints")
      (segmentText datapoint)).length_le
    exact ⟨⟨hpath, lt_of_le_of_lt hle hlt⟩, hlt⟩
  rw [hrun]
  refine ⟨fun h => ?_, fun hno => hfailed fun h => hno ⟨h.1.1, h.2⟩⟩
  have hends := segmentAnswer_lt h.2
  exact ⟨_, hends.1, hends.2, hdone (hcond h)⟩

/-! ### The request -/

variable {tg : Target}

/-- The texts of a request for a datapoint, as they are written, fit their buffers. -/
structure WrittenFits (tg : Target) (method : CString) (feedId : UInt32) (datastream : CString)
    (datapoint : Option CString) (apiKey : CString) : Prop where
  stream : (datastreamPath feedId (some datastream.bytes)).length < tg.idBufferSize
  path : (writtenPath feedId datastream.bytes (datapoint.map CString.bytes)).length <
    tg.idBufferSize
  query : (queryText tg method.bytes
    (writtenPath feedId datastream.bytes (datapoint.map CString.bytes)) [] apiKey).length <
      tg.queryBufferSize

/-- A request that is returned is the one for the path of the datapoint, and null is returned with
an error exactly if that path or that request does not fit. -/
structure PathAssembled (tg : Target) (method : CString) (feedId : UInt32) (datastream : CString)
    (datapoint : Option CString) (apiKey : CString) : Prop where
  path : ∀ e e' (l l' : Statics tg) t,
    httpConstructRequestDatapoint method.bytes feedId datastream.bytes
      (datapoint.map CString.bytes) apiKey e l = .ret (some t) e' l' →
    t = queryText tg method.bytes
      (datapointPath feedId datastream.bytes (datapoint.map CString.bytes)) [] apiKey
  null_iff : ∀ e (l : Statics tg), (∃ x l', x ≠ .noErr ∧
    httpConstructRequestDatapoint method.bytes feedId datastream.bytes
      (datapoint.map CString.bytes) apiKey e l = .ret none x l') ↔
    ¬ ((datapointPath feedId datastream.bytes (datapoint.map CString.bytes)).length <
        tg.idBufferSize ∧
      (queryText tg method.bytes
        (datapointPath feedId datastream.bytes (datapoint.map CString.bytes)) [] apiKey).length <
        tg.queryBufferSize)

lemma zero_not_mem_writtenPath (feedId : UInt32) (datastream : CString)
    (datapoint : Option CString) :
    0 ∉ writtenPath feedId datastream.bytes (datapoint.map CString.bytes) := by
  have hstream : ∀ t, some datastream.bytes = some t → (0 : Byte) ∉ t := by
    rintro t ⟨⟩
    exact datastream.noNul
  have hcut : (0 : Byte) ∉ cutPath feedId datastream.bytes := fun hmem =>
    zero_not_mem_datastreamPath feedId hstream (List.mem_of_mem_take hmem)
  have hlast : (0 : Byte) ∉ segmentText (datapoint.map CString.bytes) := by
    cases datapoint with
    | none => exact List.not_mem_nil
    | some datapoint =>
      rw [Option.map_some, segmentText, Option.elim_some, List.mem_append, not_or]
      exact ⟨by decide, datapoint.noNul⟩
  simp only [writtenPath, List.mem_append, not_or]
  exact ⟨⟨hcut, by decide⟩, hlast⟩

lemma decides_requestDatapoint (tg : Target) (method : CString) (feedId : UInt32)
    (datastream : CString) (datapoint : Option CString) (apiKey : CString) :
    Decides (httpConstructRequestDatapoint method.bytes feedId datastream.bytes
        (datapoint.map CString.bytes) apiKey : Request tg)
      (WrittenFits tg method feedId datastream datapoint apiKey)
      (queryText tg method.bytes
        (writtenPath feedId datastream.bytes (datapoint.map CString.bytes)) [] apiKey) := by
  have h := @decides_request tg _ _ _ _ none apiKey .httpConstructContentBufferOverrun
    (httpConstructDatapoint_spec feedId datastream.bytes (datapoint.map CString.bytes) tg.id_pos)
    method.noNul (zero_not_mem_writtenPath feedId datastream datapoint) (by simp) (by decide)
  exact h.congr ⟨fun ⟨⟨h1, h2⟩, h3⟩ => ⟨h1, h2, h3⟩, fun ⟨h1, h2, h3⟩ => ⟨⟨h1, h2⟩, h3⟩⟩

/-! ### Lengths -/

lemma length_queryText (method path suffix : Text) (apiKey : CString) :
    (queryText tg method path suffix apiKey).length =
      path.length + (queryText tg method [] suffix apiKey).length := by
  simp only [queryText, templateFeed, List.length_append, List.length_nil]
  omega

/-- The path of a datapoint goes on from the whole path of its datastream. -/
lemma datapointPath_eq (h31 : feedId.toNat < 2 ^ 31) (datastream : Text)
    (datapoint : Option Text) : datapointPath feedId datastream datapoint =
      datastreamPath feedId (some datastream) ++ lit "/datapoints" ++ segmentText datapoint := by
  have hstreams : lit "/datastreams/" = lit "/datastreams" ++ lit "/" := by decide
  rw [datapointPath, datastreamPath, feedPath, (fmtD_feedId feedId).mpr h31, hstreams,
    Option.elim_some]
  simp only [List.append_assoc]

/-- What is written is shorter than that. -/
lemma length_writtenPath_lt (h31 : feedId.toNat < 2 ^ 31) (datastream : Text)
    (datapoint : Option Text) : (writtenPath feedId datastream datapoint).length <
      (datapointPath feedId datastream datapoint).length := by
  have hfeed : 0 < (datastreamPath feedId none).length := by
    have hstreams : 0 < (lit "/datastreams").length := by decide
    simp only [datastreamPath, List.length_append]
    omega
  have hsplit := congrArg List.length (datastreamPath_eq feedId (some datastream))
  rw [List.length_append] at hsplit
  have hcut : (cutPath feedId datastream).length = (segmentText (some datastream)).length :=
    length_cutPath feedId datastream
  rw [datapointPath_eq h31, writtenPath]
  simp only [List.length_append]
  omega

/-- **Paths of datapoints**: the path of a datapoint is assembled as it should be exactly if no
request is returned, because a text that is written does not fit. -/
theorem pathAssembled_iff (tg : Target) (method : CString) (feedId : UInt32)
    (h31 : feedId.toNat < 2 ^ 31) (datastream : CString) (datapoint : Option CString)
    (apiKey : CString) : PathAssembled tg method feedId datastream datapoint apiKey ↔
      ¬ WrittenFits tg method feedId datastream datapoint apiKey := by
  have hdecides := decides_requestDatapoint tg method feedId datastream datapoint apiKey
  have hpath := length_writtenPath_lt h31 datastream.bytes (datapoint.map CString.bytes)
  have hwritten := @length_queryText tg method.bytes
    (writtenPath feedId datastream.bytes (datapoint.map CString.bytes)) [] apiKey
  have hexpected := @length_queryText tg method.bytes
    (datapointPath feedId datastream.bytes (datapoint.map CString.bytes)) [] apiKey
  constructor
  · intro h hfits
    obtain ⟨l', hret, -⟩ := hdecides.1 hfits .noErr (.fresh tg) trivial
    have hsame := congrArg List.length (h.path _ _ _ _ _ hret)
    omega
  · intro hno
    refine ⟨fun e e' l l' t hret => absurd (hdecides.some hret).1 hno, fun e l => ?_⟩
    obtain ⟨x, hx, hnull⟩ := hdecides.2 hno
    obtain ⟨l', hret, -⟩ := hnull e l trivial
    refine iff_of_true ⟨x, l', hx, hret⟩ fun ⟨hid, hquery⟩ => hno ?_
    refine ⟨?_, by omega, by omega⟩
    rw [datapointPath_eq h31, List.length_append, List.length_append] at hid
    omega

def deleteMethod : CString := ⟨lit "DELETE", by decide⟩

/-- With the sizes of `xi_config.h` a datastream id of sixty characters does not fit. -/
def longStream : CString := ⟨List.replicate 60 97, by decide⟩

theorem pathAssembled_long : PathAssembled posixConfig deleteMethod 1 longStream none smallKey :=
  (pathAssembled_iff posixConfig deleteMethod 1 (by decide) longStream none smallKey).mpr
    fun hfits => absurd hfits.stream (by decide +kernel)

/-- The points of datastream `a` of feed 1 are asked for as `/1/datapoints`. -/
theorem not_pathAssembled_small :
    ¬ PathAssembled posixConfig deleteMethod 1 smallId none smallKey := by
  intro h
  have hfits : WrittenFits posixConfig deleteMethod 1 smallId none smallKey :=
    ⟨by decide +kernel, by decide +kernel, by decide +kernel⟩
  obtain ⟨l', hret, -⟩ := (decides_requestDatapoint posixConfig deleteMethod 1 smallId none
    smallKey).1 hfits .noErr (.fresh posixConfig) trivial
  exact absurd (h.path _ _ _ _ _ hret) (by decide +kernel)

end LibXively.DatapointPath
