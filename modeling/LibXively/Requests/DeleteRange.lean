import LibXively.Decoding.Stamps
import LibXively.Requests.RequestTarget

/-!
The deletion of a range of datapoints.

The encoder reads both bounds in front of the tests for them. What it prints is used as the id of a
datastream: the template of the request puts its `.csv` behind the query instead of the path.
-/

namespace LibXively.DeleteRange

open LibXively.Bytes LibXively.Decimal LibXively.CProc LibXively.CharArray LibXively.Gregorian
open LibXively.Gmtime LibXively.Structures LibXively.HttpQueries LibXively.HttpTransport
open LibXively.Append LibXively.CsvText LibXively.Builders LibXively.Encoders
open LibXively.FeedRequests LibXively.Framing LibXively.StartLine LibXively.RequestFraming
open LibXively.RequestTarget LibXively.Stamps

section Bounds

variable (tg : Target)

/-- The bounds that are there, as fields of a query. -/
def boundFields (start end_ : Option XiTimestamp) : List (Text × Text) :=
  (start.map fun t => (lit "start", instantText tg t)).toList ++
    (end_.map fun t => (lit "end", instantText tg t)).toList

/-- The request for the deletion of what a query says. -/
def rangeRequest (apiKey : CString) (feedId : UInt32) (id : CString) (query : Text) : Text :=
  requestText (queryText tg (lit "DELETE")
    (datastreamPath feedId (some (id.bytes ++ lit "/datapoints?" ++ query))) [] apiKey) none

/-- An absent bound is not read. With a bound, any request that is returned is the one for the
bounds that are there, and without one none is returned. -/
structure OptionalBounds (apiKey : CString) (feedId : UInt32) (id : CString)
    (start end_ : Option XiTimestamp) : Prop where
  guarded : ∀ e (l : Statics tg),
    httpEncodeDatapointDeleteRange apiKey feedId id start end_ e l ≠ .fault .nullPointer
  carried : start.isSome ∨ end_.isSome → ∀ e e' (l l' : Statics tg) t,
    httpEncodeDatapointDeleteRange apiKey feedId id start end_ e l = .ret (some t) e' l' →
      t = rangeRequest tg apiKey feedId id (renderQuery (boundFields tg start end_))
  refused : start = none → end_ = none → ∀ e (l : Statics tg), ∃ l',
    httpEncodeDatapointDeleteRange apiKey feedId id start end_ e l =
      .ret none .httpEncodeDeleteRangeDatapoint l'

/-- The texts of the deletion fit their buffers. -/
structure RangeFits (apiKey : CString) (feedId : UInt32) (id : CString)
    (start end_ : XiTimestamp) : Prop where
  target : (rangeTarget tg id start end_).length < tg.queryBufferSize + tg.contentBufferSize
  path : (datastreamPath feedId (some (rangeTarget tg id start end_))).length < tg.idBufferSize
  query : (queryText tg (lit "DELETE") (datastreamPath feedId
    (some (rangeTarget tg id start end_))) [] apiKey).length < tg.queryBufferSize
  text : (requestText (queryText tg (lit "DELETE") (datastreamPath feedId
    (some (rangeTarget tg id start end_))) [] apiKey) none).length <
      tg.queryBufferSize + tg.contentBufferSize

end Bounds

variable {tg : Target} {apiKey : CString} {feedId : UInt32} {id : CString}

/-! ### Both bounds -/

lemma rangeTarget_eq (id : CString) (start end_ : XiTimestamp) : rangeTarget tg id start end_ =
    id.bytes ++ lit "/datapoints?" ++ renderQuery (boundFields tg (some start) (some end_)) := by
  have hstart : lit "/datapoints?start=" = lit "/datapoints?" ++ (lit "start" ++ [61]) := by decide
  have hend : lit "&end=" = 38 :: (lit "end" ++ [61]) := by decide
  rw [rangeTarget, hstart, hend]
  simp [renderQuery, boundFields, List.intercalate]

lemma decides_range (apiKey : CString) (feedId : UInt32) (id : CString)
    (start end_ : XiTimestamp) :
    Decides (httpEncodeDatapointDeleteRange apiKey feedId id (some start) (some end_) : Request tg)
      (RangeFits tg apiKey feedId id start end_)
      (rangeRequest tg apiKey feedId id
        (renderQuery (boundFields tg (some start) (some end_)))) := by
  have hsteps : Decides (targetSteps (rangeTarget tg id start end_) apiKey feedId
      .httpEncodeDeleteRangeDatapoint : Request tg) _ _ :=
    decides_targetSteps (zero_not_mem_rangeTarget id start end_) (by decide)
  have h := hsteps.errHandling
  rw [← deleteRange_eq, fitsAt_some, Nat.zero_add] at h
  rw [rangeRequest, ← rangeTarget_eq]
  exact h.congr ⟨fun ⟨h1, ⟨h2, h3⟩, h4⟩ => ⟨h1, h2, h3, h4⟩,
    fun ⟨h1, h2, h3, h4⟩ => ⟨h1, ⟨h2, h3⟩, h4⟩⟩

/-- A bound that is not there is read all the same. -/
lemma deleteRange_absent {start end_ : Option XiTimestamp} (h : start = none ∨ end_ = none)
    (e : XiErr) (l : Statics tg) :
    httpEncodeDatapointDeleteRange apiKey feedId id start end_ e l = .fault .nullPointer := by
  have hnone (e : XiErr) (l : Statics tg) : boundTime tg none e l = .fault .nullPointer := rfl
  cases start with
  | none =>
    refine errHandling_fault none ?_
    rw [bind_fault (hnone e l)]
  | some start =>
    obtain rfl : end_ = none := h.resolve_left (by simp)
    obtain ⟨stm, hstm⟩ := xiGmtime_isSome tg.longBits start.timestamp
    have hstart : boundTime tg (some start) e l = .ret stm e l := by simp [boundTime, hstm]
    refine errHandling_fault none ?_
    rw [bind_ret hstart, bind_fault (hnone e l)]

/-- **Optional bounds**: a deletion of a range keeps to the bounds that are there exactly if both
are. -/
theorem optionalBounds_iff (tg : Target) (apiKey : CString) (feedId : UInt32) (id : CString)
    (start end_ : Option XiTimestamp) :
    OptionalBounds tg apiKey feedId id start end_ ↔ start.isSome ∧ end_.isSome := by
  constructor
  · intro h
    by_contra habsent
    have hnone : start = none ∨ end_ = none := by
      rw [not_and_or, Option.not_isSome_iff_eq_none, Option.not_isSome_iff_eq_none] at habsent
      exact habsent
    exact h.guarded .noErr (.fresh tg) (deleteRange_absent hnone _ _)
  · rintro ⟨hstart, hend⟩
    obtain ⟨s, rfl⟩ := Option.isSome_iff_exists.mp hstart
    obtain ⟨t, rfl⟩ := Option.isSome_iff_exists.mp hend
    have hrange := @decides_range tg apiKey feedId id s t
    refine ⟨fun e l hfault => ?_, fun _ e e' l l' u hret => (hrange.some hret).2,
      fun hs => by cases hs⟩
    obtain ⟨a, e', l', hret⟩ := hrange.returns e l
    rw [hfault] at hret
    cases hret

/-- The first instant of 2014. -/
def newYear : XiTimestamp := ⟨1388534400, 0⟩

/-- Neither an only start, nor an only end, nor a call without bounds comes back. -/
theorem not_optionalBounds_absent :
    ¬ OptionalBounds posixConfig smallKey 1 smallId (some newYear) none ∧
    ¬ OptionalBounds posixConfig smallKey 1 smallId none (some newYear) ∧
    ¬ OptionalBounds posixConfig smallKey 1 smallId none none :=
  ⟨fun h => h.guarded .noErr (.fresh _) (deleteRange_absent (.inr rfl) _ _),
    fun h => h.guarded .noErr (.fresh _) (deleteRange_absent (.inl rfl) _ _),
    fun h => h.guarded .noErr (.fresh _) (deleteRange_absent (.inl rfl) _ _)⟩

/-! ### The target -/

/-- The datapoints of a datastream. -/
def pointsResource (feedId : UInt32) (id : CString) : Text :=
  feedResource feedId ++ lit "/datastreams/" ++ id.bytes ++ lit "/datapoints"

/-- A query gives a bound that is there its instant. -/
def GivesBound (name : Text) (bound : Option XiTimestamp) (query : Text) : Prop :=
  ∀ b ∈ bound, ∃ x : Moment, x.seconds = b.timestamp ∧
    (queryFields query).lookup name = some (isoText x b.micro.toNat)

/-- The target of a request is the datapoints of a datastream, with or without the suffix of a
path, and its query gives the bounds. -/
def NamesRange (feedId : UInt32) (id : CString) (start end_ : Option XiTimestamp) (t : Text) :
    Prop :=
  ∃ r query, (firstLine t).bind readRequestLine = some r ∧ r.query = some query ∧
    (r.path = pointsResource feedId id ∨ r.path = pointsResource feedId id ++ lit ".csv") ∧
    GivesBound (lit "start") start query ∧ GivesBound (lit "end") end_ query

/-- Every request that is returned names the range. -/
def RangeTargeted (tg : Target) (apiKey : CString) (feedId : UInt32) (id : CString)
    (start end_ : Option XiTimestamp) : Prop :=
  ∀ e e' (l l' : Statics tg) t,
    httpEncodeDatapointDeleteRange apiKey feedId id start end_ e l = .ret (some t) e' l' →
      NamesRange feedId id start end_ t

variable {start end_ : XiTimestamp}

lemma not_mem_instantText (t : XiTimestamp) {c : Byte}
    (h : isDigit c = false ∧ c ∉ lit "-T:.Z") : c ∉ instantText tg t := by
  obtain ⟨tm, htm⟩ := xiGmtime_isSome tg.longBits t.timestamp
  rw [instantText, htm, Option.elim_some]
  intro hmem
  rcases of_mem_timestampText hmem with hdigit | hmark
  · rw [h.1] at hdigit
    cases hdigit
  · exact h.2 hmark

/-- The fields as they stand in the target: the suffix of the path is behind the last one. -/
def sentFields (tg : Target) (start end_ : XiTimestamp) : List (Text × Text) :=
  [(lit "start", instantText tg start), (lit "end", instantText tg end_ ++ lit ".csv")]

lemma renderQuery_sent (start end_ : XiTimestamp) :
    renderQuery (boundFields tg (some start) (some end_)) ++ lit ".csv" =
      renderQuery (sentFields tg start end_) := by
  simp [renderQuery, boundFields, sentFields, List.intercalate]

lemma queryFields_sent (start end_ : XiTimestamp) :
    queryFields (renderQuery (sentFields tg start end_)) = sentFields tg start end_ := by
  have h38 (t : XiTimestamp) : 38 ∉ instantText tg t := not_mem_instantText t (by decide)
  have hstart : 61 ∉ lit "start" ∧ 38 ∉ lit "start" := by decide
  have hend : 61 ∉ lit "end" ∧ 38 ∉ lit "end" := by decide
  refine queryFields_render (by simp [sentFields]) fun f hf => ?_
  simp only [sentFields, List.mem_cons, List.not_mem_nil, or_false] at hf
  rcases hf with rfl | rfl
  · exact ⟨hstart.1, hstart.2, h38 start⟩
  · refine ⟨hend.1, hend.2, ?_⟩
    rw [List.mem_append, not_or]
    exact ⟨h38 end_, by decide⟩

/-- What the first line of a deletion is read as. -/
lemma readRequestLine_range (hid : NameText id.bytes) (start end_ : XiTimestamp) :
    (firstLine (rangeRequest tg apiKey feedId id
      (renderQuery (boundFields tg (some start) (some end_))))).bind readRequestLine =
        some ⟨lit "DELETE", printedPath feedId (lit "/datastreams/" ++ id.bytes ++
          lit "/datapoints"), some (renderQuery (sentFields tg start end_))⟩ := by
  let c : EncodeCall := .datapointDeleteRange feedId id (some start) (some end_)
  have htext : rangeRequest tg apiKey feedId id
      (renderQuery (boundFields tg (some start) (some end_))) = c.text tg apiKey := by
    rw [rangeRequest, ← rangeTarget_eq]
    rfl
  have honeLine : HeadOneLine c := oneLine_of_not_mem (not_mem_of_nameText hid (.inl rfl))
  have hrest : 32 ∉ lit "/datastreams/" ++ id.bytes ++ lit "/datapoints" ∧
      63 ∉ lit "/datastreams/" ++ id.bytes ++ lit "/datapoints" := by
    simp only [List.mem_append, not_or]
    exact ⟨⟨⟨by decide, not_mem_of_nameText hid (.inr (.inl rfl))⟩, by decide⟩,
      ⟨⟨by decide, not_mem_of_nameText hid (.inr (.inr rfl))⟩, by decide⟩⟩
  have hquery : 32 ∉ (some (renderQuery (sentFields tg start end_))).getD [] := by
    have h32 (t : XiTimestamp) : 32 ∉ instantText tg t := not_mem_instantText t (by decide)
    have hlits : 32 ∉ lit "start" ∧ 32 ∉ lit "end" ∧ 32 ∉ lit ".csv" := by decide
    simp [renderQuery, sentFields, List.intercalate, h32, hlits]
  have hline : requestLine c.method (c.path tg) (c.suffix tg) = lit "DELETE" ++
      32 :: (renderTarget (printedPath feedId (lit "/datastreams/" ++ id.bytes ++
        lit "/datapoints")) (some (renderQuery (sentFields tg start end_))) ++
          32 :: lit "HTTP/1.1") := by
    have hpath : lit "/v2/feeds" ++ c.path tg ++ lit ".csv" = printedPath feedId
        (lit "/datastreams/" ++ id.bytes ++ lit "/datapoints") ++
          63 :: renderQuery (sentFields tg start end_) := by
      have hmark : lit "/datapoints?" = lit "/datapoints" ++ [63] := by decide
      have hprinted := printed_datastream feedId (rangeTarget tg id start end_)
      rw [rangeTarget_eq, hmark] at hprinted
      rw [← renderQuery_sent]
      simpa [printedPath, c, EncodeCall.path, EncodeCall.front, EncodeCall.staged, rangeTarget_eq,
        hmark] using hprinted
    have hblank : lit " /v2/feeds" = 32 :: lit "/v2/feeds" := by decide
    have hversion : lit " HTTP/1.1" = 32 :: lit "HTTP/1.1" := by decide
    rw [renderTarget, Option.elim_some, ← hpath, requestLine, hblank, hversion]
    simp [c, EncodeCall.method, EncodeCall.suffix]
  rw [htext, firstLine_text honeLine ⟨rfl, rfl⟩, Option.bind_some, hline,
    readRequestLine_render (by decide) (clean_printedPath feedId hrest) hquery]

/-- The text of a moment ends in a `Z`. -/
lemma getLast_isoText (x : Moment) (micro : ℕ) : (isoText x micro).getLast? = some 90 := by
  have hlast : (lit "Z").getLast? = some 90 := by decide
  rw [isoText, isoTail, ← List.append_assoc,
    List.getLast?_append_of_ne_nil _ (by decide), hlast]

/-- The query of a returned request does not give the end of the range. -/
lemma not_namesRange (hid : NameText id.bytes) (start end_ : XiTimestamp) :
    ¬ NamesRange feedId id (some start) (some end_) (rangeRequest tg apiKey feedId id
      (renderQuery (boundFields tg (some start) (some end_)))) := by
  rintro ⟨r, query, hline, hquery, -, -, hgives⟩
  rw [readRequestLine_range hid] at hline
  cases hline
  cases hquery
  obtain ⟨x, -, hlookup⟩ := hgives end_ rfl
  have hfield : (queryFields (renderQuery (sentFields tg start end_))).lookup (lit "end") =
      some (instantText tg end_ ++ lit ".csv") := by
    rw [queryFields_sent]
    rfl
  have hlast := getLast_isoText x end_.micro.toNat
  rw [hfield] at hlookup
  rw [← Option.some.inj hlookup, List.getLast?_append_of_ne_nil _ (by decide)] at hlast
  exact absurd hlast (by decide)

/-- **Targets of range deletions**: the requests that are returned name their range exactly if none
is returned, because a bound is absent or a text does not fit. -/
theorem rangeTargeted_iff (tg : Target) (apiKey : CString) (feedId : UInt32) (id : CString)
    (hid : NameText id.bytes) (start end_ : Option XiTimestamp) :
    RangeTargeted tg apiKey feedId id start end_ ↔
      ∀ s ∈ start, ∀ t ∈ end_, ¬ RangeFits tg apiKey feedId id s t := by
  constructor
  · rintro h s rfl t rfl hfits
    obtain ⟨l', hret, -⟩ := (decides_range apiKey feedId id s t).1 hfits .noErr (.fresh tg) trivial
    exact not_namesRange hid s t (h _ _ _ _ _ hret)
  · intro h e e' l l' t hret
    by_cases hboth : start = none ∨ end_ = none
    · rw [deleteRange_absent hboth] at hret
      cases hret
    · rw [not_or, ← ne_eq, ← ne_eq, Option.ne_none_iff_exists', Option.ne_none_iff_exists'] at hboth
      obtain ⟨⟨s, rfl⟩, u, rfl⟩ := hboth
      exact absurd ((decides_range apiKey feedId id s u).some hret).1 (h s rfl u rfl)

/-- With the sizes of `xi_config.h` no deletion of a range fits. -/
theorem rangeTargeted_small :
    RangeTargeted posixConfig smallKey 1 smallId (some newYear) (some newYear) :=
  (rangeTargeted_iff posixConfig smallKey 1 smallId named_smallId _ _).mpr (by
    rintro s ⟨⟩ t ⟨⟩ hfits
    exact absurd hfits.path (by decide +kernel))

/-- A build with room for a range. -/
def wideConfig : Target :=
  { posixConfig with
    queryBufferSize := 512, idBufferSize := 256
    query_pos := by decide, id_pos := by decide }

/-- The end of a range that fits is sent with the suffix of the path. -/
theorem not_rangeTargeted_wide :
    ¬ RangeTargeted wideConfig smallKey 1 smallId (some newYear) (some newYear) := by
  intro h
  have hfits : RangeFits wideConfig smallKey 1 smallId newYear newYear :=
    ⟨by decide +kernel, by decide +kernel, by decide +kernel, by decide +kernel⟩
  obtain ⟨l', hret, -⟩ := (decides_range smallKey 1 smallId newYear newYear).1 hfits .noErr
    (.fresh wideConfig) trivial
  exact not_namesRange named_smallId newYear newYear (h _ _ _ _ _ hret)

end LibXively.DeleteRange
