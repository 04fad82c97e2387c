import LibXively.Decoding.Numbers
import LibXively.Requests.DeleteRange
import LibXively.Requests.StampOrder

/-!
What a request asks for.

The eight encoders write eight kinds of requests. The method, the number of segments of the path and
the query tell the kinds apart, and within a kind every argument that is sent can be read off.
-/

namespace LibXively.RequestMeaning

open LibXively.Bytes LibXively.Decimal LibXively.CProc LibXively.CharArray LibXively.Gregorian
open LibXively.Gmtime LibXively.Mktime LibXively.Structures LibXively.CsvData
open LibXively.HttpQueries LibXively.Append LibXively.Builders LibXively.Encoders
open LibXively.FeedRequests LibXively.Framing LibXively.StartLine LibXively.RequestFraming
open LibXively.RequestTarget LibXively.DeleteRange LibXively.Stamps LibXively.StampOrder

/-! ### Resources -/

/-- What a request is about: a feed, or some datastreams of it, all its datastreams, one of them, a
datapoint of one, or a range of its datapoints. -/
inductive Resource
  | feed (streams : Option (List Text))
  | datastreams
  | datastream (id : Text)
  | datapoint (id : Text) (t : XiTimestamp)
  | datapoints (id : Text) (start end_ : Option XiTimestamp)

/-- The segments of the path of a resource. -/
def Resource.segments (tg : Target) (feedId : UInt32) : Resource → List Text
  | .feed _ => [lit "v2", lit "feeds", fmtD (toInt32 feedId.toNat) ++ lit ".csv"]
  | .datastreams => [lit "v2", lit "feeds", fmtD (toInt32 feedId.toNat), lit "datastreams.csv"]
  | .datastream id =>
    [lit "v2", lit "feeds", fmtD (toInt32 feedId.toNat), lit "datastreams", id ++ lit ".csv"]
  | .datapoint id t =>
    [lit "v2", lit "feeds", fmtD (toInt32 feedId.toNat), lit "datastreams", id, lit "datapoints",
      instantText tg t ++ lit ".csv"]
  | .datapoints id _ _ =>
    [lit "v2", lit "feeds", fmtD (toInt32 feedId.toNat), lit "datastreams", id, lit "datapoints"]

/-- The query of a resource. -/
def Resource.query (tg : Target) : Resource → Option Text
  | .feed streams => streams.map fun ids => lit "datastreams=" ++ [44].intercalate ids
  | .datapoints _ start end_ => some (renderQuery (boundFields tg start end_) ++ lit ".csv")
  | _ => none

/-- A path of segments. -/
def pathOf (segments : List Text) : Text := segments.flatMap (47 :: ·)

/-- An instant from 1970 to 9999. -/
structure Counted (t : XiTimestamp) : Prop where
  timestamp : 0 ≤ t.timestamp ∧ t.timestamp ≤ 253402300799
  micro : 0 ≤ t.micro ∧ t.micro ≤ 999999

/-- The ids of the resource are names, and its instants are from 1970 to 9999. -/
def Resource.Sound : Resource → Prop
  | .feed streams => ∀ ids ∈ streams, ids ≠ [] ∧ ∀ id ∈ ids, NameText id
  | .datastreams => True
  | .datastream id => NameText id
  | .datapoint id t => NameText id ∧ Counted t
  | .datapoints id start end_ =>
    NameText id ∧ (∃ s ∈ start, Counted s) ∧ ∃ t ∈ end_, Counted t

/-- The resource of a call. -/
def resourceOf : EncodeCall → Resource
  | .createDatastream _ _ _ => .datastreams
  | .updateDatastream _ id _ => .datastream id.bytes
  | .getDatastream _ id => .datastream id.bytes
  | .deleteDatastream _ id => .datastream id.bytes
  | .deleteDatapoint _ id o => .datapoint id.bytes o.timestamp
  | .updateFeed _ => .feed none
  | .getFeed feed => .feed (if feed.datastreamCount = 0 then none else some (feedIds feed))
  | .datapointDeleteRange _ id start end_ => .datapoints id.bytes start end_

/-- What a call asks for, with the key it asks with. -/
structure Asked where
  apiKey : Text
  method : Text
  feedId : UInt32
  resource : Resource
  body : Option Text

def asked (tg : Target) (apiKey : CString) (c : EncodeCall) : Asked :=
  ⟨apiKey.bytes, c.method, feedIdOf c, resourceOf c, c.body tg⟩

variable {tg : Target} {f f' : UInt32} {r r' : Resource}

/-! ### Segments -/

/-- Segments without a slash can be read off their path. -/
lemma pathOf_injective {ss ts : List Text} (hs : ∀ s ∈ ss, 47 ∉ s) (ht : ∀ t ∈ ts, 47 ∉ t)
    (h : pathOf ss = pathOf ts) : ss = ts := by
  have hfront {s : Text} (hs : 47 ∉ s) (us : List Text) :
      (s ++ pathOf us).takeWhile (· ≠ 47) = s := by
    have hall : ∀ c ∈ s, decide (c ≠ 47) = true := fun c hc =>
      decide_eq_true fun h47 => hs (h47 ▸ hc)
    rw [List.takeWhile_append_of_pos hall]
    cases us with
    | nil => simp [pathOf]
    | cons u us => simp [pathOf]
  induction ss generalizing ts with
  | nil =>
    cases ts with
    | nil => rfl
    | cons t ts => simp [pathOf] at h
  | cons s ss ih =>
    cases ts with
    | nil => simp [pathOf] at h
    | cons t ts =>
      obtain ⟨hs0, hs'⟩ := List.forall_mem_cons.mp hs
      obtain ⟨ht0, ht'⟩ := List.forall_mem_cons.mp ht
      have htexts : s ++ pathOf ss = t ++ pathOf ts := (List.cons.inj h).2
      have hst : s = t := by rw [← hfront hs0 ss, htexts, hfront ht0]
      rw [hst] at htexts
      rw [hst, ih hs' ht' (List.append_cancel_left htexts)]

lemma not_mem_name {id : Text} (h : NameText id) {c : Byte} (hc : ¬ NameByte c) : c ∉ id :=
  fun hmem => hc (h c hmem)

/-- No segment holds a slash, a blank or a question mark. -/
lemma segments_clean (h : r.Sound) {c : Byte} (hc : c = 47 ∨ c = 32 ∨ c = 63) :
    ∀ s ∈ r.segments tg f, c ∉ s := by
  have hname {id : Text} (hid : NameText id) : c ∉ id :=
    not_mem_name hid (by rcases hc with rfl | rfl | rfl <;> unfold NameByte <;> decide)
  have hnumber : c ∉ fmtD (toInt32 f.toNat) := by
    intro hmem
    rcases of_mem_fmtD hmem with hd | rfl
    · rcases hc with rfl | rfl | rfl <;> exact absurd hd (by decide)
    · rcases hc with hc | hc | hc <;> exact absurd hc (by decide)
  have hinstant (t : XiTimestamp) : c ∉ instantText tg t :=
    not_mem_instantText t (by rcases hc with rfl | rfl | rfl <;> decide)
  have hlits : c ∉ lit "v2" ∧ c ∉ lit "feeds" ∧ c ∉ lit ".csv" ∧ c ∉ lit "datastreams" ∧
      c ∉ lit "datastreams.csv" ∧ c ∉ lit "datapoints" := by
    rcases hc with rfl | rfl | rfl <;> decide
  obtain ⟨hv2, hfeeds, hcsv, hstreams, hall, hpoints⟩ := hlits
  cases r with
  | feed streams => simp [Resource.segments, hv2, hfeeds, hnumber, hcsv]
  | datastreams => simp [Resource.segments, hv2, hfeeds, hnumber, hall]
  | datastream id => simp [Resource.segments, hv2, hfeeds, hnumber, hstreams, hcsv, hname h]
  | datapoint id t =>
    simp [Resource.segments, hv2, hfeeds, hnumber, hstreams, hpoints, hcsv, hname h.1, hinstant]
  | datapoints id start end_ =>
    simp [Resource.segments, hv2, hfeeds, hnumber, hstreams, hpoints, hname h.1]

/-! ### Targets -/

lemma pathOf_cons (s : Text) (ss : List Text) : pathOf (s :: ss) = 47 :: (s ++ pathOf ss) := by
  simp [pathOf]

lemma pathOf_nil : pathOf [] = [] := by simp [pathOf]

lemma feeds_eq : lit "/v2/feeds/" = 47 :: (lit "v2" ++ 47 :: (lit "feeds" ++ [47])) := by decide

lemma datastreams_eq : lit "/datastreams/" = 47 :: (lit "datastreams" ++ [47]) := by decide

lemma pathOf_three (a b c : Text) (ss : List Text) :
    pathOf (a :: b :: c :: ss) = 47 :: (a ++ 47 :: (b ++ [47])) ++ c ++ pathOf ss := by
  simp [pathOf]

lemma pathOf_front (feedId : UInt32) (segments : List Text) :
    pathOf (lit "v2" :: lit "feeds" :: fmtD (toInt32 feedId.toNat) :: segments) =
      printedPath feedId (pathOf segments) := by
  rw [pathOf_three, ← feeds_eq, printedPath]

lemma pathOf_feed (feedId : UInt32) (streams : Option (List Text)) :
    pathOf ((Resource.feed streams).segments tg feedId) = printedPath feedId (lit ".csv") := by
  rw [Resource.segments, pathOf_three, ← feeds_eq, pathOf_nil, List.append_nil, printedPath,
    List.append_assoc]

/-- What is printed for the id of a datastream, and whatever is printed behind it. -/
lemma printed_segments (feedId : UInt32) (id : Text) :
    lit "/v2/feeds" ++ datastreamPath feedId (some id) ++ lit ".csv" =
      printedPath feedId (pathOf [lit "datastreams", id ++ lit ".csv"]) := by
  rw [printed_datastream]
  simp only [pathOf_cons, pathOf_nil, datastreams_eq, List.append_assoc, List.cons_append,
    List.nil_append, List.append_nil]

/-- The target of a request is that of its resource. -/
lemma target_eq {c : EncodeCall} (hc : c.Readable) :
    lit "/v2/feeds" ++ c.path tg ++ lit ".csv" ++ c.suffix tg =
      renderTarget (pathOf ((resourceOf c).segments tg (feedIdOf c)))
        ((resourceOf c).query tg) := by
  have hstream (feedId : UInt32) (id : Text) :
      lit "/v2/feeds" ++ datastreamPath feedId (some id) ++ lit ".csv" ++ [] =
        renderTarget (pathOf ((Resource.datastream id).segments tg feedId)) none := by
    rw [printed_segments, Resource.segments, pathOf_front]
    rfl
  cases c with
  | createDatastream feedId id p =>
    have hall : lit "/datastreams.csv" = pathOf [lit "datastreams.csv"] := by decide
    have hprinted := printed_datastreams feedId
    rw [hall, ← pathOf_front] at hprinted
    exact congrArg (· ++ []) hprinted
  | updateDatastream feedId id p => exact hstream feedId id.bytes
  | getDatastream feedId id => exact hstream feedId id.bytes
  | deleteDatastream feedId id => exact hstream feedId id.bytes
  | deleteDatapoint feedId id o =>
    have hpoints : lit "/datapoints/" = 47 :: (lit "datapoints" ++ [47]) := by decide
    have hpath : pathOf [lit "datastreams", datapointTarget tg id o ++ lit ".csv"] =
        pathOf [lit "datastreams", id.bytes, lit "datapoints",
          instantText tg o.timestamp ++ lit ".csv"] := by
      simp only [datapointTarget, pathOf_cons, pathOf_nil, hpoints, List.append_assoc,
        List.cons_append, List.nil_append, List.append_nil]
    have hprinted := printed_segments feedId (datapointTarget tg id o)
    rw [hpath, ← pathOf_front] at hprinted
    exact congrArg (· ++ []) hprinted
  | updateFeed feed =>
    have hprinted := printed_feed feed.feedId
    rw [← @pathOf_feed tg feed.feedId none] at hprinted
    exact congrArg (· ++ []) hprinted
  | getFeed feed =>
    have hsuffix : (EncodeCall.getFeed feed).suffix tg = (feedQuery feed).elim [] (63 :: ·) :=
      congrArg (Option.getD · []) (feedSuffix_eq hc)
    have hquery : (resourceOf (.getFeed feed)).query tg = feedQuery feed := by
      rw [resourceOf, Resource.query, feedQuery]
      split <;> rfl
    rw [hsuffix, hquery, renderTarget, resourceOf, pathOf_feed]
    exact congrArg (· ++ _) (printed_feed feed.feedId)
  | datapointDeleteRange feedId id start end_ =>
    obtain ⟨hs, he⟩ := hc
    obtain ⟨s, rfl⟩ := Option.isSome_iff_exists.mp hs
    obtain ⟨t, rfl⟩ := Option.isSome_iff_exists.mp he
    have hmark : lit "/datapoints?" = 47 :: (lit "datapoints" ++ [63]) := by decide
    have hpath : printedPath feedId (pathOf [lit "datastreams", rangeTarget tg id s t ++
        lit ".csv"]) = renderTarget (printedPath feedId (pathOf [lit "datastreams", id.bytes,
          lit "datapoints"])) (some (renderQuery (boundFields tg (some s) (some t)) ++
            lit ".csv")) := by
      simp only [rangeTarget_eq, renderTarget, Option.elim_some, printedPath, pathOf_cons,
        pathOf_nil, hmark, List.append_assoc, List.cons_append, List.nil_append, List.append_nil]
    have hprinted := printed_segments feedId (rangeTarget tg id s t)
    rw [hpath, ← pathOf_front] at hprinted
    exact (List.append_nil _).trans hprinted

/-- The query of a resource holds no blank. -/
lemma query_clean (h : r.Sound) : 32 ∉ (r.query tg).getD [] := by
  cases r with
  | feed streams =>
    cases streams with
    | none => simp [Resource.query]
    | some ids =>
      obtain ⟨-, hids⟩ := h ids rfl
      rw [Resource.query, Option.map_some, Option.getD_some, List.mem_append, not_or]
      refine ⟨by decide, fun hmem => ?_⟩
      obtain ⟨id, hid, hin⟩ := of_mem_intercalate (by decide) hmem
      exact not_mem_name (hids id hid) (by unfold NameByte; decide) hin
  | datapoints id start end_ =>
    obtain ⟨-, ⟨s, rfl, -⟩, t, rfl, -⟩ := h
    have h32 (t : XiTimestamp) : 32 ∉ instantText tg t := not_mem_instantText t (by decide)
    have hlits : 32 ∉ lit "start" ∧ 32 ∉ lit "end" ∧ 32 ∉ lit ".csv" := by decide
    simp [Resource.query, renderQuery, boundFields, List.intercalate, h32, hlits]
  | _ => simp [Resource.query]

/-- What the first line of a request is read as. -/
lemma readRequestLine_asked {c : EncodeCall} (hc : c.Readable) (h : (resourceOf c).Sound) :
    readRequestLine (requestLine c.method (c.path tg) (c.suffix tg)) =
      some ⟨c.method, pathOf ((resourceOf c).segments tg (feedIdOf c)),
        (resourceOf c).query tg⟩ := by
  have hblank : lit " /v2/feeds" = 32 :: lit "/v2/feeds" := by decide
  have hversion : lit " HTTP/1.1" = 32 :: lit "HTTP/1.1" := by decide
  have hmethod : 32 ∉ c.method := by
    cases c <;> simp only [EncodeCall.method] <;> decide
  have hpath {b : Byte} (hb : b = 47 ∨ b = 32 ∨ b = 63) (hslash : b ≠ 47) :
      b ∉ pathOf ((resourceOf c).segments tg (feedIdOf c)) := by
    intro hmem
    obtain ⟨s, hs, hin⟩ := List.mem_flatMap.mp hmem
    exact segments_clean h hb s hs ((List.mem_cons.mp hin).resolve_left hslash)
  have hline : requestLine c.method (c.path tg) (c.suffix tg) = c.method ++ 32 ::
      (renderTarget (pathOf ((resourceOf c).segments tg (feedIdOf c))) ((resourceOf c).query tg) ++
        32 :: lit "HTTP/1.1") := by
    rw [← target_eq hc, requestLine, hblank, hversion]
    simp only [List.append_assoc, List.cons_append]
  rw [hline]
  exact readRequestLine_render hmethod
    ⟨hpath (.inr (.inl rfl)) (by decide), hpath (.inr (.inr rfl)) (by decide)⟩ (query_clean h)

/-! ### Arguments -/

/-- Ids are printed apart. -/
lemma fmtD_feedId_injective {a b : UInt32}
    (h : fmtD (toInt32 a.toNat) = fmtD (toInt32 b.toNat)) : a = b := by
  have ha := a.toNat_lt
  have hb := b.toNat_lt
  obtain ⟨ha1, ha2⟩ := toInt32_bounds (a.toNat : ℤ)
  obtain ⟨hb1, hb2⟩ := toInt32_bounds (b.toNat : ℤ)
  have hsame := congrArg atoi h
  rw [Numbers.atoi_fmtD ha1 ha2, Numbers.atoi_fmtD hb1 hb2] at hsame
  apply UInt32.toNat_inj.mp
  simp only [toInt32, Int.bmod_eq_emod] at hsame
  norm_num at hsame
  omega

lemma instantText_counted (hlong : tg.longBits = 64) {t : XiTimestamp} (ht : Counted t) :
    ∃ x : Moment, x.seconds = t.timestamp ∧ (0 ≤ x.year ∧ x.year ≤ 9999) ∧
      instantText tg t = isoText x t.micro.toNat := by
  obtain ⟨h1, h2⟩ := ht.timestamp
  have hyears : daysToYear (2 ^ 31) = 784351576777 := by decide
  obtain ⟨x, hx, hyear, -, hrun⟩ := @xiGmtime_moment 64 t.timestamp h1 (by omega) (by omega)
  refine ⟨x, hx, ⟨by omega, year_le_9999 (by omega)⟩, ?_⟩
  rw [instantText, hlong, hrun, Option.elim_some, ← Int.toNat_of_nonneg ht.micro.1]
  exact timestampText_fields x _ _ _

/-- Instants are printed apart. -/
lemma instantText_injective (hlong : tg.longBits = 64) {s t : XiTimestamp} (hs : Counted s)
    (ht : Counted t) (h : instantText tg s = instantText tg t) : s = t := by
  obtain ⟨hs1, hs2⟩ := hs.micro
  obtain ⟨ht1, ht2⟩ := ht.micro
  obtain ⟨x, hx, hxyear, htext⟩ := instantText_counted hlong hs
  obtain ⟨y, hy, hyyear, htext'⟩ := instantText_counted hlong ht
  rw [htext, htext'] at h
  obtain ⟨rfl, hmicro⟩ := isoText_tells hxyear hyyear (by omega) (by omega) h
  obtain ⟨timestamp, micro⟩ := s
  obtain ⟨timestamp', micro'⟩ := t
  simp only at hx hy hmicro hs1 ht1
  rw [XiTimestamp.mk.injEq]
  omega

/-- The datastreams that are asked for can be read off their list. -/
lemma ids_injective {l l' : List Text} (hl : l ≠ [] ∧ ∀ id ∈ l, NameText id)
    (hl' : l' ≠ [] ∧ ∀ id ∈ l', NameText id) (h : [44].intercalate l = [44].intercalate l') :
    l = l' := by
  have hcomma {l : List Text} (hl : ∀ id ∈ l, NameText id) : ∀ id ∈ l, 44 ∉ id := fun id hid =>
    not_mem_name (hl id hid) (by unfold NameByte; decide)
  rw [← List.splitOn_intercalate 44 (hcomma hl.2) hl.1, h,
    List.splitOn_intercalate 44 (hcomma hl'.2) hl'.1]

/-- The fields of a range can be read off its query. -/
lemma range_injective {s t s' t' : XiTimestamp}
    (h : renderQuery (boundFields tg (some s) (some t)) ++ lit ".csv" =
      renderQuery (boundFields tg (some s') (some t')) ++ lit ".csv") :
    instantText tg s = instantText tg s' ∧ instantText tg t = instantText tg t' := by
  rw [renderQuery_sent, renderQuery_sent] at h
  have hfields := congrArg queryFields h
  rw [queryFields_sent, queryFields_sent] at hfields
  simpa [sentFields] using hfields

/-- The segments and the query of a resource tell it and its feed. -/
lemma resource_injective (hlong : tg.longBits = 64) (h : r.Sound) (h' : r'.Sound)
    (hsegments : r.segments tg f = r'.segments tg f') (hquery : r.query tg = r'.query tg) :
    f = f' ∧ r = r' := by
  -- the number of its segments is that of no resource of another kind
  have hlength := congrArg List.length hsegments
  cases r with
  | feed streams =>
    cases r' with
    | feed streams' =>
      simp only [Resource.segments, List.cons.injEq, List.append_cancel_right_eq, and_true,
        true_and] at hsegments
      refine ⟨fmtD_feedId_injective hsegments, ?_⟩
      cases streams with
      | none =>
        cases streams' with
        | none => rfl
        | some l' => cases hquery
      | some l =>
        cases streams' with
        | none => cases hquery
        | some l' =>
          simp only [Resource.query, Option.map_some, Option.some.injEq,
            List.append_cancel_left_eq] at hquery
          rw [ids_injective (h l rfl) (h' l' rfl) hquery]
    | _ => simp [Resource.segments] at hlength
  | datastreams =>
    cases r' with
    | datastreams =>
      simp only [Resource.segments, List.cons.injEq, and_true, true_and] at hsegments
      exact ⟨fmtD_feedId_injective hsegments, rfl⟩
    | _ => simp [Resource.segments] at hlength
  | datastream id =>
    cases r' with
    | datastream id' =>
      simp only [Resource.segments, List.cons.injEq, List.append_cancel_right_eq, and_true,
        true_and] at hsegments
      exact ⟨fmtD_feedId_injective hsegments.1, by rw [hsegments.2]⟩
    | _ => simp [Resource.segments] at hlength
  | datapoint id t =>
    cases r' with
    | datapoint id' t' =>
      simp only [Resource.segments, List.cons.injEq, List.append_cancel_right_eq, and_true,
        true_and] at hsegments
      obtain ⟨hfeed, rfl, htime⟩ := hsegments
      exact ⟨fmtD_feedId_injective hfeed, by rw [instantText_injective hlong h.2 h'.2 htime]⟩
    | _ => simp [Resource.segments] at hlength
  | datapoints id start end_ =>
    cases r' with
    | datapoints id' start' end_' =>
      obtain ⟨-, ⟨s, rfl, hs⟩, t, rfl, ht⟩ := h
      obtain ⟨-, ⟨s', rfl, hs'⟩, t', rfl, ht'⟩ := h'
      simp only [Resource.segments, List.cons.injEq, and_true, true_and] at hsegments
      obtain ⟨hfeed, rfl⟩ := hsegments
      obtain ⟨hstart, hend⟩ := range_injective (Option.some.inj hquery)
      exact ⟨fmtD_feedId_injective hfeed, by rw [instantText_injective hlong hs hs' hstart,
        instantText_injective hlong ht ht' hend]⟩
    | _ => simp [Resource.segments] at hlength

/-! ### Requests -/

lemma oneLine_name {id : Text} (h : NameText id) : OneLine id :=
  oneLine_of_not_mem (not_mem_of_nameText h (.inl rfl))

/-- Names hold no end of line. -/
lemma headOneLine_of_sound {c : EncodeCall} (h : (resourceOf c).Sound) : HeadOneLine c := by
  cases c with
  | createDatastream feedId id p => trivial
  | updateDatastream feedId id p => exact oneLine_name h
  | getDatastream feedId id => exact oneLine_name h
  | deleteDatastream feedId id => exact oneLine_name h
  | deleteDatapoint feedId id o => exact oneLine_name h.1
  | updateFeed feed => trivial
  | getFeed feed =>
    intro i t hi ht
    have hcount : feed.datastreamCount ≠ 0 := by omega
    obtain ⟨-, hids⟩ := h (feedIds feed) (by simp [hcount])
    refine oneLine_name (hids t (List.mem_map.mpr ⟨i, by simpa using hi, ?_⟩))
    rw [dif_pos i.isLt, ht]
    rfl
  | datapointDeleteRange feedId id start end_ => exact oneLine_name h.1

/-- The fields of a request tell its key, and whether there is a body. -/
lemma fields_injective {k k' : CString} {b b' : Option Text}
    (h : headFields tg k ++ contentFields b = headFields tg k' ++ contentFields b')
    (hbody : b.getD [] = b'.getD []) : k.bytes = k'.bytes ∧ b = b' := by
  simp only [headFields, List.cons_append, List.nil_append, List.cons.injEq,
    List.append_cancel_left_eq, true_and] at h
  obtain ⟨hkey, hcontent⟩ := h
  refine ⟨hkey, ?_⟩
  cases b with
  | none =>
    cases b' with
    | none => rfl
    | some data => simp [contentFields] at hcontent
  | some data =>
    cases b' with
    | none => simp [contentFields] at hcontent
    | some data' => exact congrArg some hbody

/-- What is asked for makes the request. -/
lemma text_of_asked {k k' : CString} {c c' : EncodeCall} (hc : c.Readable) (hc' : c'.Readable)
    (h : asked tg k c = asked tg k' c') : c.text tg k = c'.text tg k' := by
  obtain ⟨hkey, hmethod, hfeed, hresource, hbody⟩ := Asked.mk.inj h
  have hblank : lit " /v2/feeds" = lit " " ++ lit "/v2/feeds" := by decide
  have hline {c : EncodeCall} (hc : c.Readable) :
      requestLine c.method (c.path tg) (c.suffix tg) = c.method ++ lit " " ++
        renderTarget (pathOf ((resourceOf c).segments tg (feedIdOf c)))
          ((resourceOf c).query tg) ++ lit " HTTP/1.1" := by
    rw [← target_eq hc, requestLine, hblank]
    simp only [List.append_assoc]
  rw [EncodeCall.text, EncodeCall.text, EncodeCall.query, EncodeCall.query, requestText_eq,
    requestText_eq, hline hc, hline hc', headFields, headFields, hkey, hmethod, hfeed, hresource,
    hbody]

/-- What a peer reads of a request that is returned. -/
lemma request_message (h56 : 56 ≤ tg.contentBufferSize)
    (hsize : tg.queryBufferSize + tg.contentBufferSize ≤ 2 ^ 31)
    (hagent : OneLine tg.userAgent.bytes) {k : CString} (hk : OneLine k.bytes) {c : EncodeCall}
    (hc : c.Readable) (hr : (resourceOf c).Sound) {e x : XiErr} {l m : Statics tg} {t : Text}
    (h : c.encode tg k e l = .ret (some t) x m) :
    message t = some ⟨requestLine c.method (c.path tg) (c.suffix tg),
      headFields tg k ++ contentFields (c.body tg), (c.body tg).getD [], crlf⟩ := by
  obtain ⟨hfits, ht⟩ := encode_some h56 hc h
  have hbody := @length_body_le tg k c
  have htext := hfits.text
  rw [ht]
  exact message_text hc hagent hk (headOneLine_of_sound hr) (by omega)

/-- **Requests tell what they ask for**: two calls whose ids are names and whose instants are from
1970 to 9999, of any of the eight kinds and with any buffers, send the same request if and only if
they have the same key and ask for the same, that is the same method for the same resource of the
same feed with the same body. -/
theorem requests_tell (hlong : tg.longBits = 64) (h56 : 56 ≤ tg.contentBufferSize)
    (hsize : tg.queryBufferSize + tg.contentBufferSize ≤ 2 ^ 31)
    (hagent : OneLine tg.userAgent.bytes) {k k' : CString} (hk : OneLine k.bytes)
    (hk' : OneLine k'.bytes) {c c' : EncodeCall} (hc : c.Readable) (hc' : c'.Readable)
    (hr : (resourceOf c).Sound) (hr' : (resourceOf c').Sound) {e x e' x' : XiErr}
    {l m l' m' : Statics tg} {t t' : Text} (h : c.encode tg k e l = .ret (some t) x m)
    (h' : c'.encode tg k' e' l' = .ret (some t') x' m') :
    t = t' ↔ asked tg k c = asked tg k' c' := by
  have hread := request_message h56 hsize hagent hk hc hr h
  have hread' := request_message h56 hsize hagent hk' hc' hr' h'
  constructor
  · rintro rfl
    rw [hread] at hread'
    obtain ⟨hline, hfields, hbody, -⟩ := Message.mk.inj (Option.some.inj hread')
    obtain ⟨hkey, hbodies⟩ := fields_injective hfields hbody
    have hreq := congrArg readRequestLine hline
    rw [readRequestLine_asked hc hr, readRequestLine_asked hc' hr'] at hreq
    obtain ⟨hmethod, hpath, hquery⟩ := RequestLine.mk.inj (Option.some.inj hreq)
    have hsegments := pathOf_injective (segments_clean hr (.inl rfl))
      (segments_clean hr' (.inl rfl)) hpath
    obtain ⟨hfeed, hresource⟩ := resource_injective hlong hr hr' hsegments hquery
    rw [asked, asked, hkey, hmethod, hfeed, hresource, hbodies]
  · intro hasked
    rw [(encode_some h56 hc h).2, (encode_some h56 hc' h').2]
    exact text_of_asked hc hc' hasked

/-- A feed is not asked for as another one, whatever the sign of the id that is printed. -/
theorem requests_tell_largest :
    smallGet.text posixConfig smallKey ≠ largestGet.text posixConfig smallKey := by
  have hagent : OneLine posixConfig.userAgent.bytes := oneLine_of_not_mem (by decide)
  have hkey : OneLine smallKey.bytes := oneLine_of_not_mem (by decide)
  have hsize : posixConfig.queryBufferSize + posixConfig.contentBufferSize ≤ 2 ^ 31 := by
    norm_num [posixConfig, xiConfig]
  have hsmall : smallGet.Readable := trivial
  have hreadable : largestGet.Readable := trivial
  obtain ⟨l, hl⟩ := encode_fits hsmall fits_smallGet
  obtain ⟨l', hl'⟩ := encode_fits hreadable fits_largestGet
  intro htext
  have hasked := (requests_tell rfl (by decide) hsize hagent hkey hkey hsmall hreadable
    named_smallId named_smallId hl hl').mp htext
  exact absurd (congrArg Asked.feedId hasked) (by decide)

end LibXively.RequestMeaning
