import LibXively.Http.Framing
import LibXively.Requests.FeedRequests

/-!
A request as a message: what the peer reads of it.
-/

namespace LibXively.RequestFraming

open LibXively.Bytes LibXively.Decimal LibXively.CProc LibXively.CharArray LibXively.XiTime
open LibXively.Gmtime LibXively.Structures LibXively.CsvData LibXively.HttpQueries
open LibXively.HttpTransport LibXively.Append LibXively.CsvText LibXively.Builders
open LibXively.Encoders LibXively.FeedRequests LibXively.Framing

variable {tg : Target} {apiKey : CString}

/-- The strings a call puts in the target of its request hold no end of line. A string that only
goes into a body may hold one. -/
def HeadOneLine : EncodeCall → Prop
  | .updateDatastream _ id _ => OneLine id.bytes
  | .getDatastream _ id => OneLine id.bytes
  | .deleteDatastream _ id => OneLine id.bytes
  | .deleteDatapoint _ id _ => OneLine id.bytes
  | .datapointDeleteRange _ id _ _ => OneLine id.bytes
  | .getFeed feed => ∀ (i : Fin xiMaxDatastreams) (t : Text), i.val < feed.datastreamCount →
    cstr (feed.datastreams i).datastreamId = some t → OneLine t
  | _ => True

/-- The request line for a path. -/
def requestLine (method path suffix : Text) : Text :=
  method ++ lit " /v2/feeds" ++ path ++ lit ".csv" ++ suffix ++ lit " HTTP/1.1"

/-- The field lines of every request. -/
def headFields (tg : Target) (apiKey : CString) : List Text :=
  [lit "Host: " ++ xiHost, lit "User-Agent: " ++ tg.userAgent.bytes, lit "Accept: */*",
    lit "X-ApiKey: " ++ apiKey.bytes]

/-- The field lines of a request with a body. -/
def contentFields (body : Option Text) : List Text :=
  body.elim [] fun data =>
    [lit "Content-Type: text/plain", lit "Content-Length: " ++ fmtD (toInt32 data.length)]

lemma queryText_eq (method path suffix : Text) :
    queryText tg method path suffix apiKey =
      renderLines (requestLine method path suffix :: headFields tg apiKey) := by
  have h1 : lit " HTTP/1.1\r\n" = lit " HTTP/1.1" ++ crlf := by decide
  have h2 : lit "\r\n" = crlf := by decide
  have h3 : lit "Accept: */*\r\n" = lit "Accept: */*" ++ crlf := by decide
  simp [queryText, templateFeed, headFields, requestLine, h1, h2, h3, List.append_assoc]

lemma bodyText_eq (body : Option Text) :
    (bodyText body).1 = renderLines (contentFields body) := by
  have h1 : lit "Content-Type: text/plain\r\n" = lit "Content-Type: text/plain" ++ crlf := by
    decide
  have h2 : lit "\r\n" = crlf := by decide
  cases body <;> simp [bodyText, contentFields, contentTemplate, h1, h2, List.append_assoc]

/-- A request is a message with one end of line behind it. -/
lemma requestText_eq (method path suffix : Text) (body : Option Text) :
    requestText (queryText tg method path suffix apiKey) body =
      renderLines (requestLine method path suffix ::
        (headFields tg apiKey ++ contentFields body)) ++ crlf ++ (body.getD [] ++ crlf) := by
  have h2 : lit "\r\n" = crlf := by decide
  have hbody : (bodyText body).2 = body.getD [] := by cases body <;> rfl
  rw [requestText, queryText_eq, bodyText_eq, hbody, h2, ← List.cons_append,
    renderLines_append]
  simp only [List.append_assoc]

/-! ### The lines of a request -/

lemma part_fmtD (v : ℤ) : Part (fmtD v) := by
  refine part_of_not_mem fun h => ?_
  rcases of_mem_fmtD h with h | h <;> simp [isDigit] at h

lemma part_instantText (t : XiTimestamp) : Part (instantText tg t) := by
  obtain ⟨tm, htm⟩ := xiGmtime_isSome tg.longBits t.timestamp
  rw [instantText, htm, Option.elim_some]
  exact part_of_not_mem fun h => absurd (of_mem_timestampText h) (by decide)

lemma part_feedPath (feedId : UInt32) : Part (feedPath feedId) := by
  have hslash : Part (lit "/") := part_of_not_mem (by decide)
  exact hslash.append (part_fmtD _)

lemma part_datastreamPath (feedId : UInt32) {id : Text} (h : OneLine id) :
    Part (datastreamPath feedId (some id)) := by
  have hstreams : Part (lit "/datastreams") := part_of_not_mem (by decide)
  have hslash : Part (lit "/") := part_of_not_mem (by decide)
  exact ((part_feedPath feedId).append hstreams).append (hslash.before (by decide) h)

lemma part_feedSuffix {feed : XiFeed} (h : HeadOneLine (.getFeed feed)) :
    Part ((feedSuffix feed).getD []) := by
  cases hs : feedSuffix feed with
  | none => exact part_of_not_mem (by simp)
  | some v =>
    refine cats_closed (P := Part) (part_of_not_mem (by simp)) (fun _ _ => Part.append)
      (fun i v _ hi hv => ?_) hs
    split at hv
    · next h16 =>
      obtain ⟨t, ht, rfl⟩ := Option.map_eq_some_iff.mp hv
      have hid := h ⟨i, h16⟩ t (by simpa using hi) ht
      have hfirst : Part (lit "?datastreams=") := part_of_not_mem (by decide)
      have hcomma : Part (lit ",") := part_of_not_mem (by decide)
      split
      · exact hfirst.before (by decide) hid
      · exact hcomma.before (by decide) hid
    · cases hv

lemma oneLine_datapointTarget {id : CString} (h : OneLine id.bytes) (o : XiDatapoint) :
    OneLine (datapointTarget tg id o) := by
  have hmid : Part (lit "/datapoints/") := part_of_not_mem (by decide)
  exact (h.append hmid).append (part_instantText o.timestamp)

lemma oneLine_rangeTarget {id : CString} (h : OneLine id.bytes) (s t : XiTimestamp) :
    OneLine (rangeTarget tg id s t) := by
  have hstart : Part (lit "/datapoints?start=") := part_of_not_mem (by decide)
  have hend : Part (lit "&end=") := part_of_not_mem (by decide)
  exact (((h.append hstart).append (part_instantText s)).append hend).append (part_instantText t)

lemma part_path {c : EncodeCall} (h : HeadOneLine c) (hc : c.Readable) : Part (c.path tg) := by
  cases c with
  | createDatastream feedId id p =>
    have hstreams : Part (lit "/datastreams") := part_of_not_mem (by decide)
    exact ((part_feedPath feedId).append hstreams).append (part_of_not_mem (by simp))
  | updateDatastream feedId id p => exact part_datastreamPath feedId h
  | getDatastream feedId id => exact part_datastreamPath feedId h
  | deleteDatastream feedId id => exact part_datastreamPath feedId h
  | deleteDatapoint feedId id o =>
    exact part_datastreamPath feedId (oneLine_datapointTarget h o)
  | updateFeed feed => exact part_feedPath _
  | getFeed feed => exact part_feedPath _
  | datapointDeleteRange feedId id start end_ =>
    obtain ⟨hs, he⟩ := hc
    obtain ⟨s, rfl⟩ := Option.isSome_iff_exists.mp hs
    obtain ⟨t, rfl⟩ := Option.isSome_iff_exists.mp he
    exact part_datastreamPath feedId (oneLine_rangeTarget h s t)

lemma part_suffix {c : EncodeCall} (h : HeadOneLine c) : Part (c.suffix tg) := by
  cases c with
  | getFeed feed => exact part_feedSuffix h
  | _ => exact part_of_not_mem (by simp [EncodeCall.suffix])

lemma part_requestLine {c : EncodeCall} (h : HeadOneLine c) (hc : c.Readable) :
    Part (requestLine c.method (c.path tg) (c.suffix tg)) := by
  have hmethod : Part c.method := by
    refine part_of_not_mem ?_
    cases c <;> simp only [EncodeCall.method] <;> decide
  have hfeeds : Part (lit " /v2/feeds") := part_of_not_mem (by decide)
  have hcsv : Part (lit ".csv") := part_of_not_mem (by decide)
  have hversion : Part (lit " HTTP/1.1") := part_of_not_mem (by decide)
  exact ((((hmethod.append hfeeds).append (part_path h hc)).append hcsv).append
    (part_suffix h)).append hversion

/-- Every line of a request is one line. -/
lemma lines_clean {c : EncodeCall} (hua : OneLine tg.userAgent.bytes) (hkey : OneLine apiKey.bytes)
    (h : HeadOneLine c) (hc : c.Readable) :
    ∀ l ∈ requestLine c.method (c.path tg) (c.suffix tg) ::
      (headFields tg apiKey ++ contentFields (c.body tg)), l ≠ [] ∧ OneLine l := by
  have hagent : Part (lit "User-Agent: ") := part_of_not_mem (by decide)
  have hapi : Part (lit "X-ApiKey: ") := part_of_not_mem (by decide)
  have hcontent : Part (lit "Content-Length: ") := part_of_not_mem (by decide)
  intro l hl
  rcases List.mem_cons.mp hl with rfl | hl
  · exact ⟨by simp [requestLine, lit], (part_requestLine h hc).1⟩
  · rcases List.mem_append.mp hl with hl | hl
    · simp only [headFields, List.mem_cons, List.not_mem_nil, or_false] at hl
      rcases hl with rfl | rfl | rfl | rfl
      · exact ⟨by decide, oneLine_of_not_mem (by decide)⟩
      · exact ⟨by simp [lit], (hagent.before (by decide) hua).1⟩
      · exact ⟨by decide, oneLine_of_not_mem (by decide)⟩
      · exact ⟨by simp [lit], (hapi.before (by decide) hkey).1⟩
    · cases hb : c.body tg with
      | none => simp [hb, contentFields] at hl
      | some data =>
        simp only [hb, contentFields, Option.elim_some, List.mem_cons, List.not_mem_nil,
          or_false] at hl
        rcases hl with rfl | rfl
        · exact ⟨by decide, oneLine_of_not_mem (by decide)⟩
        · exact ⟨by simp [lit], (hcontent.append (part_fmtD _)).1⟩

/-! ### The length of the body -/

lemma contentLength_eq {body : Option Text} (hlen : (body.getD []).length < 2 ^ 31) :
    contentLength (headFields tg apiKey ++ contentFields body) = some (body.getD []).length := by
  have h1 (v : Text) : fieldValue (lit "content-length") (lit "Host: " ++ v) = none :=
    fieldValue_none (n := lit "Host") (v := 32 :: v) (by decide) (by decide)
  have h2 (v : Text) : fieldValue (lit "content-length") (lit "User-Agent: " ++ v) = none :=
    fieldValue_none (n := lit "User-Agent") (v := 32 :: v) (by decide) (by decide)
  have h3 : fieldValue (lit "content-length") (lit "Accept: */*") = none := by decide
  have h4 (v : Text) : fieldValue (lit "content-length") (lit "X-ApiKey: " ++ v) = none :=
    fieldValue_none (n := lit "X-ApiKey") (v := 32 :: v) (by decide) (by decide)
  have h5 : fieldValue (lit "content-length") (lit "Content-Type: text/plain") = none := by
    decide
  cases body with
  | none => simp [contentLength, headFields, contentFields, h1, h2, h3, h4]
  | some data =>
    rw [Option.getD_some] at hlen ⊢
    have hsize : fmtD (toInt32 data.length) = digits data.length := by
      rw [toInt32_eq (by omega) (by omega), fmtD_natCast]
    have hdig : ∀ c ∈ digits data.length, isDigit c = true := fun _ => isDigit_of_mem_digits
    have h6 : fieldValue (lit "content-length")
        (lit "Content-Length: " ++ fmtD (toInt32 data.length)) = some (digits data.length) := by
      rw [hsize]
      refine (fieldValue_some (n := lit "Content-Length") (v := 32 :: digits data.length)
        (by decide) (by decide)).trans ?_
      obtain ⟨d, ds, hd⟩ := List.exists_cons_of_ne_nil (digits_ne_nil data.length)
      have hd0 := isDigit_iff.mp (hdig d (by simp [hd]))
      have hne : d ≠ 32 ∧ d ≠ 9 := by
        constructor <;> rintro rfl <;> simp at hd0
      simp [hd, hne]
    have hall : (digits data.length).all isDigit = true := List.all_eq_true.mpr hdig
    simp [contentLength, headFields, contentFields, h1, h2, h3, h4, h5, h6, hall]

/-- The body is a part of the request. -/
lemma length_body_le {c : EncodeCall} :
    ((c.body tg).getD []).length ≤ (c.text tg apiKey).length := by
  rw [EncodeCall.text, EncodeCall.query, requestText_eq]
  simp only [List.length_append]
  omega

/-- What the peer reads of a request. -/
lemma message_text {c : EncodeCall} (hc : c.Readable) (hua : OneLine tg.userAgent.bytes)
    (hkey : OneLine apiKey.bytes) (hhead : HeadOneLine c)
    (hlen : ((c.body tg).getD []).length < 2 ^ 31) :
    message (c.text tg apiKey) = some {
      startLine := requestLine c.method (c.path tg) (c.suffix tg)
      fields := headFields tg apiKey ++ contentFields (c.body tg)
      body := (c.body tg).getD []
      rest := crlf } := by
  rw [EncodeCall.text, EncodeCall.query, requestText_eq]
  exact message_render (lines_clean hua hkey hhead hc) (contentLength_eq hlen) crlf

/-- **Requests frame themselves**: if no string in the head of a request holds an end of line, its
peer reads the request line and the fields that were meant, a body that is what the data layer has
encoded, and one end of line behind it. -/
theorem request_framing (tg : Target) (h56 : 56 ≤ tg.contentBufferSize)
    (hsize : tg.queryBufferSize + tg.contentBufferSize ≤ 2 ^ 31)
    (hua : OneLine tg.userAgent.bytes) (apiKey : CString) (hkey : OneLine apiKey.bytes)
    (c : EncodeCall) (hc : c.Readable) (hhead : HeadOneLine c) (e e' : XiErr)
    (l l' : Statics tg) (t : Text) (h : c.encode tg apiKey e l = .ret (some t) e' l') :
    message t = some {
      startLine := requestLine c.method (c.path tg) (c.suffix tg)
      fields := headFields tg apiKey ++ contentFields (c.body tg)
      body := (c.body tg).getD []
      rest := crlf } := by
  obtain ⟨hfits, ht⟩ := encode_some h56 hc h
  have hbody := @length_body_le tg apiKey c
  have hlen : ((c.body tg).getD []).length < 2 ^ 31 := by
    have htext := hfits.text
    omega
  rw [ht]
  exact message_text hc hua hkey hhead hlen

/-- A request whose texts fit is returned. -/
lemma encode_fits {key : CString} {c : EncodeCall} (hc : c.Readable)
    (hfits : c.Fits posixConfig key) : ∃ l, c.encode posixConfig key .noErr (.fresh posixConfig) =
      .ret (some (c.text posixConfig key)) .noErr l := by
  have h56 : 56 ≤ posixConfig.contentBufferSize := by decide
  obtain ⟨l, hl, -⟩ := (encode_decides h56 hc).1 hfits .noErr (.fresh posixConfig) trivial
  exact ⟨l, hl⟩

theorem request_framing_put :
    message (smallPut.text posixConfig smallKey) = some {
      startLine := lit "PUT /v2/feeds/1/datastreams/a.csv HTTP/1.1"
      fields := headFields posixConfig smallKey ++ contentFields (some (lit "0\n"))
      body := lit "0\n"
      rest := crlf } := by
  obtain ⟨l, hl⟩ := encode_fits readable_smallPut fits_smallPut
  have hagent : OneLine posixConfig.userAgent.bytes := oneLine_of_not_mem (by decide)
  have hkey : OneLine smallKey.bytes := oneLine_of_not_mem (by decide)
  have hhead : HeadOneLine smallPut := oneLine_of_not_mem (by decide : (10 : Byte) ∉ lit "a")
  have hsize : posixConfig.queryBufferSize + posixConfig.contentBufferSize ≤ 2 ^ 31 := by
    norm_num [posixConfig, xiConfig]
  have hline : requestLine smallPut.method (smallPut.path posixConfig)
      (smallPut.suffix posixConfig) = lit "PUT /v2/feeds/1/datastreams/a.csv HTTP/1.1" := by
    decide +kernel
  have hbody : smallPut.body posixConfig = some (lit "0\n") := by decide +kernel
  have hmessage := request_framing posixConfig (by decide) hsize hagent smallKey hkey smallPut
    readable_smallPut hhead .noErr .noErr _ l _ hl
  rwa [hline, hbody] at hmessage

/-- A request for a datastream. -/
def smallGet : EncodeCall := .getDatastream 1 smallId

/-- An API key that ends the head of its request. -/
def endingKey : CString := ⟨lit "k\r\n\r\n", by decide⟩

lemma fits_smallGet : smallGet.Fits posixConfig smallKey :=
  ⟨by rintro _ ⟨⟩, by decide, by decide +kernel, by decide, by decide +kernel⟩

lemma fits_endingKey : smallGet.Fits posixConfig endingKey :=
  ⟨by rintro _ ⟨⟩, by decide, by decide +kernel, by decide, by decide +kernel⟩

/-- There is an end of line left of a request, and more than that with such a key. -/
theorem request_framing_leaves : ∃ l l',
    smallGet.encode posixConfig smallKey .noErr (.fresh posixConfig) =
      .ret (some (smallGet.text posixConfig smallKey)) .noErr l ∧
    (message (smallGet.text posixConfig smallKey)).map Message.rest = some crlf ∧
    smallGet.encode posixConfig endingKey .noErr (.fresh posixConfig) =
      .ret (some (smallGet.text posixConfig endingKey)) .noErr l' ∧
    (message (smallGet.text posixConfig endingKey)).map Message.rest =
      some (crlf ++ crlf ++ crlf) := by
  have hreadable : smallGet.Readable := trivial
  obtain ⟨l, hl⟩ := encode_fits hreadable fits_smallGet
  obtain ⟨l', hl'⟩ := encode_fits hreadable fits_endingKey
  exact ⟨l, l', hl, by decide +kernel, hl', by decide +kernel⟩

end LibXively.RequestFraming
