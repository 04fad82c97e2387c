import LibXively.Api.Registers
import LibXively.Decoding.Fronts

/-!
Replies that come in parts.

The library reads once and compares no length: what that read brings in is taken for the whole
reply. A reply that is cut in its head is refused, and one that is cut behind it is a reply with a
shorter payload.
-/

namespace LibXively.CutReplies

open LibXively.Bytes LibXively.Decimal LibXively.CProc LibXively.CharArray LibXively.Structures
open LibXively.CsvData LibXively.HttpQueries LibXively.HttpParser LibXively.CommLayers
open LibXively.Xively LibXively.CsvText LibXively.Encoders LibXively.FeedRequests LibXively.Values
open LibXively.Datapoints LibXively.Numbers LibXively.Typing LibXively.RoundTrip LibXively.Headers
open LibXively.Head LibXively.Render LibXively.PosixLayer LibXively.Exchanges LibXively.Calls
open LibXively.Layers LibXively.Registers LibXively.FeedLimits LibXively.TaggedValues
open LibXively.Fronts

/-! ### Cuts -/

/-- The length of the head of a reply, with the empty line behind it. -/
def headLength (reply : Reply) : ℕ := reply.statusLine.length + (linesOf reply.headers).length + 4

/-- The reply with a payload of `k` bytes at most. -/
def shorten (reply : Reply) (k : ℕ) : Reply := { reply with payload := reply.payload.take k }

variable {reply : Reply} {n : ℕ}

lemma length_text (reply : Reply) :
    reply.text.length = headLength reply + reply.payload.length := by
  have hend : xiHttpCrlfX2.length = 4 := rfl
  rw [Reply.text_eq]
  simp only [List.length_append, hend, headLength]
  omega

/-- Behind its head, a reply is cut in its payload. -/
lemma take_text (h : headLength reply ≤ n) :
    reply.text.take n = (shorten reply (n - headLength reply)).text := by
  have hlen : (reply.statusLine ++ (linesOf reply.headers ++ xiHttpCrlfX2)).length =
      headLength reply := by
    simp only [List.length_append, headLength, Nat.add_assoc]
    rfl
  have htext (p : Text) : reply.statusLine ++ (linesOf reply.headers ++ (xiHttpCrlfX2 ++ p)) =
      reply.statusLine ++ (linesOf reply.headers ++ xiHttpCrlfX2) ++ p := by
    simp only [List.append_assoc]
  rw [Reply.text_eq, Reply.text_eq, htext, List.take_append, hlen,
    List.take_of_length_le (by omega), ← htext]
  rfl

/-- A plain reply with another payload. -/
lemma plain_payload (hp : reply.Plain) {payload : Text}
    (hlength : payload.length < xiHttpMaxContentSize) (hbytes : 0 ∉ payload) :
    ({ reply with payload := payload } : Reply).Plain where
  version1 := hp.version1
  version2 := hp.version2
  status := hp.status
  reason_length := hp.reason_length
  reason_bytes := hp.reason_bytes
  reason_head := hp.reason_head
  headers_length := hp.headers_length
  headers := hp.headers
  payload_length := hlength
  payload_bytes := hbytes

lemma plain_shorten (hp : reply.Plain) (k : ℕ) : (shorten reply k).Plain :=
  plain_payload hp ((List.length_take_le' k reply.payload).trans_lt hp.payload_length)
    fun h => hp.payload_bytes (List.mem_of_mem_take h)

/-- A copy in the front of a text is a copy in the text. -/
lemma prefix_drop_take {p t : Text} {k : ℕ} (h : p <+: (t.take n).drop k) (hp : p ≠ []) :
    p <+: t.drop k ∧ k + p.length ≤ n := by
  have hlen := h.length_le
  have hpos := List.length_pos_iff.mpr hp
  rw [List.length_drop, List.length_take] at hlen
  refine ⟨h.trans ?_, by omega⟩
  rw [List.drop_take]
  exact List.take_prefix _ _

/-- In front of the end of the head there is no empty line. -/
lemma headVerdict_cut (hp : reply.Plain) (h : n < headLength reply) :
    headVerdict (reply.text.take n) = .refused := by
  have hcr : 13 ∉ reply.statusLine :=
    cr_not_mem_statusLine fun hc => (hp.reason_bytes _ hc).1 rfl
  obtain ⟨-, -, hfirst⟩ := strstr_some (strstr_headersEnd hcr hp.headers)
  have hnone : strstr xiHttpCrlfX2 (reply.text.take n) = none := by
    by_contra hsome
    obtain ⟨k, hk⟩ := Option.ne_none_iff_exists'.mp hsome
    obtain ⟨hcopy, hle⟩ := prefix_drop_take (strstr_some hk).1 (by decide)
    have hend : k + 4 ≤ n := hle
    exact hfirst k (by unfold headLength at h; omega) hcopy
  rw [headVerdict, hnone]

/-- What the parser makes of the front of a reply. -/
lemma headVerdict_take (hp : reply.Plain) (n : ℕ) :
    (headVerdict (reply.text.take n) = .good ∧ headLength reply ≤ n ∧
      payloadOf (reply.text.take n) = reply.payload.take (n - headLength reply)) ∨
    (headVerdict (reply.text.take n) = .refused ∧ n < headLength reply) := by
  rcases Nat.lt_or_ge n (headLength reply) with hlt | hge
  · exact .inr ⟨headVerdict_cut hp hlt, hlt⟩
  · obtain ⟨hgood, hpayload⟩ := headVerdict_plain (plain_shorten hp (n - headLength reply))
    rw [take_text hge]
    exact .inl ⟨hgood, hge, hpayload⟩

/-! ### Calls -/

/-- What is received are the first `n` bytes of the reply, in front of the last byte of the
buffer. -/
structure Cut (reply : Reply) (n : ℕ) (d : Received) : Prop where
  bytes : d.bytes = reply.text.take n
  length : d.bytes.length < xiHttpMaxContentSize

lemma Cut.cstr_eq {d : Received} (hp : reply.Plain) (h : Cut reply n d) :
    cstr d.buffer = some (reply.text.take n) := by
  rw [Received.buffer, h.bytes]
  exact cstr_strncpy (fun h0 => zero_not_mem_reply hp (List.mem_of_mem_take h0))
    (h.bytes ▸ h.length)

section Calls

variable {tg : Target} {cl : CommLayer} {w w' : cl.World} {conn : cl.Conn} {d : Received}

lemma closed_noErr {y : Option XiErr} {x : XiErr} {w'' : cl.World}
    (hc : Closing cl (some conn) w' y w'') :
    y.getD x = .noErr ↔ x = .noErr ∧ ¬ CloseFails cl conn w' := by
  rw [← not_iff_not, not_and_or, not_not]
  exact getD_eq_noErr hc

/-- **Cut replies**: over every layer, a call that is made with no error pending and is delivered
the front of a plain reply returns a response if and only if that front goes up to the end of the
head, and it then leaves an error if and only if the part of the payload that has come in cannot be
decoded or the close fails. Whatever length the headers give has no part in it. -/
theorem cut_replies (h56 : 56 ≤ tg.contentBufferSize) {c : ApiCall} (hc : c.request.Readable)
    (hfits : c.request.Fits tg c.apiKey) (hp : reply.Plain) (hcut : Cut reply n d)
    (hd : Delivers cl (c.request.text tg c.apiKey) w conn d w') (l : Statics tg) :
    ∃ v x p', c.run .noErr (⟨l, w⟩ : Process tg cl) = .ret v x p' ∧
      (v = true ↔ headLength reply ≤ n) ∧
      (x = .noErr ↔ headLength reply ≤ n ∧
        c.Accepts tg (reply.payload.take (n - headLength reply)) ∧ ¬ CloseFails cl conn w') := by
  have hans : c.Answered tg w conn (reply.text.take n) w' := ⟨hfits, d, hd, hcut.cstr_eq hp⟩
  obtain ⟨δ, request, decode, dest, hrun, hreq, hcontent⟩ := @run_eq tg cl h56 c hc
  rcases headVerdict_take hp n with ⟨hgood, hge, hpayload⟩ | ⟨hrefused, hlt⟩
  · obtain ⟨y, w'', hclose⟩ := exists_closing (some conn) w'
    obtain ⟨dest', x, hdec, hx⟩ := hcontent (payloadOf (reply.text.take n))
    obtain ⟨l', hret⟩ := responds_good hreq hans hgood hdec hclose l
    rw [hpayload] at hx
    refine ⟨true, y.getD x, _, by rw [hrun, run_ret hret], by simp [hge], ?_⟩
    rw [closed_noErr hclose, hx]
    exact ⟨fun h => ⟨hge, h⟩, And.right⟩
  · obtain ⟨w'', hfails⟩ := fails_refused decode hreq hans hrefused
    obtain ⟨x, l', hx, hret⟩ := hfails .noErr l dest
    refine ⟨false, x, _, by rw [hrun, run_ret hret], ?_, ?_⟩
    · simpa using hlt
    · exact iff_of_false hx fun h => absurd h.1 (not_le.mpr hlt)

end Calls

/-- What a system sends that breaks off in the status line. -/
def broken : Received := ⟨storedReply.text.take 10, by decide +kernel⟩

lemma cut_broken : Cut storedReply 10 broken := ⟨rfl, by decide +kernel⟩

theorem cut_replies_broken : ∃ x p', deleteCall.run .noErr
    (⟨.fresh posixConfig, freshWorld (answering broken)⟩ :
      Process posixConfig (posixLayer (answering broken))) = .ret false x p' ∧ x ≠ .noErr := by
  obtain ⟨conn, k', hd⟩ := delivers_answering broken
    (deleteCall.request.text posixConfig deleteCall.apiKey) (freshWorld (answering broken))
  have hreadable : deleteCall.request.Readable := trivial
  have hshort : ¬ headLength storedReply ≤ 10 := by decide +kernel
  obtain ⟨v, x, p', hrun, hv, hx⟩ := cut_replies (by decide) hreadable fits_deleteCall
    plain_storedReply cut_broken hd (.fresh posixConfig)
  obtain rfl : v = false := by simpa [hshort] using hv
  exact ⟨x, p', hrun, fun h => hshort (hx.mp h).1⟩

/-! ### Cut numbers -/

lemma intOf_fmtD (z : ℤ) : ∃ s, Sign s ∧ fmtD z = s ++ digits z.natAbs ∧ intOf (fmtD z) = z := by
  have hds : Digits (digits z.natAbs) := fun _ => isDigit_of_mem_digits
  unfold fmtD
  split
  · next hneg =>
    refine ⟨[45], .inr rfl, rfl, ?_⟩
    have hint : intOf (45 :: digits z.natAbs) = -(value (digits z.natAbs) : ℤ) := rfl
    rw [hint, value_digits]
    omega
  · next hpos =>
    refine ⟨[], .inl rfl, rfl, ?_⟩
    rw [intOf_digits hds, value_digits]
    omega

/-- A number that is printed and cut. -/
lemma cut_number {z : ℤ} (hz : InInt32 z) {k : ℕ} (hk : k < (digits z.natAbs).length) :
    IntText ((fmtD z).take ((fmtD z).length - k)) ∧
      atoi ((fmtD z).take ((fmtD z).length - k)) = z.tdiv (10 ^ k) := by
  obtain ⟨s, hs, htext, hint⟩ := intOf_fmtD z
  have hlen : (fmtD z).length - k = s.length + ((digits z.natAbs).length - k) := by
    rw [htext, List.length_append]
    omega
  have htake : (fmtD z).take ((fmtD z).length - k) =
      s ++ (digits z.natAbs).take ((digits z.natAbs).length - k) := by
    rw [hlen, htext, List.take_length_add_append]
  have hcut := cut_int hs (fun _ => isDigit_of_mem_digits)
    (by rwa [← htext, hint] : InInt32 (intOf (s ++ digits z.natAbs))) hk
  rwa [← htake, ← htext, hint] at hcut

lemma length_digits_natAbs (z : ℤ) : (digits z.natAbs).length ≤ (fmtD z).length := by
  unfold fmtD
  split
  · exact Nat.le_succ _
  · exact le_rfl

section Lines

variable {stamp u : Text} {z : ℤ} {k : ℕ}

lemma length_digits_lt (stamp : Text) (z : ℤ) :
    (digits z.natAbs).length < (stamp ++ 44 :: (fmtD z ++ [10])).length := by
  have hdigits := length_digits_natAbs z
  rw [List.length_append, List.length_cons, List.length_append]
  omega

/-- A line without its end and the last `k` digits of its number. -/
lemma take_line (hk : k < (digits z.natAbs).length) :
    (stamp ++ 44 :: (fmtD z ++ [10])).take ((stamp ++ 44 :: (fmtD z ++ [10])).length - (k + 1)) =
      stamp ++ 44 :: (fmtD z).take ((fmtD z).length - k) := by
  have hdigits := length_digits_natAbs z
  have hsub : (stamp ++ 44 :: (fmtD z ++ [10])).length - (k + 1) =
      stamp.length + ((fmtD z).length - k + 1) := by
    rw [List.length_append, List.length_cons, List.length_append, List.length_singleton]
    omega
  rw [hsub, List.take_length_add_append, List.take_succ_cons,
    List.take_append_of_le_length (Nat.sub_le _ _)]

/-- A number behind a timestamp is read up to the end of the text. -/
lemma decode_number {tg : Target} {t : XiTimestamp} (hcomma : 44 ∉ stamp)
    (hread : ∀ rest, readStamp tg (stamp ++ rest) = .ok t) (hu : IntText u)
    (hlen : u.length < xiValueStringMaxSize) (e : XiErr) (dest : XiDatapoint) :
    ∃ q, csvDecodeDatapoint tg (stamp ++ 44 :: u) e dest = .ret true e q ∧ q.timestamp = t ∧
      q.valueType = .i32 ∧ i32Value q.value = atoi u := by
  have hdrop : (stamp ++ 44 :: u).drop (stamp.length + 1) = u := by simp
  have hfield : fieldOf u = u :=
    fieldOf_eq_self fun c hc => endsValue_fieldByte (fieldByte_int hu c hc)
  have htab : 11 ∉ u := fun h =>
    absurd (classify_newline.mpr (.inr rfl)) (classify_fieldByte (fieldByte_int hu 11 h))
  obtain ⟨q, hrun, htime, htracks⟩ := decode_shows (strstr_singleton_append hcomma _) (hread _)
    (by rwa [hdrop, hfield]) (by rwa [hdrop, hfield]) e dest
  have hshows := htracks.shows _ rfl
  rw [hdrop, hfield, readValue, finalState_int hu] at hshows
  obtain ⟨h1, h2⟩ := atoi_bounds u
  exact ⟨q, hrun, htime, hshows.type, (hshows.i32 _ rfl).trans (Int32.toInt_ofInt_of_le h1 h2)⟩

end Lines

section Numbers

variable {tg : Target} {p : XiDatapoint} (hlong : tg.longBits = 64) (hp : Storable p)
  (hi : p.valueType = .i32) {text : Text} (htext : datapointText tg p = some text)

include hlong hp hi htext

/-- The line of an integer. -/
lemma line_eq : ∃ stamp, text = stamp ++ 44 :: (fmtD (i32Value p.value) ++ [10]) ∧ 44 ∉ stamp ∧
    ∀ rest, readStamp tg (stamp ++ rest) = .ok p.timestamp := by
  obtain ⟨hplain, hset⟩ := hp
  obtain ⟨stamp, v, htext', hv, -, hcomma, hread⟩ := hplain.datapointText_eq hlong
  have hvalue : valueText tg p = some (fmtD (i32Value p.value)) := by simp [valueText, hi]
  rw [hvalue] at hv
  obtain rfl := Option.some.inj hv
  exact ⟨stamp, Option.some.inj (htext.symm.trans htext'), hcomma, fun rest => by
    rw [hread, if_neg hset]⟩

/-- What is read of the line without its end and the last `k` digits of its number. -/
lemma decode_cut {k : ℕ} (hk : k < (digits (i32Value p.value).natAbs).length) (e : XiErr)
    (dest : XiDatapoint) :
    ∃ q, csvDecodeDatapoint tg (text.take (text.length - (k + 1))) e dest = .ret true e q ∧
      q.timestamp = p.timestamp ∧ q.valueType = .i32 ∧
      i32Value q.value = (i32Value p.value).tdiv (10 ^ k) := by
  obtain ⟨stamp, rfl, hcomma, hread⟩ := line_eq hlong hp hi htext
  obtain ⟨hint, hatoi⟩ := @cut_number (i32Value p.value) (toInt32_bounds _) k hk
  have hlen : (fmtD (i32Value p.value)).length ≤ 11 := length_fmtD_toInt32_le _
  rw [take_line hk, ← hatoi]
  exact decode_number hcomma hread hint
    (((List.length_take_le' _ _).trans hlen).trans_lt (by decide)) e dest

end Numbers

/-- **Cut numbers**: over every layer, a get that is made with no error pending and is delivered a
plain reply without the end of the line and the last digits of the storable integer in it returns a
response and brings back the integer without these digits, under the timestamp of the whole one, and
no error unless the close fails. -/
theorem cut_numbers {tg : Target} {cl : CommLayer} {w w' : cl.World} {conn : cl.Conn}
    {d : Received} {xi : XiContext} {feedId : UInt32} {id : CString} {dest p : XiDatapoint}
    (h56 : 56 ≤ tg.contentBufferSize) (hlong : tg.longBits = 64)
    (hfits : EncodeCall.Fits tg xi.apiKey (.getDatastream feedId id))
    (hd : Delivers cl (EncodeCall.text tg xi.apiKey (.getDatastream feedId id)) w conn d w')
    (hreply : reply.Plain) (hpayload : datapointText tg p = some reply.payload) (hp : Storable p)
    (hi : p.valueType = .i32) {k : ℕ} (hk : k < (digits (i32Value p.value).natAbs).length)
    (hcut : Cut reply (reply.text.length - (k + 1)) d) (l : Statics tg) :
    ∃ q x p', perform (.datastreamGet xi feedId id dest) .noErr (⟨l, w⟩ : Process tg cl) =
        .ret (true, .datapoint q) x p' ∧ (x = .noErr ↔ ¬ CloseFails cl conn w') ∧
      q.timestamp = p.timestamp ∧ q.valueType = .i32 ∧
      i32Value q.value = (i32Value p.value).tdiv (10 ^ k) := by
  have hlen := length_text reply
  obtain ⟨q, hq, htime, htype, hvalue⟩ := decode_cut hlong hp hi hpayload hk .noErr dest
  obtain ⟨stamp, hline, -⟩ := line_eq hlong hp hi hpayload
  have hlonger := length_digits_lt stamp (i32Value p.value)
  rw [← hline] at hlonger
  rcases headVerdict_take hreply (reply.text.length - (k + 1)) with ⟨hgood, -, htake⟩ | ⟨-, hlt⟩
  swap
  · omega
  have hrest : reply.text.length - (k + 1) - headLength reply = reply.payload.length - (k + 1) := by
    omega
  rw [hrest] at htake
  obtain ⟨y, w'', hclose⟩ := exists_closing (some conn) w'
  obtain ⟨p', hget⟩ := get_decoded h56 hfits hd (hcut.cstr_eq hreply) hgood
    (by rw [htake]; exact hq) hclose l
  exact ⟨q, _, p', hget, by simp [closed_noErr hclose], htime, htype, hvalue⟩

/-- The integer 42 at the beginning of the year 2014. -/
def counted : XiDatapoint := { stored with value := setI32Value (zero _) 42 }

/-- A reply with its text. -/
def countedReply : Reply :=
  { storedReply with payload := lit "2014-01-01T00:00:00.000000Z,42\n" }

lemma plain_countedReply : countedReply.Plain :=
  plain_payload plain_storedReply (by decide) (by decide +kernel)

/-- What a system sends that leaves the last two bytes of the reply for later. -/
def delayed : Received := ⟨countedReply.text.take (countedReply.text.length - 2), by decide +kernel⟩

lemma cut_delayed : Cut countedReply (countedReply.text.length - (1 + 1)) delayed :=
  ⟨rfl, by decide +kernel⟩

theorem cut_numbers_four : ∃ q x p', perform getCall .noErr
    (⟨.fresh posixConfig, freshWorld (answering delayed)⟩ :
      Process posixConfig (posixLayer (answering delayed))) = .ret (true, .datapoint q) x p' ∧
    i32Value q.value = 4 := by
  obtain ⟨conn, k', hd⟩ := delivers_answering delayed
    (getCall.request.text posixConfig getCall.apiKey) (freshWorld (answering delayed))
  have hstorable : Storable counted :=
    ⟨⟨storable_stored.1.instant, storable_stored.1.micro, .inl rfl⟩, storable_stored.2⟩
  have hvalue : i32Value counted.value = 42 := by decide +kernel
  have htext : datapointText posixConfig counted = some countedReply.payload := by decide +kernel
  obtain ⟨q, x, p', hrun, -, -, -, hq⟩ := cut_numbers (by decide) rfl fits_getCall hd
    plain_countedReply htext hstorable rfl (by rw [hvalue]; decide) cut_delayed (.fresh posixConfig)
  rw [hvalue] at hq
  exact ⟨q, x, p', hrun, hq⟩

/-! ### Cut feeds -/

section Feeds

variable {tg : Target} {cl : CommLayer} {w w' : cl.World} {conn : cl.Conn} {d : Received}
  {xi : XiContext} {feed : XiFeed}

/-- A get that is delivered a text with a good head brings back what it decodes. -/
lemma feedGet_decoded (h56 : 56 ≤ tg.contentBufferSize) (hfeed : feed.Readable)
    (hfits : EncodeCall.Fits tg xi.apiKey (.getFeed feed))
    (hd : Delivers cl (EncodeCall.text tg xi.apiKey (.getFeed feed)) w conn d w')
    {text : Text} (ht : cstr d.buffer = some text) (hv : headVerdict text = .good)
    {f : XiFeed} {x : XiErr} (hf : Decoded (some (csvDecodeFeed tg)) (payloadOf text) feed f x)
    {y : Option XiErr} {w'' : cl.World} (hc : Closing cl (some conn) w' y w'') (l : Statics tg) :
    ∃ p', perform (.feedGet xi feed) .noErr (⟨l, w⟩ : Process tg cl) =
      .ret (true, .feed f) (y.getD x) p' := by
  have hreq := @encode_decides tg xi.apiKey h56 (.getFeed feed) hfeed
  obtain ⟨l', hrun⟩ := responds_good hreq ⟨hfits, d, hd, ht⟩ hv hf hc l
  have hget : xiFeedGet xi feed .noErr (⟨l, w⟩ : Process tg cl) = .ret (true, f) _ _ := hrun
  exact ⟨_, ret_map hget _⟩

/-- **Cut feeds**: over every layer, a get that is made with no error pending and is delivered the
front of a plain reply with a feed of some lines, cut behind the head, returns a response. Of the
line the cut is in, nothing but its value may be missing: the get then brings back the feed up to
there, with what has come in of that value in the last datastream, and leaves no error unless the
close fails. With more missing, it leaves an error. -/
theorem cut_feeds {ls : List StreamLine} (h56 : 56 ≤ tg.contentBufferSize)
    (hlong : 32 ≤ tg.longBits) (hfeed : feed.Readable)
    (hfits : EncodeCall.Fits tg xi.apiKey (.getFeed feed))
    (hd : Delivers cl (EncodeCall.text tg xi.apiKey (.getFeed feed)) w conn d w')
    (hreply : reply.Plain) (hne : ls ≠ []) (hlt : ls.length < xiMaxDatastreams)
    (hpayload : reply.payload = feedText ls) (h1 : headLength reply ≤ n)
    (h2 : n ≤ reply.text.length) (hcut : Cut reply n d) (s : Statics tg) :
    ∃ (j : Fin xiMaxDatastreams) (l : StreamLine) (m : ℕ), ls[j.val]? = some l ∧
      m ≤ l.text.length ∧
      n = headLength reply + ((ls.take j).map fun l => l.text.length + 1).sum + m ∧
      ∃ f x p', perform (.feedGet xi feed) .noErr (⟨s, w⟩ : Process tg cl) =
          .ret (true, .feed f) x p' ∧
        (x = .noErr ↔ valueStart l ≤ m ∧ ¬ CloseFails cl conn w') ∧
        (valueStart l ≤ m → FrontFeed tg ls j l m f) := by
  have hlen := length_text reply
  rcases headVerdict_take hreply n with ⟨hgood, -, htake⟩ | ⟨-, hlow⟩
  swap
  · omega
  obtain ⟨j, l, m, hl, hm, hsum, hfront⟩ := take_feedText hne (n := n - headLength reply)
    (by rw [← hpayload]; omega)
  obtain ⟨hj, -⟩ := List.getElem?_eq_some_iff.mp hl
  obtain ⟨y, w'', hclose⟩ := exists_closing (some conn) w'
  refine ⟨⟨j, hj.trans hlt⟩, l, m, hl, hm, by simp only; omega, ?_⟩
  rw [hpayload, hfront] at htake
  have haccepts := @acceptsFeed_front tg ls l m ⟨j, hj.trans hlt⟩ hl hlong hlt
  obtain ⟨f, x, hf, hx⟩ := @decoded_feed tg (frontText ls j l m) feed
  obtain ⟨p', hget⟩ := feedGet_decoded h56 hfeed hfits hd (hcut.cstr_eq hreply) hgood
    (by rw [htake]; exact hf) hclose s
  refine ⟨f, _, p', hget, ?_, fun hstart => ?_⟩
  · rw [closed_noErr hclose, hx, haccepts]
  · obtain ⟨f', hrun, hholds⟩ := @csvDecodeFeed_front tg ls l m ⟨j, hj.trans hlt⟩ hl hlong hlt
      hstart .noErr feed
    obtain ⟨v, hv⟩ := hf
    rw [hrun] at hv
    injection hv with _ _ hv
    rwa [← hv]

end Feeds

def feedCall : XiFeed := { XiFeed.zero with feedId := 1 }

lemma fits_feedCall : EncodeCall.Fits posixConfig user.apiKey (.getFeed feedCall) :=
  ⟨by rintro _ ⟨⟩; exact ⟨_, rfl, by decide⟩, by decide, by decide +kernel, by decide,
    by decide +kernel⟩

/-- Two datastreams with the integer 5. -/
def fives : List StreamLine := [plainLine, plainLine]

def feedReply : Reply := { storedReply with payload := feedText fives }

lemma plain_feedReply : feedReply.Plain :=
  plain_payload plain_storedReply (by decide +kernel) (by decide +kernel)

/-- What a system sends that leaves the second of the two integers for later. -/
def halved : Received := ⟨feedReply.text.take (feedReply.text.length - 1), by decide +kernel⟩

lemma cut_halved : Cut feedReply (feedReply.text.length - 1) halved := ⟨rfl, by decide +kernel⟩

theorem cut_feeds_empty : ∃ f x p', perform (.feedGet user feedCall) .noErr
    (⟨.fresh posixConfig, freshWorld (answering halved)⟩ :
      Process posixConfig (posixLayer (answering halved))) = .ret (true, .feed f) x p' ∧
    f.datastreamCount = 2 ∧ xiGetValueType ((f.datastreams 1).datapoints 0) = .str := by
  obtain ⟨conn, k', hd⟩ := delivers_answering halved
    (EncodeCall.text posixConfig user.apiKey (.getFeed feedCall)) (freshWorld (answering halved))
  have hreadable : feedCall.Readable := ⟨by decide, nofun, nofun, nofun⟩
  have hhead : headLength feedReply ≤ feedReply.text.length - 1 := by decide +kernel
  have hline : plainLine.text.length = 31 ∧ valueStart plainLine = 30 := by decide +kernel
  have hpayload : feedReply.payload.length = 63 := by decide +kernel
  have hlen := length_text feedReply
  obtain ⟨j, l, m, hl, hm, hn, f, x, p', hrun, -, hfront⟩ := cut_feeds (by decide) (by decide)
    hreadable fits_feedCall hd plain_feedReply (by simp [fives]) (by decide) rfl hhead
    (Nat.sub_le _ _) cut_halved (.fresh posixConfig)
  obtain rfl : l = plainLine := by
    have hmem := List.mem_of_getElem? hl
    simpa [fives] using hmem
  obtain ⟨hj, -⟩ := List.getElem?_eq_some_iff.mp hl
  have hj1 : j.val = 1 := by
    by_contra hne
    have hj0 : j.val = 0 := by
      have hlt : j.val < 2 := hj
      omega
    rw [hj0] at hn
    simp only [List.take_zero, List.map_nil, List.sum_nil] at hn
    omega
  obtain rfl : j = 1 := Fin.ext hj1
  have hsum : ((fives.take 1).map fun l => l.text.length + 1).sum = 32 := by decide +kernel
  obtain rfl : m = 30 := by
    rw [hj1, hsum] at hn
    omega
  obtain ⟨hcount, -, hlast⟩ := hfront (by omega)
  refine ⟨f, x, p', hrun, hcount, ?_⟩
  rw [hlast.value.type, hline.2]
  decide +kernel

end LibXively.CutReplies
