import LibXively.Api.Conversations
import LibXively.Decoding.RoundTrip
import LibXively.Replies.Render
import LibXively.Requests.RequestMeaning

/-!
The datastreams behind the API as registers.

A peer keeps, under each path, the body it was last sent, and renders it into its replies. To the
user a datastream then is a register: what was last put into it is what a get brings back.
-/

namespace LibXively.Registers

open LibXively.Bytes LibXively.Decimal LibXively.CProc LibXively.CharArray LibXively.Structures
open LibXively.CsvData LibXively.HttpQueries LibXively.HttpParser LibXively.CommLayers
open LibXively.Xively LibXively.Append LibXively.Runs LibXively.CsvText LibXively.Builders
open LibXively.Encoders LibXively.FeedRequests LibXively.Framing LibXively.StartLine
open LibXively.RequestFraming LibXively.RequestTarget LibXively.Datapoints LibXively.RoundTrip
open LibXively.Head LibXively.Render LibXively.Exchanges LibXively.Calls LibXively.Traffic
open LibXively.PosixComm LibXively.PosixLayer LibXively.Layers LibXively.Conversations
open LibXively.RequestMeaning (fmtD_feedId_injective)

/-! ### Replies that are written -/

variable {reply : Reply}

/-- A reply the parser has room for has a good head, and its payload is found behind it. -/
lemma headVerdict_plain (hp : reply.Plain) :
    headVerdict reply.text = .good ∧ payloadOf reply.text = reply.payload := by
  obtain ⟨r, hhead, -⟩ := parseHead_text hp
  have hdrop : reply.text.drop
      (reply.statusLine.length + (linesOf reply.headers).length + 4) = reply.payload := by
    rw [Reply.text_eq, ← List.append_assoc, ← List.append_assoc]
    refine List.drop_left' ?_
    rw [List.length_append, List.length_append]
    rfl
  have hends := parseHead_verdict reply.text
  cases hv : headVerdict reply.text with
  | good =>
    rw [hv] at hends
    obtain ⟨n, r', hn, hrun⟩ := hends
    have hsame := (Outcome.ret.inj ((hrun .noErr .zero).symm.trans (hhead .noErr .zero))).1
    exact ⟨rfl, by rw [← hn, hsame, hdrop]⟩
  | refused =>
    rw [hv] at hends
    rcases hends with ⟨n, x, r', hx, hrun⟩ | ⟨x, r', -, hrun⟩
    · have hsame := (Outcome.ret.inj ((hrun .noErr .zero).symm.trans (hhead .noErr .zero))).2.1
      exact absurd hsame hx
    · exact absurd ((hrun .noErr .zero).symm.trans (hhead .noErr .zero)) nofun
  | crash =>
    rw [hv] at hends
    exact absurd ((hends .noErr .zero).symm.trans (hhead .noErr .zero)) nofun

/-- There is no NUL in it. -/
lemma zero_not_mem_reply (hp : reply.Plain) : 0 ∉ reply.text := by
  have hdigits (n : ℕ) : 0 ∉ digits n := fun h => absurd (isDigit_of_mem_digits h) (by decide)
  have hreason : 0 ∉ reply.reason := fun h => (hp.reason_bytes 0 h).2.2 rfl
  have hsection : 0 ∉ headerSection reply.headers := by
    intro hmem
    obtain ⟨h, hh, hin⟩ := List.mem_flatMap.mp hmem
    have hplain := hp.headers h hh
    simp only [lineOf, List.mem_append] at hin
    rcases hin with ((hname | hcolon) | hvalue) | hend
    · exact (hplain.name_bytes 0 hname).2.2.2 rfl
    · exact absurd hcolon (by decide)
    · exact (hplain.value_bytes 0 hvalue).2.2 rfl
    · exact absurd hend (by decide)
  have hcrlf : 0 ∉ xiHttpCrlf := by decide
  have hfixed : 0 ∉ lit "HTTP/" ∧ 0 ∉ lit "." ∧ 0 ∉ lit " " := by decide
  simp only [Reply.text, Reply.statusLine, List.mem_append, not_or]
  simp [hdigits, hreason, hsection, hcrlf, hfixed, hp.payload_bytes]

/-- What is received is a reply with `body` as its payload, in front of the last byte of the
buffer. -/
def Writes (body : Text) (d : Received) : Prop :=
  ∃ reply : Reply, reply.Plain ∧ reply.payload = body ∧ d.bytes = reply.text ∧
    d.bytes.length < xiHttpMaxContentSize

lemma Writes.read {body : Text} {d : Received} (h : Writes body d) : ∃ text,
    cstr d.buffer = some text ∧ headVerdict text = .good ∧ payloadOf text = body := by
  obtain ⟨reply, hplain, rfl, hbytes, hlen⟩ := h
  obtain ⟨hgood, hpayload⟩ := headVerdict_plain hplain
  refine ⟨reply.text, ?_, hgood, hpayload⟩
  rw [Received.buffer, hbytes]
  exact cstr_strncpy (zero_not_mem_reply hplain) (hbytes ▸ hlen)

/-! ### Datastreams and their paths -/

/-- The datastream a call is about, if it updates, gets or deletes one. -/
def streamOf : ApiCall → Option (UInt32 × Text)
  | .datastreamUpdate _ feedId id _ => some (feedId, id.bytes)
  | .datastreamGet _ feedId id _ => some (feedId, id.bytes)
  | .datastreamDelete _ feedId id => some (feedId, id.bytes)
  | _ => none

/-- The path of a datastream, with the id of its feed as it is printed. -/
def streamPath (s : UInt32 × Text) : Text :=
  printedPath s.1 (lit "/datastreams/" ++ s.2 ++ lit ".csv")

/-- Datastreams have paths of their own. -/
lemma streamPath_injective {s s' : UInt32 × Text} (h : streamPath s = streamPath s') : s = s' := by
  have hslash : lit "/datastreams/" = 47 :: lit "datastreams/" := by decide
  have hnot (v : ℤ) : 47 ∉ fmtD v := by
    intro hmem
    rcases of_mem_fmtD hmem with hc | hc
    · exact absurd hc (by decide)
    · exact absurd hc (by decide)
  simp only [streamPath, printedPath, List.append_assoc, List.append_cancel_left_eq, hslash,
    List.cons_append] at h
  have hfind := strstr_singleton_append (hnot (toInt32 s.1.toNat))
    (lit "datastreams/" ++ (s.2 ++ lit ".csv"))
  have hfind' := strstr_singleton_append (hnot (toInt32 s'.1.toNat))
    (lit "datastreams/" ++ (s'.2 ++ lit ".csv"))
  rw [h, hfind'] at hfind
  obtain ⟨hfeed, hrest⟩ := List.append_inj h (Option.some.inj hfind).symm
  have hid : s.2 = s'.2 := by simpa using hrest
  exact Prod.ext (fmtD_feedId_injective hfeed) hid

/-! ### What the peer reads -/

/-- The request line and the body of a request. -/
def readRequest (t : Text) : Option (RequestLine × Text) :=
  (message t).bind fun m => (readRequestLine m.startLine).map fun r => (r, m.body)

/-- The call is about a datastream whose id is a name, and it can make its request in one piece. -/
structure Proper (c : ApiCall) (s : UInt32 × Text) : Prop where
  stream : streamOf c = some s
  named : NameText s.2
  readable : c.request.Readable
  key : OneLine c.apiKey.bytes

/-- A target whose requests frame themselves. -/
structure Framed (tg : Target) : Prop where
  content : 56 ≤ tg.contentBufferSize
  size : tg.queryBufferSize + tg.contentBufferSize ≤ 2 ^ 31
  userAgent : OneLine tg.userAgent.bytes

variable {tg : Target} {cl : CommLayer}

lemma readRequest_text (ht : Framed tg) {c : ApiCall} {s : UInt32 × Text} (hc : Proper c s)
    (hfits : c.request.Fits tg c.apiKey) : readRequest (c.request.text tg c.apiKey) =
      some (⟨c.request.method, streamPath s, none⟩, (c.request.body tg).getD []) := by
  obtain ⟨hstream, hnamed, hreadable, hkey⟩ := hc
  have hlen : ((c.request.body tg).getD []).length < 2 ^ 31 := by
    have hbody := @length_body_le tg c.apiKey c.request
    have htext := hfits.text
    have hsize := ht.size
    omega
  have hread {r : RequestLine} (hn : Named c.request) (hr : resource c.request = some r)
      (hpath : r.path = feedResource (feedIdOf c.request) ++
        (lit "/datastreams/" ++ s.2 ++ lit ".csv")) (hq : r.query = none)
      (hid : feedIdOf c.request = s.1) : readRequest (c.request.text tg c.apiKey) =
        some (⟨c.request.method, streamPath s, none⟩, (c.request.body tg).getD []) := by
    obtain ⟨rest, hprints⟩ := @exists_prints tg _ hreadable hn r hr
    have hrest : rest = lit "/datastreams/" ++ s.2 ++ lit ".csv" :=
      List.append_cancel_left (hprints.path.symm.trans hpath)
    rw [readRequest, message_text hreadable ht.userAgent hkey (headOneLine_of_named hn hr) hlen,
      Option.bind_some, readRequestLine_prints hprints, hrest, hid, hprints.method, hq]
    rfl
  cases c with
  | datastreamUpdate xi feedId id p =>
    cases hstream
    exact hread (r := ⟨lit "PUT", _, none⟩) hnamed rfl rfl rfl rfl
  | datastreamGet xi feedId id o =>
    cases hstream
    exact hread (r := ⟨lit "GET", _, none⟩) hnamed rfl rfl rfl rfl
  | datastreamDelete xi feedId id =>
    cases hstream
    exact hread (r := ⟨lit "DELETE", _, none⟩) hnamed rfl rfl rfl rfl
  | _ => cases hstream

/-! ### What the peer keeps -/

/-- The body the peer keeps under each path. -/
abbrev Kept := Text → Option Text

/-- What is kept behind a request. -/
def Kept.after (k : Kept) (t : Text) : Kept :=
  match readRequest t with
  | some (r, body) =>
    if r.method = lit "PUT" then Function.update k r.path (some body)
    else if r.method = lit "DELETE" then Function.update k r.path none
    else k
  | none => k

section After

variable {k : Kept} {t : Text} {req : RequestLine} {b : Text}

lemma Kept.after_put (h : readRequest t = some (req, b)) (hm : req.method = lit "PUT") :
    k.after t = Function.update k req.path (some b) := by
  rw [Kept.after, h]
  exact if_pos hm

lemma Kept.after_delete (h : readRequest t = some (req, b)) (hm : req.method = lit "DELETE") :
    k.after t = Function.update k req.path none := by
  have hput : ¬ req.method = lit "PUT" := by rw [hm]; decide
  rw [Kept.after, h]
  exact (if_neg hput).trans (if_pos hm)

lemma Kept.after_get (h : readRequest t = some (req, b)) (hm : req.method = lit "GET") :
    k.after t = k := by
  have hput : ¬ req.method = lit "PUT" := by rw [hm]; decide
  have hdelete : ¬ req.method = lit "DELETE" := by rw [hm]; decide
  rw [Kept.after, h]
  exact (if_neg hput).trans (if_neg hdelete)

end After

/-- The peer answers a request for a body it keeps with that body. -/
def Serves (k : Kept) (t : Text) (d : Received) : Prop :=
  ∀ r b body, readRequest t = some (r, b) → r.method = lit "GET" → k r.path = some body →
    Writes body d

/-- A call about a datastream. The peer takes its request up, or else the call gets no response;
and what it delivers is what it keeps. -/
structure Served (tg : Target) (cl : CommLayer) (s : Kept × Process tg cl) (i : Visit)
    (s' : Kept × Process tg cl) : Prop where
  proper : ∃ d, Proper i.2.1 d
  performs : Performs s.2 i s'.2
  kept : (i.2.1.request.Fits tg i.2.1.apiKey ∧
      s'.1 = s.1.after (i.2.1.request.text tg i.2.1.apiKey)) ∨ (s'.1 = s.1 ∧ i.2.2.1.1 = false)
  serves : ∀ conn d w', Delivers cl (i.2.1.request.text tg i.2.1.apiKey) s.2.world conn d w' →
    Serves s.1 (i.2.1.request.text tg i.2.1.apiKey) d

/-! ### Registers -/

/-- What was last put into each datastream. -/
abbrev Registry := UInt32 × Text → Option XiDatapoint

/-- A datapoint that comes back from its text. -/
def Storable (p : XiDatapoint) : Prop :=
  Plain p ∧ p.timestamp.timestamp % 2 ^ 32 ≠ 2 ^ 32 - 1

/-- What a call does to the registers, and what it brings back of them. A call without a response
may have been lost. -/
inductive RegisterStep (r : Registry) : Visit → Registry → Prop
  | lost {e c o x} : RegisterStep r (e, c, (false, o), x) r
  | put {e xi feedId id p o x} : RegisterStep r (e, .datastreamUpdate xi feedId id p, o, x)
      (Function.update r (feedId, id.bytes) (some p))
  | removed {e xi feedId id o x} : RegisterStep r (e, .datastreamDelete xi feedId id, o, x)
      (Function.update r (feedId, id.bytes) none)
  | got {e xi feedId id dest q x}
      (h : ∀ p, r (feedId, id.bytes) = some p → Storable p → Agrees p q) :
      RegisterStep r (e, .datastreamGet xi feedId id dest, (true, .datapoint q), x) r

/-- The peer keeps the text of each register, under the path of its datastream. -/
def Holds (tg : Target) (k : Kept) (r : Registry) : Prop :=
  ∀ s : UInt32 × Text, NameText s.2 → k (streamPath s) = (r s).bind (datapointText tg)

variable {k : Kept} {r : Registry} {s : UInt32 × Text}

/-- Registers change where their texts do. -/
lemma Holds.update (h : Holds tg k r) (v : Option XiDatapoint) :
    Holds tg (Function.update k (streamPath s) (v.bind (datapointText tg)))
      (Function.update r s v) := by
  intro s' hs'
  by_cases heq : s' = s
  · subst heq
    rw [Function.update_self, Function.update_self]
  · rw [Function.update_of_ne heq, Function.update_of_ne fun hp => heq (streamPath_injective hp)]
    exact h s' hs'

lemma Holds.put {t body : Text} {p : XiDatapoint} (h : Holds tg k r)
    (hread : readRequest t = some (⟨lit "PUT", streamPath s, none⟩, body))
    (hbody : datapointText tg p = some body) :
    Holds tg (k.after t) (Function.update r s (some p)) := by
  have hupdate := h.update (s := s) (some p)
  rw [Option.bind_some, hbody] at hupdate
  rwa [Kept.after_put hread rfl]

lemma Holds.removed {t body : Text} (h : Holds tg k r)
    (hread : readRequest t = some (⟨lit "DELETE", streamPath s, none⟩, body)) :
    Holds tg (k.after t) (Function.update r s none) := by
  rw [Kept.after_delete hread rfl]
  exact h.update none

section Get

variable {xi : XiContext} {feedId : UInt32} {id : CString} {dest p : XiDatapoint} {e : XiErr}
  {w w' : cl.World} {conn : cl.Conn} {d : Received} {l : Statics tg}

/-- A get whose reply has a good head returns a response, and brings back what the decoder makes of
the payload. -/
lemma get_decoded (h56 : 56 ≤ tg.contentBufferSize)
    (hfits : EncodeCall.Fits tg xi.apiKey (.getDatastream feedId id))
    (hd : Delivers cl (EncodeCall.text tg xi.apiKey (.getDatastream feedId id)) w conn d w')
    {text : Text} (ht : cstr d.buffer = some text) (hv : headVerdict text = .good)
    {q : XiDatapoint} {ok : Bool} {x : XiErr}
    (hq : csvDecodeDatapoint tg (payloadOf text) .noErr dest = .ret ok x q) {y : Option XiErr}
    {w'' : cl.World} (hc : Closing cl (some conn) w' y w'') (l : Statics tg) :
    ∃ p', perform (.datastreamGet xi feedId id dest) .noErr (⟨l, w⟩ : Process tg cl) =
      .ret (true, .datapoint q) (y.getD x) p' := by
  have hreq := @encode_decides tg xi.apiKey h56 (.getDatastream feedId id) trivial
  have hdecoded : Decoded (some (csvDecodeDatapoint tg)) (payloadOf text) dest q x := ⟨ok, hq⟩
  obtain ⟨l', hrun⟩ := responds_good hreq ⟨hfits, d, hd, ht⟩ hv hdecoded hc l
  have hget : xiDatastreamGet xi feedId id dest .noErr (⟨l, w⟩ : Process tg cl) =
    .ret (true, q) _ _ := hrun
  exact ⟨_, ret_map hget _⟩

/-- A get that is delivered the text of a datapoint brings it back, and with an error pending it
brings back nothing. -/
lemma get_written (h56 : 56 ≤ tg.contentBufferSize) (hlong : tg.longBits = 64)
    (hfits : EncodeCall.Fits tg xi.apiKey (.getDatastream feedId id))
    (hd : Delivers cl (EncodeCall.text tg xi.apiKey (.getDatastream feedId id)) w conn d w')
    {body : Text} (hwrites : Writes body d) (hbody : datapointText tg p = some body)
    (hp : Storable p) (l : Statics tg) :
    (∃ q x p', perform (.datastreamGet xi feedId id dest) .noErr (⟨l, w⟩ : Process tg cl) =
      .ret (true, .datapoint q) x p' ∧ Agrees p q) ∧
    (e ≠ .noErr → ∃ x p', perform (.datastreamGet xi feedId id dest) e (⟨l, w⟩ : Process tg cl) =
      .ret (false, .datapoint dest) x p') := by
  obtain ⟨text, ht, hv, rfl⟩ := hwrites.read
  obtain ⟨y, w'', hc⟩ := exists_closing (some conn) w'
  constructor
  · obtain ⟨q, hq, hagrees⟩ := (hp.1.decode hlong hbody .noErr dest).2 hp.2
    obtain ⟨p', hget⟩ := get_decoded h56 hfits hd ht hv hq hc l
    exact ⟨q, _, p', hget, hagrees⟩
  · intro he
    have hreq := @encode_decides tg xi.apiKey h56 (.getDatastream feedId id) trivial
    have hfails : ∃ x l', x ≠ .noErr ∧ xiDatastreamGet xi feedId id dest e
        (⟨l, w⟩ : Process tg cl) = .ret (false, dest) x ⟨l', w''⟩ :=
      fails_pending hreq ⟨hfits, d, hd, ht⟩ hv hc he l dest
    obtain ⟨x, l', -, hget⟩ := hfails
    exact ⟨x, _, ret_map hget _⟩

lemma get_agrees {q : XiDatapoint} {x : XiErr} {p₁ p₂ : Process tg cl}
    (h56 : 56 ≤ tg.contentBufferSize) (hlong : tg.longBits = 64)
    (hfits : EncodeCall.Fits tg xi.apiKey (.getDatastream feedId id))
    (hd : Delivers cl (EncodeCall.text tg xi.apiKey (.getDatastream feedId id)) p₁.world conn d w')
    {body : Text} (hwrites : Writes body d) (hbody : datapointText tg p = some body)
    (hp : Storable p)
    (h : perform (.datastreamGet xi feedId id dest) e p₁ = .ret (true, .datapoint q) x p₂) :
    Agrees p q := by
  obtain ⟨l, w⟩ := p₁
  obtain ⟨⟨q', y, p', hgot, hagrees⟩, hpending⟩ :=
    @get_written tg cl xi feedId id dest p e w w' conn d h56 hlong hfits hd body hwrites hbody hp l
  by_cases he : e = .noErr
  · subst he
    rw [h] at hgot
    injection hgot with hq
    injection hq with _ hq
    injection hq with hq
    exact hq ▸ hagrees
  · obtain ⟨y, p', hgot⟩ := hpending he
    rw [h] at hgot
    cases hgot

end Get

/-- A call with a response has been delivered something. -/
lemma performs_delivers (h56 : 56 ≤ tg.contentBufferSize) {i : Visit}
    (hi : i.2.1.request.Readable) {p p' : Process tg cl} (h : Performs p i p')
    (hresponse : i.2.2.1.1 = true) : i.2.1.request.Fits tg i.2.1.apiKey ∧
      ∃ conn d w', Delivers cl (i.2.1.request.text tg i.2.1.apiKey) p.world conn d w' := by
  obtain ⟨l, w⟩ := p
  rcases run_traffic (performs_run h) with ⟨-, -, hv⟩ |
    ⟨data, o, conn, w₁, y, hmakes, hexchanged, -, hfailed⟩
  · rw [hv] at hresponse
    cases hresponse
  · obtain ⟨hfits, hdata⟩ := (makes_iff h56 hi _ _ _).mp hmakes
    rw [hdata] at hexchanged
    cases o with
    | false =>
      rw [(hfailed rfl).1] at hresponse
      cases hresponse
    | true =>
      obtain ⟨c, d, hd⟩ := hexchanged.delivers
      exact ⟨hfits, c, d, _, hd⟩

/-- A get that brings back an object brings back a datapoint. -/
lemma perform_get {xi : XiContext} {feedId : UInt32} {id : CString} {dest : XiDatapoint}
    {e x : XiErr} {v : Bool} {o : Filled} {p p' : Process tg cl}
    (h : perform (.datastreamGet xi feedId id dest) e p = .ret (v, o) x p') :
    ∃ q, o = .datapoint q := by
  obtain ⟨⟨v', q⟩, -, hmap⟩ := map_ret h
  exact ⟨q, (congrArg Prod.snd hmap).symm⟩

/-- Over a peer that keeps the texts of the registers, a call is a step of the registers. -/
lemma served_step (hlong : tg.longBits = 64) (ht : Framed tg) {i : Visit}
    {t t' : Kept × Process tg cl} (hk : Holds tg t.1 r) (h : Served tg cl t i t') :
    ∃ r', RegisterStep r i r' ∧ Holds tg t'.1 r' := by
  obtain ⟨e, c, ⟨v, o⟩, x⟩ := i
  obtain ⟨k, w⟩ := t
  obtain ⟨k', w'⟩ := t'
  obtain ⟨⟨s, hproper⟩, hperforms, hkept, hserves⟩ := h
  simp only at hproper hkept hserves hk ⊢
  rcases hkept with ⟨hfits, hkept⟩ | ⟨hkept, hv⟩
  swap
  · rw [hkept, hv]
    exact ⟨r, .lost, hk⟩
  have hread := readRequest_text ht hproper hfits
  rw [hkept]
  cases c with
  | datastreamUpdate xi feedId id p =>
    obtain rfl := Option.some.inj hproper.stream
    obtain ⟨text, htext, -⟩ := hfits.staged _ rfl
    have htext : datapointText tg p = some text := htext
    have hbody : (EncodeCall.body tg (.updateDatastream feedId id p)).getD [] = text := by
      simp only [EncodeCall.body, EncodeCall.front, EncodeCall.staged, Option.getD_some,
        Option.bind_some, htext]
    rw [ApiCall.request, hbody] at hread
    exact ⟨_, .put, hk.put hread htext⟩
  | datastreamDelete xi feedId id =>
    obtain rfl := Option.some.inj hproper.stream
    exact ⟨_, .removed, hk.removed hread⟩
  | datastreamGet xi feedId id dest =>
    obtain rfl := Option.some.inj hproper.stream
    rw [Kept.after_get hread rfl]
    cases v with
    | false => exact ⟨r, .lost, hk⟩
    | true =>
      obtain ⟨q, rfl⟩ := perform_get hperforms
      refine ⟨r, .got fun p hr hp => ?_, hk⟩
      obtain ⟨-, conn, d, w', hd⟩ := performs_delivers ht.content hproper.readable hperforms rfl
      obtain ⟨stamp, v, hbody, -⟩ := hp.1.datapointText_eq hlong
      have hholds := hk (feedId, id.bytes) hproper.named
      rw [hr, Option.bind_some, hbody] at hholds
      have hwrites := hserves conn d w' hd _ _ _ hread rfl hholds
      exact get_agrees ht.content hlong hfits hd hwrites hbody hp hperforms
  | _ => cases hproper.stream

/-- **Datastreams are registers**: over a peer that keeps under each path the body it was last sent,
and whose replies are written with these bodies, a run of updates, gets and deletions of datastreams
is a run of registers, though requests and replies may be lost: where what was last put is storable,
no get brings back anything else. And a get that is made with no error pending, and is answered,
does bring it back. -/
theorem datastreams_are_registers (hlong : tg.longBits = 64) (ht : Framed tg) {is : List Visit}
    {k k' : Kept} {p p' : Process tg cl} (hk : Holds tg k r)
    (h : Run (Served tg cl) (k, p) is (k', p')) :
    ∃ r', Run RegisterStep r is r' ∧ Holds tg k' r' ∧
      ∀ xi feedId id dest point conn d w', r' (feedId, id.bytes) = some point → Storable point →
        Proper (.datastreamGet xi feedId id dest) (feedId, id.bytes) →
        EncodeCall.Fits tg xi.apiKey (.getDatastream feedId id) →
        Delivers cl (EncodeCall.text tg xi.apiKey (.getDatastream feedId id)) p'.world conn d w' →
        Serves k' (EncodeCall.text tg xi.apiKey (.getDatastream feedId id)) d →
        ∃ q x p'', Performs p' (.noErr, .datastreamGet xi feedId id dest, (true, .datapoint q), x)
          p'' ∧ Agrees point q := by
  obtain ⟨r', hrun, hk'⟩ := @Run.simulated _ _ _ _ (Served tg cl) RegisterStep _ _ _
    (fun t r => Holds tg t.1 r) id (fun hk h => served_step hlong ht hk h) h r hk
  rw [List.map_id] at hrun
  refine ⟨r', hrun, hk', ?_⟩
  intro xi feedId id dest point conn d w' hr hpoint hproper hfits hd hserves
  obtain ⟨l, w⟩ := p'
  obtain ⟨stamp, v, hbody, -⟩ := hpoint.1.datapointText_eq hlong
  have hheld := hk' (feedId, id.bytes) hproper.named
  rw [hr, Option.bind_some, hbody] at hheld
  have hread := readRequest_text ht hproper hfits
  exact (get_written (e := .noErr) ht.content hlong hfits hd
    (hserves _ _ _ hread rfl hheld) hbody hpoint l).1

/-! ### A put and a get -/

/-- A build that spends little of its buffers on its user agent. -/
def shortConfig : Target :=
  xiConfig ⟨lit "xi", by decide⟩ 64 (fun _ => 0) posixConfig.fmtF

lemma framed_shortConfig : Framed shortConfig := ⟨by decide, by decide, by decide⟩

/-- The integer 0 at the beginning of the year 2014. -/
def stored : XiDatapoint := zeroAt 1388534400

lemma storable_stored : Storable stored := ⟨plain_zeroAt (by norm_num), by decide⟩

/-- A reply with its text. -/
def storedReply : Reply where
  version1 := 1
  version2 := 1
  status := 200
  reason := lit "OK"
  headers := [(lit "Age", lit "1")]
  payload := lit "2014-01-01T00:00:00.000000Z,0\n"

lemma plain_storedReply : storedReply.Plain where
  version1 := by norm_num [storedReply]
  version2 := by norm_num [storedReply]
  status := by norm_num [storedReply]
  reason_length := by decide
  reason_bytes := by decide +kernel
  reason_head := by decide +kernel
  headers_length := by decide
  headers := List.forall_mem_singleton.mpr
    ⟨by decide, by decide +kernel, by decide, by decide +kernel⟩
  payload_length := by decide
  payload_bytes := by decide +kernel

lemma length_storedReply : storedReply.text.length < xiHttpMaxContentSize := by decide +kernel

/-- What a system sends that answers every request with that reply. -/
def sent : Received := ⟨storedReply.text, length_storedReply.le⟩

lemma writes_sent : Writes storedReply.payload sent :=
  ⟨storedReply, plain_storedReply, rfl, rfl, length_storedReply⟩

lemma datapointText_stored : datapointText shortConfig stored = some storedReply.payload := by
  decide +kernel

def putCall : ApiCall := .datastreamUpdate user 1 smallId stored

lemma readable_putCall : putCall.Readable := by
  intro h
  exact absurd h (by decide)

lemma body_putCall : putCall.request.body shortConfig = some storedReply.payload := by
  have hfront : putCall.request.front shortConfig = storedReply.payload := by
    rw [EncodeCall.front, putCall, ApiCall.request, EncodeCall.staged, Option.bind_some,
      datapointText_stored]
    rfl
  rw [← hfront]
  rfl

lemma fits_putCall : putCall.request.Fits shortConfig putCall.apiKey where
  staged := by
    rintro _ ⟨⟩
    rw [datapointText_stored]
    exact ⟨_, rfl, by decide⟩
  path := by decide
  query := by decide +kernel
  content := by rw [body_putCall]; decide +kernel
  text := by rw [EncodeCall.text, body_putCall]; decide +kernel

lemma fits_getCall_short : getCall.request.Fits shortConfig getCall.apiKey :=
  ⟨by rintro _ ⟨⟩, by decide, by decide +kernel, by decide, by decide +kernel⟩

lemma proper_smallId {c : ApiCall} (hs : streamOf c = some (1, smallId.bytes))
    (hr : c.request.Readable) (hk : c.apiKey = smallKey) : Proper c (1, smallId.bytes) where
  stream := hs
  named := named_smallId
  readable := hr
  key := by rw [hk]; decide

lemma proper_putCall : Proper putCall (1, smallId.bytes) :=
  proper_smallId rfl readable_putCall rfl

/-- The peer has kept nothing before. -/
def nothingKept : Kept := fun _ => none

/-- A process over these peers that has not begun. -/
def unused : Process shortConfig (posixLayer (answering sent)) :=
  ⟨.fresh shortConfig, freshWorld (answering sent)⟩

/-- The put gets its response. -/
lemma performs_putCall : ∃ x p', Performs unused (.noErr, putCall, (true, .nothing), x) p' := by
  obtain ⟨text, ht, hv, -⟩ := writes_sent.read
  obtain ⟨conn, k', hd⟩ := delivers_answering sent
    (putCall.request.text shortConfig putCall.apiKey) unused.world
  have hwell : putCall.WellAnswered shortConfig unused.world :=
    ⟨conn, text, k', ⟨fits_putCall, sent, hd, ht⟩, hv⟩
  rcases run_ends framed_shortConfig.content readable_putCall unused.world with
    ⟨-, k'', hruns, -⟩ | ⟨hbad, -⟩
  · obtain ⟨x, l', hrun, -⟩ := hruns unused.statics
    exact ⟨x, ⟨l', k''⟩, ret_map hrun _⟩
  · exact absurd hwell hbad

theorem datastreams_are_registers_put : ∃ x p',
    Performs unused (.noErr, putCall, (true, .nothing), x) p' ∧
    ∃ q y p'', Performs p' (.noErr, getCall, (true, .datapoint q), y) p'' ∧ Agrees stored q := by
  obtain ⟨x, p', hput⟩ := performs_putCall
  have hread := readRequest_text framed_shortConfig proper_putCall fits_putCall
  obtain ⟨k, hkept⟩ : ∃ k, k = nothingKept.after (putCall.request.text shortConfig
    putCall.apiKey) := ⟨_, rfl⟩
  have hserved : Served shortConfig (posixLayer (answering sent)) (nothingKept, unused)
      (.noErr, putCall, (true, .nothing), x) (k, p') := by
    refine ⟨⟨_, proper_putCall⟩, hput, .inl ⟨fits_putCall, hkept⟩, ?_⟩
    intro _ _ _ _ _ _ _ _ _ hk
    cases hk
  obtain ⟨r', hrun, -, hget⟩ := datastreams_are_registers rfl framed_shortConfig
    (r := fun _ => none) (fun _ _ => rfl) (.cons hserved (.nil _))
  have hr' : r' (1, smallId.bytes) = some stored := by
    cases hrun with
    | cons hstep hrest =>
      cases hrest
      cases hstep
      exact Function.update_self ..
  obtain ⟨conn, k', hd⟩ := delivers_answering sent
    (getCall.request.text shortConfig getCall.apiKey) p'.world
  refine ⟨x, p', hput, hget user 1 smallId .zero stored conn sent k' hr' storable_stored
    (proper_smallId rfl trivial rfl) fits_getCall_short hd ?_⟩
  intro req b body _ _ hk
  rw [hkept, Kept.after_put hread rfl, body_putCall] at hk
  by_cases hpath : req.path = streamPath (1, smallId.bytes)
  · rw [hpath, Function.update_self] at hk
    exact Option.some.inj hk ▸ writes_sent
  · rw [Function.update_of_ne hpath] at hk
    cases hk

end LibXively.Registers
