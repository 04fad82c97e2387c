import LibXively.Api.Calls

/-!
What the two get functions report.

A get that does not get as far as a good reply returns null and leaves an error. But the response is
there from then on, and a content that cannot be decoded does not take it away.
-/

namespace LibXively.Outcomes

open LibXively.Bytes LibXively.CProc LibXively.CharArray LibXively.Structures LibXively.CsvData
open LibXively.HttpQueries LibXively.CommLayers LibXively.Xively LibXively.PosixComm
open LibXively.PosixLayer LibXively.Append LibXively.Encoders LibXively.FeedRequests
open LibXively.Datapoints LibXively.Feeds LibXively.Head LibXively.Exchanges LibXively.Calls

variable {tg : Target} {cl : CommLayer} {δ : Type}

/-- Every step of a get has succeeded: the peer has answered the request with a reply that has a
good head, and the decoder has made `d` of its content. -/
def EveryStep (tg : Target) (cl : CommLayer) (apiKey : CString) (c : EncodeCall) (w : cl.World)
    (decode : Text → Proc XiErr δ Bool) (dest d : δ) : Prop :=
  ∃ conn text w' x, Answered cl (c.Fits tg apiKey) (c.text tg apiKey) w conn text w' ∧
    headVerdict text = .good ∧ decode (payloadOf text) .noErr dest = .ret true x d

/-- A get with no error pending comes back, with a response only if every step has succeeded, and
with null only if it leaves an error. -/
def Honest (get : Proc XiErr (Process tg cl) (Bool × δ)) (p : Process tg cl)
    (steps : δ → Prop) : Prop :=
  ∃ v d x p', get .noErr p = .ret (v, d) x p' ∧ (v = true → steps d) ∧ (v = false → x ≠ .noErr)

/-- Whatever the peer delivers is a string with no header line that ends directly behind its colon,
and, if its head is good, with a content that is accepted. -/
def Decodable (tg : Target) (cl : CommLayer) (apiKey : CString) (c : EncodeCall) (w : cl.World)
    (accepts : Text → Prop) : Prop :=
  c.Fits tg apiKey → ∀ conn d w', Delivers cl (c.text tg apiKey) w conn d w' →
    ∃ text, cstr d.buffer = some text ∧ headVerdict text ≠ .crash ∧
      (headVerdict text = .good → accepts (payloadOf text))

section Get

variable {request : Proc XiErr (Statics tg) (Option Text)} {apiKey : CString} {c : EncodeCall}
  {decode : Text → Proc XiErr δ Bool} {accepts : Text → Prop} {dest : δ}

lemma honest_of_fails {w w' : cl.World} (h : Fails request (some decode) w w') (l : Statics tg)
    (steps : δ → Prop) :
    Honest (xiFunction request (some decode) dest) (⟨l, w⟩ : Process tg cl) steps := by
  obtain ⟨x, l', hx, hrun⟩ := h .noErr l dest
  exact ⟨false, dest, x, _, hrun, nofun, fun _ => hx⟩

lemma not_honest_of_fault {f : Fault} {p : Process tg cl} {steps : δ → Prop}
    (h : xiFunction request (some decode) dest .noErr p = .fault f) :
    ¬ Honest (xiFunction request (some decode) dest) p steps := by
  rintro ⟨v, d, x, p', hrun, -⟩
  rw [h] at hrun
  cases hrun

/-- A get behind a good reply is honest exactly if the content is accepted. -/
lemma honest_good (hreq : Decides request (c.Fits tg apiKey) (c.text tg apiKey))
    (hok : ∀ content, accepts content → ∃ d, decode content .noErr dest = .ret true .noErr d)
    (hbad : ∀ content, ¬ accepts content →
      ∃ x d, x ≠ .noErr ∧ decode content .noErr dest = .ret false x d)
    {w w' : cl.World} {conn : cl.Conn} {text : Text}
    (h : Answered cl (c.Fits tg apiKey) (c.text tg apiKey) w conn text w')
    (hv : headVerdict text = .good) (l : Statics tg) :
    Honest (xiFunction request (some decode) dest) (⟨l, w⟩ : Process tg cl)
      (EveryStep tg cl apiKey c w decode dest) ↔ accepts (payloadOf text) := by
  obtain ⟨y, w'', hc⟩ := exists_closing (some conn) w'
  by_cases hacc : accepts (payloadOf text)
  · obtain ⟨d, hd⟩ := hok _ hacc
    have hdecoded : Decoded (some decode) (payloadOf text) dest d .noErr := ⟨true, hd⟩
    obtain ⟨l', hrun⟩ := responds_good hreq h hv hdecoded hc l
    exact iff_of_true ⟨true, d, _, _, hrun, fun _ => ⟨conn, text, w', _, h, hv, hd⟩, nofun⟩ hacc
  · obtain ⟨x, d, -, hd⟩ := hbad _ hacc
    have hdecoded : Decoded (some decode) (payloadOf text) dest d x := ⟨false, hd⟩
    obtain ⟨l', hrun⟩ := responds_good hreq h hv hdecoded hc l
    refine iff_of_false ?_ hacc
    rintro ⟨v, d', x', p', hrun', hsteps, -⟩
    rw [hrun] at hrun'
    injection hrun' with hvd
    injection hvd with hv' _
    obtain ⟨conn', text', v', z, h', -, hdec⟩ := hsteps hv'.symm
    obtain ⟨-, rfl, -⟩ := answered_unique h h'
    rw [hd] at hdec
    injection hdec with hfalse
    cases hfalse

/-- A get is honest exactly if whatever the peer delivers can be decoded. -/
lemma honest_iff (hreq : Decides request (c.Fits tg apiKey) (c.text tg apiKey))
    (hok : ∀ content, accepts content → ∃ d, decode content .noErr dest = .ret true .noErr d)
    (hbad : ∀ content, ¬ accepts content →
      ∃ x d, x ≠ .noErr ∧ decode content .noErr dest = .ret false x d)
    (l : Statics tg) (w : cl.World) :
    Honest (xiFunction request (some decode) dest) (⟨l, w⟩ : Process tg cl)
      (EveryStep tg cl apiKey c w decode dest) ↔ Decodable tg cl apiKey c w accepts := by
  by_cases hdel : c.Fits tg apiKey ∧ ∃ conn d w', Delivers cl (c.text tg apiKey) w conn d w'
  · obtain ⟨hfits, conn, d, w', hd⟩ := hdel
    have honly : Decodable tg cl apiKey c w accepts ↔ ∃ text, cstr d.buffer = some text ∧
        headVerdict text ≠ .crash ∧ (headVerdict text = .good → accepts (payloadOf text)) := by
      refine ⟨fun h => h hfits conn d w' hd, fun h _ conn' d' w'' hd' => ?_⟩
      obtain ⟨-, rfl, -⟩ := delivers_unique hd hd'
      exact h
    rw [honly]
    cases ht : cstr d.buffer with
    | none =>
      exact iff_of_false (not_honest_of_fault (overread_unterminated hreq hfits hd ht _ l dest))
        (by simp)
    | some text =>
      have hans : Answered cl (c.Fits tg apiKey) (c.text tg apiKey) w conn text w' :=
        ⟨hfits, d, hd, ht⟩
      cases hv : headVerdict text with
      | good => simp [honest_good hreq hok hbad hans hv l, hv]
      | refused =>
        obtain ⟨w'', hfails⟩ := fails_refused (some decode) hreq hans hv
        exact iff_of_true (honest_of_fails hfails l _) ⟨text, rfl, by simp [hv], by simp [hv]⟩
      | crash =>
        exact iff_of_false (not_honest_of_fault (badLength_crash hreq hans hv _ l dest))
          (by simp [hv])
  · obtain ⟨w', hfails⟩ := fails_undelivered (some decode) hreq
      fun conn d w' hfits hd => hdel ⟨hfits, conn, d, w', hd⟩
    exact iff_of_true (honest_of_fails hfails l _)
      fun hfits conn d w' hd => absurd ⟨hfits, conn, d, w', hd⟩ hdel

end Get

lemma honest_feedGet (h56 : 56 ≤ tg.contentBufferSize) (xi : XiContext) {feed : XiFeed}
    (hf : feed.Readable) (l : Statics tg) (w : cl.World) :
    Honest (xiFeedGet xi feed) (⟨l, w⟩ : Process tg cl)
      (EveryStep tg cl xi.apiKey (.getFeed feed) w (csvDecodeFeed tg) feed) ↔
      Decodable tg cl xi.apiKey (.getFeed feed) w (AcceptsFeed tg) := by
  refine honest_iff (encode_decides h56 (c := .getFeed feed) hf) (fun content h => ?_)
    (fun content h => ?_) l w
  · obtain ⟨f, hrun, -⟩ := csvDecodeFeed_accepts h .noErr feed
    exact ⟨f, hrun⟩
  · obtain ⟨m, f, hrun, -⟩ := csvDecodeFeed_rejects h .noErr feed
    exact ⟨_, f, by decide, hrun⟩

lemma honest_datastreamGet (h56 : 56 ≤ tg.contentBufferSize) (xi : XiContext) (feedId : UInt32)
    (id : CString) (o : XiDatapoint) (l : Statics tg) (w : cl.World) :
    Honest (xiDatastreamGet xi feedId id o) (⟨l, w⟩ : Process tg cl)
      (EveryStep tg cl xi.apiKey (.getDatastream feedId id) w (csvDecodeDatapoint tg) o) ↔
      Decodable tg cl xi.apiKey (.getDatastream feedId id) w (AcceptsPoint tg) :=
  honest_iff (encode_decides h56 (c := .getDatastream feedId id) trivial)
    (fun _ h => csvDecodeDatapoint_accepts h .noErr o)
    (fun _ h => csvDecodeDatapoint_rejects h .noErr o) l w

/-- A get whose content is not a datapoint returns a response, and leaves an error. -/
lemma datastreamGet_undecoded (h56 : 56 ≤ tg.contentBufferSize) {xi : XiContext}
    {feedId : UInt32} {id : CString} {w w' : cl.World} {conn : cl.Conn} {text : Text}
    (h : Answered cl (EncodeCall.Fits tg xi.apiKey (.getDatastream feedId id))
      (EncodeCall.text tg xi.apiKey (.getDatastream feedId id)) w conn text w')
    (hv : headVerdict text = .good) (hrejects : ¬ AcceptsPoint tg (payloadOf text))
    (o : XiDatapoint) (l : Statics tg) :
    ∃ o' x p', xiDatastreamGet xi feedId id o .noErr (⟨l, w⟩ : Process tg cl) =
      .ret (true, o') x p' ∧ x ≠ .noErr := by
  obtain ⟨x, o', hx, hdec⟩ := csvDecodeDatapoint_rejects hrejects .noErr o
  obtain ⟨y, w'', hc⟩ := exists_closing (some conn) w'
  have hreq := @encode_decides tg xi.apiKey h56 (.getDatastream feedId id) trivial
  have hdecoded : Decoded (some (csvDecodeDatapoint tg)) (payloadOf text) o o' x := ⟨false, hdec⟩
  obtain ⟨l', hrun⟩ := responds_good hreq h hv hdecoded hc l
  exact ⟨o', _, _, hrun, closing_error hc hx⟩

/-- **Outcomes of the two get functions**: from no error pending, a get reports its outcome exactly
if whatever its peer delivers is a string whose header lines do not end directly behind their colon
and, if its head is good, whose content the decoder accepts. -/
theorem gets_report (tg : Target) (h56 : 56 ≤ tg.contentBufferSize) (cl : CommLayer)
    (xi : XiContext) (l : Statics tg) (w : cl.World) :
    (∀ feed : XiFeed, feed.Readable →
      (Honest (xiFeedGet xi feed) (⟨l, w⟩ : Process tg cl)
        (EveryStep tg cl xi.apiKey (.getFeed feed) w (csvDecodeFeed tg) feed) ↔
        Decodable tg cl xi.apiKey (.getFeed feed) w (AcceptsFeed tg))) ∧
    ∀ feedId id o,
      (Honest (xiDatastreamGet xi feedId id o) (⟨l, w⟩ : Process tg cl)
        (EveryStep tg cl xi.apiKey (.getDatastream feedId id) w (csvDecodeDatapoint tg) o) ↔
        Decodable tg cl xi.apiKey (.getDatastream feedId id) w (AcceptsPoint tg)) :=
  ⟨fun _ hf => honest_feedGet h56 xi hf l w, fun feedId id o =>
    honest_datastreamGet h56 xi feedId id o l w⟩

/-! ### Two gets -/

/-- A reply with a datapoint. -/
def pointReply : Received :=
  ⟨lit "HTTP/1.1 200 OK\r\nAge: 1\r\n\r\n2014-01-01T00:00:00.000000Z,5", by decide⟩

/-- A system whose peers all send that reply. -/
def pointPeers : System := answering pointReply

theorem gets_report_2014 :
    Honest (xiDatastreamGet user 1 smallId .zero)
      (⟨.fresh posixConfig, freshWorld pointPeers⟩ : Process posixConfig (posixLayer pointPeers))
      (EveryStep posixConfig (posixLayer pointPeers) user.apiKey (.getDatastream 1 smallId)
        (freshWorld pointPeers) (csvDecodeDatapoint posixConfig) .zero) := by
  refine ((gets_report posixConfig (by decide) _ user _ _).2 1 smallId .zero).mpr ?_
  intro hfits conn d k' hd
  obtain ⟨conn', k, hd'⟩ := delivers_answering pointReply _ (freshWorld pointPeers)
  obtain ⟨-, rfl, -⟩ := delivers_unique hd' hd
  exact ⟨pointReply.bytes, cstr_strncpy (by decide) (by decide), by decide +kernel,
    fun _ => (by decide +kernel : AcceptsPoint posixConfig (payloadOf pointReply.bytes))⟩

/-- A reply without a datapoint is reported as a success. -/
theorem get_hides_failure :
    (∃ o x p', xiDatastreamGet user 1 smallId .zero .noErr
      (⟨.fresh posixConfig, freshWorld peers⟩ : Process posixConfig (posixLayer peers)) =
        .ret (true, o) x p' ∧ x ≠ .noErr) ∧
    ¬ Honest (xiDatastreamGet user 1 smallId .zero)
      (⟨.fresh posixConfig, freshWorld peers⟩ : Process posixConfig (posixLayer peers))
      (EveryStep posixConfig (posixLayer peers) user.apiKey (.getDatastream 1 smallId)
        (freshWorld peers) (csvDecodeDatapoint posixConfig) .zero) := by
  have h56 : 56 ≤ posixConfig.contentBufferSize := by decide
  obtain ⟨conn, k, hans⟩ := answered_peers fits_getCall (freshWorld peers)
  have hrejects : ¬ AcceptsPoint posixConfig (payloadOf emptyReply.bytes) := by decide +kernel
  refine ⟨datastreamGet_undecoded h56 hans headVerdict_emptyReply hrejects _ _, ?_⟩
  rw [honest_datastreamGet h56]
  intro hdecodable
  obtain ⟨hfits, d, hd, ht⟩ := hans
  obtain ⟨text, ht', -, hacc⟩ := hdecodable hfits conn d k hd
  rw [ht] at ht'
  cases ht'
  exact hrejects (hacc headVerdict_emptyReply)

end LibXively.Outcomes
