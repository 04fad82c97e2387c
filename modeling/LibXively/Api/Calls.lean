import LibXively.Comm.PosixLayer
import LibXively.Decoding.Feeds
import LibXively.Requests.FeedRequests

/-!
The eight API functions as calls: the request each of them makes, the contents each of them
accepts, and how a call ends.
-/

namespace LibXively.Calls

open LibXively.Bytes LibXively.CProc LibXively.CharArray LibXively.Structures LibXively.CsvData
open LibXively.HttpQueries LibXively.HttpTransport LibXively.CommLayers LibXively.Gmtime
open LibXively.Xively LibXively.Append LibXively.Encoders LibXively.FeedRequests
open LibXively.Datapoints LibXively.Feeds LibXively.Head LibXively.Exchanges
open LibXively.PosixComm LibXively.PosixLayer

variable {tg : Target} {cl : CommLayer}

/-- A call of an API function, with its arguments. -/
inductive ApiCall
  | feedGet (xi : XiContext) (feed : XiFeed)
  | feedUpdate (xi : XiContext) (feed : XiFeed)
  | datastreamGet (xi : XiContext) (feedId : UInt32) (datastreamId : CString) (o : XiDatapoint)
  | datastreamCreate (xi : XiContext) (feedId : UInt32) (datastreamId : CString)
      (datapoint : XiDatapoint)
  | datastreamUpdate (xi : XiContext) (feedId : UInt32) (datastreamId : CString)
      (datapoint : XiDatapoint)
  | datastreamDelete (xi : XiContext) (feedId : UInt32) (datastreamId : CString)
  | datapointDelete (xi : XiContext) (feedId : UInt32) (datastreamId : CString)
      (o : XiDatapoint)
  | datapointDeleteRange (xi : XiContext) (feedId : UInt32) (datastreamId : CString)
      (start end_ : Option XiTimestamp)

/-- What a call does, less the object it fills: whether it returns a response. -/
def ApiCall.run : ApiCall → Proc XiErr (Process tg cl) Bool
  | .feedGet xi feed => Prod.fst <$> xiFeedGet xi feed
  | .feedUpdate xi feed => xiFeedUpdate xi feed
  | .datastreamGet xi feedId datastreamId o =>
    Prod.fst <$> xiDatastreamGet xi feedId datastreamId o
  | .datastreamCreate xi feedId datastreamId datapoint =>
    xiDatastreamCreate xi feedId datastreamId datapoint
  | .datastreamUpdate xi feedId datastreamId datapoint =>
    xiDatastreamUpdate xi feedId datastreamId datapoint
  | .datastreamDelete xi feedId datastreamId => xiDatastreamDelete xi feedId datastreamId
  | .datapointDelete xi feedId datastreamId o => xiDatapointDelete xi feedId datastreamId o
  | .datapointDeleteRange xi feedId datastreamId start end_ =>
    xiDatapointDeleteRange xi feedId datastreamId start end_

def ApiCall.apiKey : ApiCall → CString
  | .feedGet xi _ => xi.apiKey
  | .feedUpdate xi _ => xi.apiKey
  | .datastreamGet xi _ _ _ => xi.apiKey
  | .datastreamCreate xi _ _ _ => xi.apiKey
  | .datastreamUpdate xi _ _ _ => xi.apiKey
  | .datastreamDelete xi _ _ => xi.apiKey
  | .datapointDelete xi _ _ _ => xi.apiKey
  | .datapointDeleteRange xi _ _ _ _ => xi.apiKey

/-- The request a call makes. -/
def ApiCall.request : ApiCall → EncodeCall
  | .feedGet _ feed => .getFeed feed
  | .feedUpdate _ feed => .updateFeed feed
  | .datastreamGet _ feedId id _ => .getDatastream feedId id
  | .datastreamCreate _ feedId id p => .createDatastream feedId id p
  | .datastreamUpdate _ feedId id p => .updateDatastream feedId id p
  | .datastreamDelete _ feedId id => .deleteDatastream feedId id
  | .datapointDelete _ feedId id o => .deleteDatapoint feedId id o
  | .datapointDeleteRange _ feedId id start end_ => .datapointDeleteRange feedId id start end_

/-- The arguments are strings and counts a call may read. A bound that is absent is a null pointer,
which is not excluded. -/
def ApiCall.Readable : ApiCall → Prop
  | .feedGet _ feed => feed.Readable
  | .feedUpdate _ feed => feed.Readable
  | .datastreamCreate _ _ _ p => p.Readable
  | .datastreamUpdate _ _ _ p => p.Readable
  | _ => True

/-- The content of a response is what the call can decode into its object. -/
def ApiCall.Accepts (tg : Target) : ApiCall → Text → Prop
  | .feedGet .. => AcceptsFeed tg
  | .datastreamGet .. => AcceptsPoint tg
  | _ => fun _ => True

/-- The request of the call is made, and the peer answers with a text. -/
def ApiCall.Answered (tg : Target) (c : ApiCall) (w : cl.World) (conn : cl.Conn) (text : Text)
    (w' : cl.World) : Prop :=
  Exchanges.Answered cl (c.request.Fits tg c.apiKey) (c.request.text tg c.apiKey) w conn text w'

/-- The peer answers the call with a reply that has a good head. -/
def ApiCall.WellAnswered (tg : Target) (c : ApiCall) (w : cl.World) : Prop :=
  ∃ conn text w', c.Answered tg w conn text w' ∧ headVerdict text = .good

/-- Closing the connection sets an error. -/
def CloseFails (cl : CommLayer) (conn : cl.Conn) (w : cl.World) : Prop :=
  ∃ x w', x ≠ .noErr ∧ cl.closeConnection conn .noErr w = .ret () x w'

/-- The call gets a good reply and still leaves an error: its object is not decoded, or the
connection is not closed. -/
def ApiCall.LeavesError (tg : Target) (c : ApiCall) (w : cl.World) : Prop :=
  ∃ conn text w', c.Answered tg w conn text w' ∧ headVerdict text = .good ∧
    (¬ c.Accepts tg (payloadOf text) ∨ CloseFails cl conn w')

lemma closeFails_iff {conn : cl.Conn} {w w' : cl.World} {y : Option XiErr}
    (hc : Closing cl (some conn) w y w') : CloseFails cl conn w ↔ y ≠ none := by
  obtain ⟨hy, hclose⟩ := hc
  constructor
  · rintro ⟨x, v, hx, hrun⟩ rfl
    rw [hclose] at hrun
    injection hrun with _ he _
    exact hx he.symm
  · intro hsome
    obtain ⟨x, rfl⟩ := Option.ne_none_iff_exists'.mp hsome
    exact ⟨x, w', by simpa using hy, hclose _⟩

/-- The error behind a good reply. -/
lemma getD_eq_noErr {conn : cl.Conn} {w w' : cl.World} {y : Option XiErr} {x : XiErr}
    (hc : Closing cl (some conn) w y w') :
    y.getD x ≠ .noErr ↔ x ≠ .noErr ∨ CloseFails cl conn w := by
  rw [closeFails_iff hc]
  cases y with
  | none => simp
  | some y =>
    have hy : y ≠ .noErr := by simpa using hc.1
    simp [hy]

/-! ### The decoders of the get functions -/

lemma decoded_feed (content : Text) (f : XiFeed) : ∃ f' x,
    Decoded (some (csvDecodeFeed tg)) content f f' x ∧ (x = .noErr ↔ AcceptsFeed tg content) := by
  by_cases h : AcceptsFeed tg content
  · obtain ⟨f', hrun, -⟩ := csvDecodeFeed_accepts h .noErr f
    exact ⟨f', .noErr, ⟨true, hrun⟩, by simp [h]⟩
  · obtain ⟨m, f', hrun, -⟩ := csvDecodeFeed_rejects h .noErr f
    exact ⟨f', _, ⟨false, hrun⟩, by simp [h]⟩

lemma decoded_point (content : Text) (p : XiDatapoint) : ∃ p' x,
    Decoded (some (csvDecodeDatapoint tg)) content p p' x ∧
      (x = .noErr ↔ AcceptsPoint tg content) := by
  by_cases h : AcceptsPoint tg content
  · obtain ⟨p', hrun⟩ := csvDecodeDatapoint_accepts h .noErr p
    exact ⟨p', .noErr, ⟨true, hrun⟩, by simp [h]⟩
  · obtain ⟨x, p', hx, hrun⟩ := csvDecodeDatapoint_rejects h .noErr p
    exact ⟨p', x, ⟨false, hrun⟩, by simp [h, hx]⟩

/-! ### A call is one API function -/

lemma run_ret {δ : Type} {request : Proc XiErr (Statics tg) (Option Text)}
    {decode : Option (Text → Proc XiErr δ Bool)} {dest dest' : δ} {e x : XiErr} {v : Bool}
    {p p' : Process tg cl} (h : xiFunction request decode dest e p = .ret (v, dest') x p') :
    (Prod.fst <$> xiFunction request decode dest) e p = .ret v x p' := by
  rw [map_apply, h, andThen_ret, pure_apply]

lemma run_fault {δ : Type} {request : Proc XiErr (Statics tg) (Option Text)}
    {decode : Option (Text → Proc XiErr δ Bool)} {dest : δ} {e : XiErr} {f : Fault}
    {p : Process tg cl} (h : xiFunction request decode dest e p = .fault f) :
    (Prod.fst <$> xiFunction request decode dest) e p = .fault f := by
  rw [map_apply, h, andThen_fault]

/-- A call makes its request, decodes a content if it accepts it, and answers with what the API
function returns. -/
lemma run_eq (h56 : 56 ≤ tg.contentBufferSize) {c : ApiCall} (hc : c.request.Readable) :
    ∃ (δ : Type) (request : Proc XiErr (Statics tg) (Option Text))
      (decode : Option (Text → Proc XiErr δ Bool)) (dest : δ),
      (c.run : Proc XiErr (Process tg cl) Bool) = Prod.fst <$> xiFunction request decode dest ∧
      Decides request (c.request.Fits tg c.apiKey) (c.request.text tg c.apiKey) ∧
      ∀ content, ∃ dest' x, Decoded decode content dest dest' x ∧
        (x = .noErr ↔ c.Accepts tg content) := by
  have hbare {p : Prop} (hp : p) (content : Text) : ∃ dest' x,
      Decoded (none : Option (Text → Proc XiErr Unit Bool)) content () dest' x ∧
        (x = .noErr ↔ p) := ⟨(), .noErr, ⟨rfl, rfl⟩, by simp [hp]⟩
  have hreq : Decides (c.request.encode tg c.apiKey) _ _ := encode_decides h56 hc
  cases c with
  | feedGet xi feed => exact ⟨_, _, some (csvDecodeFeed tg), feed, rfl, hreq,
      fun content => decoded_feed content feed⟩
  | datastreamGet xi feedId id o => exact ⟨_, _, some (csvDecodeDatapoint tg), o, rfl, hreq,
      fun content => decoded_point content o⟩
  | feedUpdate xi feed => exact ⟨_, _, none, (), rfl, hreq, hbare trivial⟩
  | datastreamCreate xi feedId id p => exact ⟨_, _, none, (), rfl, hreq, hbare trivial⟩
  | datastreamUpdate xi feedId id p => exact ⟨_, _, none, (), rfl, hreq, hbare trivial⟩
  | datastreamDelete xi feedId id => exact ⟨_, _, none, (), rfl, hreq, hbare trivial⟩
  | datapointDelete xi feedId id o => exact ⟨_, _, none, (), rfl, hreq, hbare trivial⟩
  | datapointDeleteRange xi feedId id start end_ =>
    exact ⟨_, _, none, (), rfl, hreq, hbare trivial⟩

/-- A call with all its arguments is readable as a request, or it is a deletion of a range with a
bound that is absent. -/
lemma readable_cases {c : ApiCall} (hc : c.Readable) : c.request.Readable ∨
    ∃ xi feedId id start end_, c = .datapointDeleteRange xi feedId id start end_ ∧
      (start = none ∨ end_ = none) := by
  cases c with
  | datapointDeleteRange xi feedId id start end_ =>
    cases start with
    | none => exact .inr ⟨_, _, _, _, _, rfl, .inl rfl⟩
    | some s =>
      cases end_ with
      | none => exact .inr ⟨_, _, _, _, _, rfl, .inr rfl⟩
      | some t => exact .inl ⟨rfl, rfl⟩
  | _ => exact .inl hc

/-- A bound that is absent is read in any case. -/
lemma run_absentBound {xi : XiContext} {feedId : UInt32} {id : CString}
    {start end_ : Option XiTimestamp} (h : start = none ∨ end_ = none) (e : XiErr)
    (l : Statics tg) (w : cl.World) :
    (ApiCall.datapointDeleteRange xi feedId id start end_).run e (⟨l, w⟩ : Process tg cl) =
      .fault .nullPointer := by
  have hrequest : httpEncodeDatapointDeleteRange xi.apiKey feedId id start end_ e l =
      .fault .nullPointer := by
    refine errHandling_fault none ?_
    cases start with
    | none => exact bind_fault rfl
    | some s =>
      have hend : end_ = none := by simpa using h
      obtain ⟨tm, htm⟩ := xiGmtime_isSome tg.longBits s.timestamp
      have hstart : boundTime tg (some s) e l = .ret tm e l := by
        rw [boundTime, htm]
        rfl
      rw [bind_ret hstart, hend]
      exact bind_fault rfl
  exact run_fault (xiFunction_fault (bind_fault (onStatics_fault hrequest)))

lemma not_fits_absentBound {apiKey : CString} {feedId : UInt32} {id : CString}
    {start end_ : Option XiTimestamp} (h : start = none ∨ end_ = none) :
    ¬ EncodeCall.Fits tg apiKey (.datapointDeleteRange feedId id start end_) := by
  intro hfits
  obtain ⟨v, hv, -⟩ := hfits.staged _ rfl
  rcases h with rfl | rfl
  · cases hv
  · cases start <;> cases hv

/-! ### How a call ends -/

/-- A call that is not well answered returns null with an error, or faults, and the error variable
has no part in which. -/
def EndsBadly (tg : Target) (c : ApiCall) (w : cl.World) : Prop :=
  (∃ w', ∀ e (l : Statics tg), ∃ x l', x ≠ .noErr ∧
    c.run e (⟨l, w⟩ : Process tg cl) = .ret false x ⟨l', w'⟩) ∨
  ∃ f, ∀ e (l : Statics tg), c.run e (⟨l, w⟩ : Process tg cl) = .fault f

/-- A call that is well answered returns a response exactly if no error has been pending. -/
def EndsWell (tg : Target) (c : ApiCall) (w : cl.World) : Prop :=
  ∃ w', (∀ l : Statics tg, ∃ x l', c.run .noErr (⟨l, w⟩ : Process tg cl) = .ret true x ⟨l', w'⟩ ∧
      (x ≠ .noErr ↔ c.LeavesError tg w)) ∧
    ∀ e (l : Statics tg), e ≠ .noErr → ∃ x l', x ≠ .noErr ∧
      c.run e (⟨l, w⟩ : Process tg cl) = .ret false x ⟨l', w'⟩

lemma endsBadly_of_fails {c : ApiCall} {w w' : cl.World} {δ : Type}
    {request : Proc XiErr (Statics tg) (Option Text)} {decode : Option (Text → Proc XiErr δ Bool)}
    {dest : δ}
    (hrun : (c.run : Proc XiErr (Process tg cl) Bool) = Prod.fst <$> xiFunction request decode dest)
    (h : Fails request decode w w') : EndsBadly tg c w := by
  refine .inl ⟨w', fun e l => ?_⟩
  obtain ⟨x, l', hx, hret⟩ := h e l dest
  exact ⟨x, l', hx, by rw [hrun, run_ret hret]⟩

lemma not_wellAnswered {c : ApiCall} {w w' : cl.World} {conn : cl.Conn} {text : Text}
    (h : c.Answered tg w conn text w') (hv : headVerdict text ≠ .good) :
    ¬ c.WellAnswered tg w := by
  rintro ⟨conn', text', w'', h', hgood⟩
  obtain ⟨-, rfl, -⟩ := answered_unique h h'
  exact hv hgood

lemma leavesError_iff {c : ApiCall} {w w' : cl.World} {conn : cl.Conn} {text : Text}
    (h : c.Answered tg w conn text w') (hv : headVerdict text = .good) :
    c.LeavesError tg w ↔ ¬ c.Accepts tg (payloadOf text) ∨ CloseFails cl conn w' := by
  refine ⟨?_, fun herr => ⟨conn, text, w', h, hv, herr⟩⟩
  rintro ⟨conn', text', w'', h', -, herr⟩
  obtain ⟨rfl, rfl, rfl⟩ := answered_unique h h'
  exact herr

/-- A call whose peer delivers something. -/
lemma run_delivered {c : ApiCall} {w w' : cl.World} {conn : cl.Conn} {d : Received}
    (h56 : 56 ≤ tg.contentBufferSize) (hc : c.request.Readable)
    (hfits : c.request.Fits tg c.apiKey)
    (hd : Delivers cl (c.request.text tg c.apiKey) w conn d w') :
    (c.WellAnswered tg w ∧ EndsWell tg c w) ∨ (¬ c.WellAnswered tg w ∧ EndsBadly tg c w) := by
  obtain ⟨δ, request, decode, dest, hrun, hreq, hcontent⟩ := @run_eq tg cl h56 c hc
  cases ht : cstr d.buffer with
  | none =>
    refine .inr ⟨?_, .inr ⟨.overread, fun e l => by
      rw [hrun, run_fault (overread_unterminated hreq hfits hd ht e l dest)]⟩⟩
    rintro ⟨conn', text, w'', ⟨-, d', hd', ht'⟩, -⟩
    obtain ⟨-, rfl, -⟩ := delivers_unique hd hd'
    rw [ht] at ht'
    cases ht'
  | some text =>
    have hans : c.Answered tg w conn text w' := ⟨hfits, d, hd, ht⟩
    cases hv : headVerdict text with
    | good =>
      obtain ⟨y, w'', hclose⟩ := exists_closing (some conn) w'
      obtain ⟨dest', x, hdec, hx⟩ := hcontent (payloadOf text)
      refine .inl ⟨⟨conn, text, w', hans, hv⟩, w'', fun l => ?_, fun e l he => ?_⟩
      · obtain ⟨l', hret⟩ := responds_good hreq hans hv hdec hclose l
        refine ⟨y.getD x, l', by rw [hrun, run_ret hret], ?_⟩
        rw [getD_eq_noErr hclose, leavesError_iff hans hv, ← hx]
      · obtain ⟨x, l', hx, hret⟩ := fails_pending hreq hans hv hclose he l dest
        exact ⟨x, l', hx, by rw [hrun, run_ret hret]⟩
    | refused =>
      obtain ⟨w'', hfails⟩ := fails_refused decode hreq hans hv
      exact .inr ⟨not_wellAnswered hans (by simp [hv]), endsBadly_of_fails hrun hfails⟩
    | crash =>
      refine .inr ⟨not_wellAnswered hans (by simp [hv]), .inr ⟨.badLength, fun e l => ?_⟩⟩
      rw [hrun, run_fault (badLength_crash hreq hans hv e l dest)]

/-- A call ends as its request, its world and the reply have it: well if it is well answered, and
badly otherwise. -/
lemma run_ends (h56 : 56 ≤ tg.contentBufferSize) {c : ApiCall} (hc : c.Readable) (w : cl.World) :
    (c.WellAnswered tg w ∧ EndsWell tg c w) ∨ (¬ c.WellAnswered tg w ∧ EndsBadly tg c w) := by
  rcases readable_cases hc with hreadable | ⟨xi, feedId, id, start, end_, rfl, habsent⟩
  · by_cases hdel : ∃ conn d w', c.request.Fits tg c.apiKey ∧
        Delivers cl (c.request.text tg c.apiKey) w conn d w'
    · obtain ⟨conn, d, w', hfits, hd⟩ := hdel
      exact run_delivered h56 hreadable hfits hd
    · obtain ⟨δ, request, decode, dest, hrun, hreq, -⟩ := @run_eq tg cl h56 c hreadable
      obtain ⟨w', hfails⟩ := fails_undelivered decode hreq
        fun conn d w' hfits hd => hdel ⟨conn, d, w', hfits, hd⟩
      refine .inr ⟨?_, endsBadly_of_fails hrun hfails⟩
      rintro ⟨conn, text, w', ⟨hfits, d, hd, -⟩, -⟩
      exact hdel ⟨conn, d, w', hfits, hd⟩
  · refine .inr ⟨?_, .inr ⟨.nullPointer, fun e l => run_absentBound habsent e l w⟩⟩
    rintro ⟨conn, text, w', ⟨hfits, -⟩, -⟩
    exact not_fits_absentBound habsent hfits

/-! ### Two calls and a reply -/

def user : XiContext := ⟨smallKey⟩

def getCall : ApiCall := .datastreamGet user 1 smallId .zero

def deleteCall : ApiCall := .datastreamDelete user 1 smallId

lemma fits_getCall : getCall.request.Fits posixConfig getCall.apiKey :=
  ⟨by rintro _ ⟨⟩, by decide, by decide +kernel, by decide, by decide +kernel⟩

lemma fits_deleteCall : deleteCall.request.Fits posixConfig deleteCall.apiKey :=
  ⟨by rintro _ ⟨⟩, by decide, by decide +kernel, by decide, by decide +kernel⟩

/-- A reply with a good head and no content. -/
def emptyReply : Received := ⟨lit "HTTP/1.1 200 OK\r\nAge: 1\r\n\r\n", by decide⟩

lemma cstr_emptyReply : cstr emptyReply.buffer = some emptyReply.bytes :=
  cstr_strncpy (by decide) (by decide)

lemma headVerdict_emptyReply : headVerdict emptyReply.bytes = .good := by decide +kernel

/-- A system whose peers all send that reply. -/
def peers : System := answering emptyReply

lemma answered_peers {c : ApiCall} (hfits : c.request.Fits posixConfig c.apiKey)
    (k : (posixLayer peers).World) :
    ∃ conn k', c.Answered posixConfig k conn emptyReply.bytes k' := by
  obtain ⟨conn, k', hd⟩ := delivers_answering emptyReply (c.request.text posixConfig c.apiKey) k
  exact ⟨conn, k', hfits, emptyReply, hd, cstr_emptyReply⟩

/-- Over these peers a call whose request fits ends well. -/
lemma endsWell_peers {c : ApiCall} (hfits : c.request.Fits posixConfig c.apiKey) (hc : c.Readable)
    (k : (posixLayer peers).World) : EndsWell posixConfig c k := by
  have h56 : 56 ≤ posixConfig.contentBufferSize := by decide
  obtain ⟨conn, k', hans⟩ := answered_peers hfits k
  rcases run_ends h56 hc k with ⟨-, h⟩ | ⟨h, -⟩
  · exact h
  · exact absurd ⟨conn, _, k', hans, headVerdict_emptyReply⟩ h

/-- Over them the deletion leaves no error. -/
lemma not_leavesError_deleteCall (k : (posixLayer peers).World) :
    ¬ deleteCall.LeavesError posixConfig k := by
  rintro ⟨conn, text, k', -, -, hno | ⟨x, k'', hx, hclose⟩⟩
  · exact hno trivial
  · have hcloses : ∃ k₁, (posixLayer peers).closeConnection conn .noErr k' = .ret () .noErr k₁ :=
      ⟨_, rfl⟩
    obtain ⟨k₁, hcloses⟩ := hcloses
    exact hx (Outcome.ret.inj (hclose.symm.trans hcloses)).2.1

/-- The get brings in no datapoint and leaves an error, for which the deletion behind it is
refused. -/
lemma getThenDelete_runs (p : Process posixConfig (posixLayer peers)) : ∃ x p₁ y p₂,
    getCall.run .noErr p = .ret true x p₁ ∧ x ≠ .noErr ∧
      deleteCall.run x p₁ = .ret false y p₂ ∧ y ≠ .noErr := by
  obtain ⟨l, k⟩ := p
  obtain ⟨k₁, hget, -⟩ := endsWell_peers fits_getCall trivial k
  obtain ⟨k₂, -, hrefused⟩ := endsWell_peers fits_deleteCall trivial k₁
  obtain ⟨x, l₁, hrun, hx⟩ := hget l
  have hleaves : x ≠ .noErr := by
    obtain ⟨conn, k', hans⟩ := answered_peers fits_getCall k
    rw [hx, leavesError_iff hans headVerdict_emptyReply]
    exact .inl (show ¬ AcceptsPoint posixConfig (payloadOf emptyReply.bytes) by decide +kernel)
  obtain ⟨y, l₂, hy, hrun'⟩ := hrefused x l₁ hleaves
  exact ⟨x, _, y, _, hrun, hleaves, hrun', hy⟩

/-- The deletion returns a response if the peer delivers that reply. -/
lemma deleteCall_answered {w w' : cl.World} {conn : cl.Conn}
    (hd : Delivers cl (deleteCall.request.text posixConfig deleteCall.apiKey) w conn emptyReply w')
    (l : Statics posixConfig) :
    ∃ x p', deleteCall.run .noErr (⟨l, w⟩ : Process posixConfig cl) = .ret true x p' := by
  have h56 : 56 ≤ posixConfig.contentBufferSize := by decide
  have hdelete : deleteCall.Readable := trivial
  rcases run_ends h56 hdelete w with ⟨-, w', hruns, -⟩ | ⟨hbad, -⟩
  · obtain ⟨x, l', hrun, -⟩ := hruns l
    exact ⟨x, ⟨l', w'⟩, hrun⟩
  · exact absurd ⟨conn, _, w', ⟨fits_deleteCall, _, hd, cstr_emptyReply⟩,
      headVerdict_emptyReply⟩ hbad

/-- Over a layer that brings in no other reply, the deletion comes back. -/
lemma deleteCall_returns {w : cl.World} (l : Statics posixConfig)
    (h : ∀ conn d w', Delivers cl (deleteCall.request.text posixConfig deleteCall.apiKey) w conn d
      w' → d = emptyReply) :
    ∃ v x p', deleteCall.run .noErr (⟨l, w⟩ : Process posixConfig cl) = .ret v x p' := by
  by_cases hdel : ∃ conn d w',
      Delivers cl (deleteCall.request.text posixConfig deleteCall.apiKey) w conn d w'
  · obtain ⟨conn, d, w', hd⟩ := hdel
    obtain rfl := h conn d w' hd
    exact ⟨true, deleteCall_answered hd l⟩
  · obtain ⟨δ, request, decode, dest, hrun, hreq, -⟩ :=
      @run_eq posixConfig cl (by decide) deleteCall trivial
    obtain ⟨w', hfails⟩ := fails_undelivered decode hreq
      fun conn d w' _ hd => hdel ⟨conn, d, w', hd⟩
    obtain ⟨x, l', -, hret⟩ := hfails .noErr l dest
    exact ⟨false, x, ⟨l', w'⟩, by rw [hrun, run_ret hret]⟩

end LibXively.Calls
