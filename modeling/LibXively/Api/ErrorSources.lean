import LibXively.CLib.Triples
import LibXively.Comm.DummyLayer
import LibXively.Comm.MbedLayer
import LibXively.Comm.NqLayer
import LibXively.Model.Xively
import LibXively.Requests.Encoders

/-!
Where the errors come from.

A call goes through four stages: the request is made, it goes over the layer, the reply is parsed,
and its content is decoded. No two stages set the same error.
-/

namespace LibXively.ErrorSources

open LibXively.Bytes LibXively.CProc LibXively.CharArray LibXively.Triples LibXively.Structures
open LibXively.CsvData LibXively.HttpQueries LibXively.HttpTransport LibXively.HttpParser
open LibXively.CommLayers LibXively.Xively LibXively.PosixComm LibXively.NqComm LibXively.MbedComm
open LibXively.DummyComm LibXively.PosixLayer LibXively.NqLayer LibXively.MbedLayer
open LibXively.DummyLayer LibXively.Encoders

/-! ### Stages -/

inductive Stage
  | request
  | traffic
  | reply
  | content
  deriving DecidableEq

/-- The stage an error is set in. -/
def stageOf : XiErr → Option Stage
  | .noErr => none
  | .outOfMemory => some .traffic
  | .httpStatusParseError => some .reply
  | .httpHeaderParseError => some .reply
  | .httpParseError => some .reply
  | .httpEncodeCreateDatastream => some .request
  | .httpEncodeUpdateDatastream => some .request
  | .httpEncodeGetDatastream => some .request
  | .httpEncodeDeleteDatastream => some .request
  | .httpEncodeDeleteDatapoint => some .request
  | .httpEncodeDeleteRangeDatapoint => some .request
  | .httpEncodeUpdateFeed => some .request
  | .httpConstructRequestBufferOverrun => some .request
  | .httpConstructContentBufferOverrun => some .request
  | .csvEncodeDatapointBufferOverrun => some .request
  | .csvEncodeDatastreamBufferOverrun => some .request
  | .csvDecodeFeedParserError => some .content
  | .csvDecodeDatapointParserError => some .content
  | .csvTimeConvertionError => some .content
  | .socketInitializationError => some .traffic
  | .socketGethostbynameError => some .traffic
  | .socketConnectionError => some .traffic
  | .socketShutdownError => some .traffic
  | .socketWriteError => some .traffic
  | .socketReadError => some .traffic
  | .socketCloseError => some .traffic
  | .datapointValueBufferOverflow => some .content

/-- No error, or one of the stage. -/
def Of (st : Stage) (e : XiErr) : Prop := e = .noErr ∨ stageOf e = some st

instance (st : Stage) (e : XiErr) : Decidable (Of st e) := inferInstanceAs (Decidable (_ ∨ _))

lemma stageOf_eq_none {e : XiErr} : stageOf e = none ↔ e = .noErr := by
  cases e <;> simp [stageOf]

lemma Of.stageOf {st : Stage} {e : XiErr} (h : Of st e) (he : e ≠ .noErr) :
    stageOf e = some st := h.resolve_left he

/-! ### Buffers -/

section Buffers

variable {S : XiErr → Prop} {n : ℕ} {σ : Type} {x : XiErr}

lemma confined_store (off : ℕ) (t : Text) :
    Confined S (store off t : Proc XiErr (Buf n) Unit) :=
  Confined.ite (fun _ => .modify _) fun _ => .crash _

lemma confined_snprintf (off : ℕ) (size : ℤ) (t : Text) :
    Confined S (snprintf off size t : Proc XiErr (Buf n) ℤ) :=
  Confined.ite (fun _ => .crash _) fun _ => (confined_store _ _).bind fun _ => .pure _

lemma confined_memcpy (src : Text) (len : ℤ) :
    Confined S (memcpy src len : Proc XiErr (Buf n) Unit) :=
  Confined.ite (fun _ => .crash _) fun _ => .ite (fun _ => .crash _) fun _ => confined_store _ _

lemma confined_readStr : Confined S (readStr : Proc XiErr (Buf n) Text) :=
  fun e b => Confined.orCrash .overread e b

lemma confined_checkSize (h : S x) (a b : ℤ) : Confined S (xiCheckSize a b x : Proc XiErr σ Unit) :=
  .checkCnd h

lemma confined_checkS (h : S x) (s size : ℤ) (o : ℕ) :
    Confined S (xiCheckS s size o x : Proc XiErr σ ℕ) :=
  (confined_checkSize h _ _).bind fun _ => .pure _

end Buffers

/-! ### Requests -/

section Requests

variable {tg : Target} {n : ℕ}

lemma confined_encodeValue (at_ : ℕ) (size : ℤ) (p : XiDatapoint) :
    Confined (Of .request) (csvEncodeValue tg at_ size p : Proc XiErr (Buf n) ℤ) := by
  unfold csvEncodeValue
  cases p.valueType with
  | i32 => exact confined_snprintf _ _ _
  | f32 => exact confined_snprintf _ _ _
  | str => exact (Confined.orCrash _).bind fun _ => confined_snprintf _ _ _
  | unknown code => exact .pure _

lemma confined_encodeDatapointInPlace (at_ : ℕ) (size : ℤ) (p : XiDatapoint) :
    Confined (Of .request) (csvEncodeDatapointInPlace tg at_ size p : Proc XiErr (Buf n) ℤ) := by
  have h : Of .request .csvEncodeDatapointBufferOverrun := by decide
  refine Confined.errHandling ?_ _
  extract_lets rest
  have hrest (offset : ℕ) : Confined (Of .request) (rest offset) :=
    (confined_encodeValue _ _ _).bind fun _ => (confined_checkS h _ _ _).bind fun _ =>
      (confined_snprintf _ _ _).bind fun _ => (confined_checkS h _ _ _).bind fun _ => .pure _
  refine Confined.ite (fun _ => ?_) fun _ => hrest 0
  exact (Confined.orCrash _).bind fun _ => (confined_snprintf _ _ _).bind fun _ =>
    (confined_checkS h _ _ _).bind hrest

lemma confined_encodeDatapoint (p : XiDatapoint) :
    Confined (Of .request) (csvEncodeDatapoint tg p : Proc XiErr (Buf n) (Option Text)) :=
  (confined_encodeDatapointInPlace _ _ _).bind fun _ =>
    .ite (fun _ => .pure _) fun _ => confined_readStr.bind fun _ => .pure _

lemma confined_encodeCreateDatastream (id : CString) (p : XiDatapoint) :
    Confined (Of .request)
      (csvEncodeCreateDatastream tg id p : Proc XiErr (Buf n) (Option Text)) := by
  have h : Of .request .csvEncodeDatastreamBufferOverrun := by decide
  exact ((confined_snprintf _ _ _).bind fun _ => (confined_checkS h _ _ _).bind fun _ =>
    (confined_encodeDatapointInPlace _ _ _).bind fun _ => (confined_checkS h _ _ _).bind fun _ =>
      confined_readStr.bind fun _ => .pure _).errHandling _

lemma confined_constructString (at_ : ℕ) (size : ℤ) (id : Option Text) :
    Confined (Of .request) (httpConstructString at_ size id : Proc XiErr (Buf n) ℤ) := by
  refine Confined.errHandling ?_ _
  cases id with
  | none => exact .pure _
  | some id => exact (confined_snprintf _ _ _).bind fun _ =>
      (confined_checkSize (by decide) _ _).bind fun _ => .pure _

lemma confined_constructInt (at_ : ℕ) (size : ℤ) (id : Option UInt32) :
    Confined (Of .request) (httpConstructInt at_ size id : Proc XiErr (Buf n) ℤ) := by
  refine Confined.errHandling ?_ _
  cases id with
  | none => exact .pure _
  | some id => exact (confined_snprintf _ _ _).bind fun _ =>
      (confined_checkSize (by decide) _ _).bind fun _ => .pure _

lemma confined_constructFeed (at_ : ℕ) (size : ℤ) (id : Option UInt32) :
    Confined (Of .request) (httpConstructFeed at_ size id : Proc XiErr (Buf n) ℤ) := by
  cases id with
  | none => exact .pure _
  | some id => exact confined_constructInt at_ size (some id)

lemma confined_constructDatastream (feedId : Option UInt32) (id : Option Text) :
    Confined (Of .request) (httpConstructDatastream feedId id : Proc XiErr (Buf n) ℤ) := by
  have h : Of .request .httpConstructRequestBufferOverrun := by decide
  refine Confined.errHandling ?_ _
  refine (confined_constructFeed _ _ _).bind fun _ => (confined_checkS h _ _ _).bind fun _ =>
    (confined_constructString _ _ _).bind fun _ => (confined_checkS h _ _ _).bind fun _ => ?_
  cases id with
  | none => exact .pure _
  | some id => exact confined_constructString _ _ _

variable {apiKey : CString}

lemma confined_constructHttpQuery (method : Text) (suffix : Option Text) :
    Confined (Of .request) (httpConstructHttpQuery method suffix apiKey :
      Proc XiErr (Statics tg) (Option Text)) :=
  (confined_readStr.focus.bind fun _ => (confined_snprintf _ _ _).focus.bind fun _ =>
    (confined_checkSize (by decide) _ _).bind fun _ => confined_readStr.focus.bind fun _ =>
      .pure _).errHandling _

lemma confined_requestDatastream (method : Text) (feedId : UInt32) (id : Option Text) :
    Confined (Of .request) (httpConstructRequestDatastream method feedId id apiKey :
      Proc XiErr (Statics tg) (Option Text)) :=
  ((confined_constructDatastream _ _).focus.bind fun _ =>
    (confined_checkSize (by decide) _ _).bind fun _ =>
      confined_constructHttpQuery _ _).errHandling _

lemma confined_requestFeed (method : Text) (feedId : Option UInt32) (suffix : Option Text) :
    Confined (Of .request) (httpConstructRequestFeed method feedId apiKey suffix :
      Proc XiErr (Statics tg) (Option Text)) :=
  ((confined_constructFeed _ _ _).focus.bind fun _ =>
    (confined_checkSize (by decide) _ _).bind fun _ =>
      confined_constructHttpQuery _ _).errHandling _

lemma confined_constructContent (size : ℤ) : Confined (Of .request)
    (httpConstructContent size : Proc XiErr (Statics tg) (Option Text)) :=
  ((confined_snprintf _ _ _).focus.bind fun _ => (confined_checkSize (by decide) _ _).bind fun _ =>
    confined_readStr.focus.bind fun _ => .pure _).errHandling _

lemma confined_appendPiece {x : XiErr} (h : Of .request x) (offset : ℕ) (t : Text) :
    Confined (Of .request) (appendPiece offset t x : Proc XiErr (Buf n) ℕ) :=
  (confined_snprintf _ _ _).bind fun _ => confined_checkS h _ _ _

lemma confined_encodeConcat (query : Text) (content data : Option Text) : Confined (Of .request)
    (httpEncodeConcat query content data : Proc XiErr (Buf n) (Option Text)) := by
  have h : Of .request .httpEncodeCreateDatastream := by decide
  have hend (offset : ℕ) : Confined (Of .request) (do
      let _ ← appendPiece offset (lit "\r\n") .httpEncodeCreateDatastream
      let t ← readStr
      return some t : Proc XiErr (Buf n) (Option Text)) :=
    (confined_appendPiece h _ _).bind fun _ => confined_readStr.bind fun _ => .pure _
  refine Confined.errHandling ((confined_appendPiece h _ _).bind fun _ => ?_) _
  cases content with
  | none => exact (confined_appendPiece h _ _).bind hend
  | some content =>
    refine (confined_appendPiece h _ _).bind fun _ => (confined_appendPiece h _ _).bind fun _ => ?_
    cases data with
    | none => exact hend _
    | some data => exact (confined_appendPiece h _ _).bind hend

lemma confined_unlessNull {σ α β : Type} {S : XiErr → Prop} {m : Proc XiErr σ (Option α)}
    {f : α → Proc XiErr σ (Option β)} (h : Confined S m) (h' : ∀ a, Confined S (f a)) :
    Confined S (unlessNull m f) := by
  refine h.bind fun o => ?_
  cases o with
  | none => exact .pure _
  | some a => exact h' a

lemma confined_concatBody (query data : Text) :
    Confined (Of .request) (concatBody query data : Proc XiErr (Statics tg) (Option Text)) :=
  (confined_constructContent _).bind fun _ => (confined_encodeConcat _ _ _).focus

lemma confined_bareDatastream (method : Text) (feedId : UInt32) (id : Text) :
    Confined (Of .request) (encodeBareDatastream method apiKey feedId id :
      Proc XiErr (Statics tg) (Option Text)) :=
  confined_unlessNull (confined_requestDatastream _ _ _) fun _ =>
    (confined_encodeConcat _ _ _).focus

lemma confined_deleteTarget {x : XiErr} (h : Of .request x) (s : ℤ) (feedId : UInt32) :
    Confined (Of .request) (deleteTarget s apiKey feedId x :
      Proc XiErr (Statics tg) (Option Text)) :=
  ((confined_checkSize h _ _).bind fun _ => confined_readStr.focus.bind fun _ =>
    confined_bareDatastream _ _ _).errHandling _

lemma confined_updateBody (feed : XiFeed) :
    Confined (Of .request) (updateBody tg feed : Proc XiErr (Buf n) ℕ) := by
  have h : Of .request .httpEncodeUpdateFeed := by decide
  refine Confined.forFrom (fun i offset => ?_) _ _ _
  split
  swap
  · exact .crash _
  refine Confined.forFrom (fun j offset => ?_) _ _ _
  split
  swap
  · exact .crash _
  exact (Confined.orCrash _).bind fun _ => (confined_appendPiece h _ _).bind fun _ =>
    (confined_encodeDatapointInPlace _ _ _).bind fun _ => confined_checkS h _ _ _

lemma confined_getSuffix (feed : XiFeed) :
    Confined (Of .request) (getSuffix feed : Proc XiErr (Buf n) ℕ) := by
  refine Confined.forFrom (fun i offset => ?_) _ _ _
  split
  · exact (Confined.orCrash _).bind fun _ => confined_appendPiece (by decide) _ _
  · exact .crash _

lemma confined_boundTime (bound : Option XiTimestamp) :
    Confined (Of .request) (boundTime tg bound) := by
  cases bound with
  | none => exact .crash _
  | some b => exact .orCrash _

/-- The encoders set errors of requests only. -/
lemma confined_encode (c : EncodeCall) : Confined (Of .request) (c.encode tg apiKey) := by
  cases c with
  | createDatastream feedId id p =>
    exact confined_unlessNull (confined_encodeCreateDatastream _ _).focus fun _ =>
      confined_unlessNull (confined_requestDatastream _ _ _) fun _ => confined_concatBody _ _
  | updateDatastream feedId id p =>
    exact confined_unlessNull (confined_encodeDatapoint _).focus fun _ =>
      confined_unlessNull (confined_requestDatastream _ _ _) fun _ => confined_concatBody _ _
  | getDatastream feedId id => exact confined_bareDatastream _ _ _
  | deleteDatastream feedId id => exact confined_bareDatastream _ _ _
  | deleteDatapoint feedId id o =>
    exact (Confined.orCrash _).bind fun _ => (confined_snprintf _ _ _).focus.bind fun _ =>
      confined_deleteTarget (by decide) _ _
  | updateFeed feed =>
    exact ((Confined.modify _).focus.bind fun _ => (confined_updateBody _).focus.bind fun _ =>
      (confined_requestFeed _ _ _).bind fun _ => Confined.orJump.bind fun _ =>
        confined_readStr.focus.bind fun _ => confined_concatBody _ _).errHandling _
  | getFeed feed =>
    exact ((Confined.modify _).focus.bind fun _ => (confined_getSuffix _).focus.bind fun _ =>
      confined_readStr.focus.bind fun _ => (confined_requestFeed _ _ _).bind fun _ =>
        Confined.orJump.bind fun _ => (confined_encodeConcat _ _ _).focus).errHandling _
  | datapointDeleteRange feedId id start end_ =>
    have hrest (s : ℤ) : Confined (Of .request)
        (deleteTarget s apiKey feedId .httpEncodeDeleteRangeDatapoint :
          Proc XiErr (Statics tg) (Option Text)) := confined_deleteTarget (by decide) _ _
    refine Confined.errHandling ((confined_boundTime _).bind fun _ =>
      (confined_boundTime _).bind fun _ => ?_) _
    cases start <;> cases end_
    · exact hrest 0
    all_goals exact (confined_snprintf _ _ _).focus.bind hrest

end Requests

/-! ### Replies -/

lemma confined_parseStatus (content : Text) :
    Confined (Of .reply) (parseHttpStatus content) := by
  have h : Of .reply .httpStatusParseError := by decide
  exact ((Confined.checkZero h).bind fun _ => (Confined.modify _).bind fun _ =>
    (Confined.checkCnd h).bind fun _ => .pure _).errHandling _

lemma confined_copyField {n : ℕ} (src : Text) (len : ℤ) :
    Confined (Of .reply) (copyField src len : Proc XiErr (Buf n) Unit) :=
  (Confined.checkCnd (by decide)).bind fun _ => (confined_memcpy _ _).bind fun _ =>
    confined_store _ _

lemma confined_parseHeader (content : Text) :
    Confined (Of .reply) (parseHttpHeader content) := by
  have h : Of .reply .httpHeaderParseError := by decide
  refine ((Confined.checkZero h).bind fun _ => (Confined.checkZero h).bind fun _ =>
    (Confined.checkCnd h).bind fun _ => Confined.get.bind fun r => ?_).errHandling _
  split
  swap
  · exact .crash _
  refine (confined_copyField _ _).focus.focus.bind fun _ =>
    (confined_copyField _ _).focus.focus.bind fun _ => confined_readStr.focus.focus.bind fun _ => ?_
  extract_lets ht rest
  have hrest (u : Unit) : Confined (Of .reply) (rest u) :=
    (Confined.modify _).focus.bind fun _ => (Confined.modify _).bind fun _ =>
      (Confined.checkCnd h).bind fun _ => .pure _
  exact .ite (fun _ => (Confined.modify _).bind hrest) fun _ => hrest ()

lemma confined_headerLoop (content : Text) (headersEnd k ptr : ℕ) :
    Confined (Of .reply) (headerLoop content headersEnd k ptr) := by
  induction k generalizing ptr with
  | zero => exact .crash _
  | succ k ih =>
    refine (confined_parseHeader _).bind fun moved => ?_
    cases moved with
    | none => exact .pure _
    | some moved => exact .ite (fun _ => .pure _) fun _ => ih _

/-- The parser sets errors of replies only. -/
lemma confined_parseHttp (content : Text) : Confined (Of .reply) (parseHttp content) := by
  have h : Of .reply .httpParseError := by decide
  have hhead : Confined (Of .reply) (parseHead content) :=
    (Confined.modify _).bind fun _ => (Confined.checkZero h).bind fun _ =>
      (confined_parseStatus _).bind fun _ => (Confined.checkZero h).bind fun _ =>
        (confined_headerLoop _ _ _ _).bind fun _ => .pure _
  have hlast : (xiGetLastError : Proc XiErr HttpResponse XiErr) =
      getErr >>= fun ret => setErr .noErr >>= fun _ => pure ret := rfl
  rw [parseHttp, hlast]
  simp only [bind_assoc, pure_bind]
  exact (hhead.bind fun _ => Confined.getErr fun x hx =>
    (Confined.setErr (by decide)).bind fun _ => (Confined.checkCnd hx).bind fun _ =>
      (Confined.modify _).bind fun _ => .pure _).errHandling _

/-! ### Contents -/

section Contents

variable {tg : Target}

lemma confined_decodeChars (t : Text) (counter : ℕ) (s : XiDfaState) :
    Confined (Of .content) (decodeChars t counter s) := by
  induction t generalizing counter s with
  | nil => exact .pure _
  | cons c t ih =>
    refine .ite (fun _ => .pure _) fun _ => (Confined.checkCnd (by decide)).bind fun _ => ?_
    exact .ite (fun _ => (confined_store _ _).focus.bind fun _ => ih _ _) fun _ => ih _ _

lemma confined_decodeValue (t : Text) : Confined (Of .content) (csvDecodeValue tg t) := by
  have hend : Confined (Of .content) (pure true : Proc XiErr XiDatapoint Bool) := .pure _
  refine ((confined_store _ _).focus.bind fun _ => (confined_decodeChars _ _ _).bind fun r =>
    (confined_store _ _).focus.bind fun _ => ?_).errHandling _
  cases finalState r.2 with
  | number => exact confined_readStr.focus.bind fun _ => (Confined.modify _).bind fun _ => hend
  | float => exact confined_readStr.focus.bind fun _ => (Confined.modify _).bind fun _ => hend
  | _ => exact (Confined.modify _).bind fun _ => hend

lemma confined_decodeDatapoint (t : Text) :
    Confined (Of .content) (csvDecodeDatapoint tg t) := by
  have h : Of .content .csvDecodeDatapointParserError := by decide
  refine ((Confined.checkZero h).bind fun begOfValue => ?_).errHandling _
  extract_lets rest
  have hrest (u : Unit) : Confined (Of .content) (rest u) :=
    (confined_decodeValue _).bind fun _ => (Confined.checkCnd h).bind fun _ => .pure _
  split
  · exact (Confined.orCrash _).bind fun _ => (Confined.checkCnd (by decide)).bind fun _ =>
      (Confined.modify _).bind hrest
  · exact (Confined.setErr h).bind fun _ => Confined.jump.bind hrest

lemma confined_copyLoop {n : ℕ} (delim : Byte) (src : Text) (counter : ℕ) :
    Confined (Of .content) (copyLoop delim src counter : Proc XiErr (Buf n) ℕ) := by
  induction src generalizing counter with
  | nil => exact (confined_store _ _).bind fun _ => .pure _
  | cons c src ih =>
    exact .ite (fun _ => (confined_store _ _).bind fun _ => ih _) fun _ =>
      (confined_store _ _).bind fun _ => .pure _

lemma confined_feedLoop (k : ℕ) (t : Text) (counter : ℕ) :
    Confined (Of .content) (feedLoop tg k t counter) := by
  have h : Of .content .csvDecodeFeedParserError := by decide
  have hstream (t : Text) : Confined (Of .content) (decodeStream tg t) :=
    (Confined.modify _).bind fun _ => (Confined.modify _).focus.bind fun _ =>
      (Confined.checkZero h).bind fun _ => (confined_copyLoop _ _ _).focus.bind fun _ =>
        (confined_checkSize h _ _).bind fun _ => (confined_decodeDatapoint _).focus.bind fun _ =>
          (Confined.checkCnd h).bind fun _ => .modify _
  induction k generalizing t counter with
  | zero => exact .crash _
  | succ k ih =>
    unfold feedLoop
    split
    swap
    · exact .crash _
    refine (hstream _).focus.bind fun _ => (Confined.checkCnd h).bind fun _ => ?_
    cases strstr (lit "\n") t with
    | none => exact .pure _
    | some endOfLine => exact ih _ _

/-- The decoders set errors of contents only. -/
lemma confined_decodeFeed (t : Text) : Confined (Of .content) (csvDecodeFeed tg t) :=
  ((confined_feedLoop _ _ _).bind fun _ => (Confined.modify _).bind fun _ => .pure _).errHandling _

end Contents

/-! ### Layers -/

/-- A layer whose functions set errors of traffic only. -/
structure TrafficOnly (cl : CommLayer) : Prop where
  openConnection : ∀ a p, Confined (Of .traffic) (cl.openConnection a p)
  sendData : ∀ c t, Confined (Of .traffic) (cl.sendData c t)
  readData : ∀ c, Confined (Of .traffic) (cl.readData c)
  closeConnection : ∀ c, Confined (Of .traffic) (cl.closeConnection c)

section Layers

variable {S : XiErr → Prop} {sys : System}

lemma confined_sysCall {α : Type} (answer : ℕ → α) : Confined S (sysCall answer) :=
  fun _ _ h => h

lemma confined_alloc : Confined S (xiAlloc sys) := by
  intro e k h
  unfold xiAlloc
  split <;> exact h

lemma confined_safeFree (block : Option ℕ) : Confined S (xiSafeFree block) := by
  cases block with
  | none => exact .pure _
  | some b => exact .modify _

lemma confined_socket : Confined S (PosixComm.socket sys) := by
  intro e k h
  unfold PosixComm.socket
  split <;> exact h

lemma confined_close (fd : ℕ) : Confined S (PosixComm.close sys fd) :=
  (Confined.modify _).bind fun _ => confined_sysCall _

lemma confined_openCleanup : Confined S openCleanup := by
  refine Confined.get.bind fun l => (confined_safeFree _).outer.bind fun _ => ?_
  exact .ite (fun _ => (confined_safeFree _).outer.bind fun _ => (confined_safeFree _).outer)
    fun _ => (confined_safeFree _).outer

lemma confined_openBody : Confined (Of .traffic) (openBody sys) := by
  have hm : Of .traffic .outOfMemory := by decide
  have hi : Of .traffic .socketInitializationError := by decide
  have hg : Of .traffic .socketGethostbynameError := by decide
  have hc : Of .traffic .socketConnectionError := by decide
  refine confined_alloc.outer.bind fun _ => (Confined.assign _).bind fun _ =>
    (Confined.checkZero hm).bind fun _ => confined_alloc.outer.bind fun _ =>
    (Confined.assign _).bind fun _ => (Confined.checkZero hm).bind fun _ =>
    confined_alloc.outer.bind fun _ => (Confined.assign _).bind fun _ =>
    (Confined.checkZero hm).bind fun _ => confined_socket.outer.bind fun fd => ?_
  cases fd with
  | none => exact (Confined.setErr hi).bind fun _ => .pure _
  | some fd =>
    exact (confined_sysCall _).outer.bind fun _ => (Confined.checkCnd hi).bind fun _ =>
      (confined_sysCall _).outer.bind fun _ => (Confined.checkCnd hi).bind fun _ =>
      (confined_sysCall _).outer.bind fun _ => (Confined.checkCnd hg).bind fun _ =>
      (confined_sysCall _).outer.bind fun _ => (Confined.checkCnd hc).bind fun _ => .pure _

lemma confined_sendData (conn : Connection) (data : Text) :
    Confined (Of .traffic) (posixSendData sys conn data) := by
  refine (confined_sysCall _).bind fun k => ?_
  cases k with
  | none => exact (Confined.setErr (by decide)).bind fun _ => .pure _
  | some k => exact (Confined.modify _).bind fun _ => .pure _

lemma confined_readData (conn : Connection) :
    Confined (Of .traffic) (posixReadData sys conn) := by
  refine (Confined.modify _).bind fun _ => (confined_sysCall _).bind fun d => ?_
  cases d with
  | none => exact (Confined.setErr (by decide)).bind fun _ => .pure _
  | some d => exact .pure _

lemma confined_posixClose (conn : Connection) :
    Confined (Of .traffic) (posixCloseConnection sys conn) := by
  have hc : Of .traffic .socketCloseError := by decide
  refine Confined.bind (Confined.errHandling ((confined_sysCall _).bind fun s => ?_) _) fun _ =>
    (confined_safeFree _).bind fun _ => (confined_safeFree _).bind fun _ => confined_safeFree _
  refine .ite (fun _ => ?_) fun _ => (confined_close _).bind fun _ => .checkCnd hc
  exact (Confined.setErr (by decide)).bind fun _ => (confined_close _).bind fun _ =>
    Confined.jump.bind fun _ => (confined_close _).bind fun _ => .checkCnd hc

lemma confined_nqClose (conn : Connection) :
    Confined (Of .traffic) (nqCloseConnection sys conn) := by
  refine (confined_close _).bind fun _ => .ite (fun _ => ?_) fun _ => .pure _
  exact (Confined.setErr (by decide)).bind fun _ => (confined_safeFree _).bind fun _ =>
    (confined_safeFree _).bind fun _ => confined_safeFree _

lemma confined_nqOpenBody : Confined (Of .traffic) (nqOpenBody sys) := by
  have hm : Of .traffic .outOfMemory := by decide
  exact confined_alloc.outer.bind fun _ => (Confined.assign _).bind fun _ =>
    (Confined.checkZero hm).bind fun _ => confined_alloc.outer.bind fun _ =>
    (Confined.assign _).bind fun _ => (Confined.checkZero hm).bind fun _ =>
    confined_alloc.outer.bind fun _ => (Confined.assign _).bind fun _ =>
    (Confined.checkZero hm).bind fun _ => confined_socket.outer.bind fun _ =>
    (Confined.checkZero (by decide)).bind fun _ => .pure _

lemma confined_mbedOpenBody : Confined (Of .traffic) (mbedOpenBody sys) := by
  have hm : Of .traffic .outOfMemory := by decide
  exact confined_alloc.outer.outer.bind fun _ => (Confined.checkZero hm).bind fun _ =>
    confined_alloc.outer.outer.bind fun _ => (Confined.assign _).bind fun _ =>
    (Confined.checkZero hm).bind fun _ => confined_alloc.outer.outer.bind fun _ =>
    (Confined.assign _).bind fun _ => (Confined.checkZero hm).bind fun _ =>
    confined_alloc.outer.outer.bind fun _ => (Confined.assign _).bind fun _ =>
    (Confined.checkZero hm).bind fun _ => (Confined.assign _).bind fun _ =>
    confined_socket.outer.outer.bind fun _ => (Confined.checkZero (by decide)).bind fun _ =>
      .pure _

lemma confined_mbedOpenCleanup : Confined S mbedOpenCleanup := by
  have hrest (l : MbedOpenLocals) : Confined S (do
      outer (outer (xiSafeFree l.posCommData))
      if l.conn.isSome then outer (outer (xiSafeFree l.address))
      outer (outer (xiSafeFree l.conn)) : Proc XiErr (MbedKernel × MbedOpenLocals) Unit) :=
    (confined_safeFree _).outer.outer.bind fun _ => .ite
      (fun _ => (confined_safeFree _).outer.outer.bind fun _ => (confined_safeFree _).outer.outer)
      fun _ => (confined_safeFree _).outer.outer
  refine Confined.get.bind fun l => .ite (fun _ => ?_) fun _ => hrest l.2
  cases l.2.socketPtr with
  | none => exact (Confined.modify _).outer.bind fun _ => hrest l.2
  | some p => exact (confined_safeFree _).outer.outer.bind fun _ => hrest l.2

lemma confined_mbedClose (conn : MbedConnection) :
    Confined (Of .traffic) (mbedCloseConnection sys conn) :=
  Confined.outer (Confined.bind (Confined.errHandling ((confined_close _).bind fun _ =>
    .checkCnd (by decide)) _) fun _ => (confined_safeFree _).bind fun _ =>
      (confined_safeFree _).bind fun _ => (confined_safeFree _).bind fun _ => confined_safeFree _)

lemma confined_dummyOpenBody : Confined (Of .traffic) (dummyOpenBody sys) := by
  have hm : Of .traffic .outOfMemory := by decide
  exact confined_alloc.outer.bind fun _ => (Confined.assign _).bind fun _ =>
    (Confined.checkZero hm).bind fun _ => confined_alloc.outer.bind fun _ =>
    (Confined.assign _).bind fun _ => (Confined.checkZero hm).bind fun _ =>
    confined_alloc.outer.bind fun _ => (Confined.assign _).bind fun _ =>
    (Confined.checkZero hm).bind fun _ => .pure _

lemma confined_posixOpen (a : Text) (p : ℕ) :
    Confined (Of .traffic) (posixOpenConnection sys a p) :=
  (confined_openBody.errCleanup confined_openCleanup none).withLocals

lemma posix_trafficOnly : TrafficOnly (posixLayer sys) where
  openConnection := confined_posixOpen
  sendData := confined_sendData
  readData := confined_readData
  closeConnection := confined_posixClose

lemma nq_trafficOnly : TrafficOnly (nqLayer sys) where
  openConnection _ _ := (confined_nqOpenBody.errCleanup confined_openCleanup none).withLocals
  sendData := confined_sendData
  readData := confined_readData
  closeConnection := confined_nqClose

lemma mbed_trafficOnly : TrafficOnly (mbedLayer sys) where
  openConnection _ _ :=
    (confined_mbedOpenBody.errCleanup confined_mbedOpenCleanup none).withLocals
  sendData c t := (confined_sendData c.toConnection t).outer
  readData c := (confined_readData c.toConnection).outer
  closeConnection := confined_mbedClose

lemma dummy_trafficOnly : TrafficOnly (dummyLayer sys) where
  openConnection _ _ := (confined_dummyOpenBody.errCleanup confined_openCleanup none).withLocals
  sendData _ _ := .pure _
  readData _ := .pure _
  closeConnection _ := (confined_safeFree _).bind fun _ => (confined_safeFree _).bind fun _ =>
    confined_safeFree _

/-- The layers of the library. Of the mbed layer, a run speaks as long as its flag is not raised. -/
inductive Shipped : CommLayer → Prop
  | posix (sys : System) : Shipped (posixLayer sys)
  | nq (sys : System) : Shipped (nqLayer sys)
  | mbed (sys : System) : Shipped (mbedLayer sys)
  | dummy (sys : System) : Shipped (dummyLayer sys)

lemma Shipped.trafficOnly {cl : CommLayer} (h : Shipped cl) : TrafficOnly cl := by
  cases h with
  | posix sys => exact posix_trafficOnly
  | nq sys => exact nq_trafficOnly
  | mbed sys => exact mbed_trafficOnly
  | dummy sys => exact dummy_trafficOnly

end Layers

end LibXively.ErrorSources
