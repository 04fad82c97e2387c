import LibXively.Api.Calls

/-!
The local buffer a reply is received in.

The layer below clears the buffer before it reads. So what is left behind the bytes of the peer
terminates them, and nothing does where the peer fills the buffer.
-/

namespace LibXively.ReceiveBuffer

open LibXively.Bytes LibXively.CProc LibXively.CharArray LibXively.Structures
open LibXively.HttpQueries LibXively.CommLayers LibXively.Xively LibXively.PosixLayer
open LibXively.Head LibXively.Exchanges LibXively.Calls

/-- The bytes of the peer leave room for a terminator, or hold one. -/
def Terminated (d : Received) : Prop := d.bytes.length < xiHttpMaxContentSize ∨ 0 ∈ d.bytes

instance (d : Received) : Decidable (Terminated d) := inferInstanceAs (Decidable (_ ∨ _))

lemma zero_mem_buffer (d : Received) : 0 ∈ d.buffer.bytes ↔ Terminated d := by
  have htake : d.bytes.take xiHttpMaxContentSize = d.bytes := List.take_of_length_le d.fits
  have hmem : 0 ∈ d.buffer.bytes ↔
      0 ∈ d.bytes.take xiHttpMaxContentSize ++
        List.replicate (xiHttpMaxContentSize - d.bytes.length) 0 := Iff.rfl
  rw [hmem, htake, List.mem_append, List.mem_replicate, Terminated, or_comm]
  refine or_congr_left ⟨fun h => by omega, fun h => ⟨by omega, rfl⟩⟩

lemma cstr_buffer_none (d : Received) : cstr d.buffer = none ↔ ¬ Terminated d := by
  rw [cstr_eq_none, zero_mem_buffer]

variable {tg : Target} {cl : CommLayer}

/-- A call whose peer delivers something reads past the buffer exactly if that is not terminated. -/
lemma overread_delivered (h56 : 56 ≤ tg.contentBufferSize) {c : ApiCall}
    (hc : c.request.Readable) (hfits : c.request.Fits tg c.apiKey) {w w' : cl.World}
    {conn : cl.Conn} {d : Received} (hd : Delivers cl (c.request.text tg c.apiKey) w conn d w')
    (e : XiErr) (l : Statics tg) :
    c.run e (⟨l, w⟩ : Process tg cl) = .fault .overread ↔ ¬ Terminated d := by
  obtain ⟨δ, request, decode, dest, hrun, hreq, hcontent⟩ := @run_eq tg cl h56 c hc
  rw [hrun, ← cstr_buffer_none]
  cases ht : cstr d.buffer with
  | none => exact iff_of_true (run_fault (overread_unterminated hreq hfits hd ht e l dest)) rfl
  | some text =>
    refine iff_of_false ?_ nofun
    have hans :
        Answered cl (c.request.Fits tg c.apiKey) (c.request.text tg c.apiKey) w conn text w' :=
      ⟨hfits, d, hd, ht⟩
    cases hv : headVerdict text with
    | good =>
      obtain ⟨y, w'', hclose⟩ := exists_closing (some conn) w'
      by_cases he : e = .noErr
      · subst he
        obtain ⟨dest', x, hdec, -⟩ := hcontent (payloadOf text)
        obtain ⟨l', hret⟩ := responds_good hreq hans hv hdec hclose l
        rw [run_ret hret]
        nofun
      · obtain ⟨x, l', -, hret⟩ := fails_pending hreq hans hv hclose he l dest
        rw [run_ret hret]
        nofun
    | refused =>
      obtain ⟨w'', hfails⟩ := fails_refused decode hreq hans hv
      obtain ⟨x, l', -, hret⟩ := hfails e l dest
      rw [run_ret hret]
      nofun
    | crash =>
      rw [run_fault (badLength_crash hreq hans hv e l dest)]
      nofun

/-- A call that gets nothing from its peer reads past no buffer. -/
lemma not_overread_undelivered (h56 : 56 ≤ tg.contentBufferSize) {c : ApiCall}
    (hc : c.request.Readable) {w : cl.World}
    (h : ∀ conn d w', c.request.Fits tg c.apiKey →
      ¬ Delivers cl (c.request.text tg c.apiKey) w conn d w') (e : XiErr) (l : Statics tg) :
    c.run e (⟨l, w⟩ : Process tg cl) ≠ .fault .overread := by
  obtain ⟨δ, request, decode, dest, hrun, hreq, -⟩ := @run_eq tg cl h56 c hc
  obtain ⟨w', hfails⟩ := fails_undelivered decode hreq h
  obtain ⟨x, l', -, hret⟩ := hfails e l dest
  rw [hrun, run_ret hret]
  nofun

lemma run_overread_iff (h56 : 56 ≤ tg.contentBufferSize) {c : ApiCall} (hc : c.Readable)
    (e : XiErr) (l : Statics tg) (w : cl.World) :
    c.run e (⟨l, w⟩ : Process tg cl) ≠ .fault .overread ↔ ∀ conn d w',
      c.request.Fits tg c.apiKey → Delivers cl (c.request.text tg c.apiKey) w conn d w' →
        Terminated d := by
  rcases readable_cases hc with hreadable | ⟨xi, feedId, id, start, end_, rfl, habsent⟩
  · by_cases hdel : ∃ conn d w', c.request.Fits tg c.apiKey ∧
        Delivers cl (c.request.text tg c.apiKey) w conn d w'
    · obtain ⟨conn, d, w', hfits, hd⟩ := hdel
      rw [ne_eq, overread_delivered h56 hreadable hfits hd e l, not_not]
      refine ⟨fun h conn' d' w'' _ hd' => ?_, fun h => h conn d w' hfits hd⟩
      obtain ⟨-, rfl, -⟩ := delivers_unique hd hd'
      exact h
    · have hnone conn d w' (hfits : c.request.Fits tg c.apiKey) :
          ¬ Delivers cl (c.request.text tg c.apiKey) w conn d w' :=
        fun hd => hdel ⟨conn, d, w', hfits, hd⟩
      exact iff_of_true (not_overread_undelivered h56 hreadable hnone e l)
        fun conn d w' hfits hd => absurd hd (hnone conn d w' hfits)
  · refine iff_of_true ?_ fun conn d w' hfits => absurd hfits (not_fits_absentBound habsent)
    rw [run_absentBound habsent]
    nofun

/-- **The receive buffer**: what a layer delivers into the buffer of an API function is a string
exactly if it leaves room for a terminator or holds one, and a call reads past the buffer exactly
if it is not. -/
theorem receive_buffer (tg : Target) (h56 : 56 ≤ tg.contentBufferSize) (cl : CommLayer) :
    (∀ d : Received, 0 ∈ d.buffer.bytes ↔ Terminated d) ∧
    ∀ (c : ApiCall), c.Readable → ∀ e (l : Statics tg) (w : cl.World),
      (c.run e (⟨l, w⟩ : Process tg cl) ≠ .fault .overread ↔ ∀ conn d w',
        c.request.Fits tg c.apiKey → Delivers cl (c.request.text tg c.apiKey) w conn d w' →
          Terminated d) :=
  ⟨zero_mem_buffer, fun _ hc e l w => run_overread_iff h56 hc e l w⟩

/-- A reply that is as long as the buffer. -/
def fullReply : Received := ⟨List.replicate xiHttpMaxContentSize 120, by simp⟩

lemma not_terminated_fullReply : ¬ Terminated fullReply := by
  rintro (hlt | hmem)
  · simp [fullReply] at hlt
  · simp [fullReply] at hmem

theorem receive_buffer_empty :
    getCall.run .noErr
      (⟨.fresh posixConfig, freshWorld peers⟩ : Process posixConfig (posixLayer peers)) ≠
        .fault .overread := by
  refine ((receive_buffer posixConfig (by decide) _).2 getCall trivial _ _ _).mpr ?_
  intro conn d w' hfits hd
  obtain ⟨conn', k, hd'⟩ := delivers_answering emptyReply _ (freshWorld peers)
  obtain ⟨-, rfl, -⟩ := delivers_unique hd' hd
  decide

/-- The parser reads past a buffer the peer has filled. -/
theorem receive_buffer_full :
    0 ∉ fullReply.buffer.bytes ∧
    getCall.run .noErr (⟨.fresh posixConfig, freshWorld (answering fullReply)⟩ :
      Process posixConfig (posixLayer (answering fullReply))) = .fault .overread := by
  refine ⟨(zero_mem_buffer fullReply).not.mpr not_terminated_fullReply, ?_⟩
  obtain ⟨conn, k, hd⟩ := delivers_answering fullReply
    (getCall.request.text posixConfig getCall.apiKey) (freshWorld (answering fullReply))
  exact (@overread_delivered posixConfig _ (by decide) getCall trivial fits_getCall _ _ _ _ hd
    _ _).mpr not_terminated_fullReply

end LibXively.ReceiveBuffer
