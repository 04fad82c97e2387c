import LibXively.Calendar.Gmtime
import LibXively.Requests.Append

/-!
The text of a datapoint, and the encoders of the data layer that print it.
-/

namespace LibXively.CsvText

open LibXively.Bytes LibXively.Decimal LibXively.CProc LibXively.CharArray
open LibXively.XiTime LibXively.Gmtime LibXively.Structures LibXively.CsvData LibXively.Append

variable (tg : Target)

/-- The text of a value, if its type is a known one. -/
def valueText (p : XiDatapoint) : Option Text :=
  match p.valueType with
  | .i32 => some (fmtD (i32Value p.value))
  | .f32 => some (tg.fmtF (f32Value p.value)).bytes
  | .str => cstr p.value
  | .unknown _ => none

/-- The timestamp field of a datapoint and its comma; there is none for the timestamp 0. -/
def stampText (p : XiDatapoint) : Text :=
  if p.timestamp.timestamp = 0 then []
  else (xiGmtime tg.longBits p.timestamp.timestamp).elim [] fun tm =>
    timestampText tm (toInt32 p.timestamp.micro) ++ lit ","

/-- The line of a datapoint. -/
def datapointText (p : XiDatapoint) : Option Text :=
  (valueText tg p).map fun v => stampText tg p ++ v ++ lit "\n"

/-! ### The bytes that are printed -/

lemma zero_not_mem_fmtD (v : ℤ) : (0 : Byte) ∉ fmtD v := by
  intro h
  rcases of_mem_fmtD h with h | h <;> simp [isDigit] at h

/-- A timestamp consists of digits and of its separators. -/
lemma of_mem_timestampText {tm : XiTm} {micro : ℤ} {c : Byte} (h : c ∈ timestampText tm micro) :
    isDigit c = true ∨ c ∈ lit "-T:.Z" := by
  have hnum {w : ℕ} {v : ℤ} (h : c ∈ fmtD0 w v) : isDigit c = true ∨ c ∈ lit "-T:.Z" :=
    (of_mem_fmtD0 h).imp_right fun (h : c = 45) => h ▸ (by decide : (45 : Byte) ∈ lit "-T:.Z")
  have hsep {s : Text} (hs : s ⊆ lit "-T:.Z") (h : c ∈ s) :
      isDigit c = true ∨ c ∈ lit "-T:.Z" := Or.inr (hs h)
  simp only [timestampText, List.mem_append] at h
  rcases h with ((((((((((((h | h) | h) | h) | h) | h) | h) | h) | h) | h) | h) | h) | h) | h
  all_goals first | exact hnum h | exact hsep (by decide) h

lemma zero_not_mem_timestampText (tm : XiTm) (micro : ℤ) : (0 : Byte) ∉ timestampText tm micro :=
  fun h => absurd (of_mem_timestampText h) (by decide)

lemma zero_not_mem_stampText (p : XiDatapoint) : (0 : Byte) ∉ stampText tg p := by
  unfold stampText
  split
  · simp
  · obtain ⟨tm, htm⟩ := xiGmtime_isSome tg.longBits p.timestamp.timestamp
    rw [htm, Option.elim_some, List.mem_append, not_or]
    exact ⟨zero_not_mem_timestampText _ _, by decide⟩

lemma zero_not_mem_valueText {p : XiDatapoint} {v : Text} (h : valueText tg p = some v) :
    (0 : Byte) ∉ v := by
  unfold valueText at h
  split at h
  · exact Option.some.inj h ▸ zero_not_mem_fmtD _
  · exact Option.some.inj h ▸ (tg.fmtF _).noNul
  · exact zero_not_mem_of_cstr h
  · simp at h

lemma zero_not_mem_datapointText {p : XiDatapoint} {v : Text}
    (h : datapointText tg p = some v) : (0 : Byte) ∉ v := by
  obtain ⟨u, hu, rfl⟩ := Option.map_eq_some_iff.mp h
  simp only [List.mem_append, not_or]
  exact ⟨⟨zero_not_mem_stampText tg p, zero_not_mem_valueText tg hu⟩, by decide⟩

/-! ### The steps of an encoder -/

variable {n : ℕ}

lemma prints_csvEncodeValue {p : XiDatapoint} (hp : p.Readable) :
    Prints (n := n) [] (fun at_ size => csvEncodeValue tg at_ size p) (valueText tg p) := by
  cases h : p.valueType with
  | i32 => simpa only [valueText, csvEncodeValue, h] using prints_snprintf _
  | f32 => simpa only [valueText, csvEncodeValue, h] using prints_snprintf _
  | str =>
    obtain ⟨s, hs⟩ := exists_cstr (hp h)
    simp only [valueText, csvEncodeValue, h, hs]
    exact prints_snprintf s
  | unknown code =>
    simp only [valueText, csvEncodeValue, h]
    exact fun t _ => ⟨by simp, fun _ => ⟨-1, none, _, Or.inr (by decide), Returns.pure _ _⟩⟩

/-- The steps every datapoint has: its value and the end of the line. -/
def valueSteps (a : ℕ) (p : XiDatapoint) (o : ℕ) : Proc XiErr (Buf n) ℕ := do
  let s ← csvEncodeValue tg (a + o) (n - a - o) p
  let o ← xiCheckS s (n - a) o .csvEncodeDatapointBufferOverrun
  let s ← snprintf (a + o) (n - a - o) (lit "\n")
  xiCheckS s (n - a) o .csvEncodeDatapointBufferOverrun

/-- The step of the timestamp field. -/
def stampStep (a : ℕ) (p : XiDatapoint) (o : ℕ) : Proc XiErr (Buf n) ℕ := do
  let gmtinfo ← orCrash (xiGmtime tg.longBits p.timestamp.timestamp) .overrun
  let s ← snprintf (a + o) (n - a - o)
    (timestampText gmtinfo (toInt32 p.timestamp.micro) ++ lit ",")
  xiCheckS s (n - a) o .csvEncodeDatapointBufferOverrun

lemma appends_valueSteps {p : XiDatapoint} (hp : p.Readable) (a : ℕ) :
    Appends (n := n) a [] (valueSteps tg a p) (cat (valueText tg p) (some (lit "\n"))) := by
  have h1 := (prints_csvEncodeValue (n := n) tg hp).appends a
    (x := .csvEncodeDatapointBufferOverrun) (by decide)
  have h2 := (prints_snprintf (n := n) (lit "\n")).appends a
    (x := .csvEncodeDatapointBufferOverrun) (by decide)
  have h := h1.andThen h2.weaken
  simp only [bind_assoc] at h
  exact h

lemma appends_stampStep {p : XiDatapoint} (h0 : p.timestamp.timestamp ≠ 0) (a : ℕ) :
    Appends (n := n) a [] (stampStep tg a p) (some (stampText tg p)) := by
  obtain ⟨tm, htm⟩ := xiGmtime_isSome tg.longBits p.timestamp.timestamp
  unfold stampStep
  rw [stampText, if_neg h0, htm]
  exact (prints_snprintf _).appends a (by decide)

/-- `csv_encode_datapoint_in_place` is a chain that appends the line of the datapoint. -/
lemma inPlace_chain {p : XiDatapoint} (hp : p.Readable) (a : ℕ) :
    ∃ f : ℕ → Proc XiErr (Buf n) ℕ, Appends a [] f (datapointText tg p) ∧
      csvEncodeDatapointInPlace tg a (n - a) p =
        errHandling (-1) (f 0 >>= fun o => pure (o : ℤ)) := by
  have hv := appends_valueSteps (n := n) tg hp a
  by_cases h0 : p.timestamp.timestamp = 0
  · refine ⟨valueSteps tg a p, ?_, ?_⟩
    · cases h : valueText tg p <;> simpa [datapointText, stampText, h0, h] using hv
    · simp [csvEncodeDatapointInPlace, valueSteps, h0]
  · refine ⟨fun o => stampStep tg a p o >>= valueSteps tg a p, ?_, ?_⟩
    · have := (appends_stampStep (n := n) tg h0 a).andThen hv.weaken
      cases h : valueText tg p <;> simpa [datapointText, h] using this
    · simp [csvEncodeDatapointInPlace, stampStep, valueSteps, h0]

/-- `csv_encode_datapoint_in_place` builds the line of the datapoint. -/
lemma builds_inPlace {p : XiDatapoint} (hp : p.Readable) :
    Builds (n := n) (fun at_ size => csvEncodeDatapointInPlace tg at_ size p)
      (datapointText tg p) := by
  intro t ht
  obtain ⟨f, hf, heq⟩ := inPlace_chain (n := n) tg hp t.length
  obtain ⟨hfit, hover⟩ := hf 0 t rfl ht
  beta_reduce
  rw [heq]
  rw [List.append_nil] at hfit hover
  refine ⟨fun v hv hlt => ?_, fun hno => ?_⟩
  · simpa using ((hfit v hv hlt).map fun o => (o : ℤ)).errHandling (-1)
  · obtain ⟨x, Q, hx, hl⟩ := hover hno
    exact ⟨x, Q, hx, hl.bind.errHandling (-1)⟩

/-! ### The two encoders of the local buffer -/

/-- `csv_encode_datapoint` returns the line of the datapoint if it fits. -/
lemma csvEncodeDatapoint_spec {p : XiDatapoint} (hp : p.Readable) (hn : 0 < n) :
    Decides (csvEncodeDatapoint (n := n) tg p) (FitsAt n 0 (datapointText tg p))
      ((datapointText tg p).getD []) := by
  obtain ⟨hfit, hover⟩ := builds_inPlace (n := n) tg hp [] hn
  simp only [List.length_nil, Nat.cast_zero, sub_zero, zero_add, List.nil_append] at hfit hover
  refine ⟨fun ⟨v, hv, hlt⟩ => ?_, fun hno => ?_⟩
  · have hread := returns_readStr (ε := XiErr) (n := n) (zero_not_mem_datapointText tg hv)
    have hrun : Returns (Starts []) (csvEncodeDatapoint (n := n) tg p) (some v) none
        (Starts (v ++ [0])) :=
      (hfit v hv (by omega)).seq (by simpa using hread.map some)
    rw [hv, Option.getD_some]
    exact hrun.yields starts_nil
  · obtain ⟨x, Q, hx, hr⟩ := hover hno
    have hrun : Returns (Starts []) (csvEncodeDatapoint (n := n) tg p) none (some x) Q :=
      hr.keeps (Returns.pure Q none)
    exact ⟨x, hx, hrun.yields starts_nil⟩

/-- The line `csv_encode_create_datastream` builds. -/
def createText (datastreamId : CString) (p : XiDatapoint) : Option Text :=
  cat (some (datastreamId.bytes ++ lit ",")) (datapointText tg p)

lemma zero_not_mem_createText {datastreamId : CString} {p : XiDatapoint} {v : Text}
    (h : createText tg datastreamId p = some v) : (0 : Byte) ∉ v := by
  obtain ⟨u, hu, rfl⟩ := Option.map_eq_some_iff.mp h
  simp only [List.mem_append, not_or]
  exact ⟨⟨datastreamId.noNul, by decide⟩, zero_not_mem_datapointText tg hu⟩

/-- The steps of `csv_encode_create_datastream`. -/
def createSteps (datastreamId : CString) (p : XiDatapoint) (o : ℕ) : Proc XiErr (Buf n) ℕ := do
  let s ← snprintf (0 + o) (n - (0 : ℕ) - o) (datastreamId.bytes ++ lit ",")
  let o ← xiCheckS s (n - (0 : ℕ)) o .csvEncodeDatastreamBufferOverrun
  let s ← csvEncodeDatapointInPlace tg (0 + o) (n - (0 : ℕ) - o) p
  xiCheckS s (n - (0 : ℕ)) o .csvEncodeDatastreamBufferOverrun

lemma appends_createSteps {p : XiDatapoint} (hp : p.Readable) (datastreamId : CString) :
    Appends (n := n) 0 [] (createSteps tg datastreamId p) (createText tg datastreamId p) := by
  have h1 := (prints_snprintf (n := n) (datastreamId.bytes ++ lit ",")).appends 0
    (x := .csvEncodeDatastreamBufferOverrun) (by decide)
  have h2 := (builds_inPlace (n := n) tg hp).prints.appends 0
    (x := .csvEncodeDatastreamBufferOverrun) (by decide)
  have h := h1.andThen h2.weaken
  simp only [bind_assoc] at h
  exact h

/-- `csv_encode_create_datastream` returns the line of the datastream if it fits. -/
lemma csvEncodeCreateDatastream_spec {p : XiDatapoint} (hp : p.Readable) (hn : 0 < n)
    (datastreamId : CString) :
    Decides (csvEncodeCreateDatastream (n := n) tg datastreamId p)
      (FitsAt n 0 (createText tg datastreamId p)) ((createText tg datastreamId p).getD []) := by
  have hrun : csvEncodeCreateDatastream (n := n) tg datastreamId p = errHandling none
      (createSteps tg datastreamId p 0 >>= fun _ => readStr >>= fun t => pure (some t)) := by
    simp [csvEncodeCreateDatastream, createSteps]
  rw [hrun]
  exact (appends_createSteps tg hp datastreamId).decides hn
    fun _ => zero_not_mem_createText tg

end LibXively.CsvText
