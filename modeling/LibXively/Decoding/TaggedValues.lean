import LibXively.Decoding.Numbers
import LibXively.Requests.UpdateLines

/-!
The value of a datapoint as a variable.

A value is set by a setter, written through the pointer to it, or read from a content. What the
getters, the pointers and the encoder then make of the union is the value that came last, and where
a content has spoiled it, the union is still one the encoder can read.
-/

namespace LibXively.TaggedValues

open LibXively.Bytes LibXively.Decimal LibXively.CProc LibXively.CharArray LibXively.Structures
open LibXively.CsvData LibXively.Xively LibXively.CsvText LibXively.Values LibXively.Datapoints
open LibXively.Numbers LibXively.UpdateLines

/-! ### Values -/

/-- A value, with the bits of a float. -/
inductive Value
  | i32 (value : Int32)
  | f32 (bits : UInt32)
  | str (text : Text)
  deriving DecidableEq

def Value.type : Value → XiValueType
  | .i32 _ => .i32
  | .f32 _ => .f32
  | .str _ => .str

/-- The value as it is printed. -/
def Value.text (tg : Target) : Value → Text
  | .i32 value => fmtD value.toInt
  | .f32 bits => (tg.fmtF bits).bytes
  | .str text => text

/-- The datapoint shows the value: to the getters, the pointers and the encoder. -/
structure Shows (tg : Target) (p : XiDatapoint) (v : Value) : Prop where
  type : xiGetValueType p = v.type
  i32 : ∀ z, v = .i32 z → xiGetValueI32 p = z.toInt
  f32 : ∀ bits, v = .f32 bits → xiGetValueF32 p = bits
  str : ∀ text, v = .str text → cstr p.value = some text
  pointerI32 : xiValuePointerI32 p = decide (v.type = .i32)
  pointerF32 : xiValuePointerF32 p = decide (v.type = .f32)
  pointerStr : xiValuePointerStr p = decide (v.type = .str)
  text : valueText tg p = some (v.text tg)

variable {tg : Target} {p : XiDatapoint}

lemma shows_i32 {z : Int32} (ht : p.valueType = .i32) (hv : i32Value p.value = z.toInt) :
    Shows tg p (.i32 z) where
  type := ht
  i32 := by rintro _ ⟨⟩; exact hv
  f32 := nofun
  str := nofun
  pointerI32 := by simp [xiValuePointerI32, ht, Value.type]
  pointerF32 := by simp [xiValuePointerF32, ht, Value.type]
  pointerStr := by simp [xiValuePointerStr, ht, Value.type]
  text := by simp [valueText, ht, hv, Value.text]

lemma shows_f32 {bits : UInt32} (ht : p.valueType = .f32) (hv : f32Value p.value = bits) :
    Shows tg p (.f32 bits) where
  type := ht
  i32 := nofun
  f32 := by rintro _ ⟨⟩; simp [xiGetValueF32, ht, hv]
  str := nofun
  pointerI32 := by simp [xiValuePointerI32, ht, Value.type]
  pointerF32 := by simp [xiValuePointerF32, ht, Value.type]
  pointerStr := by simp [xiValuePointerStr, ht, Value.type]
  text := by simp [valueText, ht, hv, Value.text]

lemma shows_str {text : Text} (ht : p.valueType = .str) (hv : cstr p.value = some text) :
    Shows tg p (.str text) where
  type := ht
  i32 := nofun
  f32 := nofun
  str := by rintro _ ⟨⟩; exact hv
  pointerI32 := by simp [xiValuePointerI32, ht, Value.type]
  pointerF32 := by simp [xiValuePointerF32, ht, Value.type]
  pointerStr := by simp [xiValuePointerStr, ht, Value.type]
  text := by simp [valueText, ht, hv, Value.text]

/-! ### Edits -/

/-- What is done to a datapoint: a setter, a write through the pointer to its value, if that is not
null, or the decoder. -/
inductive Edit
  | setI32 (value : Int32)
  | setF32 (bits : UInt32)
  | setStr (value : CString)
  | writeI32 (value : Int32)
  | writeF32 (bits : UInt32)
  | writeStr (value : CString) (h : value.bytes.length < xiValueStringMaxSize)
  | decode (content : Text)

/-- `if( pointer ) { .. }`, for one of the pointers to the value. -/
def throughPointer (pointer : XiDatapoint → Bool) (g : XiDatapointValue → XiDatapointValue) :
    Proc XiErr XiDatapoint Bool := do
  let p ← get
  if pointer p then do
    onValue (modify g)
    return true
  else return false

def Edit.run (tg : Target) : Edit → Proc XiErr XiDatapoint Bool
  | .setI32 value => xiSetValueI32 value
  | .setF32 bits => xiSetValueF32 bits
  | .setStr value => xiSetValueStr value
  | .writeI32 value => throughPointer xiValuePointerI32 fun v => setI32Value v value.toInt
  | .writeF32 bits => throughPointer xiValuePointerF32 fun v => setF32Value v bits
  | .writeStr value _ => throughPointer xiValuePointerStr fun v => put v 0 (value.bytes ++ [0])
  | .decode content => csvDecodeDatapoint tg content

/-- The value of a field. -/
def readValue (tg : Target) (field : Text) : Value :=
  match finalState (scanState .initial field) with
  | .number => .i32 (.ofInt (atoi field))
  | .float => .f32 (tg.atof field)
  | _ => .str field

/-- What is known of a datapoint: its value, or the type of its value only. -/
inductive Known
  | value (v : Value)
  | typed (t : XiValueType)
  deriving DecidableEq

def Known.type : Known → XiValueType
  | .value v => v.type
  | .typed t => t

/-- What is known behind a write through the pointer to a value of the type of `w`: the pointer is
null where the datapoint has another type. -/
def Known.write (k : Known) (w : Value) : Known := if k.type = w.type then .value w else k

/-- What is known behind an edit. Of a content whose value holds a vertical tab it is the type only,
and one whose value does not fit leaves the type there was. -/
def Edit.after (tg : Target) (k : Known) : Edit → Known
  | .setI32 value => .value (.i32 value)
  | .setF32 bits => .value (.f32 bits)
  | .setStr value => .value (.str (value.bytes.take (xiValueStringMaxSize - 1)))
  | .writeI32 value => k.write (.i32 value)
  | .writeF32 bits => k.write (.f32 bits)
  | .writeStr value _ => k.write (.str value.bytes)
  | .decode content =>
    match strstr (lit ",") content, readStamp tg content with
    | some i, .ok _ =>
      let field := fieldOf (content.drop (i + 1))
      if xiValueStringMaxSize ≤ field.length then .typed k.type
      else if 11 ∈ field then .typed (readValue tg field).type
      else .value (readValue tg field)
    | _, _ => k

/-! ### One edit -/

/-- The datapoint can be encoded, and is what is known of it. -/
structure Tracks (tg : Target) (k : Known) (p : XiDatapoint) : Prop where
  readable : p.Readable
  type : p.valueType = k.type
  shows : ∀ w, k = .value w → Shows tg p w

lemma tracks_value {w : Value} (hr : p.Readable) (h : Shows tg p w) : Tracks tg (.value w) p :=
  ⟨hr, h.type, by rintro _ ⟨⟩; exact h⟩

lemma tracks_typed {t : XiValueType} (hr : p.Readable) (h : p.valueType = t) :
    Tracks tg (.typed t) p := ⟨hr, h, by simp⟩

lemma readable_of_type (h : p.valueType ≠ .str) : p.Readable := fun hs => absurd hs h

lemma tracks_setI32 (p : XiDatapoint) (value : Int32) : Tracks tg (.value (.i32 value))
    { p with value := setI32Value p.value value.toInt, valueType := .i32 } :=
  tracks_value (readable_of_type (by simp))
    (shows_i32 rfl (i32Value_setI32Value p.value value.le_toInt value.toInt_lt))

lemma tracks_setF32 (p : XiDatapoint) (bits : UInt32) : Tracks tg (.value (.f32 bits))
    { p with value := setF32Value p.value bits, valueType := .f32 } :=
  tracks_value (readable_of_type (by simp)) (shows_f32 rfl (f32Value_setF32Value p.value bits))

lemma tracks_str {b : XiDatapointValue} {text : Text} (hb : cstr b = some text) (p : XiDatapoint) :
    Tracks tg (.value (.str text)) { p with value := b, valueType := .str } :=
  tracks_value (fun _ => zero_mem_of_cstr hb) (shows_str rfl hb)

/-- A write through the pointer to the value. -/
lemma throughPointer_run {pointer : XiDatapoint → Bool} {w : Value}
    (hpointer : ∀ p, pointer p = decide (p.valueType = w.type)) {k : Known} (hp : Tracks tg k p)
    {g : XiDatapointValue → XiDatapointValue}
    (hg : p.valueType = w.type → Tracks tg (.value w) { p with value := g p.value }) (e : XiErr) :
    ∃ r p', throughPointer pointer g e p = .ret r e p' ∧ Tracks tg (k.write w) p' := by
  unfold Known.write
  by_cases ht : p.valueType = w.type
  · have hrun : throughPointer pointer g e p = .ret true e { p with value := g p.value } := by
      simp [throughPointer, hpointer, ht, onValue, focus]
    rw [if_pos (hp.type.symm.trans ht)]
    exact ⟨true, _, hrun, hg ht⟩
  · have hrun : throughPointer pointer g e p = .ret false e p := by
      simp [throughPointer, hpointer, ht]
    rw [if_neg fun hk => ht (hp.type.trans hk)]
    exact ⟨false, p, hrun, hp⟩

/-- A datapoint with the value a scan has ended with. -/
lemma tracks_tagged {b : XiDatapointValue} {field : Text} (hb : cstr b = some field)
    (p : XiDatapoint) : Tracks tg (.value (readValue tg field))
      (tagged tg (finalState (scanState .initial field)) b field p) := by
  unfold readValue
  cases finalState (scanState .initial field) with
  | number =>
    obtain ⟨h1, h2⟩ := atoi_bounds field
    have hint : (Int32.ofInt (atoi field)).toInt = atoi field := Int32.toInt_ofInt_of_le h1 h2
    have htracks := @tracks_setI32 tg { p with value := b } (.ofInt (atoi field))
    rwa [hint] at htracks
  | float => exact tracks_setF32 { p with value := b } (tg.atof field)
  | _ => exact tracks_str hb p

/-- The type says which of the three has been stored, whatever the string in the array. -/
lemma valueType_tagged (field : Text) (b : XiDatapointValue) (u : Text) (p : XiDatapoint) :
    (tagged tg (finalState (scanState .initial field)) b u p).valueType =
      (readValue tg field).type := by
  unfold readValue
  cases finalState (scanState .initial field) <;> rfl

lemma readable_tagged {b : XiDatapointValue} {u : Text} (hb : cstr b = some u) (s : XiDfaState)
    (p : XiDatapoint) : (tagged tg s b u p).Readable := by
  intro hs
  cases s <;> first | exact zero_mem_of_cstr hb | exact absurd hs (by simp [tagged])

/-- The guard is behind a value that does not fit. -/
lemma zero_mem_overflown {t : Text} (h : xiValueStringMaxSize ≤ (fieldOf t).length)
    (p : XiDatapoint) : 0 ∈ (overflown t p).bytes := by
  rw [bytes_overflown h]
  exact List.mem_append_right _ (List.mem_singleton_self 0)

/-- A content whose value fits and holds no vertical tab. -/
lemma decode_shows {content : Text} {i : ℕ} {stamp : XiTimestamp}
    (hi : strstr (lit ",") content = some i) (hs : readStamp tg content = .ok stamp)
    (hlen : (fieldOf (content.drop (i + 1))).length < xiValueStringMaxSize)
    (htab : 11 ∉ fieldOf (content.drop (i + 1))) (e : XiErr) (p : XiDatapoint) :
    ∃ q, csvDecodeDatapoint tg content e p = .ret true e q ∧ q.timestamp = stamp ∧
      Tracks tg (.value (readValue tg (fieldOf (content.drop (i + 1))))) q := by
  have hends {c : Byte} (hc : c ∈ fieldOf (content.drop (i + 1))) :
      ¬ (c = 10 ∨ c = 0 ∨ c = 13) := by
    rw [← endsValue_iff, not_endsValue_of_mem hc]
    decide
  have hclean : ∀ c ∈ fieldOf (content.drop (i + 1)), csvClassifyChar c ≠ .newline := by
    intro c hc hnl
    rcases classify_newline.mp hnl with rfl | rfl
    · exact hends hc (by decide)
    · exact htab hc
  obtain ⟨b, hb, hrun⟩ := csvDecodeValue_copies tg hlen hclean (fun h0 => hends h0 (by decide)) e
    { p with timestamp := stamp }
  exact ⟨_, csvDecodeDatapoint_value hi hs hrun, tagged_timestamp .., tracks_tagged hb _⟩

lemma decode_tracks {k : Known} (hp : Tracks tg k p) (content : Text) (e : XiErr) :
    ∃ r e' p', csvDecodeDatapoint tg content e p = .ret r e' p' ∧
      Tracks tg (Edit.after tg k (.decode content)) p' := by
  cases hi : strstr (lit ",") content with
  | none =>
    refine ⟨_, _, p, csvDecodeDatapoint_noComma hi e p, ?_⟩
    rwa [Edit.after, hi]
  | some i =>
    cases hs : readStamp tg content with
    | error x =>
      refine ⟨_, _, p, csvDecodeDatapoint_badStamp hi hs e p, ?_⟩
      rwa [Edit.after, hi, hs]
    | ok stamp =>
      rw [Edit.after, hi, hs]
      simp only
      by_cases hlen : xiValueStringMaxSize ≤ (fieldOf (content.drop (i + 1))).length
      · refine ⟨_, _, _, csvDecodeDatapoint_overflow hi hs hlen e p, ?_⟩
        rw [if_pos hlen]
        exact tracks_typed (fun _ => zero_mem_overflown hlen p) hp.type
      rw [if_neg hlen]
      by_cases htab : 11 ∈ fieldOf (content.drop (i + 1))
      · obtain ⟨b, u, hb, hrun⟩ := csvDecodeDatapoint_fits hi hs (not_le.mp hlen) e p
        refine ⟨_, _, _, hrun, ?_⟩
        rw [if_pos htab]
        exact tracks_typed (readable_tagged hb _ _) (valueType_tagged _ _ _ _)
      · obtain ⟨q, hrun, -, htracks⟩ := decode_shows hi hs (not_le.mp hlen) htab e p
        refine ⟨_, _, q, hrun, ?_⟩
        rwa [if_neg htab]

/-- An edit comes back, and the datapoint goes on to be what is known of it. -/
lemma edit_tracks {k : Known} (hp : Tracks tg k p) (ed : Edit) (e : XiErr) :
    ∃ r e' p', ed.run tg e p = .ret r e' p' ∧ Tracks tg (ed.after tg k) p' := by
  cases ed with
  | setI32 value => exact ⟨_, _, _, rfl, tracks_setI32 p value⟩
  | setF32 bits => exact ⟨_, _, _, rfl, tracks_setF32 p bits⟩
  | setStr value =>
    have h0 : 0 ∉ (Setter.str value).text := fun h => value.noNul (List.mem_of_mem_take h)
    have hlen : (Setter.str value).text.length < xiValueStringMaxSize := by
      rw [Setter.text, List.length_take]
      norm_num
    exact ⟨_, _, _, setStr_run value e p, tracks_str (cstr_put h0 hlen) p⟩
  | writeI32 value =>
    have hset (ht : p.valueType = .i32) : Tracks tg (.value (.i32 value))
        { p with value := setI32Value p.value value.toInt } := by
      have htracks := @tracks_setI32 tg p value
      rwa [← ht] at htracks
    obtain ⟨r, p', hrun, htracks⟩ := throughPointer_run (w := .i32 value)
      (g := fun v => setI32Value v value.toInt) (fun p => (rfl : xiValuePointerI32 p = _)) hp hset e
    exact ⟨r, e, p', hrun, htracks⟩
  | writeF32 bits =>
    have hset (ht : p.valueType = .f32) : Tracks tg (.value (.f32 bits))
        { p with value := setF32Value p.value bits } := by
      have htracks := @tracks_setF32 tg p bits
      rwa [← ht] at htracks
    obtain ⟨r, p', hrun, htracks⟩ := throughPointer_run (w := .f32 bits)
      (g := fun v => setF32Value v bits) (fun p => (rfl : xiValuePointerF32 p = _)) hp hset e
    exact ⟨r, e, p', hrun, htracks⟩
  | writeStr value h =>
    have hset (ht : p.valueType = .str) : Tracks tg (.value (.str value.bytes))
        { p with value := put p.value 0 (value.bytes ++ [0]) } := by
      have htracks := @tracks_str tg _ _ (cstr_put (b := p.value) value.noNul h) p
      rwa [← ht] at htracks
    obtain ⟨r, p', hrun, htracks⟩ := throughPointer_run (w := .str value.bytes)
      (g := fun v => put v 0 (value.bytes ++ [0])) (fun p => (rfl : xiValuePointerStr p = _)) hp
      hset e
    exact ⟨r, e, p', hrun, htracks⟩
  | decode content => exact decode_tracks hp content e

/-! ### Histories -/

/-- **Datapoints are variables**: whatever setters, writes through pointers and decoders, in any
order and with any error pending, a datapoint goes through, each of them comes back, the datapoint
can be encoded, its type is the one that was set or read last, and the getters, the pointers and the
encoder show the value that was set, written or read last, unless that was a content whose value
does not fit or holds a vertical tab. -/
theorem datapoints_are_variables {k : Known} (hp : Tracks tg k p) (eds : List Edit) (e : XiErr) :
    ∃ rs e' p', eds.mapM (Edit.run tg) e p = .ret rs e' p' ∧ p'.Readable ∧
      xiGetValueType p' = (eds.foldl (Edit.after tg) k).type ∧
      ∀ w, eds.foldl (Edit.after tg) k = .value w → Shows tg p' w := by
  induction eds generalizing k p e with
  | nil => exact ⟨[], e, p, rfl, hp.readable, hp.type, hp.shows⟩
  | cons ed eds ih =>
    obtain ⟨r, e₁, p₁, hrun, hp₁⟩ := edit_tracks hp ed e
    obtain ⟨rs, e', p', hrest, hread, htype, hshows⟩ := ih hp₁ e₁
    refine ⟨r :: rs, e', p', ?_, hread, htype, hshows⟩
    rw [List.mapM_cons, bind_ret hrun, bind_ret hrest]
    rfl

/-- A fresh datapoint holds the integer 0. -/
lemma tracks_zero : Tracks tg (.value (.i32 0)) .zero :=
  tracks_value (readable_of_type (by simp [XiDatapoint.zero]))
    (shows_i32 rfl (by decide))

/-- A string is set, an integer is read from a content, spoiled by another one, and counted on
through the pointer to it, while the pointer to a float is null. -/
def edits : List Edit :=
  [.setStr ⟨lit "idle", by decide⟩, .decode (lit "2014-01-01T00:00:00.000000Z,41"),
    .decode (lit "2014-01-01T00:00:01.000000Z,00000000000000000000000000000041"), .writeF32 0,
    .writeI32 42]

theorem datapoints_are_variables_42 : ∃ rs e' p',
    edits.mapM (Edit.run posixConfig) .noErr .zero = .ret rs e' p' ∧ p'.Readable ∧
      xiGetValueType p' = .i32 ∧ Shows posixConfig p' (.i32 42) := by
  obtain ⟨rs, e', p', hrun, hread, htype, hshows⟩ :=
    @datapoints_are_variables posixConfig _ _ tracks_zero edits .noErr
  have hknown : edits.foldl (Edit.after posixConfig) (.value (.i32 0)) = .value (.i32 42) := by
    decide +kernel
  rw [hknown] at htype
  exact ⟨rs, e', p', hrun, hread, htype, hshows _ hknown⟩

end LibXively.TaggedValues
