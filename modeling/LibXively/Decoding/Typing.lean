import LibXively.Decoding.Numbers

/-!
The type `csv_decode_value` gives a field: the automaton accepts its grammar, and nothing else.
-/

namespace LibXively.Typing

open LibXively.Bytes LibXively.Decimal LibXively.CProc LibXively.CharArray LibXively.Structures
open LibXively.CsvData LibXively.Values LibXively.Numbers

/-- A printable ASCII character, a tab or a byte from 0x80 on. -/
def FieldByte (c : Byte) : Prop := c = 9 ∨ 32 ≤ c ∧ c ≠ 127

lemma endsValue_fieldByte {c : Byte} (h : FieldByte c) : endsValue c = false := by
  by_contra hends
  rw [Bool.not_eq_false, endsValue_iff] at hends
  rcases hends with rfl | rfl | rfl <;> revert h <;> unfold FieldByte <;> decide

lemma classify_fieldByte {c : Byte} (h : FieldByte c) : csvClassifyChar c ≠ .newline := by
  rw [ne_eq, classify_newline]
  rintro (rfl | rfl) <;> revert h <;> unfold FieldByte <;> decide

/-! ### The accepting states -/

/-- The state behind a sign and digits has a way to the point. -/
lemma scanState_front {s ds : Text} (hs : Sign s) (hds : Digits ds) :
    states .dot (scanState .initial (s ++ ds)) = .dot := by
  cases ds with
  | nil => rcases hs with rfl | rfl <;> rfl
  | cons c ds =>
    have hint : IntText (s ++ c :: ds) := ⟨s, c :: ds, hs, hds, by simp, rfl⟩
    have hfinal := finalState_int hint
    cases hstate : scanState .initial (s ++ c :: ds) with
    | number => rfl
    | initial => rw [hstate] at hfinal; cases hfinal
    | minus => rw [hstate] at hfinal; cases hfinal
    | float => rw [hstate] at hfinal; cases hfinal
    | dot => rw [hstate] at hfinal; cases hfinal
    | string => rw [hstate] at hfinal; cases hfinal

lemma scanState_fraction {fs : Text} (h : Digits fs) : scanState .float fs = .float := by
  induction fs with
  | nil => rfl
  | cons c fs ih =>
    rw [scanState_cons, classify_number.mpr (h c (by simp))]
    exact ih fun d hd => h d (List.mem_cons_of_mem c hd)

lemma finalState_float {t : Text} (h : FloatText t) :
    finalState (scanState .initial t) = .float := by
  obtain ⟨s, ds, fs, hs, hds, hfs, hne, rfl⟩ := h
  obtain ⟨c, fs, rfl⟩ := List.exists_cons_of_ne_nil hne
  have hfront : scanState .initial (s ++ ds ++ 46 :: c :: fs) =
      scanState (states (csvClassifyChar 46) (scanState .initial (s ++ ds))) (c :: fs) := by
    simp [scanState, List.foldl_append]
  have hdot : csvClassifyChar 46 = .dot := by decide
  rw [hfront, hdot, scanState_front hs hds, scanState_cons,
    classify_number.mpr (hfs c (by simp))]
  exact congrArg finalState (scanState_fraction fun d hd => hfs d (List.mem_cons_of_mem c hd))

/-- The scan ends in the state for integers behind an integer only. -/
lemma finalState_number_iff {t : Text} (ht : ∀ c ∈ t, csvClassifyChar c ≠ .newline) :
    finalState (scanState .initial t) = .number ↔ IntText t := by
  refine ⟨fun h => ?_, finalState_int⟩
  have hreads := reads_scanState ht
  cases hs : scanState .initial t <;> rw [hs] at h hreads <;> first | exact hreads | cases h

lemma finalState_float_iff {t : Text} (ht : ∀ c ∈ t, csvClassifyChar c ≠ .newline) :
    finalState (scanState .initial t) = .float ↔ FloatText t := by
  refine ⟨fun h => ?_, finalState_float⟩
  have hreads := reads_scanState ht
  cases hs : scanState .initial t <;> rw [hs] at h hreads <;> first | exact hreads | cases h

/-! ### The type of a value -/

variable {tg : Target}

lemma tagged_valueType (s : XiDfaState) (v : XiDatapointValue) (u : Text) (p : XiDatapoint) :
    ((tagged tg s v u p).valueType = .i32 ↔ s = .number) ∧
    ((tagged tg s v u p).valueType = .f32 ↔ s = .float) := by
  cases s <;> simp [tagged]

/-- The type of a field, and what is left of the datapoint it is decoded into. -/
structure Typed (v : Text) (p p' : XiDatapoint) : Prop where
  int : p'.valueType = .i32 ↔ IntText v
  float : p'.valueType = .f32 ↔ FloatText v
  str : ¬ IntText v → ¬ FloatText v → p'.valueType = .str ∧ cstr p'.value = some v
  timestamp : p'.timestamp = p.timestamp

lemma fieldOf_field {v : Text} (hv : ∀ c ∈ v, FieldByte c) {t : Byte} (ht : endsValue t = true)
    (rest : Text) : fieldOf (v ++ t :: rest) = v := by
  induction v with
  | nil => exact fieldOf_cons_end ht rest
  | cons c v ih =>
    rw [List.cons_append, fieldOf_cons (endsValue_fieldByte (hv c (by simp))),
      ih fun d hd => hv d (List.mem_cons_of_mem c hd)]

/-- The decoder sees a text up to the end of the field. -/
lemma csvDecodeValue_local {t u : Text} (h : fieldOf t = fieldOf u) :
    csvDecodeValue tg t = csvDecodeValue tg u := by
  unfold csvDecodeValue
  rw [decodeChars_fieldOf t, h, ← decodeChars_fieldOf u]

/-- **Value typing**: a field that fits is decoded as an integer, a float or a string as its grammar
has it, and a string is the field itself; a longer field is an error. The decoder reads nothing
behind the field and writes nothing but the value and its tag. -/
theorem value_typing (tg : Target) (v : Text) (hv : ∀ c ∈ v, FieldByte c) (t : Byte)
    (ht : t = 0 ∨ t = 10 ∨ t = 13) (rest : Text) (e : XiErr) (p : XiDatapoint) :
    (v.length < xiValueStringMaxSize → ∃ p',
      csvDecodeValue tg (v ++ t :: rest) e p = .ret true e p' ∧ Typed v p p') ∧
    (xiValueStringMaxSize ≤ v.length → ∃ value,
      csvDecodeValue tg (v ++ t :: rest) e p =
        .ret false .datapointValueBufferOverflow { p with value := value }) ∧
    csvDecodeValue tg (v ++ t :: rest) e p = csvDecodeValue tg (v ++ [t]) e p := by
  have hends : endsValue t = true := endsValue_iff.mpr (by tauto)
  have hfield (rest : Text) : fieldOf (v ++ t :: rest) = v := fieldOf_field hv hends rest
  have hnl : ∀ c ∈ v, csvClassifyChar c ≠ .newline := fun c hc => classify_fieldByte (hv c hc)
  have h0 : 0 ∉ v := fun hmem => by
    have hbyte := hv 0 hmem
    revert hbyte
    unfold FieldByte
    decide
  refine ⟨fun hfits => ?_, fun hlong => ?_, ?_⟩
  · obtain ⟨b, hb, hrun⟩ := @csvDecodeValue_copies tg (v ++ t :: rest) (by rwa [hfield])
      (by rwa [hfield]) (by rwa [hfield]) e p
    rw [hfield] at hb hrun
    obtain ⟨hint, hfloat⟩ :=
      @tagged_valueType tg (finalState (scanState .initial v)) b v p
    refine ⟨_, hrun, hint.trans (finalState_number_iff hnl),
      hfloat.trans (finalState_float_iff hnl), fun hni hnf => ?_, tagged_timestamp ..⟩
    rw [finalState_string hnl hni hnf]
    exact ⟨rfl, hb⟩
  · exact ⟨_, csvDecodeValue_overflow tg (by rwa [hfield]) e p⟩
  · rw [csvDecodeValue_local ((hfield rest).trans (hfield []).symm)]

theorem value_typing_twelve : ∃ p',
    csvDecodeValue posixConfig (lit "12" ++ 10 :: lit "on") .noErr .zero = .ret true .noErr p' ∧
    p'.valueType = .i32 := by
  have hbytes : ∀ c ∈ lit "12", FieldByte c := by unfold FieldByte; decide +kernel
  obtain ⟨hfits, -, -⟩ := value_typing posixConfig (lit "12") hbytes 10 (by decide) (lit "on")
    .noErr .zero
  obtain ⟨p', hrun, htyped⟩ := hfits (by decide)
  exact ⟨p', hrun, htyped.int.mpr ⟨[], lit "12", .inl rfl, by unfold Digits; decide +kernel,
    by decide, rfl⟩⟩

/-! ### The value of an integer -/

/-- The integer that an optional sign and digits denote. -/
def intOf (t : Text) : ℤ := if t.head? = some 45 then -(value t.tail : ℤ) else value t

/-- The integers that `i32_value` can hold. -/
def InInt32 (x : ℤ) : Prop := -2 ^ 31 ≤ x ∧ x < 2 ^ 31

lemma toInt32_eq_iff {x : ℤ} : toInt32 x = x ↔ InInt32 x := by
  refine ⟨fun h => ?_, fun ⟨h1, h2⟩ => toInt32_eq h1 h2⟩
  have hbounds := toInt32_bounds x
  rwa [h] at hbounds

lemma atoi_int {v : Text} (hv : IntText v) : atoi v = toInt32 (intOf v) := by
  obtain ⟨s, ds, hs, hds, hne, rfl⟩ := hv
  rcases hs with rfl | rfl
  · have hsign : ds.head? ≠ some 45 := by
      intro h45
      exact absurd (hds 45 (List.mem_of_head? h45)) (by decide)
    rw [List.nil_append, atoi_digits hds hne, intOf, if_neg hsign]
  · rw [List.singleton_append, atoi_minus hds hne]
    rfl

lemma fieldByte_int {v : Text} (hv : IntText v) : ∀ c ∈ v, FieldByte c := by
  have hdigit {c : Byte} (hc : isDigit c = true) : FieldByte c := by
    have hle : 48 ≤ c ∧ c ≤ 57 := by simpa [isDigit] using hc
    refine .inr ⟨UInt8.le_trans (by decide : (32 : Byte) ≤ 48) hle.1, ?_⟩
    rintro rfl
    exact absurd hle.2 (by decide)
  obtain ⟨s, ds, hs, hds, -, rfl⟩ := hv
  intro c hc
  rcases List.mem_append.mp hc with hc | hc
  · rcases hs with rfl | rfl
    · simp at hc
    · obtain rfl := List.mem_singleton.mp hc
      exact .inr (by decide)
  · exact hdigit (hds c hc)

/-- An integer is decoded with the type of one, to what `atoi` makes of it. -/
lemma csvDecodeValue_int {v : Text} (hv : IntText v) (hlen : v.length < xiValueStringMaxSize)
    {t : Byte} (ht : endsValue t = true) (rest : Text) (e : XiErr) (p : XiDatapoint) :
    ∃ p', csvDecodeValue tg (v ++ t :: rest) e p = .ret true e p' ∧ p'.valueType = .i32 ∧
      i32Value p'.value = toInt32 (intOf v) ∧ p'.timestamp = p.timestamp := by
  have hbyte := fieldByte_int hv
  have hfield : fieldOf (v ++ t :: rest) = v := fieldOf_field hbyte ht rest
  have h0 : 0 ∉ v := fun hmem => absurd (endsValue_fieldByte (hbyte 0 hmem)) (by decide)
  obtain ⟨b, -, hrun⟩ := @csvDecodeValue_copies tg (v ++ t :: rest) (by rwa [hfield])
    (by rw [hfield]; exact fun c hc => classify_fieldByte (hbyte c hc)) (by rwa [hfield]) e p
  rw [hfield, finalState_int hv] at hrun
  obtain ⟨h1, h2⟩ := toInt32_bounds (intOf v)
  refine ⟨_, hrun, rfl, ?_, rfl⟩
  rw [tagged, atoi_int hv]
  exact i32Value_setI32Value b h1 h2

/-- What is decoded from the text of an integer is this integer, or has another type; and it has
another type, or is an error, if no `int32_t` is this integer. -/
def IntegerKept (tg : Target) (text v : Text) : Prop :=
  ∀ e p e' p', csvDecodeValue tg text e p = .ret true e' p' → p'.valueType = .i32 →
    i32Value p'.value = intOf v ∧ InInt32 (intOf v)

/-- **Integers**: an integer text is decoded to the integer it denotes exactly if an `int32_t` can
hold that; the decoder does not look at the range. -/
theorem integer_kept_iff (tg : Target) {v : Text} (hv : IntText v)
    (hlen : v.length < xiValueStringMaxSize) {t : Byte} (ht : t = 0 ∨ t = 10 ∨ t = 13)
    (rest : Text) : IntegerKept tg (v ++ t :: rest) v ↔ InInt32 (intOf v) := by
  have hends : endsValue t = true := endsValue_iff.mpr (by tauto)
  constructor
  · intro hkept
    obtain ⟨p', hrun, htype, -⟩ := @csvDecodeValue_int tg v hv hlen t hends rest .noErr .zero
    exact (hkept _ _ _ _ hrun htype).2
  · intro hrange e p e' p' hrun _
    obtain ⟨q, hq, -, hvalue, -⟩ := @csvDecodeValue_int tg v hv hlen t hends rest e p
    rw [hrun] at hq
    cases hq
    exact ⟨hvalue.trans (toInt32_eq_iff.mpr hrange), hrange⟩

theorem integer_kept_minimum :
    IntegerKept posixConfig (lit "-2147483648" ++ [0]) (lit "-2147483648") := by
  have hint : IntText (lit "-2147483648") :=
    ⟨[45], lit "2147483648", .inr rfl, by unfold Digits; decide +kernel, by decide, rfl⟩
  exact (integer_kept_iff posixConfig hint (by decide) (.inl rfl) []).mpr
    (by unfold InInt32; decide +kernel)

/-- The smallest number above the range is decoded as the integer at its other end. -/
theorem integer_not_kept :
    IntText (lit "2147483648") ∧ (lit "2147483648").length < xiValueStringMaxSize ∧
    ¬ IntegerKept posixConfig (lit "2147483648" ++ [0]) (lit "2147483648") := by
  have hint : IntText (lit "2147483648") :=
    ⟨[], lit "2147483648", .inl rfl, by unfold Digits; decide +kernel, by decide, rfl⟩
  refine ⟨hint, by decide, fun hkept => ?_⟩
  obtain ⟨p', hrun, htype, -⟩ := @csvDecodeValue_int posixConfig _ hint (by decide) 0 (by decide)
    [] .noErr .zero
  have hrange := (hkept _ _ _ _ hrun htype).2
  revert hrange
  unfold InInt32
  decide +kernel

end LibXively.Typing
