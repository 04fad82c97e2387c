import LibXively.Model.CsvData

/-!
Decoding one value.

The decoder reads up to the end of the field and stores the field as it goes. A field that is
too long makes it stop with an error; any other field is a number, a float or a string, and the
tag of the datapoint says which of the three has been stored last.
-/

namespace LibXively.Values

open LibXively.Bytes LibXively.Decimal LibXively.Scanf LibXively.CProc LibXively.CharArray
open LibXively.Structures LibXively.CsvData

/-- The bytes that end a value. -/
def endsValue (c : Byte) : Bool := c == 10 || c == 0 || c == 13

/-- The text of a value that starts at the front of `t`. -/
def fieldOf (t : Text) : Text := t.takeWhile fun c => !endsValue c

/-- The state the scan is in behind a text. -/
def scanState (s : XiDfaState) (t : Text) : XiDfaState :=
  t.foldl (fun s c => states (csvClassifyChar c) s) s

@[simp] lemma scanState_nil (s : XiDfaState) : scanState s [] = s := rfl
@[simp] lemma scanState_cons (s : XiDfaState) (c : Byte) (t : Text) :
    scanState s (c :: t) = scanState (states (csvClassifyChar c) s) t := rfl

lemma endsValue_iff {c : Byte} : endsValue c = true ↔ c = 10 ∨ c = 0 ∨ c = 13 := by
  simp [endsValue, or_assoc]

lemma classify_newline {c : Byte} : csvClassifyChar c = .newline ↔ c = 13 ∨ c = 11 := by
  unfold csvClassifyChar
  split_ifs with h1 <;> simp [h1]

lemma fieldOf_cons {c : Byte} (h : endsValue c = false) (t : Text) :
    fieldOf (c :: t) = c :: fieldOf t := by
  simp [fieldOf, h]

lemma fieldOf_cons_end {c : Byte} (h : endsValue c = true) (t : Text) : fieldOf (c :: t) = [] := by
  simp [fieldOf, h]

lemma not_endsValue_of_mem {t : Text} {c : Byte} (h : c ∈ fieldOf t) : endsValue c = false := by
  simpa using List.mem_takeWhile_imp h

/-- A line end ends the value. -/
lemma fieldOf_append (t r : Text) : fieldOf (t ++ 10 :: r) = fieldOf t := by
  induction t with
  | nil => rfl
  | cons c t ih =>
    rw [List.cons_append]
    cases hc : endsValue c with
    | true => rw [fieldOf_cons_end hc, fieldOf_cons_end hc]
    | false => rw [fieldOf_cons hc, fieldOf_cons hc, ih]

lemma fieldOf_eq_self {t : Text} (h : ∀ c ∈ t, endsValue c = false) : fieldOf t = t := by
  rw [fieldOf, List.takeWhile_eq_self_iff]
  intro c hc
  simp [h c hc]

/-! ### The loop -/

lemma decodeChars_end {c : Byte} (h : endsValue c = true) (t : Text) (n : ℕ) (s : XiDfaState) :
    decodeChars (c :: t) n s = pure (n, s) := by
  rw [decodeChars, if_pos (endsValue_iff.mp h)]

lemma decodeChars_cons {c : Byte} (h : endsValue c = false) (t : Text) (n : ℕ) (s : XiDfaState) :
    decodeChars (c :: t) n s = (do
      checkCnd (xiValueStringMaxSize - 1 ≤ n) .datapointValueBufferOverflow
      if states (csvClassifyChar c) s ≠ .initial then onValue (store n [c])
      decodeChars t (n + 1) (states (csvClassifyChar c) s)) := by
  have hc : ¬ (c = 10 ∨ c = 0 ∨ c = 13) := by
    rw [← endsValue_iff, h]
    exact Bool.false_ne_true
  rw [decodeChars, if_neg hc]

/-- The loop does not look behind the end of the value. -/
lemma decodeChars_fieldOf (t : Text) (n : ℕ) (s : XiDfaState) :
    decodeChars t n s = decodeChars (fieldOf t) n s := by
  induction t generalizing n s with
  | nil => rfl
  | cons c t ih =>
    cases hc : endsValue c with
    | true => rw [decodeChars_end hc, fieldOf_cons_end hc]; rfl
    | false => simp only [fieldOf_cons hc, decodeChars_cons hc, ih]

/-- What a round of the loop leaves in the array. -/
def storeChar (v : XiDatapointValue) (n : ℕ) (c : Byte) (s : XiDfaState) : XiDatapointValue :=
  if states (csvClassifyChar c) s = .initial then v else put v n [c]

lemma decodeChars_step {c : Byte} (h : endsValue c = false) (t : Text) {n : ℕ}
    (hn : n < xiValueStringMaxSize - 1) (s : XiDfaState) (e : XiErr) (p : XiDatapoint) :
    decodeChars (c :: t) n s e p = decodeChars t (n + 1) (states (csvClassifyChar c) s) e
      { p with value := storeChar p.value n c s } := by
  have hroom : ¬ (xiValueStringMaxSize - 1 ≤ n) := by omega
  rw [decodeChars_cons h, bind_apply, checkCnd_neg hroom, andThen_ret, storeChar]
  by_cases hinit : states (csvClassifyChar c) s = .initial
  · rw [if_neg (not_not.mpr hinit), if_pos hinit]
  · have hstore : onValue (store n [c]) e p =
        .ret () e { p with value := put p.value n [c] } :=
      focus_ret (store_apply (by simp; omega) e p.value)
    rw [if_pos hinit, if_neg hinit, bind_apply, hstore, andThen_ret]

lemma decodeChars_full {c : Byte} (h : endsValue c = false) (t : Text) {n : ℕ}
    (hn : xiValueStringMaxSize - 1 ≤ n) (s : XiDfaState) (e : XiErr) (p : XiDatapoint) :
    decodeChars (c :: t) n s e p = .goto .datapointValueBufferOverflow p := by
  rw [decodeChars_cons h, bind_apply, checkCnd_pos hn, andThen_goto]

/-- What the rounds for a text leave in the array. -/
def storeChars : Text → ℕ → XiDfaState → XiDatapointValue → XiDatapointValue
  | [], _, _, v => v
  | c :: t, n, s, v => storeChars t (n + 1) (states (csvClassifyChar c) s) (storeChar v n c s)

/-- A field that fits is read to its end, and only the value bytes are written. -/
lemma decodeChars_fits {t : Text} (ht : ∀ c ∈ t, endsValue c = false) {n : ℕ}
    (h : n + t.length < xiValueStringMaxSize) (s : XiDfaState) (e : XiErr) (p : XiDatapoint) :
    decodeChars t n s e p =
      .ret (n + t.length, scanState s t) e { p with value := storeChars t n s p.value } := by
  induction t generalizing n s p with
  | nil => rfl
  | cons c t ih =>
    rw [List.length_cons] at h
    rw [decodeChars_step (ht c (by simp)) t (by omega),
      ih (fun d hd => ht d (List.mem_cons_of_mem c hd)) (by omega), scanState_cons, storeChars,
      List.length_cons, show n + 1 + t.length = n + (t.length + 1) by omega]

/-- A longer field stops the loop at the end of the array. -/
lemma decodeChars_overflow {t : Text} (ht : ∀ c ∈ t, endsValue c = false) {n : ℕ}
    (hn : n < xiValueStringMaxSize) (h : xiValueStringMaxSize ≤ n + t.length) (s : XiDfaState)
    (e : XiErr) (p : XiDatapoint) :
    decodeChars t n s e p = .goto .datapointValueBufferOverflow
      { p with value := storeChars (t.take (xiValueStringMaxSize - 1 - n)) n s p.value } := by
  induction t generalizing n s p with
  | nil => simp only [List.length_nil] at h; omega
  | cons c t ih =>
    rw [List.length_cons] at h
    by_cases hroom : n < xiValueStringMaxSize - 1
    · have hleft : xiValueStringMaxSize - 1 - n = xiValueStringMaxSize - 1 - (n + 1) + 1 := by
        omega
      rw [decodeChars_step (ht c (by simp)) t hroom,
        ih (fun d hd => ht d (List.mem_cons_of_mem c hd)) (by omega) (by omega), hleft,
        List.take_succ_cons, storeChars]
    · rw [decodeChars_full (ht c (by simp)) t (by omega),
        show xiValueStringMaxSize - 1 - n = 0 by omega, List.take_zero, storeChars]

lemma states_eq_initial {k : XiCharType} {s : XiDfaState} :
    states k s = .initial ↔ k = .newline := by
  cases k <;> cases s <;> decide

/-- The byte a round leaves at its place: a vertical tab takes the scan back to its initial state,
and then nothing is stored. -/
def keptOver (c old : Byte) : Byte := if c = 11 then old else c

/-- What a round leaves between the bytes `u` and `w`. -/
lemma bytes_storeChar {c old : Byte} (h13 : c ≠ 13) {v : XiDatapointValue} {u w : List Byte}
    (hv : v.bytes = u ++ old :: w) (s : XiDfaState) :
    (storeChar v u.length c s).bytes = u ++ [keptOver c old] ++ w := by
  have hsize := v.size_eq
  rw [hv, List.length_append, List.length_cons] at hsize
  have hstate : states (csvClassifyChar c) s = .initial ↔ c = 11 := by
    rw [states_eq_initial, classify_newline, or_iff_right h13]
  unfold storeChar keptOver
  by_cases h11 : c = 11
  · rw [if_pos (hstate.mpr h11), if_pos h11, hv, List.append_assoc, List.singleton_append]
  · have hdrop : (u ++ old :: w).drop (u.length + [c].length) = w := by
      rw [List.length_singleton, List.drop_append]
      simp
    rw [if_neg (mt hstate.mp h11), if_neg h11, bytes_put (by simp; omega), hv, hdrop,
      List.take_left]

/-- What the rounds leave in the array, byte by byte. -/
lemma bytes_storeChars {t : Text} (h13 : 13 ∉ t) {v : XiDatapointValue} {u w : List Byte}
    (hv : v.bytes = u ++ w) (h : t.length ≤ w.length) (s : XiDfaState) :
    (storeChars t u.length s v).bytes = u ++ (List.zipWith keptOver t w ++ w.drop t.length) := by
  induction t generalizing u w s v with
  | nil => rw [storeChars, hv]; rfl
  | cons c t ih =>
    have hc := List.ne_of_not_mem_cons h13
    have ht := List.not_mem_of_not_mem_cons h13
    cases w with
    | nil => cases h
    | cons old w =>
      have hround := bytes_storeChar (Ne.symm hc) hv s
      have hrest := ih ht hround (Nat.le_of_succ_le_succ h) (states (csvClassifyChar c) s)
      rw [List.length_append, List.length_singleton] at hrest
      rw [storeChars, hrest, List.append_assoc]
      rfl

/-- Without a vertical tab the text is copied. -/
lemma zipWith_keptOver {t : Text} {w : List Byte} (h11 : 11 ∉ t) (h : t.length ≤ w.length) :
    List.zipWith keptOver t w = t := by
  induction t generalizing w with
  | nil => rfl
  | cons c t ih =>
    have hc := List.ne_of_not_mem_cons h11
    have ht := List.not_mem_of_not_mem_cons h11
    cases w with
    | nil => cases h
    | cons old w =>
      rw [List.zipWith_cons_cons, ih ht (Nat.le_of_succ_le_succ h), keptOver, if_neg (Ne.symm hc)]

/-- A text without a byte that takes the scan back to its initial state is copied. -/
lemma starts_storeChars {t : Text} (hnl : ∀ c ∈ t, csvClassifyChar c ≠ .newline)
    (h : t.length ≤ xiValueStringMaxSize) (s : XiDfaState) (v : XiDatapointValue) :
    Starts t (storeChars t 0 s v) := by
  have hno {c : Byte} (hc : c = 13 ∨ c = 11) : c ∉ t := fun hmem =>
    hnl c hmem (classify_newline.mpr hc)
  have hlen : t.length ≤ v.bytes.length := by rwa [v.size_eq]
  have hbytes := bytes_storeChars (hno (.inl rfl)) (List.nil_append v.bytes).symm hlen s
  rw [zipWith_keptOver (hno (.inr rfl)) hlen, List.nil_append, List.length_nil] at hbytes
  exact ⟨_, hbytes.symm⟩

/-! ### The value -/

variable (tg : Target)

/-- A datapoint with the value a scan has ended with, for the string `u` in the array `v`. -/
def tagged (s : XiDfaState) (v : XiDatapointValue) (u : Text) (p : XiDatapoint) : XiDatapoint :=
  match s with
  | .number => { p with value := setI32Value v (atoi u), valueType := .i32 }
  | .float => { p with value := setF32Value v (tg.atof u), valueType := .f32 }
  | _ => { p with value := v, valueType := .str }

@[simp] lemma tagged_timestamp (s : XiDfaState) (v : XiDatapointValue) (u : Text)
    (p : XiDatapoint) : (tagged tg s v u p).timestamp = p.timestamp := by
  cases s <;> rfl

/-- The datapoint with the guard at the end of its value bytes. -/
def guarded (p : XiDatapoint) : XiDatapoint :=
  { p with value := put p.value (xiValueStringMaxSize - 1) [0] }

lemma guard_apply (e : XiErr) (p : XiDatapoint) :
    onValue (store (xiValueStringMaxSize - 1) [0]) e p = .ret () e (guarded p) :=
  focus_ret (store_apply (by simp) e p.value)

/-- How the value is finished behind the loop. -/
lemma csvDecodeValue_of_loop {t : Text} {e : XiErr} {p : XiDatapoint} {n : ℕ} {s : XiDfaState}
    {v : XiDatapointValue} (hn : n < xiValueStringMaxSize)
    (h : decodeChars t 0 .initial e (guarded p) = .ret (n, s) e { p with value := v }) :
    ∃ u, cstr (put v n [0]) = some u ∧
      csvDecodeValue tg t e p = .ret true e (tagged tg (finalState s) (put v n [0]) u p) := by
  have hmem : 0 ∈ (put v n [0]).bytes := by
    rw [bytes_put (by simp; omega)]; simp
  obtain ⟨u, hu⟩ := exists_cstr hmem
  have hend : onValue (store n [0]) e { p with value := v } =
      .ret () e { p with value := put v n [0] } :=
    focus_ret (store_apply (by simp; omega) e v)
  have hread : onValue readStr e { p with value := put v n [0] } =
      .ret u e { p with value := put v n [0] } := focus_ret (readStr_apply hu e)
  refine ⟨u, hu, ?_⟩
  unfold csvDecodeValue errHandling
  rw [bind_apply, guard_apply, andThen_ret, bind_apply, h, andThen_ret]
  cases hs : finalState s <;> simp [hend, hread, hs, tagged]

/-- A value that fits is stored, and the tag is set. -/
lemma csvDecodeValue_fits {t : Text} (h : (fieldOf t).length < xiValueStringMaxSize) (e : XiErr)
    (p : XiDatapoint) : ∃ v u, cstr v = some u ∧ csvDecodeValue tg t e p =
      .ret true e (tagged tg (finalState (scanState .initial (fieldOf t))) v u p) := by
  have hv := decodeChars_fits (t := fieldOf t) (n := 0) (fun _ => not_endsValue_of_mem)
    (by omega) .initial e (guarded p)
  rw [← decodeChars_fieldOf, Nat.zero_add] at hv
  obtain ⟨u, hu, hrun⟩ := csvDecodeValue_of_loop tg h hv
  exact ⟨_, u, hu, hrun⟩

/-- The value bytes behind a value that does not fit. -/
def overflown (t : Text) (p : XiDatapoint) : XiDatapointValue :=
  storeChars ((fieldOf t).take (xiValueStringMaxSize - 1)) 0 .initial (guarded p).value

/-- A value that does not fit is an error. Its front is in the array, and its tag is left as it
was. -/
lemma csvDecodeValue_overflow {t : Text} (h : xiValueStringMaxSize ≤ (fieldOf t).length)
    (e : XiErr) (p : XiDatapoint) : csvDecodeValue tg t e p =
      .ret false .datapointValueBufferOverflow { p with value := overflown t p } := by
  have hv := decodeChars_overflow (t := fieldOf t) (n := 0)
    (fun _ => not_endsValue_of_mem) (by norm_num) (by omega) .initial e (guarded p)
  refine errHandling_goto false ?_
  rw [bind_apply, guard_apply, andThen_ret, bind_apply, decodeChars_fieldOf, hv, andThen_goto]
  rfl

lemma bytes_guarded (p : XiDatapoint) :
    (guarded p).value.bytes = p.value.bytes.take (xiValueStringMaxSize - 1) ++ [0] := by
  have hmax : xiValueStringMaxSize = 32 := rfl
  have hsize := p.value.size_eq
  rw [guarded, bytes_put (by simp), List.drop_eq_nil_of_le (by simp; omega), List.append_nil]

/-- The bytes behind a value that does not fit: its front, with the guard behind it. -/
lemma bytes_overflown {t : Text} (h : xiValueStringMaxSize ≤ (fieldOf t).length)
    (p : XiDatapoint) : (overflown t p).bytes =
      List.zipWith keptOver ((fieldOf t).take (xiValueStringMaxSize - 1)) p.value.bytes ++ [0] := by
  have hmax : xiValueStringMaxSize = 32 := rfl
  have hsize := p.value.size_eq
  obtain ⟨front, hfront⟩ : ∃ f, f = (fieldOf t).take (xiValueStringMaxSize - 1) := ⟨_, rfl⟩
  obtain ⟨old, hold⟩ : ∃ o, o = p.value.bytes.take (xiValueStringMaxSize - 1) := ⟨_, rfl⟩
  have hlen : front.length = xiValueStringMaxSize - 1 := by
    rw [hfront, List.length_take]; omega
  have hsame : front.length = old.length := by
    rw [hlen, hold, List.length_take]; omega
  have h13 : 13 ∉ front := fun hmem =>
    absurd (not_endsValue_of_mem (List.mem_of_mem_take (hfront ▸ hmem))) (by decide)
  have hzip (w : List Byte) : List.zipWith keptOver front (old ++ w) =
      List.zipWith keptOver front old := by
    have happ : List.zipWith keptOver (front ++ []) (old ++ w) = _ := List.zipWith_append hsame
    rwa [List.append_nil, List.zipWith_nil_left, List.append_nil] at happ
  have hguarded : (guarded p).value.bytes = [] ++ (old ++ [0]) := by rw [bytes_guarded, hold]; rfl
  have hroom : front.length ≤ (old ++ [0]).length := by rw [List.length_append]; omega
  have hbytes := bytes_storeChars h13 hguarded hroom .initial
  rw [hzip, List.nil_append, List.length_nil, List.drop_left' hsame.symm] at hbytes
  rw [overflown, ← hfront, hbytes, ← List.take_append_drop (xiValueStringMaxSize - 1) p.value.bytes,
    ← hold, hzip]

/-- A value without control characters is stored as it is. -/
lemma csvDecodeValue_copies {t : Text} (h : (fieldOf t).length < xiValueStringMaxSize)
    (hnl : ∀ c ∈ fieldOf t, csvClassifyChar c ≠ .newline) (h0 : 0 ∉ fieldOf t) (e : XiErr)
    (p : XiDatapoint) : ∃ v, cstr v = some (fieldOf t) ∧ csvDecodeValue tg t e p = .ret true e
      (tagged tg (finalState (scanState .initial (fieldOf t))) v (fieldOf t) p) := by
  have hv := decodeChars_fits (t := fieldOf t) (n := 0) (fun _ => not_endsValue_of_mem)
    (by omega) .initial e (guarded p)
  have hstarts := starts_storeChars hnl h.le .initial (guarded p).value
  rw [← decodeChars_fieldOf, Nat.zero_add] at hv
  obtain ⟨u, hu, hrun⟩ := csvDecodeValue_of_loop tg h hv
  have hput := prefix_put (u := [0]) hstarts (by simp; omega)
  rw [cstr_of_starts h0 hput] at hu
  cases hu
  exact ⟨_, cstr_of_starts h0 hput, hrun⟩

end LibXively.Values
