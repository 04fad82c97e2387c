import LibXively.Decoding.Typing

/-!
What a decoded value has of the old contents of its array.

A vertical tab takes the scan back to its initial state, where nothing is stored, but the place in
the array is passed over all the same. The array keeps the old byte there, and the string that the
value is read from goes over it.
-/

namespace LibXively.Contents

open LibXively.Bytes LibXively.Decimal LibXively.Scanf LibXively.CProc LibXively.CharArray
open LibXively.Structures LibXively.CsvData LibXively.Values LibXively.Numbers LibXively.Typing

/-! ### The array behind a field -/

/-- A field in an array: a vertical tab leaves the byte of the array as it was. -/
def filled (u : Text) (old : List Byte) : Text :=
  List.zipWith (fun c o => if c = 11 then o else c) u old

@[simp] lemma filled_nil (old : List Byte) : filled [] old = [] := rfl
@[simp] lemma filled_cons (c o : Byte) (u : Text) (old : List Byte) :
    filled (c :: u) (o :: old) = (if c = 11 then o else c) :: filled u old := rfl

lemma filled_plain {a : Text} (h : 11 ∉ a) {old : List Byte} (hlen : a.length ≤ old.length) :
    filled a old = a := by
  induction a generalizing old with
  | nil => rfl
  | cons c a ih =>
    cases old with
    | nil => simp at hlen
    | cons o old =>
      have hc : c ≠ 11 := fun hc => h (by simp [hc])
      rw [filled_cons, if_neg hc,
        ih (fun hm => h (List.mem_cons_of_mem c hm)) (by simpa using hlen)]

/-- The first vertical tab of a field lets the array through. -/
lemma filled_split {a x : Text} (h : 11 ∉ a) (hlen : x.length = a.length) (m : Text) (o : Byte)
    (y : List Byte) : filled (a ++ 11 :: m) (x ++ o :: y) = a ++ o :: filled m y := by
  have ha : filled a x = a := filled_plain h hlen.ge
  rw [filled, List.zipWith_append hlen.symm, ← filled, ha]
  rfl

lemma filled_append {u : Text} {old : List Byte} (h : u.length ≤ old.length) (r : List Byte) :
    filled u (old ++ r) = filled u old := by
  induction u generalizing old with
  | nil => rfl
  | cons c u ih =>
    cases old with
    | nil => simp at h
    | cons o old => rw [List.cons_append, filled_cons, filled_cons, ih (by simpa using h)]

lemma length_filled {u : Text} {old : List Byte} (h : u.length ≤ old.length) :
    (filled u old).length = u.length := by
  rw [filled, List.length_zipWith, Nat.min_eq_left h]

/-- The scan is back in its initial state behind a vertical tab only. -/
lemma states_initial_iff {c : Byte} (hc : c ≠ 13) (s : XiDfaState) :
    states (csvClassifyChar c) s = .initial ↔ c = 11 := by
  have hnewline : csvClassifyChar c = .newline ↔ c = 11 := by
    rw [classify_newline, or_iff_right hc]
  rw [← hnewline]
  cases hclass : csvClassifyChar c <;> cases s <;> simp [states]

lemma bytes_storeChar {c : Byte} (hc : c ≠ 13) {v : XiDatapointValue} {a r : List Byte} {o : Byte}
    (hv : v.bytes = a ++ o :: r) (s : XiDfaState) :
    (storeChar v a.length c s).bytes = (a ++ [if c = 11 then o else c]) ++ r := by
  have hlen : a.length + (1 + r.length) = xiValueStringMaxSize := by
    rw [← v.size_eq, hv]
    simp
    omega
  rw [storeChar]
  split
  · next hinit =>
    rw [if_pos ((states_initial_iff hc s).mp hinit), hv]
    simp
  · next hinit =>
    rw [states_initial_iff hc s] at hinit
    rw [bytes_put (by simp; omega), if_neg hinit, hv, List.take_left]
    simp

/-- What the rounds for a field leave in the array. -/
lemma bytes_storeChars {u : Text} (hu : ∀ c ∈ u, c ≠ 13) {v : XiDatapointValue}
    {a old : List Byte} (hv : v.bytes = a ++ old) (h : u.length ≤ old.length) (s : XiDfaState) :
    (storeChars u a.length s v).bytes = a ++ filled u old ++ old.drop u.length := by
  induction u generalizing a old s v with
  | nil => simpa [storeChars] using hv
  | cons c u ih =>
    cases old with
    | nil => simp at h
    | cons o old =>
      have hchar := bytes_storeChar (hu c (by simp)) hv s
      have hrest := ih (fun d hd => hu d (List.mem_cons_of_mem c hd)) hchar (by simpa using h)
        (states (csvClassifyChar c) s)
      rw [List.length_append, List.length_singleton] at hrest
      rw [storeChars, hrest]
      simp

/-- The string that is in the array behind a field. -/
def storedText (u : Text) (v : XiDatapointValue) : Text := (filled u v.bytes).takeWhile (· ≠ 0)

lemma cstr_of_front {n : ℕ} {b : Buf n} {x : Text} (h : x ++ [0] <+: b.bytes) :
    cstr b = some (x.takeWhile (· ≠ 0)) := by
  have hmem : 0 ∈ b.bytes := h.subset (by simp)
  obtain ⟨r, hr⟩ := h
  rw [cstr, if_pos hmem, ← hr, List.append_assoc, List.singleton_append]
  exact congrArg some (takeWhile_append_stop (by simp) x r)

variable {tg : Target} {t : Text}

/-- The guard is out of the way of a value that fits. -/
lemma filled_guarded {u : Text} (hlen : u.length < xiValueStringMaxSize) (p : XiDatapoint) :
    filled u (guarded p).value.bytes = filled u p.value.bytes := by
  have hmax : xiValueStringMaxSize = 32 := rfl
  have hsize := p.value.size_eq
  have htake : u.length ≤ (p.value.bytes.take (xiValueStringMaxSize - 1)).length := by
    rw [List.length_take]
    omega
  calc filled u (guarded p).value.bytes
      = filled u (p.value.bytes.take (xiValueStringMaxSize - 1)) := by
        rw [guarded, bytes_put (by simp), List.append_assoc, filled_append htake]
    _ = filled u p.value.bytes := by
        conv_rhs => rw [← List.take_append_drop (xiValueStringMaxSize - 1) p.value.bytes]
        rw [filled_append htake]

/-- A value that fits is read from the string behind its field. -/
lemma csvDecodeValue_filled (hlen : (fieldOf t).length < xiValueStringMaxSize) (e : XiErr)
    (p : XiDatapoint) : ∃ b, cstr b = some (storedText (fieldOf t) p.value) ∧
      csvDecodeValue tg t e p = .ret true e
        (tagged tg (finalState (scanState .initial (fieldOf t))) b
          (storedText (fieldOf t) p.value) p) := by
  have h13 : ∀ c ∈ fieldOf t, c ≠ 13 := by
    rintro c hc rfl
    exact absurd (not_endsValue_of_mem hc) (by decide)
  have hsize := (guarded p).value.size_eq
  have hlength : (filled (fieldOf t) p.value.bytes).length = (fieldOf t).length :=
    length_filled (by rw [p.value.size_eq]; omega)
  have hbytes := bytes_storeChars h13 (List.nil_append (guarded p).value.bytes).symm (by omega)
    .initial
  rw [List.nil_append, List.length_nil, filled_guarded hlen] at hbytes
  have hput := prefix_put (u := [0]) ⟨_, hbytes.symm⟩ (by simp; omega)
  have hloop := decodeChars_fits (t := fieldOf t) (n := 0) (fun _ => not_endsValue_of_mem)
    (by omega) .initial e (guarded p)
  rw [← decodeChars_fieldOf, Nat.zero_add] at hloop
  rw [hlength] at hput
  obtain ⟨u, hu, hrun⟩ := csvDecodeValue_of_loop tg hlen hloop
  obtain rfl : storedText (fieldOf t) p.value = u :=
    Option.some.inj ((cstr_of_front hput).symm.trans hu)
  exact ⟨_, hu, hrun⟩

/-! ### Two runs -/

/-- The same type, and the same value of it. -/
def SameValue (p q : XiDatapoint) : Prop :=
  p.valueType = q.valueType ∧ match p.valueType with
    | .i32 => i32Value p.value = i32Value q.value
    | .f32 => f32Value p.value = f32Value q.value
    | .str => cstr p.value = cstr q.value
    | .unknown _ => True

/-- The same answer, and the same value behind a success. -/
def SameAnswer (o o' : Outcome XiErr XiDatapoint Bool) : Prop :=
  ∃ r e p e' p', o = .ret r e p ∧ o' = .ret r e' p' ∧ (r = true → SameValue p p')

/-- Decoding the text does not look at the old contents of the value. As the float conversion may
be any function, the same float stands for the same text handed to it. -/
def Oblivious (t : Text) : Prop :=
  ∀ (tg : Target) (e : XiErr) (p : XiDatapoint) (v w : XiDatapointValue),
    SameAnswer (csvDecodeValue tg t e { p with value := v })
      (csvDecodeValue tg t e { p with value := w })

/-- What two strings have to share to give the same value in an accepting state. -/
def SameText (s : XiDfaState) (x y : Text) : Prop :=
  match s with
  | .number => atoi x = atoi y
  | _ => x = y

/-- A build with a float conversion of its own. -/
def withAtof (atof : Text → UInt32) : Target := { posixConfig with atof := atof }

lemma sameText_self (s : XiDfaState) (x : Text) : SameText s x x := by
  cases s <;> rfl

lemma sameText_ne {s : XiDfaState} (h : s ≠ .number) {x y : Text} (hs : SameText s x y) :
    x = y := by
  cases s <;> first | exact hs | exact absurd rfl h

lemma sameValue_tagged {s : XiDfaState} {b b' : XiDatapointValue} {x y : Text}
    (hb : cstr b = some x) (hb' : cstr b' = some y) (p q : XiDatapoint) :
    SameValue (tagged tg s b x p) (tagged tg s b' y q) ↔ match s with
      | .number => atoi x = atoi y
      | .float => tg.atof x = tg.atof y
      | _ => x = y := by
  have hi (v : XiDatapointValue) (z : Text) : i32Value (setI32Value v (atoi z)) = atoi z :=
    i32Value_setI32Value v (atoi_bounds z).1 (atoi_bounds z).2
  cases s <;> simp [SameValue, tagged, hi, f32Value_setF32Value, hb, hb']

/-- A text is decoded from its own bytes if it is too long, or if the strings left behind it agree
whatever the array has held. -/
lemma oblivious_iff_stored : Oblivious t ↔ xiValueStringMaxSize ≤ (fieldOf t).length ∨
    ∀ v w, SameText (finalState (scanState .initial (fieldOf t))) (storedText (fieldOf t) v)
      (storedText (fieldOf t) w) := by
  by_cases hlen : xiValueStringMaxSize ≤ (fieldOf t).length
  · refine iff_of_true (fun tg e p v w => ?_) (.inl hlen)
    exact ⟨false, _, _, _, _, csvDecodeValue_overflow tg hlen e _,
      csvDecodeValue_overflow tg hlen e _, fun h => absurd h Bool.false_ne_true⟩
  rw [not_le] at hlen
  rw [or_iff_right (by omega)]
  constructor
  · intro h v w
    -- the conversion tells the two strings apart
    have hsame :=
      h (withAtof fun x => if x = storedText (fieldOf t) v then 0 else 1) .noErr .zero v w
    obtain ⟨b, hb, hrun⟩ := @csvDecodeValue_filled
      (withAtof fun x => if x = storedText (fieldOf t) v then 0 else 1) t hlen .noErr
      { XiDatapoint.zero with value := v }
    obtain ⟨b', hb', hrun'⟩ := @csvDecodeValue_filled
      (withAtof fun x => if x = storedText (fieldOf t) v then 0 else 1) t hlen .noErr
      { XiDatapoint.zero with value := w }
    obtain ⟨r, e, p, e', p', hret, hret', hvalue⟩ := hsame
    rw [hrun] at hret
    rw [hrun'] at hret'
    cases hret
    cases hret'
    have htext := (sameValue_tagged hb hb' _ _).mp (hvalue rfl)
    generalize finalState (scanState .initial (fieldOf t)) = s at htext ⊢
    cases s with
    | float =>
      by_contra hne
      have hne : storedText (fieldOf t) w ≠ storedText (fieldOf t) v := fun heq => hne heq.symm
      simp [withAtof, hne] at htext
    | number => exact htext
    | initial => exact htext
    | minus => exact htext
    | dot => exact htext
    | string => exact htext
  · intro h tg e p v w
    obtain ⟨b, hb, hrun⟩ := @csvDecodeValue_filled tg t hlen e { p with value := v }
    obtain ⟨b', hb', hrun'⟩ := @csvDecodeValue_filled tg t hlen e { p with value := w }
    refine ⟨true, _, _, _, _, hrun, hrun', fun _ => (sameValue_tagged hb hb' _ _).mpr ?_⟩
    have htext := h v w
    generalize finalState (scanState .initial (fieldOf t)) = s at htext ⊢
    cases s with
    | float => exact congrArg tg.atof htext
    | number => exact htext
    | initial => exact htext
    | minus => exact htext
    | dot => exact htext
    | string => exact htext

/-! ### Fields without a say of the array -/

/-- The fields that are decoded from their own bytes: those that do not fit, those without a
vertical tab, and those that are an integer behind the last one while no number goes on over the
first one. -/
def Settled (u : Text) : Prop :=
  xiValueStringMaxSize ≤ u.length ∨ 11 ∉ u ∨
    ∃ a m f b, u = a ++ 11 :: m ∧ 11 ∉ a ∧ ¬ NumberFront a ∧ u = f ++ 11 :: b ∧ IntText b

lemma scanState_newline (f b : Text) :
    scanState .initial (f ++ 11 :: b) = scanState .initial b := by
  have hreset (s : XiDfaState) : states (csvClassifyChar 11) s = .initial := by
    cases s <;> rfl
  rw [scanState, List.foldl_append, List.foldl_cons, hreset, ← scanState]

variable {u : Text}

lemma takeWhile_ne_zero {a : Text} (h : 0 ∉ a) (z : Text) :
    (a ++ z).takeWhile (· ≠ 0) = a ++ z.takeWhile (· ≠ 0) := by
  refine List.takeWhile_append_of_pos fun c hc => ?_
  simpa using fun h0 : c = 0 => h (h0 ▸ hc)

/-- What is in front of the first vertical tab is in front of the string. -/
lemma storedText_split {a m : Text} (h : 11 ∉ a) (h0 : 0 ∉ a) {v : XiDatapointValue}
    (hlen : a.length < xiValueStringMaxSize) : ∃ z, storedText (a ++ 11 :: m) v = a ++ z := by
  have hdrop : v.bytes = v.bytes.take a.length ++ v.bytes.drop a.length :=
    (List.take_append_drop _ _).symm
  have hsize := v.size_eq
  cases hd : v.bytes.drop a.length with
  | nil =>
    have := List.drop_eq_nil_iff.mp hd
    omega
  | cons o y =>
    rw [hd] at hdrop
    rw [storedText, hdrop, filled_split h (by rw [List.length_take]; omega), takeWhile_ne_zero h0]
    exact ⟨_, rfl⟩

lemma sameText_of_settled (h0 : 0 ∉ u) (hlen : u.length < xiValueStringMaxSize) (h : Settled u)
    (v w : XiDatapointValue) :
    SameText (finalState (scanState .initial u)) (storedText u v) (storedText u w) := by
  rcases h with hlong | hplain | ⟨a, m, f, b, hfirst, ha, hfront, hlast, hint⟩
  · omega
  · have htext (v : XiDatapointValue) : storedText u v = u := by
      rw [storedText, filled_plain hplain (by rw [v.size_eq]; omega)]
      simpa using takeWhile_ne_zero h0 []
    rw [htext, htext]
    exact sameText_self _ _
  · have hnumber : finalState (scanState .initial u) = .number := by
      rw [hlast, scanState_newline, finalState_int hint]
    have ha0 : 0 ∉ a := fun hm => h0 (by simp [hfirst, hm])
    have halen : a.length < xiValueStringMaxSize := by
      rw [hfirst, List.length_append, List.length_cons] at hlen
      omega
    have htext (v : XiDatapointValue) : atoi (storedText u v) = atoi a := by
      obtain ⟨z, hz⟩ := @storedText_split a m ha ha0 v halen
      rw [hfirst, hz, atoi_append hfront]
    rw [hnumber]
    exact (htext v).trans (htext w).symm

/-- An array with one byte at the place of the first vertical tab, and the other byte elsewhere. -/
def marked (k : ℕ) (o c : Byte) : XiDatapointValue :=
  ⟨(List.replicate xiValueStringMaxSize c).set k o, by simp⟩

lemma storedText_marked {a m : Text} (h : 11 ∉ a) (h0 : 0 ∉ a)
    (hlen : a.length < xiValueStringMaxSize) (o c : Byte) :
    storedText (a ++ 11 :: m) (marked a.length o c) = a ++ (o :: filled m
      (List.replicate (xiValueStringMaxSize - 1 - a.length) c)).takeWhile (· ≠ 0) := by
  have hsplit : (marked a.length o c).bytes = List.replicate a.length c ++
      o :: List.replicate (xiValueStringMaxSize - 1 - a.length) c := by
    have hrep : List.replicate xiValueStringMaxSize c = List.replicate a.length c ++
        c :: List.replicate (xiValueStringMaxSize - 1 - a.length) c := by
      rw [← List.replicate_succ, ← List.replicate_add]
      congr 1
      omega
    show (List.replicate xiValueStringMaxSize c).set a.length o = _
    rw [hrep, List.set_append_right _ _ (by simp), List.length_replicate, Nat.sub_self,
      List.set_cons_zero]
  rw [storedText, hsplit, filled_split h (by simp), takeWhile_ne_zero h0]

lemma value_digit_succ (ds z : Text) :
    value (ds ++ 49 :: z) = value (ds ++ 48 :: z) + 10 ^ z.length := by
  have h48 : (48 : Byte).toNat - 48 = 0 := by decide
  have h49 : (49 : Byte).toNat - 48 = 1 := by decide
  rw [value_append, value_append, value_cons, value_cons, h48, h49, List.length_cons,
    List.length_cons]
  ring

/-- Two digits at one place of a number make two numbers of it. -/
lemma atoi_digit_ne {a : Text} (ha : NumberFront a) {z : Text} (hz : z.length < 32) :
    atoi (a ++ 48 :: z) ≠ atoi (a ++ 49 :: z) := by
  obtain ⟨ws, s, ds, hws, hs, hds, rfl⟩ := ha
  have hrun : Digits (z.takeWhile isDigit) := fun c hc => List.mem_takeWhile_imp hc
  have hstop : ∀ c ∈ (z.dropWhile isDigit).head?, isDigit c = false := by
    intro c hc
    have hnot := List.head?_dropWhile_not isDigit z
    rwa [Option.mem_def.mp hc] at hnot
  have hread {c : Byte} (hc : isDigit c = true) : atoi (ws ++ (s ++ ds) ++ c :: z) =
      toInt32 (signed s (ds ++ c :: z.takeWhile isDigit)) := by
    have hdigits : Digits (ds ++ c :: z.takeWhile isDigit) :=
      hds.append ((digits_singleton hc).append hrun)
    rw [← atoi_front hws hs hdigits (by simp) hstop]
    simp
  have hlen : (z.takeWhile isDigit).length < 32 :=
    lt_of_le_of_lt (List.takeWhile_prefix _).length_le hz
  rw [hread (by decide), hread (by decide)]
  intro heq
  -- the two numbers are a power of ten apart
  have hdvd := dvd_sub_of_toInt32 heq
  have hpow : (2 ^ 32 : ℤ) ∣ 10 ^ (z.takeWhile isDigit).length := by
    rw [signed, signed, value_digit_succ] at hdvd
    push_cast at hdvd
    split at hdvd
    · rwa [neg_add, sub_add_cancel_left, neg_neg] at hdvd
    · rwa [sub_add_cancel_left, Int.dvd_neg] at hdvd
  have hnone : ∀ k < 32, ¬ 2 ^ 32 ∣ 10 ^ k := by decide +kernel
  exact hnone _ hlen (by exact_mod_cast hpow)

/-- Behind a vertical tab, an array can be told from the value. -/
lemma settled_of_sameText (hends : ∀ c ∈ u, endsValue c = false)
    (hlen : u.length < xiValueStringMaxSize)
    (h : ∀ v w, SameText (finalState (scanState .initial u)) (storedText u v) (storedText u w)) :
    Settled u := by
  have h0 : 0 ∉ u := fun hm => absurd (hends 0 hm) (by decide)
  by_cases h11 : 11 ∉ u
  · exact .inr (.inl h11)
  rw [not_not] at h11
  obtain ⟨a, m, hfirst, ha⟩ := List.eq_append_cons_of_mem h11
  obtain ⟨b, f, hlast, hb⟩ := List.eq_append_cons_of_mem (List.mem_reverse.mpr h11)
  rw [← List.mem_reverse] at hb
  replace hlast : u = f.reverse ++ 11 :: b.reverse := by
    rw [← List.reverse_reverse u, hlast]
    simp
  have ha0 : 0 ∉ a := fun hm => h0 (by simp [hfirst, hm])
  have halen : a.length + (m.length + 1) < xiValueStringMaxSize := by
    rwa [hfirst, List.length_append, List.length_cons] at hlen
  have hstored := @storedText_marked a m ha ha0 (by omega)
  rw [← hfirst] at hstored
  by_cases hint : IntText b.reverse
  · refine .inr (.inr ⟨a, m, f.reverse, b.reverse, hfirst, ha, fun hfront => ?_, hlast, hint⟩)
    have hnumber : finalState (scanState .initial u) = .number := by
      rw [hlast, scanState_newline, finalState_int hint]
    have hsame := h (marked a.length 48 48) (marked a.length 49 48)
    rw [hnumber, hstored, hstored] at hsame
    refine atoi_digit_ne hfront ?_ hsame
    have hmax : xiValueStringMaxSize = 32 := rfl
    have hrest := @length_filled m (List.replicate (xiValueStringMaxSize - 1 - a.length) 48)
      (by rw [List.length_replicate]; omega)
    have hrun := (List.takeWhile_prefix (p := (· ≠ 0)) (l := filled m
      (List.replicate (xiValueStringMaxSize - 1 - a.length) 48))).length_le
    omega
  · have hnl : ∀ c ∈ b.reverse, csvClassifyChar c ≠ .newline := by
      intro c hc hclass
      rcases classify_newline.mp hclass with rfl | rfl
      · exact absurd (hends 13 (by rw [hlast]; simp [List.mem_reverse.mp hc])) (by decide)
      · exact hb hc
    have hstate : finalState (scanState .initial u) ≠ .number := by
      rwa [hlast, scanState_newline, ne_eq, finalState_number_iff hnl]
    have hsame := sameText_ne hstate (h (marked a.length 0 0) (marked a.length 65 65))
    rw [hstored, hstored] at hsame
    have hlengths := congrArg List.length hsame
    simp at hlengths

/-- **Old contents**: decoding a text does not look at what the value has held exactly if the
field is settled, be it that it does not fit, that it has no vertical tab, or that the array only
shows behind the number it is read as. -/
theorem oblivious_iff (t : Text) : Oblivious t ↔ Settled (fieldOf t) := by
  have hends : ∀ c ∈ fieldOf t, endsValue c = false := fun _ => not_endsValue_of_mem
  have h0 : 0 ∉ fieldOf t := fun hm => absurd (hends 0 hm) (by decide)
  rw [oblivious_iff_stored]
  by_cases hlen : xiValueStringMaxSize ≤ (fieldOf t).length
  · exact iff_of_true (.inl hlen) (.inl hlen)
  rw [not_le] at hlen
  rw [or_iff_right (by omega)]
  exact ⟨settled_of_sameText hends hlen, sameText_of_settled h0 hlen⟩

/-- A vertical tab alone is decoded as whatever string the array has held. -/
theorem tab_not_oblivious : ¬ Oblivious (lit "\x0b") := by
  intro h
  rcases oblivious_iff_stored.mp h with hlong | hsame
  · exact absurd hlong (by decide)
  · have htext : storedText (fieldOf (lit "\x0b")) (marked 0 0 0) =
        storedText (fieldOf (lit "\x0b")) (marked 0 65 65) := hsame _ _
    exact absurd htext (by decide)

end LibXively.Contents
