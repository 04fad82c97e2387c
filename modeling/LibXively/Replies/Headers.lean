import LibXively.Http.Framing
import LibXively.Model.HttpParser

/-!
One header line of a reply: when `parse_http_header` accepts it, and what it stores.
-/

namespace LibXively.Headers

open LibXively.Bytes LibXively.Scanf LibXively.CProc LibXively.CharArray LibXively.Structures
open LibXively.Framing LibXively.HttpParser

/-! ### Lines -/

section Lines

variable {t l l' : Text}

lemma strstr_line (hl : OneLine l) (rest : Text) :
    strstr xiHttpCrlf (l ++ xiHttpCrlf ++ rest) = some l.length := strstr_crlf hl rest

/-- A found line end splits the text at the end of its first line. -/
lemma line_of_strstr {i : ℕ} (h : strstr xiHttpCrlf t = some i) :
    ∃ l rest, t = l ++ xiHttpCrlf ++ rest ∧ OneLine l ∧ i = l.length := by
  obtain ⟨⟨rest, hrest⟩, hle, hfirst⟩ := strstr_some h
  have hsplit : t = t.take i ++ xiHttpCrlf ++ rest := by
    rw [List.append_assoc, hrest, List.take_append_drop]
  refine ⟨t.take i, rest, hsplit, ?_, by rw [List.length_take]; omega⟩
  rintro ⟨x, y, hxy⟩
  -- a line end inside the line is found earlier
  have hlen := congrArg List.length hxy
  simp only [crlf, List.length_append, List.length_cons, List.length_nil, List.length_take] at hlen
  refine hfirst x.length (by omega) ⟨y ++ xiHttpCrlf ++ rest, ?_⟩
  conv_rhs => rw [hsplit, ← hxy]
  simp only [List.append_assoc, List.drop_left]
  rfl

lemma line_unique {rest rest' : Text} (hl : OneLine l) (hl' : OneLine l')
    (h : l ++ xiHttpCrlf ++ rest = l' ++ xiHttpCrlf ++ rest') : l = l' := by
  have hsearch := strstr_line hl rest
  rw [h, strstr_line hl' rest'] at hsearch
  rw [List.append_assoc, List.append_assoc] at h
  exact (List.append_inj h (Option.some.inj hsearch).symm).1

end Lines

/-! ### Storing a field -/

variable {n : ℕ}

/-- A field copied into its array, and the guard behind it. -/
def storeField (b : Buf n) (t : Text) : Buf n := put (put b 0 t) (n - 1) [0]

lemma copyField_apply {src : Text} {len : ℕ} (hn : 0 < n) (h1 : len ≤ n - 1)
    (h2 : len ≤ src.length) (e : XiErr) (b : Buf n) :
    copyField src len e b = .ret () e (storeField b (src.take len)) := by
  have hcnd : ¬ ((n : ℤ) - 1 < len) := by omega
  have hmin : min ((n : ℤ) - 1) len = len := by omega
  rw [copyField, bind_apply, checkCnd_neg hcnd, andThen_ret, bind_apply, hmin,
    memcpy_apply (by omega) h2, andThen_ret, store_apply (by simp; omega)]
  rfl

lemma copyField_long {src : Text} {len : ℤ} (h : (n : ℤ) - 1 < len) (e : XiErr) (b : Buf n) :
    copyField src len e b = .goto .httpHeaderParseError b := by
  rw [copyField, bind_apply, checkCnd_pos h, andThen_goto]

lemma copyField_negative {src : Text} {len : ℤ} (hn : 0 < n) (h : len < 0) (e : XiErr)
    (b : Buf n) : copyField src len e b = .fault .badLength := by
  have hcnd : ¬ ((n : ℤ) - 1 < len) := by omega
  have hmin : min ((n : ℤ) - 1) len < 0 := by omega
  rw [copyField, bind_apply, checkCnd_neg hcnd, andThen_ret, bind_apply, memcpy, if_pos hmin]
  rfl

/-- A field always ends inside its array. -/
lemma exists_cstr_storeField (hn : 0 < n) (b : Buf n) (t : Text) :
    ∃ s, cstr (storeField b t) = some s := by
  refine exists_cstr ?_
  rw [storeField, bytes_put (by simp; omega)]
  simp

/-- A field copied into a cleared array is the string in it. -/
lemma cstr_storeField {t : Text} (h0 : 0 ∉ t) (h : t.length < n) :
    cstr (storeField (zero n) t) = some t := by
  refine cstr_of_starts h0 ?_
  have hput : (put (zero n) 0 t).bytes = t ++ List.replicate (n - t.length) 0 := by
    rw [bytes_put (by omega)]
    simp [zero]
  have hrep : n - t.length = (n - t.length - 1) + 1 := by omega
  rw [storeField, bytes_put (by simp; omega), hput, hrep]
  by_cases hlast : t.length = n - 1
  · have : n - t.length - 1 = 0 := by omega
    rw [this, ← hlast]
    simp
  · refine ⟨List.replicate (n - t.length - 1 - 1) 0 ++ [0], ?_⟩
    have htake : (t ++ List.replicate (n - t.length - 1 + 1) (0 : Byte)).take (n - 1) =
        t ++ List.replicate (n - 1 - t.length) 0 := by
      rw [List.take_append, List.take_of_length_le (by omega), List.take_replicate]
      congr 2; omega
    have hdrop : (t ++ List.replicate (n - t.length - 1 + 1) (0 : Byte)).drop
        (n - 1 + [(0 : Byte)].length) = [] := by
      refine List.drop_eq_nil_of_le ?_
      simp; omega
    rw [htake, hdrop, List.append_nil]
    have hone : n - 1 - t.length = 1 + (n - t.length - 1 - 1) := by omega
    rw [hone, List.replicate_add]
    simp

/-! ### One line -/

/-- How far a header line that can be stored takes the parser: the name and the value fit their
arrays, and the colon is followed by one more byte in front of the end of the line. -/
def headerMoved (t : Text) : Option ℕ :=
  match strstr xiHttpCrlf t, strstr [58] t with
  | some h, some k =>
    if k + 2 ≤ h ∧ k < xiHttpHeaderNameMaxSize ∧ h - (k + 2) < xiHttpHeaderValueMaxSize then
      some (h + 2)
    else none
  | _, _ => none

/-- The end of the line stands directly behind the colon: the value would be copied with a negative
length. -/
def headerCrashes (t : Text) : Bool :=
  match strstr xiHttpCrlf t, strstr [58] t with
  | some h, some k => decide (k ≤ h ∧ h < k + 2 ∧ k < xiHttpHeaderNameMaxSize)
  | _, _ => false

/-- A response with one more header. -/
def storeHeader (r : HttpResponse) (slot : Fin xiHttpMaxHeaders) (name value : Text) :
    HttpResponse :=
  let nameBuf := storeField (r.httpHeaders slot).name name
  let valueBuf := storeField (r.httpHeaders slot).value value
  let ht := classifyHeader ((cstr nameBuf).getD [])
  { r with
    httpHeaders := Function.update r.httpHeaders slot ⟨ht, nameBuf, valueBuf⟩
    httpHeadersChecklist := if ht ≠ .unknown then
      Function.update r.httpHeadersChecklist ht (some slot) else r.httpHeadersChecklist
    httpHeadersSize := slot + 1 }

/-- A header line that can be stored is stored, and accepted unless it takes the last slot. -/
lemma parseHttpHeader_stored {t : Text} {m : ℕ} {r : HttpResponse} (h : headerMoved t = some m)
    (hslot : r.httpHeadersSize < xiHttpMaxHeaders) :
    ∃ i k, strstr xiHttpCrlf t = some i ∧ strstr [58] t = some k ∧ m = i + 2 ∧
      ∀ e, parseHttpHeader t e r =
        if xiHttpMaxHeaders ≤ r.httpHeadersSize + 1 then
          .ret none .httpHeaderParseError (storeHeader r ⟨r.httpHeadersSize, hslot⟩
            (t.take k) ((t.drop (k + 2)).take (i - (k + 2))))
        else .ret (some m) e (storeHeader r ⟨r.httpHeadersSize, hslot⟩
          (t.take k) ((t.drop (k + 2)).take (i - (k + 2)))) := by
  unfold headerMoved at h
  split at h
  · next i k hi hk =>
    split at h
    · next hfit =>
      cases h
      obtain ⟨hik, hname, hvalue⟩ := hfit
      refine ⟨i, k, hi, hk, rfl, fun e => ?_⟩
      have hilen := (strstr_some hi).2.1
      have hklen := (strstr_some hk).2.1
      have hname' := @copyField_apply xiHttpHeaderNameMaxSize t k (by norm_num) (by omega) hklen
      have hlen : (((i - (k + 2) : ℕ) : ℕ) : ℤ) = (i : ℤ) - ((k + 2 : ℕ) : ℤ) := by omega
      have hvalue' := @copyField_apply xiHttpHeaderValueMaxSize (t.drop (k + 2)) (i - (k + 2))
        (by norm_num) (by omega) (by rw [List.length_drop]; omega)
      obtain ⟨s, hs⟩ := exists_cstr_storeField (n := xiHttpHeaderNameMaxSize) (by norm_num)
        (r.httpHeaders ⟨r.httpHeadersSize, hslot⟩).name (t.take k)
      rw [hlen] at hvalue'
      unfold parseHttpHeader errHandling
      simp only [bind_apply, hi, hk, checkZero_some, andThen_ret,
        checkCnd_neg (show ¬ i < k by omega), get_apply, hslot, dif_pos, onHeader, onName,
        onHeaderValue, focus, hname', Function.update_self, hvalue', readStr_apply hs,
        Function.update_idem]
      by_cases hcount : xiHttpMaxHeaders ≤ r.httpHeadersSize + 1 <;>
        by_cases ht : classifyHeader s = .unknown
      all_goals simp [ht, storeHeader, hs, hcount, focus, Function.update_idem]
    · cases h
  · cases h

section Line

variable {name value : Text} {c : Byte} {r : HttpResponse}

lemma strstr_lineEnd (hcr : 13 ∉ name ++ 58 :: c :: value) (t : Text) :
    strstr xiHttpCrlf (name ++ 58 :: c :: value ++ xiHttpCrlf ++ t) =
      some (name ++ 58 :: c :: value).length := strstr_append_self hcr t

lemma strstr_colon (hcolon : 58 ∉ name) (t : Text) :
    strstr [58] (name ++ 58 :: c :: value ++ xiHttpCrlf ++ t) = some name.length := by
  rw [List.append_assoc, List.append_assoc]
  exact strstr_singleton_append hcolon _

/-- A line of a name, a colon, one byte that is passed over, and a value can be stored. -/
lemma headerMoved_line (hname : name.length < xiHttpHeaderNameMaxSize) (hcolon : 58 ∉ name)
    (hvalue : value.length < xiHttpHeaderValueMaxSize) (hcr : 13 ∉ name ++ 58 :: c :: value)
    (t : Text) : headerMoved (name ++ 58 :: c :: value ++ xiHttpCrlf ++ t) =
      some ((name ++ 58 :: c :: value).length + 2) := by
  have hlen : (name ++ 58 :: c :: value).length = name.length + 2 + value.length := by simp; omega
  have hfits : name.length + 2 ≤ (name ++ 58 :: c :: value).length ∧
      name.length < xiHttpHeaderNameMaxSize ∧
      (name ++ 58 :: c :: value).length - (name.length + 2) < xiHttpHeaderValueMaxSize :=
    ⟨by omega, hname, by omega⟩
  simp only [headerMoved, strstr_lineEnd hcr, strstr_colon hcolon, if_pos hfits]

lemma parseHttpHeader_line (hname : name.length < xiHttpHeaderNameMaxSize) (hcolon : 58 ∉ name)
    (hvalue : value.length < xiHttpHeaderValueMaxSize) (hcr : 13 ∉ name ++ 58 :: c :: value)
    (t : Text) (hslot : r.httpHeadersSize + 1 < xiHttpMaxHeaders) (e : XiErr) :
    parseHttpHeader (name ++ 58 :: c :: value ++ xiHttpCrlf ++ t) e r =
      .ret (some ((name ++ 58 :: c :: value).length + 2)) e
        (storeHeader r ⟨r.httpHeadersSize, by omega⟩ name value) := by
  have hlen : (name ++ 58 :: c :: value).length = name.length + 2 + value.length := by simp; omega
  obtain ⟨i, k, hi, hk, -, hrun⟩ := parseHttpHeader_stored
    (headerMoved_line hname hcolon hvalue hcr t)
    (show r.httpHeadersSize < xiHttpMaxHeaders by omega)
  obtain rfl := Option.some.inj (hi.symm.trans (strstr_lineEnd hcr t))
  obtain rfl := Option.some.inj (hk.symm.trans (strstr_colon hcolon t))
  have hlast : ¬ xiHttpMaxHeaders ≤ r.httpHeadersSize + 1 := by omega
  have htake : (name ++ 58 :: c :: value ++ xiHttpCrlf ++ t).take name.length = name := by simp
  have hdrop : (name ++ 58 :: c :: value ++ xiHttpCrlf ++ t).drop (name.length + 2) =
      value ++ (xiHttpCrlf ++ t) := by
    have hsplit : name ++ 58 :: c :: value ++ xiHttpCrlf ++ t =
        (name ++ [58, c]) ++ (value ++ (xiHttpCrlf ++ t)) := by simp
    rw [hsplit]
    exact List.drop_left' (by simp)
  have hrest : (name ++ 58 :: c :: value).length - (name.length + 2) = value.length := by omega
  rw [hrun, if_neg hlast, htake, hdrop, hrest, List.take_left]

end Line

/-- Any other line is rejected with an error. -/
lemma parseHttpHeader_refused {t : Text} {r : HttpResponse} (h : headerMoved t = none)
    (hc : headerCrashes t = false) (hslot : r.httpHeadersSize < xiHttpMaxHeaders) :
    ∃ r', ∀ e, parseHttpHeader t e r = .ret none .httpHeaderParseError r' := by
  unfold headerMoved at h
  unfold headerCrashes at hc
  unfold parseHttpHeader errHandling
  cases hi : strstr xiHttpCrlf t with
  | none => exact ⟨r, fun e => by simp⟩
  | some i =>
    cases hk : strstr [58] t with
    | none => exact ⟨r, fun e => by simp⟩
    | some k =>
      rw [hi, hk] at h hc
      simp only [decide_eq_false_iff_not] at hc
      by_cases hik : i < k
      · exact ⟨r, fun e => by simp [hik]⟩
      by_cases hname : (xiHttpHeaderNameMaxSize : ℤ) - 1 < k
      · refine ⟨r, fun e => ?_⟩
        simp only [bind_apply, checkZero_some, andThen_ret, checkCnd_neg hik, get_apply,
          hslot, dif_pos, onHeader, onName, focus, copyField_long hname, andThen_goto,
          Function.update_eq_self]
      have hname' := @copyField_apply xiHttpHeaderNameMaxSize t k (by norm_num) (by omega)
        (strstr_some hk).2.1
      have hvalue : (xiHttpHeaderValueMaxSize : ℤ) - 1 < (i : ℤ) - ((k + 2 : ℕ) : ℤ) := by
        by_contra hshort
        have hfit : k + 2 ≤ i ∧ k < xiHttpHeaderNameMaxSize ∧
            i - (k + 2) < xiHttpHeaderValueMaxSize := ⟨by omega, by omega, by omega⟩
        simp [hfit] at h
      let slot : Fin xiHttpMaxHeaders := ⟨r.httpHeadersSize, hslot⟩
      let named : HttpHeader := ⟨(r.httpHeaders slot).headerType,
        storeField (r.httpHeaders slot).name (t.take k), (r.httpHeaders slot).value⟩
      refine ⟨{ r with httpHeaders := Function.update r.httpHeaders slot named }, fun e => ?_⟩
      simp only [bind_apply, checkZero_some, andThen_ret, checkCnd_neg hik, get_apply,
        hslot, dif_pos, onHeader, onName, onHeaderValue, focus, hname', Function.update_self,
        copyField_long hvalue, andThen_goto, Function.update_idem]
      rfl

/-- A copy of a negative length. -/
lemma parseHttpHeader_crashes {t : Text} {r : HttpResponse} (h : headerCrashes t = true)
    (hslot : r.httpHeadersSize < xiHttpMaxHeaders) (e : XiErr) :
    parseHttpHeader t e r = .fault .badLength := by
  unfold headerCrashes at h
  unfold parseHttpHeader errHandling
  split at h
  · next i k hi hk =>
    obtain ⟨hki, hik, hname⟩ := of_decide_eq_true h
    have hname' := @copyField_apply xiHttpHeaderNameMaxSize t k (by norm_num) (by omega)
      (strstr_some hk).2.1
    have hnegative : (i : ℤ) - ((k + 2 : ℕ) : ℤ) < 0 := by omega
    simp only [hi, hk, bind_apply, checkZero_some, andThen_ret,
      checkCnd_neg (show ¬ i < k by omega), get_apply, hslot, dif_pos, onHeader, onName,
      onHeaderValue, focus, hname', Function.update_self,
      copyField_negative (n := xiHttpHeaderValueMaxSize) (by norm_num) hnegative, andThen_fault]
  · cases h

lemma headerMoved_some {t : Text} {m : ℕ} (h : headerMoved t = some m) :
    ∃ i k, strstr xiHttpCrlf t = some i ∧ strstr [58] t = some k ∧ k + 2 ≤ i ∧
      k < xiHttpHeaderNameMaxSize ∧ m = i + 2 := by
  unfold headerMoved at h
  split at h
  · next i k hi hk =>
    split at h
    · next hfit =>
      cases h
      exact ⟨i, k, hi, hk, hfit.1, hfit.2.1, rfl⟩
    · cases h
  · cases h

lemma headerMoved_none (t : Text) (h : headerCrashes t = true) : headerMoved t = none := by
  unfold headerCrashes at h
  unfold headerMoved
  split at h
  · next i k hi hk =>
    obtain ⟨-, hik, -⟩ := of_decide_eq_true h
    exact if_neg fun hfit => absurd hfit.1 (by omega)
  · cases h

lemma headerCrashes_of_moved {t : Text} {m : ℕ} (h : headerMoved t = some m) :
    headerCrashes t = false := by
  by_contra hcrash
  rw [headerMoved_none t (Bool.not_eq_false _ ▸ hcrash)] at h
  cases h

/-- Without a free slot, no call succeeds. -/
lemma parseHttpHeader_slotless {t : Text} {r : HttpResponse}
    (hslot : ¬ r.httpHeadersSize < xiHttpMaxHeaders) {m : ℕ} {e e' : XiErr} {r' : HttpResponse} :
    parseHttpHeader t e r ≠ .ret (some m) e' r' := by
  unfold parseHttpHeader errHandling
  cases hi : strstr xiHttpCrlf t with
  | none => simp
  | some i =>
    cases hk : strstr [58] t with
    | none => simp
    | some k =>
      by_cases hik : i < k
      · simp [hik]
      · simp [hik, hslot]

/-- What a call that succeeds has done: it has stored the line, in a slot that is not the last. -/
lemma parseHttpHeader_some {t : Text} {m : ℕ} {e e' : XiErr} {r r' : HttpResponse}
    (h : parseHttpHeader t e r = .ret (some m) e' r') : e' = e ∧
      ∃ (hslot : r.httpHeadersSize + 1 < xiHttpMaxHeaders) (i k : ℕ) (value : Text),
        strstr xiHttpCrlf t = some i ∧ strstr [58] t = some k ∧ k + 2 ≤ i ∧
        k < xiHttpHeaderNameMaxSize ∧ m = i + 2 ∧
        r' = storeHeader r ⟨r.httpHeadersSize, Nat.lt_of_succ_lt hslot⟩ (t.take k) value := by
  by_cases hslot : r.httpHeadersSize < xiHttpMaxHeaders
  · cases hm : headerMoved t with
    | none =>
      by_cases hc : headerCrashes t = true
      · rw [parseHttpHeader_crashes hc hslot e] at h
        cases h
      · obtain ⟨r'', hr''⟩ := parseHttpHeader_refused hm (Bool.not_eq_true _ ▸ hc) hslot
        rw [hr'' e] at h
        cases h
    | some m' =>
      obtain ⟨i, k, hi, hk, rfl, hstored⟩ := parseHttpHeader_stored hm hslot
      obtain ⟨i', k', hi', hk', hfit, hname, -⟩ := headerMoved_some hm
      obtain rfl := Option.some.inj (hi.symm.trans hi')
      obtain rfl := Option.some.inj (hk.symm.trans hk')
      rw [hstored] at h
      split at h
      · cases h
      · next hcount =>
        cases h
        exact ⟨rfl, not_le.mp hcount, i, k, _, hi, hk, hfit, hname, rfl, rfl⟩
  · exact absurd h (parseHttpHeader_slotless hslot)

/-! ### The lengths of the copies -/

/-- The lengths `parse_http_header` hands to its two copies, as far as it comes to them. -/
def copyLengths (t : Text) : List ℤ :=
  match strstr xiHttpCrlf t, strstr [58] t with
  | some i, some k =>
    if i < k ∨ xiHttpHeaderNameMaxSize - 1 < k then []
    else if (xiHttpHeaderValueMaxSize : ℤ) - 1 < i - (k + 2) then
      [min (xiHttpHeaderNameMaxSize - 1) k]
    else [min (xiHttpHeaderNameMaxSize - 1) k, min (xiHttpHeaderValueMaxSize - 1) (i - (k + 2))]
  | _, _ => []

/-- The length fits the array it is for. -/
def LengthFits (len : ℤ) : Prop := 0 ≤ len ∧ len ≤ 63

/-- The line ends directly behind its colon. -/
def EmptyBehindColon (t : Text) : Prop :=
  ∃ k, strstr [58] t = some k ∧ strstr xiHttpCrlf t = some (k + 1) ∧ k < xiHttpHeaderNameMaxSize

lemma headerCrashes_iff {t : Text} : headerCrashes t = true ↔ EmptyBehindColon t := by
  rw [headerCrashes, EmptyBehindColon]
  constructor
  · intro h
    split at h
    · next i k hi hk =>
      obtain ⟨hki, hik, hname⟩ := of_decide_eq_true h
      have hne : i ≠ k := by
        rintro rfl
        -- the byte there would be a colon and a carriage return
        obtain ⟨⟨u, hu⟩, -⟩ := strstr_some hi
        obtain ⟨⟨v, hv⟩, -⟩ := strstr_some hk
        rw [← hu] at hv
        exact absurd (List.cons.inj hv).1 (by decide)
      exact ⟨k, hk, by rw [hi]; congr 1; omega, hname⟩
    · cases h
  · rintro ⟨k, hk, hi, hname⟩
    simp only [hk, hi]
    exact decide_eq_true ⟨by omega, by omega, hname⟩

lemma lengthFits_iff (t : Text) : (∀ len ∈ copyLengths t, LengthFits len) ↔
    headerCrashes t = false := by
  have hname : xiHttpHeaderNameMaxSize = 64 := rfl
  have hvalue : xiHttpHeaderValueMaxSize = 64 := rfl
  rw [copyLengths, headerCrashes]
  split
  · next i k hi hk =>
    rw [decide_eq_false_iff_not]
    split
    · exact iff_of_true (by simp) (by omega)
    · split
      · refine iff_of_true ?_ (by omega)
        simp only [List.mem_singleton, forall_eq, LengthFits]
        omega
      · simp only [List.mem_cons, List.not_mem_nil, or_false, forall_eq_or_imp, forall_eq,
          LengthFits]
        omega
  · exact iff_of_true (by simp) rfl

/-- The parser faults exactly if a length does not fit. -/
lemma parseHttpHeader_fault_iff {t : Text} {r : HttpResponse}
    (hslot : r.httpHeadersSize < xiHttpMaxHeaders) (e : XiErr) :
    (∃ f, parseHttpHeader t e r = .fault f) ↔ ∃ len ∈ copyLengths t, ¬ LengthFits len := by
  have hfits := lengthFits_iff t
  cases hc : headerCrashes t with
  | true =>
    rw [hc] at hfits
    refine iff_of_true ⟨_, parseHttpHeader_crashes hc hslot e⟩ ?_
    by_contra hno
    exact absurd (hfits.mp fun len hlen => by_contra fun h => hno ⟨len, hlen, h⟩) (by decide)
  | false =>
    refine iff_of_false ?_ fun ⟨len, hlen, h⟩ => h (hfits.mpr hc len hlen)
    rintro ⟨f, hfault⟩
    cases hm : headerMoved t with
    | none =>
      obtain ⟨r', hrun⟩ := parseHttpHeader_refused hm hc hslot
      rw [hrun] at hfault
      cases hfault
    | some m =>
      obtain ⟨i, k, -, -, -, hrun⟩ := parseHttpHeader_stored hm hslot
      rw [hrun] at hfault
      split at hfault <;> cases hfault

/-- **The copies of a header**: the lengths handed to the two copies are in range, and the parser
faults on neither, exactly if the line does not end directly behind its colon. -/
theorem header_copies (t : CString) (r : HttpResponse)
    (hslot : r.httpHeadersSize < xiHttpMaxHeaders) :
    ((∀ len ∈ copyLengths t.bytes, LengthFits len) ↔ ¬ EmptyBehindColon t.bytes) ∧
    ∀ e, (∃ f, parseHttpHeader t.bytes e r = .fault f) ↔
      ∃ len ∈ copyLengths t.bytes, ¬ LengthFits len := by
  refine ⟨?_, parseHttpHeader_fault_iff hslot⟩
  rw [lengthFits_iff, ← headerCrashes_iff, Bool.not_eq_true]

/-- A header line, and one without a value. -/
def ageLine : CString := ⟨lit "Age: 1\r\n\r\n", by decide⟩

def bareLine : CString := ⟨lit "Age:\r\n\r\n", by decide⟩

theorem header_copies_age :
    copyLengths ageLine.bytes = [3, 1] ∧
    ∀ e, ¬ ∃ f, parseHttpHeader ageLine.bytes e .zero = .fault f := by
  have hlengths : copyLengths ageLine.bytes = [3, 1] := by decide
  refine ⟨hlengths, fun e hfault => ?_⟩
  obtain ⟨len, hlen, hno⟩ := ((header_copies ageLine .zero (by decide)).2 e).mp hfault
  rw [hlengths] at hlen
  simp only [List.mem_cons, List.not_mem_nil, or_false] at hlen
  rcases hlen with rfl | rfl
  · exact hno ⟨by decide, by decide⟩
  · exact hno ⟨by decide, by decide⟩

/-- A line without a value makes the parser copy a negative number of bytes. -/
theorem header_copies_negative :
    copyLengths bareLine.bytes = [3, -1] ∧ ¬ LengthFits (-1) ∧
    ∀ e, parseHttpHeader bareLine.bytes e .zero = .fault .badLength :=
  ⟨by decide, fun h => absurd h.1 (by decide),
    parseHttpHeader_crashes (by decide) (by decide)⟩

end LibXively.Headers
