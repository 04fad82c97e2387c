import LibXively.Replies.Head

/-!
Replies as they are written, and what the parser reads of them.

The first empty line of a written reply is the one behind its headers: the lines in front of it
hold no carriage return, and none of them is empty. A payload may hold line ends and colons of its
own, since no search for one gets to it before the headers end.
-/

namespace LibXively.Render

open LibXively.Bytes LibXively.Decimal LibXively.Scanf LibXively.CProc LibXively.CharArray
open LibXively.Structures LibXively.HttpParser LibXively.Headers LibXively.Head

/-- A reply, with its headers as names and values. -/
structure Reply where
  version1 : ℕ
  version2 : ℕ
  status : ℕ
  reason : Text
  headers : List (Text × Text)
  payload : Text

/-- A header the parser has room for. -/
structure PlainHeader (h : Text × Text) : Prop where
  name_length : 1 ≤ h.1.length ∧ h.1.length ≤ 63
  name_bytes : ∀ c ∈ h.1, c ≠ 58 ∧ c ≠ 13 ∧ c ≠ 10 ∧ c ≠ 0
  value_length : h.2.length ≤ 63
  value_bytes : ∀ c ∈ h.2, c ≠ 13 ∧ c ≠ 10 ∧ c ≠ 0

/-- A reply the parser has room for. -/
structure Reply.Plain (reply : Reply) : Prop where
  version1 : reply.version1 < 10 ^ 9
  version2 : reply.version2 < 10 ^ 9
  status : reply.status < 10 ^ 9
  reason_length : 1 ≤ reply.reason.length ∧ reply.reason.length ≤ 31
  reason_bytes : ∀ c ∈ reply.reason, c ≠ 13 ∧ c ≠ 10 ∧ c ≠ 0
  reason_head : ∀ c ∈ reply.reason.head?, isSpace c = false
  headers_length : 1 ≤ reply.headers.length ∧ reply.headers.length ≤ xiHttpMaxHeaders - 1
  headers : ∀ h ∈ reply.headers, PlainHeader h
  payload_length : reply.payload.length < xiHttpMaxContentSize
  payload_bytes : 0 ∉ reply.payload

/-- A header line, less its end. -/
def lineOf (h : Text × Text) : Text := h.1 ++ [58, 32] ++ h.2

/-- The header section, less the empty line behind it. -/
def headerSection (hs : List (Text × Text)) : Text := hs.flatMap fun h => lineOf h ++ xiHttpCrlf

def Reply.statusLine (reply : Reply) : Text :=
  lit "HTTP/" ++ digits reply.version1 ++ lit "." ++ digits reply.version2 ++ lit " " ++
    digits reply.status ++ lit " " ++ reply.reason

/-- The reply as it is written. -/
def Reply.text (reply : Reply) : Text :=
  reply.statusLine ++ xiHttpCrlf ++ headerSection reply.headers ++ xiHttpCrlf ++ reply.payload

/-! ### Header sections -/

lemma headerSection_cons (h : Text × Text) (hs : List (Text × Text)) :
    headerSection (h :: hs) = lineOf h ++ xiHttpCrlf ++ headerSection hs := by
  simp [headerSection]

lemma length_headerSection_cons (h : Text × Text) (hs : List (Text × Text)) :
    (headerSection (h :: hs)).length = (lineOf h).length + 2 + (headerSection hs).length := by
  rw [headerSection_cons, List.length_append, List.length_append]
  rfl

section Steps

variable {content rest : Text} {h : Text × Text} {hs : List (Text × Text)} {headersEnd ptr : ℕ}

/-- A position in front of a section is in front of its first line. -/
lemma drop_section (htext : content.drop ptr = headerSection (h :: hs) ++ rest) :
    content.drop ptr = lineOf h ++ xiHttpCrlf ++ (headerSection hs ++ rest) := by
  rw [htext, headerSection_cons, List.append_assoc]

/-- Behind that line, it is in front of the rest of the section. -/
lemma drop_next (htext : content.drop ptr = headerSection (h :: hs) ++ rest) :
    content.drop (ptr + ((lineOf h).length + 2)) = headerSection hs ++ rest := by
  rw [← List.drop_drop, drop_section htext]
  exact List.drop_left' (by rw [List.length_append]; rfl)

/-- The last line leads to the end of the section, and no other does. -/
lemma next_eq_iff (hend : headersEnd = ptr + (headerSection (h :: hs)).length) :
    ptr + ((lineOf h).length + 2) = headersEnd ↔ hs = [] := by
  rw [hend, length_headerSection_cons]
  constructor
  · intro hlast
    cases hs with
    | nil => rfl
    | cons h' hs =>
      rw [length_headerSection_cons] at hlast
      omega
  · rintro rfl
    rfl

end Steps

/-! ### The searches -/

variable {a p : Text} {h : Text × Text} {hs : List (Text × Text)}

/-- The header lines, each with the line end in front of it. -/
def linesOf (hs : List (Text × Text)) : Text := hs.flatMap fun h => xiHttpCrlf ++ lineOf h

lemma crlf_headerSection (hs : List (Text × Text)) :
    xiHttpCrlf ++ headerSection hs = linesOf hs ++ xiHttpCrlf := by
  induction hs with
  | nil => rfl
  | cons h hs ih =>
    have hcons : xiHttpCrlf ++ headerSection (h :: hs) =
        (xiHttpCrlf ++ lineOf h) ++ (xiHttpCrlf ++ headerSection hs) := by simp [headerSection]
    rw [hcons, ih]
    simp [linesOf]

lemma Reply.text_eq (reply : Reply) : reply.text =
    reply.statusLine ++ (linesOf reply.headers ++ (xiHttpCrlfX2 ++ reply.payload)) := by
  have hsection := crlf_headerSection reply.headers
  have htext : reply.text = reply.statusLine ++
      (xiHttpCrlf ++ headerSection reply.headers ++ (xiHttpCrlf ++ reply.payload)) := by
    simp [Reply.text]
  rw [htext, hsection]
  simp [xiHttpCrlf, xiHttpCrlfX2]

lemma PlainHeader.fits (hh : PlainHeader h) :
    h.1.length < xiHttpHeaderNameMaxSize ∧ h.2.length < xiHttpHeaderValueMaxSize :=
  ⟨Nat.lt_succ_of_le hh.name_length.2, Nat.lt_succ_of_le hh.value_length⟩

lemma lineOf_ne_nil (h : Text × Text) : lineOf h ≠ [] := by simp [lineOf]

lemma PlainHeader.cr_not_mem (hh : PlainHeader h) : 13 ∉ lineOf h := by
  simp only [lineOf, List.mem_append, List.mem_cons, List.not_mem_nil, or_false, not_or]
  exact ⟨⟨fun hc => (hh.name_bytes _ hc).2.1 rfl, by decide⟩, fun hc => (hh.value_bytes _ hc).1 rfl⟩

/-- The empty line behind a text of one line and the header lines. -/
lemma strstr_emptyLine (ha : 13 ∉ a) (hhs : ∀ h ∈ hs, PlainHeader h) (p : Text) :
    strstr xiHttpCrlfX2 (a ++ (linesOf hs ++ (xiHttpCrlfX2 ++ p))) =
      some (a.length + (linesOf hs).length) := by
  induction hs generalizing a with
  | nil =>
    have hempty : strstr xiHttpCrlfX2 (xiHttpCrlfX2 ++ p) = some 0 :=
      strstr_eq_zero (List.prefix_append _ _)
    rw [linesOf, List.flatMap_nil, List.nil_append, xiHttpCrlfX2, strstr_append ha]
    rw [xiHttpCrlfX2] at hempty
    rw [hempty]
    rfl
  | cons h hs ih =>
    have hh := hhs h (List.mem_cons_self ..)
    obtain ⟨c, l, hl⟩ := List.exists_cons_of_ne_nil (lineOf_ne_nil h)
    have hc : c ≠ 13 := by
      rintro rfl
      exact hh.cr_not_mem (by rw [hl]; exact List.mem_cons_self ..)
    -- the line end in front of a header line is not the empty line
    have hno : ¬ xiHttpCrlfX2 <+:
        13 :: (10 :: lineOf h ++ (linesOf hs ++ (xiHttpCrlfX2 ++ p))) := by
      rw [hl]
      rintro ⟨u, hu⟩
      simp only [xiHttpCrlfX2, List.cons_append, List.nil_append, List.cons.injEq, true_and] at hu
      exact hc hu.1.symm
    have hnext : 13 ∉ 10 :: lineOf h := by simpa using hh.cr_not_mem
    have hrest := ih hnext fun h' hh' => hhs h' (List.mem_cons_of_mem _ hh')
    have htext : linesOf (h :: hs) ++ (xiHttpCrlfX2 ++ p) =
        13 :: (10 :: lineOf h ++ (linesOf hs ++ (xiHttpCrlfX2 ++ p))) := by
      simp [linesOf, xiHttpCrlf]
    have hlen : (linesOf (h :: hs)).length =
        1 + ((10 :: lineOf h).length + (linesOf hs).length) := by
      simp [linesOf, xiHttpCrlf]
      omega
    have hskip : strstr xiHttpCrlfX2 (a ++ (linesOf (h :: hs) ++ (xiHttpCrlfX2 ++ p))) =
        (strstr xiHttpCrlfX2 (linesOf (h :: hs) ++ (xiHttpCrlfX2 ++ p))).map (a.length + ·) :=
      strstr_append ha _
    rw [hskip, htext, strstr_cons hno, hrest, hlen]
    simp only [Option.map_some]
    congr 1
    omega

/-! ### One line -/

section Line

variable {r : HttpResponse}

lemma lineOf_eq (h : Text × Text) : lineOf h = h.1 ++ 58 :: 32 :: h.2 := by simp [lineOf]

lemma PlainHeader.headerMoved_line (hh : PlainHeader h) (t : Text) :
    headerMoved (lineOf h ++ xiHttpCrlf ++ t) = some ((lineOf h).length + 2) := by
  obtain ⟨hname, hvalue⟩ := hh.fits
  have hcr := hh.cr_not_mem
  rw [lineOf_eq] at hcr ⊢
  exact Headers.headerMoved_line hname (fun hc => (hh.name_bytes _ hc).1 rfl) hvalue hcr t

/-- A plain header is stored as it is. -/
lemma parseHttpHeader_plain (hh : PlainHeader h) (t : Text)
    (hslot : r.httpHeadersSize + 1 < xiHttpMaxHeaders) (e : XiErr) :
    parseHttpHeader (lineOf h ++ xiHttpCrlf ++ t) e r = .ret (some ((lineOf h).length + 2)) e
      (storeHeader r ⟨r.httpHeadersSize, by omega⟩ h.1 h.2) := by
  obtain ⟨hname, hvalue⟩ := hh.fits
  have hcr := hh.cr_not_mem
  rw [lineOf_eq] at hcr ⊢
  exact parseHttpHeader_line hname (fun hc => (hh.name_bytes _ hc).1 rfl) hvalue hcr t hslot e

end Line

/-! ### The header loop -/

/-- What the header loop leaves alone. -/
def front (r : HttpResponse) : ℤ × ℤ × ℤ × Buf xiHttpStatusStringSize × Bool :=
  (r.httpVersion1, r.httpVersion2, r.httpStatus, r.httpStatusString, r.statusOverrun)

/-- The headers stand in the slots of a response from a number on, in order. -/
def HeldFrom (n : ℕ) (hs : List (Text × Text)) (r : HttpResponse) : Prop :=
  ∀ i (hi : i < hs.length) (slot : Fin xiHttpMaxHeaders), slot.val = n + i →
    cstr (r.httpHeaders slot).name = some hs[i].1 ∧
    cstr (r.httpHeaders slot).value = some hs[i].2

/-- A response with headers behind the ones it had. -/
structure Filled (r : HttpResponse) (hs : List (Text × Text)) (r' : HttpResponse) : Prop where
  front_eq : front r' = front r
  size : r'.httpHeadersSize = r.httpHeadersSize + hs.length
  before : ∀ slot, slot.val < r.httpHeadersSize → r'.httpHeaders slot = r.httpHeaders slot
  held : HeldFrom r.httpHeadersSize hs r'

/-- The slots that are not in use are still cleared. -/
def Cleared (r : HttpResponse) : Prop :=
  ∀ slot : Fin xiHttpMaxHeaders, r.httpHeadersSize ≤ slot → r.httpHeaders slot = .zero

lemma filled_nil (r : HttpResponse) : Filled r [] r :=
  ⟨rfl, rfl, fun _ _ => rfl, fun _ hi => absurd hi (Nat.not_lt_zero _)⟩

lemma cstr_plain {n : ℕ} {t : Text} (h0 : ∀ c ∈ t, c ≠ 0) (h : t.length < n) :
    cstr (storeField (zero n) t) = some t :=
  cstr_storeField (fun hc => h0 0 hc rfl) h

section Store

variable {r : HttpResponse} {slot : Fin xiHttpMaxHeaders}

lemma storeHeader_cleared (hr : Cleared r) (hslot : slot.val = r.httpHeadersSize) :
    Cleared (storeHeader r slot h.1 h.2) := by
  intro slot' hle
  have hne : slot' ≠ slot := by
    rintro rfl
    simp [storeHeader] at hle
  have hsize : r.httpHeadersSize ≤ slot' := by
    simp only [storeHeader] at hle
    omega
  simp only [storeHeader, Function.update_of_ne hne]
  exact hr slot' hsize

lemma Filled.cons {r' : HttpResponse} (hh : PlainHeader h) (hr : Cleared r)
    (hslot : slot.val = r.httpHeadersSize) (hrest : Filled (storeHeader r slot h.1 h.2) hs r') :
    Filled r (h :: hs) r' := by
  have hsize : (storeHeader r slot h.1 h.2).httpHeadersSize = r.httpHeadersSize + 1 := by
    simp only [storeHeader, hslot]
  obtain ⟨hname, hvalue⟩ := hh.fits
  refine ⟨hrest.front_eq, ?_, fun slot' hlt => ?_, ?_⟩
  · rw [hrest.size, hsize, List.length_cons]
    omega
  · have hne : slot' ≠ slot := by
      rintro rfl
      omega
    rw [hrest.before slot' (by omega)]
    simp only [storeHeader, Function.update_of_ne hne]
  · intro i hi slot' hslot'
    cases i with
    | zero =>
      obtain rfl : slot' = slot := Fin.ext (by omega)
      rw [hrest.before slot' (by omega)]
      simp only [storeHeader, Function.update_self, hr slot' (by omega), HttpHeader.zero]
      exact ⟨cstr_plain (fun c hc => (hh.name_bytes c hc).2.2.2) hname,
        cstr_plain (fun c hc => (hh.value_bytes c hc).2.2) hvalue⟩
    | succ i => exact hrest.held i (by simpa using hi) slot' (by omega)

end Store

/-- The loop reads the headers one after the other, and stops behind the last of them. -/
lemma headerLoop_reads {content rest : Text} {headersEnd k ptr : ℕ} {r : HttpResponse}
    (hne : hs ≠ []) (hhs : ∀ h ∈ hs, PlainHeader h)
    (htext : content.drop ptr = headerSection hs ++ rest)
    (hend : headersEnd = ptr + (headerSection hs).length) (hk : hs.length ≤ k)
    (hsize : r.httpHeadersSize + hs.length < xiHttpMaxHeaders) (hr : Cleared r) :
    ∃ r', Filled r hs r' ∧ ∀ e, headerLoop content headersEnd k ptr e r = .ret true e r' := by
  induction hs generalizing k ptr r with
  | nil => exact absurd rfl hne
  | cons h hs ih =>
    obtain ⟨k, rfl⟩ : ∃ j, k = j + 1 := ⟨k - 1, by rw [List.length_cons] at hk; omega⟩
    have hh := hhs h (List.mem_cons_self ..)
    rw [List.length_cons] at hk hsize
    have hrun := parseHttpHeader_plain hh (headerSection hs ++ rest)
      (show r.httpHeadersSize + 1 < xiHttpMaxHeaders by omega)
    rw [← drop_section htext] at hrun
    have hstep (e : XiErr) := headerLoop_moved headersEnd k (hrun e)
    simp only [next_eq_iff hend] at hstep
    cases hs with
    | nil => exact ⟨_, (filled_nil _).cons hh hr rfl, fun e => (hstep e).trans (if_pos rfl)⟩
    | cons h' hs =>
      have hlength := length_headerSection_cons h (h' :: hs)
      have hleft : (storeHeader r ⟨r.httpHeadersSize, by omega⟩ h.1 h.2).httpHeadersSize +
          (h' :: hs).length < xiHttpMaxHeaders := by
        simp only [storeHeader]
        omega
      obtain ⟨r', hfilled, hloop⟩ := ih (k := k) (List.cons_ne_nil _ _)
        (fun x hx => hhs x (List.mem_cons_of_mem _ hx)) (drop_next htext) (by omega) (by omega)
        hleft (storeHeader_cleared hr rfl)
      exact ⟨r', hfilled.cons hh hr rfl, fun e =>
        (hstep e).trans ((if_neg (List.cons_ne_nil _ _)).trans (hloop e))⟩

/-! ### The status line -/

lemma scan_number {n : ℕ} {rest : Text} {fs : List Directive} (hn : n < 10 ^ 9)
    (hstop : ∀ c ∈ rest.head?, isDigit c = false) :
    scan (.int none :: fs) (digits n ++ rest) = .int n :: scan fs rest := by
  rw [scan_int_digits (digits_ne_nil n) (fun _ => isDigit_of_mem_digits) (by simp) (.inr hstop),
    value_digits, toInt32_eq (by omega) (by omega)]

lemma skipSpace_digits (n : ℕ) (rest : Text) :
    skipSpace (32 :: (digits n ++ rest)) = digits n ++ rest := by
  obtain ⟨d, ds, hds⟩ := List.exists_cons_of_ne_nil (digits_ne_nil n)
  have hd : isDigit d = true :=
    @isDigit_of_mem_digits n d (by rw [hds]; exact List.mem_cons_self ..)
  rw [skipSpace_cons_space (by decide), hds, List.cons_append,
    skipSpace_cons (isSpace_of_isDigit hd)]

variable {reply : Reply}

lemma scan_statusLine (hp : reply.Plain) (rest : Text) :
    scan xiHttpStatusPattern (reply.statusLine ++ 13 :: rest) =
      [.int reply.version1, .int reply.version2, .int reply.status, .str reply.reason] := by
  have hhttp : lit "HTTP/" = [72, 84, 84, 80, 47] := by decide
  have hdot : lit "." = [46] := by decide
  have hblank : lit " " = [32] := by decide
  have htext : reply.statusLine ++ 13 :: rest = 72 :: 84 :: 84 :: 80 :: 47 ::
      (digits reply.version1 ++ 46 :: (digits reply.version2 ++ 32 :: (digits reply.status ++
        32 :: (reply.reason ++ 13 :: rest)))) := by
    simp [Reply.statusLine, hhttp, hdot, hblank]
  have hreason : reply.reason ≠ [] := by
    intro hnil
    have := hp.reason_length.1
    simp [hnil] at this
  obtain ⟨c, t, ht⟩ := List.exists_cons_of_ne_nil hreason
  have hc : isSpace c = false := hp.reason_head c (by rw [ht]; rfl)
  have hphrase : skipSpace (32 :: (reply.reason ++ 13 :: rest)) = reply.reason ++ 13 :: rest := by
    rw [skipSpace_cons_space (by decide), ht, List.cons_append, skipSpace_cons hc]
  have hwidth : reply.reason.length ≤ xiHttpStatusStringSize :=
    hp.reason_length.2.trans (by decide)
  have hstop : ∀ c ∈ reply.reason, c ∉ [(13 : Byte), 10] := by
    intro c hc
    obtain ⟨h13, h10, -⟩ := hp.reason_bytes c hc
    simp [h13, h10]
  rw [htext, xiHttpStatusPattern]
  simp only [scan_lit_cons]
  rw [scan_number hp.version1 (by rintro _ ⟨⟩; decide), scan_lit_cons,
    scan_number hp.version2 (by rintro _ ⟨⟩; decide), scan_space, skipSpace_digits,
    scan_number hp.status (by rintro _ ⟨⟩; decide), scan_space, hphrase,
    scan_set hreason hstop hwidth (by rintro _ ⟨⟩; decide), scan_space, scan_nil]

lemma cr_not_mem_statusLine (hreason : 13 ∉ reply.reason) : 13 ∉ reply.statusLine := by
  have hdigits (n : ℕ) : 13 ∉ digits n := fun hc => absurd (isDigit_of_mem_digits hc) (by decide)
  simp only [Reply.statusLine, List.mem_append, not_or]
  exact ⟨⟨⟨⟨⟨⟨⟨by decide, hdigits _⟩, by decide⟩, hdigits _⟩, by decide⟩, hdigits _⟩, by decide⟩,
    hreason⟩

/-! ### The reply -/

/-- A response that holds what a reply says. -/
structure Holds (reply : Reply) (r : HttpResponse) : Prop where
  version1 : r.httpVersion1 = reply.version1
  version2 : r.httpVersion2 = reply.version2
  status : r.httpStatus = reply.status
  reason : cstr r.httpStatusString = some reply.reason
  overrun : r.statusOverrun = false
  size : r.httpHeadersSize = reply.headers.length
  headers : HeldFrom 0 reply.headers r
  content : cstr r.httpContent = some reply.payload

/-- A reason with room for its terminator is stored as a string, and inside the array. -/
lemma storeStatus_reason {reason : Text} (h0 : 0 ∉ reason)
    (hlen : reason.length < xiHttpStatusStringSize) (a b c : ℤ) (r : HttpResponse) :
    cstr (storeStatus [.int a, .int b, .int c, .str reason] r).httpStatusString = some reason ∧
    (storeStatus [.int a, .int b, .int c, .str reason] r).statusOverrun = r.statusOverrun := by
  have hroom : (reason ++ [0]).length ≤ xiHttpStatusStringSize := by
    rw [List.length_append]
    exact hlen
  refine ⟨cstr_of_starts h0 ?_, ?_⟩
  · rw [storeStatus, List.take_of_length_le hroom, bytes_put (by omega), List.take_zero,
      List.nil_append]
    exact List.prefix_append _ _
  · rw [storeStatus, decide_eq_false (not_le.mpr hlen), Bool.or_false]

/-- What the scan of the status line stores. -/
lemma storeStatus_plain (hp : reply.Plain) : ∃ r, storeStatus [.int reply.version1,
    .int reply.version2, .int reply.status, .str reply.reason] .zero = r ∧ Cleared r ∧
    r.httpHeadersSize = 0 ∧ r.httpVersion1 = reply.version1 ∧ r.httpVersion2 = reply.version2 ∧
    r.httpStatus = reply.status ∧ cstr r.httpStatusString = some reply.reason ∧
    r.statusOverrun = false := by
  have hlen : reply.reason.length < xiHttpStatusStringSize :=
    lt_of_le_of_lt hp.reason_length.2 (by decide)
  have h0 : 0 ∉ reply.reason := fun hc => (hp.reason_bytes 0 hc).2.2 rfl
  obtain ⟨hreason, hoverrun⟩ :=
    storeStatus_reason h0 hlen reply.version1 reply.version2 reply.status .zero
  exact ⟨_, rfl, fun _ _ => rfl, rfl, rfl, rfl, rfl, hreason, hoverrun⟩

section Head

variable (hcr : 13 ∉ reply.statusLine) (hhs : ∀ h ∈ reply.headers, PlainHeader h)

lemma Reply.text_status (reply : Reply) : reply.text = reply.statusLine ++ xiHttpCrlf ++
    (headerSection reply.headers ++ (xiHttpCrlf ++ reply.payload)) := by
  simp [Reply.text]

include hcr in
lemma strstr_statusEnd : strstr xiHttpCrlf reply.text = some reply.statusLine.length := by
  rw [reply.text_status]
  exact strstr_append_self hcr _

include hcr hhs in
lemma strstr_headersEnd : strstr xiHttpCrlfX2 reply.text =
    some (reply.statusLine.length + (linesOf reply.headers).length) := by
  rw [Reply.text_eq]
  exact strstr_emptyLine hcr hhs reply.payload

lemma drop_statusLine (reply : Reply) : reply.text.drop (reply.statusLine.length + 2) =
    headerSection reply.headers ++ (xiHttpCrlf ++ reply.payload) := by
  rw [reply.text_status]
  exact List.drop_left' (by rw [List.length_append]; rfl)

lemma length_linesOf (hs : List (Text × Text)) :
    (linesOf hs).length = (headerSection hs).length := by
  have hlen := congrArg List.length (crlf_headerSection hs)
  rw [List.length_append, List.length_append] at hlen
  omega

lemma storeStatus_cleared (items : List Item) : Cleared (storeStatus items .zero) ∧
    (storeStatus items .zero).httpHeadersSize = 0 := by
  unfold storeStatus
  split <;> exact ⟨fun _ _ => rfl, rfl⟩

include hcr hhs in
/-- The head of a reply with headers for which there are slots is read to its end. -/
lemma parseHead_reads (hscan : (scan xiHttpStatusPattern reply.text).length = 4)
    (hlen : 1 ≤ reply.headers.length ∧ reply.headers.length ≤ xiHttpMaxHeaders - 1) :
    ∃ r', (∀ e r, parseHead reply.text e r =
      .ret (reply.statusLine.length + (linesOf reply.headers).length + 4) e r') ∧
      Filled (storeStatus (scan xiHttpStatusPattern reply.text) .zero) reply.headers r' := by
  have hmax : xiHttpMaxHeaders = 16 := rfl
  have hlength := length_linesOf reply.headers
  obtain ⟨hcleared, hsize⟩ := storeStatus_cleared (scan xiHttpStatusPattern reply.text)
  have hne : reply.headers ≠ [] := fun hnil => by simp [hnil] at hlen
  have hsection : reply.statusLine.length + (linesOf reply.headers).length + 2 =
      reply.statusLine.length + 2 + (headerSection reply.headers).length := by omega
  obtain ⟨r', hfilled, hloop⟩ := headerLoop_reads (k := xiHttpMaxHeaders) hne hhs
    (drop_statusLine reply) hsection (by omega) (by omega) hcleared
  refine ⟨r', fun e r => ?_, hfilled⟩
  simp [parseHead, strstr_headersEnd hcr hhs, parseHttpStatus_good (strstr_statusEnd hcr) hscan,
    hloop]

end Head

/-- The status line of a reply, and what the scan reads of it. -/
lemma scan_text (hp : reply.Plain) : scan xiHttpStatusPattern reply.text =
    [.int reply.version1, .int reply.version2, .int reply.status, .str reply.reason] := by
  have hline := scan_statusLine hp
    (10 :: (headerSection reply.headers ++ (xiHttpCrlf ++ reply.payload)))
  rw [reply.text_status]
  simpa [xiHttpCrlf] using hline

lemma parseHead_text (hp : reply.Plain) : ∃ r', (∀ e r, parseHead reply.text e r =
    .ret (reply.statusLine.length + (linesOf reply.headers).length + 4) e r') ∧
    Filled (storeStatus [.int reply.version1, .int reply.version2, .int reply.status,
      .str reply.reason] .zero) reply.headers r' := by
  have hscan := scan_text hp
  have hcr : 13 ∉ reply.statusLine :=
    cr_not_mem_statusLine fun hc => (hp.reason_bytes _ hc).1 rfl
  have hreads := parseHead_reads hcr hp.headers (by rw [hscan]; rfl) hp.headers_length
  rwa [hscan] at hreads

/-- **Replies are read back**: the parser accepts a written reply, and its response holds the
versions, the status, the reason, the headers in their order and the payload of that reply. -/
theorem parseHttp_text (reply : Reply) (hp : reply.Plain) (r : HttpResponse) :
    ∃ r', parseHttp reply.text .noErr r = .ret true .noErr r' ∧ Holds reply r' := by
  obtain ⟨r', hhead, hfilled⟩ := parseHead_text hp
  obtain ⟨r₀, hr₀, -, hsize, hv1, hv2, hstatus, hreason, hoverrun⟩ := storeStatus_plain hp
  rw [hr₀] at hfilled
  have hdrop : reply.text.drop
      (reply.statusLine.length + (linesOf reply.headers).length + 4) = reply.payload := by
    rw [Reply.text_eq, ← List.append_assoc, ← List.append_assoc]
    refine List.drop_left' ?_
    rw [List.length_append, List.length_append]
    rfl
  have hfront := hfilled.front_eq
  simp only [front, Prod.mk.injEq] at hfront
  obtain ⟨h1, h2, h3, h4, h5⟩ := hfront
  refine ⟨{ r' with httpContent := strncpy _ reply.payload }, ?_, ?_⟩
  · simp [parseHttp, errHandling, hhead, xiGetLastError, hdrop]
  · exact {
      version1 := h1.trans hv1
      version2 := h2.trans hv2
      status := h3.trans hstatus
      reason := by rw [← hreason, ← h4]
      overrun := h5.trans hoverrun
      size := by rw [← Nat.zero_add reply.headers.length, ← hsize, ← hfilled.size]
      headers := by
        have hheld := hfilled.held
        rw [hsize] at hheld
        exact hheld
      content := cstr_strncpy hp.payload_bytes hp.payload_length }

/-- A reply with an empty value, and with line ends and a colon in its payload. -/
def twoHeaders : Reply where
  version1 := 1
  version2 := 1
  status := 200
  reason := lit "OK"
  headers := [(lit "Age", lit "1"), (lit "Vary", [])]
  payload := lit "a:b\r\n\r\n1"

lemma plain_twoHeaders : twoHeaders.Plain where
  version1 := by decide
  version2 := by decide
  status := by decide
  reason_length := by decide
  reason_bytes := by decide +kernel
  reason_head := by rintro _ ⟨⟩; decide
  headers_length := by decide
  headers := by
    intro h hh
    rcases List.mem_pair.mp hh with rfl | rfl
    · exact ⟨by decide, by decide +kernel, by decide, by decide +kernel⟩
    · exact ⟨by decide, by decide +kernel, by decide, by decide +kernel⟩
  payload_length := by decide
  payload_bytes := by decide

theorem parseHttp_text_twoHeaders : ∃ r',
    parseHttp (lit "HTTP/1.1 200 OK\r\nAge: 1\r\nVary: \r\n\r\na:b\r\n\r\n1") .noErr .zero =
      .ret true .noErr r' ∧
    r'.httpHeadersSize = 2 ∧ cstr (r'.httpHeaders 1).name = some (lit "Vary") ∧
    cstr r'.httpContent = some (lit "a:b\r\n\r\n1") := by
  obtain ⟨r', hrun, hholds⟩ := parseHttp_text twoHeaders plain_twoHeaders .zero
  have htext : twoHeaders.text =
      lit "HTTP/1.1 200 OK\r\nAge: 1\r\nVary: \r\n\r\na:b\r\n\r\n1" := by decide +kernel
  rw [htext] at hrun
  have hvary := hholds.headers 1 (by decide) 1 rfl
  exact ⟨r', hrun, hholds.size, hvary.1, hholds.content⟩

end LibXively.Render
