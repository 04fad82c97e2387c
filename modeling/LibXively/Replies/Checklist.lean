import LibXively.Replies.HeaderCount

/-!
The checklist of the headers, and the kinds of headers it knows.

The names of the kinds stand in a table, in the order of the enumeration up to the sixth kind, and
the search in the table ends there. A header of one of the three last kinds is stored as an unknown
one, and is not entered in the checklist.
-/

namespace LibXively.Checklist

open LibXively.Bytes LibXively.Scanf LibXively.CProc LibXively.CharArray LibXively.Structures
open LibXively.Framing LibXively.HttpParser LibXively.Headers LibXively.Head LibXively.Render
open LibXively.HeaderCount

/-! ### Kinds of headers -/

/-- The name of a kind, as the enumeration gives it. -/
def documentedName : HttpHeaderType → Text
  | .date => lit "Date"
  | .contentType => lit "Content-Type"
  | .contentLength => lit "Content-Length"
  | .connection => lit "Connection"
  | .xRequestId => lit "X-Request-Id"
  | .cacheControl => lit "Cache-Control"
  | .vary => lit "Vary"
  | .count => lit "Count"
  | .age => lit "Age"
  | .unknown => []

def documentedKinds : List HttpHeaderType :=
  [.date, .contentType, .contentLength, .connection, .xRequestId, .cacheControl, .vary, .count,
    .age]

/-- The name is that of a kind, compared without case. -/
def Named (kind : HttpHeaderType) (name : Text) : Prop :=
  strcasecmpEq name (documentedName kind) = true

instance (kind : HttpHeaderType) (name : Text) : Decidable (Named kind name) :=
  inferInstanceAs (Decidable (_ = true))

/-- The kind whose name it is. -/
def documentedType (name : Text) : HttpHeaderType :=
  (documentedKinds.find? fun kind => strcasecmpEq name (documentedName kind)).getD .unknown

/-- The kinds whose names the search does not get to. -/
def unsearched : List HttpHeaderType := [.vary, .count, .age]

lemma named_iff {kind : HttpHeaderType} {name : Text} :
    Named kind name ↔ name.map toLower = (documentedName kind).map toLower := by
  rw [Named, strcasecmpEq, beq_iff_eq]

/-- Neither the search nor the kind depends on the case of a name. -/
lemma strcasecmpEq_congr {a b : Text} (h : a.map toLower = b.map toLower) :
    strcasecmpEq a = strcasecmpEq b := by
  funext c
  rw [strcasecmpEq, strcasecmpEq, h]

lemma classifyHeader_congr {a b : Text} (h : a.map toLower = b.map toLower) :
    classifyHeader a = classifyHeader b := by
  rw [classifyHeader, classifyHeader, strcasecmpEq_congr h]

lemma documentedType_congr {a b : Text} (h : a.map toLower = b.map toLower) :
    documentedType a = documentedType b := by
  rw [documentedType, documentedType, strcasecmpEq_congr h]

lemma documentedType_eq_iff {kind : HttpHeaderType} (hkind : kind ≠ .unknown) {name : Text} :
    documentedType name = kind ↔ Named kind name := by
  constructor
  · rintro rfl
    rw [documentedType] at hkind ⊢
    cases hfind : documentedKinds.find? fun kind => strcasecmpEq name (documentedName kind) with
    | none => rw [hfind] at hkind; exact absurd rfl hkind
    | some kind => simpa [Named] using List.find?_some hfind
  · intro hnamed
    rw [documentedType_congr (named_iff.mp hnamed)]
    cases kind with
    | unknown => exact absurd rfl hkind
    | _ => decide +kernel

/-- The search finds the kinds whose names it gets to, and no others. -/
lemma classifyHeader_eq (name : Text) : classifyHeader name =
    if documentedType name ∈ unsearched then .unknown else documentedType name := by
  by_cases hkind : documentedType name = .unknown
  · -- every name in the searched part of the table is that of a kind
    have htable : ∀ x ∈ xiHttpTokenNames.take (xiHttpHeaderCount - 1), ∃ kind,
        kind ≠ .unknown ∧ x.map toLower = (documentedName kind).map toLower := by
      have hall : ∀ x ∈ xiHttpTokenNames.take (xiHttpHeaderCount - 1), ∃ kind ∈ documentedKinds,
          x.map toLower = (documentedName kind).map toLower := by decide +kernel
      intro x hx
      obtain ⟨kind, hmem, hlower⟩ := hall x hx
      refine ⟨kind, ?_, hlower⟩
      rintro rfl
      exact absurd hmem (by decide)
    have hnone : (xiHttpTokenNames.take (xiHttpHeaderCount - 1)).findIdx? (strcasecmpEq name) =
        none := by
      refine List.findIdx?_eq_none_iff.mpr fun x hx => ?_
      obtain ⟨kind, hne, hlower⟩ := htable x hx
      by_contra heq
      rw [Bool.not_eq_false, strcasecmpEq, beq_iff_eq, hlower, ← named_iff,
        ← documentedType_eq_iff hne, hkind] at heq
      exact hne heq.symm
    rw [classifyHeader, hnone, hkind]
    decide
  · have hlower := named_iff.mp ((documentedType_eq_iff hkind).mp rfl)
    generalize documentedType name = kind at hkind hlower
    rw [classifyHeader_congr hlower]
    cases kind with
    | unknown => exact absurd rfl hkind
    | _ => decide +kernel

/-! ### The checklist -/

/-- A header in a slot carries the name of a kind. -/
def Carries (header : HttpHeader) (kind : HttpHeaderType) : Prop :=
  ∃ name, cstr header.name = some name ∧ Named kind name

/-- The checklist points to the last header of each kind, and every header has the type of the
kind whose name it carries. -/
structure ChecklistRight (r : HttpResponse) : Prop where
  null : ∀ kind ≠ .unknown, r.httpHeadersChecklist kind = none ↔
    ∀ i, i.val < r.httpHeadersSize → ¬ Carries (r.httpHeaders i) kind
  last : ∀ kind ≠ .unknown, ∀ i, r.httpHeadersChecklist kind = some i →
    i.val < r.httpHeadersSize ∧ Carries (r.httpHeaders i) kind ∧
      ∀ j, i < j → j.val < r.httpHeadersSize → ¬ Carries (r.httpHeaders j) kind
  types : ∀ i, i.val < r.httpHeadersSize → ∀ name, cstr (r.httpHeaders i).name = some name →
    (r.httpHeaders i).headerType = documentedType name

/-- What holds of a response behind headers of the given names, with the kinds as the search finds
them. -/
structure Indexed (names : List Text) (r : HttpResponse) : Prop where
  size : r.httpHeadersSize = names.length
  length_le : names.length ≤ xiHttpMaxHeaders
  cleared : Cleared r
  stored : ∀ (i : Fin xiHttpMaxHeaders) name, names[i.val]? = some name →
    cstr (r.httpHeaders i).name = some name ∧ (r.httpHeaders i).headerType = classifyHeader name
  null : ∀ kind ≠ .unknown, r.httpHeadersChecklist kind = none ↔
    ∀ name ∈ names, classifyHeader name ≠ kind
  last : ∀ kind ≠ .unknown, ∀ i, r.httpHeadersChecklist kind = some i →
    names[i.val]?.map classifyHeader = some kind ∧
      ∀ j, i.val < j → names[j]?.map classifyHeader ≠ some kind

variable {names : List Text} {r : HttpResponse} {name value : Text}

lemma checklist_storeHeader {slot : Fin xiHttpMaxHeaders} (h0 : 0 ∉ name)
    (hlen : name.length < xiHttpHeaderNameMaxSize) (hslot : r.httpHeaders slot = .zero)
    {kind : HttpHeaderType} (hkind : kind ≠ .unknown) :
    (storeHeader r slot name value).httpHeadersChecklist kind =
      if classifyHeader name = kind then some slot else r.httpHeadersChecklist kind := by
  have hname : cstr (storeField (r.httpHeaders slot).name name) = some name := by
    rw [hslot]
    exact cstr_storeField h0 hlen
  simp only [storeHeader, hname, Option.getD_some]
  by_cases heq : classifyHeader name = kind
  · rw [if_pos heq, heq, if_pos hkind, Function.update_self]
  · rw [if_neg heq]
    split
    · rw [Function.update_of_ne (Ne.symm heq)]
    · rfl

lemma getElem?_snoc_of_ne {i : ℕ} (hi : i ≠ names.length) :
    (names ++ [name])[i]? = names[i]? := by
  rcases Nat.lt_or_gt_of_ne hi with hlt | hgt
  · rw [List.getElem?_append_left hlt]
  · rw [List.getElem?_eq_none (by simp; omega), List.getElem?_eq_none (by omega)]

lemma lt_of_kind {i : ℕ} {kind : HttpHeaderType}
    (h : names[i]?.map classifyHeader = some kind) : i < names.length := by
  by_contra hge
  rw [List.getElem?_eq_none (by omega)] at h
  cases h

/-- One more name is the last of its kind. -/
lemma last_snoc_self (names : List Text) (name : Text) :
    (names ++ [name])[names.length]?.map classifyHeader = some (classifyHeader name) ∧
      ∀ j, names.length < j →
        (names ++ [name])[j]?.map classifyHeader ≠ some (classifyHeader name) := by
  refine ⟨by simp, fun j hj hkind => ?_⟩
  have hlt := lt_of_kind hkind
  rw [List.length_append, List.length_singleton] at hlt
  omega

/-- The last name of another kind stays the last of that kind. -/
lemma last_snoc_of_ne {i : ℕ} {kind : HttpHeaderType} (hne : classifyHeader name ≠ kind)
    (h : names[i]?.map classifyHeader = some kind ∧
      ∀ j, i < j → names[j]?.map classifyHeader ≠ some kind) :
    (names ++ [name])[i]?.map classifyHeader = some kind ∧
      ∀ j, i < j → (names ++ [name])[j]?.map classifyHeader ≠ some kind := by
  refine ⟨by rw [getElem?_snoc_of_ne (lt_of_kind h.1).ne, h.1], fun j hj => ?_⟩
  by_cases hlast : j = names.length
  · rw [hlast, (last_snoc_self names name).1, ne_eq, Option.some.injEq]
    exact hne
  · rw [getElem?_snoc_of_ne hlast]
    exact h.2 j hj

/-- One more header. -/
lemma Indexed.store (h : Indexed names r) (h0 : 0 ∉ name)
    (hlen : name.length < xiHttpHeaderNameMaxSize) {slot : Fin xiHttpMaxHeaders}
    (hslot : slot.val = r.httpHeadersSize) :
    Indexed (names ++ [name]) (storeHeader r slot name value) := by
  have hval : slot.val = names.length := hslot.trans h.size
  have hcleared : r.httpHeaders slot = .zero := h.cleared slot hslot.ge
  have hname : cstr (storeField (r.httpHeaders slot).name name) = some name := by
    rw [hcleared]
    exact cstr_storeField h0 hlen
  have hnew : (names ++ [name])[slot.val]? = some name := by rw [hval]; simp
  have hlist {kind : HttpHeaderType} (hkind : kind ≠ .unknown) :=
    @checklist_storeHeader r name value slot h0 hlen hcleared kind hkind
  constructor
  · simp [storeHeader, hval]
  · rw [List.length_append, List.length_singleton, ← hval]
    exact slot.isLt
  · exact storeHeader_cleared (h := (name, value)) h.cleared hslot
  · intro i n hi
    by_cases heq : i = slot
    · subst heq
      obtain rfl := Option.some.inj (hnew.symm.trans hi)
      simp [storeHeader, hname]
    · have hne : i.val ≠ names.length := fun hi => heq (Fin.ext (hi.trans hval.symm))
      rw [getElem?_snoc_of_ne hne] at hi
      simpa [storeHeader, Function.update_of_ne heq] using h.stored i n hi
  · intro kind hkind
    rw [hlist hkind]
    split
    · next heq => simp [heq]
    · next hne =>
      rw [h.null kind hkind]
      simp [or_imp, forall_and, hne]
  · intro kind hkind i hi
    rw [hlist hkind] at hi
    split at hi
    · next heq =>
      cases hi
      rw [hval, ← heq]
      exact last_snoc_self names name
    · next hne => exact last_snoc_of_ne hne (h.last kind hkind i hi)

/-- A response with no headers. -/
lemma indexed_status (items : List Item) : Indexed [] (storeStatus items .zero) := by
  obtain ⟨hcleared, hsize⟩ := storeStatus_cleared items
  have hlist : (storeStatus items .zero).httpHeadersChecklist = fun _ => none := by
    unfold storeStatus
    split <;> rfl
  refine ⟨hsize, Nat.zero_le _, hcleared, fun i n hi => by simp at hi,
    fun kind _ => by simp [hlist], fun kind _ i hi => ?_⟩
  rw [hlist] at hi
  cases hi

/-- Where the search finds every name as what it is, a header carries the name of the kind it is
found as. -/
lemma Indexed.carries_iff (h : Indexed names r)
    (hfound : ∀ name ∈ names, classifyHeader name = documentedType name)
    {kind : HttpHeaderType} (hkind : kind ≠ .unknown) {i : Fin xiHttpMaxHeaders}
    (hi : i.val < names.length) :
    Carries (r.httpHeaders i) kind ↔ names[i.val]?.map classifyHeader = some kind := by
  have hget : names[i.val]? = some names[i.val] := List.getElem?_eq_getElem hi
  obtain ⟨hname, -⟩ := h.stored i _ hget
  rw [hget, Option.map_some, Option.some.injEq, hfound _ (List.getElem_mem hi),
    documentedType_eq_iff hkind, Carries]
  constructor
  · rintro ⟨n, hn, hnamed⟩
    rw [hname] at hn
    cases hn
    exact hnamed
  · exact fun hnamed => ⟨_, hname, hnamed⟩

/-- The checklist is right exactly if the search finds every name as what it is. -/
lemma Indexed.checklistRight_iff (h : Indexed names r) :
    ChecklistRight r ↔ ∀ name ∈ names, classifyHeader name = documentedType name := by
  have hsize := h.size
  constructor
  · intro hright name hname
    obtain ⟨j, hj, rfl⟩ := List.mem_iff_getElem.mp hname
    have hle := h.length_le
    obtain ⟨hcstr, htype⟩ := h.stored ⟨j, by omega⟩ names[j] (List.getElem?_eq_getElem hj)
    exact htype.symm.trans (hright.types ⟨j, by omega⟩ (by rw [hsize]; exact hj) _ hcstr)
  · intro hfound
    constructor
    · intro kind hkind
      rw [h.null kind hkind]
      constructor
      · intro hno i hi hcarries
        rw [hsize] at hi
        rw [h.carries_iff hfound hkind hi, List.getElem?_eq_getElem hi, Option.map_some,
          Option.some.injEq] at hcarries
        exact hno _ (List.getElem_mem hi) hcarries
      · intro hno name hname heq
        obtain ⟨j, hj, rfl⟩ := List.mem_iff_getElem.mp hname
        have hle := h.length_le
        refine hno ⟨j, by omega⟩ (by rw [hsize]; exact hj) ((h.carries_iff hfound hkind hj).mpr ?_)
        rw [List.getElem?_eq_getElem hj, Option.map_some, heq]
    · intro kind hkind i hi
      obtain ⟨hkindi, hlast⟩ := h.last kind hkind i hi
      have hlt := lt_of_kind hkindi
      refine ⟨by omega, (h.carries_iff hfound hkind hlt).mpr hkindi, fun j hj hjlt hcarries => ?_⟩
      rw [h.carries_iff hfound hkind (by omega)] at hcarries
      exact hlast j hj hcarries
    · intro i hi name hname
      rw [hsize] at hi
      obtain ⟨hcstr, htype⟩ := h.stored i _ (List.getElem?_eq_getElem hi)
      obtain rfl := Option.some.inj (hcstr.symm.trans hname)
      rw [htype, hfound _ (List.getElem_mem hi)]

/-! ### The loop -/

/-- The name in front of the colon of a header line. -/
def nameOf (line : Text) : Text := line.takeWhile (· ≠ 58)

/-- The front of a text up to a place behind its first colon. -/
lemma take_colon {t : Text} {i j : ℕ} (hj : strstr [58] t = some j) (hlt : j < i) :
    ∃ value, t.take i = t.take j ++ 58 :: value := by
  obtain ⟨hsplit, -⟩ := strstr_singleton hj
  have hlen : (t.take j).length = j := by
    have hle := (strstr_some hj).2.1
    rw [List.length_take]
    omega
  obtain ⟨m, rfl⟩ : ∃ m, i = j + (m + 1) := ⟨i - j - 1, by omega⟩
  refine ⟨(t.drop (j + 1)).take m, ?_⟩
  conv_lhs => rw [hsplit]
  rw [List.take_append, hlen, List.take_of_length_le (by omega), Nat.add_sub_cancel_left,
    List.take_succ_cons]

lemma nameOf_colon {name : Text} (h : 58 ∉ name) (value : Text) :
    nameOf (name ++ 58 :: value) = name := by
  rw [nameOf, takeWhile_append_stop (by simp), List.takeWhile_eq_self_iff]
  intro c hc
  simpa using fun h58 : c = 58 => h (h58 ▸ hc)

/-- A call that succeeds has stored the name of the line in front of it. -/
lemma Indexed.line {t : Text} {m : ℕ} {e e' : XiErr} {r' : HttpResponse} (h : Indexed names r)
    (h0 : 0 ∉ t) (hrun : parseHttpHeader t e r = .ret (some m) e' r') : ∃ line,
      t = line ++ xiHttpCrlf ++ t.drop m ∧ OneLine line ∧ 58 ∈ line ∧ m = line.length + 2 ∧
      Indexed (names ++ [nameOf line]) r' := by
  obtain ⟨-, hslot, i, j, value, hi, hj, hfit, hlen, rfl, rfl⟩ := parseHttpHeader_some hrun
  obtain ⟨line, rest, ht, hline, rfl⟩ := line_of_strstr hi
  obtain ⟨behind, hcolon⟩ := take_colon hj (by omega : j < line.length)
  have htake : t.take line.length = line := by rw [ht, List.append_assoc, List.take_left]
  have hdrop : t.drop (line.length + 2) = rest := by
    rw [ht]
    exact List.drop_left' (by rw [List.length_append]; rfl)
  rw [htake] at hcolon
  have hname : nameOf line = t.take j := by
    rw [hcolon]
    exact nameOf_colon (strstr_singleton hj).2 behind
  refine ⟨line, by rw [hdrop, ← ht], hline, by rw [hcolon]; simp, rfl, ?_⟩
  rw [hname]
  exact h.store (fun hmem => h0 (List.mem_of_mem_take hmem))
    (lt_of_le_of_lt (List.length_take_le _ _) hlen) rfl

/-- A run that stops at the end of the headers has called `parse_http_header` at the start of each
line up to there, and stored the names of these lines. -/
lemma lines_of_loopRun {content : Text} {headersEnd ptr : ℕ} {e e' : XiErr} {r' : HttpResponse}
    {calls : List ℕ} (h0 : 0 ∉ content)
    (hrun : LoopRun content headersEnd ptr e r calls (.ret true e' r')) (h : Indexed names r) :
    ∃ ls, ls ≠ [] ∧ content.drop ptr = renderLines ls ++ content.drop headersEnd ∧
      headersEnd = ptr + (renderLines ls).length ∧ calls = lineStarts ptr ls ∧
      (∀ l ∈ ls, OneLine l ∧ 58 ∈ l) ∧ Indexed (names ++ ls.map nameOf) r' := by
  generalize ho : Outcome.ret true e' r' = o at hrun
  induction hrun generalizing names with
  | fault hcall => cases ho
  | refused hcall => cases ho
  | stopped hcall hend =>
    cases ho
    obtain ⟨line, ht, hline, hcolon, rfl, hnext⟩ :=
      h.line (fun hmem => h0 (List.mem_of_mem_drop hmem)) hcall
    rw [List.drop_drop, hend] at ht
    refine ⟨[line], List.cons_ne_nil _ _, ?_, ?_, rfl, by simp [hline, hcolon], hnext⟩
    · rw [ht]
      simp [crlf, xiHttpCrlf]
    · rw [← hend]
      simp [crlf]
  | moved hcall hend hrun ih =>
    obtain ⟨line, ht, hline, hcolon, rfl, hnext⟩ :=
      h.line (fun hmem => h0 (List.mem_of_mem_drop hmem)) hcall
    obtain ⟨ls, hne, htext, hlen, rfl, hls, hindexed⟩ := ih hnext ho
    rw [List.drop_drop, htext] at ht
    refine ⟨line :: ls, List.cons_ne_nil _ _, ?_, ?_, rfl, ?_, by simpa using hindexed⟩
    · rw [ht]
      simp [crlf, xiHttpCrlf]
    · rw [hlen]
      simp only [renderLines_cons, crlf, List.length_append, List.length_cons, List.length_nil]
      omega
    · exact List.forall_mem_cons.mpr ⟨⟨hline, hcolon⟩, hls⟩

/-! ### Replies -/

/-- The names of the field lines of a reply, up to its first empty line. -/
def headerNames (t : Text) : List Text :=
  ((takeLines (t.length + 1) t).elim [] fun x => x.1.tail).map nameOf

/-- A reply taken apart: a status line, header lines, and the payload behind its first empty
line. -/
structure Tiled (text statusLine : Text) (lines : List Text) (payload : Text) : Prop where
  text_eq : text = statusLine ++ xiHttpCrlf ++ renderLines lines ++ xiHttpCrlf ++ payload
  blank : strstr xiHttpCrlfX2 text = some (statusLine.length + (renderLines lines).length)
  status : statusLine ≠ [] ∧ OneLine statusLine
  nonempty : lines ≠ []
  headers : ∀ l ∈ lines, OneLine l ∧ 58 ∈ l

lemma Tiled.headerNames_eq {text statusLine payload : Text} {lines : List Text}
    (h : Tiled text statusLine lines payload) : headerNames text = lines.map nameOf := by
  have hall : ∀ l ∈ statusLine :: lines, l ≠ [] ∧ OneLine l :=
    List.forall_mem_cons.mpr ⟨h.status, fun l hl =>
      ⟨List.ne_nil_of_mem (h.headers l hl).2, (h.headers l hl).1⟩⟩
  have htext : text = renderLines (statusLine :: lines) ++ crlf ++ payload := by
    rw [h.text_eq, renderLines_cons]
    rfl
  have hk : (statusLine :: lines).length < text.length + 1 := by
    have hle := length_le_renderLines (statusLine :: lines)
    rw [htext, List.length_append, List.length_append]
    omega
  have hlines := takeLines_render hall hk payload
  rw [← htext] at hlines
  rw [headerNames, hlines]
  rfl

/-- A text the status line has been read off does not start with an empty line. -/
lemma strstr_ne_zero_of_scan {t : Text} (hscan : (scan xiHttpStatusPattern t).length = 4) {i : ℕ}
    (hi : strstr xiHttpCrlf t = some i) : i ≠ 0 := by
  rintro rfl
  obtain ⟨⟨u, hu⟩, -⟩ := strstr_some hi
  rw [List.drop_zero] at hu
  rw [← hu] at hscan
  simp [xiHttpCrlf, xiHttpStatusPattern, scan] at hscan

/-- An accepted reply is read line by line. -/
lemma parseHttp_tiled {text : CString} {e e' : XiErr} {r r' : HttpResponse}
    (hrun : parseHttp text.bytes e r = .ret true e' r') :
    ∃ statusLine lines payload r₁, Tiled text.bytes statusLine lines payload ∧
      LoopRun text.bytes (statusLine.length + 2 + (renderLines lines).length)
        (statusLine.length + 2) .noErr (storeStatus (scan xiHttpStatusPattern text.bytes) .zero)
        (lineStarts (statusLine.length + 2) lines) (.ret true .noErr r₁) ∧
      Indexed (lines.map nameOf) r₁ ∧ r' = { r₁ with httpContent := strncpy _ payload } := by
  obtain ⟨-, E, i, r₁, hend, hi, hscan, hloop, rfl⟩ := parseHttp_accepted hrun
  obtain ⟨calls, hcalls, -⟩ := exists_loopRun hloop (by simp)
  obtain ⟨lines, hne, hlines, hlen, rfl, hheaders, hindexed⟩ :=
    lines_of_loopRun text.noNul hcalls (indexed_status _)
  obtain ⟨statusLine, rest, htext, hline, rfl⟩ := line_of_strstr hi
  have hrest : text.bytes.drop (statusLine.length + 2) = rest := by
    rw [htext]
    exact List.drop_left' (by rw [List.length_append]; rfl)
  obtain ⟨payload, hpayload⟩ := (strstr_some hend).1
  have hempty : text.bytes.drop (E + 2) = xiHttpCrlf ++ payload := by
    rw [← List.drop_drop, ← hpayload]
    rfl
  have hbehind : text.bytes.drop (E + 4) = payload := by
    rw [← List.drop_drop, ← hpayload]
    rfl
  have hstart : statusLine ≠ [] := fun hnil =>
    strstr_ne_zero_of_scan hscan hi (by rw [hnil]; rfl)
  refine ⟨statusLine, lines, payload, r₁, ⟨?_, ?_, ⟨hstart, hline⟩, hne, hheaders⟩, ?_, hindexed,
    by rw [hbehind]⟩
  · calc text.bytes = statusLine ++ xiHttpCrlf ++ rest := htext
      _ = statusLine ++ xiHttpCrlf ++
            (renderLines lines ++ (xiHttpCrlf ++ payload)) := by
        rw [← hempty, ← hlines, hrest]
      _ = _ := by simp only [List.append_assoc]
  · rw [hend]
    congr 1
    omega
  · rw [← hlen]
    exact hcalls

/-- What an accepted reply leaves behind: the headers of its field lines, with their names. -/
lemma parseHttp_indexed {text : CString} {e e' : XiErr} {r r' : HttpResponse}
    (hrun : parseHttp text.bytes e r = .ret true e' r') :
    Indexed (headerNames text.bytes) r' := by
  obtain ⟨statusLine, lines, payload, r₁, htiled, -, h, rfl⟩ := parseHttp_tiled hrun
  rw [htiled.headerNames_eq]
  exact ⟨h.size, h.length_le, h.cleared, h.stored, h.null, h.last⟩

/-- The search finds a name as what it is unless it does not get to its kind. -/
lemma classifyHeader_eq_iff {name : Text} : classifyHeader name = documentedType name ↔
    ¬ Named .vary name ∧ ¬ Named .count name ∧ ¬ Named .age name := by
  rw [← documentedType_eq_iff (by decide), ← documentedType_eq_iff (by decide),
    ← documentedType_eq_iff (by decide), classifyHeader_eq]
  cases documentedType name <;> decide

/-- **The checklist**: what an accepted reply leaves behind has the right checklist and the right
types exactly if none of its headers is a `Vary`, a `Count` or an `Age` header. -/
theorem checklist_iff (text : CString) (e e' : XiErr) (r r' : HttpResponse)
    (hrun : parseHttp text.bytes e r = .ret true e' r') :
    ChecklistRight r' ↔ ∀ name ∈ headerNames text.bytes,
      ¬ Named .vary name ∧ ¬ Named .count name ∧ ¬ Named .age name := by
  simp only [(parseHttp_indexed hrun).checklistRight_iff, classifyHeader_eq_iff]

/-- A reply with two headers of one kind and one that is unknown. -/
def dated : Reply :=
  ⟨1, 1, 200, lit "OK", [(lit "Date", lit "1"), (lit "X", lit "2"), (lit "DATE", lit "3")], []⟩

lemma wellFormed_dated : WellFormed dated := by
  refine ⟨show 1 ≤ (lit "OK").length ∧ (lit "OK").length ≤ 31 by decide,
    show ∀ c ∈ lit "OK", c ≠ 13 ∧ c ≠ 10 ∧ c ≠ 0 by decide +kernel, fun h hh => ?_,
    show (0 : Byte) ∉ ([] : Text) by decide⟩
  obtain rfl | rfl | rfl : h = (lit "Date", lit "1") ∨ h = (lit "X", lit "2") ∨
      h = (lit "DATE", lit "3") := by
    simpa [dated] using hh
  all_goals exact ⟨by decide, by decide +kernel, by decide, by decide +kernel⟩

theorem checklist_dated : ∃ r', parseHttp dated.text .noErr .zero = .ret true .noErr r' ∧
    ChecklistRight r' := by
  obtain ⟨r', hrun, -⟩ := parseHttp_reads wellFormed_dated (by decide) .zero
  have hnames : headerNames dated.text = [lit "Date", lit "X", lit "DATE"] := by decide +kernel
  refine ⟨r', hrun, (checklist_iff ⟨dated.text, by decide +kernel⟩ _ _ _ _ hrun).mpr ?_⟩
  rw [hnames]
  decide +kernel

/-- An `Age` header is stored as an unknown one, and the checklist does not have it. -/
theorem not_checklistRight_age : ∃ r',
    parseHttp (lit "HTTP/1.1 200 OK\r\nAge: 1\r\n\r\n") .noErr .zero = .ret true .noErr r' ∧
      r'.httpHeadersSize = 1 ∧ Carries (r'.httpHeaders 0) .age ∧
      (r'.httpHeaders 0).headerType = .unknown ∧ r'.httpHeadersChecklist .age = none ∧
      ¬ ChecklistRight r' := by
  have htext : (ages 1).text = lit "HTTP/1.1 200 OK\r\nAge: 1\r\n\r\n" := by decide +kernel
  obtain ⟨r', hrun, hsize⟩ := parseHttp_reads (wellFormed_ages 1) (by decide) .zero
  rw [htext] at hrun
  have hnames : headerNames (lit "HTTP/1.1 200 OK\r\nAge: 1\r\n\r\n") = [lit "Age"] := by
    decide +kernel
  have hindexed : Indexed [lit "Age"] r' := by
    rw [← hnames]
    exact @parseHttp_indexed ⟨_, by decide +kernel⟩ _ _ _ _ hrun
  obtain ⟨hname, htype⟩ := hindexed.stored 0 (lit "Age") rfl
  have hcarries : Carries (r'.httpHeaders 0) .age := ⟨_, hname, by decide +kernel⟩
  have hnone : r'.httpHeadersChecklist .age = none := by
    rw [hindexed.null .age (by decide)]
    decide +kernel
  have hunknown : (r'.httpHeaders 0).headerType = .unknown := by
    rw [htype]
    decide +kernel
  refine ⟨r', hrun, hsize, hcarries, hunknown, hnone, fun hright => ?_⟩
  exact (hright.null .age (by decide)).mp hnone 0 (by rw [hsize]; exact Nat.one_pos) hcarries

end LibXively.Checklist
