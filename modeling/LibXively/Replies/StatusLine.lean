import LibXively.Replies.HeaderCount

/-!
What the status line of a reply is read off.

The end of the line is found by a search, and the values are read by a scan from the start of the
text. The scan skips line ends like any other white space, and takes as many bytes of the reason as
the array has, which leaves no room for the terminator.
-/

namespace LibXively.StatusLine

open LibXively.Bytes LibXively.Decimal LibXively.Scanf LibXively.CProc LibXively.CharArray
open LibXively.Structures LibXively.Framing LibXively.HttpParser LibXively.Headers
open LibXively.Head LibXively.Render LibXively.HeaderCount

/-! ### What a line holds -/

/-- The text starts with `HTTP/`, two version numbers and a status code, and `after` stands behind
them. -/
def Front (t after : Text) : Prop :=
  ∃ major minor code : Numeral none, t = lit "HTTP/" ++ major.text ++ lit "." ++ minor.text ++
    code.text ++ after ∧ minor.Ends (code.text ++ after) ∧ code.Ends after

/-- Everything behind the status code and the space that follows it. -/
def reasonPhrase (after : Text) : Text := if after.head? = some 32 then after.tail else after

/-- A text up to its first carriage return or line feed. -/
def upToEnd (t : Text) : Text := t.takeWhile (· ∉ [(13 : Byte), 10])

/-- Four values can be read off the text: behind the status code, not all is white space. -/
def FourValues (t : Text) : Prop := ∃ after, Front t after ∧ ∃ c ∈ after, isSpace c = false

/-- A line with a reason phrase that does not start with white space, and is shorter than its
array up to its end or to a byte of a line end in it. -/
def HasReason (l : Text) : Prop :=
  ∃ after, Front l after ∧ (∃ c ∈ (reasonPhrase after).head?, isSpace c = false) ∧
    (upToEnd (reasonPhrase after)).length ≤ xiHttpStatusStringSize - 1

/-- The reason that is stored is the front of the reason phrase of the line, with its terminator in
the array. -/
def ReasonStored (l : Text) (r' : HttpResponse) : Prop :=
  ∃ after s, Front l after ∧ cstr r'.httpStatusString = some s ∧
    s.length ≤ xiHttpStatusStringSize - 1 ∧ s <+: reasonPhrase after

/-- Whenever the call succeeds, what it leaves behind is the same whatever stands behind the first
line, the reason is that of the line, and nothing is written behind the array. -/
def ParsedWithin (t : Text) : Prop :=
  ∀ e r m e' r', parseHttpStatus t e r = .ret (some m) e' r' →
    ∃ l rest, t = l ++ xiHttpCrlf ++ rest ∧ OneLine l ∧
      (∀ rest', parseHttpStatus (l ++ xiHttpCrlf ++ rest') e r = .ret (some m) e' r') ∧
      ReasonStored l r' ∧ r'.statusOverrun = r.statusOverrun

variable {t l after : Text}

/-! ### The scan -/

/-- The directives behind the status code. -/
def reasonPattern : List Directive := [.space, .set xiHttpStatusStringSize [13, 10], .space]

/-- The numbers are taken off the front of the text. -/
lemma scan_front {major minor code : Numeral none} (hminor : minor.Ends (code.text ++ after))
    (hcode : code.Ends after) : scan xiHttpStatusPattern (lit "HTTP/" ++ major.text ++ lit "." ++
      minor.text ++ code.text ++ after) = .int (toInt32 major.number) ::
        .int (toInt32 minor.number) :: .int (toInt32 code.number) :: scan reasonPattern after := by
  have hstep {N : Numeral none} {fs : List Directive} {u : Text} (hN : N.Ends u) :
      scan (.int none :: fs) (N.text ++ u) = .int (toInt32 N.number) :: scan fs u :=
    scan_int_eq_cons.mpr ⟨N, u, rfl, hN, rfl, rfl⟩
  have hmajor {u : Text} : major.Ends (46 :: u) := .inr fun c hc => by cases hc; decide
  have htext : lit "HTTP/" ++ major.text ++ lit "." ++ minor.text ++ code.text ++ after =
      72 :: 84 :: 84 :: 80 :: 47 :: (major.text ++ 46 :: (minor.text ++ (code.text ++ after))) := by
    simp [show lit "HTTP/" = [72, 84, 84, 80, 47] by decide, show lit "." = [46] by decide]
  rw [htext, xiHttpStatusPattern]
  simp only [scan_lit_cons]
  rw [hstep hmajor, scan_lit_cons, hstep hminor, scan_space_int, hstep hcode]
  rfl

lemma front_of_scan {i j k : Item} {is : List Item}
    (h : scan xiHttpStatusPattern t = i :: j :: k :: is) : ∃ after, Front t after ∧
      scan reasonPattern after = is := by
  simp only [xiHttpStatusPattern, scan_lit_eq_cons, scan_int_eq_cons, scan_space_int] at h
  obtain ⟨-, rfl, -, rfl, -, rfl, -, rfl, -, rfl, major, -, rfl, -, -, -, rfl, minor, -, rfl,
    hminor, -, code, after, rfl, hcode, -, hreason⟩ := h
  refine ⟨after, ⟨major, minor, code, ?_, hminor, hcode⟩, hreason⟩
  simp [show lit "HTTP/" = [72, 84, 84, 80, 47] by decide, show lit "." = [46] by decide]

/-- A scan of white space finds no reason. -/
lemma scan_reason_nil (h : ∀ c ∈ after, isSpace c = true) : scan reasonPattern after = [] := by
  have hskip : skipSpace after = [] := List.dropWhile_eq_nil_iff.mpr h
  rw [reasonPattern, scan_space, hskip]
  rfl

lemma fourValues_iff : FourValues t ↔ (scan xiHttpStatusPattern t).length = 4 := by
  constructor
  · rintro ⟨after, ⟨major, minor, code, rfl, hminor, hcode⟩, c, hc, hspace⟩
    rw [scan_front hminor hcode, reasonPattern, scan_reason hc hspace]
    rfl
  · intro hlen
    match hscan : scan xiHttpStatusPattern t, hlen with
    | [i, j, k, m], _ =>
      obtain ⟨after, hfront, hreason⟩ := front_of_scan hscan
      refine ⟨after, hfront, ?_⟩
      by_contra hno
      have hall : ∀ c ∈ after, isSpace c = true := fun c hc => by
        by_contra hspace
        exact hno ⟨c, hc, Bool.not_eq_true _ ▸ hspace⟩
      rw [scan_reason_nil hall] at hreason
      cases hreason

/-! ### The call -/

lemma parse_line (hl : OneLine l) {rest : Text} (h : FourValues (l ++ xiHttpCrlf ++ rest))
    (e : XiErr) (r : HttpResponse) : parseHttpStatus (l ++ xiHttpCrlf ++ rest) e r =
      .ret (some (l.length + 2)) e
        (storeStatus (scan xiHttpStatusPattern (l ++ xiHttpCrlf ++ rest)) r) :=
  parseHttpStatus_good (strstr_line hl rest) (fourValues_iff.mp h) e r

/-- A call that succeeds has found a line end and four values. -/
lemma line_of_parse {e e' : XiErr} {r r' : HttpResponse} {m : ℕ}
    (h : parseHttpStatus t e r = .ret (some m) e' r') :
    FourValues t ∧ ∃ l rest, t = l ++ xiHttpCrlf ++ rest ∧ OneLine l := by
  obtain ⟨i, hi, hscan, -⟩ := parseHttpStatus_some h
  obtain ⟨l, rest, hsplit, hl, -⟩ := line_of_strstr hi
  exact ⟨fourValues_iff.mpr hscan, l, rest, hsplit, hl⟩

/-! ### The front of a line -/

/-- More text behind the status code does not change the front, as long as there is some. -/
lemma front_append (hne : after ≠ []) (u : Text) : Front (l ++ u) (after ++ u) ↔ Front l after := by
  have hends {minor code : Numeral none} : minor.Ends (code.text ++ (after ++ u)) ∧
      code.Ends (after ++ u) ↔ minor.Ends (code.text ++ after) ∧ code.Ends after := by
    rw [← List.append_assoc, Numeral.ends_append (by simp [hne]), Numeral.ends_append hne]
  have htext {front : Text} : l ++ u = front ++ (after ++ u) ↔ l = front ++ after := by
    rw [← List.append_assoc, List.append_left_inj]
  simp only [Front, hends, htext]

lemma front_unique {u v : Text} (hu : Front t u) (hv : Front t v) : u = v := by
  obtain ⟨major, minor, code, ht, hminor, hcode⟩ := hu
  obtain ⟨major', minor', code', ht', hminor', hcode'⟩ := hv
  have hdot {N : Numeral none} {w : Text} : N.Ends (lit "." ++ w) := .inr fun c hc => by
    cases hc; decide
  rw [ht] at ht'
  simp only [List.append_assoc] at ht'
  have hmajor := Numeral.rest_unique hdot hdot (List.append_cancel_left ht')
  have hversion := Numeral.rest_unique hminor hminor' (List.append_cancel_left hmajor)
  exact Numeral.rest_unique hcode hcode' hversion

/-- Four values in front of the line end are those of the line. -/
lemma front_of_fourValues (h : FourValues (l ++ xiHttpCrlf)) :
    ∃ after, Front l after ∧ ∃ c ∈ after, isSpace c = false := by
  obtain ⟨after', hfront, c, hc, hspace⟩ := h
  have hsuffix : after' <:+ l ++ xiHttpCrlf := by
    obtain ⟨major, minor, code, ht, -⟩ := hfront
    exact ⟨_, ht.symm⟩
  have hend : c ∉ xiHttpCrlf := lineEnd_of_not_isSpace hspace
  -- what is behind the status code is not only the line end
  rcases List.suffix_or_suffix_of_suffix hsuffix (List.suffix_append l xiHttpCrlf) with
    hshort | ⟨after, rfl⟩
  · exact absurd (hshort.subset hc) hend
  · have hmem : c ∈ after := (List.mem_append.mp hc).resolve_right hend
    exact ⟨after, (front_append (List.ne_nil_of_mem hmem) _).mp hfront, c, hmem, hspace⟩

/-! ### Reasons -/

lemma upToEnd_append (u rest : Text) : upToEnd (u ++ xiHttpCrlf ++ rest) = upToEnd u := by
  rw [List.append_assoc]
  exact takeWhile_append_stop (by decide) u _

/-- The scan comes to the same byte whatever stands behind it. -/
lemma skipSpace_front {c : Byte} (hc : c ∈ after) (hspace : isSpace c = false) (u : Text) :
    skipSpace (after ++ u) = skipSpace after ++ u := by
  obtain ⟨a, b, rfl⟩ := List.append_of_mem hc
  rw [List.append_assoc, List.cons_append, skipSpace_append hspace, skipSpace_append hspace,
    List.append_assoc, List.cons_append]

/-- The four values of a line whose status code is not followed by white space only, whatever stands
behind the line. -/
lemma scan_line (hfront : Front l after) {c : Byte} (hc : c ∈ after) (hspace : isSpace c = false) :
    ∃ x y z, ∀ rest, scan xiHttpStatusPattern (l ++ xiHttpCrlf ++ rest) =
      [.int x, .int y, .int z, .str ((upToEnd (skipSpace after)).take xiHttpStatusStringSize)] := by
  obtain ⟨major, minor, code, hl, hminor, hcode⟩ := hfront
  have hne : after ≠ [] := List.ne_nil_of_mem hc
  refine ⟨toInt32 major.number, toInt32 minor.number, toInt32 code.number, fun rest => ?_⟩
  have hcode' := (Numeral.ends_append hne (xiHttpCrlf ++ rest)).mpr hcode
  have hminor' := (Numeral.ends_append (by simp [hne]) (xiHttpCrlf ++ rest)).mpr hminor
  rw [List.append_assoc] at hminor'
  have htext : l ++ xiHttpCrlf ++ rest = lit "HTTP/" ++ major.text ++ lit "." ++ minor.text ++
      code.text ++ (after ++ (xiHttpCrlf ++ rest)) := by
    rw [hl]
    simp only [List.append_assoc]
  rw [htext, scan_front hminor' hcode', reasonPattern,
    scan_reason (c := c) (by simp [hc]) hspace, skipSpace_front hc hspace, ← List.append_assoc,
    ← upToEnd, upToEnd_append]

/-- Where the reason phrase does not start with white space, it is what the scan comes to. -/
lemma skipSpace_reasonPhrase (h : ∃ c ∈ (reasonPhrase after).head?, isSpace c = false) :
    skipSpace after = reasonPhrase after := by
  obtain ⟨c, hc, hspace⟩ := h
  unfold reasonPhrase at hc ⊢
  split at hc
  · next h32 =>
    rw [if_pos h32]
    obtain ⟨after, rfl⟩ := List.head?_eq_some_iff.mp h32
    obtain ⟨phrase, rfl⟩ := List.head?_eq_some_iff.mp (Option.mem_def.mp hc)
    rw [skipSpace_cons_space (by decide)]
    exact skipSpace_cons hspace _
  · next h32 =>
    rw [if_neg h32]
    obtain ⟨phrase, rfl⟩ := List.head?_eq_some_iff.mp (Option.mem_def.mp hc)
    exact skipSpace_cons hspace _

lemma reasonPhrase_suffix (after : Text) : reasonPhrase after <:+ after := by
  unfold reasonPhrase
  split
  · exact List.tail_suffix after
  · exact List.suffix_refl after

lemma zero_not_mem_reason {t : CString} {rest : Text} (ht : t.bytes = l ++ xiHttpCrlf ++ rest)
    (hfront : Front l after) : 0 ∉ upToEnd (skipSpace after) := by
  intro hmem
  have hafter : 0 ∈ after :=
    (List.dropWhile_suffix isSpace).subset ((List.takeWhile_prefix _).subset hmem)
  obtain ⟨major, minor, code, rfl, -, -⟩ := hfront
  exact t.noNul (by rw [ht]; simp [hafter])

/-! ### When the line is read right -/

/-- A line with a reason that fits is read alone. -/
lemma parsedWithin_of_hasReason {t : CString} (h : ∀ l rest, t.bytes = l ++ xiHttpCrlf ++ rest →
    OneLine l → FourValues t.bytes → HasReason l) : ParsedWithin t.bytes := by
  intro e r m e' r' hrun
  obtain ⟨hfour, l, rest, ht, hl⟩ := line_of_parse hrun
  obtain ⟨after, hfront, ⟨c, hc, hspace⟩, hlen⟩ := h l rest ht hl hfour
  have hsize : xiHttpStatusStringSize = 32 := rfl
  have hmem : c ∈ after := (reasonPhrase_suffix after).subset (List.mem_of_mem_head? hc)
  have hphrase := skipSpace_reasonPhrase ⟨c, hc, hspace⟩
  have h0 := zero_not_mem_reason ht hfront
  obtain ⟨x, y, z, hscan⟩ := scan_line hfront hmem hspace
  rw [hphrase] at h0
  rw [hphrase, List.take_of_length_le (by omega)] at hscan
  have hcall (rest' : Text) : parseHttpStatus (l ++ xiHttpCrlf ++ rest') e r =
      .ret (some (l.length + 2)) e
        (storeStatus [.int x, .int y, .int z, .str (upToEnd (reasonPhrase after))] r) := by
    rw [parse_line hl (fourValues_iff.mpr (by rw [hscan rest']; rfl)), hscan]
  obtain ⟨hstring, hoverrun⟩ := storeStatus_reason h0 (by omega) x y z r
  have hret := hcall rest
  rw [← ht, hrun] at hret
  cases hret
  exact ⟨l, rest, ht, hl, fun rest' => hcall rest',
    ⟨after, _, hfront, hstring, hlen, List.takeWhile_prefix _⟩, hoverrun⟩

/-- A line that is read alone has a reason that fits. -/
lemma hasReason_of_parsedWithin {t : CString} (h : ParsedWithin t.bytes) {rest : Text}
    (ht : t.bytes = l ++ xiHttpCrlf ++ rest) (hl : OneLine l) (hfour : FourValues t.bytes) :
    HasReason l := by
  have hrun := parse_line hl (ht ▸ hfour) .noErr .zero
  rw [← ht] at hrun
  obtain ⟨l', rest', ht', hl', hcalls, ⟨after, s, hfront, hstring, hlen, hprefix⟩, hoverrun⟩ :=
    h _ _ _ _ _ hrun
  obtain rfl := line_unique hl hl' (ht.symm.trans ht')
  -- with nothing behind the line, the call succeeds too
  have hbare := (line_of_parse (hcalls [])).1
  rw [List.append_nil] at hbare
  obtain ⟨after', hfront', c, hc, hspace⟩ := front_of_fourValues hbare
  obtain rfl := front_unique hfront hfront'
  obtain ⟨x, y, z, hscan⟩ := scan_line hfront hc hspace
  rw [ht, hscan] at hstring hoverrun
  have hlt : (upToEnd (skipSpace after)).length < xiHttpStatusStringSize := by
    by_contra hge
    have htake : ((upToEnd (skipSpace after)).take xiHttpStatusStringSize).length =
        xiHttpStatusStringSize := List.length_take_of_le (not_lt.mp hge)
    simp [storeStatus, htake, HttpResponse.zero] at hoverrun
  rw [List.take_of_length_le hlt.le,
    (storeStatus_reason (zero_not_mem_reason ht hfront) hlt x y z .zero).1] at hstring
  obtain rfl := Option.some.inj hstring
  -- the reason that is stored starts with the byte the scan has come to
  obtain ⟨d, phrase, hd, hdspace⟩ := skipSpace_eq_cons hc hspace
  have hhead : d ∈ (reasonPhrase after).head? := by
    have hstop := lineEnd_of_not_isSpace hdspace
    obtain ⟨u, hu⟩ := hprefix
    rw [hd, upToEnd, List.takeWhile_cons_of_pos (by simpa using hstop)] at hu
    rw [← hu]
    rfl
  have hphrase := skipSpace_reasonPhrase ⟨d, hhead, hdspace⟩
  exact ⟨after, hfront, ⟨d, hhead, hdspace⟩, hphrase ▸ hlen⟩

/-- **The status line**: whenever a status line is parsed, its values are read off that line and
the reason is kept in its array, exactly if every line four values can be read off has a reason
behind one space at most, and with room for its terminator. -/
theorem parsedWithin_iff (t : CString) : ParsedWithin t.bytes ↔ ∀ l rest,
    t.bytes = l ++ xiHttpCrlf ++ rest → OneLine l → FourValues t.bytes → HasReason l :=
  ⟨fun h _ _ ht hl hfour => hasReason_of_parsedWithin h ht hl hfour, parsedWithin_of_hasReason⟩

/-- Without a reason on the status line, the one that is stored comes from the next line; and a
reason of 32 bytes has its terminator written behind the array. -/
theorem not_parsedWithin :
    ¬ ParsedWithin (lit "HTTP/1.1 200 \r\nAge: 1\r\n") ∧
    ¬ ParsedWithin (lit "HTTP/1.1 200 " ++ List.replicate 32 65 ++ xiHttpCrlf) := by
  constructor
  · intro h
    have hrun := parseHttpStatus_good (t := lit "HTTP/1.1 200 \r\nAge: 1\r\n") (i := 13)
      (by decide +kernel) (by decide +kernel) .noErr .zero
    obtain ⟨l, rest, ht, hl, hcalls, -⟩ := h _ _ _ _ _ hrun
    have hline : OneLine (lit "HTTP/1.1 200 ") := oneLine_of_not_mem (by decide +kernel)
    have ht' : lit "HTTP/1.1 200 \r\nAge: 1\r\n" =
        lit "HTTP/1.1 200 " ++ xiHttpCrlf ++ lit "Age: 1\r\n" := by decide +kernel
    obtain rfl := line_unique hl hline (ht.symm.trans ht')
    have hfour := fourValues_iff.mp (line_of_parse (hcalls [])).1
    exact absurd hfour (by decide +kernel)
  · intro h
    have hscan : scan xiHttpStatusPattern
        (lit "HTTP/1.1 200 " ++ List.replicate 32 65 ++ xiHttpCrlf) =
          [.int 1, .int 1, .int 200, .str (List.replicate 32 65)] := by decide +kernel
    have hrun := parseHttpStatus_good
      (t := lit "HTTP/1.1 200 " ++ List.replicate 32 65 ++ xiHttpCrlf) (i := 45)
      (by decide +kernel) (by rw [hscan]; rfl) .noErr .zero
    obtain ⟨-, -, -, -, -, -, hoverrun⟩ := h _ _ _ _ _ hrun
    rw [hscan] at hoverrun
    exact absurd hoverrun (by decide)

end LibXively.StatusLine
