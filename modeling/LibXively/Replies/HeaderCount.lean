import LibXively.Replies.Render

/-!
How many headers a reply may have.

The parser reads a header line before it looks for the end of the header section, and counts the
slot it has just filled before it compares the count with the number of slots. A reply without
headers is refused for the line it does not have, and a reply that fills every slot for the last
one of them.
-/

namespace LibXively.HeaderCount

open LibXively.Bytes LibXively.Decimal LibXively.Scanf LibXively.CProc LibXively.CharArray
open LibXively.Structures LibXively.HttpParser LibXively.Headers LibXively.Head LibXively.Render

/-- A reply whose parts are within the limits of their arrays, whatever the number of its
headers. -/
structure WellFormed (reply : Reply) : Prop where
  reason_length : 1 ≤ reply.reason.length ∧ reply.reason.length ≤ 31
  reason_bytes : ∀ c ∈ reply.reason, c ≠ 13 ∧ c ≠ 10 ∧ c ≠ 0
  headers : ∀ h ∈ reply.headers, PlainHeader h
  payload_bytes : 0 ∉ reply.payload

/-- A reply is accepted with all its headers if there are slots for them, and rejected otherwise. -/
def CountLimit (reply : Reply) : Prop :=
  (reply.headers.length ≤ xiHttpMaxHeaders → ∀ r, ∃ r',
    parseHttp reply.text .noErr r = .ret true .noErr r' ∧
      r'.httpHeadersSize = reply.headers.length) ∧
  (xiHttpMaxHeaders < reply.headers.length → ∃ x r', x ≠ .noErr ∧
    ∀ r, parseHttp reply.text .noErr r = .ret false x r')

variable {reply : Reply}

lemma WellFormed.cr_not_mem (hw : WellFormed reply) : 13 ∉ reply.statusLine :=
  cr_not_mem_statusLine fun hc => (hw.reason_bytes _ hc).1 rfl

/-! ### The status line -/

/-- The scan finds a reason at the front of any text that is not white space throughout. -/
lemma scan_reason {t : Text} {c : Byte} (hc : c ∈ t) (hspace : isSpace c = false) :
    scan [.space, .set xiHttpStatusStringSize [13, 10], .space] t =
      [.str (((skipSpace t).takeWhile (· ∉ [(13 : Byte), 10])).take xiHttpStatusStringSize)] := by
  obtain ⟨d, rest, hd, hdspace⟩ := skipSpace_eq_cons hc hspace
  have hstop := lineEnd_of_not_isSpace hdspace
  rw [List.take_takeWhile, scan_space, hd, scan, if_neg, scan_space, scan_nil]
  rw [List.take_succ_cons, List.takeWhile_cons_of_pos (by simpa using hstop)]
  exact List.cons_ne_nil _ _

lemma length_scan_number {n : ℕ} {rest : Text} {fs : List Directive}
    (hstop : ∀ c ∈ rest.head?, isDigit c = false) :
    (scan (.int none :: fs) (digits n ++ rest)).length = (scan fs rest).length + 1 := by
  rw [scan_int_digits (digits_ne_nil n) (fun _ => isDigit_of_mem_digits) (by simp) (.inr hstop),
    List.length_cons]

/-- With a header behind it, the status line has its four values. -/
lemma length_scan_text (hne : reply.headers ≠ []) :
    (scan xiHttpStatusPattern reply.text).length = 4 := by
  have hhttp : lit "HTTP/" = [72, 84, 84, 80, 47] := by decide
  have hdot : lit "." = [46] := by decide
  have hblank : lit " " = [32] := by decide
  obtain ⟨h, hs, hh⟩ := List.exists_cons_of_ne_nil hne
  have htext : reply.text = 72 :: 84 :: 84 :: 80 :: 47 ::
      (digits reply.version1 ++ 46 :: (digits reply.version2 ++ 32 :: (digits reply.status ++
        32 :: (reply.reason ++ (xiHttpCrlf ++ (headerSection reply.headers ++
          (xiHttpCrlf ++ reply.payload))))))) := by
    simp [Reply.text, Reply.statusLine, hhttp, hdot, hblank]
  have hcolon : (58 : Byte) ∈ 32 :: (reply.reason ++ (xiHttpCrlf ++
      (headerSection reply.headers ++ (xiHttpCrlf ++ reply.payload)))) := by
    rw [hh]
    simp [headerSection, lineOf]
  rw [htext, xiHttpStatusPattern]
  simp only [scan_lit_cons]
  rw [length_scan_number (by rintro _ ⟨⟩; decide), scan_lit_cons,
    length_scan_number (by rintro _ ⟨⟩; decide), scan_space, skipSpace_digits,
    length_scan_number (by rintro _ ⟨⟩; decide), scan_reason hcolon (by decide),
    List.length_singleton]

/-! ### The ends of the range -/

/-- A section with a header for every slot is refused at the last one. -/
lemma headersVerdict_full {content rest : Text} {hs : List (Text × Text)} {k ptr headersEnd : ℕ}
    (hhs : ∀ h ∈ hs, PlainHeader h) (htext : content.drop ptr = headerSection hs ++ rest)
    (hend : headersEnd = ptr + (headerSection hs).length) (hk : k < hs.length) :
    headersVerdict content headersEnd k ptr = .refused := by
  induction hs generalizing k ptr with
  | nil => simp at hk
  | cons h hs ih =>
    have hh := hhs h (List.mem_cons_self ..)
    have hmoved := hh.headerMoved_line (headerSection hs ++ rest)
    rw [← drop_section htext] at hmoved
    cases k with
    | zero =>
      rw [headersVerdict, lineVerdict, headerCrashes_of_moved hmoved, if_neg Bool.false_ne_true]
    | succ k =>
      rw [List.length_cons, Nat.add_lt_add_iff_right] at hk
      have hne : hs ≠ [] := List.ne_nil_of_length_pos (Nat.zero_lt_of_lt hk)
      have hlength := length_headerSection_cons h hs
      simp only [headersVerdict, hmoved, if_neg (mt (next_eq_iff hend).mp hne)]
      exact ih (fun x hx => hhs x (List.mem_cons_of_mem _ hx)) (drop_next htext) (by omega) hk

/-- A section without headers is refused at its end. -/
lemma headersVerdict_empty {content rest : Text} {k ptr headersEnd : ℕ}
    (htext : content.drop ptr = xiHttpCrlf ++ rest) :
    headersVerdict content headersEnd k ptr = .refused := by
  have hend : strstr xiHttpCrlf (xiHttpCrlf ++ rest) = some 0 :=
    strstr_eq_zero (List.prefix_append _ _)
  have hmoved : headerMoved (content.drop ptr) = none := by
    rw [htext, headerMoved, hend]
    cases strstr [58] (xiHttpCrlf ++ rest) <;> simp
  have hcrash : headerCrashes (content.drop ptr) = false := by
    rw [htext, headerCrashes, hend]
    cases hcolon : strstr [58] (xiHttpCrlf ++ rest) with
    | none => rfl
    | some i =>
      -- the text starts with a carriage return
      have hpos : i ≠ 0 := by
        rintro rfl
        obtain ⟨⟨u, hu⟩, -⟩ := strstr_some hcolon
        exact absurd (List.cons.inj hu).1 (by decide)
      simp [hpos]
  have hline : lineVerdict (content.drop ptr) = .refused := by
    rw [lineVerdict, hcrash, if_neg Bool.false_ne_true]
  cases k with
  | zero => rw [headersVerdict, hline]
  | succ k => simp only [headersVerdict, hmoved, hline]

/-- The head of a reply without headers, or with one for every slot, is refused. -/
lemma headVerdict_refused (hw : WellFormed reply)
    (hcount : reply.headers.length = 0 ∨ xiHttpMaxHeaders ≤ reply.headers.length) :
    headVerdict reply.text = .refused := by
  have hmax : xiHttpMaxHeaders = 16 := rfl
  have hlength := length_linesOf reply.headers
  rw [headVerdict, strstr_headersEnd hw.cr_not_mem hw.headers, strstr_statusEnd hw.cr_not_mem]
  simp only
  split
  · rcases hcount with hzero | hfull
    · have hnil := List.length_eq_zero_iff.mp hzero
      have hempty : reply.text.drop (reply.statusLine.length + 2) =
          xiHttpCrlf ++ reply.payload := by
        rw [drop_statusLine, hnil]
        rfl
      exact headersVerdict_empty hempty
    · exact headersVerdict_full hw.headers (drop_statusLine reply) (by omega) (by omega)
  · rfl

/-! ### The range -/

lemma parseHttp_reads (hw : WellFormed reply)
    (hcount : 1 ≤ reply.headers.length ∧ reply.headers.length ≤ xiHttpMaxHeaders - 1)
    (r : HttpResponse) : ∃ r', parseHttp reply.text .noErr r = .ret true .noErr r' ∧
      r'.httpHeadersSize = reply.headers.length := by
  have hne : reply.headers ≠ [] := fun hnil => by simp [hnil] at hcount
  obtain ⟨r', hhead, hfilled⟩ := parseHead_reads hw.cr_not_mem hw.headers (length_scan_text hne)
    hcount
  have hsize := hfilled.size
  rw [(storeStatus_cleared _).2, Nat.zero_add] at hsize
  refine ⟨{ r' with httpContent := strncpy _ (reply.text.drop
    (reply.statusLine.length + (linesOf reply.headers).length + 4)) }, ?_, hsize⟩
  simp [parseHttp, errHandling, hhead, xiGetLastError]

/-- **The number of headers**: a well-formed reply is treated as the number of slots has it exactly
if it has a header and leaves a slot free, or has more headers than slots. -/
theorem countLimit_iff (reply : Reply) (hw : WellFormed reply) :
    CountLimit reply ↔ reply.headers.length ≠ 0 ∧ reply.headers.length ≠ xiHttpMaxHeaders := by
  have hmax : xiHttpMaxHeaders = 16 := rfl
  constructor
  · rintro ⟨haccepts, -⟩
    by_contra hend
    obtain ⟨r', hrun, -⟩ := haccepts (by omega) .zero
    obtain ⟨x, r'', -, hrej⟩ := parseHttp_refused (headVerdict_refused hw (by omega))
    rw [hrej] at hrun
    injection hrun with hfalse
    exact absurd hfalse Bool.false_ne_true
  · rintro ⟨hzero, hfull⟩
    refine ⟨fun hle r => parseHttp_reads hw (by omega) r, fun hlt => ?_⟩
    obtain ⟨x, r', hx, hrej⟩ := parseHttp_refused (headVerdict_refused hw (.inr hlt.le))
    exact ⟨x, r', hx, hrej .noErr⟩

/-- A reply with the header `Age: 1` a number of times. -/
def ages (n : ℕ) : Reply := ⟨1, 1, 200, lit "OK", List.replicate n (lit "Age", lit "1"), []⟩

lemma wellFormed_ages (n : ℕ) : WellFormed (ages n) := by
  refine ⟨show 1 ≤ (lit "OK").length ∧ (lit "OK").length ≤ 31 by decide,
    show ∀ c ∈ lit "OK", c ≠ 13 ∧ c ≠ 10 ∧ c ≠ 0 by decide +kernel, fun h hh => ?_,
    show (0 : Byte) ∉ ([] : Text) by decide⟩
  obtain rfl := List.eq_of_mem_replicate hh
  exact ⟨by decide, by decide +kernel, by decide, by decide +kernel⟩

theorem countLimit_ages : CountLimit (ages 7) :=
  (countLimit_iff (ages 7) (wellFormed_ages 7)).mpr (by decide)

/-- Replies without headers and with sixteen of them are refused. -/
theorem not_countLimit_ages : WellFormed (ages 0) ∧ ¬ CountLimit (ages 0) ∧
    WellFormed (ages 16) ∧ ¬ CountLimit (ages 16) := by
  have hno {n : ℕ} (hle : (ages n).headers.length ≤ xiHttpMaxHeaders)
      (hcount : (ages n).headers.length = 0 ∨ xiHttpMaxHeaders ≤ (ages n).headers.length) :
      ¬ CountLimit (ages n) := by
    rintro ⟨haccepts, -⟩
    obtain ⟨r', hrun, -⟩ := haccepts hle .zero
    obtain ⟨x, r'', -, hrej⟩ := parseHttp_refused (headVerdict_refused (wellFormed_ages n) hcount)
    rw [hrej] at hrun
    injection hrun with hfalse
    exact absurd hfalse Bool.false_ne_true
  exact ⟨wellFormed_ages 0, hno (by decide) (.inl rfl), wellFormed_ages 16,
    hno (by decide) (.inr (by decide))⟩

end LibXively.HeaderCount
