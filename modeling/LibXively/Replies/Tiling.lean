import LibXively.Replies.Checklist

/-!
The header scan as a tiling of the header section.

The end of the section is found once, by a search for the empty line, and the loop stops at that
very position or with an error. It goes from line end to line end, and as a line end does not start
with the last byte of another one, the line ends it finds do not lead it past the empty line.
-/

namespace LibXively.Tiling

open LibXively.Bytes LibXively.Scanf LibXively.CProc LibXively.CharArray LibXively.Structures
open LibXively.Framing LibXively.HttpParser LibXively.Headers LibXively.Head LibXively.Render
open LibXively.HeaderCount LibXively.Checklist

/-- How the loop stops: with an error, at a copy of a negative length, or at the end of the
headers, with one call for each line from `ptr` up to there. -/
def Stops (content : Text) (headersEnd ptr : ℕ) (calls : List ℕ) :
    Outcome XiErr HttpResponse Bool → Prop
  | .ret false x _ => x ≠ .noErr
  | .ret true _ _ => ∃ lines, (∀ l ∈ lines, OneLine l) ∧ calls = lineStarts ptr lines ∧
      content.drop ptr = renderLines lines ++ content.drop headersEnd ∧
      ptr + (renderLines lines).length = headersEnd
  | .goto _ _ => False
  | .fault f => f = .badLength

/-- The loop has one run, which takes at most as many calls as there are slots, none of them behind
the end of the headers, and the loop stops with it. -/
structure ScanStops (content : Text) (headersEnd ptr : ℕ) (e : XiErr) (r : HttpResponse)
    (calls : List ℕ) (o : Outcome XiErr HttpResponse Bool) : Prop where
  run : LoopRun content headersEnd ptr e r calls o
  unique : ∀ calls' o', LoopRun content headersEnd ptr e r calls' o' → calls' = calls ∧ o' = o
  loop : headerLoop content headersEnd xiHttpMaxHeaders ptr e r = o
  bound : calls.length ≤ xiHttpMaxHeaders
  within : ∀ p ∈ calls, p ≤ headersEnd
  stops : Stops content headersEnd ptr calls o

/-- The reply is a status line and header lines up to its first empty line; the loop is called at
the start of each header line, and the response has the names of these lines, and the payload. -/
structure ReadByLines (text statusLine : Text) (lines : List Text) (payload : Text)
    (r' : HttpResponse) : Prop where
  tiled : Tiled text statusLine lines payload
  run : ∃ r₀ r₁, parseHttpStatus text .noErr .zero =
      .ret (some (statusLine.length + 2)) .noErr r₀ ∧
    LoopRun text (statusLine.length + 2 + (renderLines lines).length) (statusLine.length + 2)
      .noErr r₀ (lineStarts (statusLine.length + 2) lines) (.ret true .noErr r₁)
  size : r'.httpHeadersSize = lines.length
  names : ∀ (i : Fin xiHttpMaxHeaders) line, lines[i.val]? = some line →
    cstr (r'.httpHeaders i).name = some (nameOf line) ∧ nameOf line ++ [58] <+: line
  content : r'.httpContent = strncpy _ payload

/-! ### The cursor -/

variable {content : Text} {blank ptr i : ℕ} {e : XiErr} {r : HttpResponse} {calls : List ℕ}
  {o : Outcome XiErr HttpResponse Bool}

/-- The next line end does not lead past one that is known: no line end starts with the last byte
of another. -/
lemma next_lineEnd (hblank : xiHttpCrlf <+: content.drop blank) (hptr : ptr ≤ blank)
    (hi : strstr xiHttpCrlf (content.drop ptr) = some i) :
    ptr + (i + 2) ≤ blank ∨ ptr + (i + 2) = blank + 2 := by
  obtain ⟨⟨u, hu⟩, -, hfirst⟩ := strstr_some hi
  obtain ⟨j, rfl⟩ := Nat.exists_eq_add_of_le hptr
  rw [← List.drop_drop] at hblank
  have hle : i ≤ j := by
    by_contra hlt
    exact hfirst j (not_le.mp hlt) hblank
  have hne : i + 1 ≠ j := by
    rintro rfl
    obtain ⟨v, hv⟩ := hblank
    rw [← List.drop_drop, ← hu] at hv
    exact absurd (List.cons.inj hv).1 (by decide)
  omega

/-- In front of the empty line or at it, the loop does not get past that. -/
lemma calls_within (hfirst : xiHttpCrlf <+: content.drop blank)
    (hsecond : xiHttpCrlf <+: content.drop (blank + 2))
    (hrun : LoopRun content (blank + 2) ptr e r calls o) (hptr : ptr ≤ blank ∨ ptr = blank + 2) :
    ∀ p ∈ calls, p ≤ blank + 2 := by
  have hhere {p : ℕ} (hp : p ≤ blank ∨ p = blank + 2) : ∀ q ∈ [p], q ≤ blank + 2 := by
    simp only [List.mem_singleton, forall_eq]
    omega
  induction hrun with
  | fault hcall => exact hhere hptr
  | refused hcall => exact hhere hptr
  | stopped hcall hend => exact hhere hptr
  | moved hcall hend hrun ih =>
    obtain ⟨-, -, i, k, -, hi, -, hfit, -, rfl, -⟩ := parseHttpHeader_some hcall
    refine List.forall_mem_cons.mpr ⟨by omega, ih ?_⟩
    rcases hptr with hle | rfl
    · exact next_lineEnd hfirst hle hi
    · -- the line would be the empty one, which has no name
      rw [strstr_eq_zero hsecond] at hi
      cases hi
      omega

/-- A loop that starts in front of the empty line or at it, and does not run out of rounds. -/
lemma scanStops_of_headerLoop (hfirst : xiHttpCrlf <+: content.drop blank)
    (hsecond : xiHttpCrlf <+: content.drop (blank + 2)) (hptr : ptr ≤ blank ∨ ptr = blank + 2)
    (hloop : headerLoop content (blank + 2) xiHttpMaxHeaders ptr e r = o)
    (ho : o ≠ .fault .diverge)
    (hstops : ∀ calls, LoopRun content (blank + 2) ptr e r calls o →
      Stops content (blank + 2) ptr calls o) :
    ∃ calls o, ScanStops content (blank + 2) ptr e r calls o := by
  obtain ⟨calls, hrun, hlen⟩ := exists_loopRun hloop ho
  exact ⟨calls, o, hrun, fun _ _ => hrun.unique, hloop, hlen,
    calls_within hfirst hsecond hrun hptr, hstops calls hrun⟩

/-- The loop behind the status line stops. -/
lemma exists_scanStops {text : CString} (hblank : strstr xiHttpCrlfX2 text.bytes = some blank)
    {e' : XiErr} {r₀ : HttpResponse}
    (hstatus : parseHttpStatus text.bytes e .zero = .ret (some ptr) e' r₀) :
    ∃ calls o, ScanStops text.bytes (blank + 2) ptr e' r₀ calls o := by
  obtain ⟨i, hi, -, rfl, rfl, rfl⟩ := parseHttpStatus_some hstatus
  obtain ⟨u, hu⟩ := (strstr_some hblank).1
  have hfirst : xiHttpCrlf <+: text.bytes.drop blank := ⟨xiHttpCrlf ++ u, hu⟩
  have hsecond : xiHttpCrlf <+: text.bytes.drop (blank + 2) := by
    rw [← List.drop_drop, ← hu]
    exact ⟨u, rfl⟩
  have hptr : i + 2 ≤ blank ∨ i + 2 = blank + 2 := by
    have hnext := next_lineEnd hfirst (Nat.zero_le blank) hi
    rwa [Nat.zero_add] at hnext
  have hverdict := loopEnds_status text.bytes (blank + 2) (i + 2)
  cases hv : headersVerdict text.bytes (blank + 2) 15 (i + 2) with
  | good =>
    rw [hv] at hverdict
    obtain ⟨r₁, hr₁⟩ := hverdict
    refine scanStops_of_headerLoop hfirst hsecond hptr (hr₁ e') (by simp) fun calls hrun => ?_
    obtain ⟨lines, -, hlines, hlen, hcalls, hheaders, -⟩ :=
      lines_of_loopRun text.noNul hrun (indexed_status _)
    exact ⟨lines, fun l hl => (hheaders l hl).1, hcalls, hlines, hlen.symm⟩
  | refused =>
    rw [hv] at hverdict
    obtain ⟨x, r₁, hx, hr₁⟩ := hverdict
    exact scanStops_of_headerLoop hfirst hsecond hptr (hr₁ e') (by simp) fun _ _ => hx
  | crash =>
    rw [hv] at hverdict
    exact scanStops_of_headerLoop hfirst hsecond hptr (hverdict e') (by simp) fun _ _ => rfl

/-! ### Accepted replies -/

lemma nameOf_line {line : Text} (h : 58 ∈ line) : nameOf line ++ [58] <+: line := by
  obtain ⟨name, value, rfl, hno⟩ := List.eq_append_cons_of_mem h
  rw [nameOf_colon hno]
  exact ⟨value, by simp⟩

/-- An accepted reply is read line by line. -/
lemma readByLines {text : CString} {e' : XiErr} {r' : HttpResponse}
    (hrun : parseHttp text.bytes e r = .ret true e' r') :
    ∃ statusLine lines payload, ReadByLines text.bytes statusLine lines payload r' := by
  obtain ⟨statusLine, lines, payload, r₁, htiled, hloop, hindexed, rfl⟩ := parseHttp_tiled hrun
  obtain ⟨-, -, -, -, -, -, hscan, -⟩ := parseHttp_accepted hrun
  have hline : strstr xiHttpCrlf text.bytes = some statusLine.length := by
    have hsearch := strstr_line htiled.status.2 (renderLines lines ++ xiHttpCrlf ++ payload)
    rw [htiled.text_eq]
    simpa only [List.append_assoc] using hsearch
  refine ⟨statusLine, lines, payload, htiled,
    ⟨_, r₁, parseHttpStatus_good hline hscan .noErr .zero, hloop⟩, ?_, fun j line hj => ?_, rfl⟩
  · rw [← List.length_map (f := nameOf)]
    exact hindexed.size
  · have hname : (lines.map nameOf)[j.val]? = some (nameOf line) := by
      rw [List.getElem?_map, hj, Option.map_some]
    exact ⟨(hindexed.stored j _ hname).1,
      nameOf_line (htiled.headers line (List.mem_of_getElem? hj)).2⟩

/-- **The header scan**: behind a status line that is read, the loop over the header lines of a text
with an empty line stops within as many calls as there are slots, with an error or at the empty
line, and never gets past that; and an accepted reply is read line by line up to there. -/
theorem headerScan_tiles (text : CString) {blank : ℕ}
    (hblank : strstr xiHttpCrlfX2 text.bytes = some blank) :
    (∀ e e' ptr r₀, parseHttpStatus text.bytes e .zero = .ret (some ptr) e' r₀ →
      ∃ calls o, ScanStops text.bytes (blank + 2) ptr e' r₀ calls o) ∧
    ∀ e e' r r', parseHttp text.bytes e r = .ret true e' r' →
      ∃ statusLine lines payload, ReadByLines text.bytes statusLine lines payload r' :=
  ⟨fun _ _ _ _ => exists_scanStops hblank, fun _ _ _ _ => readByLines⟩

lemma zero_not_mem_dated : 0 ∉ dated.text := by decide +kernel

def datedText : CString := ⟨dated.text, zero_not_mem_dated⟩

/-- A reply with three headers. -/
theorem headerScan_dated : strstr xiHttpCrlfX2 datedText.bytes = some 39 ∧
    (∃ ptr r₀ calls o, parseHttpStatus datedText.bytes .noErr .zero = .ret (some ptr) .noErr r₀ ∧
      ScanStops datedText.bytes 41 ptr .noErr r₀ calls o) ∧
    ∃ r', parseHttp datedText.bytes .noErr .zero = .ret true .noErr r' ∧
      ∃ statusLine lines payload, ReadByLines datedText.bytes statusLine lines payload r' := by
  have hblank : strstr xiHttpCrlfX2 datedText.bytes = some 39 := by decide +kernel
  have hline : strstr xiHttpCrlf datedText.bytes = some 15 := by decide +kernel
  have hscan : (scan xiHttpStatusPattern datedText.bytes).length = 4 := by decide +kernel
  have hstatus := parseHttpStatus_good hline hscan .noErr .zero
  obtain ⟨r', hrun, -⟩ := parseHttp_reads wellFormed_dated (by decide) .zero
  obtain ⟨calls, o, hstops⟩ := (headerScan_tiles datedText hblank).1 _ _ _ _ hstatus
  exact ⟨hblank, ⟨_, _, calls, o, hstatus, hstops⟩, r', hrun,
    (headerScan_tiles datedText hblank).2 _ _ _ _ hrun⟩

end LibXively.Tiling
