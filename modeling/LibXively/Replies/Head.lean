import LibXively.Replies.Headers

/-!
The head of a reply, and when `parse_http` accepts a reply.

What the parser does up to the end of the header section does not depend on the error variable.
Behind it, the parser takes whatever is in the error variable for an error of the head.
-/

namespace LibXively.Head

open LibXively.Bytes LibXively.Scanf LibXively.CProc LibXively.CharArray LibXively.Structures
open LibXively.HttpParser LibXively.Headers

/-! ### Well-formed heads -/

/-- What the parser makes of a head. -/
inductive Verdict
  | good
  | refused
  | crash
  deriving DecidableEq

/-- What becomes of a line that cannot be stored. -/
def lineVerdict (line : Text) : Verdict := if headerCrashes line then .crash else .refused

/-- What becomes of the header section from `ptr` on, with the given number of slots left in front
of the last one: header lines that can be stored have to lead to its end. -/
def headersVerdict (content : Text) (headersEnd : ℕ) : ℕ → ℕ → Verdict
  | 0, ptr => lineVerdict (content.drop ptr)
  | k + 1, ptr =>
    match headerMoved (content.drop ptr) with
    | none => lineVerdict (content.drop ptr)
    | some moved =>
      if ptr + moved = headersEnd then .good else headersVerdict content headersEnd k (ptr + moved)

/-- The head of a reply is good if there is an empty line, a status line with its four values, and
at most fifteen header lines that lead from the status line to the empty line. -/
def headVerdict (content : Text) : Verdict :=
  match strstr xiHttpCrlfX2 content, strstr xiHttpCrlf content with
  | some headersEnd, some statusEnd =>
    if (scan xiHttpStatusPattern content).length = 4 then
      headersVerdict content (headersEnd + 2) (xiHttpMaxHeaders - 1) (statusEnd + 2)
    else .refused
  | _, _ => .refused

/-- The parts of a good head. -/
lemma headVerdict_good {content : Text} (h : headVerdict content = .good) :
    ∃ headersEnd statusEnd, strstr xiHttpCrlfX2 content = some headersEnd ∧
      strstr xiHttpCrlf content = some statusEnd ∧
      (scan xiHttpStatusPattern content).length = 4 ∧
      headersVerdict content (headersEnd + 2) 15 (statusEnd + 2) = .good := by
  unfold headVerdict at h
  split at h
  · next headersEnd statusEnd hend hstatus =>
    split at h
    · next hscan => exact ⟨headersEnd, statusEnd, hend, hstatus, hscan, h⟩
    · cases h
  · cases h

/-! ### The status line -/

lemma parseHttpStatus_none {t : Text} (h : strstr xiHttpCrlf t = none) (e : XiErr)
    (r : HttpResponse) : parseHttpStatus t e r = .ret none .httpStatusParseError r := by
  simp [parseHttpStatus, errHandling, h]

lemma parseHttpStatus_good {t : Text} {i : ℕ} (h : strstr xiHttpCrlf t = some i)
    (hscan : (scan xiHttpStatusPattern t).length = 4) (e : XiErr) (r : HttpResponse) :
    parseHttpStatus t e r =
      .ret (some (i + 2)) e (storeStatus (scan xiHttpStatusPattern t) r) := by
  simp [parseHttpStatus, errHandling, h, hscan]

lemma parseHttpStatus_bad {t : Text} {i : ℕ} (h : strstr xiHttpCrlf t = some i)
    (hscan : (scan xiHttpStatusPattern t).length ≠ 4) (e : XiErr) (r : HttpResponse) :
    parseHttpStatus t e r =
      .ret none .httpStatusParseError (storeStatus (scan xiHttpStatusPattern t) r) := by
  simp [parseHttpStatus, errHandling, h, hscan]

/-- A call that succeeds has found a line end and four values. -/
lemma parseHttpStatus_some {t : Text} {m : ℕ} {e e' : XiErr} {r r' : HttpResponse}
    (h : parseHttpStatus t e r = .ret (some m) e' r') :
    ∃ i, strstr xiHttpCrlf t = some i ∧ (scan xiHttpStatusPattern t).length = 4 ∧ m = i + 2 ∧
      e' = e ∧ r' = storeStatus (scan xiHttpStatusPattern t) r := by
  cases hi : strstr xiHttpCrlf t with
  | none =>
    rw [parseHttpStatus_none hi] at h
    cases h
  | some i =>
    by_cases hscan : (scan xiHttpStatusPattern t).length = 4
    · rw [parseHttpStatus_good hi hscan] at h
      cases h
      exact ⟨i, rfl, hscan, rfl, rfl, rfl⟩
    · rw [parseHttpStatus_bad hi hscan] at h
      cases h

/-! ### The header loop -/

section Rounds

variable {content : Text} {headersEnd k ptr moved : ℕ} {e x : XiErr} {r r' : HttpResponse}

lemma headerLoop_refused (h : parseHttpHeader (content.drop ptr) e r = .ret none x r') :
    headerLoop content headersEnd (k + 1) ptr e r = .ret false x r' := by
  rw [headerLoop, bind_apply, h]
  rfl

lemma headerLoop_fault {f : Fault} (h : parseHttpHeader (content.drop ptr) e r = .fault f) :
    headerLoop content headersEnd (k + 1) ptr e r = .fault f := by
  rw [headerLoop, bind_apply, h]
  rfl

lemma headerLoop_moved (headersEnd k : ℕ)
    (h : parseHttpHeader (content.drop ptr) e r = .ret (some moved) x r') :
    headerLoop content headersEnd (k + 1) ptr e r =
      if ptr + moved = headersEnd then .ret true x r'
      else headerLoop content headersEnd k (ptr + moved) x r' := by
  rw [headerLoop, bind_apply, h, andThen_ret]
  by_cases hend : ptr + moved = headersEnd <;> simp [hend]

end Rounds

/-- What the loop does, as far as the verdict goes: the error variable has no part in it. -/
def LoopEnds (content : Text) (headersEnd k ptr : ℕ) (r : HttpResponse) : Verdict → Prop
  | .good => ∃ r', ∀ e, headerLoop content headersEnd (k + 1) ptr e r = .ret true e r'
  | .refused => ∃ x r', x ≠ .noErr ∧
      ∀ e, headerLoop content headersEnd (k + 1) ptr e r = .ret false x r'
  | .crash => ∀ e, headerLoop content headersEnd (k + 1) ptr e r = .fault .badLength

lemma loopEnds_line {content : Text} {headersEnd k ptr : ℕ} {r : HttpResponse}
    (hm : headerMoved (content.drop ptr) = none) (hslot : r.httpHeadersSize < xiHttpMaxHeaders) :
    LoopEnds content headersEnd k ptr r (lineVerdict (content.drop ptr)) := by
  unfold lineVerdict
  by_cases hc : headerCrashes (content.drop ptr) = true
  · rw [if_pos hc]
    exact fun e => headerLoop_fault (parseHttpHeader_crashes hc hslot e)
  · rw [if_neg hc]
    obtain ⟨r', hr'⟩ := parseHttpHeader_refused hm (Bool.not_eq_true _ ▸ hc) hslot
    exact ⟨.httpHeaderParseError, r', by decide, fun e => headerLoop_refused (hr' e)⟩

/-- A round that moves on leaves it to the next ones how the loop ends. -/
lemma LoopEnds.moved {content : Text} {headersEnd k ptr next : ℕ} {r r₁ : HttpResponse}
    {v : Verdict} (h : LoopEnds content headersEnd k next r₁ v)
    (hstep : ∀ e, headerLoop content headersEnd (k + 2) ptr e r =
      headerLoop content headersEnd (k + 1) next e r₁) :
    LoopEnds content headersEnd (k + 1) ptr r v := by
  cases v with
  | good =>
    obtain ⟨r', hr'⟩ := h
    exact ⟨r', fun e => (hstep e).trans (hr' e)⟩
  | refused =>
    obtain ⟨x, r', hx, hr'⟩ := h
    exact ⟨x, r', hx, fun e => (hstep e).trans (hr' e)⟩
  | crash => exact fun e => (hstep e).trans (h e)

/-- The loop runs through to the end of the headers and leaves the error variable alone, or it
stops with an error, or it faults. -/
lemma headerLoop_verdict (content : Text) (headersEnd : ℕ) {k ptr : ℕ} {r : HttpResponse}
    (hr : r.httpHeadersSize + (k + 1) = xiHttpMaxHeaders) :
    LoopEnds content headersEnd k ptr r (headersVerdict content headersEnd k ptr) := by
  induction k generalizing ptr r with
  | zero =>
    have hslot : r.httpHeadersSize < xiHttpMaxHeaders := by omega
    rw [headersVerdict]
    cases hm : headerMoved (content.drop ptr) with
    | none => exact loopEnds_line hm hslot
    | some moved =>
      -- the line takes the last slot
      obtain ⟨i, j, -, -, -, hrun⟩ := parseHttpHeader_stored hm hslot
      have hcount : xiHttpMaxHeaders ≤ r.httpHeadersSize + 1 := by omega
      simp only [if_pos hcount] at hrun
      rw [lineVerdict, headerCrashes_of_moved hm, if_neg Bool.false_ne_true]
      exact ⟨.httpHeaderParseError, _, by decide, fun e => headerLoop_refused (hrun e)⟩
  | succ k ih =>
    have hslot : r.httpHeadersSize < xiHttpMaxHeaders := by omega
    rw [headersVerdict]
    cases hm : headerMoved (content.drop ptr) with
    | none => exact loopEnds_line hm hslot
    | some moved =>
      obtain ⟨i, j, -, -, -, hrun⟩ := parseHttpHeader_stored hm hslot
      have hcount : ¬ xiHttpMaxHeaders ≤ r.httpHeadersSize + 1 := by omega
      simp only [if_neg hcount] at hrun
      by_cases hend : ptr + moved = headersEnd
      · simp only [if_pos hend]
        exact ⟨_, fun e => by rw [headerLoop_moved _ _ (hrun e), if_pos hend]⟩
      · have hstep (e : XiErr) := headerLoop_moved headersEnd (k + 1) (hrun e)
        simp only [if_neg hend] at hstep ⊢
        have hrest := @ih (ptr + moved) (storeHeader r ⟨r.httpHeadersSize, hslot⟩
          ((content.drop ptr).take j) (((content.drop ptr).drop (j + 2)).take (i - (j + 2))))
          (by simp only [storeHeader]; omega)
        exact hrest.moved hstep

/-! ### Runs of the header loop -/

/-- A run of the loop over the header lines, however many rounds it takes: the positions at which
it calls `parse_http_header`, and what it comes to. -/
inductive LoopRun (content : Text) (headersEnd : ℕ) :
    ℕ → XiErr → HttpResponse → List ℕ → Outcome XiErr HttpResponse Bool → Prop
  | fault {ptr e r f} (h : parseHttpHeader (content.drop ptr) e r = .fault f) :
      LoopRun content headersEnd ptr e r [ptr] (.fault f)
  | refused {ptr e e' r r'} (h : parseHttpHeader (content.drop ptr) e r = .ret none e' r') :
      LoopRun content headersEnd ptr e r [ptr] (.ret false e' r')
  | stopped {ptr e e' r r' moved}
      (h : parseHttpHeader (content.drop ptr) e r = .ret (some moved) e' r')
      (hend : ptr + moved = headersEnd) :
      LoopRun content headersEnd ptr e r [ptr] (.ret true e' r')
  | moved {ptr e e' r r' moved calls o}
      (h : parseHttpHeader (content.drop ptr) e r = .ret (some moved) e' r')
      (hend : ptr + moved ≠ headersEnd)
      (hrun : LoopRun content headersEnd (ptr + moved) e' r' calls o) :
      LoopRun content headersEnd ptr e r (ptr :: calls) o

section Runs

variable {content : Text} {headersEnd k ptr : ℕ} {e : XiErr} {r : HttpResponse} {calls : List ℕ}
  {o : Outcome XiErr HttpResponse Bool}

lemma parseHttpHeader_not_goto {t : Text} {e' : XiErr} {r' : HttpResponse} :
    parseHttpHeader t e r ≠ .goto e' r' := by
  intro h
  unfold parseHttpHeader errHandling at h
  split at h
  · cases h
  · next hno => exact hno _ _ h

/-- What the loop comes to within its bound, it comes to in a run. -/
lemma exists_loopRun (h : headerLoop content headersEnd k ptr e r = o) (ho : o ≠ .fault .diverge) :
    ∃ calls, LoopRun content headersEnd ptr e r calls o ∧ calls.length ≤ k := by
  induction k generalizing ptr e r with
  | zero => exact absurd h.symm ho
  | succ k ih =>
    cases hline : parseHttpHeader (content.drop ptr) e r with
    | goto e' r' => exact absurd hline parseHttpHeader_not_goto
    | fault f =>
      rw [headerLoop_fault hline] at h
      subst h
      exact ⟨[ptr], .fault hline, Nat.succ_pos k⟩
    | ret a e' r' =>
      cases a with
      | none =>
        rw [headerLoop_refused hline] at h
        subst h
        exact ⟨[ptr], .refused hline, Nat.succ_pos k⟩
      | some moved =>
        rw [headerLoop_moved headersEnd k hline] at h
        split at h
        · next hend =>
          subst h
          exact ⟨[ptr], .stopped hline hend, Nat.succ_pos k⟩
        · next hend =>
          obtain ⟨calls, hrun, hlen⟩ := ih h
          exact ⟨ptr :: calls, .moved hline hend hrun, Nat.succ_le_succ hlen⟩

/-- There is only one run. -/
lemma LoopRun.unique {calls' : List ℕ} {o' : Outcome XiErr HttpResponse Bool}
    (h : LoopRun content headersEnd ptr e r calls o)
    (h' : LoopRun content headersEnd ptr e r calls' o') : calls' = calls ∧ o' = o := by
  induction h generalizing calls' o' with
  | moved h hend hrun ih =>
    cases h' with
    | moved h' hend' hrun' =>
      rw [h] at h'
      cases h'
      obtain ⟨rfl, rfl⟩ := ih hrun'
      exact ⟨rfl, rfl⟩
    | _ => simp_all
  | _ => cases h' <;> simp_all

end Runs

/-! ### The head -/

/-- The payload of a reply: what stands behind its first empty line. -/
def payloadOf (content : Text) : Text :=
  (strstr xiHttpCrlfX2 content).elim [] fun headersEnd => content.drop (headersEnd + 4)

/-- What the parser does up to the end of the head, as far as the verdict goes: it gets there and
leaves the error variable alone, or it does not, or an error is pending there. -/
def HeadEnds (content : Text) : Verdict → Prop
  | .good => ∃ p r', content.drop p = payloadOf content ∧
      ∀ e r, parseHead content e r = .ret p e r'
  | .refused => (∃ p x r', x ≠ .noErr ∧ ∀ e r, parseHead content e r = .ret p x r') ∨
      ∃ x r', x ≠ .noErr ∧ ∀ e r, parseHead content e r = .goto x r'
  | .crash => ∀ e r, parseHead content e r = .fault .badLength

/-- Behind its status line, the head is the header loop. -/
lemma parseHead_loop {content : Text} {headersEnd statusEnd : ℕ}
    (hend : strstr xiHttpCrlfX2 content = some headersEnd)
    (hstatus : strstr xiHttpCrlf content = some statusEnd)
    (hscan : (scan xiHttpStatusPattern content).length = 4) (e : XiErr) (r : HttpResponse) :
    parseHead content e r =
      (headerLoop content (headersEnd + 2) xiHttpMaxHeaders (statusEnd + 2) e
        (storeStatus (scan xiHttpStatusPattern content) .zero)).andThen
          fun _ => pure (headersEnd + 4) := by
  simp [parseHead, hend, parseHttpStatus_good hstatus hscan]

/-- The status line leaves all slots to the loop. -/
lemma loopEnds_status (content : Text) (headersEnd ptr : ℕ) :
    LoopEnds content headersEnd 15 ptr (storeStatus (scan xiHttpStatusPattern content) .zero)
      (headersVerdict content headersEnd 15 ptr) := by
  refine headerLoop_verdict content headersEnd ?_
  unfold storeStatus
  split <;> rfl

lemma parseHead_verdict (content : Text) : HeadEnds content (headVerdict content) := by
  unfold headVerdict
  cases hend : strstr xiHttpCrlfX2 content with
  | none => exact .inr ⟨.httpParseError, .zero, by decide, fun e r => by simp [parseHead, hend]⟩
  | some headersEnd =>
    cases hstatus : strstr xiHttpCrlf content with
    | none =>
      exact .inr ⟨.httpParseError, .zero, by decide, fun e r => by
        simp [parseHead, hend, parseHttpStatus_none hstatus]⟩
    | some statusEnd =>
      by_cases hscan : (scan xiHttpStatusPattern content).length = 4
      · have hrun := parseHead_loop hend hstatus hscan
        have hloop := loopEnds_status content (headersEnd + 2) (statusEnd + 2)
        simp only [if_pos hscan]
        cases hv : headersVerdict content (headersEnd + 2) 15 (statusEnd + 2) with
        | good =>
          rw [hv] at hloop
          obtain ⟨r', hr'⟩ := hloop
          exact ⟨_, r', by rw [payloadOf, hend]; rfl, fun e r => by rw [hrun, hr']; rfl⟩
        | refused =>
          rw [hv] at hloop
          obtain ⟨x, r', hx, hr'⟩ := hloop
          exact .inl ⟨_, x, r', hx, fun e r => by rw [hrun, hr']; rfl⟩
        | crash =>
          rw [hv] at hloop
          exact fun e r => by rw [hrun, hloop]; rfl
      · simp only [if_neg hscan]
        exact .inr ⟨.httpParseError, storeStatus (scan xiHttpStatusPattern content) .zero,
          by decide, fun e r => by simp [parseHead, hend, parseHttpStatus_bad hstatus hscan]⟩

/-! ### The verdict on a reply -/

/-- A reply with a good head is accepted if no error is pending, and rejected with the pending
error otherwise. -/
lemma parseHttp_good {content : Text} (h : headVerdict content = .good) :
    ∃ r' : HttpResponse, (∀ r, parseHttp content .noErr r =
        .ret true .noErr { r' with httpContent := strncpy _ (payloadOf content) }) ∧
      ∀ e r, e ≠ .noErr → parseHttp content e r = .ret false e r' := by
  have hends := parseHead_verdict content
  rw [h] at hends
  obtain ⟨p, r', hp, hr'⟩ := hends
  refine ⟨r', fun r => ?_, fun e r he => ?_⟩
  · simp [parseHttp, errHandling, hr', xiGetLastError, hp]
  · simp [parseHttp, errHandling, hr', xiGetLastError, he]

/-- A reply whose head is refused is rejected with an error, whatever error is pending. -/
lemma parseHttp_refused {content : Text} (h : headVerdict content = .refused) :
    ∃ x r', x ≠ .noErr ∧ ∀ e r, parseHttp content e r = .ret false x r' := by
  have hends := parseHead_verdict content
  rw [h] at hends
  rcases hends with ⟨p, x, r', hx, hr'⟩ | ⟨x, r', hx, hr'⟩
  · exact ⟨x, r', hx, fun e r => by simp [parseHttp, errHandling, hr', xiGetLastError, hx]⟩
  · exact ⟨x, r', hx, fun e r => by simp [parseHttp, errHandling, hr']⟩

lemma parseHttp_crash {content : Text} (h : headVerdict content = .crash) (e : XiErr)
    (r : HttpResponse) : parseHttp content e r = .fault .badLength := by
  have hends := parseHead_verdict content
  rw [h] at hends
  simp [parseHttp, errHandling, hends e r]

/-- What an accepted reply has gone through: no error was pending, the loop has come to the end of
the headers, and the payload is copied behind it. -/
lemma parseHttp_accepted {content : Text} {e e' : XiErr} {r r' : HttpResponse}
    (h : parseHttp content e r = .ret true e' r') : e = .noErr ∧ ∃ headersEnd statusEnd r₁,
      strstr xiHttpCrlfX2 content = some headersEnd ∧
      strstr xiHttpCrlf content = some statusEnd ∧
      (scan xiHttpStatusPattern content).length = 4 ∧
      headerLoop content (headersEnd + 2) xiHttpMaxHeaders (statusEnd + 2) .noErr
        (storeStatus (scan xiHttpStatusPattern content) .zero) = .ret true .noErr r₁ ∧
      r' = { r₁ with httpContent := strncpy _ (content.drop (headersEnd + 4)) } := by
  cases hv : headVerdict content with
  | refused =>
    obtain ⟨x, s, -, hrejects⟩ := parseHttp_refused hv
    rw [hrejects e r] at h
    cases h
  | crash =>
    rw [parseHttp_crash hv e r] at h
    cases h
  | good =>
    have he : e = .noErr := by
      by_contra he
      obtain ⟨s, -, hrejects⟩ := parseHttp_good hv
      rw [hrejects e r he] at h
      cases h
    subst he
    obtain ⟨headersEnd, statusEnd, hend, hstatus, hscan, hheaders⟩ := headVerdict_good hv
    have hloop := loopEnds_status content (headersEnd + 2) (statusEnd + 2)
    rw [hheaders] at hloop
    obtain ⟨r₁, hr₁⟩ := hloop
    have hhead : parseHead content .noErr r = .ret (headersEnd + 4) .noErr r₁ := by
      rw [parseHead_loop hend hstatus hscan, hr₁]
      rfl
    have hrun : parseHttp content .noErr r = .ret true .noErr
        { r₁ with httpContent := strncpy _ (content.drop (headersEnd + 4)) } := by
      simp [parseHttp, errHandling, hhead, xiGetLastError]
    rw [hrun] at h
    cases h
    exact ⟨rfl, headersEnd, statusEnd, r₁, hend, hstatus, hscan, hr₁ .noErr, rfl⟩

end LibXively.Head
