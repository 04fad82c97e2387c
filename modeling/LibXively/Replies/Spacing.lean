import LibXively.Replies.Headers

/-!
White space behind the colon of a header.

The parser passes over one byte behind the colon, whatever that is. Where the line has no white
space there, this byte is the first one of the value.
-/

namespace LibXively.Spacing

open LibXively.Bytes LibXively.CProc LibXively.CharArray LibXively.Structures
open LibXively.HttpParser LibXively.Headers

/-- A space or a tab. -/
def Blank (c : Byte) : Prop := c = 32 ∨ c = 9

/-- A header line with white space behind its colon. -/
structure SpacedHeader where
  name : Text
  space : Text
  value : Text
  name_length : 1 ≤ name.length ∧ name.length ≤ 63
  name_bytes : ∀ c ∈ name, c ≠ 58 ∧ c ≠ 13 ∧ c ≠ 10 ∧ c ≠ 0
  space_length : space.length ≤ 3
  space_bytes : ∀ c ∈ space, Blank c
  value_length : 1 ≤ value.length ∧ value.length ≤ 60
  value_bytes : ∀ c ∈ value, c ≠ 13 ∧ c ≠ 10 ∧ c ≠ 0
  value_head : ∀ c ∈ value.head?, ¬ Blank c
  value_last : ∀ c ∈ value.getLast?, ¬ Blank c

namespace SpacedHeader

def line (h : SpacedHeader) : Text := h.name ++ 58 :: (h.space ++ h.value)

/-- The header is accepted on a cleared response, and its name and its value are what it says, the
value up to white space in front of it. -/
def ReadAsSent (h : SpacedHeader) (rest : Text) : Prop :=
  ∀ e, ∃ m r', parseHttpHeader (h.line ++ xiHttpCrlf ++ rest) e .zero = .ret (some m) e r' ∧
    r'.httpHeadersSize = 1 ∧ cstr (r'.httpHeaders 0).name = some h.name ∧
    ∃ ws, (∀ c ∈ ws, Blank c) ∧ cstr (r'.httpHeaders 0).value = some (ws ++ h.value)

variable {h : SpacedHeader}

lemma cr_not_mem (h : SpacedHeader) : 13 ∉ h.line := by
  have hname : 13 ∉ h.name := fun hc => (h.name_bytes 13 hc).2.1 rfl
  have hspace : 13 ∉ h.space := fun hc => by
    rcases h.space_bytes 13 hc with h32 | h9
    · exact absurd h32 (by decide)
    · exact absurd h9 (by decide)
  have hvalue : 13 ∉ h.value := fun hc => (h.value_bytes 13 hc).1 rfl
  simp [line, hname, hspace, hvalue]

/-- All but the first byte behind the colon is stored. -/
lemma parse_line (h : SpacedHeader) {c : Byte} {stored : Text}
    (hline : h.space ++ h.value = c :: stored) (rest : Text) (e : XiErr) :
    ∃ m r', parseHttpHeader (h.line ++ xiHttpCrlf ++ rest) e .zero = .ret (some m) e r' ∧
      r'.httpHeadersSize = 1 ∧ cstr (r'.httpHeaders 0).name = some h.name ∧
      cstr (r'.httpHeaders 0).value = some stored := by
  have hname : xiHttpHeaderNameMaxSize = 64 := rfl
  have hvalue : xiHttpHeaderValueMaxSize = 64 := rfl
  have h1 := h.name_length
  have h2 := h.space_length
  have h3 := h.value_length
  have hlen := congrArg List.length hline
  rw [List.length_append, List.length_cons] at hlen
  have hcr := h.cr_not_mem
  rw [line, hline] at hcr
  have hrun := @parseHttpHeader_line h.name stored c .zero (by omega)
    (fun hc => (h.name_bytes 58 hc).1 rfl) (by omega) hcr rest (by decide) e
  have h0 : 0 ∉ h.space ++ h.value := by
    rw [List.mem_append]
    rintro (hc | hc)
    · rcases h.space_bytes 0 hc with h32 | h9
      · exact absurd h32 (by decide)
      · exact absurd h9 (by decide)
    · exact (h.value_bytes 0 hc).2.2 rfl
  rw [hline] at h0
  refine ⟨_, _, by rw [line, hline]; exact hrun, rfl, ?_, ?_⟩
  · exact cstr_storeField (fun hc => (h.name_bytes 0 hc).2.2.2 rfl) (by omega)
  · exact cstr_storeField (fun hc => h0 (List.mem_cons_of_mem c hc)) (by omega)

/-- Without white space, the value loses its first byte. -/
lemma not_readAsSent (hspace : h.space = []) (rest : Text) : ¬ h.ReadAsSent rest := by
  intro hread
  have hvalue := h.value_length
  obtain ⟨c, stored, hc⟩ := List.exists_cons_of_ne_nil (List.ne_nil_of_length_pos hvalue.1)
  obtain ⟨m, r', hrun, -, -, hstored⟩ := h.parse_line
    (show h.space ++ h.value = c :: stored by rw [hspace, hc]; rfl) rest .noErr
  obtain ⟨m', r'', hrun', -, -, ws, -, hsent⟩ := hread .noErr
  rw [hrun] at hrun'
  cases hrun'
  rw [hstored, Option.some.injEq] at hsent
  have hlen := congrArg List.length hsent
  rw [hc, List.length_append, List.length_cons] at hlen
  omega

/-- **White space**: a header is read as it has been sent exactly if there is white space behind
its colon. -/
theorem readAsSent_iff (h : SpacedHeader) (rest : Text) : h.ReadAsSent rest ↔ h.space ≠ [] := by
  refine ⟨fun hread hspace => not_readAsSent hspace rest hread, fun hspace e => ?_⟩
  obtain ⟨c, ws, hc⟩ := List.exists_cons_of_ne_nil hspace
  obtain ⟨m, r', hrun, hsize, hname, hvalue⟩ := h.parse_line
    (show h.space ++ h.value = c :: (ws ++ h.value) by rw [hc]; rfl) rest e
  exact ⟨m, r', hrun, hsize, hname, ws,
    fun d hd => h.space_bytes d (by rw [hc]; exact List.mem_cons_of_mem c hd), hvalue⟩

/-- The header line `Age:1`. -/
def tight : SpacedHeader where
  name := lit "Age"
  space := []
  value := lit "1"
  name_length := by decide
  name_bytes := by decide +kernel
  space_length := by decide
  space_bytes := by simp
  value_length := by decide
  value_bytes := by decide +kernel
  value_head := by unfold Blank; rintro _ ⟨⟩; decide
  value_last := by unfold Blank; rintro _ ⟨⟩; decide

/-- The value of `Age:1` is read as the empty string. -/
theorem tight_not_readAsSent :
    (∃ m r', parseHttpHeader (lit "Age:1\r\n") .noErr .zero = .ret (some m) .noErr r' ∧
      cstr (r'.httpHeaders 0).value = some []) ∧ ¬ tight.ReadAsSent [] := by
  refine ⟨?_, not_readAsSent rfl []⟩
  obtain ⟨m, r', hrun, -, -, hvalue⟩ := tight.parse_line
    (show tight.space ++ tight.value = 49 :: [] by decide) [] .noErr
  exact ⟨m, r', hrun, hvalue⟩

end SpacedHeader

end LibXively.Spacing
