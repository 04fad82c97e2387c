import LibXively.Model.Xively
import LibXively.Replies.HeaderCount

/-!
The content of a parsed reply.

The payload is copied with `strncpy` into an array of its own, and the decoders of the two get
functions search the array as a string. The copy puts the terminator behind the payload if there is
room for it, and leaves it out otherwise.
-/

namespace LibXively.Content

open LibXively.Bytes LibXively.CProc LibXively.CharArray LibXively.Structures
open LibXively.HttpParser LibXively.Head LibXively.Render LibXively.HeaderCount
open LibXively.CommLayers LibXively.Xively

/-- The payload of a reply, cut to what fits in front of a terminator. -/
def contentOf (text : Text) : Text := (payloadOf text).take (xiHttpMaxContentSize - 1)

/-- The content of a response is a string, and a decoder that is called on it works on the payload
and on nothing else. -/
structure ParsedContent (text : Text) (r : HttpResponse) : Prop where
  terminated : 0 ∈ r.httpContent.bytes
  string : cstr r.httpContent = some (contentOf text)
  decoded : ∀ (tg : Target) (cl : CommLayer) (δ : Type) (decode : Text → Proc XiErr δ Bool)
    (e : XiErr) (p : Process tg cl × Frame cl δ), p.1.statics.response = r →
      decodeContent decode e p =
        (onDest (decode (contentOf text)) >>= fun o => jumpIf (o = false)) e p

variable {text : Text} {e e' : XiErr} {r r' : HttpResponse}

/-! ### The copy -/

/-- A response to an accepted reply has the copy of the payload. -/
lemma httpContent_of_accepted (h : parseHttp text e r = .ret true e' r') :
    r'.httpContent = strncpy _ (payloadOf text) := by
  obtain ⟨-, headersEnd, statusEnd, r₁, hend, -, -, -, rfl⟩ := parseHttp_accepted h
  rw [payloadOf, hend, Option.elim_some]

lemma zero_not_mem_payloadOf (h0 : 0 ∉ text) : 0 ∉ payloadOf text := by
  unfold payloadOf
  cases strstr xiHttpCrlfX2 text with
  | none => exact List.not_mem_nil
  | some headersEnd => exact fun hmem => h0 (List.mem_of_mem_drop hmem)

/-- A text that fills the array leaves no room for the terminator. -/
lemma zero_not_mem_strncpy {n : ℕ} {src : Text} (h0 : 0 ∉ src) (h : n ≤ src.length) :
    0 ∉ (strncpy n src).bytes := by
  have hbytes : (strncpy n src).bytes = src.take n := by simp [strncpy, h]
  rw [hbytes]
  exact fun hmem => h0 (List.mem_of_mem_take hmem)

/-! ### The decoders -/

/-- A decoder that is called on a string works on it. -/
lemma decodeContent_string {tg : Target} {cl : CommLayer} {δ : Type} {content : Text}
    (decode : Text → Proc XiErr δ Bool) (e : XiErr) {p : Process tg cl × Frame cl δ}
    (h : cstr p.1.statics.response.httpContent = some content) :
    decodeContent decode e p =
      (onDest (decode content) >>= fun o => jumpIf (o = false)) e p := by
  have hread : outer (onStatics (onResponse fun e r =>
      orCrash (cstr r.httpContent) .overread e r)) e p = .ret content e p := by
    simp [outer, onStatics, onResponse, focus, h]
  rw [decodeContent, bind_ret hread]

/-- **The parsed content**: the response to an accepted reply has the payload as a string, cut to
the room there is, exactly if the payload is shorter than its array. -/
theorem parsedContent_iff (text : CString) (h : parseHttp text.bytes e r = .ret true e' r') :
    ParsedContent text.bytes r' ↔ (payloadOf text.bytes).length < xiHttpMaxContentSize := by
  have hmax : xiHttpMaxContentSize = 192 := rfl
  have hcontent := httpContent_of_accepted h
  have h0 := zero_not_mem_payloadOf text.noNul
  constructor
  · intro hparsed
    by_contra hlen
    have hfull := zero_not_mem_strncpy h0 (not_lt.mp hlen)
    rw [← hcontent] at hfull
    exact hfull hparsed.terminated
  · intro hlen
    have hstring : cstr r'.httpContent = some (contentOf text.bytes) := by
      rw [hcontent, cstr_strncpy h0 hlen, contentOf, List.take_of_length_le (by omega)]
    exact ⟨zero_mem_of_cstr hstring, hstring, fun tg cl δ decode e p hp =>
      decodeContent_string decode e (by rw [hp, hstring])⟩

/-! ### Two lengths -/

/-- A reply with one header and a payload. -/
def paying (payload : Text) : Reply := { ages 1 with payload := payload }

/-- A payload of a number of zeros. -/
def zeros (n : ℕ) : Text := List.replicate n 48

lemma length_zeros (n : ℕ) : (zeros n).length = n := List.length_replicate

lemma zero_not_mem_zeros (n : ℕ) : 0 ∉ zeros n := fun hmem =>
  absurd (List.eq_of_mem_replicate hmem) (by decide)

lemma zero_not_mem_paying (n : ℕ) : 0 ∉ (paying (zeros n)).text := by
  have hhead : (0 : Byte) ∉ (ages 1).text := by decide +kernel
  have htext : (paying (zeros n)).text = (ages 1).text ++ zeros n := by
    rw [Reply.text, Reply.text]
    simp [paying, ages, Reply.statusLine]
  rw [htext, List.mem_append, not_or]
  exact ⟨hhead, zero_not_mem_zeros n⟩

def zerosReply (n : ℕ) : CString := ⟨(paying (zeros n)).text, zero_not_mem_paying n⟩

lemma wellFormed_paying (n : ℕ) : WellFormed (paying (zeros n)) :=
  { wellFormed_ages 1 with payload_bytes := zero_not_mem_zeros n }

lemma payloadOf_zerosReply (n : ℕ) : payloadOf (zerosReply n).bytes = zeros n := by
  have hw := wellFormed_paying n
  have hsplit : (zerosReply n).bytes = (paying (zeros n)).statusLine ++
      linesOf (paying (zeros n)).headers ++ xiHttpCrlfX2 ++ zeros n := by
    rw [List.append_assoc, List.append_assoc]
    exact Reply.text_eq _
  have hend : strstr xiHttpCrlfX2 (zerosReply n).bytes = some _ :=
    strstr_headersEnd hw.cr_not_mem hw.headers
  rw [payloadOf, hend, Option.elim_some, hsplit]
  exact List.drop_left' (by simp [xiHttpCrlfX2, Nat.add_assoc])

lemma parseHttp_zerosReply (n : ℕ) :
    ∃ r', parseHttp (zerosReply n).bytes .noErr .zero = .ret true .noErr r' := by
  have hcount : 1 ≤ (ages 1).headers.length ∧ (ages 1).headers.length ≤ xiHttpMaxHeaders - 1 := by
    decide
  obtain ⟨r', hrun, -⟩ := parseHttp_reads (wellFormed_paying n) hcount .zero
  exact ⟨r', hrun⟩

theorem parsedContent_short : ∃ r', parseHttp (zerosReply 5).bytes .noErr .zero =
    .ret true .noErr r' ∧ ParsedContent (zerosReply 5).bytes r' := by
  obtain ⟨r', hrun⟩ := parseHttp_zerosReply 5
  refine ⟨r', hrun, (parsedContent_iff (zerosReply 5) hrun).mpr ?_⟩
  rw [payloadOf_zerosReply, length_zeros]
  decide

/-- A payload that fills the array is left without a terminator. -/
theorem not_parsedContent_full : ∃ r', parseHttp (zerosReply 192).bytes .noErr .zero =
    .ret true .noErr r' ∧ ¬ ParsedContent (zerosReply 192).bytes r' := by
  obtain ⟨r', hrun⟩ := parseHttp_zerosReply 192
  have hfull : 0 ∉ r'.httpContent.bytes := by
    rw [httpContent_of_accepted hrun, payloadOf_zerosReply]
    exact zero_not_mem_strncpy (zero_not_mem_zeros 192) (length_zeros 192).ge
  exact ⟨r', hrun, fun hparsed => hfull hparsed.terminated⟩

end LibXively.Content
