import LibXively.CLib.Decimal

/-!
Message framing of HTTP/1.1: a start line, field lines up to the first empty line, and as many
bytes of body as the `Content-Length` field says, or none without such a field.
-/

namespace LibXively.Framing

open LibXively.Bytes LibXively.Decimal

def crlf : Text := [13, 10]

/-- The lines up to the first empty one, and what stands behind that. -/
def takeLines : ℕ → Text → Option (List Text × Text)
  | 0, _ => none
  | k + 1, t =>
    match strstr crlf t with
    | none => none
    | some 0 => some ([], t.drop 2)
    | some i => (takeLines k (t.drop (i + 2))).map fun x => (t.take i :: x.1, x.2)

/-- Lines, each with its end. -/
def renderLines (ls : List Text) : Text := ls.flatMap (· ++ crlf)

def lowerCase (t : Text) : Text := t.map fun c => if 65 ≤ c ∧ c ≤ 90 then c + 32 else c

/-- The value of a field line with the given lower-case name. -/
def fieldValue (name line : Text) : Option Text :=
  match strstr [58] line with
  | none => none
  | some i =>
    if lowerCase (line.take i) = name then
      some ((line.drop (i + 1)).dropWhile fun c => c = 32 ∨ c = 9)
    else none

/-- The length of the body: a number if there is a `Content-Length` field, and 0 otherwise. -/
def contentLength (fields : List Text) : Option ℕ :=
  match fields.findSome? (fieldValue (lit "content-length")) with
  | none => some 0
  | some v => if v ≠ [] ∧ v.all isDigit then some (value v) else none

structure Message where
  startLine : Text
  fields : List Text
  body : Text
  /-- what stands behind the message -/
  rest : Text
  deriving DecidableEq

/-- The message at the front of a text. -/
def message (t : Text) : Option Message :=
  match takeLines (t.length + 1) t with
  | some (startLine :: fields, r) =>
    match contentLength fields with
    | some n => if n ≤ r.length then some ⟨startLine, fields, r.take n, r.drop n⟩ else none
    | none => none
  | _ => none

/-! ### Lines -/

/-- The text has no end of line in it. -/
def OneLine (t : Text) : Prop := ¬ crlf <:+: t

instance (t : Text) : Decidable (OneLine t) := inferInstanceAs (Decidable (¬ _))

/-- The text has no end of line in it, and makes none with what stands in front of it. -/
def Part (t : Text) : Prop := OneLine t ∧ 10 ∉ t.head?

lemma oneLine_append {a b : Text} (ha : OneLine a) (hb : OneLine b)
    (h : 13 ∉ a.getLast? ∨ 10 ∉ b.head?) : OneLine (a ++ b) := by
  rw [OneLine, List.infix_append_iff_ne_nil]
  rintro (hin | hin | ⟨u, v, hu, hv, huv, hsuf, hpre⟩)
  · exact ha hin
  · exact hb hin
  · obtain ⟨x, u, rfl⟩ := List.exists_cons_of_ne_nil hu
    obtain ⟨y, v, rfl⟩ := List.exists_cons_of_ne_nil hv
    have hlen := congrArg List.length huv
    simp only [crlf, List.length_append, List.length_cons, List.length_nil] at hlen
    obtain rfl : u = [] := List.length_eq_zero_iff.mp (by omega)
    obtain rfl : v = [] := List.length_eq_zero_iff.mp (by omega)
    simp only [crlf, List.cons_append, List.nil_append, List.cons.injEq, and_true] at huv
    obtain ⟨rfl, rfl⟩ := huv
    obtain ⟨a, rfl⟩ := hsuf
    obtain ⟨b, rfl⟩ := hpre
    simp at h

lemma oneLine_of_not_mem {t : Text} (h : 10 ∉ t) : OneLine t :=
  fun hin => h (hin.subset (by simp [crlf]))

lemma part_of_not_mem {t : Text} (h : 10 ∉ t) : Part t :=
  ⟨oneLine_of_not_mem h, fun hh => h (List.mem_of_mem_head? hh)⟩

lemma OneLine.append {a b : Text} (ha : OneLine a) (hb : Part b) : OneLine (a ++ b) :=
  oneLine_append ha hb.1 (Or.inr hb.2)

lemma Part.append {a b : Text} (ha : Part a) (hb : Part b) : Part (a ++ b) := by
  refine ⟨ha.1.append hb, ?_⟩
  cases a with
  | nil => exact hb.2
  | cons c a => exact ha.2

/-- A stretch that does not end a line keeps a line behind it one line. -/
lemma Part.before {a t : Text} (ha : Part a) (hlast : a.getLast?.any (· ≠ 13)) (ht : OneLine t) :
    Part (a ++ t) := by
  cases a with
  | nil => simp at hlast
  | cons c a =>
    refine ⟨oneLine_append ha.1 ht (Or.inl fun h => ?_), ha.2⟩
    rw [Option.mem_def.mp h] at hlast
    exact absurd hlast (by decide)

@[simp] lemma renderLines_nil : renderLines [] = [] := rfl
@[simp] lemma renderLines_cons (l : Text) (ls : List Text) :
    renderLines (l :: ls) = l ++ crlf ++ renderLines ls := by simp [renderLines]
lemma renderLines_append (ls ms : List Text) :
    renderLines (ls ++ ms) = renderLines ls ++ renderLines ms := by simp [renderLines]

/-- Where lines that are rendered from a position on start. -/
def lineStarts : ℕ → List Text → List ℕ
  | _, [] => []
  | p, l :: ls => p :: lineStarts (p + (l.length + 2)) ls

/-- The end of a line is found behind it. -/
lemma strstr_crlf {l : Text} (hl : OneLine l) (rest : Text) :
    strstr crlf (l ++ crlf ++ rest) = some l.length := by
  rw [List.append_assoc]
  exact strstr_pair_append (by decide) hl rest

/-- Rendered lines are read back. -/
lemma takeLines_render {ls : List Text} (h : ∀ l ∈ ls, l ≠ [] ∧ OneLine l) {k : ℕ}
    (hk : ls.length < k) (rest : Text) :
    takeLines k (renderLines ls ++ crlf ++ rest) = some (ls, rest) := by
  induction ls generalizing k with
  | nil =>
    obtain ⟨k, rfl⟩ := Nat.exists_eq_add_of_lt hk
    rfl
  | cons l ls ih =>
    obtain ⟨hne, hl⟩ := h l (by simp)
    cases k with
    | zero => simp at hk
    | succ k =>
      have htext : renderLines (l :: ls) ++ crlf ++ rest =
          l ++ crlf ++ (renderLines ls ++ crlf ++ rest) := by simp
      have hsearch := strstr_crlf hl (renderLines ls ++ crlf ++ rest)
      have hih := @ih (fun m hm => h m (by simp [hm])) k (by simpa using hk)
      have hbehind (t : Text) : (crlf ++ t).drop 2 = t := rfl
      obtain ⟨c, l, rfl⟩ := List.exists_cons_of_ne_nil hne
      rw [htext, takeLines, hsearch]
      simp only [List.append_assoc] at hih
      simp [hbehind, hih]

lemma length_le_renderLines (ls : List Text) : ls.length ≤ (renderLines ls).length := by
  induction ls with
  | nil => simp
  | cons l ls ih => simp [crlf]; omega

/-! ### Fields -/

lemma fieldValue_some {name n v : Text} (hn : (58 : Byte) ∉ n) (hname : lowerCase n = name) :
    fieldValue name (n ++ 58 :: v) = some (v.dropWhile fun c => c = 32 ∨ c = 9) := by
  simp [fieldValue, strstr_singleton_append hn, hname]

lemma fieldValue_none {name n v : Text} (hn : (58 : Byte) ∉ n) (hname : lowerCase n ≠ name) :
    fieldValue name (n ++ 58 :: v) = none := by
  simp [fieldValue, strstr_singleton_append hn, hname]

/-- A message, rendered, with whatever stands behind it, is read back. -/
lemma message_render {startLine : Text} {fields : List Text}
    (h : ∀ l ∈ startLine :: fields, l ≠ [] ∧ OneLine l) {body : Text}
    (hlen : contentLength fields = some body.length) (rest : Text) :
    message (renderLines (startLine :: fields) ++ crlf ++ (body ++ rest)) =
      some ⟨startLine, fields, body, rest⟩ := by
  have hk : (startLine :: fields).length <
      (renderLines (startLine :: fields) ++ crlf ++ (body ++ rest)).length + 1 := by
    have := length_le_renderLines (startLine :: fields)
    rw [List.length_append, List.length_append]
    omega
  rw [message, takeLines_render h hk]
  simp [hlen]

end LibXively.Framing
