import Mathlib.Data.List.TakeWhile
import Mathlib.Tactic.Ring
import LibXively.CLib.Bytes
import LibXively.CLib.CProc

/-!
Character arrays of a fixed size, and the functions of `string.h` and `stdio.h` that write them.
-/

namespace LibXively.CharArray

open LibXively.Bytes LibXively.CProc

/-- `char a[ n ]`. -/
structure Buf (n : ℕ) where
  bytes : List Byte
  size_eq : bytes.length = n
  deriving DecidableEq

variable {n : ℕ}

/-- `memset( a, 0, n )`. -/
def zero (n : ℕ) : Buf n := ⟨List.replicate n 0, by simp⟩

/-- The array with `t` stored from index `off` on. -/
def put (b : Buf n) (off : ℕ) (t : Text) : Buf n :=
  if h : off + t.length ≤ n then
    ⟨b.bytes.take off ++ t ++ b.bytes.drop (off + t.length), by
      have := b.size_eq
      simp only [List.length_append, List.length_take, List.length_drop]
      omega⟩
  else b

/-- `strncpy( a, src, n )`: at most `n` bytes, and zeros behind them. -/
def strncpy (n : ℕ) (src : Text) : Buf n :=
  ⟨src.take n ++ List.replicate (n - src.length) 0, by simp; omega⟩

/-- The string in the array, if it is terminated inside the array. -/
def cstr (b : Buf n) : Option Text :=
  if 0 ∈ b.bytes then some (b.bytes.takeWhile (· ≠ 0)) else none

section Writing

variable {ε : Type}

/-- Store bytes from index `off` on. -/
def store (off : ℕ) (t : Text) : Proc ε (Buf n) Unit :=
  if off + t.length ≤ n then modify fun b => put b off t else crash .overrun

/-- `snprintf( a + off, size, .. )` of a text: the text is cut to the room there is. The room
handed over has to be positive and inside the array. -/
def snprintf (off : ℕ) (size : ℤ) (t : Text) : Proc ε (Buf n) ℤ :=
  if size ≤ 0 ∨ n < off + size then crash .overrun
  else do
    store off (t.take (size.toNat - 1) ++ [0])
    return t.length

/-- `memcpy( a, src, len )`. -/
def memcpy (src : Text) (len : ℤ) : Proc ε (Buf n) Unit :=
  if len < 0 then crash .badLength
  else if src.length < len then crash .overread
  else store 0 (src.take len.toNat)

/-- Read the string in the array. -/
def readStr : Proc ε (Buf n) Text := fun e b => orCrash (cstr b) .overread e b

end Writing

/-! ### Contents -/

@[ext] lemma ext {b c : Buf n} (h : b.bytes = c.bytes) : b = c := by
  cases b; cases c; simpa using h

lemma bytes_put {b : Buf n} {off : ℕ} {t : Text} (h : off + t.length ≤ n) :
    (put b off t).bytes = b.bytes.take off ++ t ++ b.bytes.drop (off + t.length) := by
  simp [put, h]

/-- What is stored behind a known front extends it. -/
lemma prefix_put {b : Buf n} {t u : Text} (ht : t <+: b.bytes) (h : t.length + u.length ≤ n) :
    t ++ u <+: (put b t.length u).bytes := by
  rw [bytes_put h, ← List.prefix_iff_eq_take.mp ht]
  exact List.prefix_append _ _

lemma takeWhile_of_starts {t l : Text} (ht : 0 ∉ t) (h : t ++ [0] <+: l) :
    l.takeWhile (· ≠ 0) = t := by
  obtain ⟨r, rfl⟩ := h
  rw [List.append_assoc, List.takeWhile_append_of_pos fun c hc => by
    simpa using fun h0 : c = 0 => ht (h0 ▸ hc)]
  simp

lemma cstr_of_starts {b : Buf n} {t : Text} (ht : 0 ∉ t) (h : t ++ [0] <+: b.bytes) :
    cstr b = some t := by
  have hmem : 0 ∈ b.bytes := h.subset (by simp)
  rw [cstr, if_pos hmem, takeWhile_of_starts ht h]

lemma cstr_eq_none {b : Buf n} : cstr b = none ↔ 0 ∉ b.bytes := by
  unfold cstr; split <;> simp_all

/-- A terminated array holds a string. -/
lemma exists_cstr {b : Buf n} (h : 0 ∈ b.bytes) : ∃ t, cstr b = some t := by
  rw [← Option.isSome_iff_exists, Option.isSome_iff_ne_none, ne_eq, cstr_eq_none]
  exact not_not.mpr h

lemma zero_mem_of_cstr {b : Buf n} {t : Text} (h : cstr b = some t) : 0 ∈ b.bytes := by
  by_contra h0
  rw [cstr_eq_none.mpr h0] at h
  cases h

lemma zero_not_mem_of_cstr {b : Buf n} {t : Text} (h : cstr b = some t) : 0 ∉ t := by
  unfold cstr at h
  split at h
  · cases h
    intro h0
    simpa using List.mem_takeWhile_imp h0
  · simp at h

/-- A string is shorter than the array it is terminated in. -/
lemma length_lt_of_cstr {b : Buf n} {t : Text} (h : cstr b = some t) : t.length < n := by
  unfold cstr at h
  split at h
  · next h0 =>
    cases h
    have hne : b.bytes.takeWhile (· ≠ 0) ≠ b.bytes := by
      intro he
      rw [← he] at h0
      simpa using List.mem_takeWhile_imp h0
    have hp := List.takeWhile_prefix (p := (· ≠ 0)) (l := b.bytes)
    have hlt : (b.bytes.takeWhile (· ≠ 0)).length < b.bytes.length :=
      lt_of_le_of_ne hp.length_le fun he => hne (hp.eq_of_length he)
    rwa [b.size_eq] at hlt
  · simp at h

@[simp] lemma cstr_zero (hn : 0 < n) : cstr (zero n) = some [] :=
  cstr_of_starts (by simp) (by
    obtain ⟨k, rfl⟩ := Nat.exists_eq_add_of_lt hn
    simp [zero, List.replicate_succ])

lemma cstr_strncpy {src : Text} (h0 : 0 ∉ src) (h : src.length < n) :
    cstr (strncpy n src) = some src := by
  refine cstr_of_starts h0 ?_
  have hlen : n - src.length = (n - src.length - 1) + 1 := by omega
  simp only [strncpy]
  rw [List.take_of_length_le h.le, hlen, List.replicate_succ]
  exact ⟨List.replicate (n - src.length - 1) 0, by simp⟩

/-! ### What a write does -/

variable {ε : Type}

lemma store_apply {off : ℕ} {t : Text} (h : off + t.length ≤ n) (e : ε) (b : Buf n) :
    store off t e b = .ret () e (put b off t) := by
  simp [store, h]

lemma readStr_apply {b : Buf n} {t : Text} (h : cstr b = some t) (e : ε) :
    readStr e b = .ret t e b := by
  simp [readStr, h]

/-- A print into room that is there: the text up to the room, the terminator, and the length the
whole text has. -/
lemma snprintf_apply {off : ℕ} {size : ℤ} (h1 : 0 < size) (h2 : off + size ≤ n) (t : Text)
    (e : ε) (b : Buf n) : snprintf off size t e b =
      .ret t.length e (put b off (t.take (size.toNat - 1) ++ [0])) := by
  have hlen : off + (t.take (size.toNat - 1) ++ [0]).length ≤ n := by
    simp only [List.length_append, List.length_take, List.length_singleton]; omega
  rw [snprintf, if_neg (by omega)]
  simp [store_apply hlen]

lemma memcpy_apply {src : Text} {len : ℕ} (h1 : len ≤ n) (h2 : len ≤ src.length) (e : ε)
    (b : Buf n) : memcpy src len e b = .ret () e (put b 0 (src.take len)) := by
  have hlen : 0 + (src.take len).length ≤ n := by simp; omega
  rw [memcpy, if_neg (by omega), if_neg (by omega), Int.toNat_natCast, store_apply hlen]

/-! ### Texts at the front of the array -/

/-- The array starts with the text. -/
def Starts (t : Text) (b : Buf n) : Prop := t <+: b.bytes

lemma Starts.of_append {t u : Text} {b : Buf n} (h : Starts (t ++ u) b) : Starts t b :=
  (List.prefix_append t u).trans h

lemma starts_nil (b : Buf n) : Starts [] b := List.nil_prefix

/-- A cleared array starts with the empty string. -/
lemma starts_zero (hn : 0 < n) : Starts ([] ++ [0]) (zero n) := by
  obtain ⟨k, hk⟩ := Nat.exists_eq_add_of_lt hn
  exact ⟨List.replicate k 0, by simp [zero, hk, List.replicate_succ]⟩

/-- A print behind a known front extends it by the text, or by what there is room for. -/
lemma returns_snprintf {t : Text} {size : ℤ} (h1 : 0 < size) (h2 : t.length + size ≤ n)
    (u : Text) : Returns (Starts t) (snprintf t.length size u : Proc ε (Buf n) ℤ) u.length none
      (Starts (t ++ u.take (size.toNat - 1) ++ [0])) := by
  intro e b hb
  refine ⟨_, snprintf_apply h1 h2 u e b, ?_⟩
  have := prefix_put hb (u := u.take (size.toNat - 1) ++ [0]) (by
    simp only [List.length_append, List.length_take, List.length_singleton]; omega)
  rwa [← List.append_assoc] at this

/-- The string at the front of the array is what is read from it. -/
lemma returns_readStr {t : Text} (h0 : 0 ∉ t) :
    Returns (Starts (t ++ [0])) (readStr : Proc ε (Buf n) Text) t none (Starts (t ++ [0])) := by
  intro e b hb
  exact ⟨b, by simp [readStr, cstr_of_starts h0 hb], hb⟩

end LibXively.CharArray
