import Mathlib.Algebra.Order.Ring.Int
import Mathlib.Data.List.Induction
import Mathlib.Tactic.Ring
import LibXively.CLib.Bytes

/-!
Decimal text: what `%d` and `%0Nd` print, and the number a run of digits stands for.
-/

namespace LibXively.Decimal

open LibXively.Bytes

def isDigit (c : Byte) : Bool := 48 ≤ c && c ≤ 57

/-- The decimal digits of a number, most significant first. -/
def digits (n : ℕ) : Text := (Nat.toDigits 10 n).map fun c => c.toUInt8

/-- The number a run of digits stands for. -/
def value (t : Text) : ℕ := t.foldl (fun v c => 10 * v + (c.toNat - 48)) 0

/-- The digits of `n`, filled up with zeros to `w` places. -/
def pad (w n : ℕ) : Text := List.replicate (w - (digits n).length) 48 ++ digits n

/-- `%d`. -/
def fmtD (v : ℤ) : Text := if v < 0 then 45 :: digits v.natAbs else digits v.natAbs

/-- `%0wd`: the sign counts as one of the `w` places. -/
def fmtD0 (w : ℕ) (v : ℤ) : Text :=
  if v < 0 then 45 :: pad (w - 1) v.natAbs else pad w v.natAbs

/-- The `int` a number is reduced to when it is out of range. -/
def toInt32 (v : ℤ) : ℤ := Int.bmod v (2 ^ 32)

lemma toInt32_eq {v : ℤ} (h1 : -2 ^ 31 ≤ v) (h2 : v < 2 ^ 31) : toInt32 v = v := by
  unfold toInt32
  exact Int.bmod_eq_of_le (by norm_num; omega) (by norm_num; omega)

lemma toInt32_bounds (v : ℤ) : -2 ^ 31 ≤ toInt32 v ∧ toInt32 v < 2 ^ 31 := by
  have h1 : -(2 ^ 32 / 2 : ℤ) ≤ toInt32 v := Int.le_bmod (by norm_num)
  have h2 : toInt32 v < (2 ^ 32 + 1) / 2 := Int.bmod_lt (by norm_num)
  omega

lemma dvd_sub_of_toInt32 {x y : ℤ} (h : toInt32 x = toInt32 y) : (2 ^ 32 : ℤ) ∣ x - y := by
  exact_mod_cast Int.dvd_of_bmod_eq_zero (Int.bmod_eq_bmod_iff_bmod_sub_eq_zero.mp h)

/-! ### Digits -/

lemma isDigit_iff {c : Byte} : isDigit c = true ↔ 48 ≤ c.toNat ∧ c.toNat ≤ 57 := by
  simp [isDigit, UInt8.le_iff_toNat_le]

lemma char_isDigit_bounds {c : Char} (h : c.isDigit = true) : 48 ≤ c.toNat ∧ c.toNat ≤ 57 := by
  simp only [Char.isDigit, ge_iff_le, Bool.and_eq_true, decide_eq_true_eq,
    UInt32.le_iff_toNat_le] at h
  exact h

lemma toUInt8_toNat {c : Char} (h : c.isDigit = true) : c.toUInt8.toNat = c.toNat := by
  have hb := char_isDigit_bounds h
  have : c.toUInt8.toNat = c.toNat % 256 := UInt32.toNat_toUInt8 c.val
  omega

lemma isDigit_of_mem_digits {n : ℕ} {c : Byte} (h : c ∈ digits n) : isDigit c = true := by
  obtain ⟨d, hd, rfl⟩ := List.mem_map.mp h
  have hdig := Nat.isDigit_of_mem_toDigits (by norm_num) (by norm_num) hd
  rw [isDigit_iff, toUInt8_toNat hdig]
  exact char_isDigit_bounds hdig

@[simp] lemma digits_ne_nil (n : ℕ) : digits n ≠ [] := by simp [digits]

lemma length_digits_le {n k : ℕ} (hk : 0 < k) (h : n < 10 ^ k) : (digits n).length ≤ k := by
  rw [digits, List.length_map]
  exact (Nat.length_toDigits_le_iff (by norm_num) hk).mpr h

/-! ### Values -/

lemma foldl_value (v : ℕ) (t : Text) :
    t.foldl (fun v c => 10 * v + (c.toNat - 48)) v = v * 10 ^ t.length + value t := by
  induction t generalizing v with
  | nil => simp [value]
  | cons c t ih =>
    have h0 := ih (10 * 0 + (c.toNat - 48))
    have hv := ih (10 * v + (c.toNat - 48))
    simp only [value, List.foldl_cons, List.length_cons] at h0 hv ⊢
    rw [h0, hv]; ring

lemma value_append (t u : Text) : value (t ++ u) = value t * 10 ^ u.length + value u := by
  rw [value, List.foldl_append, foldl_value]; rfl

@[simp] lemma value_digits (n : ℕ) : value (digits n) = n := by
  have hfold : ∀ (l : List Char) (v : ℕ), (∀ c ∈ l, c.isDigit = true) →
      (l.map fun c => c.toUInt8).foldl (fun v c => 10 * v + (c.toNat - 48)) v
        = Nat.ofDigitChars 10 l v := by
    intro l
    induction l with
    | nil => intro v _; rfl
    | cons c l ih =>
      intro v hl
      have hc := toUInt8_toNat (hl c (by simp))
      rw [List.map_cons, List.foldl_cons, hc, ih _ fun d hd => hl d (by simp [hd]),
        Nat.ofDigitChars_cons]
      rfl
  rw [value, digits, hfold _ 0 fun c hc =>
    Nat.isDigit_of_mem_toDigits (by norm_num) (by norm_num) hc]
  exact Nat.ofDigitChars_ten_toDigits

lemma value_cons (c : Byte) (t : Text) :
    value (c :: t) = (c.toNat - 48) * 10 ^ t.length + value t := by
  rw [← List.singleton_append, value_append]
  simp [value]

/-- A run of digits is smaller than the power of ten of its length. -/
lemma value_lt {t : Text} (h : ∀ c ∈ t, isDigit c = true) : value t < 10 ^ t.length := by
  induction t with
  | nil => exact Nat.one_pos
  | cons c t ih =>
    have hc := isDigit_iff.mp (h c (List.mem_cons_self ..))
    have hlt := ih fun d hd => h d (List.mem_cons_of_mem _ hd)
    have hle : (c.toNat - 48) * 10 ^ t.length ≤ 9 * 10 ^ t.length :=
      Nat.mul_le_mul_right _ (by omega)
    rw [value_cons, List.length_cons, pow_succ]
    omega

/-- Runs of digits of one length are told by their values. -/
lemma value_injective {t u : Text} (ht : ∀ c ∈ t, isDigit c = true)
    (hu : ∀ c ∈ u, isDigit c = true) (hlen : t.length = u.length) (h : value t = value u) :
    t = u := by
  induction t generalizing u with
  | nil => exact (List.length_eq_zero_iff.mp hlen.symm).symm
  | cons c t ih =>
    cases u with
    | nil => cases hlen
    | cons d u =>
      have hlen' : t.length = u.length := Nat.succ_injective hlen
      have hc := isDigit_iff.mp (ht c (List.mem_cons_self ..))
      have hd := isDigit_iff.mp (hu d (List.mem_cons_self ..))
      have ht' : ∀ x ∈ t, isDigit x = true := fun x hx => ht x (List.mem_cons_of_mem _ hx)
      have hu' : ∀ x ∈ u, isDigit x = true := fun x hx => hu x (List.mem_cons_of_mem _ hx)
      have htlt := value_lt ht'
      have hult := value_lt hu'
      rw [value_cons, value_cons, hlen'] at h
      rw [hlen'] at htlt
      -- the first digit is the quotient by the power, and the rest the remainder
      have hpos : 0 < 10 ^ u.length := Nat.pow_pos (by norm_num)
      have hquot := congrArg (· / 10 ^ u.length) h
      have hrem := congrArg (· % 10 ^ u.length) h
      simp only [Nat.mul_add_mod_of_lt htlt, Nat.mul_add_mod_of_lt hult] at hrem
      simp only [Nat.mul_comm _ (10 ^ u.length), Nat.mul_add_div hpos, Nat.div_eq_of_lt htlt,
        Nat.div_eq_of_lt hult, Nat.add_zero] at hquot
      have hbyte : c = d := UInt8.toNat_inj.mp (by omega)
      rw [hbyte, ih ht' hu' hlen' hrem]

lemma value_replicate_zero (k : ℕ) : value (List.replicate k 48) = 0 := by
  induction k with
  | zero => rfl
  | succ k ih => rw [List.replicate_succ', value_append, ih]; simp [value]

/-! ### Padding -/

@[simp] lemma value_pad (w n : ℕ) : value (pad w n) = n := by
  rw [pad, value_append, value_replicate_zero]; simp

lemma isDigit_of_mem_pad {w n : ℕ} {c : Byte} (h : c ∈ pad w n) : isDigit c = true := by
  rcases List.mem_append.mp h with h | h
  · rw [List.eq_of_mem_replicate h]; decide
  · exact isDigit_of_mem_digits h

lemma length_pad {w n : ℕ} (hw : 0 < w) (h : n < 10 ^ w) : (pad w n).length = w := by
  have := length_digits_le hw h
  simp only [pad, List.length_append, List.length_replicate]
  omega

/-- A run of digits is its value, filled up to its length. -/
lemma pad_value {w : ℕ} {t : Text} (hw : 0 < w) (h : ∀ c ∈ t, isDigit c = true)
    (hlen : t.length = w) : pad w (value t) = t := by
  have hlt : value t < 10 ^ w := hlen ▸ value_lt h
  exact value_injective (fun _ => isDigit_of_mem_pad) h (by rw [length_pad hw hlt, hlen])
    (value_pad w _)

lemma pad_ne_nil (w n : ℕ) : pad w n ≠ [] := by simp [pad]

lemma fmtD_natCast (n : ℕ) : fmtD n = digits n := by simp [fmtD]

lemma fmtD0_natCast (w n : ℕ) : fmtD0 w n = pad w n := by simp [fmtD0]

/-- Only digits and the minus sign occur in a printed number. -/
lemma of_mem_fmtD {v : ℤ} {c : Byte} (h : c ∈ fmtD v) : isDigit c = true ∨ c = 45 := by
  unfold fmtD at h
  split at h
  · rcases List.mem_cons.mp h with rfl | h
    · exact Or.inr rfl
    · exact Or.inl (isDigit_of_mem_digits h)
  · exact Or.inl (isDigit_of_mem_digits h)

lemma of_mem_fmtD0 {w : ℕ} {v : ℤ} {c : Byte} (h : c ∈ fmtD0 w v) :
    isDigit c = true ∨ c = 45 := by
  unfold fmtD0 at h
  split at h
  · rcases List.mem_cons.mp h with rfl | h
    · exact Or.inr rfl
    · exact Or.inl (isDigit_of_mem_pad h)
  · exact Or.inl (isDigit_of_mem_pad h)

/-- A printed number tells the number. -/
lemma fmtD0_injective {w : ℕ} {u v : ℤ} (h : fmtD0 w u = fmtD0 w v) : u = v := by
  have hsign {k n : ℕ} {t : Text} (hpad : pad k n = 45 :: t) : False := by
    have hminus : isDigit 45 = true := isDigit_of_mem_pad (hpad ▸ List.mem_cons_self ..)
    exact absurd hminus (by decide)
  unfold fmtD0 at h
  split at h <;> split at h
  · have hvalue := congrArg value (List.cons.inj h).2
    rw [value_pad, value_pad] at hvalue
    omega
  · exact (hsign h.symm).elim
  · exact (hsign h).elim
  · have hvalue := congrArg value h
    rw [value_pad, value_pad] at hvalue
    omega

/-- Numbers that fill the same places are told by what they are printed as, whatever stands
behind. -/
lemma pad_append_inj {w m n : ℕ} {t u : Text} (hw : 0 < w) (hm : m < 10 ^ w) (hn : n < 10 ^ w)
    (h : pad w m ++ t = pad w n ++ u) : m = n ∧ t = u := by
  obtain ⟨hpad, htail⟩ := List.append_inj h (by rw [length_pad hw hm, length_pad hw hn])
  have hvalue := congrArg value hpad
  rw [value_pad, value_pad] at hvalue
  exact ⟨hvalue, htail⟩

/-- An `int` has at most ten digits. -/
lemma length_fmtD_toInt32_le (v : ℤ) : (fmtD (toInt32 v)).length ≤ 11 := by
  obtain ⟨h1, h2⟩ := toInt32_bounds v
  have hlen : (digits (toInt32 v).natAbs).length ≤ 10 :=
    length_digits_le (by norm_num) (by omega)
  unfold fmtD
  split
  · rw [List.length_cons]; omega
  · omega

end LibXively.Decimal
