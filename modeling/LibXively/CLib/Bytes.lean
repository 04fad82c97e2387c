import Mathlib.Tactic.Lemma
import Mathlib.Tactic.Cases
import Mathlib.Tactic.Common
import Mathlib.Data.List.Basic

/-!
Byte strings and the first-occurrence search of `strstr`.

A text is the list of the bytes in front of its terminating NUL. A pointer into a text is the
number of bytes in front of it, so that `strstr` answers with the index of the match and the
difference of two pointers is a difference of indices.
-/

namespace LibXively.Bytes

/-- One `char`, as the bit pattern it holds. -/
abbrev Byte := UInt8

abbrev Text := List Byte

/-- The bytes of a string literal of the source. -/
def lit (s : String) : Text := s.toList.map fun c => c.toUInt8

/-- A NUL-terminated argument string. -/
structure CString where
  bytes : Text
  noNul : 0 ∉ bytes

variable {α : Type} [DecidableEq α]

/-- `strstr`: the index of the first occurrence of `p`. -/
def strstr (p : List α) : List α → Option ℕ
  | [] => if p = [] then some 0 else none
  | c :: t => if p.isPrefixOf (c :: t) then some 0 else (strstr p t).map (· + 1)

/-! ### What the search finds -/

lemma strstr_eq_zero {p t : List α} (h : p <+: t) : strstr p t = some 0 := by
  cases t with
  | nil => simp [strstr, List.prefix_nil.mp h]
  | cons c t => simp [strstr, List.isPrefixOf_iff_prefix.mpr h]

lemma strstr_cons {p : List α} {c : α} {t : List α} (h : ¬ p <+: c :: t) :
    strstr p (c :: t) = (strstr p t).map (· + 1) := by
  simp [strstr, List.isPrefixOf_iff_prefix, h]

/-- A found index splits the text at a copy of `p`, and no copy starts earlier. -/
lemma strstr_some {p t : List α} {i : ℕ} (h : strstr p t = some i) :
    p <+: t.drop i ∧ i ≤ t.length ∧ ∀ j < i, ¬ p <+: t.drop j := by
  induction t generalizing i with
  | nil =>
    by_cases hp : p = []
    · simp [strstr, hp] at h
      subst h; simp [hp]
    · simp [strstr, hp] at h
  | cons c t ih =>
    by_cases hp : p <+: c :: t
    · rw [strstr_eq_zero hp] at h
      cases h; simpa using hp
    · rw [strstr_cons hp] at h
      obtain ⟨k, hk, rfl⟩ := Option.map_eq_some_iff.mp h
      obtain ⟨h1, h2, h3⟩ := ih hk
      refine ⟨by simpa using h1, by simpa using h2, fun j hj => ?_⟩
      cases j with
      | zero => simpa using hp
      | succ j => simpa using h3 j (by omega)

/-! ### Computing a search -/

/-- The search passes over a stretch that does not hold the first byte of `p`. -/
lemma strstr_append {c : α} {p a : List α} (h : c ∉ a) (t : List α) :
    strstr (c :: p) (a ++ t) = (strstr (c :: p) t).map (a.length + ·) := by
  induction a with
  | nil => simp
  | cons b a ih =>
    have hb : ¬ (c :: p) <+: b :: (a ++ t) := by
      intro hc
      rw [List.cons_prefix_cons] at hc
      exact h (by simp [hc.1])
    rw [List.cons_append, strstr_cons hb, ih (fun hm => h (by simp [hm]))]
    cases strstr (c :: p) t <;> simp; omega

lemma strstr_append_self {c : α} {p a : List α} (h : c ∉ a) (t : List α) :
    strstr (c :: p) (a ++ (c :: p) ++ t) = some a.length := by
  rw [List.append_assoc, strstr_append h, strstr_eq_zero (List.prefix_append _ _)]
  simp

lemma strstr_singleton_none {c : α} {t : List α} (h : c ∉ t) : strstr [c] t = none := by
  have := strstr_append (p := []) h []
  simpa [strstr] using this

/-- A search for one byte stops at the first copy of that byte. -/
lemma strstr_singleton {c : α} {t : List α} {i : ℕ} (h : strstr [c] t = some i) :
    t = t.take i ++ c :: t.drop (i + 1) ∧ c ∉ t.take i := by
  obtain ⟨hp, -, hbefore⟩ := strstr_some h
  obtain ⟨u, hu⟩ := hp
  have hlt : i < t.length := by
    by_contra hge
    rw [List.drop_eq_nil_of_le (by omega)] at hu
    simp at hu
  have hd := List.drop_eq_getElem_cons hlt
  have hc : t[i] = c := by
    rw [hd] at hu
    simpa using (List.cons.inj hu).1.symm
  refine ⟨by rw [← hc, ← hd, List.take_append_drop], fun hm => ?_⟩
  obtain ⟨j, hj, hjc⟩ := List.mem_iff_getElem.mp hm
  have hji : j < i := by simp at hj; omega
  refine hbefore j hji ⟨t.drop (j + 1), ?_⟩
  rw [List.getElem_take] at hjc
  rw [← hjc]
  exact (List.drop_eq_getElem_cons (by omega)).symm

lemma strstr_singleton_append {c : α} {a : List α} (h : c ∉ a) (t : List α) :
    strstr [c] (a ++ c :: t) = some a.length := by
  simpa using strstr_append_self (p := []) h t

lemma strstr_singleton_front {c : α} {a : List α} (h : c ∉ a) (t u : List α) :
    strstr [c] (a ++ c :: t ++ u) = some a.length := by
  rw [List.append_assoc]
  exact strstr_singleton_append h _

/-- A search for two different bytes passes over a stretch that does not hold them, wherever that
ends. -/
lemma strstr_pair_append {c d : α} {a : List α} (hcd : c ≠ d) (h : ¬ [c, d] <:+: a) (t : List α) :
    strstr [c, d] (a ++ c :: d :: t) = some a.length := by
  induction a with
  | nil => exact strstr_eq_zero ⟨t, rfl⟩
  | cons x a ih =>
    rw [List.infix_cons_iff, not_or] at h
    obtain ⟨hhead, htail⟩ := h
    have hx : ¬ [c, d] <+: x :: (a ++ c :: d :: t) := by
      intro hp
      obtain ⟨rfl, hnext⟩ := List.cons_prefix_cons.mp hp
      cases a with
      | nil => exact hcd (List.cons_prefix_cons.mp hnext).1.symm
      | cons y a =>
        have hd := (List.cons_prefix_cons.mp hnext).1
        exact hhead ⟨a, by rw [hd]; rfl⟩
    rw [List.cons_append, strstr_cons hx, ih htail]
    rfl

end LibXively.Bytes
