import LibXively.CLib.Decimal

/-!
The order of texts, byte by byte, and numbers printed at a fixed width.
-/

namespace LibXively.TextOrder

open LibXively.Bytes LibXively.Decimal

variable {a b t u : Text} {c : Byte} {w m n : ℕ}

/-- Behind a byte that is the same, what follows decides. -/
lemma cons_lt_cons_self : c :: t < c :: u ↔ t < u := by
  rw [List.cons_lt_cons_iff]
  exact ⟨fun h => h.resolve_left (UInt8.lt_irrefl c) |>.2, fun h => .inr ⟨rfl, h⟩⟩

/-- Behind parts of one length, the parts decide, and what follows them if they are equal. -/
lemma append_lt_append_iff (h : a.length = b.length) :
    a ++ t < b ++ u ↔ a < b ∨ a = b ∧ t < u := by
  induction a generalizing b with
  | nil =>
    obtain rfl := List.length_eq_zero_iff.mp h.symm
    simp
  | cons c a ih =>
    cases b with
    | nil => cases h
    | cons d b =>
      have hlen : a.length = b.length := Nat.succ.inj h
      simp only [List.cons_append, List.cons_lt_cons_iff, ih hlen, List.cons.injEq]
      tauto

/-! ### Numbers -/

/-- Runs of digits of one length are in the order of their values. -/
lemma lt_iff_value_lt (ht : ∀ c ∈ t, isDigit c = true) (hu : ∀ c ∈ u, isDigit c = true)
    (hlen : t.length = u.length) : t < u ↔ value t < value u := by
  induction t generalizing u with
  | nil =>
    obtain rfl := List.length_eq_zero_iff.mp hlen.symm
    simp
  | cons c t ih =>
    cases u with
    | nil => cases hlen
    | cons d u =>
      obtain ⟨hc, ht⟩ := List.forall_mem_cons.mp ht
      obtain ⟨hd, hu⟩ := List.forall_mem_cons.mp hu
      have hlen : t.length = u.length := Nat.succ.inj hlen
      have htlt := value_lt ht
      have hult := value_lt hu
      rw [isDigit_iff] at hc hd
      rw [List.cons_lt_cons_iff, ih ht hu hlen, value_cons, value_cons, hlen]
      rw [hlen] at htlt
      rw [UInt8.lt_iff_toNat_lt, ← UInt8.toNat_inj]
      generalize 10 ^ u.length = k at htlt hult
      rcases lt_trichotomy c.toNat d.toNat with hlt | heq | hgt
      · have hstep : (c.toNat - 48 + 1) * k ≤ (d.toNat - 48) * k :=
          Nat.mul_le_mul_right k (by omega)
        rw [Nat.add_mul] at hstep
        exact iff_of_true (.inl hlt) (by omega)
      · rw [heq]
        omega
      · have hstep : (d.toNat - 48 + 1) * k ≤ (c.toNat - 48) * k :=
          Nat.mul_le_mul_right k (by omega)
        rw [Nat.add_mul] at hstep
        exact iff_of_false (by omega) (by omega)

/-- Numbers that fit a width are printed in their order. -/
lemma pad_lt_pad_iff (hw : 0 < w) (hm : m < 10 ^ w) (hn : n < 10 ^ w) :
    pad w m < pad w n ↔ m < n := by
  rw [lt_iff_value_lt (fun _ => isDigit_of_mem_pad) (fun _ => isDigit_of_mem_pad)
    (by rw [length_pad hw hm, length_pad hw hn]), value_pad, value_pad]

/-- Such numbers in front of other texts. -/
lemma pad_append_lt_iff (hw : 0 < w) (hm : m < 10 ^ w) (hn : n < 10 ^ w) :
    pad w m ++ t < pad w n ++ u ↔ m < n ∨ m = n ∧ t < u := by
  have hinj : pad w m = pad w n ↔ m = n :=
    ⟨fun h => by rw [← value_pad w m, h, value_pad], fun h => by rw [h]⟩
  rw [append_lt_append_iff (by rw [length_pad hw hm, length_pad hw hn]), pad_lt_pad_iff hw hm hn,
    hinj]

end LibXively.TextOrder
