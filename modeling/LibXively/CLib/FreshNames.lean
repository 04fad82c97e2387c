import Mathlib.Data.List.Basic
import Mathlib.Data.List.Nodup
import Mathlib.Order.Nat
import Mathlib.Tactic.Common
import Mathlib.Tactic.Lemma

/-!
Lists of names that are handed out in ascending order.

A name is the number of names handed out before it. What is live after a while is what was live at
its start, with names on top that have been handed out since, if only those have been given back.
-/

namespace LibXively.FreshNames

variable {n m k b : ℕ} {old mid new : List ℕ}

/-- Each live name is live once, and is one of the first `n` names. -/
def Live (n : ℕ) (l : List ℕ) : Prop := l.Nodup ∧ ∀ b ∈ l, b < n

/-- On top of `old` there are names from `n` up to `m`, each of them once. -/
def Grown (n m : ℕ) (old new : List ℕ) : Prop :=
  ∃ kept, new = kept ++ old ∧ kept.Nodup ∧ ∀ b ∈ kept, n ≤ b ∧ b < m

lemma Grown.refl (n m : ℕ) (old : List ℕ) : Grown n m old old := ⟨[], rfl, List.nodup_nil, by simp⟩

lemma Grown.mono (h : Grown n m old new) (hm : m ≤ k) : Grown n k old new := by
  obtain ⟨kept, rfl, hnodup, hrange⟩ := h
  exact ⟨kept, rfl, hnodup, fun b hb => ⟨(hrange b hb).1, (hrange b hb).2.trans_le hm⟩⟩

/-- The next name is handed out. -/
lemma Grown.push (h : Grown n m old new) (hn : n ≤ m) : Grown n (m + 1) old (m :: new) := by
  obtain ⟨kept, rfl, hnodup, hrange⟩ := h
  refine ⟨m :: kept, rfl, List.nodup_cons.mpr ⟨fun hm => ?_, hnodup⟩, fun b hb => ?_⟩
  · exact absurd (hrange m hm).2 (lt_irrefl m)
  · rcases List.mem_cons.mp hb with rfl | hb
    · exact ⟨hn, Nat.lt_succ_self b⟩
    · exact ⟨(hrange b hb).1, (hrange b hb).2.trans (Nat.lt_succ_self m)⟩

/-- A name handed out since is given back. -/
lemma Grown.erase (h : Grown n m old new) (hold : ∀ b ∈ old, b < n) (hb : n ≤ b) :
    Grown n m old (new.erase b) := by
  obtain ⟨kept, rfl, hnodup, hrange⟩ := h
  have hnot : b ∉ old := fun hmem => absurd (hold b hmem) (by omega)
  refine ⟨kept.erase b, ?_, hnodup.erase b, fun c hc => hrange c (List.mem_of_mem_erase hc)⟩
  by_cases hmem : b ∈ kept
  · rw [List.erase_append_left _ hmem]
  · rw [List.erase_append_right _ hmem, List.erase_of_not_mem hnot, List.erase_of_not_mem hmem]

lemma Grown.trans (h : Grown n m old mid) (h' : Grown m k mid new) (hn : n ≤ m) (hm : m ≤ k) :
    Grown n k old new := by
  obtain ⟨kept, rfl, hnodup, hrange⟩ := h
  obtain ⟨kept', rfl, hnodup', hrange'⟩ := h'
  refine ⟨kept' ++ kept, by rw [List.append_assoc], ?_, fun b hb => ?_⟩
  · refine List.nodup_append.mpr ⟨hnodup', hnodup, fun b hb c hc hbc => ?_⟩
    have hlow := (hrange' b hb).1
    have hhigh := (hrange c hc).2
    omega
  · rcases List.mem_append.mp hb with hb | hb
    · exact ⟨hn.trans (hrange' b hb).1, (hrange' b hb).2⟩
    · exact ⟨(hrange b hb).1, (hrange b hb).2.trans_le hm⟩

lemma Grown.live (h : Grown n m old new) (hold : Live n old) (hn : n ≤ m) : Live m new := by
  obtain ⟨kept, rfl, hnodup, hrange⟩ := h
  refine ⟨List.nodup_append.mpr ⟨hnodup, hold.1, fun b hb c hc hbc => ?_⟩, fun b hb => ?_⟩
  · have hlow := (hrange b hb).1
    have hhigh := hold.2 c hc
    omega
  · rcases List.mem_append.mp hb with hb | hb
    · exact (hrange b hb).2
    · exact (hold.2 b hb).trans_le hn

lemma Grown.mem (h : Grown n m old new) (hb : b ∈ old) : b ∈ new := by
  obtain ⟨kept, rfl, -⟩ := h
  exact List.mem_append_right kept hb

/-- A selection that takes all the names handed out since does not change exactly if nothing
does. -/
lemma Grown.filter_eq_iff (h : Grown n m old new) {p : ℕ → Bool} (hp : ∀ b, n ≤ b → p b = true) :
    new.filter p = old.filter p ↔ new = old := by
  obtain ⟨kept, rfl, -, hrange⟩ := h
  have hkept : kept.filter p = kept := List.filter_eq_self.mpr fun b hb => hp b (hrange b hb).1
  rw [List.filter_append, hkept, List.append_left_eq_self, List.append_left_eq_self]

end LibXively.FreshNames
