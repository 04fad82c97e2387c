import LibXively.Decoding.Feeds
import LibXively.Model.XiHelpers

/-!
What the copier reads, writes and returns.

The loop is followed on the memory behind its source pointer, of which no more has to be readable
than the part it stops in. On that part it does what the copier of texts does, and the count comes
back as an `int`.
-/

namespace LibXively.BoundedCopy

open LibXively.Bytes LibXively.Decimal LibXively.CProc LibXively.CharArray LibXively.Structures
open LibXively.Feeds LibXively.XiHelpers

/-- The longest text at the front of `src` that has at most `k` bytes, none of them the delimiter
or a NUL. -/
structure LongestFront (delim : Byte) (k : ℕ) (src p : Text) : Prop where
  front : p <+: src
  clean : delim ∉ p ∧ 0 ∉ p
  room : p.length ≤ k
  longest : ∀ q, q <+: src → delim ∉ q ∧ 0 ∉ q → q.length ≤ k → q.length ≤ p.length

/-- The string can be read up to a position. What is behind it may be out of bounds. -/
def ReadableTo (mem : Memory) (src : Text) (k : ℕ) : Prop := ∀ i ≤ k, mem i = (src ++ [0])[i]?

/-- The copier reads no byte behind the longest front it can copy but the next one, and returns the
length of that front. The destination then starts with it and its terminator, and is as it was
behind them. -/
def CopiedRight (n : ℕ) (src : CString) (delim : Byte) : Prop :=
  ∃ p, LongestFront delim (n - 1) src.bytes p ∧ ∀ mem, ReadableTo mem src.bytes p.length →
    ∀ e (dst : Buf n), ∃ dst', xiStrCopyUntiln mem delim e dst = .ret (p.length : ℤ) e dst' ∧
      dst'.bytes = p ++ 0 :: dst.bytes.drop (p.length + 1)

variable {n : ℕ} {delim : Byte}

/-! ### The loop on a text -/

/-- How many bytes of a text the loop goes on for. -/
def runLength (delim : Byte) (room : ℕ) (t : Text) : ℕ :=
  ((t.takeWhile fun c => c ≠ delim ∧ c ≠ 0).take room).length

lemma runLength_cons {c : Byte} (hc : c ≠ delim ∧ c ≠ 0) (room : ℕ) (t : Text) :
    runLength delim (room + 1) (c :: t) = runLength delim room t + 1 := by
  rw [runLength, List.takeWhile_cons_of_pos (by simpa using hc), List.take_succ_cons,
    List.length_cons, runLength]

/-- On memory that holds a text, the loop does what the loop on the text does. -/
lemma copyLoop_text {mem : Memory} {t : Text} {k counter : ℕ} (hk : counter + k = n) (h0 : 0 < k)
    (hmem : ∀ i ≤ runLength delim (n - 1 - counter) t, mem (counter + i) = (t ++ [0])[i]?)
    (e : XiErr) (b : Buf n) : XiHelpers.copyLoop mem delim k counter e b =
      (CsvData.copyLoop delim t counter e b).andThen fun m => pure (toInt32 m) := by
  have hwrite {counter : ℕ} (h : counter < n) (x : Byte) (b : Buf n) :
      store counter [x] e b = .ret () e (put b counter [x]) := store_apply (by simp; omega) e b
  induction t generalizing k counter b with
  | nil =>
    obtain ⟨k, rfl⟩ := Nat.exists_eq_add_of_le' h0
    have hnul : mem counter = some 0 := hmem 0 (Nat.zero_le _)
    simp [XiHelpers.copyLoop, CsvData.copyLoop, hnul, hwrite (by omega : counter < n)]
  | cons c t ih =>
    obtain ⟨k, rfl⟩ := Nat.exists_eq_add_of_le' h0
    have hread : mem counter = some c := hmem 0 (Nat.zero_le _)
    have hlt : counter < n := by omega
    by_cases hc : c ≠ delim ∧ counter < n - 1 ∧ c ≠ 0
    · have hrun : runLength delim (n - 1 - counter) (c :: t) =
          runLength delim (n - 1 - (counter + 1)) t + 1 := by
        rw [← runLength_cons ⟨hc.1, hc.2.2⟩, show n - 1 - counter = n - 1 - (counter + 1) + 1 by
          omega]
      -- the rest of the text stands one byte further on
      have hrest := @ih k (counter + 1) (by omega) (by omega) (fun i hi => by
        have hnext := hmem (i + 1) (by omega)
        rwa [← Nat.add_assoc, Nat.add_right_comm] at hnext) (put b counter [c])
      rw [XiHelpers.copyLoop, CsvData.copyLoop, hread, if_pos hc]
      simpa [hc, hwrite hlt] using hrest
    · rw [XiHelpers.copyLoop, CsvData.copyLoop, hread, if_neg hc]
      simp [hc, hwrite hlt]

/-! ### The longest front -/

lemma longestFront_copied (n : ℕ) (delim : Byte) (src : Text) :
    LongestFront delim (n - 1) src (copied n delim src) := by
  have hclean : ∀ c ∈ copied n delim src, c ≠ delim ∧ c ≠ 0 := fun c hc => by
    simpa using List.mem_takeWhile_imp (List.mem_of_mem_take hc)
  refine ⟨(List.take_prefix _ _).trans (List.takeWhile_prefix _),
    ⟨fun hmem => (hclean _ hmem).1 rfl, fun hmem => (hclean _ hmem).2 rfl⟩,
    List.length_take_le _ _, ?_⟩
  rintro q ⟨rest, rfl⟩ ⟨hdelim, hnul⟩ hroom
  have hq : ∀ c ∈ q, decide (c ≠ delim ∧ c ≠ 0) = true := fun c hc =>
    decide_eq_true ⟨fun h => hdelim (h ▸ hc), fun h => hnul (h ▸ hc)⟩
  rw [copied, List.takeWhile_append_of_pos hq, List.length_take, List.length_append]
  omega

lemma LongestFront.unique {k : ℕ} {src p q : Text} (hp : LongestFront delim k src p)
    (hq : LongestFront delim k src q) : p = q := by
  have hlength : p.length = q.length :=
    le_antisymm (hq.longest p hp.front hp.clean hp.room) (hp.longest q hq.front hq.clean hq.room)
  exact (List.prefix_of_prefix_length_le hp.front hq.front hlength.le).eq_of_length hlength

/-! ### The copier -/

/-- The copier stores the longest front with its terminator, and returns its length as an `int`. -/
lemma xiStrCopyUntiln_run (hn : 2 ≤ n) {src : Text} {mem : Memory}
    (hmem : ReadableTo mem src (copied n delim src).length) (e : XiErr) (dst : Buf n) :
    xiStrCopyUntiln mem delim e dst =
      .ret (toInt32 (copied n delim src).length) e (put dst 0 (copied n delim src ++ [0])) := by
  have hloop : XiHelpers.copyLoop mem delim n 0 e dst =
      (CsvData.xiStrCopyUntiln src delim e dst).andThen fun m => pure (toInt32 m) :=
    copyLoop_text (Nat.zero_add n) (by omega) (fun i hi => by
      rw [Nat.zero_add]
      exact hmem i hi) e dst
  rw [xiStrCopyUntiln, hloop, xiStrCopyUntiln_apply (by omega)]
  rfl

/-- A count of the copier is right only if it is an `int`. -/
lemma CopiedRight.length_lt (hn : 2 ≤ n) {src : CString} (h : CopiedRight n src delim) :
    (copied n delim src.bytes).length < 2 ^ 31 := by
  obtain ⟨p, hp, hcopy⟩ := h
  obtain rfl := hp.unique (longestFront_copied n delim src.bytes)
  let mem : Memory := fun i => (src.bytes ++ [0])[i]?
  have hmem : ReadableTo mem src.bytes (copied n delim src.bytes).length := fun _ _ => rfl
  obtain ⟨dst', hret, -⟩ := hcopy mem hmem .noErr (zero n)
  rw [xiStrCopyUntiln_run hn hmem] at hret
  injection hret with hcount
  have hbound := (toInt32_bounds (copied n delim src.bytes).length).2
  rw [hcount] at hbound
  exact_mod_cast hbound

lemma length_copied (n : ℕ) (src : CString) :
    (copied n delim src.bytes).length =
      min (n - 1) (src.bytes.takeWhile (· ≠ delim)).length := by
  have hclean : src.bytes.takeWhile (fun c => c ≠ delim ∧ c ≠ 0) =
      src.bytes.takeWhile (· ≠ delim) := by
    have hall : src.bytes.takeWhile (· ≠ (0 : Byte)) = src.bytes :=
      List.takeWhile_eq_self_iff.mpr fun c hc => decide_eq_true fun h => src.noNul (h ▸ hc)
    conv_rhs => rw [← hall, List.takeWhile_takeWhile]
    simp
  rw [copied, List.length_take, hclean]

/-- **The bounded copy**: the copier keeps to its bounds and reports the longest front it can copy
exactly if the array has at most 2^31 bytes, or fewer bytes stand in front of the delimiter and the
NUL of the source. -/
theorem copiedRight_iff (n : ℕ) (hn : 2 ≤ n) (src : CString) (delim : Byte) :
    CopiedRight n src delim ↔
      n ≤ 2 ^ 31 ∨ (src.bytes.takeWhile (· ≠ delim)).length < 2 ^ 31 := by
  have hlength := @length_copied delim n src
  constructor
  · intro h
    have hlt := h.length_lt hn
    omega
  · intro h
    refine ⟨_, longestFront_copied n delim src.bytes, fun mem hmem e dst => ?_⟩
    have hcount : toInt32 (copied n delim src.bytes).length =
        (copied n delim src.bytes).length := toInt32_eq (by omega) (by omega)
    have hroom : 0 + (copied n delim src.bytes ++ [0]).length ≤ n := by
      rw [List.length_append, List.length_singleton]
      omega
    refine ⟨_, by rw [xiStrCopyUntiln_run hn hmem, hcount], ?_⟩
    rw [bytes_put hroom, Nat.zero_add, List.take_zero, List.length_append]
    simp

/-- The source of the tests of the copier. -/
def testSource : CString := ⟨lit "test of some string", by decide⟩

/-- Up to the blank, and into an array of two bytes. -/
theorem copiedRight_test : CopiedRight 64 testSource 32 ∧ CopiedRight 2 testSource 48 :=
  ⟨(copiedRight_iff 64 (by decide) testSource 32).mpr (.inl (by norm_num)),
    (copiedRight_iff 2 le_rfl testSource 48).mpr (.inl (by norm_num))⟩

lemma zero_not_mem_letters (n : ℕ) : 0 ∉ List.replicate n (97 : Byte) := fun h =>
  absurd (List.eq_of_mem_replicate h) (by decide)

/-- A string of a number of letters. -/
def letters (n : ℕ) : CString := ⟨List.replicate n 97, zero_not_mem_letters n⟩

lemma length_takeWhile_letters (n : ℕ) :
    ((letters n).bytes.takeWhile (· ≠ (0 : Byte))).length = n := by
  have hall : (letters n).bytes.takeWhile (· ≠ (0 : Byte)) = (letters n).bytes := by
    rw [List.takeWhile_eq_self_iff]
    intro c hc
    rw [List.eq_of_mem_replicate hc]
    decide
  rw [hall]
  exact List.length_replicate

/-- A string of 2^31 bytes is copied, and its length comes back negative. -/
theorem not_copiedRight_letters : ¬ CopiedRight (2 ^ 31 + 1) (letters (2 ^ 31)) 0 := by
  intro h
  have hlt := h.length_lt (by norm_num)
  rw [length_copied, length_takeWhile_letters] at hlt
  omega

end LibXively.BoundedCopy
