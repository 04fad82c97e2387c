import LibXively.CLib.CharArray
import LibXively.CLib.Decimal
import LibXively.Model.Structures

/-!
The copier of `xi_helpers.c`, on the memory behind its source pointer.

The data layer calls it on texts, where it is `CsvData.xiStrCopyUntiln`. Here it reads one byte
after the other, and returns its count as the `int` it is declared with.
-/

namespace LibXively.XiHelpers

open LibXively.Bytes LibXively.Decimal LibXively.CProc LibXively.CharArray LibXively.Structures

/-- The bytes behind a pointer, where they may be read. -/
abbrev Memory := ℕ → Option Byte

variable {n : ℕ}

/-- The loop, with `counter` bytes copied. The source is read before the room is looked at. -/
def copyLoop (src : Memory) (delim : Byte) : ℕ → ℕ → Proc XiErr (Buf n) ℤ
  | 0, _ => crash .diverge
  | k + 1, counter => do
    let c ← orCrash (src counter) .overread
    if c ≠ delim ∧ counter < n - 1 ∧ c ≠ 0 then do
      store counter [c]
      copyLoop src delim k (counter + 1)
    else do
      store counter [0]
      return toInt32 counter

/-- `xi_str_copy_untiln( dst, sizeof( dst ), src, delim )`. The room ends the loop, so no more
rounds are needed. -/
def xiStrCopyUntiln (src : Memory) (delim : Byte) : Proc XiErr (Buf n) ℤ :=
  copyLoop src delim n 0

end LibXively.XiHelpers
