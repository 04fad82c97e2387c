import LibXively.Calendar.Mktime
import LibXively.Decoding.Values

/-!
Decoding a datapoint.

The decoder has four ways to end: there is no comma, the timestamp cannot be read, the value does
not fit, or the datapoint is there. Only the last two of them write the datapoint.
-/

namespace LibXively.Datapoints

open LibXively.Bytes LibXively.Decimal LibXively.Scanf LibXively.CProc LibXively.CharArray
open LibXively.XiTime LibXively.Mktime LibXively.Structures LibXively.CsvData LibXively.Values

variable (tg : Target)

/-- The broken-down time of the fields of a timestamp. -/
def scannedTime (ye mo da h m s : ℤ) : XiTm where
  tmYear := ye - 1900
  tmMon := mo - 1
  tmMday := da
  tmHour := h
  tmMin := m
  tmSec := s
  tmWday := 0
  tmYday := 0

/-- The timestamp at the front of a text, or the error it is rejected with. -/
def readStamp (t : Text) : Except XiErr XiTimestamp :=
  match scan timestampPattern t with
  | [.int ye, .int mo, .int da, .int h, .int m, .int s, .int ms] =>
    match xiMktime tg.longBits (scannedTime ye mo da h m s) with
    | some (timestamp, _) =>
      if toInt32 timestamp = -1 then .error .csvTimeConvertionError else .ok ⟨timestamp, ms⟩
    | none => .error .csvTimeConvertionError
  | _ => .error .csvDecodeDatapointParserError

variable {tg} {t : Text} {i : ℕ} {stamp : XiTimestamp} {x : XiErr}

lemma readStamp_error (h : readStamp tg t = .error x) : x ≠ .noErr := by
  unfold readStamp at h
  split at h
  · split at h
    · split at h <;> cases h
      decide
    · cases h; decide
  · cases h; decide

/-! ### The four ends -/

lemma csvDecodeDatapoint_noComma (h : strstr (lit ",") t = none) (e : XiErr) (p : XiDatapoint) :
    csvDecodeDatapoint tg t e p = .ret false .csvDecodeDatapointParserError p := by
  refine errHandling_goto false ?_
  rw [bind_apply, h, checkZero_none, andThen_goto]

/-- Behind the comma, the decoder reads the timestamp and goes on with the value. -/
lemma csvDecodeDatapoint_comma (h : strstr (lit ",") t = some i) (e : XiErr) (p : XiDatapoint) :
    csvDecodeDatapoint tg t e p = match readStamp tg t with
      | .error x => .ret false x p
      | .ok stamp => errHandling false (do
          let r ← csvDecodeValue tg (t.drop (i + 1))
          checkCnd (r = false) .csvDecodeDatapointParserError
          return true) e { p with timestamp := stamp } := by
  have hbegin {f : ℕ → Proc XiErr XiDatapoint Bool} :
      (checkZero (some i) .csvDecodeDatapointParserError >>= f) = f i := rfl
  rw [csvDecodeDatapoint, h, hbegin, readStamp]
  generalize scan timestampPattern t = items
  split
  · next ye mo da hour m s ms =>
    obtain ⟨⟨timestamp, timep⟩, hx⟩ := xiMktime_isSome tg.longBits (scannedTime ye mo da hour m s)
    have htime : (⟨s, m, hour, da, mo - 1, ye - 1900, 0, 0⟩ : XiTm) =
        scannedTime ye mo da hour m s := rfl
    by_cases hstamp : toInt32 timestamp = -1 <;> simp [errHandling, htime, hx, hstamp]
  · simp [errHandling]

lemma csvDecodeDatapoint_badStamp (h : strstr (lit ",") t = some i)
    (hs : readStamp tg t = .error x) (e : XiErr) (p : XiDatapoint) :
    csvDecodeDatapoint tg t e p = .ret false x p := by
  rw [csvDecodeDatapoint_comma h, hs]

/-- A value that does not fit. -/
lemma csvDecodeDatapoint_overflow (h : strstr (lit ",") t = some i)
    (hs : readStamp tg t = .ok stamp)
    (hv : xiValueStringMaxSize ≤ (fieldOf (t.drop (i + 1))).length) (e : XiErr)
    (p : XiDatapoint) :
    csvDecodeDatapoint tg t e p = .ret false .csvDecodeDatapointParserError
      { p with timestamp := stamp, value := overflown (t.drop (i + 1)) p } := by
  rw [csvDecodeDatapoint_comma h, hs]
  refine errHandling_goto false ?_
  rw [bind_apply, csvDecodeValue_overflow tg hv, andThen_ret, bind_apply, checkCnd_pos rfl,
    andThen_goto]
  rfl

/-- What the decoder does with a value that fits is what `csv_decode_value` does with it. -/
lemma csvDecodeDatapoint_value {p' : XiDatapoint} {e : XiErr} {p : XiDatapoint}
    (h : strstr (lit ",") t = some i) (hs : readStamp tg t = .ok stamp)
    (hv : csvDecodeValue tg (t.drop (i + 1)) e { p with timestamp := stamp } = .ret true e p') :
    csvDecodeDatapoint tg t e p = .ret true e p' := by
  rw [csvDecodeDatapoint_comma h, hs]
  refine errHandling_ret false ?_
  rw [bind_apply, hv, andThen_ret, bind_apply, checkCnd_neg (by decide), andThen_ret]
  rfl

lemma csvDecodeDatapoint_fits (h : strstr (lit ",") t = some i)
    (hs : readStamp tg t = .ok stamp)
    (hv : (fieldOf (t.drop (i + 1))).length < xiValueStringMaxSize) (e : XiErr)
    (p : XiDatapoint) :
    ∃ v u, cstr v = some u ∧ csvDecodeDatapoint tg t e p = .ret true e
      (tagged tg (finalState (scanState .initial (fieldOf (t.drop (i + 1))))) v u
        { p with timestamp := stamp }) := by
  obtain ⟨v, u, hu, hrun⟩ := csvDecodeValue_fits tg hv e { p with timestamp := stamp }
  exact ⟨v, u, hu, csvDecodeDatapoint_value h hs hrun⟩

/-! ### Which texts are accepted -/

/-- A text the decoder accepts: a timestamp, a comma, and a value that fits. -/
def AcceptsPoint (tg : Target) (t : Text) : Prop :=
  ∃ i stamp, strstr (lit ",") t = some i ∧ readStamp tg t = .ok stamp ∧
    (fieldOf (t.drop (i + 1))).length < xiValueStringMaxSize

instance (tg : Target) (t : Text) : Decidable (AcceptsPoint tg t) :=
  match hi : strstr (lit ",") t, hs : readStamp tg t with
  | none, _ => isFalse fun ⟨_, _, hi', _, _⟩ => by rw [hi] at hi'; cases hi'
  | some _, .error _ => isFalse fun ⟨_, _, _, hs', _⟩ => by rw [hs] at hs'; cases hs'
  | some i, .ok stamp =>
    decidable_of_iff ((fieldOf (t.drop (i + 1))).length < xiValueStringMaxSize)
      ⟨fun hv => ⟨i, stamp, hi, hs, hv⟩, fun ⟨_, _, hi', _, hv⟩ => by
        rw [hi] at hi'; cases hi'; exact hv⟩

lemma csvDecodeDatapoint_accepts (h : AcceptsPoint tg t) (e : XiErr) (p : XiDatapoint) :
    ∃ p', csvDecodeDatapoint tg t e p = .ret true e p' := by
  obtain ⟨i, stamp, hi, hs, hv⟩ := h
  obtain ⟨v, u, -, hrun⟩ := csvDecodeDatapoint_fits hi hs hv e p
  exact ⟨_, hrun⟩

lemma csvDecodeDatapoint_rejects (h : ¬ AcceptsPoint tg t) (e : XiErr) (p : XiDatapoint) :
    ∃ x p', x ≠ .noErr ∧ csvDecodeDatapoint tg t e p = .ret false x p' := by
  cases hi : strstr (lit ",") t with
  | none =>
    exact ⟨.csvDecodeDatapointParserError, p, by decide, csvDecodeDatapoint_noComma hi e p⟩
  | some i =>
    cases hs : readStamp tg t with
    | error x => exact ⟨x, p, readStamp_error hs, csvDecodeDatapoint_badStamp hi hs e p⟩
    | ok stamp =>
      have hv : xiValueStringMaxSize ≤ (fieldOf (t.drop (i + 1))).length := by
        by_contra hlt
        exact h ⟨i, stamp, hi, hs, by omega⟩
      exact ⟨.csvDecodeDatapointParserError, _, by decide,
        csvDecodeDatapoint_overflow hi hs hv e p⟩

/-! ### What a decoder cannot see -/

lemma csvDecodeValue_append (t r : Text) :
    csvDecodeValue tg (t ++ 10 :: r) = csvDecodeValue tg t := by
  have hloop : decodeChars (t ++ 10 :: r) 0 .initial = decodeChars t 0 .initial := by
    rw [decodeChars_fieldOf, fieldOf_append, ← decodeChars_fieldOf]
  rw [csvDecodeValue, csvDecodeValue, hloop]

/-- A scan of a timestamp stops at the first comma. -/
lemma readStamp_comma (a r : Text) : readStamp tg (a ++ 44 :: r) = readStamp tg a := by
  have hinert : ∀ d ∈ timestampPattern, d.Inert 44 := by decide
  rw [readStamp, readStamp, scan_append_inert hinert]

/-- A datapoint with a comma in its own line is decoded from that line. -/
lemma csvDecodeDatapoint_append {l : Text} (h : 44 ∈ l) (r : Text) :
    csvDecodeDatapoint tg (l ++ 10 :: r) = csvDecodeDatapoint tg l := by
  obtain ⟨a, b, rfl, ha⟩ := List.eq_append_cons_of_mem h
  have hline : strstr (lit ",") (a ++ 44 :: b) = some a.length := strstr_singleton_append ha b
  have htext : strstr (lit ",") (a ++ 44 :: b ++ 10 :: r) = some a.length :=
    strstr_singleton_front ha b _
  have hstamp : readStamp tg (a ++ 44 :: b ++ 10 :: r) = readStamp tg (a ++ 44 :: b) := by
    rw [List.append_assoc, List.cons_append, readStamp_comma, readStamp_comma]
  have hvalue : (a ++ 44 :: b ++ 10 :: r).drop (a.length + 1) = b ++ 10 :: r := by simp
  have hvalue' : (a ++ 44 :: b).drop (a.length + 1) = b := by simp
  funext e p
  rw [csvDecodeDatapoint_comma htext, csvDecodeDatapoint_comma hline, hstamp, hvalue, hvalue',
    csvDecodeValue_append]

end LibXively.Datapoints
