import Mathlib.Data.List.DropRight
import Mathlib.Data.List.TakeWhile
import LibXively.CLib.Decimal

/-!
`sscanf`, for the directives that appear in the program's patterns.

A scan runs over the text that remains and collects the values it converts; it ends at the
first directive that does not match. The number of values collected is what `sscanf` returns,
except that C reports an end of text in front of the first conversion as `EOF`.
-/

namespace LibXively.Scanf

open LibXively.Bytes LibXively.Decimal

/-- One directive of a pattern: white space, a byte to match, `%d` or `%wd`, and `%w[^stop]`. -/
inductive Directive
  | space
  | lit (c : Byte)
  | int (width : Option ℕ)
  | set (width : ℕ) (stop : Text)
  deriving DecidableEq

/-- A converted value. -/
inductive Item
  | int (v : ℤ)
  | str (t : Text)
  deriving DecidableEq

def isSpace (c : Byte) : Bool := c == 32 || (9 ≤ c && c ≤ 13)

def isSign (c : Byte) : Bool := c == 43 || c == 45

def skipSpace (t : Text) : Text := t.dropWhile isSpace

/-- The part of the text `%wd` may look at. -/
def field (width : Option ℕ) (t : Text) : Text := width.elim t t.take

/-- The sign in front of a number, if there is one. -/
def signOf (t : Text) : Text := (t.take 1).takeWhile isSign

/-- `%wd` after its white space: the value and the text behind it. -/
def scanInt (width : Option ℕ) (t : Text) : Option (ℤ × Text) :=
  let s := signOf (field width t)
  let ds := ((field width t).drop s.length).takeWhile isDigit
  if ds = [] then none
  else some (toInt32 (if s = [45] then -(value ds : ℤ) else value ds),
    t.drop (s.length + ds.length))

def scan : List Directive → Text → List Item
  | [], _ => []
  | .space :: fs, t => scan fs (skipSpace t)
  | .lit c :: fs, t =>
    match t with
    | [] => []
    | x :: t => if x = c then scan fs t else []
  | .int width :: fs, t =>
    match scanInt width (skipSpace t) with
    | none => []
    | some (v, t) => .int v :: scan fs t
  | .set width stop :: fs, t =>
    let s := (t.take width).takeWhile (· ∉ stop)
    if s = [] then [] else .str s :: scan fs (t.drop s.length)

/-! ### Directives that match -/

@[simp] lemma scan_nil (t : Text) : scan [] t = [] := rfl

@[simp] lemma scan_lit_cons (c : Byte) (fs : List Directive) (t : Text) :
    scan (.lit c :: fs) (c :: t) = scan fs t := by
  simp [scan]

@[simp] lemma scan_space (fs : List Directive) (t : Text) :
    scan (.space :: fs) t = scan fs (skipSpace t) := rfl

lemma skipSpace_cons {c : Byte} (h : isSpace c = false) (t : Text) :
    skipSpace (c :: t) = c :: t := by
  simp [skipSpace, h]

lemma skipSpace_cons_space {c : Byte} (h : isSpace c = true) (t : Text) :
    skipSpace (c :: t) = skipSpace t := by
  simp [skipSpace, h]

lemma lineEnd_of_not_isSpace {c : Byte} (h : isSpace c = false) : c ∉ [(13 : Byte), 10] := by
  intro hmem
  rcases List.mem_pair.mp hmem with rfl | rfl
  · exact absurd h (by decide)
  · exact absurd h (by decide)

/-- White space is skipped up to the first byte that is none. -/
lemma skipSpace_eq_cons {t : Text} {c : Byte} (hc : c ∈ t) (h : isSpace c = false) :
    ∃ d rest, skipSpace t = d :: rest ∧ isSpace d = false := by
  have hne : skipSpace t ≠ [] := by
    intro hnil
    have hall := List.dropWhile_eq_nil_iff.mp hnil c hc
    rw [h] at hall
    exact Bool.false_ne_true hall
  obtain ⟨d, rest, hd⟩ := List.exists_cons_of_ne_nil hne
  have hnot := List.head?_dropWhile_not isSpace t
  rw [← skipSpace, hd] at hnot
  exact ⟨d, rest, hd, hnot⟩

lemma isSpace_of_isDigit {c : Byte} (h : isDigit c = true) : isSpace c = false := by
  rw [isDigit_iff] at h
  simp only [isSpace, Bool.or_eq_false_iff, beq_eq_false_iff_ne, ne_eq,
    Bool.and_eq_false_iff, decide_eq_false_iff_not, UInt8.le_iff_toNat_le, ← UInt8.toNat_inj]
  simp only [UInt8.reduceToNat]
  omega

lemma isSign_of_isDigit {c : Byte} (h : isDigit c = true) : isSign c = false := by
  rw [isDigit_iff] at h
  simp only [isSign, Bool.or_eq_false_iff, beq_eq_false_iff_ne, ne_eq, ← UInt8.toNat_inj]
  simp only [UInt8.reduceToNat]
  omega

/-! ### What a number is read from -/

/-- A sign, or none. -/
def SignText (s : Text) : Prop := s = [] ∨ s = [43] ∨ s = [45]

/-- The number that digits behind a sign stand for. -/
def signed (s ds : Text) : ℤ := if s = [45] then -(value ds : ℤ) else value ds

/-- The sign and the digits `%wd` takes off a text, and what it leaves. -/
structure TakesInt (width : Option ℕ) (t s ds rest : Text) : Prop where
  sign : SignText s
  digits : ∀ c ∈ ds, isDigit c = true
  nonempty : ds ≠ []
  text : t = s ++ ds ++ rest
  fits : ∀ w ∈ width, (s ++ ds).length ≤ w
  stop : (s ++ ds).length ∈ width ∨ ∀ c ∈ rest.head?, isDigit c = false

lemma field_prefix (width : Option ℕ) (t : Text) : field width t <+: t := by
  cases width with
  | none => exact List.prefix_refl t
  | some w => exact List.take_prefix w t

lemma signText_signOf (t : Text) : SignText (signOf t) := by
  cases t with
  | nil => exact .inl rfl
  | cons c t =>
    cases hc : isSign c with
    | false => exact .inl (by simp [signOf, hc])
    | true =>
      have hsign : signOf (c :: t) = [c] := by simp [signOf, hc]
      rw [hsign]
      rcases (by simpa [isSign] using hc : c = 43 ∨ c = 45) with rfl | rfl
      · exact .inr (.inl rfl)
      · exact .inr (.inr rfl)

lemma signOf_prefix (t : Text) : signOf t <+: t :=
  (List.takeWhile_prefix _).trans (List.take_prefix 1 t)

lemma signOf_append {s ds : Text} (hs : SignText s) (hds : ∀ c ∈ ds, isDigit c = true)
    (hne : ds ≠ []) (rest : Text) : signOf (s ++ ds ++ rest) = s := by
  obtain ⟨d, ds, rfl⟩ := List.exists_cons_of_ne_nil hne
  rcases hs with rfl | rfl | rfl
  · simp [signOf, isSign_of_isDigit (hds d (by simp))]
  · rfl
  · rfl

lemma takeWhile_digits {ds rest : Text} (hds : ∀ c ∈ ds, isDigit c = true)
    (hrest : ∀ c ∈ rest.head?, isDigit c = false) : (ds ++ rest).takeWhile isDigit = ds := by
  rw [List.takeWhile_append_of_pos hds]
  cases rest with
  | nil => simp
  | cons c rest => simp [hrest c (by simp)]

/-- The width cuts the text somewhere behind the digits. -/
lemma TakesInt.field {width : Option ℕ} {t s ds rest : Text} (h : TakesInt width t s ds rest) :
    ∃ rest', Scanf.field width t = s ++ ds ++ rest' ∧ ∀ c ∈ rest'.head?, isDigit c = false := by
  obtain ⟨-, -, -, rfl, hfits, hstop⟩ := h
  cases width with
  | none => exact ⟨rest, rfl, hstop.resolve_left (by simp)⟩
  | some w =>
    refine ⟨rest.take (w - (s ++ ds).length), ?_, ?_⟩
    · rw [Scanf.field, Option.elim_some, List.take_append, List.take_of_length_le (hfits w rfl)]
    · intro c hc
      cases hroom : w - (s ++ ds).length with
      | zero => rw [hroom] at hc; simp at hc
      | succ k =>
        rcases hstop with hw | hstop
        · have hw : w = (s ++ ds).length := by simpa using hw
          omega
        · rw [hroom] at hc
          cases rest with
          | nil => simp at hc
          | cons x rest => exact hstop c (by simpa using hc)

lemma TakesInt.scanInt {width : Option ℕ} {t s ds rest : Text} (h : TakesInt width t s ds rest) :
    scanInt width t = some (toInt32 (signed s ds), rest) := by
  obtain ⟨rest', hfield, hrest'⟩ := h.field
  have hsign : signOf (Scanf.field width t) = s := by
    rw [hfield, signOf_append h.sign h.digits h.nonempty]
  simp only [Scanf.scanInt, hsign]
  rw [hfield, List.append_assoc, List.drop_left, takeWhile_digits h.digits hrest',
    if_neg h.nonempty, h.text, ← List.length_append, List.drop_left]
  rfl

/-- Where the width cuts the text, the number has its full width or the text ends. -/
lemma stop_of_field {width : Option ℕ} {t a more left : Text} (hfield : field width t = a ++ more)
    (hleft : field width t ++ left = t) (hmore : ∀ c ∈ more.head?, isDigit c = false) :
    a.length ∈ width ∨ ∀ c ∈ (more ++ left).head?, isDigit c = false := by
  cases more with
  | cons x r => exact .inr fun c hc => hmore c (by simpa using hc)
  | nil =>
    have hlen := congrArg List.length hleft
    have hcut := congrArg List.length hfield
    rw [List.append_nil] at hcut
    rw [List.length_append, hcut] at hlen
    cases left with
    | nil => exact .inr (by simp)
    | cons y left =>
      rw [List.length_cons] at hlen
      cases width with
      | none => simp only [field, Option.elim_none] at hcut; omega
      | some w =>
        simp only [field, Option.elim_some, List.length_take] at hcut
        exact .inl (by simp; omega)

/-- A number is read off a sign and digits, and nothing else. -/
lemma scanInt_eq_some {width : Option ℕ} {t rest : Text} {v : ℤ} :
    scanInt width t = some (v, rest) ↔
      ∃ s ds, TakesInt width t s ds rest ∧ v = toInt32 (signed s ds) := by
  refine ⟨fun h => ?_, fun ⟨s, ds, htakes, hv⟩ => hv ▸ htakes.scanInt⟩
  obtain ⟨more, hmore⟩ := signOf_prefix (field width t)
  obtain ⟨left, hleft⟩ := field_prefix width t
  have hsign := signText_signOf (field width t)
  have hdrop : (field width t).drop (signOf (field width t)).length = more := by
    have hbehind := congrArg (List.drop (signOf (field width t)).length) hmore
    rw [List.drop_left] at hbehind
    exact hbehind.symm
  simp only [scanInt, hdrop] at h
  generalize signOf (field width t) = s at h hmore hsign
  obtain ⟨ds, behind, hds, hrun, hbehind⟩ : ∃ ds behind, more = ds ++ behind ∧
      more.takeWhile isDigit = ds ∧ ∀ c ∈ behind.head?, isDigit c = false := by
    refine ⟨_, more.dropWhile isDigit, List.takeWhile_append_dropWhile.symm, rfl, fun c hc => ?_⟩
    have hnot := List.head?_dropWhile_not isDigit more
    rw [Option.mem_def.mp hc] at hnot
    exact hnot
  have hdigits : ∀ c ∈ ds, isDigit c = true := fun c hc => List.mem_takeWhile_imp (hrun ▸ hc)
  have hfield : field width t = s ++ ds ++ behind := by rw [← hmore, hds, List.append_assoc]
  have htext : t = s ++ ds ++ (behind ++ left) := by
    rw [← hleft, hfield, List.append_assoc]
  rw [hrun] at h
  split at h
  · cases h
  · next hne =>
    cases h
    have hrest : t.drop (s.length + ds.length) = behind ++ left := by
      rw [htext, ← List.length_append, List.drop_left]
    refine ⟨s, ds, ⟨hsign, hdigits, hne, by rw [hrest, ← htext], fun w hw => ?_, ?_⟩, rfl⟩
    · have hlen := congrArg List.length hfield
      cases hw
      simp only [field, Option.elim_some, List.length_take, List.length_append] at hlen ⊢
      omega
    · rw [hrest]
      exact stop_of_field hfield hleft hbehind

/-! ### Numerals -/

/-- What `%wd` takes off a text: white space it skips, a sign and digits. -/
structure Numeral (width : Option ℕ) where
  space : Text
  sign : Text
  digits : Text
  space_eq : ∀ c ∈ space, isSpace c = true
  sign_eq : SignText sign
  digits_eq : ∀ c ∈ digits, isDigit c = true
  nonempty : digits ≠ []
  fits : ∀ w ∈ width, (sign ++ digits).length ≤ w

namespace Numeral

variable {width : Option ℕ}

def text (N : Numeral width) : Text := N.space ++ (N.sign ++ N.digits)

def number (N : Numeral width) : ℤ := signed N.sign N.digits

/-- The numeral ends in front of a text: it has its full width, or no digit follows. -/
def Ends (N : Numeral width) (rest : Text) : Prop :=
  (N.sign ++ N.digits).length ∈ width ∨ ∀ c ∈ rest.head?, isDigit c = false

lemma takesInt {N : Numeral width} {rest : Text} (h : N.Ends rest) :
    TakesInt width (N.sign ++ N.digits ++ rest) N.sign N.digits rest :=
  ⟨N.sign_eq, N.digits_eq, N.nonempty, rfl, N.fits, h⟩

lemma skipSpace_text (N : Numeral width) (rest : Text) :
    skipSpace (N.text ++ rest) = N.sign ++ N.digits ++ rest := by
  obtain ⟨d, ds, hds⟩ := List.exists_cons_of_ne_nil N.nonempty
  have hdigit := isSpace_of_isDigit (N.digits_eq d (by simp [hds]))
  have hskip : skipSpace (N.sign ++ N.digits ++ rest) = N.sign ++ N.digits ++ rest := by
    rcases N.sign_eq with hs | hs | hs <;> rw [hs, hds]
    · exact skipSpace_cons hdigit _
    · exact skipSpace_cons (by decide) _
    · exact skipSpace_cons (by decide) _
  have htext : N.text ++ rest = N.space ++ (N.sign ++ N.digits ++ rest) := by
    simp only [text, List.append_assoc]
  rw [htext, skipSpace, List.dropWhile_append_of_pos N.space_eq, ← skipSpace, hskip]

lemma number_bounds {w : ℕ} (N : Numeral (some w)) :
    -10 ^ w < N.number ∧ N.number < 10 ^ w := by
  have hlen := N.fits w rfl
  rw [List.length_append] at hlen
  have hlt : value N.digits < 10 ^ w :=
    (value_lt N.digits_eq).trans_le (Nat.pow_le_pow_right (by norm_num) (by omega))
  have hcast : (value N.digits : ℤ) < 10 ^ w := by exact_mod_cast hlt
  unfold number signed
  split <;> omega

/-- Only the first byte behind a numeral matters. -/
lemma ends_append {N : Numeral width} {t : Text} (hne : t ≠ []) (u : Text) :
    N.Ends (t ++ u) ↔ N.Ends t := by
  rw [Ends, Ends, List.head?_append_of_ne_nil t hne]

/-- What stands behind a numeral is told by the text. -/
lemma rest_unique {N M : Numeral width} {t u : Text} (hN : N.Ends t) (hM : M.Ends u)
    (h : N.text ++ t = M.text ++ u) : t = u := by
  have hskip := congrArg skipSpace h
  rw [skipSpace_text, skipSpace_text] at hskip
  have hscan := (takesInt hN).scanInt
  rw [hskip, (takesInt hM).scanInt] at hscan
  exact (Prod.mk.inj (Option.some.inj hscan)).2.symm

end Numeral

/-- White space in front of a number is skipped anyway. -/
lemma scan_space_int (width : Option ℕ) (fs : List Directive) (t : Text) :
    scan (.space :: .int width :: fs) t = scan (.int width :: fs) t := by
  have hskip : skipSpace (skipSpace t) = skipSpace t := List.dropWhile_idempotent isSpace t
  rw [scan_space, scan, scan, hskip]

/-- A scan takes a number off a text exactly if a numeral stands there. -/
lemma scan_int_eq_cons {width : Option ℕ} {fs : List Directive} {t : Text} {i : Item}
    {is : List Item} : scan (.int width :: fs) t = i :: is ↔ ∃ (N : Numeral width) (rest : Text),
      t = N.text ++ rest ∧ N.Ends rest ∧ i = .int (toInt32 N.number) ∧ scan fs rest = is := by
  constructor
  · intro h
    rw [scan] at h
    split at h
    · cases h
    · next v rest hint =>
      obtain ⟨s, ds, htakes, rfl⟩ := scanInt_eq_some.mp hint
      obtain ⟨hi, his⟩ := List.cons.inj h
      refine ⟨⟨t.takeWhile isSpace, s, ds, fun c hc => List.mem_takeWhile_imp hc, htakes.sign,
        htakes.digits, htakes.nonempty, htakes.fits⟩, rest, ?_, htakes.stop, hi.symm, his⟩
      rw [Numeral.text, List.append_assoc, ← htakes.text]
      exact List.takeWhile_append_dropWhile.symm
  · rintro ⟨N, rest, rfl, hends, rfl, rfl⟩
    rw [scan, N.skipSpace_text, (Numeral.takesInt hends).scanInt]
    rfl

lemma scan_lit_eq_cons {c : Byte} {fs : List Directive} {t : Text} {i : Item} {is : List Item} :
    scan (.lit c :: fs) t = i :: is ↔ ∃ u, t = c :: u ∧ scan fs u = i :: is := by
  cases t with
  | nil => simp [scan]
  | cons x t =>
    rw [scan]
    split
    · next hx => simp [hx]
    · next hx => simp [hx]

/-! ### Texts a directive reads whole -/

/-- A run of digits no longer than the width is read as its value, up to the byte behind it. -/
lemma scanInt_digits {width : Option ℕ} {ds rest : Text} (hne : ds ≠ [])
    (hds : ∀ c ∈ ds, isDigit c = true) (hw : ∀ w ∈ width, ds.length ≤ w)
    (hstop : ds.length ∈ width ∨ ∀ c ∈ rest.head?, isDigit c = false) :
    scanInt width (ds ++ rest) = some (toInt32 (value ds), rest) := by
  have htakes : TakesInt width (ds ++ rest) [] ds rest := ⟨.inl rfl, hds, hne, rfl, hw, hstop⟩
  exact htakes.scanInt

lemma scan_int_digits {width : Option ℕ} {ds rest : Text} {fs : List Directive} (hne : ds ≠ [])
    (hds : ∀ c ∈ ds, isDigit c = true) (hw : ∀ w ∈ width, ds.length ≤ w)
    (hstop : ds.length ∈ width ∨ ∀ c ∈ rest.head?, isDigit c = false) :
    scan (.int width :: fs) (ds ++ rest) = .int (toInt32 (value ds)) :: scan fs rest := by
  obtain ⟨d, ds', rfl⟩ := List.exists_cons_of_ne_nil hne
  have hskip : skipSpace (d :: ds' ++ rest) = d :: ds' ++ rest :=
    skipSpace_cons (isSpace_of_isDigit (hds d (by simp))) _
  rw [scan, hskip, scanInt_digits hne hds hw hstop]

/-- `%0wd` reads back what it printed. -/
lemma scan_int_pad {w n : ℕ} {rest : Text} {fs : List Directive} (hw : 0 < w) (h : n < 10 ^ w) :
    scan (.int (some w) :: fs) (pad w n ++ rest) = .int (toInt32 n) :: scan fs rest := by
  have hlen := length_pad hw h
  rw [scan_int_digits (pad_ne_nil w n) (fun _ => isDigit_of_mem_pad) (by simp [hlen])
    (Or.inl (by simp [hlen])), value_pad]

/-- `%w[^stop]` takes a text without stop bytes that ends at one. -/
lemma scan_set {w : ℕ} {stop s rest : Text} {fs : List Directive} (hne : s ≠ [])
    (hs : ∀ c ∈ s, c ∉ stop) (hw : s.length ≤ w) (hstop : ∀ c ∈ rest.head?, c ∈ stop) :
    scan (.set w stop :: fs) (s ++ rest) = .str s :: scan fs rest := by
  have htake : ((s ++ rest).take w).takeWhile (· ∉ stop) = s := by
    rw [List.take_append, List.take_of_length_le hw,
      List.takeWhile_append_of_pos (by simpa using hs)]
    cases rest with
    | nil => simp
    | cons x r =>
      cases hk : w - s.length with
      | zero => simp
      | succ k => simp [hstop x (by simp)]
  rw [scan, htake]
  simp [hne]

/-! ### A byte no directive matches ends the scan -/

/-- The directive can neither match nor skip `c`. -/
def Directive.Inert (c : Byte) : Directive → Prop
  | .space => isSpace c = false
  | .lit x => x ≠ c
  | .int _ => isSpace c = false ∧ isSign c = false ∧ isDigit c = false
  | .set _ stop => c ∈ stop

instance (c : Byte) : (d : Directive) → Decidable (d.Inert c)
  | .space => inferInstanceAs (Decidable (isSpace c = false))
  | .lit x => inferInstanceAs (Decidable (x ≠ c))
  | .int _ => inferInstanceAs (Decidable (isSpace c = false ∧ isSign c = false ∧ isDigit c = false))
  | .set _ stop => inferInstanceAs (Decidable (c ∈ stop))

lemma skipSpace_append {c : Byte} (h : isSpace c = false) (a r : Text) :
    skipSpace (a ++ c :: r) = skipSpace a ++ c :: r := by
  induction a with
  | nil => simp [skipSpace, h]
  | cons x a ih =>
    cases hx : isSpace x with
    | true => rw [List.cons_append, skipSpace_cons_space hx, skipSpace_cons_space hx, ih]
    | false => rw [List.cons_append, skipSpace_cons hx, skipSpace_cons hx, List.cons_append]

lemma takeWhile_take_append {p : Byte → Bool} {c : Byte} (h : p c = false) (w : ℕ)
    (a r : Text) : ((a ++ c :: r).take w).takeWhile p = (a.take w).takeWhile p := by
  induction a generalizing w with
  | nil => cases w <;> simp [h]
  | cons x a ih =>
    cases w with
    | zero => simp
    | succ w => simp only [List.cons_append, List.take_succ_cons, List.takeWhile_cons, ih]

lemma takeWhile_append_stop {p : Byte → Bool} {c : Byte} (h : p c = false) (a r : Text) :
    (a ++ c :: r).takeWhile p = a.takeWhile p := by
  have := takeWhile_take_append h (a ++ c :: r).length a r
  rwa [List.take_length, List.take_of_length_le (l := a) (by simp)] at this

lemma takeWhile_field_append {p : Byte → Bool} {c : Byte} (h : p c = false)
    (width : Option ℕ) {a : Text} {k : ℕ} (hk : k ≤ a.length) (r : Text) :
    ((field width (a ++ c :: r)).drop k).takeWhile p = ((field width a).drop k).takeWhile p := by
  cases width with
  | none =>
    simp only [field, Option.elim_none]
    rw [List.drop_append_of_le_length hk, takeWhile_append_stop h]
  | some w =>
    simp only [field, Option.elim_some]
    rw [List.drop_take, List.drop_take, List.drop_append_of_le_length hk,
      takeWhile_take_append h]

lemma length_signOf_field_le (width : Option ℕ) (t : Text) :
    (signOf (field width t)).length ≤ t.length := by
  have h1 : (signOf (field width t)).length ≤ (field width t).length :=
    le_trans (List.takeWhile_prefix _).length_le (by simp)
  have h2 : (field width t).length ≤ t.length := by
    cases width <;> simp [field]
  omega

lemma signOf_field_append {c : Byte} (h : isSign c = false) (width : Option ℕ) (a r : Text) :
    signOf (field width (a ++ c :: r)) = signOf (field width a) := by
  cases width with
  | none => exact takeWhile_take_append h 1 a r
  | some w =>
    simp only [signOf, field, Option.elim_some, List.take_take]
    exact takeWhile_take_append h (min 1 w) a r

lemma scanInt_append {c : Byte} (hsign : isSign c = false) (hdig : isDigit c = false)
    (width : Option ℕ) (a r : Text) :
    scanInt width (a ++ c :: r) = (scanInt width a).map fun x => (x.1, x.2 ++ c :: r) := by
  have hs := signOf_field_append hsign width a r
  have hk := length_signOf_field_le width a
  have hd := takeWhile_field_append hdig width hk r
  simp only [scanInt, hs, hd]
  split
  · rfl
  · simp only [Option.map_some, Option.some.injEq, Prod.mk.injEq, true_and]
    refine List.drop_append_of_le_length ?_
    have hle := (List.takeWhile_prefix (p := isDigit)
      (l := (field width a).drop (signOf (field width a)).length)).length_le
    have hf : (field width a).length ≤ a.length := by cases width <;> simp [field]
    rw [List.length_drop] at hle
    omega

/-- The scan cannot see past a byte that is inert for every directive of the pattern. -/
lemma scan_append_inert {c : Byte} {fs : List Directive} (h : ∀ d ∈ fs, d.Inert c)
    (a r : Text) : scan fs (a ++ c :: r) = scan fs a := by
  induction fs generalizing a with
  | nil => rfl
  | cons d fs ih =>
    have ih' := ih fun d hd => h d (by simp [hd])
    have hd := h d (by simp)
    cases d with
    | space => rw [scan_space, scan_space, skipSpace_append hd, ih']
    | lit x =>
      cases a with
      | nil => simp [scan, Ne.symm hd]
      | cons y a => simp only [List.cons_append, scan, ih']
    | int width =>
      simp only [scan]
      rw [skipSpace_append hd.1, scanInt_append hd.2.1 hd.2.2]
      cases scanInt width (skipSpace a) with
      | none => rfl
      | some x => simp [ih']
    | set width stop =>
      have ht := takeWhile_take_append (p := (· ∉ stop)) (by simpa [Directive.Inert] using hd)
        width a r
      simp only [scan, ht]
      split
      · rfl
      · have hle := (List.takeWhile_prefix (p := (· ∉ stop)) (l := a.take width)).length_le
        rw [List.length_take] at hle
        rw [List.drop_append_of_le_length (by omega), ih']

end LibXively.Scanf
