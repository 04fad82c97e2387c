import LibXively.Decoding.Values

/-!
Which values the automaton of `csv_decode_value` takes for numbers.

A state says what has been read so far, so the state behind a whole value says whether the value
is an integer, a float or neither.
-/

namespace LibXively.Numbers

open LibXively.Bytes LibXively.Decimal LibXively.Scanf LibXively.CsvData LibXively.Values

/-! ### The grammar -/

/-- An optional minus sign. -/
def Sign (t : Text) : Prop := t = [] ∨ t = [45]

def Digits (t : Text) : Prop := ∀ c ∈ t, isDigit c = true

/-- `-?[0-9]+` -/
def IntText (t : Text) : Prop := ∃ s ds, Sign s ∧ Digits ds ∧ ds ≠ [] ∧ t = s ++ ds

/-- `-?[0-9]*\.[0-9]+` -/
def FloatText (t : Text) : Prop :=
  ∃ s ds fs, Sign s ∧ Digits ds ∧ Digits fs ∧ fs ≠ [] ∧ t = s ++ ds ++ 46 :: fs

/-- What has been read when the scan is in a state. -/
def Reads : XiDfaState → Text → Prop
  | .initial, t => t = []
  | .minus, t => t = [45]
  | .number, t => IntText t
  | .dot, t => ∃ s ds, Sign s ∧ Digits ds ∧ t = s ++ ds ++ [46]
  | .float, t => FloatText t
  | .string, _ => True

lemma Digits.append {t u : Text} (ht : Digits t) (hu : Digits u) : Digits (t ++ u) := by
  intro c hc
  exact (List.mem_append.mp hc).elim (ht c) (hu c)

lemma digits_nil : Digits [] := by simp [Digits]

lemma digits_singleton {c : Byte} (h : isDigit c = true) : Digits [c] := by simpa [Digits]

lemma classify_number {c : Byte} : csvClassifyChar c = .number ↔ isDigit c = true := by
  have hdigit : isDigit c = true ↔ 48 ≤ c ∧ c ≤ 57 := by simp [isDigit]
  rw [hdigit, csvClassifyChar]
  split_ifs with h1 h2 h3 h4 h5 h6 h7 h8
  · rcases h1 with rfl | rfl <;> decide
  · subst h2; decide
  · subst h3; decide
  · subst h4; decide
  · subst h5; decide
  all_goals simp [h6]

lemma classify_minus {c : Byte} (h : csvClassifyChar c = .minus) : c = 45 := by
  unfold csvClassifyChar at h
  split_ifs at h with h1 h2 h3 h4
  exact h4

lemma classify_dot {c : Byte} (h : csvClassifyChar c = .dot) : c = 46 := by
  unfold csvClassifyChar at h
  split_ifs at h with h1 h2 h3 h4 h5
  exact h5

/-! ### The automaton -/

/-- What has been read stays true with every byte that is no line end. -/
lemma reads_step {s : XiDfaState} {t : Text} {c : Byte} (hc : csvClassifyChar c ≠ .newline)
    (h : Reads s t) : Reads (states (csvClassifyChar c) s) (t ++ [c]) := by
  rcases hclass : csvClassifyChar c with _ | _ | _ | _ | _ | _ | _ | _
  case newline => exact absurd hclass hc
  case number =>
    have hd := digits_singleton (classify_number.mp hclass)
    cases s with
    | initial => exact ⟨[], [c], .inl rfl, hd, by simp, by simp [show t = [] from h]⟩
    | minus => exact ⟨[45], [c], .inr rfl, hd, by simp, by simp [show t = [45] from h]⟩
    | number =>
      obtain ⟨s, ds, hs, hds, hne, rfl⟩ := h
      exact ⟨s, ds ++ [c], hs, hds.append hd, by simp, by simp⟩
    | float =>
      obtain ⟨s, ds, fs, hs, hds, hfs, hne, rfl⟩ := h
      exact ⟨s, ds, fs ++ [c], hs, hds, hfs.append hd, by simp, by simp⟩
    | dot =>
      obtain ⟨s, ds, hs, hds, rfl⟩ := h
      exact ⟨s, ds, [c], hs, hds, hd, by simp, by simp⟩
    | string => trivial
  case dot =>
    obtain rfl := classify_dot hclass
    cases s with
    | initial => exact ⟨[], [], .inl rfl, digits_nil, by simp [show t = [] from h]⟩
    | minus => exact ⟨[45], [], .inr rfl, digits_nil, by simp [show t = [45] from h]⟩
    | number =>
      obtain ⟨s, ds, hs, hds, -, rfl⟩ := h
      exact ⟨s, ds, hs, hds, by simp⟩
    | float => trivial
    | dot => trivial
    | string => trivial
  case minus =>
    obtain rfl := classify_minus hclass
    cases s with
    | initial => simp [Reads, states, show t = [] from h]
    | minus => trivial
    | number => trivial
    | float => trivial
    | dot => trivial
    | string => trivial
  all_goals trivial

lemma reads_scanState {t : Text} (ht : ∀ c ∈ t, csvClassifyChar c ≠ .newline) :
    Reads (scanState .initial t) t := by
  induction t using List.reverseRecOn with
  | nil => rfl
  | append_singleton t c ih =>
    have hstep := reads_step (ht c (by simp)) (ih fun d hd => ht d (by simp [hd]))
    simpa [scanState, List.foldl_append] using hstep

/-- A text that is no number is a string. -/
lemma finalState_string {t : Text} (ht : ∀ c ∈ t, csvClassifyChar c ≠ .newline)
    (hi : ¬ IntText t) (hf : ¬ FloatText t) : finalState (scanState .initial t) = .string := by
  have h := reads_scanState ht
  cases hs : scanState .initial t with
  | number => rw [hs] at h; exact absurd h hi
  | float => rw [hs] at h; exact absurd h hf
  | initial => rfl
  | minus => rfl
  | dot => rfl
  | string => rfl

lemma scanState_digits {ds : Text} (h : Digits ds) : scanState .number ds = .number := by
  induction ds with
  | nil => rfl
  | cons c ds ih =>
    have hc := classify_number.mpr (h c (by simp))
    rw [scanState_cons, hc]
    exact ih fun d hd => h d (List.mem_cons_of_mem c hd)

/-- A number is read as one. -/
lemma finalState_int {t : Text} (h : IntText t) :
    finalState (scanState .initial t) = .number := by
  obtain ⟨s, ds, hs, hds, hne, rfl⟩ := h
  obtain ⟨c, ds, rfl⟩ := List.exists_cons_of_ne_nil hne
  have hc := classify_number.mpr (hds c (by simp))
  have hrest := scanState_digits fun d hd => hds d (List.mem_cons_of_mem c hd)
  rcases hs with rfl | rfl
  · rw [List.nil_append, scanState_cons, hc]
    exact congrArg finalState hrest
  · rw [List.singleton_append, scanState_cons, scanState_cons, hc]
    exact congrArg finalState hrest

lemma intText_fmtD (v : ℤ) : IntText (fmtD v) := by
  have hds : Digits (digits v.natAbs) := fun _ => isDigit_of_mem_digits
  unfold fmtD
  split
  · exact ⟨[45], _, .inr rfl, hds, digits_ne_nil _, rfl⟩
  · exact ⟨[], _, .inl rfl, hds, digits_ne_nil _, rfl⟩

/-! ### The value of a number -/

lemma atoi_bounds (t : Text) : -2 ^ 31 ≤ atoi t ∧ atoi t < 2 ^ 31 := by
  rw [atoi]
  cases h : scanInt none (skipSpace t) with
  | none => decide
  | some x =>
    obtain ⟨v, rest⟩ := x
    obtain ⟨s, ds, -, rfl⟩ := scanInt_eq_some.mp h
    exact toInt32_bounds _

/-- A text `atoi` reads to its end: white space, a sign and digits, each of them possibly
missing. -/
def NumberFront (t : Text) : Prop :=
  ∃ ws s ds, (∀ c ∈ ws, isSpace c = true) ∧ SignText s ∧ Digits ds ∧ t = ws ++ (s ++ ds)

lemma atoi_front {ws s ds rest : Text} (hws : ∀ c ∈ ws, isSpace c = true) (hs : SignText s)
    (hds : Digits ds) (hne : ds ≠ []) (hrest : ∀ c ∈ rest.head?, isDigit c = false) :
    atoi (ws ++ (s ++ ds ++ rest)) = toInt32 (signed s ds) := by
  have htakes : TakesInt none (s ++ ds ++ rest) s ds rest :=
    ⟨hs, hds, hne, rfl, by simp, .inr hrest⟩
  have hskip : skipSpace (ws ++ (s ++ ds ++ rest)) = s ++ ds ++ rest := by
    rw [skipSpace, List.dropWhile_append_of_pos hws]
    obtain ⟨d, ds, rfl⟩ := List.exists_cons_of_ne_nil hne
    rcases hs with rfl | rfl | rfl
    · exact skipSpace_cons (isSpace_of_isDigit (hds d (by simp))) _
    · rfl
    · rfl
  rw [atoi, hskip, htakes.scanInt, Option.elim_some]

/-- A text that `atoi` does not read to its end hides what is behind it. -/
lemma atoi_append {a : Text} (h : ¬ NumberFront a) (x : Text) : atoi (a ++ x) = atoi a := by
  have hws : ∀ c ∈ a.takeWhile isSpace, isSpace c = true := fun c hc => List.mem_takeWhile_imp hc
  have hsplit : a = a.takeWhile isSpace ++ skipSpace a := List.takeWhile_append_dropWhile.symm
  -- there is something behind the white space
  have hne : skipSpace a ≠ [] := by
    intro hnil
    rw [hnil] at hsplit
    exact h ⟨a.takeWhile isSpace, [], [], hws, .inl rfl, digits_nil, hsplit⟩
  have hskip : skipSpace (a ++ x) = skipSpace a ++ x := by
    conv_lhs => rw [hsplit, List.append_assoc, skipSpace, List.dropWhile_append_of_pos hws]
    obtain ⟨c, t, hc⟩ := List.exists_cons_of_ne_nil hne
    have hspace : isSpace c = false := by
      have := List.head?_dropWhile_not isSpace a
      rw [← skipSpace, hc] at this
      exact this
    rw [hc]
    exact skipSpace_cons hspace _
  have hsign : signOf (skipSpace a ++ x) = signOf (skipSpace a) := by
    obtain ⟨c, t, hc⟩ := List.exists_cons_of_ne_nil hne
    rw [hc]
    rfl
  obtain ⟨more, hmore⟩ := signOf_prefix (skipSpace a)
  have htext := signText_signOf (skipSpace a)
  generalize hs : signOf (skipSpace a) = s at hmore hsign htext
  -- and the digits stop at a byte of the text
  have hrun : (more ++ x).takeWhile isDigit = more.takeWhile isDigit := by
    have hdigits : Digits (more.takeWhile isDigit) := fun c hc => List.mem_takeWhile_imp hc
    have hmoreSplit : more = more.takeWhile isDigit ++ more.dropWhile isDigit :=
      List.takeWhile_append_dropWhile.symm
    cases hbehind : more.dropWhile isDigit with
    | nil =>
      rw [hbehind, List.append_nil] at hmoreSplit
      rw [← hmore, hmoreSplit] at hsplit
      exact absurd ⟨_, _, _, hws, htext, hdigits, hsplit⟩ h
    | cons c r =>
      have hc : isDigit c = false := by
        have hnot := List.head?_dropWhile_not isDigit more
        rwa [hbehind] at hnot
      rw [hbehind] at hmoreSplit
      rw [hmoreSplit, List.append_assoc, List.cons_append, takeWhile_append_stop hc,
        takeWhile_append_stop hc]
  simp only [atoi, hskip, scanInt, field, Option.elim_none, hs, hsign]
  rw [← hmore, List.append_assoc, List.drop_left, List.drop_left, hrun]
  split <;> rfl

lemma atoi_digits {ds : Text} (h : Digits ds) (hne : ds ≠ []) :
    atoi ds = toInt32 (value ds) := by
  simpa [signed] using @atoi_front [] [] ds [] (by simp) (.inl rfl) h hne (by simp)

lemma atoi_minus {ds : Text} (h : Digits ds) (hne : ds ≠ []) :
    atoi (45 :: ds) = toInt32 (-(value ds : ℤ)) := by
  simpa [signed] using @atoi_front [] [45] ds [] (by simp) (.inr (.inr rfl)) h hne (by simp)

/-- `atoi` reads back what `%d` has printed. -/
lemma atoi_fmtD {v : ℤ} (h1 : -2 ^ 31 ≤ v) (h2 : v < 2 ^ 31) : atoi (fmtD v) = v := by
  have hds : Digits (digits v.natAbs) := fun _ => isDigit_of_mem_digits
  unfold fmtD
  split
  · rw [atoi_minus hds (digits_ne_nil _), value_digits, toInt32_eq (by omega) (by omega)]
    omega
  · rw [atoi_digits hds (digits_ne_nil _), value_digits, toInt32_eq (by omega) (by omega)]
    omega

end LibXively.Numbers
