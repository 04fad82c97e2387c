import LibXively.Model.Xively
import LibXively.Requests.FeedRequests
import LibXively.Decoding.Feeds

/-!
The lines of a feed update.

Values are printed as they are. A string value that holds an end of line makes several lines of
its own, and the peer takes each of them for a datapoint.
-/

namespace LibXively.UpdateLines

open LibXively.Bytes LibXively.Decimal LibXively.CProc LibXively.CharArray LibXively.XiTime
open LibXively.Gmtime LibXively.Structures LibXively.CsvData LibXively.HttpQueries
open LibXively.Xively LibXively.Append LibXively.CsvText LibXively.Builders LibXively.Encoders
open LibXively.FeedRequests LibXively.Feeds

/-! ### Setters -/

/-- A call of a setter. -/
inductive Setter
  | i32 (value : Int32)
  | str (value : CString)

def Setter.run : Setter → Proc XiErr XiDatapoint Bool
  | .i32 value => xiSetValueI32 value
  | .str value => xiSetValueStr value

/-- The text of the value that is set: a string is cut to the room in the union. -/
def Setter.text : Setter → Text
  | .i32 value => fmtD value.toInt
  | .str value => value.bytes.take (xiValueStringMaxSize - 1)

/-- The datapoint has been set by some calls, the last of them `c`. -/
def SetBy (c : Setter) (p : XiDatapoint) : Prop :=
  ∃ cs p₀ e rs e', (cs ++ [c]).mapM Setter.run e p₀ = .ret rs e' p

variable {tg : Target} {p : XiDatapoint}

lemma cstr_put {n : ℕ} {b : Buf n} {t : Text} (h0 : 0 ∉ t) (h : t.length < n) :
    cstr (put b 0 (t ++ [0])) = some t := by
  have hput : [] ++ (t ++ [0]) <+: (put b 0 (t ++ [0])).bytes :=
    prefix_put (b.bytes.nil_prefix) (by simp; omega)
  exact cstr_of_starts h0 hput

/-- The string setter stores what there is room for, with its terminator. -/
lemma setStr_run (s : CString) (e : XiErr) (p : XiDatapoint) :
    (Setter.str s).run e p = .ret true e { p with
      value := put p.value 0 ((Setter.str s).text ++ [0])
      valueType := .str } := by
  have hcopied : copied xiValueStringMaxSize 0 s.bytes = (Setter.str s).text := by
    rw [copied, Setter.text, List.takeWhile_eq_self_iff.mpr]
    intro c hc
    simpa using fun h : c = 0 => s.noNul (h ▸ hc)
  have hlen : (Setter.str s).text.length < xiValueStringMaxSize := by
    rw [Setter.text, List.length_take]
    norm_num
  have hcopy := xiStrCopyUntiln_apply (n := xiValueStringMaxSize) (by norm_num) s.bytes 0 e
    p.value
  rw [hcopied] at hcopy
  have hvalue : onValue (xiStrCopyUntiln s.bytes 0) e p = _ := focus_ret hcopy
  rw [Setter.run, xiSetValueStr, errHandling_bind false hvalue]
  refine errHandling_ret false ?_
  rw [xiCheckSize, bind_ret (checkCnd_neg (by omega) _ _ _)]
  rfl

/-- A setter succeeds, and the value is the one that was set. -/
lemma setter_run (tg : Target) (c : Setter) (e : XiErr) (p : XiDatapoint) : ∃ p',
    c.run e p = .ret true e p' ∧ p'.Readable ∧ valueText tg p' = some c.text := by
  cases c with
  | i32 v =>
    have h1 : -2 ^ 31 ≤ v.toInt := v.le_toInt
    have h2 : v.toInt < 2 ^ 31 := v.toInt_lt
    refine ⟨_, rfl, fun h => (nomatch h), ?_⟩
    rw [valueText, Setter.text]
    exact congrArg (fun x => some (fmtD x)) (i32Value_setI32Value p.value h1 h2)
  | str s =>
    have hlen : (Setter.str s).text.length < xiValueStringMaxSize := by
      rw [Setter.text, List.length_take]
      norm_num
    have h0 : 0 ∉ (Setter.str s).text := fun h => s.noNul (List.mem_of_mem_take h)
    exact ⟨_, setStr_run s e p, fun _ => zero_mem_of_cstr (cstr_put h0 hlen), cstr_put h0 hlen⟩

/-- After some calls the value is the one of the last. -/
lemma SetBy.value {c : Setter} (h : SetBy c p) :
    p.Readable ∧ valueText tg p = some c.text := by
  obtain ⟨cs, p₀, e, rs, e', hrun⟩ := h
  induction cs generalizing p₀ e rs with
  | nil =>
    obtain ⟨p', hp', hread, hvalue⟩ := setter_run tg c e p₀
    simp [hp'] at hrun
    obtain ⟨-, -, rfl⟩ := hrun
    exact ⟨hread, hvalue⟩
  | cons c' cs ih =>
    obtain ⟨p', hp', -⟩ := setter_run tg c' e p₀
    rw [List.cons_append, List.mapM_cons, bind_ret hp'] at hrun
    cases hrest : (cs ++ [c]).mapM Setter.run e p' with
    | ret rs' e1 p1 =>
      rw [bind_ret hrest] at hrun
      cases hrun
      exact ih _ _ _ hrest
    | goto e1 p1 => rw [bind_goto hrest] at hrun; cases hrun
    | fault x => rw [bind_fault hrest] at hrun; cases hrun

/-! ### Lines -/

/-- The datastreams and the datapoints of a feed, by number. -/
def streamAt (feed : XiFeed) (i : ℕ) : XiDatastream :=
  if h : i < xiMaxDatastreams then feed.datastreams ⟨i, h⟩ else .zero

def pointAt (d : XiDatastream) (j : ℕ) : XiDatapoint :=
  if h : j < xiMaxDatapoints then d.datapoints ⟨j, h⟩ else .zero

/-- A feed inside the array limits, whose ids are plain and whose values have been set, at last by
`c`. -/
structure SetFeed (feed : XiFeed) (c : ℕ → ℕ → Setter) : Prop where
  streams : feed.datastreamCount ≤ xiMaxDatastreams
  points : ∀ i < feed.datastreamCount, (streamAt feed i).datapointCount ≤ xiMaxDatapoints
  ids : ∀ i < feed.datastreamCount, ∃ id, cstr (streamAt feed i).datastreamId = some id ∧
    44 ∉ id ∧ 13 ∉ id ∧ 10 ∉ id
  values : ∀ i < feed.datastreamCount, ∀ j < (streamAt feed i).datapointCount,
    SetBy (c i j) (pointAt (streamAt feed i) j)

/-- The line of a datapoint: the id, the timestamp, if there is one, and the value. -/
def lineOf (tg : Target) (d : XiDatastream) (p : XiDatapoint) (c : Setter) : Text :=
  (cstr d.datastreamId).getD [] ++ lit "," ++ stampText tg p ++ c.text

/-- The lines of the datapoints of a feed, in order. -/
def linesOfPoints (tg : Target) (feed : XiFeed) (c : ℕ → ℕ → Setter) : List Text :=
  (List.range' 0 feed.datastreamCount).flatMap fun i =>
    (List.range' 0 (streamAt feed i).datapointCount).map fun j =>
      lineOf tg (streamAt feed i) (pointAt (streamAt feed i) j) (c i j)

variable {feed : XiFeed} {c : ℕ → ℕ → Setter}

lemma SetFeed.readable (h : SetFeed feed c) : feed.Readable where
  streams := h.streams
  ids i hi := by
    obtain ⟨id, hid, -⟩ := h.ids i hi
    rw [streamAt, dif_pos i.isLt] at hid
    exact zero_mem_of_cstr hid
  points i hi := by
    have hpoints := h.points i hi
    rwa [streamAt, dif_pos i.isLt] at hpoints
  values i j hi hj := by
    have hstream : streamAt feed i = feed.datastreams i := dif_pos i.isLt
    have hset := h.values i hi j (by rwa [hstream])
    rw [hstream, pointAt, dif_pos j.isLt] at hset
    exact (@SetBy.value posixConfig _ _ hset).1

/-- What is printed for a datapoint is its line. -/
lemma pointLine_eq (h : SetFeed feed c) {i j : ℕ} (hi : i < feed.datastreamCount)
    (hj : j < (streamAt feed i).datapointCount) :
    pointLine tg (streamAt feed i).datastreamId (pointAt (streamAt feed i) j) =
      some (lineOf tg (streamAt feed i) (pointAt (streamAt feed i) j) (c i j) ++ [10]) := by
  obtain ⟨id, hid, -⟩ := h.ids i hi
  have hend : lit "\n" = [10] := by decide
  have hvalue : valueText tg (pointAt (streamAt feed i) j) = some (c i j).text :=
    (h.values i hi j hj).value.2
  rw [pointLine, datapointText, hvalue, hid, lineOf, hid, hend]
  simp only [Option.map_some, cat_some, Option.getD_some, List.append_assoc]

lemma streamLines_eq (h : SetFeed feed c) {i : ℕ} (hi : i < feed.datastreamCount) :
    streamLines tg (streamAt feed i) =
      some (((List.range' 0 (streamAt feed i).datapointCount).map fun j =>
        lineOf tg (streamAt feed i) (pointAt (streamAt feed i) j) (c i j)).flatMap
          (· ++ [10])) := by
  rw [List.flatMap_map]
  refine cats_eq_some fun j _ hj => ?_
  have hj' : j < (streamAt feed i).datapointCount := by omega
  have hmax : j < xiMaxDatapoints := lt_of_lt_of_le hj' (h.points i hi)
  have hline := @pointLine_eq tg feed c h i j hi hj'
  rw [pointAt, dif_pos hmax] at hline
  rw [dif_pos hmax, hline, pointAt, dif_pos hmax]

/-- The body of an update is its lines, each with an end of line behind it. -/
lemma feedLines_eq (h : SetFeed feed c) :
    feedLines tg feed = some ((linesOfPoints tg feed c).flatMap (· ++ [10])) := by
  rw [linesOfPoints, List.flatMap_assoc]
  refine cats_eq_some fun i _ hi => ?_
  have hi' : i < feed.datastreamCount := by omega
  have hmax : i < xiMaxDatastreams := lt_of_lt_of_le hi' h.streams
  have hstream : streamAt feed i = feed.datastreams ⟨i, hmax⟩ := dif_pos hmax
  rw [dif_pos hmax, ← hstream]
  exact streamLines_eq h hi'

/-! ### Splitting -/

lemma linesOf_flatMap {ls : List Text} (h : ∀ l ∈ ls, 10 ∉ l) :
    linesOf (ls.flatMap (· ++ [10])) = ls ++ [[]] := by
  induction ls with
  | nil => rfl
  | cons l ls ih =>
    rw [List.forall_mem_cons] at h
    have hcons : (l :: ls).flatMap (· ++ [10]) = l ++ 10 :: ls.flatMap (· ++ [10]) := by simp
    rw [hcons, linesOf, List.splitOn_append_cons_self, List.splitOn_eq_singleton h.1]
    have hrest := ih h.2
    rw [linesOf] at hrest
    rw [hrest]
    rfl

/-- Lines are what their text splits into exactly if none of them holds an end of line. -/
lemma linesOf_flatMap_iff {ls : List Text} :
    linesOf (ls.flatMap (· ++ [10])) = ls ++ [[]] ↔ ∀ l ∈ ls, 10 ∉ l := by
  refine ⟨fun h l hl => ?_, linesOf_flatMap⟩
  exact not_mem_linesOf (t := ls.flatMap (· ++ [10])) (h ▸ List.mem_append_left _ hl)

lemma newline_not_mem_stampText (p : XiDatapoint) : 10 ∉ stampText tg p := by
  unfold stampText
  split
  · simp
  · obtain ⟨tm, htm⟩ := xiGmtime_isSome tg.longBits p.timestamp.timestamp
    rw [htm, Option.elim_some, List.mem_append, not_or]
    exact ⟨fun h => absurd (of_mem_timestampText h) (by decide), by decide⟩

lemma newline_mem_lineOf (h : SetFeed feed c) {i j : ℕ} (hi : i < feed.datastreamCount) :
    10 ∈ lineOf tg (streamAt feed i) (pointAt (streamAt feed i) j) (c i j) ↔
      10 ∈ (c i j).text := by
  obtain ⟨id, hid, -, -, hno⟩ := h.ids i hi
  have hcomma : (10 : Byte) ∉ lit "," := by decide
  simp only [lineOf, hid, Option.getD_some, List.mem_append, hno, hcomma,
    newline_not_mem_stampText, false_or]

/-- **Lines of an update**: the body of an update that is returned splits into one line for each
datapoint, with its id, its timestamp and its value, exactly if no value that was set holds an end
of line. -/
theorem update_lines (tg : Target) (h56 : 56 ≤ tg.contentBufferSize) (apiKey : CString)
    (feed : XiFeed) (c : ℕ → ℕ → Setter) (hfeed : SetFeed feed c) (e e' : XiErr)
    (l l' : Statics tg) (t : Text)
    (h : (EncodeCall.updateFeed feed).encode tg apiKey e l = .ret (some t) e' l') :
    ∃ body, t = requestText ((EncodeCall.updateFeed feed).query tg apiKey) (some body) ∧
      (linesOf body = linesOfPoints tg feed c ++ [[]] ↔
        ∀ i < feed.datastreamCount, ∀ j < (streamAt feed i).datapointCount,
          10 ∉ (c i j).text) := by
  have hread : (EncodeCall.updateFeed feed).Readable := hfeed.readable
  obtain ⟨-, ht⟩ := encode_some h56 hread h
  have hbody : (EncodeCall.updateFeed feed).body tg =
      some ((linesOfPoints tg feed c).flatMap (· ++ [10])) := by
    simp only [EncodeCall.body, EncodeCall.front, EncodeCall.staged, Option.bind_some,
      feedLines_eq hfeed, Option.getD_some]
  refine ⟨_, by rw [ht, EncodeCall.text, hbody], ?_⟩
  rw [linesOf_flatMap_iff]
  constructor
  · intro hlines i hi j hj
    rw [← @newline_mem_lineOf tg feed c hfeed i j hi]
    refine hlines _ (List.mem_flatMap.mpr ⟨i, ?_, List.mem_map.mpr ⟨j, ?_, rfl⟩⟩)
    · simpa using hi
    · simpa using hj
  · intro hno line hline
    obtain ⟨i, hi, hline⟩ := List.mem_flatMap.mp hline
    obtain ⟨j, hj, rfl⟩ := List.mem_map.mp hline
    have hi' : i < feed.datastreamCount := by simpa using hi
    have hj' : j < (streamAt feed i).datapointCount := by simpa using hj
    rw [newline_mem_lineOf hfeed hi']
    exact hno i hi' j hj'

/-- The id of the `i`-th datastream of a small feed. -/
def letterId (i : ℕ) : Text := ((lit "abcdefghijklmnop").drop i).take 1

lemma letterId_plain : ∀ i : Fin xiMaxDatastreams, (letterId i).length < xiMaxDatastreamName ∧
    0 ∉ letterId i ∧ 44 ∉ letterId i ∧ 13 ∉ letterId i ∧ 10 ∉ letterId i := by
  decide +kernel

/-- A feed of `n` datastreams, each with one datapoint that has been set to a string. -/
def stringFeed (n : ℕ) (value : ℕ → CString) : XiFeed :=
  { XiFeed.zero with
    datastreamCount := n
    datastreams := fun i => ⟨put (zero _) 0 (letterId i ++ [0]), 1, fun _ =>
      { XiDatapoint.zero with
        value := put (zero _) 0 ((Setter.str (value i)).text ++ [0])
        valueType := .str }⟩ }

section StringFeed

variable {n : ℕ} {value : ℕ → CString}

lemma setFeed_stringFeed (hn : n ≤ xiMaxDatastreams) :
    SetFeed (stringFeed n value) fun i _ => .str (value i) := by
  have hstream {i : ℕ} (hi : i < n) : streamAt (stringFeed n value) i =
      (stringFeed n value).datastreams ⟨i, hi.trans_le hn⟩ := dif_pos _
  refine ⟨hn, fun i hi => ?_, fun i hi => ?_, fun i hi j hj => ?_⟩
  · rw [hstream hi]
    exact (by decide : 1 ≤ 16)
  · obtain ⟨hlen, h0, hid⟩ := letterId_plain ⟨i, hi.trans_le hn⟩
    rw [hstream hi]
    exact ⟨letterId i, cstr_put h0 hlen, hid⟩
  · rw [hstream hi] at hj ⊢
    obtain rfl : j = 0 := Nat.lt_one_iff.mp hj
    refine ⟨[], .zero, .noErr, [true], .noErr, ?_⟩
    rw [List.nil_append, List.mapM_cons, bind_ret (setStr_run (value i) .noErr .zero)]
    rfl

lemma encode_stringFeed (hn : n ≤ xiMaxDatastreams) {body : Text}
    (hlines : feedLines posixConfig (stringFeed n value) = some body) (hlen : body.length < 64)
    (hquery : ((EncodeCall.updateFeed (stringFeed n value)).query posixConfig smallKey).length <
      128)
    (htext : ((EncodeCall.updateFeed (stringFeed n value)).text posixConfig smallKey).length <
      192) :
    ∃ l, (EncodeCall.updateFeed (stringFeed n value)).encode posixConfig smallKey .noErr
      (.fresh posixConfig) = .ret
        (some ((EncodeCall.updateFeed (stringFeed n value)).text posixConfig smallKey)) .noErr
        l := by
  have hread : (EncodeCall.updateFeed (stringFeed n value)).Readable :=
    (setFeed_stringFeed hn).readable
  have hfits : (EncodeCall.updateFeed (stringFeed n value)).Fits posixConfig smallKey := by
    have hpath : (feedPath 0).length < 64 := by decide
    have hstaged : FitsAt posixConfig.contentBufferSize 0
        (feedLines posixConfig (stringFeed n value)) := by
      rw [hlines, fitsAt_some, Nat.zero_add]
      exact hlen
    refine ⟨?_, hpath, hquery, content_fits (by decide) _, htext⟩
    rintro _ ⟨⟩
    exact hstaged
  obtain ⟨l, hl, -⟩ := (encode_decides (by decide) hread).1 hfits .noErr (.fresh posixConfig)
    trivial
  exact ⟨l, hl⟩

end StringFeed

/-- The values of two switches. -/
def switchValue : ℕ → CString
  | 0 => ⟨lit "on", by decide⟩
  | _ => ⟨lit "off", by decide⟩

theorem update_lines_plain : ∃ body,
    (EncodeCall.updateFeed (stringFeed 2 switchValue)).text posixConfig smallKey = requestText
      ((EncodeCall.updateFeed (stringFeed 2 switchValue)).query posixConfig smallKey)
        (some body) ∧
    linesOf body = linesOfPoints posixConfig (stringFeed 2 switchValue)
      (fun i _ => .str (switchValue i)) ++ [[]] := by
  have hlines : feedLines posixConfig (stringFeed 2 switchValue) = some (lit "a,on\nb,off\n") := by
    decide +kernel
  have hset : SetFeed (stringFeed 2 switchValue) fun i _ => .str (switchValue i) :=
    setFeed_stringFeed (by decide)
  obtain ⟨l, hl⟩ := encode_stringFeed (by decide) hlines (by decide) (by decide +kernel)
    (by decide +kernel)
  obtain ⟨body, htext, hsplit⟩ := update_lines posixConfig (by decide) smallKey
    (stringFeed 2 switchValue) (fun i _ => .str (switchValue i)) hset .noErr .noErr _ l _ hl
  refine ⟨body, htext, hsplit.mpr fun i _ _ _ => ?_⟩
  rcases i with _ | i
  · exact (by decide : (10 : Byte) ∉ (Setter.str (switchValue 0)).text)
  · exact (by decide : (10 : Byte) ∉ (Setter.str (switchValue 1)).text)

/-- A value that is the rest of a line and a line for another datastream. -/
def lineValue : CString := ⟨lit "1\nb,2", by decide⟩

/-- A feed of one datastream with that value. -/
def lineFeed : XiFeed := stringFeed 1 fun _ => lineValue

/-- There are two lines in the body for one datapoint. -/
theorem update_lines_two : ∃ l,
    (EncodeCall.updateFeed lineFeed).encode posixConfig smallKey .noErr (.fresh posixConfig) =
      .ret (some ((EncodeCall.updateFeed lineFeed).text posixConfig smallKey)) .noErr l ∧
    (EncodeCall.updateFeed lineFeed).text posixConfig smallKey = requestText
      ((EncodeCall.updateFeed lineFeed).query posixConfig smallKey)
        (some (lit "a,1\nb,2\n")) ∧
    SetFeed lineFeed (fun _ _ => .str lineValue) ∧
    (linesOfPoints posixConfig lineFeed fun _ _ => .str lineValue).length = 1 ∧
    linesOf (lit "a,1\nb,2\n") = [lit "a,1", lit "b,2", []] := by
  have hlines : feedLines posixConfig lineFeed = some (lit "a,1\nb,2\n") := by decide +kernel
  obtain ⟨l, hl⟩ := encode_stringFeed (by decide) hlines (by decide) (by decide +kernel)
    (by decide +kernel)
  exact ⟨l, hl, by decide +kernel, setFeed_stringFeed (by decide), by decide +kernel,
    by decide +kernel⟩

end LibXively.UpdateLines
