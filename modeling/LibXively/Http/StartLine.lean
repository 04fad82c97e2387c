import LibXively.Http.Framing

/-!
Request lines of HTTP/1.1: a method, a target and a version, where a query stands behind the
first question mark of the target.
-/

namespace LibXively.StartLine

open LibXively.Bytes LibXively.Framing

structure RequestLine where
  method : Text
  path : Text
  query : Option Text
  deriving DecidableEq

/-- The text up to the first end of line. -/
def firstLine (t : Text) : Option Text := (strstr crlf t).map t.take

/-- The path and the query of a target. -/
def readTarget (t : Text) : Text × Option Text :=
  match strstr [63] t with
  | none => (t, none)
  | some k => (t.take k, some (t.drop (k + 1)))

def readRequestLine (l : Text) : Option RequestLine :=
  match strstr [32] l with
  | none => none
  | some i =>
    let rest := l.drop (i + 1)
    match strstr [32] rest with
    | none => none
    | some j =>
      if rest.drop (j + 1) = lit "HTTP/1.1" then
        some ⟨l.take i, (readTarget (rest.take j)).1, (readTarget (rest.take j)).2⟩
      else none

/-- The fields of a query: names and values, with ampersands between them. -/
def queryFields (q : Text) : List (Text × Text) :=
  (q.splitOn 38).map fun f => (f.takeWhile (· ≠ 61), (f.dropWhile (· ≠ 61)).tail)

/-- The query the fields make. -/
def renderQuery (fs : List (Text × Text)) : Text :=
  [38].intercalate (fs.map fun f => f.1 ++ 61 :: f.2)

/-- The target a path and a query make. -/
def renderTarget (path : Text) (query : Option Text) : Text :=
  path ++ query.elim [] (63 :: ·)

lemma firstLine_render {l : Text} (h : OneLine l) (ls : List Text) (rest : Text) :
    firstLine (renderLines (l :: ls) ++ rest) = some l := by
  have htext : renderLines (l :: ls) ++ rest = l ++ 13 :: 10 :: (renderLines ls ++ rest) := by
    simp [crlf]
  have hsearch : strstr crlf (l ++ 13 :: 10 :: (renderLines ls ++ rest)) = some l.length :=
    strstr_pair_append (by decide) h _
  rw [firstLine, htext, hsearch]
  simp

lemma readTarget_render {path : Text} (h : 63 ∉ path) (query : Option Text) :
    readTarget (renderTarget path query) = (path, query) := by
  cases query with
  | none =>
    have hnone : strstr [63] path = none := strstr_singleton_none h
    simp [readTarget, renderTarget, hnone]
  | some q =>
    have hsome : strstr [63] (path ++ 63 :: q) = some path.length := strstr_singleton_append h q
    simp [readTarget, renderTarget, hsome]

/-- A request line whose parts have no blank is read back. -/
lemma readRequestLine_render {method path : Text} {query : Option Text} (hm : 32 ∉ method)
    (hp : 32 ∉ path ∧ 63 ∉ path) (hq : 32 ∉ query.getD []) :
    readRequestLine (method ++ 32 :: (renderTarget path query ++ 32 :: lit "HTTP/1.1")) =
      some ⟨method, path, query⟩ := by
  have htarget : 32 ∉ renderTarget path query := by
    rw [renderTarget, List.mem_append, not_or]
    refine ⟨hp.1, ?_⟩
    cases query with
    | none => simp
    | some q => simpa using hq
  have hfirst := strstr_singleton_append hm (renderTarget path query ++ 32 :: lit "HTTP/1.1")
  have hsecond := strstr_singleton_append htarget (lit "HTTP/1.1")
  simp [readRequestLine, hfirst, hsecond, readTarget_render hp.2]

/-- The fields of a query are read back. -/
lemma queryFields_render {fs : List (Text × Text)} (hne : fs ≠ [])
    (h : ∀ f ∈ fs, 61 ∉ f.1 ∧ 38 ∉ f.1 ∧ 38 ∉ f.2) : queryFields (renderQuery fs) = fs := by
  have hsplit : (renderQuery fs).splitOn 38 = fs.map fun f => f.1 ++ 61 :: f.2 := by
    refine List.splitOn_intercalate 38 (fun l hl => ?_) (by simpa using hne)
    obtain ⟨f, hf, rfl⟩ := List.mem_map.mp hl
    simp [(h f hf).2.1, (h f hf).2.2]
  rw [queryFields, hsplit, List.map_map]
  refine (List.map_congr_left fun f hf => ?_).trans (List.map_id fs)
  have hname : ∀ c ∈ f.1, decide (c ≠ 61) = true := fun c hc =>
    decide_eq_true fun h61 => (h f hf).1 (h61 ▸ hc)
  rw [Function.comp_apply, List.takeWhile_append_of_pos hname,
    List.dropWhile_append_of_pos hname]
  simp

end LibXively.StartLine
