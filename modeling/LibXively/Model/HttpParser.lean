import LibXively.CLib.Scanf
import LibXively.Model.CsvData

/-!
The reply parser of `http_layer_parser.c`.

The functions walk a text from a position on; a pointer they return is the number of bytes they
have moved it.
-/

namespace LibXively.HttpParser

open LibXively.Bytes LibXively.Scanf LibXively.CProc LibXively.CharArray LibXively.Structures

def xiHttpCrlf : Text := [13, 10]

def xiHttpCrlfX2 : Text := [13, 10, 13, 10]

/-- `"HTTP/%d.%d %d %32[^\r\n]\r\n"`. -/
def xiHttpStatusPattern : List Directive :=
  [.lit 72, .lit 84, .lit 84, .lit 80, .lit 47, .int none, .lit 46, .int none, .space, .int none,
    .space, .set xiHttpStatusStringSize [13, 10], .space]

/-- `XI_HTTP_TOKEN_NAMES`. -/
def xiHttpTokenNames : List Text :=
  [lit "date", lit "content-type", lit "content-length", lit "connection", lit "x-request-id",
    lit "cache-control", lit "age", lit "vary", lit "unknown"]

/-- The header type with a given number. -/
def headerTypeOf : ℕ → HttpHeaderType
  | 0 => .date
  | 1 => .contentType
  | 2 => .contentLength
  | 3 => .connection
  | 4 => .xRequestId
  | 5 => .cacheControl
  | 6 => .vary
  | 7 => .count
  | 8 => .age
  | _ => .unknown

/-- The number of `XI_HTTP_HEADER_COUNT`, the type of a `Count` header. -/
abbrev xiHttpHeaderCount : ℕ := 7

def toLower (c : Byte) : Byte := if 65 ≤ c ∧ c ≤ 90 then c + 32 else c

/-- `strcasecmp( a, b ) == 0`. -/
def strcasecmpEq (a b : Text) : Bool := a.map toLower == b.map toLower

def classifyHeader (header : Text) : HttpHeaderType :=
  match (xiHttpTokenNames.take (xiHttpHeaderCount - 1)).findIdx? (strcasecmpEq header) with
  | some i => headerTypeOf i
  | none => .unknown

/-- What a scan of the status line stores of the values it has converted. -/
def storeStatus (items : List Item) (r : HttpResponse) : HttpResponse :=
  match items with
  | [.int a] => { r with httpVersion1 := a }
  | [.int a, .int b] => { r with httpVersion1 := a, httpVersion2 := b }
  | [.int a, .int b, .int c] =>
    { r with httpVersion1 := a, httpVersion2 := b, httpStatus := c }
  | [.int a, .int b, .int c, .str s] =>
    -- a reason of the full width puts its terminator behind the array
    { r with
      httpVersion1 := a, httpVersion2 := b, httpStatus := c
      httpStatusString := put r.httpStatusString 0
        ((s ++ [0]).take xiHttpStatusStringSize)
      statusOverrun := r.statusOverrun || decide (xiHttpStatusStringSize ≤ s.length) }
  | _ => r

/-- `parse_http_status`. -/
def parseHttpStatus (content : Text) : Proc XiErr HttpResponse (Option ℕ) :=
  errHandling none do
    let headerEndPtr ← checkZero (strstr xiHttpCrlf content) .httpStatusParseError
    let items := scan xiHttpStatusPattern content
    modify (storeStatus items)
    checkCnd (items.length ≠ 4) .httpStatusParseError
    return some (headerEndPtr + 2)

/-- Run on the header being filled. -/
def onHeader {α : Type} (i : Fin xiHttpMaxHeaders) (m : Proc XiErr HttpHeader α) :
    Proc XiErr HttpResponse α :=
  focus (fun r => r.httpHeaders i)
    (fun h r => { r with httpHeaders := Function.update r.httpHeaders i h }) m

def onName {α : Type} (m : Proc XiErr (Buf xiHttpHeaderNameMaxSize) α) :
    Proc XiErr HttpHeader α :=
  focus (fun h => h.name) (fun b h => { h with name := b }) m

def onHeaderValue {α : Type} (m : Proc XiErr (Buf xiHttpHeaderValueMaxSize) α) :
    Proc XiErr HttpHeader α :=
  focus (fun h => h.value) (fun b h => { h with value := b }) m

/-- Copy a field of a header: the length check, `memcpy` and the guard. -/
def copyField {n : ℕ} (src : Text) (len : ℤ) : Proc XiErr (Buf n) Unit := do
  checkCnd ((n : ℤ) - 1 < len) .httpHeaderParseError
  memcpy src (min (n - 1) len)
  store (n - 1) [0]

/-- `parse_http_header`. -/
def parseHttpHeader (content : Text) : Proc XiErr HttpResponse (Option ℕ) :=
  errHandling none do
    let headerEndPtr ← checkZero (strstr xiHttpCrlf content) .httpHeaderParseError
    let headerNameEndPtr ← checkZero (strstr [58] content) .httpHeaderParseError
    checkCnd (headerEndPtr < headerNameEndPtr) .httpHeaderParseError
    let r ← get
    if h : r.httpHeadersSize < xiHttpMaxHeaders then do
      let slot : Fin xiHttpMaxHeaders := ⟨r.httpHeadersSize, h⟩
      onHeader slot (onName (copyField content headerNameEndPtr))
      let headerNameEndPtr := headerNameEndPtr + 2
      onHeader slot (onHeaderValue
        (copyField (content.drop headerNameEndPtr) ((headerEndPtr : ℤ) - headerNameEndPtr)))
      let name ← onHeader slot (onName readStr)
      let ht := classifyHeader name
      if ht ≠ .unknown then
        modify fun r =>
          { r with httpHeadersChecklist := Function.update r.httpHeadersChecklist ht (some slot) }
      onHeader slot (modify fun x => { x with headerType := ht })
      modify fun r => { r with httpHeadersSize := r.httpHeadersSize + 1 }
      checkCnd (xiHttpMaxHeaders ≤ r.httpHeadersSize + 1) .httpHeaderParseError
      return some (headerEndPtr + 2)
    else crash .overrun

/-- `while( ( ptr = parse_http_header( response, ptr ) ) != '\0' && ptr != ptr_to_headers_end )`,
with `ptr` and `ptr_to_headers_end` as positions in the reply: whether the loop has stopped at the
end of the headers. -/
def headerLoop (content : Text) (headersEnd : ℕ) : ℕ → ℕ → Proc XiErr HttpResponse Bool
  | 0, _ => crash .diverge
  | k + 1, ptr => do
    match ← parseHttpHeader (content.drop ptr) with
    | none => return false
    | some moved =>
      if ptr + moved = headersEnd then return true
      else headerLoop content headersEnd k (ptr + moved)

/-- `parse_http` up to the end of the header section. A reply of `xiHttpMaxHeaders` headers ends
the loop, so no more rounds are needed. -/
def parseHead (content : Text) : Proc XiErr HttpResponse ℕ := do
  modify fun _ => .zero
  let ptrToHeadersEnd ← checkZero (strstr xiHttpCrlfX2 content) .httpParseError
  let ptr ← parseHttpStatus content
  let ptr ← checkZero ptr .httpParseError
  let _ ← headerLoop content (ptrToHeadersEnd + 2) xiHttpMaxHeaders ptr
  return ptrToHeadersEnd + 4

/-- `xi_get_last_error`. -/
def xiGetLastError {σ : Type} : Proc XiErr σ XiErr := do
  let ret ← getErr
  setErr .noErr
  return ret

/-- `parse_http`: whether the pointer returned is not null. -/
def parseHttp (content : Text) : Proc XiErr HttpResponse Bool := errHandling false do
  let payloadBegin ← parseHead content
  let e ← xiGetLastError
  checkCnd (e ≠ .noErr) e
  modify fun r => { r with httpContent := strncpy _ (content.drop payloadBegin) }
  return true

end LibXively.HttpParser
