import Mathlib.Logic.Function.Basic
import LibXively.Model.PosixComm

/-!
`xi_str_dup` of `xi_helpers.c` and the contexts of `xively.c`, on the heap they live in.

A block is named by the call of the allocator that has made it. Only what the library stores in
blocks of its own is looked into; the blocks of a communication layer are names.
-/

namespace LibXively.XiContexts

open LibXively.Bytes LibXively.CProc LibXively.Structures LibXively.PosixComm

/-- `xi_protocol_t`. -/
inductive XiProtocol
  | http
  | https
  | tcp
  | tcps
  | ws
  | wss
  deriving DecidableEq

/-- `xi_context_t`, with its pointer. -/
structure ContextCell where
  apiKey : Option ℕ
  protocol : XiProtocol
  feedId : UInt32

/-- What is stored in a block. -/
inductive Cell
  | chars (s : CString)
  | context (c : ContextCell)

structure Heap where
  kernel : Kernel
  cells : ℕ → Option Cell

variable {α : Type}

def onKernel (m : Proc XiErr Kernel α) : Proc XiErr Heap α :=
  focus (fun h => h.kernel) (fun k h => { h with kernel := k }) m

/-- Store into a block. A block that is not live is outside every object. -/
def write (b : ℕ) (c : Cell) : Proc XiErr Heap Unit := fun e h =>
  if b ∈ h.kernel.blocks then .ret () e { h with cells := Function.update h.cells b (some c) }
  else .fault .overrun

/-- What is stored in a live block. -/
def Heap.cellAt (h : Heap) (b : ℕ) : Option Cell :=
  if b ∈ h.kernel.blocks then h.cells b else none

def Heap.contextAt (h : Heap) (b : ℕ) : Option ContextCell :=
  match h.cellAt b with
  | some (.context c) => some c
  | _ => none

def Heap.charsAt (h : Heap) (b : ℕ) : Option CString :=
  match h.cellAt b with
  | some (.chars s) => some s
  | _ => none

/-- Read the context behind a pointer. -/
def readContext (b : ℕ) : Proc XiErr Heap ContextCell := fun e h =>
  orCrash (h.contextAt b) .overrun e h

/-- Read the string behind a pointer. -/
def readChars (b : ℕ) : Proc XiErr Heap CString := fun e h =>
  orCrash (h.charsAt b) .overrun e h

lemma readContext_some {b : ℕ} {c : ContextCell} {h : Heap} (hc : h.contextAt b = some c)
    (e : XiErr) : readContext b e h = .ret c e h := by simp only [readContext, hc, orCrash_some]

lemma readContext_none {b : ℕ} {h : Heap} (hc : h.contextAt b = none) (e : XiErr) :
    readContext b e h = .fault .overrun := by simp only [readContext, hc, orCrash_none]

lemma readChars_some {b : ℕ} {s : CString} {h : Heap} (hs : h.charsAt b = some s) (e : XiErr) :
    readChars b e h = .ret s e h := by simp only [readChars, hs, orCrash_some]

lemma readChars_none {b : ℕ} {h : Heap} (hs : h.charsAt b = none) (e : XiErr) :
    readChars b e h = .fault .overrun := by simp only [readChars, hs, orCrash_none]

/-- `xi_free`. A block that is not live is not freed again. -/
def xiFree (b : ℕ) : Proc XiErr Heap Unit := fun e h =>
  if b ∈ h.kernel.blocks then
    .ret () e { kernel := { h.kernel with blocks := h.kernel.blocks.erase b },
                cells := Function.update h.cells b none }
  else .fault .overrun

section Calls

variable (sys : System)

/-- `xi_str_dup`. -/
def xiStrDup (s : CString) : Proc XiErr Heap (Option ℕ) := do
  let ret ← onKernel (xiAlloc sys)
  match ret with
  | none => return none
  | some b => do
    write b (.chars s)
    return some b

/-- `xi_create_context` between its declarations and its label. The local variable is `ret`. -/
def createBody (protocol : XiProtocol) (apiKey : Option CString) (feedId : UInt32) :
    Proc XiErr (Heap × Option ℕ) (Option ℕ) := do
  let ret ← outer (onKernel (xiAlloc sys))
  assign fun _ => ret
  let ret ← checkZero ret .outOfMemory
  match apiKey with
  | some apiKey => do
    let copy ← outer (xiStrDup sys apiKey)
    outer (write ret (.context ⟨copy, protocol, feedId⟩))
    let _ ← checkZero copy .outOfMemory
  | none => outer (write ret (.context ⟨none, protocol, feedId⟩))
  return some ret

/-- The cleanup at the error label of `xi_create_context`. -/
def createCleanup : Proc XiErr (Heap × Option ℕ) Unit := do
  let p ← get
  match p.2 with
  | some ret => outer (xiFree ret)
  | none => pure ()

/-- `xi_create_context`: the pointer returned. -/
def xiCreateContext (protocol : XiProtocol) (apiKey : Option CString) (feedId : UInt32) :
    Proc XiErr Heap (Option ℕ) :=
  withLocals none (errCleanup createCleanup none (createBody sys protocol apiKey feedId))

end Calls

/-- `XI_SAFE_FREE( context->api_key )`. -/
def freeKey (context : ℕ) (c : ContextCell) : Proc XiErr Heap Unit :=
  match c.apiKey with
  | some apiKey => do
    xiFree apiKey
    write context (.context { c with apiKey := none })
  | none => pure ()

/-- `xi_delete_context`. -/
def xiDeleteContext (context : Option ℕ) : Proc XiErr Heap Unit :=
  match context with
  | some context => do
    let c ← readContext context
    freeKey context c
    xiFree context
  | none => pure ()

end LibXively.XiContexts
