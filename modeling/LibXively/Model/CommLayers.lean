import LibXively.Model.Structures

/-!
The interface of a communication layer, `comm_layer.h`, and what the library relies on.
-/

namespace LibXively.CommLayers

open LibXively.Bytes LibXively.CProc LibXively.CharArray LibXively.Structures

/-- What one call of `read_data` brings in: at most a buffer full of bytes. -/
structure Received where
  bytes : Text
  fits : bytes.length ≤ xiHttpMaxContentSize

/-- The buffer a reception leaves: it is cleared, then filled from the front. -/
def Received.buffer (d : Received) : Buf xiHttpMaxContentSize := strncpy _ d.bytes

/-- An operation that either leaves the error variable alone or sets an error in it, whatever was
in the variable, and sets one exactly when its answer is a failure. -/
def Reports {σ α : Type} (m : Proc XiErr σ α) (failed : α → Prop) : Prop :=
  ∀ s, ∃ v s', (¬ failed v ∧ ∀ e, m e s = .ret v e s') ∨
    (failed v ∧ ∃ x, x ≠ .noErr ∧ ∀ e, m e s = .ret v x s')

/-- An operation that has no answer to report a failure with, and sets an error at most. -/
def MayReport {σ : Type} (m : Proc XiErr σ Unit) : Prop :=
  ∀ s, ∃ (x : Option XiErr) (s' : σ), x ≠ some .noErr ∧ ∀ e, m e s = .ret () (x.getD e) s'

/-- `comm_layer_t`, over the state of the system below. `read_data` clears the buffer it is
given, so the bytes in it before do not matter and its contents after are part of the answer. -/
structure CommLayer where
  World : Type
  Conn : Type
  openConnection : Text → ℕ → Proc XiErr World (Option Conn)
  sendData : Conn → Text → Proc XiErr World ℤ
  readData : Conn → Proc XiErr World (ℤ × Buf xiHttpMaxContentSize)
  closeConnection : Conn → Proc XiErr World Unit
  /-- what the peer delivers to a read, unless the read fails -/
  delivers : Conn → World → Option Received
  open_reports : ∀ a p, Reports (openConnection a p) (· = none)
  send_reports : ∀ c t, Reports (sendData c t) (· = -1)
  read_some : ∀ {c w d}, delivers c w = some d →
    ∃ w', ∀ e, readData c e w = .ret (d.bytes.length, d.buffer) e w'
  read_none : ∀ {c w}, delivers c w = none →
    ∃ x b w', x ≠ .noErr ∧ ∀ e, readData c e w = .ret (-1, b) x w'
  close_reports : ∀ c, MayReport (closeConnection c)

end LibXively.CommLayers
