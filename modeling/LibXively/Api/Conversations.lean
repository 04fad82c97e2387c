import LibXively.Api.Layers
import LibXively.Requests.FeedRequests

/-!
What the API functions say to a communication layer.

A recorded layer writes down which of its functions are called, with what. Every call of the API
leaves one conversation in the record: it opens a connection, sends its request once, reads once,
and closes what it has opened.
-/

namespace LibXively.Conversations

open LibXively.Bytes LibXively.CProc LibXively.CharArray LibXively.Structures LibXively.Runs
open LibXively.Simulations LibXively.HttpQueries LibXively.CommLayers LibXively.Xively
open LibXively.Append LibXively.Encoders LibXively.FeedRequests LibXively.PosixComm
open LibXively.PosixLayer LibXively.Exchanges LibXively.Calls LibXively.Traffic LibXively.Layers

variable {tg : Target} {cl : CommLayer}

/-! ### Conversations -/

/-- The ways a conversation about a request goes, and whether a reply is read in it. Each goes over
one connection, which is closed at its end. -/
inductive Conversation {Conn : Type} (data : Text) : Bool → List (Event Conn) → Prop
  | unopened : Conversation data false [.opened none]
  | unsent {c} : Conversation data false [.opened (some c), .sent c data (-1), .closed c]
  | unread {c n} (hn : n ≠ -1) :
      Conversation data false [.opened (some c), .sent c data n, .received c (-1), .closed c]
  | answered {c n k} (hn : n ≠ -1) (hk : 0 ≤ k) :
      Conversation data true [.opened (some c), .sent c data n, .received c k, .closed c]

/-- What a call says: nothing if its request does not fit, and otherwise one conversation about it.
There is a response only if a reply was read. -/
def Says (tg : Target) {Conn : Type} (i : Visit) (talk : List (Event Conn)) : Prop :=
  (i.2.1.request.Fits tg i.2.1.apiKey ∧
    ∃ o, Conversation (i.2.1.request.text tg i.2.1.apiKey) o talk ∧ (i.2.2.1.1 = true → o = true)) ∨
  (¬ i.2.1.request.Fits tg i.2.1.apiKey ∧ talk = [] ∧ i.2.2.1.1 = false)

section Record

variable {s s₁ s' : (recorded cl).World} {data : Text} {o : Bool}
  {conn : Option (recorded cl).Conn} {y : Option XiErr}

section Functions

variable {w w' : (recorded cl).World} {c : cl.Conn} {e x : XiErr}

lemma opened_record {a : Text} {p : ℕ} {c : Option cl.Conn}
    (h : (recorded cl).openConnection a p e w = .ret c x w') : w'.2 = w.2 ++ [.opened c] :=
  @recorded_answer cl.World cl.Conn _ .opened _ _ _ _ _ _ h

lemma sent_record {n : ℤ} (h : (recorded cl).sendData c data e w = .ret n x w') :
    w'.2 = w.2 ++ [.sent c data n] :=
  @recorded_answer cl.World cl.Conn _ (.sent c data) _ _ _ _ _ _ h

lemma received_record {r : ℤ × Buf xiHttpMaxContentSize}
    (h : (recorded cl).readData c e w = .ret r x w') : w'.2 = w.2 ++ [.received c r.1] :=
  @recorded_answer cl.World cl.Conn (ℤ × Buf xiHttpMaxContentSize) (fun r => .received c r.1) _ _ _
    _ _ _ h

lemma closed_record (hc : Closing (recorded cl) (some c) w y w') :
    w'.2 = w.2 ++ [.closed c] :=
  @recorded_answer cl.World cl.Conn Unit (fun _ => .closed c) _ _ _ _ _ _ (hc.2 .noErr)

end Functions

/-- An exchange and its close are one conversation. -/
lemma exchanged_record (h : Exchanged (recorded cl) data s o conn s₁)
    (hc : Closing (recorded cl) conn s₁ y s') :
    ∃ talk : List (Event cl.Conn), Conversation data o talk ∧ s'.2 = s.2 ++ talk := by
  cases h with
  | unopened hopen =>
    obtain rfl : s' = s₁ := hc.2
    exact ⟨_, .unopened, opened_record (hopen .noErr)⟩
  | @unsent c w₁ x _ hopen hsend =>
    refine ⟨[.opened (some c), .sent c data (-1), .closed c], .unsent, ?_⟩
    rw [closed_record hc, sent_record (hsend .noErr), opened_record (hopen .noErr)]
    simp only [List.append_assoc]
    rfl
  | @unread c w₁ n w₂ x b _ hopen hsend hn hread =>
    refine ⟨[.opened (some c), .sent c data n, .received c (-1), .closed c], .unread hn, ?_⟩
    rw [closed_record hc, received_record (hread .noErr), sent_record (hsend .noErr),
      opened_record (hopen .noErr)]
    simp only [List.append_assoc]
    rfl
  | @answered c w₁ n w₂ d _ hopen hsend hn hread =>
    refine ⟨[.opened (some c), .sent c data n, .received c d.bytes.length, .closed c],
      .answered hn (Int.natCast_nonneg _), ?_⟩
    rw [closed_record hc, received_record (hread .noErr), sent_record (hsend .noErr),
      opened_record (hopen .noErr)]
    simp only [List.append_assoc]
    rfl

end Record

/-- A request is made exactly if it fits, and it is the text of the request. -/
lemma makes_iff (h56 : 56 ≤ tg.contentBufferSize) {c : ApiCall} (hc : c.request.Readable)
    (e : XiErr) (l : Statics tg) (data : Text) : Makes tg c e l data ↔
      c.request.Fits tg c.apiKey ∧ data = c.request.text tg c.apiKey := by
  constructor
  · rintro ⟨e₁, l₁, h⟩
    exact encode_some h56 hc h
  · rintro ⟨hfits, hdata⟩
    obtain ⟨l', hrun, -⟩ := (@encode_decides tg c.apiKey h56 _ hc).1 hfits e l trivial
    exact ⟨e, l', hdata ▸ hrun⟩

/-- What one call adds to the record. -/
lemma performs_says (h56 : 56 ≤ tg.contentBufferSize) {i : Visit} (hi : i.2.1.request.Readable)
    {p p' : Process tg (recorded cl)} (h : Performs p i p') :
    ∃ talk, Says tg i talk ∧ p'.world.2 = p.world.2 ++ talk := by
  obtain ⟨l, s⟩ := p
  rcases run_traffic (performs_run h) with ⟨hnone, hw, hv⟩ |
    ⟨data, o, conn, s₁, y, hmakes, hexchanged, hclosing, hfailed⟩
  · refine ⟨[], .inr ⟨fun hfits => ?_, rfl, hv⟩, by rw [hw, List.append_nil]⟩
    obtain ⟨e₁, l₁, hrun⟩ := (makes_iff h56 hi i.1 l _).mpr ⟨hfits, rfl⟩
    rcases hnone with ⟨l₂, hno⟩ | ⟨l₂, hno⟩
    · exact Option.some_ne_none _ (Outcome.ret.inj (hrun.symm.trans hno)).1
    · exact absurd (hrun.symm.trans hno) nofun
  · obtain ⟨hfits, hdata⟩ := (makes_iff h56 hi i.1 l data).mp hmakes
    obtain ⟨talk, htalk, hrecord⟩ := exchanged_record hexchanged hclosing
    rw [hdata] at htalk
    refine ⟨talk, .inl ⟨hfits, o, htalk, fun hv => ?_⟩, hrecord⟩
    cases o with
    | true => rfl
    | false => exact absurd hv (by rw [(hfailed rfl).1]; decide)

/-- What a run of calls adds to the record. -/
lemma run_says (h56 : 56 ≤ tg.contentBufferSize) {is : List Visit}
    (his : ∀ i ∈ is, i.2.1.request.Readable) {p p' : Process tg (recorded cl)}
    (h : Run Performs p is p') :
    ∃ talks, List.Forall₂ (Says tg) is talks ∧ p'.world.2 = p.world.2 ++ talks.flatten := by
  induction h with
  | nil p => exact ⟨[], .nil, by simp⟩
  | cons hstep _ ih =>
    obtain ⟨hi, hrest⟩ := List.forall_mem_cons.mp his
    obtain ⟨talk, htalk, hfirst⟩ := performs_says h56 hi hstep
    obtain ⟨talks, htalks, hall⟩ := ih hrest
    refine ⟨talk :: talks, .cons htalk htalks, ?_⟩
    rw [hall, hfirst, List.flatten_cons, List.append_assoc]

/-- **Conversations**: recorded, a run of calls over any layer is the same run, and the record is
one conversation for each call whose request fits, in the order of the calls: one connection is
opened, the whole request is handed over once, one read follows, and what was opened is closed
before the next call. -/
theorem conversations (h56 : 56 ≤ tg.contentBufferSize) {is : List Visit}
    (his : ∀ i ∈ is, i.2.1.request.Readable) {p p' : Process tg cl} (h : Run Performs p is p') :
    ∃ talks, List.Forall₂ (Says tg) is talks ∧
      Run Performs (⟨p.statics, (p.world, [])⟩ : Process tg (recorded cl)) is
        ⟨p'.statics, (p'.world, talks.flatten)⟩ := by
  have hstart : (recordedSim cl).processes p
      (⟨p.statics, (p.world, [])⟩ : Process tg (recorded cl)) := ⟨rfl, rfl⟩
  obtain ⟨⟨l, w, record⟩, hrun, ⟨hstatics, hworld⟩, -⟩ := layers_alike (recordedSim cl) hstart h
  obtain ⟨talks, htalks, hrecord⟩ := run_says h56 his hrun
  obtain rfl : p'.statics = l := hstatics
  obtain rfl : w = p'.world := hworld
  obtain rfl : record = talks.flatten := hrecord
  exact ⟨talks, htalks, hrun⟩

theorem conversations_delete : ∃ o x o' y p', x ≠ .noErr ∧ Run Performs idle
      [(.noErr, getCall, (true, o), x), (x, deleteCall, (false, o'), y)] p' ∧
    ∃ talks, List.Forall₂ (Says posixConfig)
        [(.noErr, getCall, (true, o), x), (x, deleteCall, (false, o'), y)] talks ∧
      Run Performs (⟨idle.statics, (idle.world, [])⟩ : Process posixConfig (recorded _))
        [(.noErr, getCall, (true, o), x), (x, deleteCall, (false, o'), y)]
        ⟨p'.statics, (p'.world, talks.flatten)⟩ := by
  obtain ⟨o, x, o', y, p', hx, hrun⟩ := getThenDelete_performs idle
  refine ⟨o, x, o', y, p', hx, hrun, conversations (by decide) ?_ hrun⟩
  exact List.forall_mem_cons.mpr ⟨trivial, List.forall_mem_singleton.mpr trivial⟩

end LibXively.Conversations
