import BofWebRpc.WebSocket.ClientKey
import BofWebRpc.WebSocket.Counting

/-!
# Synchronous calls

`Connect`, `Read`, `Write` and `Disconnect` program an operation and collect results until
one has its ticket. What they return is the status of the last access to the queue of
results, and they do not look at the status of the operation.

## The model

`syncCall` runs against an engine that goes on meanwhile: before each access to the
queue of results any events may happen. A call that has not returned when the list
of these is exhausted is still collecting.

## What is proved

* `syncCall_honest` — what a call returns is the outcome of its operation, when its ticket is new and no
  event fails the operation: its command succeeds and is not overwritten, it is in time, and `lws_write` takes
  its whole payload.
-/

namespace BofWebRpc.WebSocket

open Runs

variable {cfg : WebSocketParam}

/-! ### The calls -/

/-- A synchronous call with its parameters; a buffer is `none`, or `false`, when the pointer is null. -/
inductive SyncCall where
  | connect (wsCltKey : Key)
  | read (nbMaxToRead : ℕ) (data : Bool)
  | write (nbToWrite : ℕ) (data : Option (List UInt8))
  | disconnect
  deriving DecidableEq

/-- The operation that the call programs. -/
def SyncCall.opParam : SyncCall → OpParam
  | .connect wsCltKey => .connect (connectKey wsCltKey)
  | .read nbMaxToRead data => .read nbMaxToRead data
  | .write nbToWrite data => .write nbToWrite data
  | .disconnect => .disconnect

/-- The call returns a number of bytes. -/
def SyncCall.returnsNb : SyncCall → Bool
  | .read _ _ | .write _ _ => true
  | .connect _ | .disconnect => false

/-- What a call returns: the status, and the number of bytes in the parameter of `Read` and `Write`. -/
structure Returned where
  sts : BofErr
  nb : ℕ
  /-- History: the result with the ticket of the call. -/
  collected : Option OperationResult
  deriving DecidableEq

/-- `GetWebSocketOperationResult` in the loop of the calls, after the events `es`. -/
def collectRound (opTicket : ℕ) (p : Metered cfg) (es : List Event) : Outcome (Metered cfg) (Option OperationResult) :=
  let p := exec meter p es
  match p.1.resultCollection.peek with
  | none => .leave none p
  | some r => if r.opTicket = opTicket then .leave (some r) (meter p .collect) else .next (meter p .collect)

/-- `Connect`, `Read`, `Write` and `Disconnect`: the engine afterwards, and what the call returns, if it does. -/
def syncCall (call : SyncCall) (timeOut tick : ℕ) (p : Metered cfg) (rounds : List (List Event)) :
    Metered cfg × Option Returned :=
  let program := Event.program timeOut tick call.opParam
  if program.pushes p.1 then
    match loop (collectRound p.1.ticket) (meter p program) rounds with
    | .next q => (q, none)
    | .leave none q => (q, some { sts := .etimedout, nb := 0, collected := none })
    | .leave (some r) q =>
      (q, some { sts := .noError, nb := if call.returnsNb then r.size else 0, collected := some r })
  else (meter p program, some { sts := .full, nb := 0, collected := none })

/-- No event fails the operation of the call, from the start of the call to its return. -/
def SyncCall.Fulfilled (call : SyncCall) (timeOut tick : ℕ) (s : State cfg) (rounds : List (List Event)) : Prop :=
  Along (collectRound s.ticket) (fun q es => Meets meter (fun q e => e.Fulfils s.ticket q.1) q es)
    (meter (s, []) (.program timeOut tick call.opParam)) rounds

instance (call : SyncCall) (timeOut tick : ℕ) (s : State cfg) (rounds : List (List Event)) :
    Decidable (call.Fulfilled timeOut tick s rounds) := inferInstanceAs (Decidable (Along _ _ _ _))

/-! ### What calls return -/

/-- What a call returns is the outcome of its operation, which has transferred `bytes` bytes. -/
structure Honest (call : SyncCall) (r : Returned) (bytes : ℕ) : Prop where
  /-- A call that succeeds has the result of an operation that has succeeded, and the number of bytes is what that
  has transferred. -/
  success : r.sts = .noError → ∃ result, r.collected = some result ∧ result.sts = .noError ∧
    (call.returnsNb = true → r.nb = bytes)
  /-- A call whose operation has failed returns an error, and `0`. -/
  failure : ∀ result, r.collected = some result → result.sts ≠ .noError → r.sts ≠ .noError ∧ r.nb = 0

/-- A call that collects no result is honest, since it returns an error. -/
theorem honest_of_none {call : SyncCall} {r : Returned} {bytes : ℕ} (hsts : r.sts ≠ .noError)
    (hnone : r.collected = none) :
    Honest call r bytes := by
  refine ⟨fun hok => absurd hok hsts, fun result hresult => ?_⟩
  rw [hnone] at hresult
  cases hresult

/-- A result that is collected is a success, and counts what has been transferred. -/
theorem collectRound_counted (opTicket : ℕ) (p : Metered cfg) (es : List Event) (h : Metering opTicket p)
    (hes : Meets meter (fun p e => e.Fulfils opTicket p.1) p es) :
    (collectRound opTicket p es).Sat (Metering opTicket) fun found q =>
      ∀ r, found = some r → r.sts = .noError ∧ r.size = bytesUnder opTicket q.2 := by
  have hrun := exec_inv meter_metering es p h hes
  simp only [collectRound]
  generalize exec meter p es = q at hrun ⊢
  cases hpeek : q.1.resultCollection.peek with
  | none => exact fun _ hnone => by cases hnone
  | some r =>
    have hr : r ∈ q.1.resultCollection.elements := by
      rw [Fifo.peek_eq_some_iff.mp hpeek]
      exact List.mem_cons_self
    dsimp only
    split_ifs with hticket
    · rintro r' hr'
      cases hr'
      have hcounts := hrun.results r hr hticket
      simp only [meter, State.transfers, List.append_nil]
      exact hcounts
    · exact meter_metering q .collect hrun trivial

/-- None of the calls listens. -/
theorem SyncCall.operation_ne_listen (call : SyncCall) : call.opParam.operation ≠ .listen := by
  cases call <;> rintro ⟨⟩

/-- The operation of the call gets a new ticket. -/
theorem State.Unused.programmed {s : State cfg} (h : s.Unused s.ticket) (call : SyncCall) (timeOut tick : ℕ)
    (hpushes : (Event.program timeOut tick call.opParam).pushes s = true) :
    Metering s.ticket (meter (s, []) (.program timeOut tick call.opParam)) := by
  obtain ⟨hqueued, hlisten, hhand⟩ := h
  have hcount := List.count_eq_zero.mpr hqueued
  obtain ⟨hnoParam, hnoWrite, hnoResult⟩ := not_queued hcount
  rw [count_queuedTickets] at hcount
  cases hq : s.paramCollection.push ⟨s.ticket, timeOut, tick, call.opParam⟩ with
  | none => exact absurd (of_decide_eq_true hpushes) (Nat.not_lt.mpr (Fifo.push_eq_none_iff.mp hq))
  | some q =>
    have helements := (Fifo.push_eq_some_iff.mp hq).2
    simp only [meter, step, State.program, hq, State.transfers, List.append_nil]
    refine ⟨⟨fun op hop hticket => ⟨?_, rfl⟩, fun op hop hticket => absurd hticket (hnoWrite op hop),
      fun r hr hticket => absurd hticket (hnoResult r hr), hlisten, ?_⟩, fun hin => .inl (hhand hin)⟩
    · have hop : op ∈ q.elements := hop
      rw [helements] at hop
      rcases List.mem_append.mp hop with hop | hop
      · exact absurd hticket (hnoParam op hop)
      · rw [List.mem_singleton.mp hop]
        exact call.operation_ne_listen
    · rw [count_queuedTickets]
      dsimp only
      rw [helements, List.map_append, List.count_append, List.map_singleton, List.count_singleton_self]
      omega

/-- **A synchronous call is honest** in every state in which its ticket is new, with whatever happens meanwhile, as
long as no event fails its operation. -/
theorem syncCall_honest {s : State cfg} (hnew : s.Unused s.ticket) (call : SyncCall) (timeOut tick : ℕ)
    (rounds : List (List Event)) (hrounds : call.Fulfilled timeOut tick s rounds) {r : Returned}
    (hreturns : (syncCall call timeOut tick (s, []) rounds).2 = some r) :
    Honest call r (bytesUnder s.ticket (syncCall call timeOut tick (s, []) rounds).1.2) := by
  cases hpushes : (Event.program timeOut tick call.opParam).pushes s with
  | false =>
    simp only [syncCall, hpushes, Bool.false_eq_true, if_false] at hreturns ⊢
    cases hreturns
    exact honest_of_none (by decide) rfl
  | true =>
    have hloop := loop_rule (I := Metering s.ticket) (collectRound_counted s.ticket) rounds _
      (hnew.programmed call timeOut tick hpushes) hrounds
    simp only [syncCall, hpushes, if_true] at hreturns ⊢
    generalize loop (collectRound s.ticket) (meter (s, []) (.program timeOut tick call.opParam)) rounds = outcome
      at hloop hreturns ⊢
    cases outcome with
    | next q => cases hreturns
    | leave found q =>
      cases found with
      | none =>
        cases hreturns
        exact honest_of_none (by decide) rfl
      | some result =>
        cases hreturns
        obtain ⟨hsts, hsize⟩ := hloop result rfl
        refine ⟨fun _ => ⟨result, rfl, hsts, fun hnb => ?_⟩, fun result' hresult' hfailed => ?_⟩
        · rw [if_pos hnb]
          exact hsize
        · cases hresult'
          exact absurd hsts hfailed

/-- A client reads a byte that arrives while it waits; the result of its CONNECT is collected first. -/
def readsByte : List (List Event) :=
  [[.iterate (.at 0 1), .callback (.receive .client 1 [65] true ⟨true, false, false⟩), .iterate (.at 0 1)], []]

/-- The result of that READ. -/
def readResult : OperationResult :=
  { operation := .read, opTicket := 2, sts := .noError, size := 1, buffer := true, time := 0
    message := some [(1, [65])] }

/-- The byte is counted. -/
theorem syncCall_honest_read : Honest (.read 4 true) ⟨.noError, 1, some readResult⟩
    (bytesUnder connected.ticket (syncCall (.read 4 true) 1000 0 (connected, []) readsByte).1.2) := by
  have hfulfilled : (SyncCall.read 4 true).Fulfilled 1000 0 connected readsByte := by decide +kernel
  have hreturns : (syncCall (.read 4 true) 1000 0 (connected, []) readsByte).2 =
      some ⟨.noError, 1, some readResult⟩ := by decide +kernel
  exact syncCall_honest (by decide +kernel) _ _ _ _ hfulfilled hreturns

/-- A client that is not connected reads: the result of its READ is `enotconn`, and the call succeeds. -/
theorem not_syncCall_honest :
    ¬ ∀ (cfg : WebSocketParam) (es : List Event) (call : SyncCall) (timeOut tick : ℕ) (rounds : List (List Event))
      (r : Returned), (exec step (State.start : State cfg) es).Unused (exec step (State.start : State cfg) es).ticket →
      (syncCall call timeOut tick (exec step (State.start : State cfg) es, []) rounds).2 = some r →
      Honest call r (bytesUnder (exec step (State.start : State cfg) es).ticket
        (syncCall call timeOut tick (exec step (State.start : State cfg) es, []) rounds).1.2) := by
  intro h
  have hhonest := h client [] (.read 4 true) 1000 0 [[.iterate (.at 0 1)]]
    ⟨.noError, 0, some { readResult with opTicket := 1, sts := .enotconn, size := 0, buffer := false, message := none }⟩
    (by decide +kernel) (by decide +kernel)
  exact (hhonest.failure _ rfl (by decide)).1 rfl

end BofWebRpc.WebSocket
