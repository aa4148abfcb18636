import BofWebRpc.WebSocket.Connections

/-!
# Cancelling

`CancelWebSocketOperation` raises a flag and waits for an event. The cancel block of
`V_OnProcessing` lowers the flag, resets the queues and the connection, and signals the
event; the context stays.

## The model

`Cancelling` adds to the engine the number of cancel blocks executed so far and the
calls that wait, each under the number of blocks executed when it started. A call that
returns `BOF_ERR_NO_ERROR` after its wait is noted with both numbers.

## What is proved

* `iterate_of_cancel` — the cancel block resets the queues and the current operation.
* `cancels_acknowledged` — a block has been executed since the call started, in every run
  in which no call that waits finds the event signalled.
* `cancel_agrees_iff` — the connection agrees with the context after the cancel blocks of a run
  if and only if there is no context at any of them.
-/

namespace BofWebRpc.WebSocket

open Runs Reassembly

variable {cfg : WebSocketParam}

/-! ### The cancel block -/

/-- An iteration executes the cancel block. -/
def Event.cancels (s : State cfg) : Event → Bool
  | .iterate _ => s.loop.running && s.cancel
  | _ => false

/-- **The cancel block** resets the queues, the receive buffer and the current operation, and signals the
event. -/
theorem iterate_of_cancel {s : State cfg} {env : LoopEnv} (h : (Event.iterate env).cancels s = true) :
    (s.iterate env).paramCollection = .empty ∧ (s.iterate env).resultCollection = .empty ∧
      (s.iterate env).writeOpCollection = .empty ∧ (s.iterate env).rxBufferCollection = .empty ∧
      (s.iterate env).loop.currentOp = .reset ∧ (s.iterate env).cancel = false ∧
        (s.iterate env).cancelEvent = true := by
  simp only [Event.cancels, Bool.and_eq_true] at h
  rcases iterate_cases s env with ⟨hrun, -⟩ | ⟨-, -, he⟩ | ⟨-, hcancel, -⟩
  · exact absurd h.1 (ne_true_of_eq_false hrun)
  · obtain ⟨huser, hwrites, -⟩ := loopEnd_same (s.beforeCancel env).cancelBlock env
    have hsignals := loopEnd_sameSignals (s.beforeCancel env).cancelBlock env
    rw [he]
    refine ⟨huser.paramCollection, hwrites.resultCollection, hwrites.writeOpCollection, ?_, ?_, hsignals.cancel,
      hsignals.cancelEvent⟩
    · simp only [State.loopEnd]
      split_ifs <;> rfl
    · simp only [State.loopEnd]
      split_ifs
      · rfl
      · exact congrArg Processing.currentOp (clientDisconnect_same _ env.destroying).1.loop
  · exact absurd h.2 (ne_true_of_eq_false hcancel)

/-! ### Acknowledgement -/

/-- The engine and the calls of `CancelWebSocketOperation`. -/
structure Cancelling (cfg : WebSocketParam) where
  engine : State cfg
  /-- The number of cancel blocks executed so far. -/
  blocks : ℕ
  /-- The calls that wait: the number of blocks executed when each of them started. -/
  waiting : List ℕ
  /-- The calls that returned `BOF_ERR_NO_ERROR` after a wait: the number of blocks executed when each of them
  started, and when it returned. -/
  acknowledged : List (ℕ × ℕ)

/-- Nobody has called. -/
def Cancelling.start : Cancelling cfg := { engine := .start, blocks := 0, waiting := [], acknowledged := [] }

/-- What can happen next. -/
inductive CancelEvent where
  /-- An event of the engine; a call of `CancelWebSocketOperation` may start a wait. -/
  | event (e : Event)
  /-- The wait of a call ends with the event. -/
  | returns (call : ℕ)
  /-- The wait of a call is over time. -/
  | timesOut (call : ℕ)

/-- The event is a call of `CancelWebSocketOperation` that raises the flag and waits. -/
def Event.waits (s : State cfg) : Event → Bool
  | .cancel timeOut => !s.cancel && decide (timeOut ≠ 0)
  | _ => false

/-- One event. The end of a wait is `returns`, which consumes the event. -/
def acknowledge (p : Cancelling cfg) : CancelEvent → Cancelling cfg
  | .event .cancelled => p
  | .event e =>
    { p with
      engine := step p.engine e
      blocks := if e.cancels p.engine then p.blocks + 1 else p.blocks
      waiting := if e.waits p.engine then p.waiting ++ [p.blocks] else p.waiting }
  | .returns call =>
    if call ∈ p.waiting ∧ p.engine.cancelEvent = true then
      { p with
        engine := p.engine.cancelled
        waiting := p.waiting.erase call
        acknowledged := p.acknowledged ++ [(call, p.blocks)] }
    else p
  | .timesOut call => { p with waiting := p.waiting.erase call }

/-- A cancel block has been executed between the start and the return of each call. -/
def Acknowledged (p : Cancelling cfg) : Prop := ∀ c ∈ p.acknowledged, c.1 < c.2

instance (p : Cancelling cfg) : Decidable (Acknowledged p) := inferInstanceAs (Decidable (∀ _ ∈ _, _))

/-- A call that waits does not find a signal of an earlier cancel. -/
def CancelEvent.Unsignalled (p : Cancelling cfg) : CancelEvent → Prop
  | .event e => e.waits p.engine = true → p.engine.cancelEvent = false
  | .returns _ | .timesOut _ => True

instance (p : Cancelling cfg) : (e : CancelEvent) → Decidable (e.Unsignalled p)
  | .event _ => inferInstanceAs (Decidable (_ → _))
  | .returns _ | .timesOut _ => isTrue trivial

/-- No block has been forgotten, and a signal is of a block executed after each waiting call started. -/
structure Acknowledging (p : Cancelling cfg) : Prop where
  started : ∀ a ∈ p.waiting, a ≤ p.blocks
  signalled : p.engine.cancelEvent = true → ∀ a ∈ p.waiting, a < p.blocks
  acknowledged : Acknowledged p

theorem start_acknowledging : Acknowledging (Cancelling.start : Cancelling cfg) :=
  ⟨fun _ ha => absurd ha List.not_mem_nil, fun _ _ ha => absurd ha List.not_mem_nil,
    fun _ hp => absurd hp List.not_mem_nil⟩

/-- Only the cancel block signals the event. -/
theorem step_cancelEvent {s : State cfg} {e : Event} (hcancels : e.cancels s = false)
    (h : (step s e).cancelEvent = true) : s.cancelEvent = true := by
  cases e using Event.byCause with
  | user e hu => exact (step_userCalled s hu).cancelEvent h
  | callback cb =>
    simp only [step] at h
    split_ifs at h
    · exact (lwsCallback_sameSignals cb s).cancelEvent ▸ h
    · exact h
  | iterate env =>
    rcases iterate_cases s env with ⟨-, he⟩ | ⟨hrun, hcancel, -⟩ | ⟨-, -, hsame⟩
    · exact he ▸ h
    · simp only [Event.cancels, hrun, hcancel, Bool.and_self] at hcancels
      cases hcancels
    · exact hsame.cancelEvent ▸ h

/-- A call and a cancel block are different events. -/
theorem cancels_of_waits {s : State cfg} {e : Event} (h : e.waits s = true) : e.cancels s = false ∧
    (step s e).cancelEvent = s.cancelEvent := by
  cases e with
  | cancel timeOut =>
    refine ⟨rfl, ?_⟩
    simp only [step, State.cancelOperation]
    split_ifs <;> rfl
  | program timeOut tick opParam => cases h
  | collect | cancelled | clear | reset | callback cb | iterate env => cases h

/-- **One event**: a signal stays younger than every waiting call. -/
theorem acknowledge_acknowledging (p : Cancelling cfg) (e : CancelEvent) (h : Acknowledging p)
    (hunsignalled : e.Unsignalled p) : Acknowledging (acknowledge p e) := by
  cases e with
  | event e =>
    by_cases hend : e = .cancelled
    · subst hend
      exact h
    have hstep : acknowledge p (.event e) =
        { p with
          engine := step p.engine e
          blocks := if e.cancels p.engine then p.blocks + 1 else p.blocks
          waiting := if e.waits p.engine then p.waiting ++ [p.blocks] else p.waiting } := by
      cases e with
      | cancelled => exact absurd rfl hend
      | program timeOut tick opParam => rfl
      | collect | clear | reset | callback cb | cancel timeOut | iterate env => rfl
    rw [hstep]
    by_cases hwaits : e.waits p.engine = true
    · -- the call finds no signal
      obtain ⟨hcancels, hevent⟩ := cancels_of_waits hwaits
      have hnone := hunsignalled hwaits
      refine ⟨?_, fun hsignal => absurd (hevent.symm.trans hsignal) (ne_true_of_eq_false hnone), h.acknowledged⟩
      simp only [hwaits, hcancels, if_true, Bool.false_eq_true, if_false]
      intro a ha
      rcases List.mem_append.mp ha with ha | ha
      · exact h.started a ha
      · exact Nat.le_of_eq (List.mem_singleton.mp ha)
    · simp only [hwaits, Bool.false_eq_true, if_false]
      by_cases hcancels : e.cancels p.engine = true
      · -- the block is younger than all who wait
        simp only [hcancels, if_true]
        exact ⟨fun a ha => Nat.le_succ_of_le (h.started a ha), fun _ a ha => Nat.lt_succ_of_le (h.started a ha),
          h.acknowledged⟩
      · simp only [hcancels, Bool.false_eq_true, if_false]
        exact ⟨h.started, fun hsignal => h.signalled (step_cancelEvent (Bool.eq_false_iff.mpr hcancels) hsignal),
          h.acknowledged⟩
  | returns call =>
    simp only [acknowledge]
    split_ifs with hreturns
    · obtain ⟨hcall, hevent⟩ := hreturns
      refine ⟨fun a ha => h.started a (List.mem_of_mem_erase ha), fun hsignal => ?_, ?_⟩
      · simp only [State.cancelled, hevent, if_true] at hsignal
        cases hsignal
      · intro c hc
        rcases List.mem_append.mp hc with hc | hc
        · exact h.acknowledged c hc
        · rw [List.mem_singleton.mp hc]
          exact h.signalled hevent call hcall
    · exact h
  | timesOut call =>
    exact ⟨fun a ha => h.started a (List.mem_of_mem_erase ha),
      fun hsignal a ha => h.signalled hsignal a (List.mem_of_mem_erase ha), h.acknowledged⟩

/-- **A cancel is acknowledged** by a block executed since it started, in every run in which no call that
waits finds the event signalled. -/
theorem cancels_acknowledged (es : List CancelEvent)
    (h : Meets acknowledge (fun p e => e.Unsignalled p) (Cancelling.start : Cancelling cfg) es) :
    Acknowledged (exec acknowledge (Cancelling.start : Cancelling cfg) es) :=
  (exec_inv acknowledge_acknowledging es _ start_acknowledging h).acknowledged

/-- Two cancels, each with its block. -/
theorem cancels_acknowledged_two :
    Acknowledged (exec acknowledge (Cancelling.start : Cancelling client)
      [.event (.cancel 1000), .event (.iterate (.at 0 1)), .returns 0,
        .event (.cancel 1000), .event (.iterate (.at 0 1)), .returns 1]) := by
  have hunsignalled : Meets acknowledge (fun p e => e.Unsignalled p) (Cancelling.start : Cancelling client)
      [.event (.cancel 1000), .event (.iterate (.at 0 1)), .returns 0,
        .event (.cancel 1000), .event (.iterate (.at 0 1)), .returns 1] := by decide +kernel
  exact cancels_acknowledged _ hunsignalled

/-- Nobody waits for the signal of the first cancel: the second one returns before its block. -/
theorem not_cancels_acknowledged :
    ¬ ∀ (cfg : WebSocketParam) (es : List CancelEvent),
      Acknowledged (exec acknowledge (Cancelling.start : Cancelling cfg) es) := by
  intro h
  have hstale := h client [.event (.cancel 0), .event (.iterate (.at 0 1)), .event (.cancel 1000), .returns 1]
  exact absurd hstale (by decide +kernel)

/-! ### The connection -/

/-- READ and WRITE pass their check while a connection is established, and CONNECT with a valid key when the
state says that there is none. -/
structure Agrees (p : Watched cfg) : Prop where
  connected : p.1.lwsContext = true → p.2.established ≠ [] → p.1.isConnected = true
  reconnects : p.1.isConnected = false → ∀ key : Key, key.length ≠ 0 → key.length < wsCltMaxKeyLen → p.1.canConnect key

/-- The step executes the cancel block, and the loop goes on. -/
def Event.cancelsOn (s : State cfg) (e : Event) : Bool := e.cancels s && (step s e).loop.running

/-- The connection agrees with the context after the cancel block. -/
def Event.Agrees (p : Watched cfg) (e : Event) : Prop := e.cancelsOn p.1 = true → WebSocket.Agrees (watch p e)

/-- There is no context when the cancel block is executed. -/
def Event.CancelsUnconnected (p : Watched cfg) : Event → Prop
  | .iterate env => (Event.iterate env).cancelsOn p.1 = true → (p.1.beforeCancel env).lwsContext = false
  | _ => True

instance (p : Watched cfg) : (e : Event) → Decidable (e.CancelsUnconnected p)
  | .iterate _ => inferInstanceAs (Decidable (_ → _))
  | .callback _ | .program _ _ _ | .collect | .cancelled | .clear | .reset | .cancel _ => isTrue trivial

/-- An iteration with a cancel block after which the loop goes on ends with this block. -/
theorem iterate_of_cancelsOn {s : State cfg} {env : LoopEnv} (h : (Event.iterate env).cancelsOn s = true) :
    s.iterate env = (s.beforeCancel env).cancelBlock.nextTurn := by
  simp only [Event.cancelsOn, Event.cancels, step, Bool.and_eq_true] at h
  obtain ⟨⟨hrun, hcancel⟩, hgoes⟩ := h
  rcases iterate_cases s env with ⟨hstop, -⟩ | ⟨-, -, he⟩ | ⟨-, hnot, -⟩
  · exact absurd hrun (ne_true_of_eq_false hstop)
  · rw [he] at hgoes ⊢
    simp only [State.loopEnd] at hgoes ⊢
    split_ifs at hgoes ⊢
    rfl
  · exact absurd hcancel (ne_true_of_eq_false hnot)

/-- **The cancel block** leaves a client that can connect again if and only if there is no context. -/
theorem agrees_iff (hclient : cfg.nbMaxClient = 0) (p : Watched cfg) (e : Event) :
    e.Agrees p ↔ e.CancelsUnconnected p := by
  cases e with
  | iterate env =>
    refine forall_congr' fun hcancels => ?_
    have hblock := iterate_of_cancelsOn hcancels
    have hstate : (watch p (.iterate env)).1 = (p.1.beforeCancel env).cancelBlock.nextTurn := hblock
    constructor
    · intro h
      have hnot : (watch p (.iterate env)).1.isConnected = false := by
        rw [hstate, State.isConnected, if_pos hclient]
        rfl
      have hconnect := (h.reconnects hnot ['k'] (by decide) (by decide)).2.1
      rw [hstate] at hconnect
      exact hconnect
    · intro hctx
      refine ⟨fun hkept => ?_, fun _ key hkey hlength => ?_⟩
      · rw [hstate] at hkept
        exact absurd hkept (ne_true_of_eq_false hctx)
      · rw [hstate]
        exact ⟨rfl, hctx, hkey, hlength⟩
  | callback cb | program timeOut tick opParam => exact ⟨fun _ => trivial, fun _ h => by cases h⟩
  | collect | cancelled | clear | reset | cancel timeOut => exact ⟨fun _ => trivial, fun _ h => by cases h⟩

/-- **The connection agrees with the context** after every cancel block of a run of a client if and only if each
of them is executed without a context. -/
theorem cancel_agrees_iff (hclient : cfg.nbMaxClient = 0) (es : List Event)
    (h : Meets watch (fun p e => e.Lawful p) (Watched.start : Watched cfg) es) :
    Meets watch (fun p e => e.Agrees p) (Watched.start : Watched cfg) es ↔
      Meets watch (fun p e => e.CancelsUnconnected p) (Watched.start : Watched cfg) es :=
  meets_iff (I := fun _ => True) (fun _ _ _ _ => trivial) (fun p e _ _ => agrees_iff hclient p e) es _ trivial h

/-- A connection is closed, and then there is a cancel. -/
theorem cancel_agrees_iff_disconnected :
    Meets watch (fun p e => e.Agrees p) (Watched.start : Watched client)
      (connectAs 1 ++ [.program 1000 0 .disconnect, .iterate { LoopEnv.at 0 1 with destroying := [1] },
        .cancel 1000, .iterate (.at 0 1)]) := by
  have hlawful : Meets watch (fun p e => e.Lawful p) (Watched.start : Watched client)
      (connectAs 1 ++ [.program 1000 0 .disconnect, .iterate { LoopEnv.at 0 1 with destroying := [1] },
        .cancel 1000, .iterate (.at 0 1)]) := by decide +kernel
  have hunconnected : Meets watch (fun p e => e.CancelsUnconnected p) (Watched.start : Watched client)
      (connectAs 1 ++ [.program 1000 0 .disconnect, .iterate { LoopEnv.at 0 1 with destroying := [1] },
        .cancel 1000, .iterate (.at 0 1)]) := by decide +kernel
  exact (cancel_agrees_iff rfl _ hlawful).mpr hunconnected

/-- A cancel while a connection is established: neither READ nor CONNECT is accepted after it. -/
theorem not_cancel_agrees :
    ¬ ∀ (cfg : WebSocketParam) (es : List Event), cfg.nbMaxClient = 0 →
      Meets watch (fun p e => e.Lawful p) (Watched.start : Watched cfg) es →
      Meets watch (fun p e => e.Agrees p) (Watched.start : Watched cfg) es := by
  intro h
  have hmeets := h client (connectAs 1 ++ [.cancel 1000, .iterate (.at 0 1)]) rfl (by decide +kernel)
  obtain ⟨-, -, hlast, -⟩ := meets_append.mp hmeets
  have hagrees := hlast (by decide +kernel)
  exact absurd (hagrees.connected (by decide +kernel) (by decide +kernel)) (by decide +kernel)

end BofWebRpc.WebSocket
