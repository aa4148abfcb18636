import BofWebRpc.WebSocket.Iteration

/-!
# Transmit isolation

All payloads share one queue, which does not know their connection, and a writable
callback of any connection serves its oldest element. A disconnection empties the
receive buffer but not this queue.

## What is proved

* `transmit_isolated` — as long as the current connection only changes while no write is
  queued, and only the current connection becomes writable while one is,
  every payload is transmitted on the connection it was accepted for.
* `not_transmit_isolated` — a client that disconnects with a write queued
  transmits it on its next connection.
-/

namespace BofWebRpc.WebSocket

open Runs

variable {cfg : WebSocketParam}

/-- Every payload handed to `lws_write` went to the connection that was the current one
when its WRITE was accepted. -/
def Isolated (s : State cfg) : Prop := ∀ p ∈ s.history.transmitted, p.2.acceptedFor = some p.1

instance (s : State cfg) : Decidable (Isolated s) :=
  inferInstanceAs (Decidable (∀ p ∈ s.history.transmitted, p.2.acceptedFor = some p.1))

/-! ### The condition -/

/-- No write is queued. -/
def State.Idle (s : State cfg) : Prop := s.writeOpCollection.elements = []

instance (s : State cfg) : Decidable s.Idle := inferInstanceAs (Decidable (_ = _))

/-- A connection that appears finds no write queued; one that becomes writable, or is
established, finds none queued or is the current connection. -/
def Callback.Targeted (s : State cfg) : Callback → Prop
  | .httpBindProtocol _ => s.Idle
  | .established w bufferSize _ => bufferSize = true → s.Idle ∨ s.webSocketState.pWebSocket = some w
  | .writeable _ w _ => s.Idle ∨ s.webSocketState.pWebSocket = some w
  | .addHeaders _ _ | .clientEstablished _ _ | .receive _ _ _ _ _ | .clientClosed _ | .closed _
  | .clientConnectionError _ _ | .other _ => True

instance (s : State cfg) : (cb : Callback) → Decidable (cb.Targeted s)
  | .httpBindProtocol _ => inferInstanceAs (Decidable s.Idle)
  | .established _ _ _ => inferInstanceAs (Decidable (_ → _ ∨ _))
  | .writeable _ _ _ => inferInstanceAs (Decidable (_ ∨ _))
  | .addHeaders _ _ | .clientEstablished _ _ | .receive _ _ _ _ _ | .clientClosed _ | .closed _
  | .clientConnectionError _ _ | .other _ => isTrue trivial

/-- The next iteration executes a CONNECT as far as `lws_client_connect_via_info`. -/
def State.willConnect (s : State cfg) (env : LoopEnv) : Bool :=
  match s.taken.map OperationParam.opParam with
  | some (.connect wsCltKey) => decide (cfg.nbMaxClient = 0 ∧ s.canConnect wsCltKey) && env.createContext
  | _ => false

/-- The current connection changes only while no write is queued, and only the current
connection becomes writable while one is. -/
def Event.Targeted (s : State cfg) : Event → Prop
  | .callback cb => s.lwsContext = true → cb.Targeted s
  | .iterate env => s.willConnect env = true → s.Idle
  | .program _ _ _ | .collect | .cancel _ | .cancelled | .clear | .reset => True

instance (s : State cfg) : (e : Event) → Decidable (e.Targeted s)
  | .callback _ => inferInstanceAs (Decidable (_ → _))
  | .iterate _ => inferInstanceAs (Decidable (_ → _))
  | .program _ _ _ | .collect | .cancel _ | .cancelled | .clear | .reset => isTrue trivial

/-! ### The invariant -/

/-- What is queued was accepted for the current connection, if there is one. -/
structure Targets (s : State cfg) : Prop where
  isolated : Isolated s
  queued : ∀ w, s.webSocketState.pWebSocket = some w → ∀ op ∈ s.writeOpCollection.elements, op.acceptedFor = some w

theorem Targets.same {s t : State cfg} (h : Targets s) (hw : SameWrites s t)
    (hp : t.webSocketState.pWebSocket = s.webSocketState.pWebSocket ∨ t.webSocketState.pWebSocket = none) :
    Targets t := by
  refine ⟨fun p hmem => h.isolated p (hw.transmitted ▸ hmem), fun w hcur op hmem => ?_⟩
  rw [hw.writeOpCollection] at hmem
  rcases hp with hp | hp
  · exact h.queued w (hp ▸ hcur) op hmem
  · rw [hp] at hcur
    cases hcur

theorem Targets.idle {s t : State cfg} (h : Targets s) (hidle : t.Idle)
    (ht : t.history.transmitted = s.history.transmitted) : Targets t := by
  refine ⟨fun p hmem => h.isolated p (ht ▸ hmem), fun w _ op hmem => ?_⟩
  rw [hidle] at hmem
  exact absurd hmem List.not_mem_nil

/-! ### Callbacks -/

/-- A writable callback of the current connection. -/
theorem onWriteable_targets {s : State cfg} (h : Targets s) {w : Wsi} (env : WriteEnv)
    (hc : s.Idle ∨ s.webSocketState.pWebSocket = some w) : Targets (s.onWriteable w env) := by
  rcases onWriteable_cases s w env with ⟨he, -⟩ | ⟨op, hpeek, -, hop⟩
  · rw [he]
    exact h.same ⟨rfl, rfl, rfl, rfl⟩ (.inl rfl)
  · have hmem : op ∈ s.writeOpCollection.elements := by
      rw [Fifo.peek_eq_some_iff.mp hpeek]
      exact List.mem_cons_self
    have hcur := hc.resolve_left fun hidle => absurd (hidle ▸ hmem) List.not_mem_nil
    have htransmitted : ∀ p ∈ s.history.transmitted ++ [(w, op)], p.2.acceptedFor = some p.1 := by
      intro p hp
      rcases List.mem_append.mp hp with hp | hp
      · exact h.isolated p hp
      · rw [List.mem_singleton.mp hp]
        exact h.queued w hcur op hmem
    rcases hop with ⟨-, he⟩ | ⟨sts, q, pushed, notified, -, -, he⟩
    · rw [he, callbackOnWritable_eq]
      exact ⟨htransmitted, h.queued⟩
    · rw [he]
      exact ⟨htransmitted, fun v hv op hop => h.queued v hv op (List.mem_of_mem_tail hop)⟩

theorem lwsCallback_targets {s : State cfg} (h : Targets s) (cb : Callback) (hc : cb.Targeted s) :
    Targets (lwsCallback cb s).2 := by
  cases cb with
  | httpBindProtocol w => exact h.idle hc rfl
  | addHeaders w key => exact h
  | established w bufferSize key =>
    have hsame := (onEstablished_same s w bufferSize key).2
    cases bufferSize with
    | false => exact h.same hsame (.inl rfl)
    | true =>
      rcases hc rfl with hidle | hcur
      · exact h.idle ((congrArg Fifo.elements hsame.writeOpCollection).trans hidle) hsame.transmitted
      · exact h.same hsame (.inl ((onEstablished_pWebSocket s w key).trans hcur.symm))
  | clientEstablished w bufferSize =>
    refine h.same (onClientEstablished_same s w bufferSize).2 (.inl ?_)
    cases bufferSize <;> rfl
  | writeable side w env => exact onWriteable_targets h env hc
  | receive side w input final env =>
    refine h.same (onReceive_same s w input final env).2 (.inl ?_)
    exact congrArg DataPerSession.pWebSocket (onReceive_webSocketState s w input final env)
  | clientClosed w => exact h.same ⟨rfl, rfl, rfl, rfl⟩ (.inl rfl)
  | closed w => exact h.same ⟨rfl, rfl, rfl, rfl⟩ (.inl rfl)
  | clientConnectionError w destroying => exact h.same (onClientConnectionError_same s destroying).2 (.inr rfl)
  | other w => exact h

/-- With no write queued, no callback transmits anything. -/
theorem lwsCallback_idle {s : State cfg} (h : s.Idle) (cb : Callback) :
    (lwsCallback cb s).2.Idle ∧ (lwsCallback cb s).2.history.transmitted = s.history.transmitted := by
  by_cases hw : ∃ side w env, cb = .writeable side w env
  · obtain ⟨side, w, env, rfl⟩ := hw
    rcases onWriteable_cases s w env with ⟨he, -⟩ | ⟨op, hpeek, -, -⟩
    · rw [lwsCallback, he]
      exact ⟨h, rfl⟩
    · rw [Fifo.peek_eq_none_iff.mpr h] at hpeek
      cases hpeek
  · have hsame := lwsCallback_sameWrites (fun side w env he => hw ⟨side, w, env, he⟩) s
    exact ⟨(congrArg Fifo.elements hsame.writeOpCollection).trans h, hsame.transmitted⟩

theorem callbacks_idle (cbs : List Callback) {s : State cfg} (h : s.Idle) :
    (callbacks cbs s).Idle ∧ (callbacks cbs s).history.transmitted = s.history.transmitted := by
  induction cbs generalizing s with
  | nil => exact ⟨h, rfl⟩
  | cons cb cbs ih =>
    obtain ⟨hidle, hsame⟩ := lwsCallback_idle h cb
    obtain ⟨hidle', hsame'⟩ := ih hidle
    exact ⟨hidle', hsame'.trans hsame⟩

/-! ### Iterations -/

theorem commandConnect_targets {s : State cfg} (h : Targets s) (env : LoopEnv) (key : Key)
    (hc : cfg.nbMaxClient = 0 → s.canConnect key → env.createContext = true → s.Idle) :
    Targets (s.commandConnect env key) := by
  unfold State.commandConnect
  split_ifs with hmode hcan hctx hvia
  · exact h.same ⟨rfl, rfl, rfl, rfl⟩ (.inl rfl)
  · have hidle : ({ s with lwsContext := true } : State cfg).Idle := hc (not_not.mp hmode) hcan hctx
    have hconnected := callbacks_idle env.connecting hidle
    exact h.idle hconnected.1 hconnected.2
  · have hidle : ({ s with lwsContext := true } : State cfg).Idle := hc (not_not.mp hmode) hcan hctx
    have hconnected := callbacks_idle env.connecting hidle
    exact h.idle hconnected.1 hconnected.2
  · have hsame := (clientDisconnect_same s env.destroying).2
    exact h.same ⟨hsame.writeOpCollection, hsame.resultCollection, hsame.pushed, hsame.transmitted⟩ (.inr rfl)
  · exact h.same ⟨rfl, rfl, rfl, rfl⟩ (.inl rfl)

theorem commandWrite_targets {s : State cfg} (h : Targets s) (env : LoopEnv) (nb : ℕ) (buffer : Option (List UInt8)) :
    Targets (s.commandWrite env nb buffer) := by
  rcases commandWrite_cases s env nb buffer with ⟨sts, -, he⟩ | ⟨data, q, -, hq, he⟩
  · rw [he]
    exact h.same ⟨rfl, rfl, rfl, rfl⟩ (.inl rfl)
  · rw [he, callbackOnWritable_eq]
    refine ⟨h.isolated, fun w hw op hop => ?_⟩
    have hop : op ∈ s.writeOpCollection.elements ++ [s.newWriteOp nb data] := (Fifo.push_eq_some_iff.mp hq).2 ▸ hop
    rcases List.mem_append.mp hop with hop | hop
    · exact h.queued w hw op hop
    · rw [List.mem_singleton.mp hop]
      exact hw

/-- A command keeps the targets; a CONNECT needs an idle queue. -/
theorem command_targets {s : State cfg} (h : Targets s) (env : LoopEnv)
    (hc : ∀ key, s.loop.currentOp.opParam = .connect key → cfg.nbMaxClient = 0 → s.canConnect key →
      env.createContext = true → s.Idle) : Targets (s.command env) := by
  have hdisconnect := (clientDisconnect_same s env.destroying).2
  have hgone : ∀ sts, Targets ((s.clientDisconnect env.destroying).setSts sts) := fun sts =>
    h.same ⟨hdisconnect.writeOpCollection, hdisconnect.resultCollection, hdisconnect.pushed,
      hdisconnect.transmitted⟩ (.inr rfl)
  unfold State.command
  cases hop : s.loop.currentOp.opParam with
  | listen =>
    simp only [State.commandListen]
    split_ifs
    · exact h.same ⟨rfl, rfl, rfl, rfl⟩ (.inl rfl)
    · exact h.same ⟨rfl, rfl, rfl, rfl⟩ (.inl rfl)
    · have hsame := (clientDisconnect_same
        ({ s with webSocketState.connectDone := false } : State cfg) env.destroying).2
      exact h.same ⟨hsame.writeOpCollection, hsame.resultCollection, hsame.pushed, hsame.transmitted⟩ (.inr rfl)
    · exact h.same ⟨rfl, rfl, rfl, rfl⟩ (.inl rfl)
  | connect key => exact commandConnect_targets h env key (hc key hop)
  | disconnect =>
    simp only [State.commandDisconnect]
    split_ifs
    · exact h.same ⟨rfl, rfl, rfl, rfl⟩ (.inl rfl)
    · exact hgone .noError
    · exact h.same ⟨rfl, rfl, rfl, rfl⟩ (.inl rfl)
  | exit => exact h.same ⟨rfl, rfl, rfl, rfl⟩ (.inl rfl)
  | read nb buffer => exact h.same ⟨rfl, rfl, rfl, rfl⟩ (.inl rfl)
  | write nb buffer => exact commandWrite_targets h env nb buffer
  | max => exact h.same ⟨rfl, rfl, rfl, rfl⟩ (.inl rfl)

theorem newCommand_targets {s : State cfg} (h : Targets s) (env : LoopEnv)
    (hc : s.willConnect env = true → s.Idle) : Targets (s.newCommand env) := by
  rcases newCommand_cases s env with ⟨-, he⟩ | ⟨op, -, ⟨-, -, he⟩ | ⟨htaken, he⟩⟩
  · rw [he]
    exact h.same ⟨rfl, rfl, rfl, rfl⟩ (.inl rfl)
  · rw [he]
    exact h.same ⟨rfl, rfl, rfl, rfl⟩ (.inl rfl)
  · have hbegin : Targets ((s.popped op).beginCommand env) := h.same ⟨rfl, rfl, rfl, rfl⟩ (.inl rfl)
    rw [he, takeCommand_eq]
    refine (command_targets hbegin env fun key hkey hmode hcan hctx => hc ?_).same ⟨rfl, rfl, rfl, rfl⟩ (.inl rfl)
    have hkey : op.opParam = .connect key := hkey
    have hcan : s.canConnect key := hcan
    simp [State.willConnect, htaken, hkey, hmode, hcan, hctx]

theorem iterate_targets {s : State cfg} (h : Targets s) (env : LoopEnv)
    (hc : s.willConnect env = true → s.Idle) : Targets (s.iterate env) := by
  cases hrun : s.loop.running with
  | false =>
    rw [iterate_of_stopped hrun]
    exact h
  | true =>
    have hrest : Targets (s.newCommand env) → Targets (s.iterate env) := by
      refine iterate_rule (R := fun t u => Targets t → Targets u) (fun _ ht => ht) (fun htu huv ht => huv (htu ht))
        (fun t ht => ?_) (fun t ht => ?_) (fun t ht => ?_) (fun t ht => ?_) hrun
      · exact ht.same (pendingOperation_same t env).2.1 (pendingOperation_same t env).2.2
      · exact ht.idle rfl rfl
      · obtain ⟨time, q, pushed, notified, he, -⟩ := sendResult_eq t env
        rw [he]
        exact ⟨ht.isolated, ht.queued⟩
      · exact ht.same (loopEnd_same t env).2.1 (loopEnd_same t env).2.2
    exact hrest (newCommand_targets h env hc)

/-! ### Runs -/

theorem step_targets (s : State cfg) (e : Event) (h : Targets s) (hc : e.Targeted s) : Targets (step s e) := by
  cases e using Event.byCause with
  | user e hu =>
    have hsame := step_sameEngine s hu
    refine ⟨?_, ?_⟩
    · rw [Isolated, hsame.history]
      exact h.isolated
    · rw [hsame.webSocketState, hsame.writeOpCollection]
      exact h.queued
  | callback cb =>
    simp only [step]
    split_ifs with hctx
    · exact lwsCallback_targets h cb (hc hctx)
    · exact h
  | iterate env => exact iterate_targets h env hc

theorem start_targets : Targets (State.start : State cfg) :=
  ⟨fun _ hp => absurd hp List.not_mem_nil, fun _ hw => by cases hw⟩

/-- **Transmit isolation**: whatever commands, callbacks and iterations happen, if each step
is targeted then every payload is transmitted on the connection it was accepted for. -/
theorem transmit_isolated (es : List Event) (h : Meets step (fun s e => e.Targeted s) (State.start : State cfg) es) :
    Isolated (exec step (State.start : State cfg) es) :=
  (exec_inv step_targets es _ start_targets h).isolated

/-- Two connections, one after the other, with a byte sent on each. -/
theorem transmit_isolated_two :
    Meets step (fun s e => e.Targeted s) (State.start : State client)
        (connectAndWrite 1 ++ [oneByteSent 1] ++ Event.execute 0 1 .disconnect ++ connectAndWrite 2 ++
          [oneByteSent 2]) ∧
      Isolated (exec step (State.start : State client)
        (connectAndWrite 1 ++ [oneByteSent 1] ++ Event.execute 0 1 .disconnect ++ connectAndWrite 2 ++
          [oneByteSent 2])) :=
  ⟨by decide +kernel, transmit_isolated _ (by decide +kernel)⟩

/-- Without the condition a payload leaks: the byte queued for the first connection, which
is disconnected before it becomes writable, is sent on the second one. -/
theorem not_transmit_isolated :
    ¬ ∀ (cfg : WebSocketParam) (es : List Event), Isolated (exec step (State.start : State cfg) es) := by
  intro h
  have hleak := h client (connectAndWrite 1 ++ Event.execute 0 1 .disconnect ++ connectAndWrite 2 ++ [oneByteSent 2])
  exact absurd hleak (by decide +kernel)

end BofWebRpc.WebSocket
