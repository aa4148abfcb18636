import BofWebRpc.WebSocket.Engine

/-!
# One iteration, phase by phase

What each part of `iterate` can do, as equations between states; the invariants are
derived from these.

## What is proved

* `newCommand_cases` — no command, a command that overwrites the current one while
  another operation is pending, or a command that is executed.
* `commandRead_eq`, `commandWrite_cases` — the commands that change no connection.
* `pendingOperation_listen`, `pendingOperation_read`, `pendingOperation_write` — the pending
  operation, by kind.
* `pendingOperation_same`, `loopEnd_same` — what the pending operation and the end of the
  loop leave alone.
* `sendResult_eq` — one result is pushed, or the queue is full.
* `newCommand_sameSignals`, `pendingOperation_sameSignals`, `iterate_cases` — only the cancel block
  touches the flags of a cancel.
-/

namespace BofWebRpc.WebSocket

open Reassembly

variable {cfg : WebSocketParam}

/-! ### Taking a command -/

/-- The command that the next iteration executes: the oldest one, unless an operation is
pending that is not a LISTEN. -/
def State.taken (s : State cfg) : Option OperationParam :=
  if !s.loop.ioPending || s.loop.listeningMode then s.paramCollection.peek else none

/-- The command `op` has been popped. -/
def State.popped (s : State cfg) (op : OperationParam) : State cfg :=
  { s with loop.currentOp := op, paramCollection := s.paramCollection.skip }

/-- **The head of an iteration**: there is no command; or one that another operation,
still pending, keeps from being executed; or one that is executed. -/
theorem newCommand_cases (s : State cfg) (env : LoopEnv) :
    (s.paramCollection.elements = [] ∧
      s.newCommand env = { s with loop.currentOp := if s.loop.service then s.loop.currentOp else .reset }) ∨
    ∃ op, s.paramCollection.elements = op :: s.paramCollection.skip.elements ∧
      ((s.loop.ioPending = true ∧ s.loop.listeningMode = false ∧ s.newCommand env = s.popped op) ∨
        (s.taken = some op ∧ s.newCommand env = (s.popped op).takeCommand env)) := by
  cases hpeek : s.paramCollection.peek with
  | none =>
    refine .inl ⟨Fifo.peek_eq_none_iff.mp hpeek, ?_⟩
    simp [State.newCommand, State.popNextOp, Fifo.pop, hpeek]
  | some op =>
    refine .inr ⟨op, Fifo.peek_eq_some_iff.mp hpeek, ?_⟩
    cases hp : s.loop.ioPending <;> cases hl : s.loop.listeningMode <;>
      simp [State.newCommand, State.popNextOp, Fifo.pop, hpeek, State.popped, State.taken, hp, hl]

theorem newCommand_of_taken {s : State cfg} {op : OperationParam} (htaken : s.taken = some op) (env : LoopEnv) :
    s.newCommand env = (s.popped op).takeCommand env := by
  have hpeek : s.paramCollection.elements = op :: s.paramCollection.skip.elements := by
    simp only [State.taken] at htaken
    split_ifs at htaken
    exact Fifo.peek_eq_some_iff.mp htaken
  rcases newCommand_cases s env with ⟨hnone, -⟩ | ⟨op', hop', ⟨hp, hl, -⟩ | ⟨htaken', he⟩⟩
  · rw [hnone] at hpeek
    cases hpeek
  · simp [State.taken, hp, hl] at htaken
  · cases htaken'.symm.trans htaken
    exact he

/-- A command that has not failed is pending. -/
theorem takeCommand_eq (s : State cfg) (env : LoopEnv) :
    s.takeCommand env = { (s.beginCommand env).command env with
      loop.ioPending := ((s.beginCommand env).command env).loop.ioPending ||
        decide (((s.beginCommand env).command env).loop.result.sts = .noError) } := by
  simp only [State.takeCommand]
  split_ifs with h
  · simp only [h, decide_true, Bool.or_true]
  · simp only [h, decide_false, Bool.or_false]

/-! ### Commands that change no connection -/

/-- A READ of `nb` bytes is accepted: there is a connection, and a buffer. -/
def State.acceptsRead (s : State cfg) (nb : ℕ) (buffer : Bool) : Bool := s.isConnected && buffer && decide (nb ≠ 0)

/-- A READ changes its status only. -/
theorem commandRead_eq (s : State cfg) (nb : ℕ) (buffer : Bool) :
    ∃ sts, s.commandRead nb buffer = s.setSts sts ∧ (sts = .noError ↔ s.acceptsRead nb buffer = true) := by
  refine ⟨_, rfl, ?_⟩
  simp only [State.acceptsRead, Bool.and_eq_true, decide_eq_true_eq]
  split_ifs with hconnected hvalid
  · exact ⟨fun _ => ⟨⟨hconnected, hvalid.1⟩, hvalid.2⟩, fun _ => rfl⟩
  · exact ⟨by rintro ⟨⟩, fun h => absurd ⟨h.1.2, h.2⟩ hvalid⟩
  · exact ⟨by rintro ⟨⟩, fun h => absurd h.1.1 hconnected⟩

/-- A WRITE of `nb` bytes is queued: there is a connection, a payload, and room. -/
def State.acceptsWrite (s : State cfg) (nb : ℕ) (buffer : Option (List UInt8)) : Bool :=
  s.isConnected && buffer.isSome && decide (nb ≠ 0) &&
    decide (s.writeOpCollection.elements.length < cfg.nbMaxOperationPending + 1)

/-- The next iteration executes a WRITE, and queues it. -/
def State.willWrite (s : State cfg) : Bool :=
  match s.taken.map OperationParam.opParam with
  | some (.write nb buffer) => s.acceptsWrite nb buffer
  | _ => false

theorem willWrite_eq_true {s : State cfg} {op : OperationParam} {nb : ℕ} {buffer : Option (List UInt8)}
    (htaken : s.taken = some op) (hop : op.opParam = .write nb buffer) (haccepts : s.acceptsWrite nb buffer = true) :
    s.willWrite = true := by
  simp only [State.willWrite, htaken, Option.map_some, hop]
  exact haccepts

/-- A WRITE fails, or its payload is queued for the connection; a request for a writable
callback is made for it, which is granted or not. -/
theorem commandWrite_cases (s : State cfg) (env : LoopEnv) (nb : ℕ) (buffer : Option (List UInt8)) :
    (∃ sts, sts ≠ .noError ∧ s.commandWrite env nb buffer = s.setSts sts) ∨
    ∃ data q, s.acceptsWrite nb buffer = true ∧
      s.writeOpCollection.push (s.newWriteOp nb data) = some q ∧
      s.commandWrite env nb buffer =
        (({ s with writeOpCollection := q } : State cfg).callbackOnWritable s.webSocketState.pWebSocket
          env.onWritable).setSts (if env.onWritable then .noError else .operationFailed) := by
  cases hc : s.isConnected with
  | false => exact .inl ⟨.enotconn, by rintro ⟨⟩, by simp [State.commandWrite, hc]⟩
  | true =>
    cases buffer with
    | none => exact .inl ⟨.einval, by rintro ⟨⟩, by simp [State.commandWrite, hc]⟩
    | some data =>
      cases nb with
      | zero => exact .inl ⟨.einval, by rintro ⟨⟩, by simp [State.commandWrite, hc]⟩
      | succ nb =>
        cases hq : s.writeOpCollection.push (s.newWriteOp (nb + 1) data) with
        | none => exact .inl ⟨.full, by rintro ⟨⟩, by simp [State.commandWrite, hc, hq]⟩
        | some q =>
          have hroom := (Fifo.push_eq_some_iff.mp hq).1
          refine .inr ⟨data, q, ?_, hq, by simp [State.commandWrite, hc, hq]⟩
          simp only [State.acceptsWrite, hc, hroom]
          rfl

/-- A WRITE that is accepted is queued. -/
theorem commandWrite_of_accepts {s : State cfg} {nb : ℕ} {buffer : Option (List UInt8)}
    (h : s.acceptsWrite nb buffer = true) (env : LoopEnv) :
    ∃ data q, buffer = some data ∧ s.writeOpCollection.push (s.newWriteOp nb data) = some q ∧
      s.commandWrite env nb buffer =
        (({ s with writeOpCollection := q } : State cfg).callbackOnWritable s.webSocketState.pWebSocket
          env.onWritable).setSts (if env.onWritable then .noError else .operationFailed) := by
  simp only [State.acceptsWrite, Bool.and_eq_true, decide_eq_true_eq] at h
  obtain ⟨⟨⟨hconnected, hbuffer⟩, hnb⟩, hroom⟩ := h
  obtain ⟨data, rfl⟩ := Option.isSome_iff_exists.mp hbuffer
  obtain ⟨n, rfl⟩ := Nat.exists_eq_succ_of_ne_zero hnb
  cases hq : s.writeOpCollection.push (s.newWriteOp (n + 1) data) with
  | none => exact absurd hroom (Nat.not_lt.mpr (Fifo.push_eq_none_iff.mp hq))
  | some q => exact ⟨data, q, rfl, hq, by simp [State.commandWrite, hconnected, hq]⟩

/-- A command touches neither the queue of commands nor the cancel flag. -/
theorem command_sameUser (s : State cfg) (env : LoopEnv) : SameUser s (s.command env) := by
  have hgone : ∀ t : State cfg, SameUser t (t.clientDisconnect env.destroying) := fun t =>
    (clientDisconnect_same t env.destroying).1.toSameUser
  unfold State.command
  split
  · simp only [State.commandListen]
    split_ifs
    · exact ⟨rfl, rfl, rfl, rfl, rfl⟩
    · exact ⟨rfl, rfl, rfl, rfl, rfl⟩
    · have h := hgone { s with webSocketState.connectDone := false }
      exact ⟨h.paramCollection, h.cancel, h.programmed, h.collected, h.executed⟩
    · exact ⟨rfl, rfl, rfl, rfl, rfl⟩
  · rw [State.commandConnect]
    split
    · exact ⟨rfl, rfl, rfl, rfl, rfl⟩
    · split
      · split
        · have h := callbacks_same env.connecting ({ s with lwsContext := true } : State cfg)
          exact ⟨h.paramCollection, h.cancel, h.programmed, h.collected, h.executed⟩
        · have h := hgone s
          exact ⟨h.paramCollection, h.cancel, h.programmed, h.collected, h.executed⟩
      · exact ⟨rfl, rfl, rfl, rfl, rfl⟩
  · simp only [State.commandDisconnect]
    split_ifs
    · exact ⟨rfl, rfl, rfl, rfl, rfl⟩
    · have h := hgone s
      exact ⟨h.paramCollection, h.cancel, h.programmed, h.collected, h.executed⟩
    · exact ⟨rfl, rfl, rfl, rfl, rfl⟩
  · exact ⟨rfl, rfl, rfl, rfl, rfl⟩
  · exact ⟨rfl, rfl, rfl, rfl, rfl⟩
  · rcases commandWrite_cases s env _ _ with ⟨sts, -, he⟩ | ⟨data, q, -, -, he⟩ <;> rw [he] <;>
      exact ⟨rfl, rfl, rfl, rfl, rfl⟩
  · exact ⟨rfl, rfl, rfl, rfl, rfl⟩

/-! ### The pending operation -/

theorem pending_same (s : State cfg) (env : LoopEnv) :
    SameUser s (s.pending env) ∧ SameWrites s (s.pending env) ∧
      (s.pending env).webSocketState.pWebSocket = s.webSocketState.pWebSocket := by
  simp only [State.pending]
  split
  · split_ifs <;> exact ⟨⟨rfl, rfl, rfl, rfl, rfl⟩, ⟨rfl, rfl, rfl, rfl⟩, rfl⟩
  · split_ifs <;> exact ⟨⟨rfl, rfl, rfl, rfl, rfl⟩, ⟨rfl, rfl, rfl, rfl⟩, rfl⟩
  · exact ⟨⟨rfl, rfl, rfl, rfl, rfl⟩, ⟨rfl, rfl, rfl, rfl⟩, rfl⟩
  · split <;> exact ⟨⟨rfl, rfl, rfl, rfl, rfl⟩, ⟨rfl, rfl, rfl, rfl⟩, rfl⟩
  · exact ⟨⟨rfl, rfl, rfl, rfl, rfl⟩, ⟨rfl, rfl, rfl, rfl⟩, rfl⟩
  · exact ⟨⟨rfl, rfl, rfl, rfl, rfl⟩, ⟨rfl, rfl, rfl, rfl⟩, rfl⟩

theorem timeOutOperation_same (s : State cfg) (env : LoopEnv) :
    SameUser s (s.timeOutOperation env) ∧ SameWrites s (s.timeOutOperation env) ∧
      ((s.timeOutOperation env).webSocketState.pWebSocket = s.webSocketState.pWebSocket ∨
        (s.timeOutOperation env).webSocketState.pWebSocket = none) := by
  have h := clientDisconnect_same s env.destroying
  simp only [State.timeOutOperation]
  split_ifs
  · exact ⟨⟨h.1.paramCollection, h.1.cancel, h.1.programmed, h.1.collected, h.1.executed⟩,
      ⟨h.2.writeOpCollection, h.2.resultCollection, h.2.pushed, h.2.transmitted⟩, .inr rfl⟩
  · exact ⟨⟨rfl, rfl, rfl, rfl, rfl⟩, ⟨rfl, rfl, rfl, rfl⟩, .inl rfl⟩

/-- The pending operation touches neither commands nor writes nor results, and keeps the
connection or forgets it. -/
theorem pendingOperation_same (s : State cfg) (env : LoopEnv) :
    SameUser s (s.pendingOperation env) ∧ SameWrites s (s.pendingOperation env) ∧
      ((s.pendingOperation env).webSocketState.pWebSocket = s.webSocketState.pWebSocket ∨
        (s.pendingOperation env).webSocketState.pWebSocket = none) := by
  obtain ⟨huser, hwrites, hsocket⟩ := pending_same s env
  simp only [State.pendingOperation]
  generalize elapsedMsTime env.tickPending (s.pending env).loop.currentOp.timer = time
  have huser : SameUser s { s.pending env with loop.result.time := time } :=
    ⟨huser.paramCollection, huser.cancel, huser.programmed, huser.collected, huser.executed⟩
  have hwrites : SameWrites s { s.pending env with loop.result.time := time } :=
    ⟨hwrites.writeOpCollection, hwrites.resultCollection, hwrites.pushed, hwrites.transmitted⟩
  split_ifs
  · obtain ⟨huser', hwrites', hsocket'⟩ :=
      timeOutOperation_same ({ s.pending env with loop.result.time := time } : State cfg) env
    exact ⟨huser.trans huser', hwrites.trans hwrites', hsocket'.imp (·.trans hsocket) id⟩
  · exact ⟨huser, hwrites, .inl hsocket⟩

/-- The pending operation is in time, or given up. -/
theorem pendingOperation_cases (s : State cfg) (env : LoopEnv) :
    ∃ t : State cfg,
      t = { s.pending env with
        loop.result.time := elapsedMsTime env.tickPending (s.pending env).loop.currentOp.timer } ∧
      ((t.isOverTime = false ∧ s.pendingOperation env = t) ∨
        (t.isOverTime = true ∧ s.pendingOperation env = t.timeOutOperation env)) := by
  refine ⟨_, rfl, ?_⟩
  simp only [State.pendingOperation]
  split_ifs with hover
  · exact .inr ⟨hover, rfl⟩
  · exact .inl ⟨Bool.eq_false_iff.mpr hover, rfl⟩

theorem timeOutOperation_loop (s : State cfg) (env : LoopEnv) :
    (s.timeOutOperation env).loop =
      { s.loop with result.sts := .etimedout, sendResult := true, ioPending := false } := by
  simp only [State.timeOutOperation]
  split_ifs
  · rw [(clientDisconnect_same s env.destroying).1.loop]
  · rfl

/-! ### The pending operation, by kind -/

/-- A LISTEN reports the connection that has been signalled, with its own ticket. -/
theorem pendingOperation_listen {s : State cfg} (env : LoopEnv) (hop : s.loop.currentOp.opParam = .listen)
    (hlistening : s.loop.listeningMode = true) :
    ∃ time, s.pendingOperation env =
      if s.webSocketState.connectDone then
        { s with
          webSocketState.connectDone := false
          loop := { s.loop with
            currentOp.timer := env.tickPending
            result := { s.loop.result with
              operation := .connect, opTicket := s.loop.listenTicketId, sts := .noError, time := time }
            sendResult := true
            ioPending := true } }
      else { s with loop := { s.loop with sendResult := false, result.time := time } } := by
  obtain ⟨t, rfl, ⟨-, he⟩ | ⟨hover, -⟩⟩ := pendingOperation_cases s env
  · cases hdone : s.webSocketState.connectDone with
    | false =>
      simp only [State.pending, hop, hdone, Bool.false_eq_true, if_false] at he ⊢
      exact ⟨_, he⟩
    | true =>
      simp only [State.pending, hop, hdone, if_true] at he ⊢
      exact ⟨_, he⟩
  · cases hdone : s.webSocketState.connectDone <;>
      simp [State.isOverTime, State.pending, hop, hdone, hlistening] at hover

/-- The operation `op` has no time limit, or is in time. -/
def State.inTime (s : State cfg) (env : LoopEnv) (op : OperationParam) : Prop :=
  s.loop.listeningMode = true ∨ elapsedMsTime env.tickPending op.timer ≤ op.timeOut

instance (s : State cfg) (env : LoopEnv) (op : OperationParam) : Decidable (s.inTime env op) :=
  inferInstanceAs (Decidable (_ ∨ _))

/-- The result of a READ that has taken the message `m` out. -/
def OperationResult.Reads (r : OperationResult) (nb : ℕ) (buffer : Bool) (m : Message) : Prop :=
  r.sts = .noError ∧ r.size = min nb m.payload.length ∧ r.buffer = buffer ∧ r.message = some m

/-- What becomes of the result of a READ: there is no message, and it waits or is over time;
it has the oldest message; or it has taken it out and is over time. -/
def ReadOutcome (s : State cfg) (env : LoopEnv) (nb : ℕ) (buffer : Bool) (rx : RawBuffer Fragment) (loop : Processing) :
    Prop :=
  (s.rxBufferCollection.popBuffer = none ∧ rx = s.rxBufferCollection ∧
    ((loop.sendResult = false ∧ loop.ioPending = s.loop.ioPending) ∨
      (loop.sendResult = true ∧ loop.ioPending = false ∧ loop.result.sts = .etimedout))) ∨
  (∃ m, s.rxBufferCollection.popBuffer = some (m, rx) ∧ loop.sendResult = true ∧ loop.ioPending = false ∧
    ((s.inTime env s.loop.currentOp ∧ loop.result.Reads nb buffer m) ∨
      (¬ s.inTime env s.loop.currentOp ∧ loop.result.sts = .etimedout)))

theorem pendingOperation_read {s : State cfg} (env : LoopEnv) {nb : ℕ} {buffer : Bool}
    (hop : s.loop.currentOp.opParam = .read nb buffer) :
    ∃ rx loop, s.pendingOperation env = { s with rxBufferCollection := rx, loop := loop } ∧
      loop.currentOp = s.loop.currentOp ∧ loop.listeningMode = s.loop.listeningMode ∧
      loop.listenTicketId = s.loop.listenTicketId ∧
      (loop.running = s.loop.running ∧ loop.service = s.loop.service) ∧
      loop.result.operation = s.loop.result.operation ∧ ReadOutcome s env nb buffer rx loop := by
  have hnot : s.loop.currentOp.operation ≠ .connect := by simp [OperationParam.operation, hop, OpParam.operation]
  have hread : s.loop.currentOp.operation = .read := by simp [OperationParam.operation, hop, OpParam.operation]
  obtain ⟨t, rfl, ⟨hover, he⟩ | ⟨hover, he⟩⟩ := pendingOperation_cases s env
  · cases hrx : s.rxBufferCollection.popBuffer with
    | none =>
      simp only [State.pending, hop, hrx, State.setSts] at he
      exact ⟨_, _, he, rfl, rfl, rfl, ⟨rfl, rfl⟩, rfl, .inl ⟨hrx, rfl, .inl ⟨rfl, rfl⟩⟩⟩
    | some p =>
      simp only [State.pending, hop, hrx] at he
      have hin : s.inTime env s.loop.currentOp := by
        cases hlistening : s.loop.listeningMode with
        | true => exact .inl hlistening
        | false =>
          simp only [State.isOverTime, State.pending, hop, hrx, hlistening, hread] at hover
          exact .inr (Nat.not_lt.mp (of_decide_eq_false hover))
      exact ⟨_, _, he, rfl, rfl, rfl, ⟨rfl, rfl⟩, rfl,
        .inr ⟨p.1, hrx, rfl, rfl, .inl ⟨hin, rfl, rfl, rfl, rfl⟩⟩⟩
  · cases hrx : s.rxBufferCollection.popBuffer with
    | none =>
      simp only [State.pending, hop, hrx, State.setSts, State.timeOutOperation, if_neg hnot] at he
      exact ⟨_, _, he, rfl, rfl, rfl, ⟨rfl, rfl⟩, rfl, .inl ⟨hrx, rfl, .inr ⟨rfl, rfl, rfl⟩⟩⟩
    | some p =>
      simp only [State.pending, hop, hrx, State.timeOutOperation, if_neg hnot] at he
      simp only [State.isOverTime, State.pending, hop, hrx, Bool.and_eq_true, Bool.not_eq_true',
        decide_eq_true_eq] at hover
      have hlate : ¬ s.inTime env s.loop.currentOp := by
        rintro (hlistening | hin)
        · exact absurd (hover.1.1.symm.trans hlistening) Bool.false_ne_true
        · exact absurd hover.2 (Nat.not_lt.mpr hin)
      exact ⟨_, _, he, rfl, rfl, rfl, ⟨rfl, rfl⟩, rfl, .inr ⟨p.1, hrx, rfl, rfl, .inr ⟨hlate, rfl⟩⟩⟩

/-- A WRITE is out of hand: the writable callback answers it. -/
theorem pendingOperation_write {s : State cfg} (env : LoopEnv) (hop : s.loop.currentOp.operation = .write) :
    ∃ time, s.pendingOperation env =
      { s with loop := { s.loop with
        result := { s.loop.result with sts := .noError, time := time }
        sendResult := false, ioPending := false } } := by
  unfold OperationParam.operation at hop
  cases hparam : s.loop.currentOp.opParam with
  | write nb buffer =>
    obtain ⟨t, rfl, ⟨-, he⟩ | ⟨hover, -⟩⟩ := pendingOperation_cases s env
    · simp only [State.pending, hparam] at he
      exact ⟨_, he⟩
    · simp [State.isOverTime, State.pending, hparam, OperationParam.operation, OpParam.operation] at hover
  | listen | connect _ | disconnect | read _ _ | exit | max => simp [hparam, OpParam.operation] at hop

/-! ### The end of an iteration -/

/-- One result is sent: it has a place in the queue of results, or is lost. -/
theorem sendResult_eq (s : State cfg) (env : LoopEnv) :
    ∃ time q pushed notified, s.sendResult env =
        { s with
          loop.sendResult := false
          loop.result.time := time
          resultCollection := q
          history.pushed := pushed
          history.notified := notified } ∧
      Pushed s { s.loop.result with time := time } q pushed := by
  simp only [State.sendResult]
  generalize elapsedMsTime env.tickSend s.loop.currentOp.timer = time
  obtain ⟨q, pushed, notified, h, hp⟩ := report_eq
    ({ s with loop.sendResult := false, loop.result.time := time } : State cfg) { s.loop.result with time := time }
    s.loop.currentOp.operation s.loop.currentOp.ticket
  exact ⟨time, q, pushed, notified, h, hp⟩

/-- The end of the loop touches neither commands nor writes nor results, and keeps the
connection or forgets it. -/
theorem loopEnd_same (s : State cfg) (env : LoopEnv) :
    SameUser s (s.loopEnd env) ∧ SameWrites s (s.loopEnd env) ∧
      ((s.loopEnd env).webSocketState.pWebSocket = s.webSocketState.pWebSocket ∨
        (s.loopEnd env).webSocketState.pWebSocket = none) := by
  have h := clientDisconnect_same s env.destroying
  simp only [State.loopEnd]
  split_ifs
  · exact ⟨⟨rfl, rfl, rfl, rfl, rfl⟩, ⟨rfl, rfl, rfl, rfl⟩, .inl rfl⟩
  · exact ⟨⟨h.1.paramCollection, h.1.cancel, h.1.programmed, h.1.collected, h.1.executed⟩,
      ⟨h.2.writeOpCollection, h.2.resultCollection, h.2.pushed, h.2.transmitted⟩, .inr rfl⟩

/-- Of the variables of the loop it sets those that say whether and how the next turn begins. -/
theorem loopEnd_loop (s : State cfg) (env : LoopEnv) :
    ∃ running service, (s.loopEnd env).loop = { s.loop with running := running, service := service } := by
  simp only [State.loopEnd]
  split_ifs
  · exact ⟨s.loop.running, s.lwsContext, rfl⟩
  · exact ⟨false, s.loop.service, by rw [(clientDisconnect_same s env.destroying).1.loop]⟩

/-! ### Flags and calls -/

/-- `OnOperation` and `OnError` have not been called, unless they are set. -/
structure SameCalls (s t : State cfg) : Prop where
  notified : cfg.onOperation = false → t.history.notified = s.history.notified
  errors : cfg.onError = false → t.history.errors = s.history.errors

/-- Neither have they, nor has a cancel been raised or acknowledged. -/
structure SameSignals (s t : State cfg) : Prop extends SameCalls s t where
  cancel : t.cancel = s.cancel
  cancelEvent : t.cancelEvent = s.cancelEvent

theorem SameCalls.trans {s t u : State cfg} (h : SameCalls s t) (h' : SameCalls t u) : SameCalls s u :=
  ⟨fun hn => (h'.notified hn).trans (h.notified hn), fun he => (h'.errors he).trans (h.errors he)⟩

theorem SameSignals.trans {s t u : State cfg} (h : SameSignals s t) (h' : SameSignals t u) : SameSignals s u :=
  ⟨h.toSameCalls.trans h'.toSameCalls, h'.cancel.trans h.cancel, h'.cancelEvent.trans h.cancelEvent⟩

/-- Nothing is signalled when the histories and the flags are the same. -/
theorem SameSignals.of_eq {s t : State cfg} (hnotified : t.history.notified = s.history.notified)
    (herrors : t.history.errors = s.history.errors) (hcancel : t.cancel = s.cancel)
    (hevent : t.cancelEvent = s.cancelEvent) : SameSignals s t :=
  ⟨⟨fun _ => hnotified, fun _ => herrors⟩, hcancel, hevent⟩

theorem SameSignals.refl (s : State cfg) : SameSignals s s := .of_eq rfl rfl rfl rfl

theorem report_sameSignals (s : State cfg) (r : OperationResult) (operation : SocketOperation) (ticket : ℕ) :
    SameSignals s (s.report r operation ticket) := by
  obtain ⟨q, pushed, h, -⟩ := pushResult_eq s r
  simp only [State.report, State.notify, h]
  exact ⟨⟨fun hn => by simp only [hn, Bool.false_eq_true, if_false], fun _ => rfl⟩, rfl, rfl⟩

theorem finishWrite_sameSignals (s : State cfg) (r : OperationResult) : SameSignals s (s.finishWrite r) := by
  have h := report_sameSignals s r r.operation r.opTicket
  exact ⟨⟨h.notified, h.errors⟩, h.cancel, h.cancelEvent⟩

theorem foldl_onClose_sameSignals (ws : List Wsi) (s : State cfg) : SameSignals s (ws.foldl State.onClose s) := by
  induction ws generalizing s with
  | nil => exact .refl s
  | cons w ws ih =>
    have hclose : SameSignals s (s.onClose w) := by
      simp only [State.onClose]
      split_ifs <;> exact .of_eq rfl rfl rfl rfl
    exact hclose.trans (ih _)

theorem clientDisconnect_sameSignals (s : State cfg) (ws : List Wsi) : SameSignals s (s.clientDisconnect ws) := by
  have h := foldl_onClose_sameSignals ws s
  simp only [State.clientDisconnect]
  split_ifs
  · exact ⟨⟨h.notified, h.errors⟩, h.cancel, h.cancelEvent⟩
  · exact .of_eq rfl rfl rfl rfl

theorem lwsCallback_sameSignals (cb : Callback) (s : State cfg) : SameSignals s (lwsCallback cb s).2 := by
  cases cb with
  | httpBindProtocol w => exact .of_eq rfl rfl rfl rfl
  | addHeaders w key => exact .refl s
  | established w b key =>
    simp only [lwsCallback, State.onEstablished]
    split_ifs <;> exact .of_eq rfl rfl rfl rfl
  | clientEstablished w b =>
    simp only [lwsCallback, State.onClientEstablished]
    split_ifs <;> exact .of_eq rfl rfl rfl rfl
  | writeable side w env =>
    simp only [lwsCallback, State.onWriteable]
    split
    · exact .of_eq rfl rfl rfl rfl
    · split_ifs
      · exact .of_eq rfl rfl rfl rfl
      · split
        · have h := fun t : State cfg => finishWrite_sameSignals t
          exact ⟨⟨(h _ _).notified, (h _ _).errors⟩, (h _ _).cancel, (h _ _).cancelEvent⟩
        · exact .of_eq rfl rfl rfl rfl
  | receive side w input final env =>
    simp only [lwsCallback, State.onReceive, State.onMessageComplete]
    split
    · split_ifs <;> exact .of_eq rfl rfl rfl rfl
    · exact .of_eq rfl rfl rfl rfl
  | clientClosed w | closed w => exact .of_eq rfl rfl rfl rfl
  | clientConnectionError w ws =>
    have herror : SameSignals s
        { s with history.errors := if cfg.onError then s.history.errors + 1 else s.history.errors } :=
      ⟨⟨fun _ => rfl, fun he => by simp only [he, Bool.false_eq_true, if_false]⟩, rfl, rfl⟩
    have h := herror.trans (clientDisconnect_sameSignals _ ws)
    exact ⟨⟨h.notified, h.errors⟩, h.cancel, h.cancelEvent⟩
  | other w => exact .refl s

theorem callbacks_sameSignals (cbs : List Callback) (s : State cfg) : SameSignals s (callbacks cbs s) := by
  induction cbs generalizing s with
  | nil => exact .refl s
  | cons cb cbs ih => exact (lwsCallback_sameSignals cb s).trans (ih _)

theorem command_sameSignals (s : State cfg) (env : LoopEnv) : SameSignals s (s.command env) := by
  have hgone : ∀ t : State cfg, SameSignals t (t.clientDisconnect env.destroying) := fun t =>
    clientDisconnect_sameSignals t env.destroying
  have hsts : ∀ (t : State cfg) sts, SameSignals t (t.setSts sts) := fun _ _ => .of_eq rfl rfl rfl rfl
  unfold State.command
  split
  · simp only [State.commandListen]
    split_ifs
    · exact .of_eq rfl rfl rfl rfl
    · exact .of_eq rfl rfl rfl rfl
    · have h := hgone { s with webSocketState.connectDone := false }
      exact ⟨⟨h.notified, h.errors⟩, h.cancel, h.cancelEvent⟩
    · exact .of_eq rfl rfl rfl rfl
  · rw [State.commandConnect]
    split
    · exact .of_eq rfl rfl rfl rfl
    · split
      · split
        · have h := callbacks_sameSignals env.connecting ({ s with lwsContext := true } : State cfg)
          exact ⟨⟨h.notified, h.errors⟩, h.cancel, h.cancelEvent⟩
        · exact (hgone s).trans (hsts _ _)
      · exact .of_eq rfl rfl rfl rfl
  · simp only [State.commandDisconnect]
    split_ifs
    · exact .of_eq rfl rfl rfl rfl
    · exact (hgone s).trans (hsts _ _)
    · exact .of_eq rfl rfl rfl rfl
  · exact .of_eq rfl rfl rfl rfl
  · exact .of_eq rfl rfl rfl rfl
  · rcases commandWrite_cases s env _ _ with ⟨sts, -, he⟩ | ⟨data, q, -, -, he⟩ <;>
      rw [he] <;> exact .of_eq rfl rfl rfl rfl
  · exact .of_eq rfl rfl rfl rfl

theorem newCommand_sameSignals (s : State cfg) (env : LoopEnv) : SameSignals s (s.newCommand env) := by
  rcases newCommand_cases s env with ⟨-, he⟩ | ⟨op, -, ⟨-, -, he⟩ | ⟨-, he⟩⟩
  · rw [he]
    exact .of_eq rfl rfl rfl rfl
  · rw [he]
    exact .of_eq rfl rfl rfl rfl
  · rw [he, takeCommand_eq]
    have h := command_sameSignals ((s.popped op).beginCommand env) env
    exact ⟨⟨h.notified, h.errors⟩, h.cancel, h.cancelEvent⟩

theorem pendingOperation_sameSignals (s : State cfg) (env : LoopEnv) : SameSignals s (s.pendingOperation env) := by
  have hpending : SameSignals s (s.pending env) := by
    simp only [State.pending]
    split
    · split_ifs <;> exact .of_eq rfl rfl rfl rfl
    · split_ifs <;> exact .of_eq rfl rfl rfl rfl
    · exact .of_eq rfl rfl rfl rfl
    · split <;> exact .of_eq rfl rfl rfl rfl
    · exact .of_eq rfl rfl rfl rfl
    · exact .of_eq rfl rfl rfl rfl
  obtain ⟨t, rfl, ⟨-, he⟩ | ⟨-, he⟩⟩ := pendingOperation_cases s env
  · rw [he]
    exact ⟨⟨hpending.notified, hpending.errors⟩, hpending.cancel, hpending.cancelEvent⟩
  · rw [he]
    refine SameSignals.trans ⟨⟨hpending.notified, hpending.errors⟩, hpending.cancel, hpending.cancelEvent⟩ ?_
    simp only [State.timeOutOperation]
    split_ifs
    · have h := clientDisconnect_sameSignals ({ s.pending env with
        loop.result.time := elapsedMsTime env.tickPending (s.pending env).loop.currentOp.timer } : State cfg)
          env.destroying
      exact ⟨⟨h.notified, h.errors⟩, h.cancel, h.cancelEvent⟩
    · exact .of_eq rfl rfl rfl rfl

theorem sendResult_sameSignals (s : State cfg) (env : LoopEnv) : SameSignals s (s.sendResult env) := by
  simp only [State.sendResult]
  generalize elapsedMsTime env.tickSend s.loop.currentOp.timer = time
  have h := report_sameSignals ({ s with loop.sendResult := false, loop.result.time := time } : State cfg)
    { s.loop.result with time := time } s.loop.currentOp.operation s.loop.currentOp.ticket
  exact ⟨⟨h.notified, h.errors⟩, h.cancel, h.cancelEvent⟩

theorem loopEnd_sameSignals (s : State cfg) (env : LoopEnv) : SameSignals s (s.loopEnd env) := by
  have h := clientDisconnect_sameSignals s env.destroying
  simp only [State.loopEnd]
  split_ifs
  · exact .of_eq rfl rfl rfl rfl
  · exact ⟨⟨h.notified, h.errors⟩, h.cancel, h.cancelEvent⟩

/-! ### One iteration -/

/-- The state in which an iteration looks at the cancel flag. -/
def State.beforeCancel (s : State cfg) (env : LoopEnv) : State cfg :=
  let s := s.newCommand env
  if s.loop.ioPending then s.pendingOperation env else s

/-- The rest of the iteration. -/
def State.endIteration (s : State cfg) (env : LoopEnv) : State cfg :=
  let s := if s.cancel then s.cancelBlock else s
  let s := if s.loop.sendResult then s.sendResult env else s
  s.loopEnd env

theorem iterate_of_stopped {s : State cfg} (hrun : s.loop.running = false) (env : LoopEnv) : s.iterate env = s := by
  simp only [State.iterate, hrun]
  rfl

theorem iterate_eq {s : State cfg} (hrun : s.loop.running = true) (env : LoopEnv) :
    s.iterate env = (s.beforeCancel env).endIteration env := by
  simp only [State.iterate, hrun, if_true]
  rfl

/-- **The iteration rule**: what each part after the command keeps, the iteration keeps. -/
theorem iterate_rule {R : State cfg → State cfg → Prop} (hrefl : ∀ s, R s s)
    (htrans : ∀ {s t u}, R s t → R t u → R s u) {env : LoopEnv} (hpending : ∀ s, R s (s.pendingOperation env))
    (hcancel : ∀ s, R s s.cancelBlock) (hsend : ∀ s, R s (s.sendResult env)) (hend : ∀ s, R s (s.loopEnd env))
    {s : State cfg} (hrun : s.loop.running = true) : R (s.newCommand env) (s.iterate env) := by
  have hbefore : R (s.newCommand env) (s.beforeCancel env) := by
    simp only [State.beforeCancel]
    split_ifs
    · exact hpending _
    · exact hrefl _
  have hblock : ∀ t : State cfg, R t (if t.cancel then t.cancelBlock else t) := by
    intro t
    split_ifs
    · exact hcancel t
    · exact hrefl t
  have hresult : ∀ t : State cfg, R t (if t.loop.sendResult then t.sendResult env else t) := by
    intro t
    split_ifs
    · exact hsend t
    · exact hrefl t
  rw [iterate_eq hrun]
  exact htrans hbefore (htrans (hblock _) (htrans (hresult _) (hend _)))

/-- The end of an iteration empties the queue of writes, or leaves it alone. -/
theorem endIteration_writes (s : State cfg) (env : LoopEnv) :
    (s.endIteration env).writeOpCollection = (if s.cancel then Fifo.empty else s.writeOpCollection) ∧
      (s.endIteration env).history.transmitted = s.history.transmitted := by
  have hend : ∀ t : State cfg, (t.loopEnd env).writeOpCollection = t.writeOpCollection ∧
      (t.loopEnd env).history.transmitted = t.history.transmitted := by
    intro t
    obtain ⟨-, hsame, -⟩ := loopEnd_same t env
    exact ⟨hsame.writeOpCollection, hsame.transmitted⟩
  have hsend : ∀ t : State cfg, (t.sendResult env).writeOpCollection = t.writeOpCollection ∧
      (t.sendResult env).history.transmitted = t.history.transmitted := by
    intro t
    obtain ⟨time, q, pushed, notified, he, -⟩ := sendResult_eq t env
    rw [he]
    exact ⟨rfl, rfl⟩
  rw [State.endIteration, (hend _).1, (hend _).2]
  cases s.cancel with
  | true => exact ⟨rfl, rfl⟩
  | false =>
    simp only [Bool.false_eq_true, if_false]
    split_ifs
    · exact hsend s
    · exact ⟨rfl, rfl⟩

theorem beforeCancel_sameWrites (s : State cfg) (env : LoopEnv) :
    SameWrites (s.newCommand env) (s.beforeCancel env) := by
  simp only [State.beforeCancel]
  split_ifs
  · exact (pendingOperation_same (s.newCommand env) env).2.1
  · exact .refl _

theorem beforeCancel_sameSignals (s : State cfg) (env : LoopEnv) : SameSignals s (s.beforeCancel env) := by
  simp only [State.beforeCancel]
  split_ifs
  · exact (newCommand_sameSignals s env).trans (pendingOperation_sameSignals _ env)
  · exact newCommand_sameSignals s env

/-- **An iteration** does nothing when the loop has been left; it executes the cancel block, and sends no
result; or it leaves the flags of a cancel alone. -/
theorem iterate_cases (s : State cfg) (env : LoopEnv) :
    (s.loop.running = false ∧ s.iterate env = s) ∨
    (s.loop.running = true ∧ s.cancel = true ∧ s.iterate env = (s.beforeCancel env).cancelBlock.loopEnd env) ∨
    (s.loop.running = true ∧ s.cancel = false ∧ SameSignals s (s.iterate env)) := by
  cases hrun : s.loop.running with
  | false => exact .inl ⟨rfl, iterate_of_stopped hrun env⟩
  | true =>
    have hbefore := beforeCancel_sameSignals s env
    rw [iterate_eq hrun, State.endIteration, hbefore.cancel]
    cases hcancel : s.cancel with
    | true => exact .inr (.inl ⟨rfl, rfl, rfl⟩)
    | false =>
      refine .inr (.inr ⟨rfl, rfl, ?_⟩)
      simp only [Bool.false_eq_true, if_false]
      refine hbefore.trans (SameSignals.trans ?_ (loopEnd_sameSignals _ env))
      split_ifs
      · exact sendResult_sameSignals _ env
      · exact .refl _

end BofWebRpc.WebSocket
