import BofWebRpc.WebSocket.Iteration

/-!
# The results of an iteration

`mpuSocketOperationResultCollection` is written in two places: by a writable callback, for the
write it finishes, and at the end of an iteration, for `Result_X`.

## What is proved

* `beforeCancel_pushes` — until the cancel flag is looked at, an iteration only pushes what the writable
  callbacks inside `lws_client_connect_via_info` finish.
* `endIteration_results`, `endIteration_sends_iff` — then a cancel empties the queue, or `Result_X` is sent,
  if it has to be and there is room.
-/

namespace BofWebRpc.WebSocket

variable {cfg : WebSocketParam} {P : OperationResult → Prop}

/-- Results have been pushed, all of them `P`. -/
def Pushes (P : OperationResult → Prop) (s t : State cfg) : Prop :=
  ∃ new, (∀ r ∈ new, P r) ∧ t.resultCollection.elements = s.resultCollection.elements ++ new ∧
    t.history.pushed = s.history.pushed ++ new

theorem Pushes.of_eq {s t : State cfg} (hq : t.resultCollection = s.resultCollection)
    (hpushed : t.history.pushed = s.history.pushed) : Pushes P s t :=
  ⟨[], fun _ hr => absurd hr List.not_mem_nil, by rw [hq, List.append_nil], by rw [hpushed, List.append_nil]⟩

theorem SameWrites.pushes {s t : State cfg} (h : SameWrites s t) : Pushes P s t := .of_eq h.resultCollection h.pushed

theorem Pushes.trans {s t u : State cfg} (h : Pushes P s t) (h' : Pushes P t u) : Pushes P s u := by
  obtain ⟨new, hnew, hq, hpushed⟩ := h
  obtain ⟨new', hnew', hq', hpushed'⟩ := h'
  refine ⟨new ++ new', fun r hr => ?_, by rw [hq', hq, List.append_assoc], by rw [hpushed', hpushed, List.append_assoc]⟩
  rcases List.mem_append.mp hr with hr | hr
  · exact hnew r hr
  · exact hnew' r hr

/-- One result. -/
theorem Pushes.one {s t : State cfg} {r : OperationResult} (hr : P r)
    (h : Pushed s r t.resultCollection t.history.pushed) : Pushes P s t := by
  rcases h with ⟨hq, hpushed⟩ | ⟨hq, hpushed, -⟩
  · exact ⟨[r], fun r' hr' => List.mem_singleton.mp hr' ▸ hr, hq, hpushed⟩
  · exact .of_eq hq hpushed

/-! ### Callbacks -/

/-- A write that is finished has a result that is `P`. -/
def State.Finishes (P : OperationResult → Prop) (s : State cfg) : Prop :=
  ∀ op ∈ s.writeOpCollection.elements, ∀ env sts, P (op.finish env sts)

theorem lwsCallback_pushes {s : State cfg} (h : s.Finishes P) (cb : Callback) : Pushes P s (lwsCallback cb s).2 := by
  by_cases hw : ∃ side w env, cb = .writeable side w env
  · obtain ⟨side, w, env, rfl⟩ := hw
    simp only [lwsCallback]
    rcases onWriteable_cases s w env with ⟨he, -⟩ | ⟨op, hpeek, -, ⟨-, he⟩ | ⟨sts, q, pushed, notified, -, hp, he⟩⟩
    · rw [he]
      exact .of_eq rfl rfl
    · rw [he, callbackOnWritable_eq]
      exact .of_eq rfl rfl
    · have hop : op ∈ s.writeOpCollection.elements := Fifo.peek_eq_some_iff.mp hpeek ▸ List.mem_cons_self
      rw [he]
      exact .one (h op hop env sts) hp
  · exact (lwsCallback_sameWrites (fun side w env he => hw ⟨side, w, env, he⟩) s).pushes

/-- Callbacks queue no write. -/
theorem callbacks_writes (cbs : List Callback) (s : State cfg) :
    ∀ op ∈ (callbacks cbs s).writeOpCollection.elements, op ∈ s.writeOpCollection.elements := by
  induction cbs generalizing s with
  | nil => exact fun _ hop => hop
  | cons cb cbs ih => exact fun op hop => lwsCallback_writes cb s op (ih _ op hop)

theorem callbacks_pushes (cbs : List Callback) {s : State cfg} (h : s.Finishes P) :
    Pushes P s (callbacks cbs s) := by
  induction cbs generalizing s with
  | nil => exact .of_eq rfl rfl
  | cons cb cbs ih =>
    exact (lwsCallback_pushes h cb).trans (ih fun op hop => h op (lwsCallback_writes cb s op hop))

/-! ### The loop variables -/

/-- On a client a command changes the status of its result; EXIT also ends the loop. -/
theorem command_loop (hclient : cfg.nbMaxClient = 0) (s : State cfg) (env : LoopEnv) :
    ∃ sts running, (s.command env).loop = { s.loop with result.sts := sts, running := running } := by
  have hsame : ∀ (t : State cfg) (sts : BofErr), t.loop = s.loop →
      ∃ sts' running, (t.setSts sts).loop = { s.loop with result.sts := sts', running := running } :=
    fun t sts ht => ⟨sts, s.loop.running, by simp only [State.setSts, ht]⟩
  have hgone := (clientDisconnect_same s env.destroying).1.loop
  unfold State.command
  split
  · simp only [State.commandListen, if_pos hclient]
    exact hsame s _ rfl
  · rw [State.commandConnect, if_neg (not_not.mpr hclient)]
    split
    · split
      · exact hsame _ _ (callbacks_same env.connecting ({ s with lwsContext := true } : State cfg)).loop
      · exact hsame _ _ hgone
    · exact hsame s _ rfl
  · simp only [State.commandDisconnect, ne_eq, hclient, not_true_eq_false, if_false]
    split_ifs
    · exact hsame _ _ hgone
    · exact hsame s _ rfl
  · exact ⟨_, _, rfl⟩
  · exact hsame s _ rfl
  · rcases commandWrite_cases s env _ _ with ⟨sts, -, he⟩ | ⟨data, q, -, -, he⟩ <;> rw [he] <;> exact hsame _ _ rfl
  · exact hsame s _ rfl

/-- The operation that was pending is the same, and its result is still its own. -/
structure Kept (s t : State cfg) : Prop where
  currentOp : t.loop.currentOp = s.loop.currentOp
  operation : t.loop.result.operation = s.loop.result.operation
  opTicket : t.loop.result.opTicket = s.loop.result.opTicket
  listeningMode : t.loop.listeningMode = s.loop.listeningMode

theorem pending_kept {s : State cfg} (env : LoopEnv) (hlisten : s.loop.currentOp.operation ≠ .listen) :
    Kept s (s.pending env) ∧ ((s.pending env).loop.sendResult = true →
      s.loop.currentOp.operation = .disconnect ∨ (s.pending env).loop.result.sts = .noError) := by
  unfold OperationParam.operation at hlisten ⊢
  simp only [State.pending]
  cases hop : s.loop.currentOp.opParam with
  | listen => simp [hop, OpParam.operation] at hlisten
  | connect key =>
    dsimp only
    split_ifs
    · exact ⟨⟨rfl, rfl, rfl, rfl⟩, fun _ => .inr rfl⟩
    · exact ⟨⟨rfl, rfl, rfl, rfl⟩, fun he => by cases he⟩
  | disconnect => exact ⟨⟨rfl, rfl, rfl, rfl⟩, fun _ => .inl rfl⟩
  | read nb buffer =>
    cases hrx : s.rxBufferCollection.popBuffer with
    | none => exact ⟨⟨rfl, rfl, rfl, rfl⟩, fun he => by cases he⟩
    | some found => exact ⟨⟨rfl, rfl, rfl, rfl⟩, fun _ => .inr rfl⟩
  | write nb buffer | exit | max => exact ⟨⟨rfl, rfl, rfl, rfl⟩, fun he => by cases he⟩

/-- **The pending operation**, unless it is a LISTEN: it keeps its result, and sends it without an error or because
it is over time; a CONNECT that is over time destroys the context. -/
theorem pendingOperation_kept {s : State cfg} (env : LoopEnv) (hlisten : s.loop.currentOp.operation ≠ .listen) :
    Kept s (s.pendingOperation env) ∧ ((s.pendingOperation env).loop.sendResult = true →
      s.loop.currentOp.operation = .disconnect ∨ (s.pendingOperation env).loop.result.sts = .noError ∨
        (s.loop.currentOp.operation = .connect → (s.pendingOperation env).lwsContext = false)) := by
  obtain ⟨hkept, hsts⟩ := pending_kept env hlisten
  obtain ⟨t, rfl, ⟨-, he⟩ | ⟨-, he⟩⟩ := pendingOperation_cases s env
  · rw [he]
    exact ⟨⟨hkept.currentOp, hkept.operation, hkept.opTicket, hkept.listeningMode⟩,
      fun hsend => (hsts hsend).imp_right .inl⟩
  · have hloop := timeOutOperation_loop ({ s.pending env with
      loop.result.time := elapsedMsTime env.tickPending (s.pending env).loop.currentOp.timer } : State cfg) env
    rw [he]
    refine ⟨⟨?_, ?_, ?_, ?_⟩, fun _ => .inr (.inr fun hconnect => ?_)⟩
    · rw [hloop]
      exact hkept.currentOp
    · rw [hloop]
      exact hkept.operation
    · rw [hloop]
      exact hkept.opTicket
    · rw [hloop]
      exact hkept.listeningMode
    · have hconnect : (s.pending env).loop.currentOp.operation = .connect := by rw [hkept.currentOp, hconnect]
      simp only [State.timeOutOperation, hconnect, if_true]
      simp only [State.clientDisconnect]
      split_ifs with hctx
      · rfl
      · exact Bool.eq_false_iff.mpr hctx

theorem pendingOperation_listeningMode (s : State cfg) (env : LoopEnv) :
    (s.pendingOperation env).loop.listeningMode = s.loop.listeningMode := by
  have hpending : (s.pending env).loop.listeningMode = s.loop.listeningMode := by
    simp only [State.pending]
    split
    · split_ifs <;> rfl
    · split_ifs <;> rfl
    · rfl
    · split <;> rfl
    · rfl
    · rfl
  obtain ⟨t, rfl, ⟨-, he⟩ | ⟨-, he⟩⟩ := pendingOperation_cases s env
  · rw [he]
    exact hpending
  · rw [he, timeOutOperation_loop]
    exact hpending

/-! ### The parts of an iteration -/

/-- Only a CONNECT runs callbacks that can push a result. -/
theorem command_sameResults {s : State cfg} (env : LoopEnv) (hop : s.loop.currentOp.operation ≠ .connect) :
    (s.command env).resultCollection = s.resultCollection ∧ (s.command env).history.pushed = s.history.pushed := by
  have hgone : ∀ t : State cfg, (t.clientDisconnect env.destroying).resultCollection = t.resultCollection ∧
      (t.clientDisconnect env.destroying).history.pushed = t.history.pushed := by
    intro t
    obtain ⟨-, hsame⟩ := clientDisconnect_same t env.destroying
    exact ⟨hsame.resultCollection, hsame.pushed⟩
  unfold State.command
  cases hparam : s.loop.currentOp.opParam with
  | connect key => simp [OperationParam.operation, hparam, OpParam.operation] at hop
  | listen =>
    simp only [State.commandListen]
    split_ifs
    · exact ⟨rfl, rfl⟩
    · exact ⟨rfl, rfl⟩
    · exact hgone { s with webSocketState.connectDone := false }
    · exact ⟨rfl, rfl⟩
  | disconnect =>
    simp only [State.commandDisconnect]
    split_ifs
    · exact ⟨rfl, rfl⟩
    · exact hgone s
    · exact ⟨rfl, rfl⟩
  | write nb buffer =>
    rcases commandWrite_cases s env nb buffer with ⟨sts, -, he⟩ | ⟨data, q, -, -, he⟩ <;> simp only [he] <;>
      exact ⟨rfl, rfl⟩
  | read nb buffer | exit | max => exact ⟨rfl, rfl⟩

theorem command_pushes {s : State cfg} (h : s.Finishes P) (env : LoopEnv) : Pushes P s (s.command env) := by
  by_cases hop : s.loop.currentOp.operation = .connect
  · unfold State.command
    unfold OperationParam.operation at hop
    cases hparam : s.loop.currentOp.opParam with
    | connect key =>
      dsimp only
      rw [State.commandConnect]
      split
      · exact .of_eq rfl rfl
      · split
        · split
          · obtain ⟨new, hnew, hq, hpushed⟩ := callbacks_pushes env.connecting (s := { s with lwsContext := true }) h
            exact ⟨new, hnew, hq, hpushed⟩
          · obtain ⟨-, hsame⟩ := clientDisconnect_same s env.destroying
            exact .of_eq hsame.resultCollection hsame.pushed
        · exact .of_eq rfl rfl
    | listen | disconnect | write _ _ | read _ _ | exit | max => rw [hparam] at hop; cases hop
  · obtain ⟨hq, hpushed⟩ := command_sameResults env hop
    exact .of_eq hq hpushed

/-- Only a WRITE queues a write, with its own result. -/
theorem command_writes (s : State cfg) (env : LoopEnv) : ∀ op ∈ (s.command env).writeOpCollection.elements,
    op ∈ s.writeOpCollection.elements ∨
      (s.loop.currentOp.operation = .write ∧ op.result = { s.loop.result with sts := .noError }) := by
  have hgone : ∀ (t : State cfg) (ws : List Wsi), (t.clientDisconnect ws).writeOpCollection = t.writeOpCollection :=
    fun t ws => (clientDisconnect_same t ws).2.writeOpCollection
  intro op hop
  unfold State.command at hop
  unfold OperationParam.operation
  cases hparam : s.loop.currentOp.opParam with
  | listen =>
    simp only [hparam, State.commandListen] at hop
    split_ifs at hop
    · exact .inl hop
    · exact .inl hop
    · exact .inl (hgone { s with webSocketState.connectDone := false } env.destroying ▸ hop)
    · exact .inl hop
  | connect key =>
    simp only [hparam] at hop
    rw [State.commandConnect] at hop
    split at hop
    · exact .inl hop
    · split at hop
      · split at hop
        · exact .inl (callbacks_writes env.connecting { s with lwsContext := true } op hop)
        · exact .inl (hgone s env.destroying ▸ hop)
      · exact .inl hop
  | disconnect =>
    simp only [hparam, State.commandDisconnect] at hop
    split_ifs at hop
    · exact .inl hop
    · exact .inl (hgone s env.destroying ▸ hop)
    · exact .inl hop
  | write nb buffer =>
    simp only [hparam] at hop
    rcases commandWrite_cases s env nb buffer with ⟨sts, -, he⟩ | ⟨data, q, -, hq, he⟩
    · rw [he] at hop
      exact .inl hop
    · rw [he] at hop
      have hop : op ∈ q.elements := hop
      rw [(Fifo.push_eq_some_iff.mp hq).2] at hop
      rcases List.mem_append.mp hop with hop | hop
      · exact .inl hop
      · rw [List.mem_singleton.mp hop]
        exact .inr ⟨rfl, rfl⟩
  | read nb buffer | exit | max =>
    simp only [hparam] at hop
    exact .inl hop

theorem newCommand_pushes {s : State cfg} (h : s.Finishes P) (env : LoopEnv) : Pushes P s (s.newCommand env) := by
  rcases newCommand_cases s env with ⟨-, he⟩ | ⟨op, -, ⟨-, -, he⟩ | ⟨-, he⟩⟩
  · rw [he]
    exact .of_eq rfl rfl
  · rw [he]
    exact .of_eq rfl rfl
  · rw [he, takeCommand_eq]
    exact command_pushes (s := (s.popped op).beginCommand env) h env

/-- Looking at the pending operation pushes nothing. -/
theorem beforeCancel_results (s : State cfg) (env : LoopEnv) :
    (s.beforeCancel env).resultCollection = (s.newCommand env).resultCollection ∧
      (s.beforeCancel env).history.pushed = (s.newCommand env).history.pushed := by
  have hsame := beforeCancel_sameWrites s env
  exact ⟨hsame.resultCollection, hsame.pushed⟩

theorem beforeCancel_pushes {s : State cfg} (h : s.Finishes P) (env : LoopEnv) : Pushes P s (s.beforeCancel env) := by
  obtain ⟨hq, hpushed⟩ := beforeCancel_results s env
  exact (newCommand_pushes h env).trans (.of_eq hq hpushed)

/-- **The end of an iteration**: a cancel empties the queue of results and sends none; otherwise `Result_X`
is sent, if it has to be. -/
theorem endIteration_results (s : State cfg) (env : LoopEnv) :
    (s.cancel = true ∧ (s.endIteration env).resultCollection = .empty ∧
        (s.endIteration env).history.pushed = s.history.pushed) ∨
      (s.cancel = false ∧ s.loop.sendResult = false ∧ (s.endIteration env).resultCollection = s.resultCollection ∧
        (s.endIteration env).history.pushed = s.history.pushed) ∨
      (s.cancel = false ∧ s.loop.sendResult = true ∧ ∃ time, Pushed s { s.loop.result with time := time }
        (s.endIteration env).resultCollection (s.endIteration env).history.pushed) := by
  have hend : ∀ t : State cfg, (t.loopEnd env).resultCollection = t.resultCollection ∧
      (t.loopEnd env).history.pushed = t.history.pushed := by
    intro t
    obtain ⟨-, hsame, -⟩ := loopEnd_same t env
    exact ⟨hsame.resultCollection, hsame.pushed⟩
  cases hcancel : s.cancel with
  | true =>
    have he : s.endIteration env = s.cancelBlock.loopEnd env := by
      simp only [State.endIteration, hcancel, if_true]
      rfl
    rw [he]
    exact .inl ⟨rfl, hend s.cancelBlock⟩
  | false =>
    cases hsend : s.loop.sendResult with
    | false =>
      have he : s.endIteration env = s.loopEnd env := by
        simp only [State.endIteration, hcancel, hsend, Bool.false_eq_true, if_false]
      rw [he]
      exact .inr (.inl ⟨rfl, rfl, hend s⟩)
    | true =>
      have he : s.endIteration env = (s.sendResult env).loopEnd env := by
        simp only [State.endIteration, hcancel, hsend, Bool.false_eq_true, if_false, if_true]
      obtain ⟨time, q, pushed, notified, hsent, hp⟩ := sendResult_eq s env
      obtain ⟨hq, hpushed⟩ := hend (s.sendResult env)
      rw [hsent] at hq hpushed
      refine .inr (.inr ⟨rfl, rfl, time, ?_⟩)
      rw [he, hsent, hq, hpushed]
      exact hp

/-- The end of an iteration leaves the variables of the loop alone, unless it is cancelled;
nothing is left to be sent. -/
theorem endIteration_loop {s : State cfg} (hcancel : s.cancel = false) (env : LoopEnv) :
    ∃ time running service, (s.endIteration env).loop =
      { s.loop with sendResult := false, result.time := time, running := running, service := service } := by
  simp only [State.endIteration, hcancel, Bool.false_eq_true, if_false]
  cases hsend : s.loop.sendResult with
  | false =>
    obtain ⟨running, service, he⟩ := loopEnd_loop s env
    refine ⟨s.loop.result.time, running, service, ?_⟩
    simp only [Bool.false_eq_true, if_false]
    rw [he, ← hsend]
  | true =>
    obtain ⟨time, q, pushed, notified, hsent, -⟩ := sendResult_eq s env
    obtain ⟨running, service, he⟩ := loopEnd_loop (s.sendResult env) env
    refine ⟨time, running, service, ?_⟩
    simp only [if_true]
    rw [he, hsent]

/-- A result is sent exactly when it has to be, nobody cancels, and there is room for it. -/
theorem endIteration_sends_iff {Q : OperationResult → Prop}
    (hQ : ∀ (r : OperationResult) (time : ℕ), Q { r with time := time } ↔ Q r) (s : State cfg) (env : LoopEnv) :
    (∃ r, (s.endIteration env).history.pushed = s.history.pushed ++ [r] ∧ Q r) ↔
      s.cancel = false ∧ s.resultCollection.elements.length < cfg.nbMaxOperationPending + 1 ∧
        s.loop.sendResult = true ∧ Q s.loop.result := by
  have hnone : ∀ {pushed : List OperationResult}, pushed = s.history.pushed →
      ¬ ∃ r, pushed = s.history.pushed ++ [r] ∧ Q r := by
    rintro pushed hsame ⟨r, hr, -⟩
    exact List.cons_ne_nil r [] (List.self_eq_append_right.mp (hsame.symm.trans hr))
  rcases endIteration_results s env with
    ⟨hcancel, -, hpushed⟩ | ⟨-, hsend, -, hpushed⟩ | ⟨hcancel, hsend, time, ⟨hq, hpushed⟩ | ⟨-, hpushed, hfull⟩⟩
  · exact ⟨fun h => absurd h (hnone hpushed), fun h => absurd (h.1.symm.trans hcancel) Bool.false_ne_true⟩
  · exact ⟨fun h => absurd h (hnone hpushed), fun h => absurd (hsend.symm.trans h.2.2.1) Bool.false_ne_true⟩
  · have hroom := (s.endIteration env).resultCollection.bounded
    rw [hq, List.length_append, List.length_singleton] at hroom
    constructor
    · rintro ⟨r, hr, hQr⟩
      rw [hpushed, List.append_cancel_left_eq, List.singleton_inj] at hr
      rw [← hr, hQ] at hQr
      exact ⟨hcancel, hroom, hsend, hQr⟩
    · exact fun h => ⟨_, hpushed, (hQ _ time).mpr h.2.2.2⟩
  · exact ⟨fun h => absurd h (hnone hpushed), fun h => absurd h.2.1 (Nat.not_lt.mpr hfull)⟩

end BofWebRpc.WebSocket
