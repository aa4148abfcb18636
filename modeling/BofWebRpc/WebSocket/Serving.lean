import BofWebRpc.WebSocket.Iteration

/-!
# An open connection

The engine *serves* when it has a context, nobody cancels or disconnects, and its
commands are READ and WRITE, on top of a LISTEN on a server. The invariants of
receiving, writing and listening are about such runs.

## What is proved

* `step_serving` — the engine goes on serving.
* `iterate_serving` — an iteration of a serving engine is a command, a look at the pending
  operation, and perhaps a result.
-/

namespace BofWebRpc.WebSocket

open Reassembly

variable {cfg : WebSocketParam}

/-- READ and WRITE transfer data. -/
def OpParam.isTransfer : OpParam → Bool
  | .read _ _ | .write _ _ => true
  | .exit | .listen | .connect _ | .disconnect | .max => false

theorem OpParam.isTransfer_operation {p : OpParam} (h : p.isTransfer = true) :
    p.operation = .read ∨ p.operation = .write := by
  cases p with
  | read nb buffer => exact .inl rfl
  | write nb buffer => exact .inr rfl
  | exit | listen | connect _ | disconnect | max => cases h

/-- The pending operation is the LISTEN of a listening server, or a READ that has its own
result under way. -/
def Processing.Pends (l : Processing) : Prop :=
  (l.currentOp.opParam = .listen ∧ l.listeningMode = true) ∨
    (l.currentOp.operation = .read ∧ l.result.operation = .read)

instance (l : Processing) : Decidable l.Pends := inferInstanceAs (Decidable (_ ∧ _ ∨ _ ∧ _))

/-- The engine has a context, which its turn serves, is not being cancelled, and has only READ and
WRITE to execute and WRITE to finish. -/
structure Open (s : State cfg) : Prop where
  lwsContext : s.lwsContext = true
  cancel : s.cancel = false
  running : s.loop.running = true
  service : s.loop.service = true
  params : ∀ p ∈ s.paramCollection.elements, p.opParam.isTransfer = true
  writes : ∀ op ∈ s.writeOpCollection.elements, op.result.operation = .write

/-- The engine serves, between two iterations. -/
structure Serving (s : State cfg) : Prop extends Open s where
  sendResult : s.loop.sendResult = false
  pends : s.loop.ioPending = true → s.loop.Pends

/-- After the pending operation: its result may have to be sent. -/
structure Sending (s : State cfg) : Prop extends Open s where
  pends : s.loop.ioPending = true → s.loop.Pends

/-- After the command: a WRITE may be pending too. -/
structure Working (s : State cfg) : Prop extends Open s where
  pends : s.loop.ioPending = true → s.loop.Pends ∨ s.loop.currentOp.operation = .write

/-- No cancel, no disconnection, and only READ and WRITE. -/
def Event.Serves : Event → Prop
  | .program _ _ opParam => opParam.isTransfer = true
  | .collect | .cancelled | .clear | .reset => True
  | .cancel _ => False
  | .callback (.clientConnectionError _ _) => False
  | .callback _ => True
  | .iterate env => env.mustExit = false

instance : (e : Event) → Decidable e.Serves
  | .program _ _ _ => inferInstanceAs (Decidable (_ = _))
  | .collect | .cancelled | .clear | .reset => isTrue trivial
  | .cancel _ => isFalse id
  | .callback (.clientConnectionError _ _) => isFalse id
  | .callback (.httpBindProtocol _) | .callback (.addHeaders _ _) | .callback (.established _ _ _)
  | .callback (.clientEstablished _ _) | .callback (.writeable _ _ _) | .callback (.receive _ _ _ _ _)
  | .callback (.clientClosed _) | .callback (.closed _) | .callback (.other _) => isTrue trivial
  | .iterate _ => inferInstanceAs (Decidable (_ = _))

/-! ### The command of an iteration -/

/-- The READ that the next iteration looks at, once it has taken its command, with the timer
it has then. -/
def State.readsNow (s : State cfg) (env : LoopEnv) : Option OperationParam :=
  match s.paramCollection.peek with
  | none => if s.loop.ioPending = true ∧ s.loop.currentOp.operation = .read then some s.loop.currentOp else none
  | some op =>
    match op.opParam with
    | .read nb buffer =>
      if s.loop.ioPending = true ∧ s.loop.listeningMode = false then some op
      else if s.loop.ioPending = true ∨ s.acceptsRead nb buffer = true then some { op with timer := env.tickTake }
      else none
    | _ => none

/-- What the command of an iteration does to the writes: nothing, or it queues one and asks for
a writable callback. -/
def Wrote (s t : State cfg) (env : LoopEnv) : Prop :=
  (t.writeOpCollection = s.writeOpCollection ∧ t.writable = s.writable) ∨
  (s.willWrite = true ∧
    (∃ op, t.writeOpCollection.elements = s.writeOpCollection.elements ++ [op] ∧ op.result.operation = .write) ∧
    t.writable = (s.callbackOnWritable s.webSocketState.pWebSocket env.onWritable).writable)

/-- What the command of an iteration leaves alone, and what is known of its result. -/
structure Began (s t : State cfg) (env : LoopEnv) : Prop where
  webSocketState : t.webSocketState = s.webSocketState
  rxBufferCollection : t.rxBufferCollection = s.rxBufferCollection
  resultCollection : t.resultCollection = s.resultCollection
  history : t.history = { s.history with executed := t.history.executed }
  listeningMode : t.loop.listeningMode = s.loop.listeningMode
  listenTicketId : t.loop.listenTicketId = s.loop.listenTicketId
  idle : s.paramCollection.elements = [] → t = s
  result : t.loop.sendResult = true →
    (t.loop.result.operation = .read ∨ t.loop.result.operation = .write) ∧ t.loop.result.message = none
  reads : ∀ op, s.readsNow env = some op ↔
    t.loop.ioPending = true ∧ t.loop.currentOp.operation = .read ∧ t.loop.currentOp = op
  writes : Wrote s t env

/-- A READ or a WRITE is executed. -/
theorem takeCommand_transfer {s : State cfg} (env : LoopEnv) (hop : s.loop.currentOp.opParam.isTransfer = true) :
    ∃ sts writes writable, s.takeCommand env =
      { s with
        writeOpCollection := writes
        writable := writable
        operationPending := true
        history.executed := s.history.executed ++ [s.loop.currentOp]
        loop := { s.loop with
          currentOp.timer := env.tickTake
          result := { s.loop.currentOp.newResult env.tickTake with sts := sts }
          sendResult := true
          ioPending := s.loop.ioPending || decide (sts = .noError) } } ∧
      (∀ nb buffer, s.loop.currentOp.opParam = .read nb buffer → (sts = .noError ↔ s.acceptsRead nb buffer = true)) ∧
      ((writes = s.writeOpCollection ∧ writable = s.writable) ∨
        (∃ nb buffer op, s.loop.currentOp.opParam = .write nb buffer ∧ s.acceptsWrite nb buffer = true ∧
          writes.elements = s.writeOpCollection.elements ++ [op] ∧ op.result.operation = .write ∧
          writable = (s.callbackOnWritable s.webSocketState.pWebSocket env.onWritable).writable)) := by
  cases hparam : s.loop.currentOp.opParam with
  | read nb buffer =>
    obtain ⟨sts, he, haccepts⟩ := commandRead_eq (s.beginCommand env) nb buffer
    refine ⟨sts, s.writeOpCollection, s.writable, ?_, ?_, .inl ⟨rfl, rfl⟩⟩
    · have hcommand : (s.beginCommand env).command env = (s.beginCommand env).setSts sts := by
        rw [← he]
        simp only [State.command, State.beginCommand, hparam]
      rw [takeCommand_eq, hcommand]
      rfl
    · intro nb' buffer' hread
      cases hread
      exact haccepts
  | write nb buffer =>
    have hcommand : (s.beginCommand env).command env = (s.beginCommand env).commandWrite env nb buffer := by
      simp only [State.command, State.beginCommand, hparam]
    rcases commandWrite_cases (s.beginCommand env) env nb buffer with ⟨sts, -, he⟩ | ⟨data, q, haccepts, hq, he⟩
    · refine ⟨sts, s.writeOpCollection, s.writable, ?_, by rintro _ _ ⟨⟩, .inl ⟨rfl, rfl⟩⟩
      rw [takeCommand_eq, hcommand, he]
      rfl
    · refine ⟨if env.onWritable then .noError else .operationFailed, q,
        (s.callbackOnWritable s.webSocketState.pWebSocket env.onWritable).writable, ?_, by rintro _ _ ⟨⟩,
        .inr ⟨nb, buffer, (s.beginCommand env).newWriteOp nb data, rfl, haccepts,
          (Fifo.push_eq_some_iff.mp hq).2, ?_, rfl⟩⟩
      · rw [takeCommand_eq, hcommand, he]
        rfl
      · simp [State.newWriteOp, State.beginCommand, OperationParam.newResult, OperationParam.operation, hparam,
          OpParam.operation]
  | exit | listen | connect _ | disconnect | max =>
    rw [hparam] at hop
    cases hop

theorem OperationParam.opParam_eq_read {p : OperationParam} (h : p.operation = .read) :
    ∃ nb buffer, p.opParam = .read nb buffer := by
  unfold OperationParam.operation at h
  cases hop : p.opParam with
  | read nb buffer => exact ⟨nb, buffer, rfl⟩
  | exit | listen | connect _ | write _ _ | disconnect | max => simp [hop, OpParam.operation] at h

section Command

variable {s : State cfg} (env : LoopEnv) {op : OperationParam}

/-- No command. -/
theorem Serving.began_idle (h : Serving s) (hparams : s.paramCollection.elements = []) :
    Began s s env ∧ Working s := by
  refine ⟨⟨rfl, rfl, rfl, rfl, rfl, rfl, fun _ => rfl, fun hsend => ?_, fun op => ?_, .inl ⟨rfl, rfl⟩⟩,
    ⟨h.toOpen, fun hp => .inl (h.pends hp)⟩⟩
  · exact absurd (h.sendResult.symm.trans hsend) Bool.false_ne_true
  · simp only [State.readsNow, Fifo.peek_eq_none_iff.mpr hparams, Option.ite_none_right_eq_some, Option.some.injEq,
      and_assoc]

/-- A command that overwrites the pending READ. -/
theorem Serving.began_overwritten (h : Serving s)
    (hop : s.paramCollection.elements = op :: s.paramCollection.skip.elements) (hp : s.loop.ioPending = true)
    (hlistening : s.loop.listeningMode = false) : Began s (s.popped op) env ∧ Working (s.popped op) := by
  have htransfer := h.params op (hop ▸ List.mem_cons_self)
  have hresult : s.loop.result.operation = .read := by
    rcases h.pends hp with ⟨-, hl⟩ | ⟨-, hr⟩
    · exact absurd (hlistening.symm.trans hl) Bool.false_ne_true
    · exact hr
  refine ⟨⟨rfl, rfl, rfl, rfl, rfl, rfl, fun hnil => ?_, fun hsend => ?_, fun op' => ?_, .inl ⟨rfl, rfl⟩⟩,
    ⟨⟨h.lwsContext, h.cancel, h.running, h.service, fun p hmem => h.params p (List.mem_of_mem_tail hmem), h.writes⟩,
      fun _ => ?_⟩⟩
  · rw [hop] at hnil
    cases hnil
  · exact absurd (h.sendResult.symm.trans hsend) Bool.false_ne_true
  · show s.readsNow env = some op' ↔ s.loop.ioPending = true ∧ op.operation = .read ∧ op = op'
    cases hparam : op.opParam with
    | read nb buffer =>
      simp [State.readsNow, Fifo.peek_eq_some_iff.mpr hop, hparam, hp, hlistening, OperationParam.operation,
        OpParam.operation]
    | write nb buffer =>
      simp [State.readsNow, Fifo.peek_eq_some_iff.mpr hop, hparam, OperationParam.operation, OpParam.operation]
    | exit | listen | connect _ | disconnect | max =>
      rw [hparam] at htransfer
      cases htransfer
  · rcases OpParam.isTransfer_operation htransfer with hread | hwrite
    · exact .inl (.inr ⟨hread, hresult⟩)
    · exact .inr hwrite

/-- A command that is executed. -/
theorem Serving.began_taken (h : Serving s)
    (hop : s.paramCollection.elements = op :: s.paramCollection.skip.elements) (htaken : s.taken = some op) :
    Began s ((s.popped op).takeCommand env) env ∧ Working ((s.popped op).takeCommand env) := by
  have htransfer := h.params op (hop ▸ List.mem_cons_self)
  have hfree : ¬(s.loop.ioPending = true ∧ s.loop.listeningMode = false) := by
    rintro ⟨hp, hl⟩
    simp [State.taken, hp, hl] at htaken
  obtain ⟨sts, writes, writable, he, hread, hwrites⟩ := takeCommand_transfer (s := s.popped op) env htransfer
  rw [he]
  refine ⟨⟨rfl, rfl, rfl, rfl, rfl, rfl, fun hnil => ?_, fun _ => ⟨?_, rfl⟩, fun op' => ?_, ?_⟩,
    ⟨⟨h.lwsContext, h.cancel, h.running, h.service, fun p hmem => h.params p (List.mem_of_mem_tail hmem), ?_⟩,
      fun _ => ?_⟩⟩
  · rw [hop] at hnil
    cases hnil
  · exact OpParam.isTransfer_operation htransfer
  · show s.readsNow env = some op' ↔ (s.loop.ioPending || decide (sts = .noError)) = true ∧ op.operation = .read ∧
      ({ op with timer := env.tickTake } : OperationParam) = op'
    cases hparam : op.opParam with
    | read nb buffer =>
      have haccepts : sts = .noError ↔ s.acceptsRead nb buffer = true := hread nb buffer hparam
      have hkind : op.operation = .read := by simp only [OperationParam.operation, hparam, OpParam.operation]
      simp only [State.readsNow, Fifo.peek_eq_some_iff.mpr hop, hparam, if_neg hfree, Option.ite_none_right_eq_some,
        Option.some.injEq, Bool.or_eq_true, decide_eq_true_eq, haccepts, hkind, true_and]
    | write nb buffer =>
      simp [State.readsNow, Fifo.peek_eq_some_iff.mpr hop, hparam, OperationParam.operation, OpParam.operation]
    | exit | listen | connect _ | disconnect | max =>
      rw [hparam] at htransfer
      cases htransfer
  · rcases hwrites with hsame | ⟨nb, buffer, wop, hparam, haccepts, helements, hoperation, hwritable⟩
    · exact .inl hsame
    · exact .inr ⟨willWrite_eq_true htaken hparam haccepts, ⟨wop, helements, hoperation⟩, hwritable⟩
  · rcases hwrites with hsame | ⟨nb, buffer, wop, -, -, helements, hoperation, -⟩
    · rw [hsame.1]
      exact h.writes
    · intro wop' hmem
      rw [helements] at hmem
      rcases List.mem_append.mp hmem with hmem | hmem
      · exact h.writes wop' hmem
      · rw [List.mem_singleton.mp hmem]
        exact hoperation
  · rcases OpParam.isTransfer_operation htransfer with hreadop | hwriteop
    · exact .inl (.inr ⟨hreadop, hreadop⟩)
    · exact .inr hwriteop

/-- **The command of an iteration** of a serving engine. -/
theorem newCommand_began (h : Serving s) : Began s (s.newCommand env) env ∧ Working (s.newCommand env) := by
  rcases newCommand_cases s env with ⟨hparams, he⟩ | ⟨op, hop, ⟨hp, hlistening, he⟩ | ⟨htaken, he⟩⟩
  · have he : s.newCommand env = s := by
      rw [he, if_pos h.service]
    rw [he]
    exact h.began_idle env hparams
  · rw [he]
    exact h.began_overwritten env hop hp hlistening
  · rw [he]
    exact h.began_taken env hop htaken

end Command

/-! ### The rest of an iteration -/

/-- The pending operation. -/
theorem Working.sending {s : State cfg} (h : Working s) (env : LoopEnv) :
    Sending (if s.loop.ioPending then s.pendingOperation env else s) := by
  split_ifs with hp
  · rcases h.pends hp with (⟨hlisten, hlistening⟩ | ⟨hread, hresult⟩) | hwrite
    · obtain ⟨time, he⟩ := pendingOperation_listen env hlisten hlistening
      rw [he]
      split_ifs
      · exact ⟨⟨h.lwsContext, h.cancel, h.running, h.service, h.params, h.writes⟩, fun _ => .inl ⟨hlisten, hlistening⟩⟩
      · exact ⟨⟨h.lwsContext, h.cancel, h.running, h.service, h.params, h.writes⟩, fun _ => .inl ⟨hlisten, hlistening⟩⟩
    · obtain ⟨nb, buffer, hparam⟩ := OperationParam.opParam_eq_read hread
      obtain ⟨rx, loop, he, hop, -, -, hrunning, hoperation, -⟩ := pendingOperation_read env hparam
      rw [he]
      refine ⟨⟨h.lwsContext, h.cancel, hrunning.1.trans h.running, hrunning.2.trans h.service, h.params, h.writes⟩,
        fun _ => .inr ⟨?_, ?_⟩⟩
      · rw [hop]
        exact hread
      · exact hoperation.trans hresult
    · obtain ⟨time, he⟩ := pendingOperation_write env hwrite
      rw [he]
      exact ⟨⟨h.lwsContext, h.cancel, h.running, h.service, h.params, h.writes⟩, fun he => by cases he⟩
  · exact ⟨h.toOpen, fun hp' => absurd hp' hp⟩

/-- The result. -/
theorem Sending.serving {s : State cfg} (h : Sending s) (env : LoopEnv) :
    Serving (if s.loop.sendResult then s.sendResult env else s) := by
  split_ifs with hsend
  · obtain ⟨time, q, pushed, notified, he, -⟩ := sendResult_eq s env
    rw [he]
    exact ⟨⟨h.lwsContext, h.cancel, h.running, h.service, h.params, h.writes⟩, rfl, h.pends⟩
  · exact ⟨h.toOpen, Bool.eq_false_iff.mpr hsend, h.pends⟩

/-- It goes on, and nothing of it changes. -/
theorem Serving.goes_on {s : State cfg} (h : Serving s) {env : LoopEnv} (hexit : env.mustExit = false) :
    s.loopEnd env = s := by
  have hsame : ∀ {b}, s.loop.service = b → ({ s with loop.service := b } : State cfg) = s := fun he => by rw [← he]
  have hturn : s.nextTurn = s := hsame (h.service.trans h.lwsContext.symm)
  rw [State.loopEnd, h.running, hexit]
  exact hturn

/-- **One iteration** of a serving engine: a command, a look at the pending operation, and
perhaps a result. -/
theorem iterate_serving {s : State cfg} (h : Serving s) {env : LoopEnv} (hexit : env.mustExit = false) :
    ∃ t u, Began s t env ∧ Working t ∧ u = (if t.loop.ioPending then t.pendingOperation env else t) ∧ Sending u ∧
      s.iterate env = if u.loop.sendResult then u.sendResult env else u := by
  obtain ⟨hbegan, hworking⟩ := newCommand_began env h
  have hsending := hworking.sending env
  have hserving := hsending.serving env
  refine ⟨_, _, hbegan, hworking, rfl, hsending, ?_⟩
  simp only [State.iterate, h.running, if_true]
  rw [if_neg (ne_true_of_eq_false hsending.cancel)]
  exact hserving.goes_on hexit

/-- Looking at the pending operation changes no more than these. -/
theorem Working.looked {s : State cfg} (h : Working s) (env : LoopEnv) :
    ∃ connectDone rx loop, (if s.loop.ioPending then s.pendingOperation env else s) =
      { s with webSocketState.connectDone := connectDone, rxBufferCollection := rx, loop := loop } := by
  split_ifs with hp
  · rcases h.pends hp with (⟨hlisten, hlistening⟩ | ⟨hread, -⟩) | hwrite
    · obtain ⟨time, he⟩ := pendingOperation_listen env hlisten hlistening
      rw [he]
      split_ifs <;> exact ⟨_, _, _, rfl⟩
    · obtain ⟨nb, buffer, hparam⟩ := OperationParam.opParam_eq_read hread
      obtain ⟨rx, loop, he, -⟩ := pendingOperation_read env hparam
      exact ⟨_, rx, loop, he⟩
    · obtain ⟨time, he⟩ := pendingOperation_write env hwrite
      exact ⟨_, _, _, he⟩
  · exact ⟨_, _, _, rfl⟩

/-- After its command, an iteration leaves the writes and the connection alone. -/
theorem iterate_writes {s : State cfg} (h : Serving s) {env : LoopEnv} (hexit : env.mustExit = false) :
    Wrote s (s.iterate env) env ∧ (s.iterate env).webSocketState.pWebSocket = s.webSocketState.pWebSocket := by
  obtain ⟨t, u, hbegan, hworking, hu, -, he⟩ := iterate_serving h hexit
  obtain ⟨connectDone, rx, loop, hlooked⟩ := hworking.looked env
  rw [hlooked] at hu
  subst hu
  rw [he]
  have hsocket : t.webSocketState.pWebSocket = s.webSocketState.pWebSocket := by rw [hbegan.webSocketState]
  split_ifs
  · obtain ⟨time, q, pushed, notified, hsent, -⟩ := sendResult_eq
      ({ t with webSocketState.connectDone := connectDone, rxBufferCollection := rx, loop := loop } : State cfg) env
    rw [hsent]
    exact ⟨hbegan.writes, hsocket⟩
  · exact ⟨hbegan.writes, hsocket⟩

/-! ### Runs -/

/-- No callback but a connection error disturbs a serving engine. -/
theorem lwsCallback_serving {s : State cfg} (h : Serving s) {cb : Callback} (hcb : (Event.callback cb).Serves) :
    Serving (lwsCallback cb s).2 := by
  have hsame := lwsCallback_same cb s
  have hctx : (lwsCallback cb s).2.lwsContext = s.lwsContext := by
    refine lwsCallback_lwsContext (fun w destroying he => ?_) s
    rw [he] at hcb
    exact hcb
  refine ⟨⟨hctx.trans h.lwsContext, hsame.cancel.trans h.cancel, ?_, ?_, ?_, ?_⟩, ?_, ?_⟩
  · rw [hsame.loop]
    exact h.running
  · rw [hsame.loop]
    exact h.service
  · rw [hsame.paramCollection]
    exact h.params
  · exact fun op hop => h.writes op (lwsCallback_writes cb s op hop)
  · rw [hsame.loop]
    exact h.sendResult
  · rw [hsame.loop]
    exact h.pends

/-- **A serving engine goes on serving.** -/
theorem step_serving (s : State cfg) (e : Event) (h : Serving s) (hc : e.Serves) : Serving (step s e) := by
  have huser : e.isUser = true → (∀ timeOut, e ≠ .cancel timeOut) → (∀ op ∈ s.queues e, op.opParam.isTransfer = true) →
      Serving (step s e) := by
    intro hu hnot hqueues
    have hsame := step_sameEngine s hu
    have hcalled := step_userCalled s hu
    refine ⟨⟨hsame.lwsContext.trans h.lwsContext, ?_, ?_, ?_, fun op hop => ?_, ?_⟩, ?_, ?_⟩
    · exact Bool.eq_false_iff.mpr fun hset => ne_true_of_eq_false h.cancel (hcalled.cancel hnot hset)
    · rw [hsame.loop]
      exact h.running
    · rw [hsame.loop]
      exact h.service
    · exact (hcalled.mem_paramCollection hop).elim (h.params op) (hqueues op)
    · rw [hsame.writeOpCollection]
      exact h.writes
    · rw [hsame.loop]
      exact h.sendResult
    · rw [hsame.loop]
      exact h.pends
  have hnone : ∀ op ∈ ([] : List OperationParam), op.opParam.isTransfer = true :=
    fun _ hop => absurd hop List.not_mem_nil
  cases e with
  | program timeOut tick opParam => exact huser rfl (fun _ he => by cases he) fun op hop => eq_of_mem_queues hop ▸ hc
  | cancel timeOut => exact hc.elim
  | collect => exact huser rfl (fun _ he => by cases he) hnone
  | cancelled => exact huser rfl (fun _ he => by cases he) hnone
  | clear | reset => exact huser rfl (fun _ he => by cases he) hnone
  | callback cb =>
    simp only [step, h.lwsContext, if_true]
    exact lwsCallback_serving h hc
  | iterate env =>
    obtain ⟨t, u, -, -, -, hsending, he⟩ := iterate_serving h hc
    rw [step, he]
    exact hsending.serving env

theorem connected_serving : Serving connected :=
  ⟨⟨rfl, rfl, rfl, rfl, by decide +kernel, by decide +kernel⟩, rfl, by decide +kernel⟩

end BofWebRpc.WebSocket
