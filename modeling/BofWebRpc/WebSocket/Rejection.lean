import BofWebRpc.WebSocket.Handles
import BofWebRpc.WebSocket.Listening
import BofWebRpc.WebSocket.Results

/-!
# Rejected operations

A server rejects an operation by the status it gives the result; whether that result is sent is
left to the flags that the operation shares with the one that is pending.

## What is proved

* `command_rejected` — a rejected command changes its status only.
* `rejected_iff` — the result is sent, and nothing else happens, exactly when no operation is
  pending; a DISCONNECT may find one pending that is not the LISTEN.
-/

namespace BofWebRpc.WebSocket

open Runs

variable {cfg : WebSocketParam}

/-! ### The validation -/

/-- The status with which a server rejects an operation, if it does. -/
def State.rejects (s : State cfg) : OpParam → Option BofErr
  | .listen => if s.loop.listeningMode = false ∧ s.lwsContext = false then none else some .invalidState
  | .connect _ | .disconnect => some .wrongMode
  | .exit => none
  | .read nb buffer =>
    if s.isConnected then (if buffer = true ∧ nb ≠ 0 then none else some .einval) else some .enotconn
  | .write nb buffer =>
    if s.isConnected then (if buffer.isSome = true ∧ nb ≠ 0 then none else some .einval) else some .enotconn
  | .max => some .invalidCommand

theorem rejects_ne_noError {s : State cfg} {opParam : OpParam} {sts : BofErr} (h : s.rejects opParam = some sts) :
    sts ≠ .noError := by
  rintro rfl
  cases opParam with
  | listen =>
    simp only [State.rejects] at h
    split_ifs at h
    cases h
  | read nb buffer | write nb buffer =>
    simp only [State.rejects] at h
    split_ifs at h <;> cases h
  | connect key | disconnect | exit | max => cases h

/-- **A rejected command** changes its status only. -/
theorem command_rejected (hserver : cfg.nbMaxClient ≠ 0) {s : State cfg} (env : LoopEnv) {sts : BofErr}
    (h : s.rejects s.loop.currentOp.opParam = some sts) : s.command env = s.setSts sts := by
  unfold State.command
  cases hop : s.loop.currentOp.opParam with
  | listen =>
    simp only [hop, State.rejects] at h
    split_ifs at h with hidle
    cases h
    simp only [State.commandListen, if_neg hserver, if_neg hidle]
  | connect key =>
    simp only [hop, State.rejects, Option.some.injEq] at h
    simp only [State.commandConnect, if_pos hserver, h]
  | disconnect =>
    simp only [hop, State.rejects, Option.some.injEq] at h
    simp only [State.commandDisconnect, if_pos hserver, h]
  | exit => simp [hop, State.rejects] at h
  | read nb buffer =>
    simp only [hop, State.rejects] at h
    simp only [State.commandRead]
    split_ifs at h ⊢ <;> cases h <;> rfl
  | write nb buffer =>
    simp only [hop, State.rejects] at h
    cases hconnected : s.isConnected with
    | false =>
      simp only [hconnected, Bool.false_eq_true, if_false, Option.some.injEq] at h
      simp only [State.commandWrite, hconnected, h]
    | true =>
      simp only [hconnected, if_true] at h
      split_ifs at h with hvalid
      cases h
      cases buffer with
      | none => simp only [State.commandWrite, hconnected]
      | some data =>
        have hzero : nb = 0 := by simpa using hvalid
        simp only [State.commandWrite, hconnected, hzero]
  | max =>
    simp only [hop, State.rejects, Option.some.injEq] at h
    rw [h]

/-! ### The states of a server -/

/-- There is no context, no connection, and nothing pending. -/
structure Silent (s : State cfg) : Prop where
  lwsContext : s.lwsContext = false
  pWebSocket : s.webSocketState.pWebSocket = none
  ioPending : s.loop.ioPending = false

/-- A server that does not listen is silent. -/
def ListensFirst (s : State cfg) : Prop := s.loop.listeningMode = false → Silent s

/-- What drops the connection and leaves the flags alone. -/
theorem ListensFirst.drops {s t : State cfg} (h : ListensFirst s) (hdrops : Drops s t)
    (hlistening : t.loop.listeningMode = s.loop.listeningMode)
    (hpending : s.loop.ioPending = false → t.loop.ioPending = false) : ListensFirst t := by
  intro hl
  obtain ⟨hctx, hw, hidle⟩ := h (hlistening.symm.trans hl)
  rcases hdrops with ⟨hctx', hw'⟩ | ⟨hctx', hw'⟩
  · exact ⟨hctx'.trans hctx, hw'.trans hw, hpending hidle⟩
  · exact ⟨hctx', hw', hpending hidle⟩

/-- After a command the server listens; or the command has failed and the server is silent. -/
theorem command_silent (hserver : cfg.nbMaxClient ≠ 0) {s : State cfg} (h : ListensFirst s) (env : LoopEnv)
    (hl : (s.command env).loop.listeningMode = false) :
    Silent (s.command env) ∧ (s.command env).loop.result.sts ≠ .noError := by
  have hsame : ∀ sts, sts ≠ .noError → s.loop.listeningMode = false →
      Silent (s.setSts sts) ∧ (s.setSts sts).loop.result.sts ≠ .noError := by
    intro sts hsts hl
    obtain ⟨hctx, hw, hidle⟩ := h hl
    exact ⟨⟨hctx, hw, hidle⟩, hsts⟩
  -- without a connection no READ and no WRITE is accepted
  have hoffline : s.loop.listeningMode = false → s.isConnected = false := by
    intro hl
    simp only [State.isConnected, if_neg hserver, (h hl).pWebSocket]
    rfl
  unfold State.command at hl ⊢
  cases hop : s.loop.currentOp.opParam with
  | listen =>
    simp only [hop, State.commandListen, if_neg hserver] at hl ⊢
    split_ifs at hl ⊢ with hidle hcreate
    · have hloop := (clientDisconnect_same ({ s with webSocketState.connectDone := false } : State cfg)
        env.destroying).1.loop
      refine ⟨⟨clientDisconnect_lwsContext _ env.destroying, rfl, ?_⟩, fun he => by cases he⟩
      simp only [State.setSts, hloop]
      exact (h hidle.1).ioPending
    · exact hsame _ (fun he => by cases he) hl
  | connect key =>
    simp only [hop, State.commandConnect, if_pos hserver] at hl ⊢
    exact hsame _ (fun he => by cases he) hl
  | disconnect =>
    simp only [hop, State.commandDisconnect, if_pos hserver] at hl ⊢
    exact hsame _ (fun he => by cases he) hl
  | exit =>
    simp only [hop] at hl ⊢
    obtain ⟨hctx, hw, hidle⟩ := h hl
    exact ⟨⟨hctx, hw, hidle⟩, fun he => by cases he⟩
  | read nb buffer =>
    simp only [hop, State.commandRead] at hl ⊢
    rw [if_neg (ne_true_of_eq_false (hoffline hl))]
    exact hsame _ (fun he => by cases he) hl
  | write nb buffer =>
    simp only [hop] at hl ⊢
    rcases commandWrite_cases s env nb buffer with ⟨sts, hsts, he⟩ | ⟨data, q, haccepts, -, he⟩ <;> rw [he] at hl ⊢
    · exact hsame sts hsts hl
    · simp [State.acceptsWrite, hoffline hl] at haccepts
  | max =>
    simp only [hop] at hl ⊢
    exact hsame _ (fun he => by cases he) hl

theorem newCommand_listensFirst (hserver : cfg.nbMaxClient ≠ 0) {s : State cfg} (h : ListensFirst s) (env : LoopEnv) :
    ListensFirst (s.newCommand env) := by
  rcases newCommand_cases s env with ⟨-, he⟩ | ⟨op, -, ⟨-, -, he⟩ | ⟨-, he⟩⟩
  · rw [he]
    exact h.drops (.inl ⟨rfl, rfl⟩) rfl id
  · rw [he]
    exact h.drops (.inl ⟨rfl, rfl⟩) rfl id
  · have hbegun : ListensFirst ((s.popped op).beginCommand env) := h.drops (.inl ⟨rfl, rfl⟩) rfl id
    rw [he, takeCommand_eq]
    intro hl
    obtain ⟨⟨hctx, hw, hidle⟩, hsts⟩ := command_silent hserver hbegun env hl
    exact ⟨hctx, hw, by simp only [hidle, hsts, decide_false, Bool.or_false]⟩

theorem iterate_listensFirst (hserver : cfg.nbMaxClient ≠ 0) {s : State cfg} (h : ListensFirst s) (env : LoopEnv) :
    ListensFirst (s.iterate env) := by
  cases hrun : s.loop.running with
  | false =>
    rw [iterate_of_stopped hrun]
    exact h
  | true =>
    have hnew := newCommand_listensFirst hserver h env
    have hbefore : ListensFirst (s.beforeCancel env) := by
      simp only [State.beforeCancel]
      split_ifs with hp
      · -- what is pending is pending on a listening server
        intro hl
        rw [pendingOperation_listeningMode] at hl
        exact absurd ((hnew hl).ioPending.symm.trans hp) Bool.false_ne_true
      · exact hnew
    have hend : ∀ t : State cfg, ListensFirst t → ListensFirst (t.loopEnd env) := by
      intro t ht
      refine ht.drops (loopEnd_drops t env) ?_ ?_ <;> simp only [State.loopEnd] <;> split_ifs
      · rfl
      · rw [(clientDisconnect_same t env.destroying).1.loop]
      · exact id
      · rw [(clientDisconnect_same t env.destroying).1.loop]
        exact id
    rw [iterate_eq hrun]
    simp only [State.endIteration]
    apply hend
    have hblock : ListensFirst
        (if (s.beforeCancel env).cancel then (s.beforeCancel env).cancelBlock else s.beforeCancel env) := by
      split_ifs
      · intro hl
        exact ⟨(hbefore hl).lwsContext, rfl, rfl⟩
      · exact hbefore
    generalize (if (s.beforeCancel env).cancel then (s.beforeCancel env).cancelBlock else s.beforeCancel env) = t
      at hblock ⊢
    split_ifs
    · obtain ⟨time, q, pushed, notified, hsent, -⟩ := sendResult_eq t env
      rw [hsent]
      exact hblock.drops (.inl ⟨rfl, rfl⟩) rfl id
    · exact hblock

/-- **A server listens first**: without a LISTEN there is nothing to connect and nothing to wait for. -/
theorem step_listensFirst (hserver : cfg.nbMaxClient ≠ 0) (s : State cfg) (e : Event) (h : ListensFirst s) :
    ListensFirst (step s e) := by
  cases e using Event.byCause with
  | user e hu =>
    have hsame := step_sameEngine s hu
    refine h.drops (.inl ⟨hsame.lwsContext, by rw [hsame.webSocketState]⟩) ?_ ?_ <;> rw [hsame.loop]
    exact id
  | iterate env => exact iterate_listensFirst hserver h env
  | callback cb =>
    simp only [step]
    split_ifs with hctx
    · intro hl
      rw [(lwsCallback_same cb s).loop] at hl
      exact absurd ((h hl).lwsContext.symm.trans hctx) Bool.false_ne_true
    · exact h

/-! ### A rejected operation -/

/-- The connections, the writes and what has been received are the same: no operation has begun. -/
structure SameIo (s t : State cfg) : Prop where
  lwsContext : t.lwsContext = s.lwsContext
  webSocketState : t.webSocketState = s.webSocketState
  clientCollection : t.clientCollection = s.clientCollection
  session : t.session = s.session
  writeOpCollection : t.writeOpCollection = s.writeOpCollection
  writable : t.writable = s.writable
  rxBufferCollection : t.rxBufferCollection = s.rxBufferCollection

/-- The iteration that rejects `op` with the status `sts` answers it, and does nothing else. -/
structure Rejected (s : State cfg) (op : OperationParam) (sts : BofErr) (env : LoopEnv) : Prop where
  /-- One result is pushed, for the ticket and with the status. -/
  result : ∃ r, (s.iterate env).history.pushed = s.history.pushed ++ [r] ∧ r.opTicket = op.ticket ∧ r.sts = sts
  /-- Up to the end of the iteration. -/
  io : SameIo s (s.beforeCancel env)
  listen : s.listenPending = true → (s.iterate env).listenPending = true

/-- What rejected operations need: nobody cancels, the result has a place, and no operation is pending; a
DISCONNECT only minds a LISTEN. -/
def State.CanReject (s : State cfg) (op : OperationParam) : Prop :=
  (s.loop.ioPending = false ∨ (op.opParam = .disconnect ∧ s.listenPending = false)) ∧ s.cancel = false ∧
    s.resultCollection.elements.length < cfg.nbMaxOperationPending + 1

instance (s : State cfg) (op : OperationParam) : Decidable (s.CanReject op) := inferInstanceAs (Decidable (_ ∧ _ ∧ _))

/-- The head of the iteration in which a server rejects `op`. -/
theorem newCommand_rejected (hserver : cfg.nbMaxClient ≠ 0) {s : State cfg} (env : LoopEnv) {op : OperationParam}
    {sts : BofErr} (htaken : s.taken = some op) (hrejects : s.rejects op.opParam = some sts) :
    s.newCommand env = { ((s.popped op).beginCommand env).setSts sts with loop.ioPending := s.loop.ioPending } := by
  have hrejects : ((s.popped op).beginCommand env).rejects op.opParam = some sts := hrejects
  have hsts := rejects_ne_noError hrejects
  rw [newCommand_of_taken htaken, takeCommand_eq, command_rejected hserver env hrejects]
  have hfailed : decide ((((s.popped op).beginCommand env).setSts sts).loop.result.sts = .noError) = false :=
    decide_eq_false hsts
  rw [hfailed, Bool.or_false]
  rfl

/-- Another operation is pending: it is the rejected one that is looked at, and only a DISCONNECT keeps
its result. -/
theorem pendingOperation_rejected {s : State cfg} (env : LoopEnv) (hlistening : s.loop.listeningMode = true)
    (hnot : s.loop.currentOp.opParam ≠ .disconnect) :
    (s.pendingOperation env).loop.sendResult = true → (s.pendingOperation env).loop.result.sts = .noError := by
  by_cases hop : s.loop.currentOp.opParam = .listen
  · obtain ⟨time, he⟩ := pendingOperation_listen env hop hlistening
    rw [he]
    split_ifs
    · exact fun _ => rfl
    · exact fun hsend => by cases hsend
  · have hlisten : s.loop.currentOp.operation ≠ .listen := by
      unfold OperationParam.operation
      cases hparam : s.loop.currentOp.opParam with
      | listen => exact absurd hparam hop
      | connect _ | disconnect | write _ _ | read _ _ | exit | max => exact fun he => by cases he
    have hdisconnect : s.loop.currentOp.operation ≠ .disconnect := by
      unfold OperationParam.operation
      cases hparam : s.loop.currentOp.opParam with
      | disconnect => exact absurd hparam hnot
      | connect _ | listen | write _ _ | read _ _ | exit | max => exact fun he => by cases he
    obtain ⟨hkept, hsts⟩ := pending_kept env hlisten
    obtain ⟨t, rfl, ⟨-, he⟩ | ⟨hover, -⟩⟩ := pendingOperation_cases s env
    · rw [he]
      exact fun hsend => (hsts hsend).resolve_left hdisconnect
    · simp only [State.isOverTime, hkept.listeningMode, hlistening] at hover
      cases hover

/-- A DISCONNECT ends what is pending. -/
theorem pendingOperation_disconnect {s : State cfg} (env : LoopEnv) (hlistening : s.loop.listeningMode = true)
    (hop : s.loop.currentOp.opParam = .disconnect) :
    ∃ time, s.pendingOperation env =
      { s with loop := { s.loop with result.time := time, sendResult := true, ioPending := false } } := by
  obtain ⟨t, rfl, ⟨-, he⟩ | ⟨hover, -⟩⟩ := pendingOperation_cases s env
  · simp only [State.pending, hop] at he
    exact ⟨_, he⟩
  · simp [State.isOverTime, State.pending, hop, hlistening] at hover

section Iteration

variable (hserver : cfg.nbMaxClient ≠ 0) {s : State cfg} (env : LoopEnv) {op : OperationParam} {sts : BofErr}
  (hrun : s.loop.running = true) (htaken : s.taken = some op) (hrejects : s.rejects op.opParam = some sts)

include hserver hrun htaken hrejects

/-- The result is the one that the pending operation leaves, if it is sent. -/
theorem rejected_result_iff :
    (∃ r, (s.iterate env).history.pushed = s.history.pushed ++ [r] ∧ r.opTicket = op.ticket ∧ r.sts = sts) ↔
      s.cancel = false ∧ s.resultCollection.elements.length < cfg.nbMaxOperationPending + 1 ∧
        (s.beforeCancel env).loop.sendResult = true ∧ (s.beforeCancel env).loop.result.opTicket = op.ticket ∧
          (s.beforeCancel env).loop.result.sts = sts := by
  obtain ⟨hresults, hpushed⟩ := beforeCancel_results s env
  rw [newCommand_rejected hserver env htaken hrejects] at hresults hpushed
  have hsends := endIteration_sends_iff (Q := fun r => r.opTicket = op.ticket ∧ r.sts = sts) (fun _ _ => Iff.rfl)
    (s.beforeCancel env) env
  rw [← iterate_eq hrun, hresults, hpushed, (beforeCancel_sameSignals s env).cancel] at hsends
  exact hsends

/-- Nothing is pending: the command sends its result. -/
theorem rejected_iff_of_idle (hp : s.loop.ioPending = false) : Rejected s op sts env ↔ s.CanReject op := by
  have hresult := rejected_result_iff hserver env hrun htaken hrejects
  have hbefore : s.beforeCancel env =
      { ((s.popped op).beginCommand env).setSts sts with loop.ioPending := s.loop.ioPending } := by
    rw [State.beforeCancel, newCommand_rejected hserver env htaken hrejects]
    simp only [hp, Bool.false_eq_true, if_false]
  have hlisten : s.listenPending = false := by rw [State.listenPending, hp, Bool.false_and]
  rw [hbefore] at hresult
  constructor
  · intro h
    obtain ⟨hcancel, hroom, -⟩ := hresult.mp h.result
    exact ⟨.inl hp, hcancel, hroom⟩
  · rintro ⟨-, hcancel, hroom⟩
    refine ⟨hresult.mpr ⟨hcancel, hroom, rfl, rfl, rfl⟩, ?_,
      fun hl => absurd (hlisten.symm.trans hl) Bool.false_ne_true⟩
    rw [hbefore]
    exact ⟨rfl, rfl, rfl, rfl, rfl, rfl, rfl⟩

/-- An operation is pending: a DISCONNECT ends it, anything else is looked at in its place. -/
theorem rejected_iff_of_pending (hp : s.loop.ioPending = true) : Rejected s op sts env ↔ s.CanReject op := by
  have hnew := newCommand_rejected hserver env htaken hrejects
  have hresult := rejected_result_iff hserver env hrun htaken hrejects
  have hlistening : (s.newCommand env).loop.listeningMode = true := by
    simp only [State.taken, hp, Bool.not_true, Bool.false_or] at htaken
    split_ifs at htaken with hl
    rw [hnew]
    exact hl
  have hbefore : s.beforeCancel env = (s.newCommand env).pendingOperation env := by
    rw [State.beforeCancel, hnew]
    simp only [hp, if_true]
  by_cases hop : op.opParam = .disconnect
  · obtain ⟨time, hended⟩ := pendingOperation_disconnect env hlistening (by rw [hnew]; exact hop)
    rw [hnew] at hended hbefore
    rw [hbefore, hended] at hresult
    constructor
    · intro h
      obtain ⟨hcancel, hroom, -⟩ := hresult.mp h.result
      refine ⟨.inr ⟨hop, ?_⟩, hcancel, hroom⟩
      -- the iteration has ended what was pending
      by_contra hl
      have hl := h.listen (Bool.not_eq_false _ ▸ hl)
      obtain ⟨time, running, service, hloop⟩ := endIteration_loop
        ((beforeCancel_sameSignals s env).cancel.trans hcancel) env
      rw [State.listenPending, iterate_eq hrun, hloop, hbefore, hended] at hl
      cases hl
    · rintro ⟨hcond, hcancel, hroom⟩
      have hlisten := (hcond.resolve_left (ne_false_of_eq_true hp)).2
      refine ⟨hresult.mpr ⟨hcancel, hroom, rfl, rfl, rfl⟩, ?_,
        fun hl => absurd (hlisten.symm.trans hl) Bool.false_ne_true⟩
      rw [hbefore, hended]
      exact ⟨rfl, rfl, rfl, rfl, rfl, rfl, rfl⟩
  · constructor
    · intro h
      obtain ⟨-, -, hsend, -, hfailed⟩ := hresult.mp h.result
      rw [hbefore] at hsend hfailed
      have hok := pendingOperation_rejected env hlistening (by rw [hnew]; exact hop) hsend
      exact absurd (hfailed.symm.trans hok) (rejects_ne_noError hrejects)
    · rintro ⟨hcond, -⟩
      rcases hcond with hidle | ⟨hdisconnect, -⟩
      · exact absurd hidle (ne_false_of_eq_true hp)
      · exact absurd hdisconnect hop

end Iteration

/-- **Rejected operations** in every run of a server: the iteration that rejects one answers it, and does nothing
else, if and only if nobody cancels, the result has a place, and no operation is pending, which for a
DISCONNECT may be any but the LISTEN. -/
theorem rejected_iff (hserver : cfg.nbMaxClient ≠ 0) (es : List Event) (env : LoopEnv) {op : OperationParam}
    {sts : BofErr} (hrun : (exec step (State.start : State cfg) es).loop.running = true)
    (hop : (exec step (State.start : State cfg) es).paramCollection.peek = some op)
    (hrejects : (exec step (State.start : State cfg) es).rejects op.opParam = some sts) :
    Rejected (exec step (State.start : State cfg) es) op sts env ↔
      (exec step (State.start : State cfg) es).CanReject op := by
  have hlistens : ListensFirst (exec step (State.start : State cfg) es) :=
    exec_inv (P := fun _ _ => True) (fun s e h _ => step_listensFirst hserver s e h) es _
      (fun _ => ⟨rfl, rfl, rfl⟩) (meets_true step es _)
  generalize exec step (State.start : State cfg) es = s at hrun hop hrejects hlistens ⊢
  have hfree : (!s.loop.ioPending || s.loop.listeningMode) = true := by
    cases hl : s.loop.listeningMode with
    | true => rw [Bool.or_true]
    | false => rw [(hlistens hl).ioPending]; rfl
  have htaken : s.taken = some op := by rw [State.taken, if_pos hfree, hop]
  cases hp : s.loop.ioPending with
  | false => exact rejected_iff_of_idle hserver env hrun htaken hrejects hp
  | true => exact rejected_iff_of_pending hserver env hrun htaken hrejects hp

/-- A server that has not been told to listen rejects a WRITE. -/
theorem rejected_iff_write :
    Rejected (exec step (State.start : State server) [.program 1000 0 (.write 1 (some [65]))])
      { ticket := 1, timeOut := 1000, timer := 0, opParam := .write 1 (some [65]) } .enotconn (.at 0 1) :=
  (rejected_iff (by decide) [.program 1000 0 (.write 1 (some [65]))] (.at 0 1) (by decide) (by decide +kernel)
    (by decide +kernel)).mpr (by decide +kernel)

/-- A CONNECT on a listening server is not answered at all. -/
theorem not_rejected :
    ¬ ∀ (cfg : WebSocketParam) (es : List Event) (env : LoopEnv) (op : OperationParam) (sts : BofErr),
      cfg.nbMaxClient ≠ 0 → (exec step (State.start : State cfg) es).loop.running = true →
      (exec step (State.start : State cfg) es).paramCollection.peek = some op →
      (exec step (State.start : State cfg) es).rejects op.opParam = some sts →
      Rejected (exec step (State.start : State cfg) es) op sts env := by
  intro h
  obtain ⟨⟨r, hr, -⟩, -, -⟩ := h server (Event.execute 0 0 .listen ++ [.program 1000 0 (.connect ['k'])]) (.at 0 1)
    { ticket := 2, timeOut := 1000, timer := 0, opParam := .connect ['k'] } .wrongMode (by decide) (by decide +kernel)
    (by decide +kernel) (by decide +kernel)
  have hlength := congrArg List.length hr
  rw [List.length_append, List.length_singleton] at hlength
  exact absurd hlength (by decide +kernel)

end BofWebRpc.WebSocket
