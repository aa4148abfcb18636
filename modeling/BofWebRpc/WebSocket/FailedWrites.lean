import BofWebRpc.WebSocket.Results

/-!
# Writes that are reported as failed

A WRITE can fail in four places: there is no connection, a parameter is not valid, the queue of
writes is full, or `lws_callback_on_writable` refuses. The last one comes after the payload has been
queued, and nothing takes it back.

## What is proved

* `exec_handed` — what a run hands to `lws_write` was queued before, or is queued by a WRITE of the run.
* `failed_write_dropped_iff` — hence a WRITE whose failure is reported is never transmitted, exactly when
  it was not `lws_callback_on_writable` that refused.
-/

namespace BofWebRpc.WebSocket

open Runs

variable {cfg : WebSocketParam}

/-! ### Where the writes that are transmitted come from -/

/-- From `s` to `t`, the writes `new` have been queued; no other one is in the queue or has been
handed to `lws_write`, but those that were in the queue. -/
structure Handed (s t : State cfg) (new : List WriteOp) : Prop where
  queued : ∀ op ∈ t.writeOpCollection.elements, op ∈ s.writeOpCollection.elements ∨ op ∈ new
  transmitted : ∃ sent, t.history.transmitted = s.history.transmitted ++ sent ∧
    ∀ x ∈ sent, x.2 ∈ s.writeOpCollection.elements ∨ x.2 ∈ new

theorem SameWrites.handed {s t : State cfg} (h : SameWrites s t) : Handed s t [] :=
  ⟨fun _ hop => .inl (h.writeOpCollection ▸ hop), [], by rw [h.transmitted, List.append_nil],
    fun _ hx => absurd hx List.not_mem_nil⟩

theorem Handed.trans {s t u : State cfg} {new new' : List WriteOp} (h : Handed s t new) (h' : Handed t u new') :
    Handed s u (new ++ new') := by
  have hqueue : ∀ op, op ∈ t.writeOpCollection.elements ∨ op ∈ new' →
      op ∈ s.writeOpCollection.elements ∨ op ∈ new ++ new' := by
    intro op hop
    rw [List.mem_append]
    rcases hop with hop | hop
    · exact (h.queued op hop).imp id .inl
    · exact .inr (.inr hop)
  obtain ⟨sent, hsent, hfrom⟩ := h.transmitted
  obtain ⟨sent', hsent', hfrom'⟩ := h'.transmitted
  refine ⟨fun op hop => hqueue op (h'.queued op hop), sent ++ sent', by rw [hsent', hsent, List.append_assoc], ?_⟩
  intro x hx
  rcases List.mem_append.mp hx with hx | hx
  · exact (hfrom x hx).imp id (List.mem_append_left _)
  · exact hqueue x.2 (hfrom' x hx)

theorem lwsCallback_handed (cb : Callback) (s : State cfg) : Handed s (lwsCallback cb s).2 [] := by
  by_cases hw : ∃ side w env, cb = .writeable side w env
  · obtain ⟨side, w, env, rfl⟩ := hw
    refine ⟨fun op hop => .inl (lwsCallback_writes _ s op hop), ?_⟩
    simp only [lwsCallback]
    rcases onWriteable_cases s w env with ⟨he, -⟩ | ⟨op, hpeek, -, ⟨-, he⟩ | ⟨sts, q, pushed, notified, -, -, he⟩⟩
    · rw [he]
      exact ⟨[], by simp, by simp⟩
    -- only the head of the queue is handed over
    all_goals
      have hop : op ∈ s.writeOpCollection.elements := Fifo.peek_eq_some_iff.mp hpeek ▸ List.mem_cons_self
      rw [he]
      exact ⟨[(w, op)], rfl, fun x hx => .inl (List.mem_singleton.mp hx ▸ hop)⟩
  · exact (lwsCallback_sameWrites (fun side w env he => hw ⟨side, w, env, he⟩) s).handed

theorem callbacks_handed (cbs : List Callback) (s : State cfg) : Handed s (callbacks cbs s) [] := by
  induction cbs generalizing s with
  | nil => exact (SameWrites.refl s).handed
  | cons cb cbs ih => exact (lwsCallback_handed cb s).trans (ih _)

/-- The write that the current command queues. -/
def State.commandQueues (s : State cfg) : List WriteOp :=
  match s.loop.currentOp.opParam with
  | .write nb (some data) => if s.acceptsWrite nb (some data) then [s.newWriteOp nb data] else []
  | _ => []

/-- The write that an event queues. -/
def State.queuesWrite (s : State cfg) : Event → List WriteOp
  | .iterate env =>
    match s.taken with
    | some op => if s.loop.running then ((s.popped op).beginCommand env).commandQueues else []
    | none => []
  | _ => []

/-- The calls of the user queue commands only. -/
theorem queuesWrite_user (s : State cfg) {e : Event} (h : e.isUser = true) : s.queuesWrite e = [] := by
  cases e with
  | callback cb | iterate env => cases h
  | program _ _ _ | collect | cancel _ | cancelled | clear | reset => rfl

theorem clientDisconnect_handed (s : State cfg) (ws : List Wsi) : Handed s (s.clientDisconnect ws) [] :=
  (clientDisconnect_same s ws).2.handed

theorem command_handed (s : State cfg) (env : LoopEnv) : Handed s (s.command env) s.commandQueues := by
  have hsame : Handed s s [] := (SameWrites.refl s).handed
  have hgone := clientDisconnect_handed s env.destroying
  unfold State.command State.commandQueues
  cases hparam : s.loop.currentOp.opParam with
  | listen =>
    simp only [State.commandListen]
    split_ifs
    · exact ⟨hsame.queued, hsame.transmitted⟩
    · exact ⟨hsame.queued, hsame.transmitted⟩
    · have h := clientDisconnect_handed ({ s with webSocketState.connectDone := false } : State cfg) env.destroying
      exact ⟨h.queued, h.transmitted⟩
    · exact ⟨hsame.queued, hsame.transmitted⟩
  | connect key =>
    dsimp only
    rw [State.commandConnect]
    split
    · exact ⟨hsame.queued, hsame.transmitted⟩
    · split
      · split
        · have h := callbacks_handed env.connecting ({ s with lwsContext := true } : State cfg)
          exact ⟨h.queued, h.transmitted⟩
        · exact ⟨hgone.queued, hgone.transmitted⟩
      · exact ⟨hsame.queued, hsame.transmitted⟩
  | disconnect =>
    simp only [State.commandDisconnect]
    split_ifs
    · exact ⟨hsame.queued, hsame.transmitted⟩
    · exact ⟨hgone.queued, hgone.transmitted⟩
    · exact ⟨hsame.queued, hsame.transmitted⟩
  | write nb buffer =>
    dsimp only
    rcases commandWrite_cases s env nb buffer with ⟨sts, -, he⟩ | ⟨data, q, haccepts, hq, he⟩
    · rw [he]
      refine ⟨fun op hop => .inl hop, hsame.transmitted.imp fun sent h => ⟨h.1, fun x hx => ?_⟩⟩
      exact .inl ((h.2 x hx).resolve_right List.not_mem_nil)
    · obtain ⟨data', q', rfl, hq', he'⟩ := commandWrite_of_accepts haccepts env
      simp only [he', haccepts, if_true]
      refine ⟨fun op hop => ?_, [], by simp [State.setSts, State.callbackOnWritable], by simp⟩
      rw [← List.mem_append, ← (Fifo.push_eq_some_iff.mp hq').2]
      exact hop
  | read nb buffer | exit | max => exact ⟨hsame.queued, hsame.transmitted⟩

theorem iterate_handed (s : State cfg) (env : LoopEnv) : Handed s (s.iterate env) (s.queuesWrite (.iterate env)) := by
  cases hrun : s.loop.running with
  | false =>
    rw [iterate_of_stopped hrun, State.queuesWrite]
    cases s.taken <;> simp only [hrun, Bool.false_eq_true, if_false] <;> exact (SameWrites.refl s).handed
  | true =>
    have hnew : Handed s (s.newCommand env) (s.queuesWrite (.iterate env)) := by
      rw [State.queuesWrite]
      rcases newCommand_cases s env with ⟨hnone, he⟩ | ⟨op, -, ⟨hp, hl, he⟩ | ⟨htaken, he⟩⟩
      · have htaken : s.taken = none := by rw [State.taken, Fifo.peek_eq_none_iff.mpr hnone, ite_self]
        rw [he, htaken]
        exact SameWrites.handed ⟨rfl, rfl, rfl, rfl⟩
      · have htaken : s.taken = none := by simp [State.taken, hp, hl]
        rw [he, htaken]
        exact SameWrites.handed ⟨rfl, rfl, rfl, rfl⟩
      · have h := command_handed ((s.popped op).beginCommand env) env
        simp only [htaken, hrun, if_true]
        rw [he, takeCommand_eq]
        exact ⟨h.queued, h.transmitted⟩
    have hpending : Handed (s.newCommand env) (s.beforeCancel env) [] := (beforeCancel_sameWrites s env).handed
    have hend : Handed (s.beforeCancel env) ((s.beforeCancel env).endIteration env) [] := by
      obtain ⟨hwrites, htransmitted⟩ := endIteration_writes (s.beforeCancel env) env
      refine ⟨fun op hop => .inl ?_, [], by rw [htransmitted, List.append_nil], by simp⟩
      rw [hwrites] at hop
      split_ifs at hop
      · exact absurd hop List.not_mem_nil
      · exact hop
    have hall := hnew.trans (hpending.trans hend)
    rw [List.append_nil, List.append_nil] at hall
    rw [iterate_eq hrun]
    exact hall

theorem step_handed (s : State cfg) (e : Event) : Handed s (step s e) (s.queuesWrite e) := by
  cases e using Event.byCause with
  | user e hu =>
    have hsame := step_sameEngine s hu
    rw [queuesWrite_user s hu]
    refine ⟨fun op hop => .inl (hsame.writeOpCollection ▸ hop), [], ?_, by simp⟩
    rw [hsame.history, List.append_nil]
  | iterate env => exact iterate_handed s env
  | callback cb =>
    simp only [step, State.queuesWrite]
    split_ifs
    · exact lwsCallback_handed cb s
    · exact (SameWrites.refl s).handed

/-- The writes that a run queues. -/
def queuedBy : State cfg → List Event → List WriteOp
  | _, [] => []
  | s, e :: es => s.queuesWrite e ++ queuedBy (step s e) es

/-- **What a run transmits** was in the queue, or is queued by the run. -/
theorem exec_handed (es : List Event) (s : State cfg) : Handed s (exec step s es) (queuedBy s es) := by
  induction es generalizing s with
  | nil => exact (SameWrites.refl s).handed
  | cons e es ih => exact (step_handed s e).trans (ih _)

/-! ### A WRITE that fails -/

/-- The iteration pushes a result that reports the WRITE `op` as failed. -/
def State.ReportsFailure (s : State cfg) (env : LoopEnv) (op : OperationParam) : Prop :=
  ∃ r, (s.iterate env).history.pushed = s.history.pushed ++ [r] ∧
    r.operation = .write ∧ r.opTicket = op.ticket ∧ r.sts ≠ .noError

/-- From `s` to `t` nothing has been queued, and no later run hands anything to `lws_write` but what
was in the queue and what its own WRITEs queue. -/
structure Dropped (s t : State cfg) : Prop where
  queue : t.writeOpCollection.elements <+: s.writeOpCollection.elements
  later : ∀ es, ∃ sent, (exec step t es).history.transmitted = t.history.transmitted ++ sent ∧
    ∀ x ∈ sent, x.2 ∈ s.writeOpCollection.elements ∨ x.2 ∈ queuedBy t es

/-- The WRITE of `nb` bytes is accepted and queued, `lws_callback_on_writable` refuses, and the failure
is reported: no LISTEN is pending, nobody cancels, and the result has a place. -/
structure State.RefusedLate (s : State cfg) (env : LoopEnv) (nb : ℕ) (buffer : Option (List UInt8)) : Prop where
  running : s.loop.running = true
  accepts : s.acceptsWrite nb buffer = true
  refused : env.onWritable = false
  idle : s.loop.ioPending = false
  cancel : s.cancel = false
  room : s.resultCollection.elements.length < cfg.nbMaxOperationPending + 1

theorem dropped_of_queue {s t : State cfg} (h : t.writeOpCollection.elements <+: s.writeOpCollection.elements) :
    Dropped s t := by
  refine ⟨h, fun es => ?_⟩
  obtain ⟨sent, hsent, hfrom⟩ := (exec_handed es t).transmitted
  exact ⟨sent, hsent, fun x hx => (hfrom x hx).imp (fun hx => h.subset hx) id⟩

section Write

variable {s : State cfg} (env : LoopEnv) {op : OperationParam} {nb : ℕ} {buffer : Option (List UInt8)}
  (htaken : s.taken = some op) (hop : op.opParam = .write nb buffer)

include htaken hop

/-- The WRITE is refused, and not queued; or it is queued, and pending when a writable callback is granted. -/
theorem newCommand_write :
    (s.newCommand env).loop.currentOp.operation = .write ∧
      (s.newCommand env).resultCollection = s.resultCollection ∧
      (s.newCommand env).history.pushed = s.history.pushed ∧
      ((s.acceptsWrite nb buffer = false ∧ (s.newCommand env).writeOpCollection = s.writeOpCollection) ∨
        (s.acceptsWrite nb buffer = true ∧
          (∃ new, (s.newCommand env).writeOpCollection.elements = s.writeOpCollection.elements ++ [new]) ∧
          (s.newCommand env).loop.ioPending = (s.loop.ioPending || env.onWritable) ∧
          (s.newCommand env).loop.sendResult = true ∧ (s.newCommand env).loop.result.operation = .write ∧
          (s.newCommand env).loop.result.opTicket = op.ticket ∧
          (env.onWritable = false → (s.newCommand env).loop.result.sts = .operationFailed))) := by
  have hoperation : op.operation = .write := by rw [OperationParam.operation, hop]; rfl
  have hcommand : ((s.popped op).beginCommand env).command env =
      ((s.popped op).beginCommand env).commandWrite env nb buffer := by
    have hparam : ((s.popped op).beginCommand env).loop.currentOp.opParam = .write nb buffer := hop
    rw [State.command, hparam]
  have hnew : s.newCommand env = { ((s.popped op).beginCommand env).commandWrite env nb buffer with
      loop.ioPending := (((s.popped op).beginCommand env).commandWrite env nb buffer).loop.ioPending ||
        decide ((((s.popped op).beginCommand env).commandWrite env nb buffer).loop.result.sts = .noError) } := by
    rw [newCommand_of_taken htaken, takeCommand_eq, hcommand]
  have haccepts : ((s.popped op).beginCommand env).acceptsWrite nb buffer = s.acceptsWrite nb buffer := rfl
  cases ha : s.acceptsWrite nb buffer with
  | false =>
    rcases commandWrite_cases ((s.popped op).beginCommand env) env nb buffer with
      ⟨sts, hsts, he⟩ | ⟨data, q, ha', -, -⟩
    · rw [he] at hnew
      rw [hnew]
      exact ⟨hoperation, rfl, rfl, .inl ⟨rfl, rfl⟩⟩
    · exact absurd (ha'.symm.trans (haccepts.trans ha)) (by decide)
  | true =>
    obtain ⟨data, q, -, hq, he⟩ := commandWrite_of_accepts (haccepts.trans ha) env
    rw [he] at hnew
    rw [hnew]
    refine ⟨hoperation, rfl, rfl, .inr ⟨rfl, ⟨_, (Fifo.push_eq_some_iff.mp hq).2⟩, ?_, rfl, hoperation, rfl, ?_⟩⟩
    · cases env.onWritable <;> rfl
    · intro hrefused
      rw [hrefused]
      rfl

omit htaken hop in
/-- A WRITE that is pending, or that is looked at in the place of a LISTEN, sends no result. -/
theorem beforeCancel_silent (hcurrent : (s.newCommand env).loop.currentOp.operation = .write)
    (hp : (s.newCommand env).loop.ioPending = true) : (s.beforeCancel env).loop.sendResult = false := by
  obtain ⟨time, he⟩ := pendingOperation_write env hcurrent
  rw [State.beforeCancel, if_pos hp, he]

/-- The iteration executes the WRITE: it is not queued; no result is sent for it; or it is queued although
it fails, with nothing else pending. -/
theorem beforeCancel_write :
    (s.beforeCancel env).resultCollection = s.resultCollection ∧
      (s.beforeCancel env).history.pushed = s.history.pushed ∧
      (((s.beforeCancel env).writeOpCollection = s.writeOpCollection ∧ s.acceptsWrite nb buffer = false) ∨
        ((s.beforeCancel env).loop.sendResult = false ∧ (env.onWritable = true ∨ s.loop.ioPending = true)) ∨
        (s.acceptsWrite nb buffer = true ∧ env.onWritable = false ∧ s.loop.ioPending = false ∧
          (∃ new, (s.beforeCancel env).writeOpCollection.elements = s.writeOpCollection.elements ++ [new]) ∧
          (s.beforeCancel env).loop.sendResult = true ∧ (s.beforeCancel env).loop.result.operation = .write ∧
          (s.beforeCancel env).loop.result.opTicket = op.ticket ∧
          (s.beforeCancel env).loop.result.sts = .operationFailed)) := by
  obtain ⟨hcurrent, hresults, hpushed, hwrite⟩ := newCommand_write env htaken hop
  have hsame := beforeCancel_sameWrites s env
  refine ⟨hsame.resultCollection.trans hresults, hsame.pushed.trans hpushed, ?_⟩
  rcases hwrite with ⟨ha, hqueue⟩ | ⟨ha, hqueue, hpending, hsend, hoperation, hticket, hsts⟩
  · exact .inl ⟨hsame.writeOpCollection.trans hqueue, ha⟩
  refine .inr ?_
  cases hp : s.loop.ioPending || env.onWritable with
  | true =>
    refine .inl ⟨beforeCancel_silent env hcurrent (hpending.trans hp), ?_⟩
    rcases Bool.or_eq_true_iff.mp hp with hp | hgranted
    · exact .inr hp
    · exact .inl hgranted
  | false =>
    obtain ⟨hidle, hrefused⟩ := Bool.or_eq_false_iff.mp hp
    have hbefore : s.beforeCancel env = s.newCommand env := by
      rw [State.beforeCancel, hpending.trans hp]
      rfl
    rw [hbefore]
    exact .inr ⟨ha, hrefused, hidle, hqueue, hsend, hoperation, hticket, hsts hrefused⟩

/-- **A WRITE that is reported as failed** is not transmitted, unless `lws_callback_on_writable` was what
refused it. -/
theorem failed_write_dropped_iff :
    (s.ReportsFailure env op → Dropped s (s.iterate env)) ↔ ¬ s.RefusedLate env nb buffer := by
  cases hrun : s.loop.running with
  | false =>
    refine ⟨fun _ h => absurd (h.running.symm.trans hrun) (by decide), fun _ _ => ?_⟩
    rw [iterate_of_stopped hrun]
    exact dropped_of_queue (List.prefix_refl _)
  | true =>
    obtain ⟨hresults, hpushed, hcases⟩ := beforeCancel_write env htaken hop
    have hcancel := (beforeCancel_sameSignals s env).cancel
    have hwrites := (endIteration_writes (s.beforeCancel env) env).1
    have hsends := endIteration_sends_iff
      (Q := fun r => r.operation = .write ∧ r.opTicket = op.ticket ∧ r.sts ≠ .noError) (fun _ _ => Iff.rfl)
      (s.beforeCancel env) env
    rw [← iterate_eq hrun] at hwrites hsends
    rw [hresults, hpushed, hcancel] at hsends
    rw [hcancel] at hwrites
    rcases hcases with ⟨hqueue, hnot⟩ | ⟨hsend, hquiet⟩ | ⟨ha, hgranted, hidle, ⟨new, hqueue⟩, hfailed⟩
    · refine ⟨fun _ h => absurd (h.accepts.symm.trans hnot) (by decide), fun _ _ => dropped_of_queue ?_⟩
      rw [hwrites, hqueue]
      split_ifs
      · exact List.nil_prefix
      · exact List.prefix_refl _
    · refine ⟨fun _ h => ?_, fun _ hreports => ?_⟩
      · rcases hquiet with hgranted | hp
        · exact absurd (h.refused.symm.trans hgranted) (by decide)
        · exact absurd (h.idle.symm.trans hp) (by decide)
      · exact absurd (hsend.symm.trans (hsends.mp hreports).2.2.1) (by decide)
    · obtain ⟨hsend, hoperation, hticket, hsts⟩ := hfailed
      have hfails : (s.beforeCancel env).loop.result.sts ≠ .noError := by
        rw [hsts]
        decide
      constructor
      · intro h hlate
        have hreports := hsends.mpr ⟨hlate.cancel, hlate.room, hsend, hoperation, hticket, hfails⟩
        have hprefix := (h hreports).queue.length_le
        rw [hwrites, hlate.cancel, if_neg Bool.false_ne_true, hqueue, List.length_append, List.length_singleton]
          at hprefix
        omega
      · intro hnot hreports
        obtain ⟨hcancel, hroom, -⟩ := hsends.mp hreports
        exact absurd ⟨hrun, ha, hgranted, hidle, hcancel, hroom⟩ hnot

end Write

/-- A client that is not connected programs a WRITE. -/
def writeUnconnected : State client := exec step .start [.program 1000 0 (.write 1 (some [65]))]

/-- Its failure is reported, and the payload is not queued. -/
theorem failed_write_dropped_unconnected :
    ∃ op, writeUnconnected.taken = some op ∧ writeUnconnected.ReportsFailure (.at 0 1) op ∧
      Dropped writeUnconnected (writeUnconnected.iterate (.at 0 1)) := by
  have htaken : writeUnconnected.taken = some ⟨1, 1000, 0, .write 1 (some [65])⟩ := by decide
  have hnot : ¬ writeUnconnected.RefusedLate (.at 0 1) 1 (some [65]) := fun h => absurd h.accepts (by decide)
  have hreports : writeUnconnected.ReportsFailure (.at 0 1) ⟨1, 1000, 0, .write 1 (some [65])⟩ :=
    ⟨_, rfl, rfl, rfl, by decide⟩
  exact ⟨_, htaken, hreports, (failed_write_dropped_iff (.at 0 1) htaken rfl).mpr hnot hreports⟩

/-- The client is connected and programs a WRITE. -/
def writeConnected : State client := exec step connected [.program 1000 0 (.write 1 (some [65]))]

/-- No writable callback is granted. -/
def refused : LoopEnv := { LoopEnv.at 0 1 with onWritable := false }

/-- The WRITE is reported as failed, and its payload stays in the queue. -/
theorem failed_write_kept :
    ¬ ∀ (s : State client) (env : LoopEnv) (op : OperationParam), s.taken = some op → op.operation = .write →
      s.ReportsFailure env op → Dropped s (s.iterate env) := by
  intro h
  have htaken : writeConnected.taken = some ⟨2, 1000, 0, .write 1 (some [65])⟩ := by decide
  have hdropped := h writeConnected refused _ htaken rfl ⟨_, rfl, rfl, rfl, by decide⟩
  exact absurd hdropped.queue.length_le (by decide)

/-- The next writable callback transmits it, and its ticket gets a second result. -/
example : (exec step writeConnected [.iterate refused, oneByteSent 1]).history.pushed.map
    (fun r => (r.opTicket, r.sts)) = [(1, .noError), (2, .operationFailed), (2, .noError)] := by
  decide

end BofWebRpc.WebSocket
