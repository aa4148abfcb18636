import BofWebRpc.WebSocket.Reports
import BofWebRpc.WebSocket.Timeouts

/-!
# The two completion channels

`OnOperation` and `mpuSocketOperationResultCollection` agree as long as every operation succeeds and every
result belongs to `mCurrentOp_X`. A LISTEN that reports a connection makes its result a CONNECT, and
a command that is popped while another one is pending has the result of that one.

## What is proved

* `onWriteable_announced_iff`, `iterate_announced_iff` — when a writable callback and an iteration announce
  what they push.
* `channels_agree_iff` — in every run without a cancel and with room for the results, each step does so
  exactly when it meets `Announces`.
-/

namespace BofWebRpc.WebSocket

open Runs

variable {cfg : WebSocketParam}

/-! ### The condition -/

/-- `lws_write` takes no more than there is, and all of it or the write is still in time. -/
def WriteOp.Continues (op : WriteOp) (env : WriteEnv) : Prop :=
  0 ≤ env.written ∧ env.written ≤ op.buffer.remainToRead ∧
    (env.written = op.buffer.remainToRead ∨ elapsedMsTime env.tick op.timer ≤ op.timeOut)

instance (op : WriteOp) (env : WriteEnv) : Decidable (op.Continues env) := inferInstanceAs (Decidable (_ ∧ _ ∧ (_ ∨ _)))

/-- The result that is being built is the one of the current operation. -/
def Processing.Own (l : Processing) : Prop :=
  l.result.operation = l.currentOp.operation ∧ l.result.opTicket = l.currentOp.ticket

instance (l : Processing) : Decidable l.Own := inferInstanceAs (Decidable (_ ∧ _))

/-- The operation that an iteration finds pending is in time; a LISTEN has no connection to report, and
any other operation that ends has a result of its own. -/
def State.EndsWell (s : State cfg) (env : LoopEnv) : Prop :=
  (s.loop.listeningMode = true ∨ s.loop.currentOp.operation = .write ∨ s.expires env = false) ∧
    match s.loop.currentOp.opParam with
    | .listen => s.webSocketState.connectDone = false
    | .connect _ => s.webSocketState.connectDone = true → s.loop.Own
    | .disconnect => s.loop.Own
    | .read _ _ => s.rxBufferCollection.popBuffer.isSome = true → s.loop.Own
    | .write _ _ | .exit | .max => True

instance (s : State cfg) (env : LoopEnv) : Decidable (s.EndsWell env) := by
  unfold State.EndsWell
  cases s.loop.currentOp.opParam <;> exact inferInstance

/-- A write that is served continues or succeeds; a command that finds nothing pending succeeds, and so does a
DISCONNECT in any case; what is pending then ends well. -/
def Event.Announces (s : State cfg) : Event → Prop
  | .callback (.writeable _ _ env) => s.lwsContext = true →
    ∀ op ∈ s.writeOpCollection.peek, op.buffer.remainToRead ≠ 0 → op.Continues env
  | .iterate env => s.loop.running = true →
    (∀ op ∈ s.taken, s.loop.ioPending = false ∨ op.opParam = .disconnect → s.succeeds env op.opParam) ∧
      ((s.newCommand env).loop.ioPending = true → (s.newCommand env).EndsWell env)
  | _ => True

instance (s : State cfg) : (e : Event) → Decidable (e.Announces s)
  | .callback (.writeable _ _ _) => inferInstanceAs (Decidable (_ → ∀ _ ∈ _, _ → _))
  | .iterate _ => inferInstanceAs (Decidable (_ → (∀ _ ∈ _, _ → _) ∧ (_ → _)))
  | .callback (.httpBindProtocol _) | .callback (.addHeaders _ _) | .callback (.established _ _ _)
  | .callback (.clientEstablished _ _) | .callback (.receive _ _ _ _ _) | .callback (.clientClosed _)
  | .callback (.closed _) | .callback (.clientConnectionError _ _) | .callback (.other _) => isTrue trivial
  | .program _ _ _ | .collect | .cancelled | .clear | .reset | .cancel _ => isTrue trivial

/-- Nobody cancels, the queue of results has room, and no writable callback runs inside
`lws_client_connect_via_info`. -/
def Event.Unhindered (s : State cfg) : Event → Prop
  | .cancel _ => False
  | .callback (.writeable _ _ _) => s.resultCollection.elements.length < cfg.nbMaxOperationPending + 1
  | .iterate env => s.resultCollection.elements.length < cfg.nbMaxOperationPending + 1 ∧
    ∀ cb ∈ env.connecting, cb.isWriteable = false
  | _ => True

instance (s : State cfg) : (e : Event) → Decidable (e.Unhindered s)
  | .cancel _ => isFalse id
  | .callback (.writeable _ _ _) => inferInstanceAs (Decidable (_ < _))
  | .iterate _ => inferInstanceAs (Decidable (_ ∧ ∀ _ ∈ _, _))
  | .callback (.httpBindProtocol _) | .callback (.addHeaders _ _) | .callback (.established _ _ _)
  | .callback (.clientEstablished _ _) | .callback (.receive _ _ _ _ _) | .callback (.clientClosed _)
  | .callback (.closed _) | .callback (.clientConnectionError _ _) | .callback (.other _) => isTrue trivial
  | .program _ _ _ | .collect | .cancelled | .clear | .reset => isTrue trivial

/-! ### The parts of a step -/

theorem continues_iff (op : WriteOp) (env : WriteEnv) :
    op.Continues env ↔ ∀ sts, op.outcome env = some sts → sts = .noError := by
  simp only [WriteOp.Continues, WriteOp.outcome]
  split_ifs with hbad hall hlate
  · refine ⟨fun h => ?_, fun h => by cases h .write rfl⟩
    rcases hbad with hbad | hbad
    · exact absurd h.1 (Int.not_le.mpr hbad)
    · exact absurd h.2.1 (Int.not_le.mpr hbad)
  · rw [not_or, Int.not_lt, Int.not_lt] at hbad
    exact ⟨fun _ sts hsts => (Option.some.inj hsts).symm, fun _ => ⟨hbad.1, hbad.2, .inl hall⟩⟩
  · refine ⟨fun h => ?_, fun h => by cases h .etimedout rfl⟩
    rcases h.2.2 with h | h
    · exact absurd h hall
    · exact absurd h (Nat.not_le.mpr hlate)
  · rw [not_or, Int.not_lt, Int.not_lt] at hbad
    exact ⟨fun _ sts hsts => hsts.elim, fun _ => ⟨hbad.1, hbad.2, .inr (Nat.not_lt.mp hlate)⟩⟩

/-- **A writable callback** announces what it pushes when the write continues or succeeds. -/
theorem onWriteable_announced_iff (hset : cfg.onOperation = true) {s : State cfg}
    (hroom : s.resultCollection.elements.length < cfg.nbMaxOperationPending + 1) (w : Wsi) (env : WriteEnv) :
    Announced s (s.onWriteable w env) ↔
      ∀ op ∈ s.writeOpCollection.peek, op.buffer.remainToRead ≠ 0 → op.Continues env := by
  simp only [State.onWriteable]
  cases hpeek : s.writeOpCollection.peek with
  | none => exact ⟨fun _ op hop => absurd hop (Option.not_mem_none op), fun _ => SameReports.announced ⟨rfl, rfl⟩⟩
  | some op =>
    simp only [Option.mem_def, Option.some.injEq, forall_eq']
    split_ifs with hrem
    · exact ⟨fun _ hne => absurd hrem hne, fun _ => SameReports.announced ⟨rfl, rfl⟩⟩
    · rw [continues_iff]
      cases hout : op.outcome env with
      | none => exact ⟨fun _ _ sts hsts => absurd hsts (Option.some_ne_none sts).symm,
          fun _ => SameReports.announced ⟨rfl, rfl⟩⟩
      | some sts =>
        have hreport := report_announced_iff hset (s := { s with
          writable := s.writable.filter (· ≠ w)
          history.transmitted := s.history.transmitted ++ [(w, op)] }) hroom (op.finish env sts)
          (op.finish env sts).operation (op.finish env sts).opTicket
        refine (announced_congr ⟨rfl, rfl⟩ ⟨rfl, rfl⟩).trans (hreport.trans ?_)
        constructor
        · rintro ⟨-, -, hok⟩ - sts' hsts'
          cases hsts'
          exact hok
        · exact fun h => ⟨rfl, rfl, h hrem sts rfl⟩

/-- **The end of an iteration** announces what it pushes when the operation is the one of the result, and has
succeeded. -/
theorem endIteration_announced_iff (hset : cfg.onOperation = true) {s : State cfg} (hcancel : s.cancel = false)
    (hroom : s.resultCollection.elements.length < cfg.nbMaxOperationPending + 1) (env : LoopEnv) :
    Announced s (s.endIteration env) ↔ (s.loop.sendResult = true → s.loop.Own ∧ s.loop.result.sts = .noError) := by
  cases hsend : s.loop.sendResult with
  | false =>
    have he : s.endIteration env = s.loopEnd env := by
      simp only [State.endIteration, hcancel, hsend, Bool.false_eq_true, if_false]
    rw [he]
    exact ⟨fun _ hs => absurd hs Bool.false_ne_true, fun _ => (loopEnd_sameReports s env).announced⟩
  | true =>
    have he : s.endIteration env = (s.sendResult env).loopEnd env := by
      simp only [State.endIteration, hcancel, hsend, Bool.false_eq_true, if_false, if_true]
    have hreport := report_announced_iff hset (s := { s with
      loop.sendResult := false
      loop.result.time := elapsedMsTime env.tickSend s.loop.currentOp.timer }) hroom
      { s.loop.result with time := elapsedMsTime env.tickSend s.loop.currentOp.timer }
      s.loop.currentOp.operation s.loop.currentOp.ticket
    obtain ⟨hpushed, hnotified⟩ := loopEnd_sameReports (s.sendResult env) env
    rw [he]
    refine (announced_congr ⟨rfl, rfl⟩ ⟨hpushed.symm, hnotified.symm⟩).trans (hreport.trans ?_)
    constructor
    · rintro ⟨hoperation, hticket, hok⟩ -
      exact ⟨⟨hoperation.symm, hticket.symm⟩, hok⟩
    · exact fun h => ⟨(h rfl).1.1.symm, (h rfl).1.2.symm, (h rfl).2⟩

/-- The clock is read again for a LISTEN that reports a connection only. -/
theorem pending_isOverTime {s : State cfg} {env : LoopEnv}
    (h : s.loop.currentOp.opParam = .listen → s.webSocketState.connectDone = false) (time : ℕ)
    (htime : time = elapsedMsTime env.tickPending (s.pending env).loop.currentOp.timer) :
    ({ s.pending env with loop.result.time := time } : State cfg).isOverTime = false ↔
      s.loop.listeningMode = true ∨ s.loop.currentOp.operation = .write ∨ s.expires env = false := by
  have hsame : (s.pending env).loop.currentOp = s.loop.currentOp ∧
      (s.pending env).loop.listeningMode = s.loop.listeningMode := by
    simp only [State.pending]
    cases hop : s.loop.currentOp.opParam with
    | listen => simp only [h hop, Bool.false_eq_true, if_false, and_self]
    | connect key =>
      dsimp only
      split_ifs <;> exact ⟨rfl, rfl⟩
    | read nb buffer => cases s.rxBufferCollection.popBuffer <;> exact ⟨rfl, rfl⟩
    | disconnect | write _ _ | exit | max => exact ⟨rfl, rfl⟩
  rw [htime, hsame.1]
  simp only [State.isOverTime, hsame.1, hsame.2, State.expires]
  cases s.loop.listeningMode <;> by_cases hwrite : s.loop.currentOp.operation = .write <;> simp [hwrite]

/-- **The pending operation** ends well, and a DISCONNECT has succeeded, when its result is its own and a
success. -/
theorem pendingOperation_endsWell_iff (s : State cfg) (env : LoopEnv) :
    ((s.pendingOperation env).loop.sendResult = true →
        (s.pendingOperation env).loop.Own ∧ (s.pendingOperation env).loop.result.sts = .noError) ↔
      s.EndsWell env ∧ (s.loop.currentOp.opParam = .disconnect → s.loop.result.sts = .noError) := by
  by_cases hlisten : s.loop.currentOp.opParam = .listen → s.webSocketState.connectDone = false
  · have hover := pending_isOverTime hlisten (elapsedMsTime env.tickPending (s.pending env).loop.currentOp.timer) rfl
    obtain ⟨t, rfl, ⟨hin, he⟩ | ⟨hlate, he⟩⟩ := pendingOperation_cases s env
    · rw [he, State.EndsWell]
      simp only [hover.mp hin, true_and, State.pending]
      cases hop : s.loop.currentOp.opParam with
      | listen =>
        simp only [hlisten hop, Bool.false_eq_true, if_false]
        exact ⟨fun _ => ⟨trivial, by rintro ⟨⟩⟩, by rintro - ⟨⟩⟩
      | connect key =>
        dsimp only
        split_ifs with hdone
        · exact ⟨fun h => ⟨fun _ => (h rfl).1, by rintro ⟨⟩⟩, fun h _ => ⟨h.1 hdone, rfl⟩⟩
        · exact ⟨fun _ => ⟨fun hd => absurd hd hdone, by rintro ⟨⟩⟩, by rintro - ⟨⟩⟩
      | disconnect => exact ⟨fun h => ⟨(h rfl).1, fun _ => (h rfl).2⟩, fun h _ => ⟨h.1, h.2 rfl⟩⟩
      | read nb buffer =>
        cases s.rxBufferCollection.popBuffer with
        | none => exact ⟨fun _ => ⟨by rintro ⟨⟩, by rintro ⟨⟩⟩, by rintro - ⟨⟩⟩
        | some found => exact ⟨fun h => ⟨fun _ => (h rfl).1, by rintro ⟨⟩⟩, fun h _ => ⟨h.1 rfl, rfl⟩⟩
      | write nb buffer | exit | max => exact ⟨fun _ => ⟨trivial, by rintro ⟨⟩⟩, by rintro - ⟨⟩⟩
    · rw [he, timeOutOperation_loop]
      constructor
      · intro h
        cases (h rfl).2
      · rintro ⟨⟨hin, -⟩, -⟩
        exact absurd ((hover.mpr hin).symm.trans hlate) Bool.false_ne_true
  · -- a LISTEN reports a connection as a CONNECT
    rw [Classical.not_imp, Bool.not_eq_false] at hlisten
    obtain ⟨hop, hdone⟩ := hlisten
    have hreports : (s.pending env).loop.sendResult = true ∧ (s.pending env).loop.result.operation = .connect ∧
        (s.pending env).loop.currentOp.operation = .listen := by
      simp only [State.pending, hop, hdone, if_true, OperationParam.operation, OpParam.operation, and_self]
    have hnot : ¬ s.EndsWell env := by
      rintro ⟨-, hquiet⟩
      simp only [hop, hdone] at hquiet
      cases hquiet
    refine ⟨fun h => ?_, fun h => absurd h.1 hnot⟩
    obtain ⟨t, rfl, ⟨-, he⟩ | ⟨-, he⟩⟩ := pendingOperation_cases s env
    · rw [he] at h
      have hown := (h hreports.1).1.1
      simp only [hreports.2.1, hreports.2.2] at hown
      cases hown
    · rw [he, timeOutOperation_loop] at h
      cases (h rfl).2

/-! ### Iterations -/

/-- A command keeps the operation, its result is still its own, and nothing is taken back. -/
theorem command_operation (s : State cfg) (env : LoopEnv) :
    (s.command env).loop.currentOp.opParam = s.loop.currentOp.opParam ∧
      (s.command env).loop.result.operation = s.loop.result.operation ∧
      (s.command env).loop.sendResult = s.loop.sendResult ∧ (s.command env).loop.ioPending = s.loop.ioPending := by
  have hsame : ∀ (t : State cfg) (sts : BofErr), t.loop = s.loop →
      (t.setSts sts).loop.currentOp.opParam = s.loop.currentOp.opParam ∧
        (t.setSts sts).loop.result.operation = s.loop.result.operation ∧
        (t.setSts sts).loop.sendResult = s.loop.sendResult ∧ (t.setSts sts).loop.ioPending = s.loop.ioPending := by
    intro t sts ht
    simp only [State.setSts, ht, and_self]
  have hgone : ∀ t : State cfg, (t.clientDisconnect env.destroying).loop = t.loop := fun t =>
    (clientDisconnect_same t env.destroying).1.loop
  unfold State.command
  split
  · simp only [State.commandListen]
    split_ifs
    · exact hsame s _ rfl
    · exact ⟨rfl, rfl, rfl, rfl⟩
    · exact hsame _ _ (hgone { s with webSocketState.connectDone := false })
    · exact hsame s _ rfl
  · rw [State.commandConnect]
    split
    · exact hsame s _ rfl
    · split
      · split
        · exact hsame _ _ (callbacks_same env.connecting ({ s with lwsContext := true } : State cfg)).loop
        · exact hsame _ _ (hgone s)
      · exact hsame s _ rfl
  · simp only [State.commandDisconnect]
    split_ifs
    · exact hsame s _ rfl
    · exact hsame _ _ (hgone s)
    · exact hsame s _ rfl
  · exact ⟨rfl, rfl, rfl, rfl⟩
  · exact ⟨rfl, rfl, rfl, rfl⟩
  · rcases commandWrite_cases s env _ _ with ⟨sts, -, he⟩ | ⟨data, q, -, -, he⟩ <;> rw [he] <;> exact hsame _ _ rfl
  · exact ⟨rfl, rfl, rfl, rfl⟩

/-- Between two iterations nothing is left to be sent, nobody cancels, and no DISCONNECT is pending. -/
structure Quiescent (s : State cfg) : Prop where
  sendResult : s.loop.sendResult = false
  cancel : s.cancel = false
  pending : s.loop.ioPending = true →
    s.loop.currentOp.opParam ≠ .disconnect ∧ s.loop.result.operation ≠ .disconnect

/-- A command that is executed succeeds as `succeeds` says, and is pending then, as is what was pending. -/
theorem takeCommand_popped (s : State cfg) (op : OperationParam) (env : LoopEnv) :
    (((s.popped op).takeCommand env).loop.result.sts = .noError ↔ s.succeeds env op.opParam) ∧
      ((s.popped op).takeCommand env).loop.currentOp.opParam = op.opParam ∧
      ((s.popped op).takeCommand env).loop.result.operation = op.operation ∧
      ((s.popped op).takeCommand env).loop.sendResult = true ∧
      (((s.popped op).takeCommand env).loop.ioPending = true ↔
        s.loop.ioPending = true ∨ ((s.popped op).takeCommand env).loop.result.sts = .noError) := by
  have hsucceeds : ((s.popped op).beginCommand env).succeeds env op.opParam ↔ s.succeeds env op.opParam := by
    cases op.opParam <;> exact Iff.rfl
  have hsts := (command_succeeds_iff ((s.popped op).beginCommand env) env).trans hsucceeds
  obtain ⟨hop, hoperation, hsend, hp⟩ := command_operation ((s.popped op).beginCommand env) env
  rw [takeCommand_eq]
  refine ⟨hsts, hop, hoperation, hsend, ?_⟩
  simp only [Bool.or_eq_true, decide_eq_true_eq, hp]
  exact Iff.rfl

/-- When the pending operation is looked at, the DISCONNECT that it may be has succeeded, unless it was taken
with another operation pending. -/
theorem newCommand_disconnect_iff {s : State cfg} (h : Quiescent s) (env : LoopEnv)
    (hp : (s.newCommand env).loop.ioPending = true) (hends : (s.newCommand env).EndsWell env) :
    ((s.newCommand env).loop.currentOp.opParam = .disconnect → (s.newCommand env).loop.result.sts = .noError) ↔
      ∀ op ∈ s.taken, s.loop.ioPending = false ∨ op.opParam = .disconnect → s.succeeds env op.opParam := by
  rcases newCommand_cases s env with ⟨hnone, he⟩ | ⟨op, -, ⟨hpending, hlistening, he⟩ | ⟨htaken, he⟩⟩
  · have htaken : s.taken = none := by rw [State.taken, Fifo.peek_eq_none_iff.mpr hnone, ite_self]
    rw [he] at hp ⊢
    rw [htaken]
    refine ⟨fun _ op hop => absurd hop (Option.not_mem_none op), fun _ hdisconnect => ?_⟩
    simp only at hdisconnect
    split_ifs at hdisconnect
    · exact absurd hdisconnect (h.pending hp).1
    · cases hdisconnect
  · have htaken : s.taken = none := by
      simp only [State.taken, hpending, hlistening, Bool.not_true, Bool.or_self, Bool.false_eq_true, if_false]
    rw [he] at hends ⊢
    rw [htaken]
    refine ⟨fun _ op hop => absurd hop (Option.not_mem_none op), fun _ hdisconnect => ?_⟩
    -- the result is still the one of the operation before
    have hown := hends.2
    rw [hdisconnect] at hown
    have hoperation : s.loop.result.operation = op.operation := hown.1
    have hdisconnect : op.opParam = .disconnect := hdisconnect
    rw [OperationParam.operation, hdisconnect] at hoperation
    exact absurd hoperation (h.pending hpending).2
  · obtain ⟨hsts, hop, -, -, hpending⟩ := takeCommand_popped s op env
    rw [he] at hp ⊢
    simp only [htaken, Option.mem_def, Option.some.injEq, forall_eq', hop]
    constructor
    · rintro hok (hidle | hdisconnect)
      · exact hsts.mp ((hpending.mp hp).resolve_left (ne_true_of_eq_false hidle))
      · exact hsts.mp (hok hdisconnect)
    · exact fun hok hdisconnect => hsts.mpr (hok (.inr hdisconnect))

/-- **An iteration** announces what it pushes when `Announces` says so. -/
theorem iterate_announced_iff (hset : cfg.onOperation = true) {s : State cfg} (h : Quiescent s) {env : LoopEnv}
    (hu : (Event.iterate env).Unhindered s) : Announced s (s.iterate env) ↔ (Event.iterate env).Announces s := by
  cases hrun : s.loop.running with
  | false =>
    rw [iterate_of_stopped hrun]
    exact ⟨fun _ hr => absurd (hrun.symm.trans hr) Bool.false_ne_true, fun _ => (SameReports.refl s).announced⟩
  | true =>
    obtain ⟨hroom, hconnecting⟩ := hu
    obtain ⟨⟨hpushed, hnotified⟩, hresults⟩ := beforeCancel_sameReports s env hconnecting
    have hcancel := (beforeCancel_sameSignals s env).cancel.trans h.cancel
    have hend := endIteration_announced_iff hset hcancel (hresults ▸ hroom) env
    have hannounces : (Event.iterate env).Announces s ↔
        (∀ op ∈ s.taken, s.loop.ioPending = false ∨ op.opParam = .disconnect → s.succeeds env op.opParam) ∧
          ((s.newCommand env).loop.ioPending = true → (s.newCommand env).EndsWell env) :=
      ⟨fun ha => ha hrun, fun ha _ => ha⟩
    rw [iterate_eq hrun, hannounces]
    have hsame : SameReports s (s.beforeCancel env) := ⟨hpushed, hnotified⟩
    refine (announced_congr hsame (.refl _)).trans (hend.trans ?_)
    simp only [State.beforeCancel]
    cases hp : (s.newCommand env).loop.ioPending with
    | true =>
      simp only [if_true, forall_true_left]
      rw [pendingOperation_endsWell_iff]
      constructor
      · exact fun hends => ⟨(newCommand_disconnect_iff h env hp hends.1).mp hends.2, hends.1⟩
      · exact fun hends => ⟨hends.2, (newCommand_disconnect_iff h env hp hends.2).mpr hends.1⟩
    | false =>
      simp only [Bool.false_eq_true, if_false, false_implies, and_true]
      rcases newCommand_cases s env with ⟨hnone, he⟩ | ⟨op, -, ⟨hpending, -, he⟩ | ⟨htaken, he⟩⟩
      · have htaken : s.taken = none := by rw [State.taken, Fifo.peek_eq_none_iff.mpr hnone, ite_self]
        rw [he, htaken]
        exact ⟨fun _ op hop => absurd hop (Option.not_mem_none op),
          fun _ hsend => absurd (h.sendResult.symm.trans hsend) Bool.false_ne_true⟩
      · rw [he] at hp
        exact absurd (hp.symm.trans hpending) Bool.false_ne_true
      · -- a command that is not pending has failed
        obtain ⟨hsts, -, -, hsend, hpending⟩ := takeCommand_popped s op env
        rw [he] at hp ⊢
        have hfailed := not_or.mp (mt hpending.mpr (ne_true_of_eq_false hp))
        simp only [htaken, Option.mem_def, Option.some.injEq, forall_eq']
        constructor
        · exact fun hok => absurd (hok hsend).2 hfailed.2
        · exact fun hok => absurd (hsts.mpr (hok (.inl (Bool.eq_false_iff.mpr hfailed.1)))) hfailed.2

/-! ### Runs -/

theorem operation_eq_disconnect {p : OpParam} (h : p.operation = .disconnect) : p = .disconnect := by
  cases p with
  | disconnect => rfl
  | listen | connect _ | write _ _ | read _ _ | exit | max => cases h

/-- An operation that is still pending is no DISCONNECT; a LISTEN may have made its result a CONNECT. -/
theorem pendingOperation_operation {s : State cfg} (env : LoopEnv)
    (hp : (s.pendingOperation env).loop.ioPending = true) :
    s.loop.currentOp.opParam ≠ .disconnect ∧
      (s.pendingOperation env).loop.currentOp.opParam = s.loop.currentOp.opParam ∧
      ((s.pendingOperation env).loop.result.operation = s.loop.result.operation ∨
        (s.pendingOperation env).loop.result.operation = .connect) := by
  obtain ⟨t, rfl, ⟨-, he⟩ | ⟨-, he⟩⟩ := pendingOperation_cases s env
  · rw [he] at hp ⊢
    simp only [State.pending] at hp ⊢
    cases hop : s.loop.currentOp.opParam with
    | listen =>
      dsimp only
      split_ifs
      · exact ⟨by rintro ⟨⟩, rfl, .inr rfl⟩
      · exact ⟨by rintro ⟨⟩, hop, .inl rfl⟩
    | connect key =>
      dsimp only
      split_ifs <;> exact ⟨by rintro ⟨⟩, hop, .inl rfl⟩
    | read nb buffer => cases s.rxBufferCollection.popBuffer <;> exact ⟨by rintro ⟨⟩, hop, .inl rfl⟩
    | disconnect =>
      rw [hop] at hp
      cases hp
    | write _ _ | exit | max => exact ⟨by rintro ⟨⟩, hop, .inl rfl⟩
  · rw [he, timeOutOperation_loop] at hp
    cases hp

theorem iterate_quiescent {s : State cfg} (h : Quiescent s) (env : LoopEnv) : Quiescent (s.iterate env) := by
  rcases iterate_cases s env with ⟨-, he⟩ | ⟨-, hcancel, -⟩ | ⟨hrun, hcancel, hsame⟩
  · rw [he]
    exact h
  · exact absurd (h.cancel.symm.trans hcancel) Bool.false_ne_true
  · obtain ⟨time, running, service, hloop⟩ :=
      endIteration_loop ((beforeCancel_sameSignals s env).cancel.trans hcancel) env
    have hnew : (s.newCommand env).loop.ioPending = true → (s.newCommand env).loop.result.operation = .disconnect →
        (s.newCommand env).loop.currentOp.opParam = .disconnect := by
      rcases newCommand_cases s env with ⟨-, he⟩ | ⟨op, -, ⟨hp, -, he⟩ | ⟨-, he⟩⟩
      · rw [he]
        exact fun hp hdisconnect => absurd hdisconnect (h.pending hp).2
      · rw [he]
        exact fun _ hdisconnect => absurd hdisconnect (h.pending hp).2
      · obtain ⟨-, hop, hoperation, -⟩ := takeCommand_popped s op env
        rw [he, hop, hoperation]
        exact fun _ hdisconnect => operation_eq_disconnect hdisconnect
    refine ⟨?_, hsame.cancel.trans hcancel, ?_⟩ <;> rw [iterate_eq hrun, hloop]
    simp only [State.beforeCancel]
    split_ifs with hp
    · intro hstill
      obtain ⟨hnot, hop, hoperation⟩ := pendingOperation_operation env hstill
      rw [hop]
      refine ⟨hnot, fun hdisconnect => ?_⟩
      rcases hoperation with hoperation | hoperation
      · exact hnot (hnew hp (hoperation.symm.trans hdisconnect))
      · rw [hoperation] at hdisconnect
        cases hdisconnect
    · exact fun hstill => absurd hstill hp

theorem step_quiescent (s : State cfg) (e : Event) (h : Quiescent s) (hu : e.Unhindered s) : Quiescent (step s e) := by
  have hquiet : (step s e).loop = s.loop → (step s e).cancel = false → Quiescent (step s e) := by
    intro hloop hcancel
    refine ⟨?_, hcancel, ?_⟩ <;> rw [hloop]
    · exact h.sendResult
    · exact h.pending
  have huser : e.isUser = true → (∀ timeOut, e ≠ .cancel timeOut) → Quiescent (step s e) := fun hu hnot =>
    hquiet (step_sameEngine s hu).loop (Bool.eq_false_iff.mpr fun hset =>
      ne_true_of_eq_false h.cancel ((step_userCalled s hu).cancel hnot hset))
  cases e with
  | iterate env => exact iterate_quiescent h env
  | cancel timeOut => exact absurd hu id
  | callback cb =>
    refine hquiet ?_ ?_ <;> simp only [step] <;> split_ifs
    · exact (lwsCallback_same cb s).loop
    · rfl
    · exact (lwsCallback_same cb s).cancel.trans h.cancel
    · exact h.cancel
  | program timeOut tick opParam => exact huser rfl fun _ he => by cases he
  | collect => exact huser rfl fun _ he => by cases he
  | cancelled => exact huser rfl fun _ he => by cases he
  | clear => exact huser rfl fun _ he => by cases he
  | reset => exact huser rfl fun _ he => by cases he

/-- **One event** announces what it pushes when `Announces` says so. -/
theorem step_announced_iff (hset : cfg.onOperation = true) (s : State cfg) (e : Event) (h : Quiescent s)
    (hu : e.Unhindered s) : Announced s (step s e) ↔ e.Announces s := by
  have hquiet : SameReports s (step s e) → e.Announces s → (Announced s (step s e) ↔ e.Announces s) :=
    fun hsame hannounces => ⟨fun _ => hannounces, fun _ => hsame.announced⟩
  have huser : e.isUser = true → SameReports s (step s e) := by
    intro hu
    have hhistory := (step_sameEngine s hu).history
    exact ⟨by rw [hhistory], by rw [hhistory]⟩
  cases e with
  | iterate env => exact iterate_announced_iff hset h hu
  | callback cb =>
    cases hctx : s.lwsContext with
    | false =>
      have he : step s (.callback cb) = s := by simp only [step, hctx, Bool.false_eq_true, if_false]
      rw [he]
      refine ⟨fun _ => ?_, fun _ => (SameReports.refl s).announced⟩
      cases cb with
      | writeable side w env => exact fun hlive => absurd (hctx.symm.trans hlive) Bool.false_ne_true
      | httpBindProtocol _ | addHeaders _ _ | established _ _ _ | clientEstablished _ _ | receive _ _ _ _ _
      | clientClosed _ | closed _ | clientConnectionError _ _ | other _ => trivial
    | true =>
      have he : step s (.callback cb) = (lwsCallback cb s).2 := by simp only [step, hctx, if_true]
      rw [he]
      cases cb with
      | writeable side w env =>
        exact (onWriteable_announced_iff hset hu w env).trans ⟨fun hok _ => hok, fun hok => hok hctx⟩
      | httpBindProtocol _ | addHeaders _ _ | established _ _ _ | clientEstablished _ _ | receive _ _ _ _ _
      | clientClosed _ | closed _ | clientConnectionError _ _ | other _ =>
        exact ⟨fun _ => trivial, fun _ => (lwsCallback_sameReports rfl s).1.announced⟩
  | program timeOut tick opParam => exact hquiet (huser rfl) trivial
  | collect => exact hquiet (huser rfl) trivial
  | cancel timeOut => exact hquiet (huser rfl) trivial
  | cancelled => exact hquiet (huser rfl) trivial
  | clear => exact hquiet (huser rfl) trivial
  | reset => exact hquiet (huser rfl) trivial

/-- **The two channels agree** in every run in which nobody cancels and the results have room: each step announces
what it pushes, and nothing else, if and only if each step meets `Announces`. -/
theorem channels_agree_iff (hset : cfg.onOperation = true) (es : List Event)
    (h : Meets step (fun s e => e.Unhindered s) (State.start : State cfg) es) :
    Meets step (fun s e => Announced s (step s e)) (State.start : State cfg) es ↔
      Meets step (fun s e => e.Announces s) (State.start : State cfg) es :=
  meets_iff step_quiescent (step_announced_iff hset) es _ ⟨rfl, rfl, by rintro ⟨⟩⟩ h

/-- A client with `OnOperation`. -/
def announcing : WebSocketParam := { client with onOperation := true }

/-- It connects, and writes a byte. -/
theorem channels_agree_iff_write :
    Meets step (fun s e => Announced s (step s e)) (State.start : State announcing)
      (connectAndWrite 1 ++ [oneByteSent 1]) := by
  have hunhindered : Meets step (fun s e => e.Unhindered s) (State.start : State announcing)
      (connectAndWrite 1 ++ [oneByteSent 1]) := by decide +kernel
  have hannounces : Meets step (fun s e => e.Announces s) (State.start : State announcing)
      (connectAndWrite 1 ++ [oneByteSent 1]) := by decide +kernel
  exact (channels_agree_iff rfl _ hunhindered).mpr hannounces

/-- A READ without a connection: `enotconn` is pushed, and a success announced. -/
theorem not_channels_agree :
    ¬ ∀ (cfg : WebSocketParam) (es : List Event), cfg.onOperation = true →
      Meets step (fun s e => e.Unhindered s) (State.start : State cfg) es →
      Meets step (fun s e => Announced s (step s e)) (State.start : State cfg) es := by
  intro h
  obtain ⟨-, ⟨new, hpushed, hnotified⟩, -⟩ := h announcing [.program 1000 0 (.read 4 true), .iterate (.at 0 1)] rfl
    (by decide +kernel)
  have hnew : new = [{ OperationResult.reset with operation := .read, opTicket := 1, sts := .enotconn }] := by
    refine Eq.trans (List.nil_append new).symm (Eq.trans hpushed.symm ?_)
    decide +kernel
  rw [hnew] at hnotified
  exact absurd hnotified (by decide +kernel)

end BofWebRpc.WebSocket
