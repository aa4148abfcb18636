import BofWebRpc.WebSocket.Results

/-!
# A READ that is over time

`PopBuffer` comes before the test of the deadline, and the test is made whether a message has
been found or not.

## What is proved

* `step_notListening` — a client never listens.
* `read_reported_iff` — a READ reports a timeout only when it has taken no message, and success
  when it has taken one, exactly when a message is found in time, no cancel is requested, the
  result has a place and is the one of this READ.
-/

namespace BofWebRpc.WebSocket

open Runs Reassembly

variable {cfg : WebSocketParam}

/-! ### A client does not listen -/

theorem newCommand_notListening (hclient : cfg.nbMaxClient = 0) (s : State cfg) (env : LoopEnv) :
    (s.newCommand env).loop.listeningMode = s.loop.listeningMode := by
  rcases newCommand_cases s env with ⟨-, he⟩ | ⟨op, -, ⟨-, -, he⟩ | ⟨-, he⟩⟩
  · rw [he]
  · rw [he]
    rfl
  · obtain ⟨sts, running, hloop⟩ := command_loop hclient ((s.popped op).beginCommand env) env
    rw [he, takeCommand_eq]
    simp only [hloop]
    rfl

theorem iterate_notListening (hclient : cfg.nbMaxClient = 0) (s : State cfg) (env : LoopEnv) :
    (s.iterate env).loop.listeningMode = s.loop.listeningMode := by
  cases hrun : s.loop.running with
  | false => rw [iterate_of_stopped hrun]
  | true =>
    refine Eq.trans ?_ (newCommand_notListening hclient s env)
    refine iterate_rule (R := fun s t : State cfg => t.loop.listeningMode = s.loop.listeningMode) (fun _ => rfl)
      (fun h h' => h'.trans h) (fun s => pendingOperation_listeningMode s env) (fun _ => rfl) ?_ ?_ hrun
    · intro s
      obtain ⟨time, q, pushed, notified, hsent, -⟩ := sendResult_eq s env
      rw [hsent]
    · intro s
      simp only [State.loopEnd]
      split_ifs
      · rfl
      · rw [(clientDisconnect_same s env.destroying).1.loop]

/-- **A client never listens.** -/
theorem step_notListening (hclient : cfg.nbMaxClient = 0) (s : State cfg) (e : Event) :
    (step s e).loop.listeningMode = s.loop.listeningMode := by
  cases e using Event.byCause with
  | user e hu => rw [(step_sameEngine s hu).loop]
  | iterate env => exact iterate_notListening hclient s env
  | callback cb =>
    simp only [step]
    split_ifs
    · rw [(lwsCallback_same cb s).loop]
    · rfl

theorem notListening (hclient : cfg.nbMaxClient = 0) (es : List Event) :
    (exec step (State.start : State cfg) es).loop.listeningMode = false :=
  exec_inv (P := fun _ _ => True) (I := fun s => s.loop.listeningMode = false)
    (fun s e h _ => (step_notListening hclient s e).trans h) es _ rfl (meets_true step es _)

/-! ### A pending READ -/

/-- The operation that is pending is over time when it is looked at. -/
def State.expires (s : State cfg) (env : LoopEnv) : Bool :=
  decide (s.loop.currentOp.timeOut < elapsedMsTime env.tickPending s.loop.currentOp.timer)

/-- **A READ finds a message**: it takes it out, and reports it if it is in time. -/
theorem pendingOperation_popped {s : State cfg} (env : LoopEnv) (hlistening : s.loop.listeningMode = false) {nb : ℕ}
    {buffer : Bool} (hop : s.loop.currentOp.opParam = .read nb buffer) {m : Message} {rx : RawBuffer Fragment}
    (hpop : s.rxBufferCollection.popBuffer = some (m, rx)) :
    ∃ loop, s.pendingOperation env = { s with rxBufferCollection := rx, loop := loop } ∧ loop.sendResult = true ∧
      loop.result.sts = if s.expires env then .etimedout else .noError := by
  have hnot : s.loop.currentOp.operation ≠ .connect := by simp [OperationParam.operation, hop, OpParam.operation]
  have hread : s.loop.currentOp.operation = .read := by simp [OperationParam.operation, hop, OpParam.operation]
  obtain ⟨t, rfl, ⟨hover, he⟩ | ⟨hover, he⟩⟩ := pendingOperation_cases s env
  · simp only [State.isOverTime, State.pending, hop, hpop, hlistening, hread] at hover
    have hin : s.expires env = false := hover
    simp only [State.pending, hop, hpop] at he
    refine ⟨_, he, rfl, ?_⟩
    simp only [hin, Bool.false_eq_true, if_false]
  · simp only [State.isOverTime, State.pending, hop, hpop, hlistening, hread] at hover
    have hlate : s.expires env = true := hover
    simp only [State.pending, hop, hpop, State.timeOutOperation, if_neg hnot] at he
    refine ⟨_, he, rfl, ?_⟩
    simp only [hlate, if_true]

/-- Without a message a READ leaves the receive buffer alone. -/
theorem pendingOperation_waits {s : State cfg} (env : LoopEnv) {nb : ℕ} {buffer : Bool}
    (hop : s.loop.currentOp.opParam = .read nb buffer) (hpop : s.rxBufferCollection.popBuffer = none) :
    (s.pendingOperation env).rxBufferCollection = s.rxBufferCollection := by
  obtain ⟨rx, loop, he, -, -, -, -, -, hout⟩ := pendingOperation_read env hop
  rw [he]
  rcases hout with ⟨-, hrx, -⟩ | ⟨m, hm, -⟩
  · exact hrx
  · rw [hpop] at hm
    cases hm

/-! ### What is reported -/

/-- What an iteration from `s` reports of the READ that is pending in it. -/
structure ReadReported (s : State cfg) (env : LoopEnv) : Prop where
  /-- If that is a timeout, every message is still in the receive buffer. -/
  etimedout : ∀ r, (s.iterate env).history.pushed = s.history.pushed ++ [r] → r.sts = .etimedout →
    (s.beforeCancel env).rxBufferCollection = s.rxBufferCollection
  /-- If `PopBuffer` has succeeded, it is a success. -/
  noError : s.rxBufferCollection.popBuffer ≠ none →
    ∃ r, (s.iterate env).history.pushed = s.history.pushed ++ [r] ∧ r.operation = .read ∧
      r.opTicket = (s.newCommand env).loop.currentOp.ticket ∧ r.sts = .noError

/-- The operation that is pending is in time, nobody cancels, its result has a place and is its own. -/
def State.CanReport (s : State cfg) (env : LoopEnv) : Prop :=
  s.expires env = false ∧ s.cancel = false ∧ s.resultCollection.elements.length < cfg.nbMaxOperationPending + 1 ∧
    s.loop.result.operation = .read ∧ s.loop.result.opTicket = s.loop.currentOp.ticket

instance (s : State cfg) (env : LoopEnv) : Decidable (s.CanReport env) :=
  inferInstanceAs (Decidable (_ ∧ _ ∧ _ ∧ _ ∧ _))

/-- The head of an iteration that finds a READ pending changes neither messages nor results. -/
theorem newCommand_read (hclient : cfg.nbMaxClient = 0) {s : State cfg} {env : LoopEnv} {nb : ℕ} {buffer : Bool}
    (hop : (s.newCommand env).loop.currentOp.opParam = .read nb buffer) :
    (s.newCommand env).rxBufferCollection = s.rxBufferCollection ∧
      (s.newCommand env).resultCollection = s.resultCollection ∧
      (s.newCommand env).history.pushed = s.history.pushed := by
  rcases newCommand_cases s env with ⟨-, he⟩ | ⟨op, -, ⟨-, -, he⟩ | ⟨-, he⟩⟩
  · rw [he]
    exact ⟨rfl, rfl, rfl⟩
  · rw [he]
    exact ⟨rfl, rfl, rfl⟩
  · obtain ⟨sts, running, hloop⟩ := command_loop hclient ((s.popped op).beginCommand env) env
    rw [he, takeCommand_eq] at hop ⊢
    simp only [hloop] at hop
    have hread : ((s.popped op).beginCommand env).command env =
        ((s.popped op).beginCommand env).commandRead nb buffer := by
      simp only [State.command, hop]
    rw [hread]
    exact ⟨rfl, rfl, rfl⟩

/-- **A READ reports what it has done**, in every iteration of every run of a client that finds it pending,
if and only if `CanReport` when it finds a message. -/
theorem read_reported_iff (hclient : cfg.nbMaxClient = 0) (es : List Event) (env : LoopEnv) {nb : ℕ} {buffer : Bool}
    (hrun : (exec step (State.start : State cfg) es).loop.running = true)
    (hp : ((exec step (State.start : State cfg) es).newCommand env).loop.ioPending = true)
    (hop : ((exec step (State.start : State cfg) es).newCommand env).loop.currentOp.opParam = .read nb buffer) :
    ReadReported (exec step (State.start : State cfg) es) env ↔
      ((exec step (State.start : State cfg) es).rxBufferCollection.popBuffer ≠ none →
        ((exec step (State.start : State cfg) es).newCommand env).CanReport env) := by
  have hlistening := (newCommand_notListening hclient _ env).trans (notListening hclient es)
  generalize exec step (State.start : State cfg) es = s at hrun hp hop hlistening ⊢
  obtain ⟨hrx, hresults, hpushed⟩ := newCommand_read hclient hop
  have hbefore : s.beforeCancel env = (s.newCommand env).pendingOperation env := by
    simp only [State.beforeCancel, hp, if_true]
  cases hpop : s.rxBufferCollection.popBuffer with
  | none =>
    have hwaits := pendingOperation_waits env hop (by rw [hrx]; exact hpop)
    constructor
    · exact fun _ hfound => absurd rfl hfound
    · refine fun _ => ⟨fun _ _ _ => ?_, fun hfound => absurd hpop hfound⟩
      rw [hbefore, hwaits, hrx]
  | some found =>
    obtain ⟨loop, he, hsend, hsts⟩ := pendingOperation_popped env hlistening hop
      (show (s.newCommand env).rxBufferCollection.popBuffer = some (found.1, found.2) by rw [hrx]; exact hpop)
    have hread : (s.newCommand env).loop.currentOp.operation ≠ .listen := by
      simp [OperationParam.operation, hop, OpParam.operation]
    obtain ⟨hkept, -⟩ := pendingOperation_kept env hread
    have hends := endIteration_sends_iff (Q := fun r => r.operation = .read ∧
      r.opTicket = (s.newCommand env).loop.currentOp.ticket ∧ r.sts = .noError) (fun _ _ => Iff.rfl)
      (s.beforeCancel env) env
    obtain ⟨hresults', hpushed'⟩ := beforeCancel_results s env
    rw [← iterate_eq hrun, hresults', hpushed', hpushed, (beforeCancel_sameSignals s env).cancel,
      ← (newCommand_sameSignals s env).cancel, hbefore, hkept.operation, hkept.opTicket, he] at hends
    constructor
    · intro h _
      obtain ⟨hcancel, hroom, -, hoperation, hticket, hok⟩ :=
        hends.mp (h.noError (by rw [hpop]; exact Option.some_ne_none _))
      refine ⟨?_, hcancel, hroom, hoperation, hticket⟩
      cases hlate : (s.newCommand env).expires env with
      | false => rfl
      | true =>
        simp only [hlate, if_true] at hsts
        exact absurd (hsts.symm.trans hok) (fun he => by cases he)
    · intro h
      obtain ⟨hin, hcancel, hroom, hoperation, hticket⟩ := h (Option.some_ne_none _)
      simp only [hin, Bool.false_eq_true, if_false] at hsts
      have hreported := hends.mpr ⟨hcancel, hroom, hsend, hoperation, hticket, hsts⟩
      refine ⟨fun r hr hr' => ?_, fun _ => hreported⟩
      obtain ⟨r', hr'', -, -, hok⟩ := hreported
      rw [hr'', List.append_cancel_left_eq, List.singleton_inj] at hr
      rw [← hr, hok] at hr'
      cases hr'

/-- A connected client reads, with 200 ms for it; a message arrives after 150 ms. -/
def readsLate : List Event :=
  connectAs 1 ++ [.program 200 0 (.read 4 true), .iterate { LoopEnv.at 150 1 with tickTake := 0 },
    .callback (.receive .client 1 [65] true ⟨true, false, false⟩)]

/-- The READ looks for it after 180 ms. -/
theorem read_reported_iff_in_time : ReadReported (exec step (State.start : State client) readsLate) (.at 180 1) :=
  (read_reported_iff rfl readsLate (.at 180 1) (by decide +kernel) (by decide +kernel)
    (show _ = OpParam.read 4 true by decide +kernel)).mpr fun _ => by decide +kernel

/-- The READ looks for it after 250 ms: it takes the message, and reports a timeout. -/
theorem not_read_reported :
    ¬ ∀ (cfg : WebSocketParam) (es : List Event) (env : LoopEnv) (nb : ℕ) (buffer : Bool), cfg.nbMaxClient = 0 →
      (exec step (State.start : State cfg) es).loop.running = true →
      ((exec step (State.start : State cfg) es).newCommand env).loop.ioPending = true →
      ((exec step (State.start : State cfg) es).newCommand env).loop.currentOp.opParam = .read nb buffer →
      ReadReported (exec step (State.start : State cfg) es) env := by
  intro h
  have hreported := h client readsLate (.at 250 1) 4 true rfl (by decide +kernel) (by decide +kernel)
    (by decide +kernel)
  have hkept := hreported.etimedout
    { operation := .read, opTicket := 2, sts := .etimedout, size := 1, buffer := true, time := 250,
      message := some [(1, [65])] }
    (by decide +kernel) rfl
  exact absurd (congrArg RawBuffer.committed hkept) (by decide +kernel)

end BofWebRpc.WebSocket
