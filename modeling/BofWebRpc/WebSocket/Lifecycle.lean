import BofWebRpc.WebSocket.Notifications
import BofWebRpc.WebSocket.Ordering
import BofWebRpc.WebSocket.Registry

/-!
# The end of the thread

`Stop` programs an EXIT and tells the thread to end. `V_OnProcessing` leaves its loop when an
EXIT has been executed or the thread must end, and disconnects.

## What is proved

* `running_iff` — the loop goes on exactly as long as no iteration executes an EXIT or is told to end.
* `exit_answered_iff` — the EXIT gets its result if and only if there is no cancel, there is room, and no
  operation is pending.
* `left_silent` — once the loop has been left nothing happens any more, whatever the user calls.
* `left_clean`, `left_paired` — when the context is gone, no client is registered and each `OnOpen` has had its
  `OnClose`.
-/

namespace BofWebRpc.WebSocket

open Runs Pipeline

variable {cfg : WebSocketParam}

/-! ### Leaving the loop -/

/-- An iteration executes an EXIT, or finds that the thread must end. -/
def Event.leaves (s : State cfg) : Event → Bool
  | .iterate env => s.loop.running && (env.mustExit || s.taken.any fun op => op.opParam == .exit)
  | _ => false

/-- Only EXIT changes the status of the thread. -/
theorem command_running (s : State cfg) (env : LoopEnv) :
    (s.command env).loop.running = (s.loop.running && s.loop.currentOp.opParam != .exit) := by
  have hkept : ∀ t : State cfg, t.loop.running = s.loop.running → t.loop.running = (s.loop.running && true) :=
    fun t ht => ht.trans (Bool.and_true _).symm
  have hgone : ∀ t : State cfg, (t.clientDisconnect env.destroying).loop.running = t.loop.running :=
    fun t => congrArg Processing.running (clientDisconnect_same t env.destroying).1.loop
  cases hop : s.loop.currentOp.opParam with
  | listen =>
    apply hkept
    simp only [State.command, hop, State.commandListen]
    split_ifs
    · rfl
    · rfl
    · exact hgone _
    · rfl
  | connect key =>
    apply hkept
    simp only [State.command, hop]
    rw [State.commandConnect]
    split
    · rfl
    · split
      · split
        · have h := congrArg Processing.running (callbacks_same env.connecting
            ({ s with lwsContext := true } : State cfg)).loop
          exact h
        · exact hgone s
      · rfl
  | disconnect =>
    apply hkept
    simp only [State.command, hop, State.commandDisconnect]
    split_ifs
    · rfl
    · exact hgone s
    · rfl
  | exit =>
    simp only [State.command, hop, State.commandExit]
    exact (Bool.and_false _).symm
  | read nb buffer =>
    apply hkept
    simp only [State.command, hop]
    rfl
  | write nb buffer =>
    apply hkept
    simp only [State.command, hop]
    rcases commandWrite_cases s env nb buffer with ⟨sts, -, he⟩ | ⟨data, q, -, -, he⟩
    · rw [he]
      rfl
    · rw [he]
      rfl
  | max =>
    apply hkept
    simp only [State.command, hop]
    rfl

theorem pendingOperation_running (s : State cfg) (env : LoopEnv) :
    (s.pendingOperation env).loop.running = s.loop.running := by
  have hpending : (s.pending env).loop.running = s.loop.running := by
    simp only [State.pending]
    split
    · split_ifs <;> rfl
    · split_ifs <;> rfl
    · rfl
    · split <;> rfl
    · rfl
    · rfl
  obtain ⟨t, rfl, ⟨-, he⟩ | ⟨-, he⟩⟩ := pendingOperation_cases s env
  · rw [he]
    exact hpending
  · rw [he, timeOutOperation_loop]
    exact hpending

/-- The loop goes on after an iteration that has executed no EXIT. -/
theorem beforeCancel_running (s : State cfg) (env : LoopEnv) :
    (s.beforeCancel env).loop.running = (s.loop.running && !s.taken.any fun op => op.opParam == .exit) := by
  have hnew : (s.newCommand env).loop.running = (s.loop.running && !s.taken.any fun op => op.opParam == .exit) := by
    rcases newCommand_cases s env with ⟨hnone, he⟩ | ⟨op, -, ⟨hp, hl, he⟩ | ⟨htaken, he⟩⟩
    · have htaken : s.taken = none := by rw [State.taken, Fifo.peek_eq_none_iff.mpr hnone, ite_self]
      rw [he, htaken]
      exact (Bool.and_true _).symm
    · have htaken : s.taken = none := by rw [State.taken, hp, hl]; rfl
      rw [he, htaken]
      exact (Bool.and_true _).symm
    · rw [he, takeCommand_eq, htaken]
      exact command_running ((s.popped op).beginCommand env) env
  rw [← hnew, State.beforeCancel]
  split_ifs
  · exact pendingOperation_running _ env
  · rfl

theorem endIteration_running (s : State cfg) (env : LoopEnv) :
    (s.endIteration env).loop.running = (s.loop.running && !env.mustExit) := by
  have hend : ∀ t : State cfg, t.loop.running = s.loop.running →
      (t.loopEnd env).loop.running = (s.loop.running && !env.mustExit) := by
    intro t ht
    rw [← ht, State.loopEnd]
    split_ifs with hgoes
    · rw [hgoes]
      exact (Bool.and_eq_true_iff.mp hgoes).1
    · exact (Bool.eq_false_iff.mpr hgoes).symm
  have hsend : ∀ t : State cfg, (if t.loop.sendResult then t.sendResult env else t).loop.running = t.loop.running := by
    intro t
    split_ifs
    · obtain ⟨time, q, pushed, notified, he, -⟩ := sendResult_eq t env
      rw [he]
    · rfl
  rw [State.endIteration]
  refine hend _ ((hsend _).trans ?_)
  split_ifs <;> rfl

/-- **One event**: the loop goes on unless the event leaves it. -/
theorem step_running (s : State cfg) (e : Event) :
    (step s e).loop.running = true ↔ s.loop.running = true ∧ e.leaves s = false := by
  cases e using Event.byCause with
  | user e hu =>
    have hleaves : e.leaves s = false := by cases e <;> first | rfl | cases hu
    rw [(step_sameEngine s hu).loop]
    exact (and_iff_left hleaves).symm
  | callback cb =>
    have hloop : (step s (.callback cb)).loop = s.loop := by
      rw [step]
      split_ifs
      · exact (lwsCallback_same cb s).loop
      · rfl
    rw [hloop]
    exact (and_iff_left rfl).symm
  | iterate env =>
    cases hrun : s.loop.running with
    | false =>
      rw [step, iterate_of_stopped hrun, hrun]
      exact iff_of_false Bool.false_ne_true fun h => Bool.false_ne_true h.1
    | true =>
      rw [step, iterate_eq hrun, endIteration_running, beforeCancel_running, Event.leaves, hrun]
      cases env.mustExit <;> cases s.taken.any fun op => op.opParam == .exit <;> decide

/-- **The loop goes on** in a run if and only if no event of it leaves the loop: a queued EXIT ends the thread only
when it is popped while no other operation is pending, or the server listens. -/
theorem running_iff (s : State cfg) (es : List Event) :
    (exec step s es).loop.running = true ↔
      s.loop.running = true ∧ Meets step (fun s e => e.leaves s = false) s es :=
  exec_iff (I := fun _ => True) (K := fun s : State cfg => s.loop.running = true) (fun _ _ _ _ => trivial)
    (fun s e _ _ => step_running s e) es s trivial (meets_true step es s)

/-! ### The result of EXIT -/

/-- The EXIT that is executed, up to the cancel block: it sends its result unless an operation is pending, as it may be
for a server that listens. The `switch` on the pending operation takes it for an unknown one then, and sends nothing. -/
theorem beforeCancel_exit {s : State cfg} {op : OperationParam} (htaken : s.taken = some op)
    (hexit : op.opParam = .exit) (env : LoopEnv) :
    (s.beforeCancel env).loop.sendResult = !s.loop.ioPending ∧
      (s.loop.ioPending = false → (s.beforeCancel env).loop.result.opTicket = op.ticket ∧
        (s.beforeCancel env).loop.result.sts = .cancel) ∧
      (s.beforeCancel env).resultCollection = s.resultCollection ∧
      (s.beforeCancel env).history.pushed = s.history.pushed := by
  have hparam : ((s.popped op).beginCommand env).loop.currentOp.opParam = .exit := hexit
  have hnew : s.newCommand env = { (s.popped op).beginCommand env with
      loop.result.sts := .cancel, loop.running := false, loop.ioPending := s.loop.ioPending } := by
    rw [newCommand_of_taken htaken, takeCommand_eq]
    simp only [State.command, hparam, State.commandExit, State.setSts, reduceCtorEq, decide_false, Bool.or_false]
    rfl
  obtain ⟨hresults, hpushed⟩ := beforeCancel_results s env
  have hnewResults : (s.newCommand env).resultCollection = s.resultCollection := by rw [hnew]; rfl
  have hnewPushed : (s.newCommand env).history.pushed = s.history.pushed := by rw [hnew]; rfl
  refine ⟨?_, fun hidle => ?_, hresults.trans hnewResults, hpushed.trans hnewPushed⟩
  · cases hpending : s.loop.ioPending with
    | false =>
      rw [State.beforeCancel, hnew, hpending]
      rfl
    | true =>
      have hlistening : s.loop.listeningMode = true := by
        simp only [State.taken, hpending] at htaken
        split_ifs at htaken with hlistening
        exact hlistening
      have hpends : s.beforeCancel env = (s.newCommand env).pendingOperation env := by
        rw [State.beforeCancel, hnew]
        exact if_pos hpending
      have hunknown : (s.newCommand env).pending env = { s.newCommand env with
          loop.sendResult := false, loop.result.sts := .badId, loop.ioPending := false } := by
        rw [hnew]
        simp only [State.pending, hparam]
      have hmode : (s.newCommand env).loop.listeningMode = true := by rw [hnew]; exact hlistening
      rw [hpends]
      obtain ⟨t, rfl, ⟨-, he⟩ | ⟨hover, -⟩⟩ := pendingOperation_cases (s.newCommand env) env
      · rw [he, hunknown]
        rfl
      · simp [State.isOverTime, hunknown, hmode] at hover
  · rw [State.beforeCancel, hnew, hidle]
    exact ⟨rfl, rfl⟩

/-- **The EXIT that ends the loop** gets its result, with `BOF_ERR_CANCEL`, if and only if there is no cancel, the
result has a place, and no operation is pending. -/
theorem exit_answered_iff {s : State cfg} {op : OperationParam} (hrun : s.loop.running = true)
    (htaken : s.taken = some op) (hexit : op.opParam = .exit) (env : LoopEnv) :
    (∃ r, (step s (.iterate env)).history.pushed = s.history.pushed ++ [r] ∧ r.opTicket = op.ticket ∧ r.sts = .cancel) ↔
      s.cancel = false ∧ s.resultCollection.elements.length < cfg.nbMaxOperationPending + 1 ∧
        s.loop.ioPending = false := by
  obtain ⟨hsend, hown, hresults, hpushed⟩ := beforeCancel_exit htaken hexit env
  have hsends := endIteration_sends_iff (Q := fun r => r.opTicket = op.ticket ∧ r.sts = .cancel)
    (fun _ _ => Iff.rfl) (s.beforeCancel env) env
  rw [← iterate_eq hrun, hresults, hpushed, (beforeCancel_sameSignals s env).cancel, hsend] at hsends
  refine hsends.trans (and_congr_right fun _ => and_congr_right fun _ => ?_)
  cases hpending : s.loop.ioPending with
  | false => exact iff_of_true ⟨rfl, hown hpending⟩ rfl
  | true => exact iff_of_false (fun h => Bool.false_ne_true h.1) (fun h => Bool.false_ne_true h.symm)

/-- A server that has executed a WRITE for its client: its LISTEN is no longer pending. -/
def writtenServer : State server := exec step listened (clientConnects 1 ['a'] ++ writeByte 1)

/-- A client that is connected gets a result for its EXIT; a server whose LISTEN is pending gets none; one that has
executed a WRITE gets one. -/
theorem exit_answered_three :
    (∃ r, (step (step connected (.program 150 0 .exit)) (.iterate (.at 0 1))).history.pushed =
        (step connected (.program 150 0 .exit)).history.pushed ++ [r] ∧ r.opTicket = 2 ∧ r.sts = .cancel) ∧
      (¬ ∃ r, (step (step listened (.program 150 0 .exit)) (.iterate (.at 0 1))).history.pushed =
        (step listened (.program 150 0 .exit)).history.pushed ++ [r] ∧ r.opTicket = 2 ∧ r.sts = .cancel) ∧
      ∃ r, (step (step writtenServer (.program 150 0 .exit)) (.iterate (.at 0 1))).history.pushed =
        (step writtenServer (.program 150 0 .exit)).history.pushed ++ [r] ∧ r.opTicket = 3 ∧ r.sts = .cancel := by
  refine ⟨?_, ?_, ?_⟩
  · have hclient : (step connected (.program 150 0 .exit)).taken = some ⟨2, 150, 0, .exit⟩ := by decide +kernel
    exact (exit_answered_iff (by decide +kernel) hclient rfl _).mpr (by decide +kernel)
  · have hserver : (step listened (.program 150 0 .exit)).taken = some ⟨2, 150, 0, .exit⟩ := by decide +kernel
    rw [exit_answered_iff (by decide +kernel) hserver rfl _]
    decide +kernel
  · have hwritten : (step writtenServer (.program 150 0 .exit)).taken = some ⟨3, 150, 0, .exit⟩ := by decide +kernel
    exact (exit_answered_iff (by decide +kernel) hwritten rfl _).mpr (by decide +kernel)

/-! ### After the loop -/

theorem SameEngine.refl (s : State cfg) : SameEngine s s := ⟨rfl, rfl, rfl, rfl, rfl, rfl, rfl, rfl, rfl⟩

theorem SameEngine.trans {s t u : State cfg} (h : SameEngine s t) (h' : SameEngine t u) : SameEngine s u := by
  refine ⟨h'.lwsContext.trans h.lwsContext, h'.webSocketState.trans h.webSocketState,
    h'.clientCollection.trans h.clientCollection, h'.writeOpCollection.trans h.writeOpCollection,
    h'.rxBufferCollection.trans h.rxBufferCollection, h'.loop.trans h.loop, h'.session.trans h.session,
    h'.writable.trans h.writable, ?_⟩
  rw [h'.history, h.history]

/-- `lws_context_destroy` closes every connection that is established. -/
def Event.DestroysAll (p : Watched cfg) : Event → Prop
  | .callback (.clientConnectionError _ destroying) => ∀ w ∈ p.2.established, w ∈ destroying
  | .iterate env => (p.1.iterate env).lwsContext = false → ∀ w ∈ p.2.established, w ∈ env.destroying
  | _ => True

instance (p : Watched cfg) : (e : Event) → Decidable (e.DestroysAll p)
  | .callback (.clientConnectionError _ _) => inferInstanceAs (Decidable (∀ _ ∈ _, _))
  | .iterate _ => inferInstanceAs (Decidable (_ → ∀ _ ∈ _, _))
  | .callback (.established _ _ _) | .callback (.clientEstablished _ _) | .callback (.httpBindProtocol _)
  | .callback (.addHeaders _ _) | .callback (.writeable _ _ _) | .callback (.receive _ _ _ _ _)
  | .callback (.closed _) | .callback (.clientClosed _) | .callback (.other _) => isTrue trivial
  | .program _ _ _ | .collect | .cancelled | .clear | .reset | .cancel _ => isTrue trivial

theorem foldl_close_established (ws : List Wsi) (m : Connections) (v : Wsi) :
    v ∈ (ws.foldl Connections.close m).established ↔ v ∈ m.established ∧ v ∉ ws := by
  induction ws generalizing m with
  | nil => simp
  | cons w ws ih =>
    rw [List.foldl_cons, ih, List.mem_cons, not_or]
    simp only [Connections.close, List.mem_filter, decide_eq_true_eq, and_assoc]

theorem closes_all {m : Connections} {ws : List Wsi} (h : ∀ w ∈ m.established, w ∈ ws) :
    (ws.foldl Connections.close m).established = [] := by
  apply List.eq_nil_iff_forall_not_mem.mpr
  intro v hv
  obtain ⟨hv, hnot⟩ := (foldl_close_established ws m v).mp hv
  exact hnot (h v hv)

/-- No connection outlives the context. -/
theorem watch_closes_all (p : Watched cfg) (e : Event) (hp : p.1.lwsContext = false → p.2.established = [])
    (he : e.DestroysAll p) (hctx : (watch p e).1.lwsContext = false) : (watch p e).2.established = [] := by
  obtain ⟨s, m⟩ := p
  cases e using Event.byCause with
  | user e hu =>
    rw [watch, m.follow_user s hu]
    exact hp ((step_sameEngine s hu).lwsContext.symm.trans hctx)
  | iterate env =>
    have hgone : (s.iterate env).lwsContext = false := hctx
    simp only [watch, Connections.follow, hgone, Bool.false_eq_true, if_false]
    exact closes_all (he hgone)
  | callback cb =>
    simp only [watch, step, Connections.follow] at hctx ⊢
    split_ifs at hctx ⊢ with hopen
    · by_cases herror : ∃ w destroying, cb = .clientConnectionError w destroying
      · obtain ⟨w, destroying, rfl⟩ := herror
        exact closes_all he
      · rw [lwsCallback_lwsContext (fun w destroying h => herror ⟨w, destroying, h⟩)] at hctx
        exact absurd (hctx.symm.trans hopen) Bool.false_ne_true
    · exact hp (Bool.eq_false_iff.mpr hopen)

theorem established_eq_nil {es : List Event}
    (h : Meets watch (fun p e => e.DestroysAll p) (Watched.start : Watched cfg) es)
    (hctx : (exec watch (Watched.start : Watched cfg) es).1.lwsContext = false) :
    (exec watch (Watched.start : Watched cfg) es).2.established = [] :=
  exec_inv (I := fun p : Watched cfg => p.1.lwsContext = false → p.2.established = []) watch_closes_all es
    _ (fun _ => rfl) h hctx

/-- **A server that has been stopped** has no client left, in every run in which destroying the context closes all its
connections; nor has one whose context is gone for another reason. -/
theorem left_clean (hserver : cfg.nbMaxClient ≠ 0) {es : List Event}
    (h : Meets watch (fun p e => e.Lawful p ∧ e.DestroysAll p) (Watched.start : Watched cfg) es)
    (hctx : (exec watch (Watched.start : Watched cfg) es).1.lwsContext = false) :
    (exec watch (Watched.start : Watched cfg) es).1.clientCollection = [] := by
  obtain ⟨hlawful, hdestroys⟩ := meets_and.mp h
  have hregistering := exec_inv (watch_registering hserver) es _ start_registering hlawful
  apply List.eq_nil_iff_forall_not_mem.mpr
  intro c hc
  obtain ⟨w, hw, -⟩ := hregistering.admitted c hc
  have hestablished := hregistering.established w hw
  rw [established_eq_nil hdestroys hctx] at hestablished
  exact List.not_mem_nil hestablished

/-- Of two clients one closes, and the other one is closed when the server exits. -/
def stoppedServer : List Event :=
  Event.execute 0 0 .listen ++ clientConnects 1 ['a'] ++ clientConnects 2 ['b'] ++ [.callback (.closed 1)] ++
    [.program 150 0 .exit, .iterate { LoopEnv.at 0 0 with destroying := [2] }]

theorem left_clean_two : (exec watch (Watched.start : Watched notifying) stoppedServer).1.clientCollection = [] := by
  have hmeets : Meets watch (fun p e => e.Lawful p ∧ e.DestroysAll p) (Watched.start : Watched notifying)
      stoppedServer := by decide +kernel
  exact left_clean (by decide) hmeets (by decide +kernel)

/-- **Every `OnOpen` has had its `OnClose`** when the context is gone, in every run in which destroying it closes all
its connections and the guard around `OnClose` does what it should. -/
theorem left_paired (hopen : cfg.onOpen = true) (hclose : cfg.onClose = true) {es : List Event}
    (h : Meets watch (fun p e => (e.Lawful p ∧ e.ClosesOnly (Connections.Expects cfg) p.2) ∧ e.DestroysAll p)
      (Watched.start : Watched cfg) es)
    (hctx : (exec watch (Watched.start : Watched cfg) es).1.lwsContext = false) (w : Wsi) :
    (exec watch (Watched.start : Watched cfg) es).1.history.opened.count w =
      (exec watch (Watched.start : Watched cfg) es).1.history.closed.count w := by
  obtain ⟨hcloses, hdestroys⟩ := meets_and.mp h
  have hpairing := exec_inv (I := fun p : Watched cfg => Pairing p.1 p.2)
    (fun p e hp he => watch_pairing p e hp he.1 he.2) es _ start_pairing hcloses
  have hnone : w ∉ (exec watch (Watched.start : Watched cfg) es).2.admitted := by
    intro hw
    have hestablished := hpairing.established w hw
    rw [established_eq_nil hdestroys hctx] at hestablished
    exact List.not_mem_nil hestablished
  have hbalanced := hpairing.balanced hopen hclose w
  rw [if_neg hnone] at hbalanced
  exact hbalanced

theorem left_paired_two :
    (exec watch (Watched.start : Watched notifying) stoppedServer).1.history.opened.count 2 =
      (exec watch (Watched.start : Watched notifying) stoppedServer).1.history.closed.count 2 := by
  have hmeets : Meets watch
      (fun p e => (e.Lawful p ∧ e.ClosesOnly (Connections.Expects notifying) p.2) ∧ e.DestroysAll p)
      (Watched.start : Watched notifying) stoppedServer := by decide +kernel
  exact left_paired rfl rfl hmeets (by decide +kernel) 2

end BofWebRpc.WebSocket
