import BofWebRpc.WebSocket.Context
import BofWebRpc.WebSocket.Handles
import BofWebRpc.WebSocket.Results

/-!
# A CONNECT that fails

A CONNECT fails when the context cannot be created, when `lws_client_connect_via_info` returns
null, and when it is over time, after a connection error, after buffer sizes that could
not be set, or for no reason. A client that has no context and no connection can then connect again.

## What is proved

* `commandConnect_invalidState` — only a CONNECT that is rejected has the status `invalidState`.
* `connects_restored` — after a CONNECT that has failed there is no context and no connection, in every run
  in which no command is popped while an operation is pending on a context, and a null handle comes
  with a connection error.
-/

namespace BofWebRpc.WebSocket

open Runs

variable {cfg : WebSocketParam}

/-- A CONNECT that had begun has failed. One that is rejected has not begun. -/
def OperationResult.connectFailed (r : OperationResult) : Prop :=
  r.operation = .connect ∧ r.sts ≠ .noError ∧ r.sts ≠ .invalidState

instance (r : OperationResult) : Decidable r.connectFailed := inferInstanceAs (Decidable (_ ∧ _ ∧ _))

/-- There is no context and no connection, and the next CONNECT with a valid key is accepted. -/
def State.Restored (s : State cfg) : Prop :=
  s.lwsContext = false ∧ s.webSocketState = .reset ∧
    ∀ key : Key, key.length ≠ 0 → key.length < wsCltMaxKeyLen → s.canConnect key

/-- If a CONNECT fails in this step, the client can connect again. -/
def Event.Restores (s : State cfg) (e : Event) : Prop :=
  ∀ new, (step s e).history.pushed = s.history.pushed ++ new → (∃ r ∈ new, r.connectFailed) → (step s e).Restored

/-- No command is popped while an operation is pending on a context, and when
`lws_client_connect_via_info` returns null the connection error has run inside it. -/
def Event.Reconnects (s : State cfg) : Event → Prop
  | .iterate env =>
    (s.loop.ioPending = true → s.lwsContext = true → s.paramCollection.elements = []) ∧
      (s.willConnect env = true → env.connectVia = none → env.refused = true)
  | _ => True

instance (s : State cfg) : (e : Event) → Decidable (e.Reconnects s)
  | .iterate _ => inferInstanceAs (Decidable ((_ → _ → _) ∧ (_ → _ → _)))
  | .callback _ | .program _ _ _ | .collect | .cancelled | .clear | .reset | .cancel _ => isTrue trivial

/-! ### The invariant -/

/-- What a writable callback finishes is a WRITE. -/
abbrev OperationResult.isWrite (r : OperationResult) : Prop := r.operation = .write

/-- There is no connection without a context, no LISTEN is pending, and the result of a pending CONNECT is
the one of the current operation. -/
structure Reconnecting (s : State cfg) : Prop where
  attached : Attached s
  listening : s.loop.listeningMode = false
  writes : s.Finishes OperationResult.isWrite
  pending : s.loop.ioPending = true → s.lwsContext = true → s.loop.currentOp.operation ≠ .listen ∧
    (s.loop.result.operation = .connect → s.loop.currentOp.operation = .connect)

/-- The result that has to be sent is not the one of a failed CONNECT, or the context is gone. -/
def State.Fails (s : State cfg) : Prop :=
  s.loop.sendResult = true → s.loop.result.connectFailed → s.lwsContext = false

theorem Attached.restored {s : State cfg} (h : Attached s) (hgone : s.lwsContext = false) : s.Restored := by
  refine ⟨hgone, h hgone, fun key hkey hlength => ⟨?_, hgone, hkey, hlength⟩⟩
  rw [h hgone]
  rfl

/-! ### The command -/

/-- A CONNECT is rejected by its state or its key, or begins. -/
theorem commandConnect_invalidState (hclient : cfg.nbMaxClient = 0) (s : State cfg) (env : LoopEnv) (key : Key) :
    (s.commandConnect env key).loop.result.sts = .invalidState ↔ ¬ s.canConnect key := by
  rw [State.commandConnect, if_neg (not_not.mpr hclient)]
  by_cases hcan : s.canConnect key
  · rw [if_pos hcan]
    refine ⟨fun hsts => ?_, fun hnot => absurd hcan hnot⟩
    split at hsts
    · simp only [State.setSts] at hsts
      split_ifs at hsts
    · cases hsts
  · rw [if_neg hcan]
    exact ⟨fun _ => hcan, fun _ => rfl⟩

/-- A CONNECT that fails at once leaves no context, provided that a null handle comes with a connection error. -/
theorem commandConnect_fails (hclient : cfg.nbMaxClient = 0) {s : State cfg} {env : LoopEnv} {key : Key}
    (hvia : s.canConnect key → env.createContext = true → env.connectVia = none → env.refused = true)
    (hno : (s.commandConnect env key).loop.result.sts ≠ .noError)
    (hinvalid : (s.commandConnect env key).loop.result.sts ≠ .invalidState) :
    (s.commandConnect env key).lwsContext = false := by
  have hcan : s.canConnect key :=
    not_not.mp fun hcan => hinvalid ((commandConnect_invalidState hclient s env key).mpr hcan)
  rw [State.commandConnect, if_neg (not_not.mpr hclient), if_pos hcan] at hno ⊢
  split
  · next hcreate =>
    rw [if_pos hcreate] at hno
    cases hhandle : env.connectVia with
    | some w => simp [State.setSts, hhandle] at hno
    | none =>
      have hctx := callbacks_lwsContext env.connecting ({ s with lwsContext := true } : State cfg) rfl
      have hrefused := hvia hcan hcreate hhandle
      rw [LoopEnv.refused] at hrefused
      rw [hrefused] at hctx
      exact hctx
  · exact clientDisconnect_lwsContext s env.destroying

theorem newCommand_reconnecting (hclient : cfg.nbMaxClient = 0) {s : State cfg} (h : Reconnecting s)
    (hsend : s.loop.sendResult = false) (hturned : s.Turned) {env : LoopEnv} (hlive : env.Live)
    (hc : (Event.iterate env).Reconnects s) :
    Reconnecting (s.newCommand env) ∧ ((s.newCommand env).loop.ioPending = false → (s.newCommand env).Fails) := by
  obtain ⟨halone, hvia⟩ := hc
  have hattached := newCommand_attached h.attached hlive
  rcases newCommand_cases s env with ⟨-, he⟩ | ⟨op, hop, ⟨hp, -, he⟩ | ⟨htaken, he⟩⟩
  · rw [he] at hattached ⊢
    refine ⟨⟨hattached, h.listening, h.writes, fun hp hctx => ?_⟩, fun _ hs => ?_⟩
    · have hctx : s.lwsContext = true := hctx
      simp only [hturned hctx, if_true]
      exact h.pending hp hctx
    · exact absurd (hsend.symm.trans hs) Bool.false_ne_true
  · rw [he] at hattached ⊢
    refine ⟨⟨hattached, h.listening, h.writes, fun hp' hctx => ?_⟩, fun _ hs => ?_⟩
    · rw [halone hp hctx] at hop
      cases hop
    · exact absurd (hsend.symm.trans hs) Bool.false_ne_true
  · -- the command is executed: it gets a result of its own
    have hidle : s.loop.ioPending = false := by
      by_contra hp
      simp [State.taken, Bool.not_eq_false _ ▸ hp, h.listening] at htaken
    obtain ⟨sts, running, hloop⟩ := command_loop hclient ((s.popped op).beginCommand env) env
    have hwrites := command_writes ((s.popped op).beginCommand env) env
    have hsts : (((s.popped op).beginCommand env).command env).loop.result.sts = sts := by rw [hloop]
    rw [he, takeCommand_eq] at hattached ⊢
    simp only [hloop] at hattached ⊢
    refine ⟨⟨hattached, h.listening, fun op' hop' env' sts' => ?_, fun hp hctx => ⟨?_, fun hconnect => hconnect⟩⟩,
      fun hp _ hfailed => ?_⟩
    · rcases hwrites op' hop' with hold | ⟨hwrite, hresult⟩
      · exact h.writes op' hold env' sts'
      · change op'.result.operation = .write
        rw [hresult]
        exact hwrite
    · intro hlisten
      have hlisten : ((s.popped op).beginCommand env).loop.currentOp.operation = .listen := hlisten
      unfold OperationParam.operation at hlisten
      have hmode : sts = .wrongMode := by
        rw [← hsts]
        unfold State.command
        cases hparam : ((s.popped op).beginCommand env).loop.currentOp.opParam with
        | listen =>
          simp only [State.commandListen, if_pos hclient]
          rfl
        | connect _ | disconnect | write _ _ | read _ _ | exit | max => rw [hparam] at hlisten; cases hlisten
      simp [State.beginCommand, State.popped, hidle, hmode] at hp
    · obtain ⟨hconnect, hno, hinvalid⟩ := hfailed
      have hconnect : op.operation = .connect := hconnect
      have hno : sts ≠ .noError := hno
      have hinvalid : sts ≠ .invalidState := hinvalid
      unfold OperationParam.operation at hconnect
      cases hparam : op.opParam with
      | connect key =>
        have hcommand : ((s.popped op).beginCommand env).command env =
            ((s.popped op).beginCommand env).commandConnect env key := by
          unfold State.command
          rw [show ((s.popped op).beginCommand env).loop.currentOp.opParam = .connect key from hparam]
        rw [hcommand] at hsts ⊢
        refine commandConnect_fails hclient (fun hcan hcreate => hvia ?_) (hsts ▸ hno) (hsts ▸ hinvalid)
        have hcan : s.canConnect key := hcan
        simp [State.willConnect, htaken, hparam, hclient, hcan, hcreate]
      | listen | disconnect | write _ _ | read _ _ | exit | max => rw [hparam] at hconnect; cases hconnect

/-! ### The pending operation -/

theorem pendingOperation_reconnecting {s : State cfg} (h : Reconnecting s) (hp : s.loop.ioPending = true)
    (env : LoopEnv) :
    Reconnecting (s.pendingOperation env) ∧ (s.pendingOperation env).Fails := by
  have hattached := pendingOperation_attached h.attached env
  have hwrites := (pendingOperation_same s env).2.1.writeOpCollection
  have hctx : (s.pendingOperation env).lwsContext = true → s.lwsContext = true := by
    intro hctx
    rcases pendingOperation_drops s env with ⟨hsame, -⟩ | ⟨hgone, -⟩
    · exact hsame.symm.trans hctx
    · exact absurd (hgone.symm.trans hctx) Bool.false_ne_true
  refine ⟨⟨hattached, (pendingOperation_listeningMode s env).trans h.listening, ?_, fun _ hctx' => ?_⟩,
    fun hsend hfailed => ?_⟩
  · intro op hop
    rw [hwrites] at hop
    exact h.writes op hop
  · obtain ⟨hlisten, hown⟩ := h.pending hp (hctx hctx')
    obtain ⟨hkept, -⟩ := pendingOperation_kept env hlisten
    rw [hkept.currentOp, hkept.operation]
    exact ⟨hlisten, hown⟩
  · by_contra hctx'
    have hctx' : (s.pendingOperation env).lwsContext = true := Bool.not_eq_false _ ▸ hctx'
    obtain ⟨hlisten, hown⟩ := h.pending hp (hctx hctx')
    obtain ⟨hkept, hsts⟩ := pendingOperation_kept env hlisten
    obtain ⟨hconnect, hno, -⟩ := hfailed
    have hcurrent := hown (hkept.operation.symm.trans hconnect)
    rcases hsts hsend with hdisconnect | hok | hgone
    · rw [hcurrent] at hdisconnect
      cases hdisconnect
    · exact hno hok
    · exact absurd ((hgone hcurrent).symm.trans hctx') Bool.false_ne_true

/-! ### Iterations -/

theorem beforeCancel_reconnecting (hclient : cfg.nbMaxClient = 0) {s : State cfg} (h : Reconnecting s)
    (hsend : s.loop.sendResult = false) (hturned : s.Turned) {env : LoopEnv} (hlive : env.Live)
    (hc : (Event.iterate env).Reconnects s) :
    Reconnecting (s.beforeCancel env) ∧ (s.beforeCancel env).Fails := by
  obtain ⟨hnew, hfails⟩ := newCommand_reconnecting hclient h hsend hturned hlive hc
  simp only [State.beforeCancel]
  split_ifs with hp
  · exact pendingOperation_reconnecting hnew hp env
  · exact ⟨hnew, hfails (Bool.eq_false_iff.mpr hp)⟩

theorem Reconnecting.loopEnd {s : State cfg} (h : Reconnecting s) (env : LoopEnv) : Reconnecting (s.loopEnd env) := by
  obtain ⟨-, hsame, -⟩ := loopEnd_same s env
  refine ⟨loopEnd_attached h.attached env, ?_, fun op hop => ?_, ?_⟩
  · simp only [State.loopEnd]
    split_ifs
    · exact h.listening
    · rw [(clientDisconnect_same s env.destroying).1.loop]
      exact h.listening
  · rw [hsame.writeOpCollection] at hop
    exact h.writes op hop
  · simp only [State.loopEnd]
    split_ifs
    · exact h.pending
    · intro _ hctx
      exact absurd ((clientDisconnect_lwsContext s env.destroying).symm.trans hctx) Bool.false_ne_true

/-- The end of an iteration sends its result, and does not bring a context back. -/
theorem endIteration_reconnecting {s : State cfg} (h : Reconnecting s) (env : LoopEnv) :
    Reconnecting (s.endIteration env) ∧ (s.endIteration env).loop.sendResult = false ∧
      (s.lwsContext = false → (s.endIteration env).lwsContext = false) := by
  have hend : ∀ t : State cfg, Reconnecting t → t.loop.sendResult = false →
      (s.lwsContext = false → t.lwsContext = false) →
      Reconnecting (t.loopEnd env) ∧ (t.loopEnd env).loop.sendResult = false ∧
        (s.lwsContext = false → (t.loopEnd env).lwsContext = false) := by
    intro t ht hsend hgone
    refine ⟨ht.loopEnd env, ?_, fun hs => ?_⟩
    · simp only [State.loopEnd]
      split_ifs
      · exact hsend
      · rw [(clientDisconnect_same t env.destroying).1.loop]
        exact hsend
    · rcases loopEnd_drops t env with ⟨hsame, -⟩ | ⟨hdropped, -⟩
      · exact hsame.trans (hgone hs)
      · exact hdropped
  have hblock : Reconnecting s.cancelBlock :=
    ⟨fun _ => rfl, h.listening, fun _ hop => absurd hop List.not_mem_nil, by rintro ⟨⟩⟩
  simp only [State.endIteration]
  cases hcancel : s.cancel with
  | true => exact hend s.cancelBlock hblock rfl id
  | false =>
    cases hsend : s.loop.sendResult with
    | false =>
      simp only [Bool.false_eq_true, if_false, hsend]
      exact hend s h hsend id
    | true =>
      obtain ⟨time, q, pushed, notified, hsent, -⟩ := sendResult_eq s env
      simp only [Bool.false_eq_true, if_false, if_true, hsend, hsent]
      exact hend _ ⟨h.attached, h.listening, h.writes, h.pending⟩ rfl id

theorem iterate_reconnecting (hclient : cfg.nbMaxClient = 0) {s : State cfg} (h : Reconnecting s)
    (hsend : s.loop.sendResult = false) (hturned : s.Turned) {env : LoopEnv} (hlive : env.Live)
    (hc : (Event.iterate env).Reconnects s) :
    Reconnecting (s.iterate env) ∧ (s.iterate env).loop.sendResult = false ∧ (Event.iterate env).Restores s := by
  cases hrun : s.loop.running with
  | false =>
    have he := iterate_of_stopped hrun env
    rw [he]
    refine ⟨h, hsend, fun new hnew hfailed => ?_⟩
    rw [step, he, List.self_eq_append_right] at hnew
    obtain ⟨r, hr, -⟩ := hfailed
    rw [hnew] at hr
    cases hr
  | true =>
    obtain ⟨hbefore, hfails⟩ := beforeCancel_reconnecting hclient h hsend hturned hlive hc
    obtain ⟨hend, hsent, hgone⟩ := endIteration_reconnecting hbefore env
    rw [iterate_eq hrun]
    refine ⟨hend, hsent, ?_⟩
    rintro new hnew ⟨r, hr, hfailed⟩
    rw [step, iterate_eq hrun] at hnew ⊢
    obtain ⟨writes, hwrites, -, hpushed⟩ := beforeCancel_pushes h.writes env
    have hmem : r ∈ writes ∨ ((s.beforeCancel env).loop.sendResult = true ∧
        ∃ time, r = { (s.beforeCancel env).loop.result with time := time }) := by
      rcases endIteration_results (s.beforeCancel env) env with
        ⟨-, -, he⟩ | ⟨-, -, -, he⟩ | ⟨-, hs, time, ⟨-, he⟩ | ⟨-, he, -⟩⟩ <;>
        rw [hnew, hpushed] at he
      · exact .inl (List.append_cancel_left he ▸ hr)
      · exact .inl (List.append_cancel_left he ▸ hr)
      · rw [List.append_assoc] at he
        rw [List.append_cancel_left he] at hr
        rcases List.mem_append.mp hr with hr | hr
        · exact .inl hr
        · exact .inr ⟨hs, time, List.mem_singleton.mp hr⟩
      · exact .inl (List.append_cancel_left he ▸ hr)
    rcases hmem with hmem | ⟨hs, time, rfl⟩
    · have hwrite : r.operation = .write := hwrites r hmem
      rw [hfailed.1] at hwrite
      cases hwrite
    · exact hend.attached.restored (hgone (hfails hs hfailed))

/-! ### Runs -/

/-- **One event.** -/
theorem step_reconnecting (hclient : cfg.nbMaxClient = 0) (s : State cfg) (e : Event)
    (h : Reconnecting s ∧ s.loop.sendResult = false ∧ s.Turned) (hc : e.Live ∧ e.Reconnects s) :
    (Reconnecting (step s e) ∧ (step s e).loop.sendResult = false ∧ (step s e).Turned) ∧ e.Restores s := by
  obtain ⟨h, hsend, hturned⟩ := h
  have hattached := step_attached s e h.attached hc.1
  -- whatever is not an iteration finishes writes only
  have hquiet : (step s e).loop = s.loop →
      (∃ writes, (∀ r ∈ writes, r.isWrite) ∧ (step s e).history.pushed = s.history.pushed ++ writes) →
      (step s e).Finishes OperationResult.isWrite → ((step s e).lwsContext = true → s.lwsContext = true) →
      (Reconnecting (step s e) ∧ (step s e).loop.sendResult = false ∧ (step s e).Turned) ∧ e.Restores s := by
    rintro hloop ⟨writes, hwrites, hpushed⟩ hfinishes hctx
    refine ⟨⟨⟨hattached, ?_, hfinishes, ?_⟩, ?_, step_turned hturned e⟩, ?_⟩
    · rw [hloop]
      exact h.listening
    · rw [hloop]
      exact fun hp hc => h.pending hp (hctx hc)
    · rw [hloop]
      exact hsend
    · rintro new hnew ⟨r, hr, hfailed⟩
      rw [hpushed] at hnew
      have hwrite : r.operation = .write := hwrites r (List.append_cancel_left hnew ▸ hr)
      rw [hfailed.1] at hwrite
      cases hwrite
  cases e using Event.byCause with
  | user e hu =>
    have hsame := step_sameEngine s hu
    refine hquiet hsame.loop ⟨[], fun _ hr => absurd hr List.not_mem_nil, ?_⟩ (fun op hop => ?_) ?_
    · rw [hsame.history, List.append_nil]
    · rw [hsame.writeOpCollection] at hop
      exact h.writes op hop
    · rw [hsame.lwsContext]
      exact id
  | iterate env =>
    obtain ⟨hre, hs, hrestores⟩ := iterate_reconnecting hclient h hsend hturned hc.1 hc.2
    exact ⟨⟨hre, hs, step_turned hturned _⟩, hrestores⟩
  | callback cb =>
    simp only [step] at hquiet ⊢
    split_ifs at hquiet ⊢ with hctx
    · obtain ⟨writes, hwrites, -, hpushed⟩ := lwsCallback_pushes h.writes cb
      exact hquiet (lwsCallback_same cb s).loop ⟨writes, hwrites, hpushed⟩
        (fun op hop => h.writes op (lwsCallback_writes cb s op hop)) fun _ => hctx
    · exact hquiet rfl ⟨[], fun _ hr => absurd hr List.not_mem_nil, (List.append_nil _).symm⟩ h.writes id

/-- **A failed CONNECT** leaves no context and no connection: in every run of a client in which no command
is popped while an operation is pending on a context, and a null handle comes with a connection error,
whenever a CONNECT fails, the next one is accepted. -/
theorem connects_restored (hclient : cfg.nbMaxClient = 0) (es : List Event)
    (h : Meets step (fun s e => e.Live ∧ e.Reconnects s) (State.start : State cfg) es) :
    Meets step (fun s e => e.Restores s) (State.start : State cfg) es :=
  meets_inv (step_reconnecting hclient) es _
    ⟨⟨fun _ => rfl, rfl, fun _ hop => absurd hop List.not_mem_nil, by rintro ⟨⟩⟩, rfl, by rintro ⟨⟩⟩ h

/-- A client is refused, and connects then. -/
theorem connects_restored_refused :
    Meets step (fun s e => e.Restores s) (State.start : State client)
      (.program 1000 0 (.connect ['k']) :: .iterate (refusedAt 0) :: connectAs 1) :=
  connects_restored rfl _ (by decide +kernel)

/-- `lws_client_connect_via_info` returns null without a connection error: the context stays, so that no CONNECT
is accepted any more. -/
theorem not_connects_restored :
    ¬ ∀ (cfg : WebSocketParam) (es : List Event), cfg.nbMaxClient = 0 →
      Meets step (fun _ e => e.Live) (State.start : State cfg) es →
      Meets step (fun s e => e.Restores s) (State.start : State cfg) es := by
  intro h
  obtain ⟨-, hrestores, -⟩ := h client [.program 1000 0 (.connect ['k']),
    .iterate { LoopEnv.at 0 1 with connectVia := none }] rfl (by decide +kernel)
  have hgone := (hrestores [{ OperationResult.reset with operation := .connect, opTicket := 1, sts := .enotconn }]
    (by decide +kernel) ⟨_, List.mem_singleton_self _, by decide⟩).1
  exact absurd hgone (by decide +kernel)

end BofWebRpc.WebSocket
