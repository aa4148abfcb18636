import BofWebRpc.WebSocket.Connections
import Mathlib.Data.List.Pairwise

/-!
# The context and the connection

`mpLwsContext_X` and `mWebSocketState_X` are written in many places: by LISTEN, CONNECT and
DISCONNECT, by a CONNECT that is over time, by the cancel block, at the end of the loop
and by callbacks, some of which run while the context is created or destroyed.

## The model

Inside `lws_client_connect_via_info` any callbacks may run. What `libwebsockets` promises of them
is `LoopEnv.Live`: after a connection error, in which the context is destroyed, no connection
is bound or established, and the call returns null.

## What is proved

* `step_turned` — while there is a context, the turn has called `lws_service`.
* `attached` — without a context there is no connection, in every run; so READ and WRITE are
  accepted only while a context exists.
-/

namespace BofWebRpc.WebSocket

open Runs

variable {cfg : WebSocketParam}

/-- Without a context there is no connection. -/
def Attached (s : State cfg) : Prop := s.lwsContext = false → s.webSocketState = .reset

/-! ### The promise -/

/-- The callback binds or establishes a connection. -/
def Callback.connects : Callback → Bool
  | .httpBindProtocol _ | .established _ _ _ | .clientEstablished _ _ => true
  | .addHeaders _ _ | .writeable _ _ _ | .receive _ _ _ _ _ | .clientClosed _ | .closed _
  | .clientConnectionError _ _ | .other _ => false

/-- `LWS_CALLBACK_CLIENT_CONNECTION_ERROR`. -/
def Callback.isConnectionError : Callback → Bool
  | .clientConnectionError _ _ => true
  | .httpBindProtocol _ | .addHeaders _ _ | .established _ _ _ | .clientEstablished _ _ | .writeable _ _ _
  | .receive _ _ _ _ _ | .clientClosed _ | .closed _ | .other _ => false

/-- A connection error runs inside `lws_client_connect_via_info`. -/
def LoopEnv.refused (env : LoopEnv) : Bool := env.connecting.any Callback.isConnectionError

/-- Inside `lws_client_connect_via_info` nothing is bound or established once the context is gone, and the
call returns null then. -/
def LoopEnv.Live (env : LoopEnv) : Prop :=
  env.connecting.Pairwise (fun cb cb' => cb.isConnectionError = true → cb'.connects = false) ∧
    (env.refused = true → env.connectVia = none)

instance LoopEnv.decidableLive (env : LoopEnv) : Decidable env.Live := inferInstanceAs (Decidable (_ ∧ (_ → _)))

/-- The promise, for each event. -/
def Event.Live : Event → Prop
  | .iterate env => env.Live
  | _ => True

instance Event.decidableLive : (e : Event) → Decidable e.Live
  | .iterate env => inferInstanceAs (Decidable env.Live)
  | .callback _ | .program _ _ _ | .collect | .cancelled | .clear | .reset | .cancel _ => isTrue trivial

/-! ### Callbacks -/

theorem attached_of_context {s : State cfg} (hctx : s.lwsContext = true) : Attached s :=
  fun hnone => absurd (hnone.symm.trans hctx) Bool.false_ne_true

/-- A callback that needs a context finds one, so that there is no connection without a context. -/
theorem lwsCallback_attached {s : State cfg} (h : Attached s) (cb : Callback)
    (hlive : s.lwsContext = false → cb.connects = false) : Attached (lwsCallback cb s).2 := by
  intro hgone
  by_cases herror : ∃ w ws, cb = .clientConnectionError w ws
  · obtain ⟨w, ws, rfl⟩ := herror
    rfl
  · rw [lwsCallback_lwsContext fun w ws he => herror ⟨w, ws, he⟩] at hgone
    have hreset := h hgone
    have hquiet := hlive hgone
    cases cb with
    | httpBindProtocol w | established w b key | clientEstablished w b => cases hquiet
    | clientConnectionError w ws => exact absurd ⟨w, ws, rfl⟩ herror
    | addHeaders w key => exact hreset
    | writeable side w env =>
      simp only [lwsCallback]
      rcases onWriteable_cases s w env with ⟨he, -⟩ | ⟨op, -, -, ⟨-, he⟩ | ⟨sts, q, pushed, notified, -, -, he⟩⟩ <;>
        rw [he] <;> exact hreset
    | receive side w input final env => exact (onReceive_webSocketState s w input final env).trans hreset
    | clientClosed w =>
      change ({ s.webSocketState with connectDone := false } : DataPerSession) = .reset
      rw [hreset]
      rfl
    | closed w =>
      change ({ s.webSocketState with connectDone := false } : DataPerSession) = .reset
      rw [hreset]
      rfl
    | other w => exact hreset

/-- A context that is gone stays gone. -/
theorem lwsCallback_gone {s : State cfg} (hgone : s.lwsContext = false) (cb : Callback) :
    (lwsCallback cb s).2.lwsContext = false := by
  by_cases herror : ∃ w ws, cb = .clientConnectionError w ws
  · obtain ⟨w, ws, rfl⟩ := herror
    exact clientDisconnect_lwsContext _ ws
  · rw [lwsCallback_lwsContext fun w ws he => herror ⟨w, ws, he⟩]
    exact hgone

theorem callbacks_gone (cbs : List Callback) {s : State cfg} (hgone : s.lwsContext = false) :
    (callbacks cbs s).lwsContext = false := by
  induction cbs generalizing s with
  | nil => exact hgone
  | cons cb cbs ih => exact ih (lwsCallback_gone hgone cb)

/-- Between two turns a context is one that the turn has found. -/
def State.Turned (s : State cfg) : Prop := s.lwsContext = true → s.loop.service = true

/-- A turn finds the context that the one before it has left. -/
theorem loopEnd_turned (s : State cfg) (env : LoopEnv) : (s.loopEnd env).Turned := by
  simp only [State.loopEnd]
  split_ifs
  · exact id
  · exact fun hctx => absurd ((clientDisconnect_lwsContext s env.destroying).symm.trans hctx) Bool.false_ne_true

/-- Only an iteration creates a context. -/
theorem step_turned {s : State cfg} (h : s.Turned) (e : Event) : (step s e).Turned := by
  cases e using Event.byCause with
  | user e hu =>
    intro hctx
    rw [(step_sameEngine s hu).lwsContext] at hctx
    rw [(step_sameEngine s hu).loop]
    exact h hctx
  | callback cb =>
    simp only [step]
    split_ifs with hctx
    · intro _
      rw [(lwsCallback_same cb s).loop]
      exact h hctx
    · exact h
  | iterate env =>
    cases hrun : s.loop.running with
    | false =>
      rw [step, iterate_of_stopped hrun]
      exact h
    | true =>
      simp only [step, State.iterate, hrun, if_true]
      apply loopEnd_turned

/-- Callbacks destroy the context if and only if there is a connection error among them. -/
theorem callbacks_lwsContext (cbs : List Callback) (s : State cfg) (hctx : s.lwsContext = true) :
    (callbacks cbs s).lwsContext = !cbs.any Callback.isConnectionError := by
  induction cbs generalizing s with
  | nil => exact hctx
  | cons cb cbs ih =>
    cases cb with
    | clientConnectionError w ws => exact callbacks_gone cbs (clientDisconnect_lwsContext _ ws)
    | httpBindProtocol w | addHeaders w key | established w b key | clientEstablished w b | writeable side w env
    | receive side w input final env | clientClosed w | closed w | other w =>
      apply ih
      rw [lwsCallback_lwsContext (by rintro _ _ ⟨⟩)]
      exact hctx

theorem callbacks_attached {cbs : List Callback}
    (horder : cbs.Pairwise fun cb cb' => cb.isConnectionError = true → cb'.connects = false) {s : State cfg}
    (h : Attached s) (hlive : s.lwsContext = false → ∀ cb ∈ cbs, cb.connects = false) :
    Attached (callbacks cbs s) := by
  induction cbs generalizing s with
  | nil => exact h
  | cons cb cbs ih =>
    obtain ⟨hfirst, hrest⟩ := List.pairwise_cons.mp horder
    refine ih hrest (lwsCallback_attached h cb fun hgone => hlive hgone cb List.mem_cons_self) fun hgone cb' hcb' => ?_
    by_cases hctx : s.lwsContext = false
    · exact hlive hctx cb' (List.mem_cons_of_mem cb hcb')
    · have hctx : s.lwsContext = true := Bool.not_eq_false _ ▸ hctx
      have hone := callbacks_lwsContext [cb] s hctx
      rw [show (callbacks [cb] s).lwsContext = false from hgone] at hone
      simp only [List.any_cons, List.any_nil, Bool.or_false] at hone
      exact hfirst cb' hcb' (by simpa using hone.symm)

/-! ### Iterations -/

/-- A command keeps it: only CONNECT assigns a connection, and that to null if the context is gone. -/
theorem command_attached {s : State cfg} (h : Attached s) {env : LoopEnv} (hlive : env.Live) :
    Attached (s.command env) := by
  unfold State.command
  split
  · simp only [State.commandListen]
    split_ifs with hmode hfree hcreate
    · exact h
    · exact attached_of_context rfl
    · exact fun _ => rfl
    · exact h
  · rw [State.commandConnect]
    split
    · exact h
    · split
      · split
        · -- the context of the callbacks is the new one
          have hcallbacks := callbacks_attached hlive.1 (attached_of_context (s := { s with lwsContext := true }) rfl)
            (fun hnone => by cases hnone)
          have hctx := callbacks_lwsContext env.connecting ({ s with lwsContext := true } : State cfg) rfl
          intro hgone
          have hgone : (callbacks env.connecting ({ s with lwsContext := true } : State cfg)).lwsContext = false :=
            hgone
          rw [hgone] at hctx
          have hvia := hlive.2 (by rw [LoopEnv.refused]; simpa using hctx.symm)
          have hreset := hcallbacks hgone
          simp only [State.setSts, hvia, hreset]
          rfl
        · exact fun _ => rfl
      · exact h
  · simp only [State.commandDisconnect]
    split_ifs
    · exact h
    · exact fun _ => rfl
    · exact h
  · exact h
  · exact h
  · rcases commandWrite_cases s env _ _ with ⟨sts, -, he⟩ | ⟨data, q, -, -, he⟩ <;> rw [he] <;> exact h
  · exact h

theorem newCommand_attached {s : State cfg} (h : Attached s) {env : LoopEnv} (hlive : env.Live) :
    Attached (s.newCommand env) := by
  rcases newCommand_cases s env with ⟨-, he⟩ | ⟨op, -, ⟨-, -, he⟩ | ⟨-, he⟩⟩
  · rw [he]
    exact h
  · rw [he]
    exact h
  · rw [he, takeCommand_eq]
    exact command_attached (s := (s.popped op).beginCommand env) h hlive

/-- The pending operation may forget that a connection is established; a CONNECT that is over time
destroys the context. -/
theorem pendingOperation_attached {s : State cfg} (h : Attached s) (env : LoopEnv) :
    Attached (s.pendingOperation env) := by
  have hpending : Attached (s.pending env) := by
    simp only [State.pending]
    split
    · split_ifs
      · intro hgone
        change ({ s.webSocketState with connectDone := false } : DataPerSession) = .reset
        rw [h hgone]
        rfl
      · exact h
    · split_ifs <;> exact h
    · exact h
    · split <;> exact h
    · exact h
    · exact h
  obtain ⟨t, rfl, ⟨-, he⟩ | ⟨-, he⟩⟩ := pendingOperation_cases s env
  · rw [he]
    exact hpending
  · rw [he]
    simp only [State.timeOutOperation]
    split_ifs
    · exact fun _ => rfl
    · exact hpending

theorem loopEnd_attached {s : State cfg} (h : Attached s) (env : LoopEnv) : Attached (s.loopEnd env) := by
  simp only [State.loopEnd]
  split_ifs
  · exact h
  · exact fun _ => rfl

theorem iterate_attached {s : State cfg} (h : Attached s) {env : LoopEnv} (hlive : env.Live) :
    Attached (s.iterate env) := by
  cases hrun : s.loop.running with
  | false =>
    rw [iterate_of_stopped hrun]
    exact h
  | true =>
    refine iterate_rule (R := fun t u => Attached t → Attached u) (fun _ => id) (fun htu huv => huv ∘ htu)
      (fun t ht => pendingOperation_attached ht env) (fun _ _ _ => rfl) (fun t ht => ?_)
      (fun t ht => loopEnd_attached ht env) hrun (newCommand_attached h hlive)
    obtain ⟨time, q, pushed, notified, he, -⟩ := sendResult_eq t env
    rw [he]
    exact ht

/-! ### Runs -/

theorem step_attached (s : State cfg) (e : Event) (h : Attached s) (hlive : e.Live) : Attached (step s e) := by
  cases e using Event.byCause with
  | user e hu =>
    intro hgone
    have hsame := step_sameEngine s hu
    rw [hsame.webSocketState]
    exact h (hsame.lwsContext.symm.trans hgone)
  | callback cb =>
    simp only [step]
    split_ifs with hctx
    · exact lwsCallback_attached h cb fun hgone => absurd (hgone.symm.trans hctx) Bool.false_ne_true
    · exact h
  | iterate env => exact iterate_attached h hlive

/-- The handle of a READ or a WRITE that is accepted is not null. -/
theorem isConnected_handle {s : State cfg} (h : s.isConnected = true) : s.webSocketState.pWebSocket.isSome = true := by
  simp only [State.isConnected] at h
  split_ifs at h
  · exact (Bool.and_eq_true_iff.mp h).2
  · exact h

/-- A READ or a WRITE that succeeds has found a connection. -/
theorem takeCommand_connected {s : State cfg} {op : OperationParam} (hop : op.operation = .read ∨ op.operation = .write)
    (env : LoopEnv) (hsts : ((s.popped op).takeCommand env).loop.result.sts = .noError) : s.isConnected = true := by
  rw [takeCommand_eq] at hsts
  have hsts : (((s.popped op).beginCommand env).command env).loop.result.sts = .noError := hsts
  have hparam : ((s.popped op).beginCommand env).loop.currentOp.opParam = op.opParam := rfl
  unfold State.command at hsts
  unfold OperationParam.operation at hop
  rw [hparam] at hsts
  cases hkind : op.opParam with
  | read nb buffer =>
    rw [hkind] at hsts
    obtain ⟨sts, he, haccepts⟩ := commandRead_eq ((s.popped op).beginCommand env) nb buffer
    simp only [he, State.setSts] at hsts
    have haccepted := haccepts.mp hsts
    simp only [State.acceptsRead, Bool.and_eq_true] at haccepted
    exact haccepted.1.1
  | write nb buffer =>
    rw [hkind] at hsts
    rcases commandWrite_cases ((s.popped op).beginCommand env) env nb buffer with
      ⟨sts, hne, he⟩ | ⟨data, q, haccepts, -, -⟩
    · simp only [he, State.setSts] at hsts
      exact absurd hsts hne
    · simp only [State.acceptsWrite, Bool.and_eq_true] at haccepts
      exact haccepts.1.1.1
  | exit | listen | connect _ | disconnect | max =>
    rw [hkind] at hop
    rcases hop with hop | hop <;> cases hop

/-- **Without a context there is no connection**, in every state that a run reaches; so READ and WRITE
are accepted only while a context exists. -/
theorem attached (es : List Event) (h : Meets step (fun _ e => e.Live) (State.start : State cfg) es) :
    ((exec step (State.start : State cfg) es).lwsContext = false →
      (exec step (State.start : State cfg) es).webSocketState.connectDone = false ∧
        (exec step (State.start : State cfg) es).webSocketState.pWebSocket = none) ∧
      ∀ (op : OperationParam) (env : LoopEnv), op.operation = .read ∨ op.operation = .write →
        (((exec step (State.start : State cfg) es).popped op).takeCommand env).loop.result.sts = .noError →
        (exec step (State.start : State cfg) es).lwsContext = true := by
  have hattached : Attached (exec step (State.start : State cfg) es) := exec_inv step_attached es _ (fun _ => rfl) h
  generalize exec step (State.start : State cfg) es = s at hattached ⊢
  constructor
  · intro hgone
    rw [hattached hgone]
    exact ⟨rfl, rfl⟩
  · intro op env hop hsts
    by_contra hctx
    have hconnected := isConnected_handle (takeCommand_connected hop env hsts)
    rw [hattached (Bool.eq_false_iff.mpr hctx)] at hconnected
    cases hconnected

/-- A client is refused: the connection error comes inside `lws_client_connect_via_info`. -/
def refusedAt (tick : ℕ) : LoopEnv :=
  { LoopEnv.at tick 1 with connecting := [.clientConnectionError 1 []], connectVia := none }

/-- A client that has been refused has no connection; one that is connected may read. -/
theorem attached_refused :
    ((exec step (State.start : State client)
          [.program 1000 0 (.connect ['k']), .iterate (refusedAt 0)]).webSocketState.connectDone = false ∧
      (exec step (State.start : State client)
          [.program 1000 0 (.connect ['k']), .iterate (refusedAt 0)]).webSocketState.pWebSocket = none) ∧
      (exec step (State.start : State client) (connectAs 1)).lwsContext = true :=
  ⟨(attached _ (by decide +kernel)).1 (by decide +kernel),
    (attached (connectAs 1) (by decide +kernel)).2 ⟨2, 1000, 0, .read 1 true⟩ (.at 0 1) (.inl rfl) (by decide +kernel)⟩

end BofWebRpc.WebSocket
