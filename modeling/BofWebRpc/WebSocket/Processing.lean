import BofWebRpc.WebSocket.Callback

/-!
# The processing loop

`BofWebSocket::V_OnProcessing`. One iteration serves the context, takes the next
command, executes it, looks at the operation that is pending, executes a cancel and
sends a result.

## The model

`iterate` is one turn of the loop after `lws_service`, whose callbacks are steps of
their own (`BofWebRpc.WebSocket.Engine`). Its parts are the parts of the source:
`popNextOp`, `takeCommand` with one definition for each `case`, `pendingOperation`,
`cancelBlock` and `sendResult`. `LoopEnv` is what the calls of this turn answer:
the clock, `lws_create_context`, `lws_client_connect_via_info` with the callbacks that
run inside it, `lws_callback_on_writable`, the close callbacks inside
`lws_context_destroy`.
-/

namespace BofWebRpc.WebSocket

open Reassembly

variable {cfg : WebSocketParam}

/-- What the calls of one iteration answer. -/
structure LoopEnv where
  /-- `Bof_GetMsTickCount` when a command is taken. -/
  tickTake : ℕ
  /-- `Bof_GetMsTickCount` when the pending operation is looked at. -/
  tickPending : ℕ
  /-- `Bof_GetMsTickCount` when a result is sent. -/
  tickSend : ℕ
  /-- `lws_create_context` returns a context. -/
  createContext : Bool
  /-- The callbacks inside `lws_client_connect_via_info`. -/
  connecting : List Callback
  /-- What `lws_client_connect_via_info` returns. -/
  connectVia : Option Wsi
  /-- The connections whose close callbacks run inside `lws_context_destroy`. -/
  destroying : List Wsi
  /-- `lws_callback_on_writable` is granted. -/
  onWritable : Bool
  /-- `IsThreadLoopMustExit`. -/
  mustExit : Bool

/-- `PUSH_POP_TIMEOUT`. -/
def pushPopTimeout : ℕ := 150

/-- `WS_CLT_MAX_KEY_LEN`. -/
def wsCltMaxKeyLen : ℕ := 128

/-- `Result_X.Sts_E = ..`. -/
def State.setSts (s : State cfg) (sts : BofErr) : State cfg := { s with loop.result.sts := sts }

/-! ### Taking a command -/

/-- The next command is popped into `mCurrentOp_X`, which keeps its value when there is none
and the turn has called `lws_service`: whether there was one, and the state. A callback
inside `lws_service` that destroys the context does not make this turn reset `mCurrentOp_X`. -/
def State.popNextOp (s : State cfg) : Bool × State cfg :=
  let s := { s with loop.currentOp := if s.loop.service then s.loop.currentOp else .reset }
  match s.paramCollection.pop with
  | some (op, q) => (true, { s with loop.currentOp := op, paramCollection := q })
  | none => (false, s)

/-- The result a command starts with. -/
def OperationParam.newResult (op : OperationParam) (now : ℕ) : OperationResult :=
  { OperationResult.reset with
    operation := op.operation
    opTicket := op.ticket
    sts := .noError
    time := elapsedMsTime now op.timer }

/-- `mWebSocketState_X` is connected, as READ and WRITE see it. -/
def State.isConnected (s : State cfg) : Bool :=
  if cfg.nbMaxClient = 0 then s.webSocketState.connectDone && s.webSocketState.pWebSocket.isSome
  else s.webSocketState.pWebSocket.isSome

/-- `case BOF_WEB_RPC_SOCKET_OPERATION_LISTEN`. -/
def State.commandListen (s : State cfg) (env : LoopEnv) : State cfg :=
  if cfg.nbMaxClient = 0 then s.setSts .wrongMode
  else if s.loop.listeningMode = false ∧ s.lwsContext = false then
    let s := { s with webSocketState.connectDone := false }
    if env.createContext then
      { s with
        lwsContext := true
        loop.result.sts := .noError
        loop.currentOp.timeOut := pushPopTimeout
        loop.listenTicketId := s.loop.currentOp.ticket
        loop.listeningMode := true }
    else (s.clientDisconnect env.destroying).setSts .init
  else s.setSts .invalidState

/-- The state and the key allow a CONNECT. -/
def State.canConnect (s : State cfg) (wsCltKey : Key) : Prop :=
  s.webSocketState.connectDone = false ∧ s.lwsContext = false ∧ wsCltKey.length ≠ 0 ∧
    wsCltKey.length < wsCltMaxKeyLen

instance (s : State cfg) (key : Key) : Decidable (s.canConnect key) := inferInstanceAs (Decidable (_ ∧ _ ∧ _ ∧ _))

/-- `case BOF_WEB_RPC_SOCKET_OPERATION_CONNECT`. -/
def State.commandConnect (s : State cfg) (env : LoopEnv) (wsCltKey : Key) : State cfg :=
  if cfg.nbMaxClient ≠ 0 then s.setSts .wrongMode
  else if s.canConnect wsCltKey then
    if env.createContext then
      let s := callbacks env.connecting { s with lwsContext := true }
      let s := { s with webSocketState.pWebSocket := env.connectVia }
      s.setSts (if env.connectVia.isSome then .noError else .enotconn)
    else (s.clientDisconnect env.destroying).setSts .init
  else s.setSts .invalidState

/-- `case BOF_WEB_RPC_SOCKET_OPERATION_DISCONNECT`. -/
def State.commandDisconnect (s : State cfg) (env : LoopEnv) : State cfg :=
  if cfg.nbMaxClient ≠ 0 then s.setSts .wrongMode
  else if s.webSocketState.connectDone = true ∨ s.lwsContext = true then
    (s.clientDisconnect env.destroying).setSts .noError
  else s.setSts .invalidState

/-- `case BOF_WEB_RPC_SOCKET_OPERATION_EXIT`. -/
def State.commandExit (s : State cfg) : State cfg := { s.setSts .cancel with loop.running := false }

/-- `case BOF_WEB_RPC_SOCKET_OPERATION_READ`. -/
def State.commandRead (s : State cfg) (nb : ℕ) (buffer : Bool) : State cfg :=
  s.setSts (if s.isConnected then (if buffer = true ∧ nb ≠ 0 then .noError else .einval) else .enotconn)

/-- The write that is queued for a WRITE command. -/
def State.newWriteOp (s : State cfg) (nb : ℕ) (data : List UInt8) : WriteOp :=
  { timeOut := s.loop.currentOp.timeOut
    timer := s.loop.currentOp.timer
    buffer := (Buffer.allocate nb).write nb data
    result := { s.loop.result with sts := .noError }
    acceptedFor := s.webSocketState.pWebSocket }

/-- `case BOF_WEB_RPC_SOCKET_OPERATION_WRITE`: the payload is queued, and a writable callback
asked for. -/
def State.commandWrite (s : State cfg) (env : LoopEnv) (nb : ℕ) (buffer : Option (List UInt8)) : State cfg :=
  match s.isConnected, buffer, nb with
  | false, _, _ => s.setSts .enotconn
  | true, none, _ => s.setSts .einval
  | true, some _, 0 => s.setSts .einval
  | true, some data, nb + 1 =>
    match s.writeOpCollection.push (s.newWriteOp (nb + 1) data) with
    | none => s.setSts .full
    | some q =>
      let s := { s with writeOpCollection := q }
      (s.callbackOnWritable s.webSocketState.pWebSocket env.onWritable).setSts
        (if env.onWritable then .noError else .operationFailed)

/-- The `switch` on a new command. -/
def State.command (s : State cfg) (env : LoopEnv) : State cfg :=
  match s.loop.currentOp.opParam with
  | .listen => s.commandListen env
  | .connect wsCltKey => s.commandConnect env wsCltKey
  | .disconnect => s.commandDisconnect env
  | .exit => s.commandExit
  | .read nb buffer => s.commandRead nb buffer
  | .write nb buffer => s.commandWrite env nb buffer
  | .max => s.setSts .invalidCommand

/-- The beginning of a new command: its result, and its timer restarted. -/
def State.beginCommand (s : State cfg) (env : LoopEnv) : State cfg :=
  { s with
    loop.result := s.loop.currentOp.newResult env.tickTake
    loop.currentOp.timer := env.tickTake
    loop.sendResult := true
    operationPending := true
    history.executed := s.history.executed ++ [s.loop.currentOp] }

/-- A new command is executed; it is pending if it has not failed. -/
def State.takeCommand (s : State cfg) (env : LoopEnv) : State cfg :=
  let s := (s.beginCommand env).command env
  if s.loop.result.sts = .noError then { s with loop.ioPending := true } else s

/-! ### The pending operation -/

/-- The `switch` on the pending operation. -/
def State.pending (s : State cfg) (env : LoopEnv) : State cfg :=
  let s := { s with loop.sendResult := false }
  match s.loop.currentOp.opParam with
  | .listen =>
    if s.webSocketState.connectDone then
      { s with
        webSocketState.connectDone := false
        loop.currentOp.timer := env.tickPending
        loop.result.operation := .connect
        loop.result.opTicket := s.loop.listenTicketId
        loop.result.sts := .noError
        loop.sendResult := true
        loop.ioPending := true }
    else s
  | .connect _ =>
    if s.webSocketState.connectDone then
      { s with loop.result.sts := .noError, loop.sendResult := true, loop.ioPending := false }
    else s
  | .disconnect => { s with loop.sendResult := true, loop.ioPending := false }
  | .read nb buffer =>
    match s.rxBufferCollection.popBuffer with
    | some (m, rx) =>
      { s with
        rxBufferCollection := rx
        loop.result := { s.loop.result with
          sts := .noError, size := min nb (Message.payload m).length, buffer := buffer, message := some m }
        loop.sendResult := true
        loop.ioPending := false }
    | none => s.setSts .pending
  | .write _ _ => { s with loop.result.sts := .noError, loop.ioPending := false }
  | _ => { s with loop.result.sts := .badId, loop.ioPending := false }

/-- The operation is over time: `Result_X.Time_U32` was computed just before. Neither a
listening server nor a WRITE has a time limit here. -/
def State.isOverTime (s : State cfg) : Bool :=
  !s.loop.listeningMode && s.loop.currentOp.operation != .write &&
    decide (s.loop.currentOp.timeOut < s.loop.result.time)

/-- An operation that is over time is given up. -/
def State.timeOutOperation (s : State cfg) (env : LoopEnv) : State cfg :=
  let s := if s.loop.currentOp.operation = .connect then s.clientDisconnect env.destroying else s
  { s with loop.result.sts := .etimedout, loop.sendResult := true, loop.ioPending := false }

/-- `if (IoPending_B) { .. }` -/
def State.pendingOperation (s : State cfg) (env : LoopEnv) : State cfg :=
  let s := s.pending env
  let s := { s with loop.result.time := elapsedMsTime env.tickPending s.loop.currentOp.timer }
  if s.isOverTime then s.timeOutOperation env else s

/-! ### The end of an iteration -/

/-- `if (mCancel_B) { .. }` -/
def State.cancelBlock (s : State cfg) : State cfg :=
  { s with
    cancel := false
    paramCollection := .empty
    resultCollection := .empty
    writeOpCollection := .empty
    rxBufferCollection := .empty
    webSocketState := .reset
    operationPending := false
    loop.currentOp := .reset
    loop.sendResult := false
    loop.ioPending := false
    cancelEvent := true }

/-- `if (SendResult_B) { .. }` -/
def State.sendResult (s : State cfg) (env : LoopEnv) : State cfg :=
  let s := { s with
    loop.sendResult := false
    loop.result.time := elapsedMsTime env.tickSend s.loop.currentOp.timer }
  s.report s.loop.result s.loop.currentOp.operation s.loop.currentOp.ticket

/-- The top of the next turn: `lws_service` is called if there is a context. -/
def State.nextTurn (s : State cfg) : State cfg := { s with loop.service := s.lwsContext }

/-- The end of the loop: it is left after EXIT, or when the thread must exit. -/
def State.loopEnd (s : State cfg) (env : LoopEnv) : State cfg :=
  if s.loop.running && !env.mustExit then s.nextTurn
  else { s.clientDisconnect env.destroying with loop.running := false }

/-! ### One iteration -/

/-- The command of this iteration, if one is taken: a pending operation holds it up, unless
the server is listening. -/
def State.newCommand (s : State cfg) (env : LoopEnv) : State cfg :=
  let (newCommandRcv, s) := s.popNextOp
  if newCommandRcv && (!s.loop.ioPending || s.loop.listeningMode) then s.takeCommand env else s

/-- One turn of the loop. -/
def State.iterate (s : State cfg) (env : LoopEnv) : State cfg :=
  if s.loop.running then
    let s := s.newCommand env
    let s := if s.loop.ioPending then s.pendingOperation env else s
    let s := if s.cancel then s.cancelBlock else s
    let s := if s.loop.sendResult then s.sendResult env else s
    s.loopEnd env
  else s

end BofWebRpc.WebSocket
