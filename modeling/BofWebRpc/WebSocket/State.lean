import BofWebRpc.Library.Fifo
import BofWebRpc.Library.Reassembly
import Mathlib.Algebra.Group.Nat.Defs
import Mathlib.Logic.Function.Basic

/-!
# The state of a BofWebSocket

## The model

`State` has the members of `BofWebSocket`, the local variables of `V_OnProcessing`
that live from one iteration to the next, and what `libwebsockets` keeps for it: the
session data of each connection and the connections with an outstanding request for
a writable callback. The queues carry their bound. A connection (`struct lws *`) is
a number, a key a list of characters. Times are `uint32_t` milliseconds.

`History` is no part of the program: it records what has been programmed, pushed,
transmitted and received, so that properties of runs can be stated. `WriteOp` and
`OperationResult` each have one field of history too.

The receive and transmit counters, which nothing reads, are left out.
-/

namespace BofWebRpc.WebSocket

open Reassembly

/-! ### Operations and results -/

/-- `BOF_WEB_RPC_SOCKET_OPERATION`. -/
inductive SocketOperation where
  | exit
  | listen
  | connect
  | read
  | write
  | disconnect
  | max
  deriving DecidableEq

/-- `BOFERR`, the codes the program uses; `full` is what a push on a full queue returns
when its time is over. -/
inductive BofErr where
  | noError
  | cancel
  | softInit
  | wrongMode
  | invalidState
  | init
  | enotconn
  | einval
  | operationFailed
  | invalidCommand
  | badId
  | pending
  | etimedout
  | write
  | full
  deriving DecidableEq

/-- `struct lws *`. -/
abbrev Wsi := ℕ

/-- A client key. -/
abbrev Key := List Char

/-- A fragment of a message: the connection it came from, and its bytes. -/
abbrev Fragment := Wsi × List UInt8

/-- A message of the receive buffer, as the fragments it was made of. -/
abbrev Message := List Fragment

/-- The bytes of a message. -/
def Message.payload (m : Message) : List UInt8 := m.flatMap Prod.snd

/-- `OpParam`: the operation and its parameters. A buffer is `none` when the pointer is
null; the buffer of a READ is where the data goes, the one of a WRITE holds the data.
The address and the port of a CONNECT are read by `libwebsockets` only. -/
inductive OpParam where
  | exit
  | listen
  | connect (wsCltKey : Key)
  | read (nb : ℕ) (buffer : Bool)
  | write (nb : ℕ) (buffer : Option (List UInt8))
  | disconnect
  /-- After `Reset`. -/
  | max
  deriving DecidableEq

/-- `Operation_E` of the parameters. -/
def OpParam.operation : OpParam → SocketOperation
  | .exit => .exit
  | .listen => .listen
  | .connect _ => .connect
  | .read _ _ => .read
  | .write _ _ => .write
  | .disconnect => .disconnect
  | .max => .max

/-- `BOF_WEB_RPC_SOCKET_OPERATION_PARAM`. -/
structure OperationParam where
  /-- `Ticket_U32`. -/
  ticket : ℕ
  /-- `TimeOut_U32`. -/
  timeOut : ℕ
  /-- `Timer_U32`. -/
  timer : ℕ
  /-- `Operation_E` and `OpParam`. -/
  opParam : OpParam
  deriving DecidableEq

/-- `Reset`. -/
def OperationParam.reset : OperationParam := { ticket := 0, timeOut := 0, timer := 0, opParam := .max }

/-- `Operation_E`. -/
def OperationParam.operation (p : OperationParam) : SocketOperation := p.opParam.operation

/-- `BOF_WEB_RPC_SOCKET_OPERATION_RESULT`. -/
structure OperationResult where
  /-- `Operation_E`. -/
  operation : SocketOperation
  /-- `OpTicket_U32`. -/
  opTicket : ℕ
  /-- `Sts_E`. -/
  sts : BofErr
  /-- `Size_U32`. -/
  size : ℕ
  /-- `pBuffer_U8` is not null. -/
  buffer : Bool
  /-- `Time_U32`. -/
  time : ℕ
  /-- History: the message a READ has taken out of the receive buffer. -/
  message : Option Message
  deriving DecidableEq

/-- `Reset`. -/
def OperationResult.reset : OperationResult :=
  { operation := .max, opTicket := 0, sts := .softInit, size := 0, buffer := false, time := 0, message := none }

/-! ### Write buffers -/

/-- `LWS_PRE`: the bytes `lws_write` may use in front of the payload. -/
def lwsPre : ℕ := 16

/-- The conversion to `uint32_t`. -/
def toU32 (n : ℕ) : ℕ := n % 2 ^ 32

/-- `BOF_BUFFER`: the bytes up to `Size_U64`, within a storage of `Capacity_U64` bytes,
and the read position. -/
structure Buffer where
  /-- `Capacity_U64`. -/
  capacity : ℕ
  /-- `pData_U8` up to `Size_U64`. -/
  data : List UInt8
  /-- `Offset_U64`. -/
  offset : ℕ
  deriving DecidableEq

/-- `RemainToRead`. -/
def Buffer.remainToRead (b : Buffer) : ℕ := b.data.length - b.offset

/-- `BOF_LWS_ALLOCATE_BUFFER`; `LWS_PRE + size` is computed on `uint32_t`. -/
def Buffer.allocate (size : ℕ) : Buffer :=
  { capacity := toU32 (lwsPre + size), data := List.replicate lwsPre 0, offset := lwsPre }

/-- `BOF_LWS_WRITE_BUFFER`: `Write` appends what fits. -/
def Buffer.write (b : Buffer) (len : ℕ) (p : List UInt8) : Buffer :=
  { b with data := b.data ++ (p.take len).take (b.capacity - b.data.length) }

/-- `BOF_WEB_RPC_SOCKET_WRITE_OP`. -/
structure WriteOp where
  /-- `TimeOut_U32`. -/
  timeOut : ℕ
  /-- `Timer_U32`. -/
  timer : ℕ
  /-- `Buffer_X`. -/
  buffer : Buffer
  /-- `Result_X`. -/
  result : OperationResult
  /-- History: `mWebSocketState_X.pWebSocket_X` when the operation was accepted. -/
  acceptedFor : Option Wsi
  deriving DecidableEq

/-! ### Sessions and parameters -/

/-- `BOF_WEB_SOCKET_DATA_PER_SESSION`. -/
structure DataPerSession where
  /-- `ConnectDone_B`. -/
  connectDone : Bool
  /-- `pWebSocket_X`. -/
  pWebSocket : Option Wsi
  deriving DecidableEq

/-- `Reset`. -/
def DataPerSession.reset : DataPerSession := ⟨false, none⟩

/-- `BOF_WEB_SOCKET_PARAM`, as far as the engine reads it: which callbacks are set, and
the sizes. `incTicketNumber` is `BOF_INC_TICKET_NUMBER` of `bofstd`. -/
structure WebSocketParam where
  /-- `NbMaxOperationPending_U32`. -/
  nbMaxOperationPending : ℕ
  /-- `NbMaxClient_U32`: `0` for a client. -/
  nbMaxClient : ℕ
  onOperation : Bool
  onEvent : Bool
  onOpen : Bool
  onClose : Bool
  onError : Bool
  onMessage : Bool
  incTicketNumber : ℕ → ℕ

/-! ### The state -/

/-- The parameters of a call of `OnOperation`. -/
structure Notification where
  operation : SocketOperation
  ticket : ℕ
  size : ℕ
  buffer : Bool
  sts : BofErr
  deriving DecidableEq

/-- What has happened so far. -/
structure History where
  /-- The ticket and the operation of each successful `ProgramWebSocketOperation`. -/
  programmed : List (ℕ × SocketOperation)
  /-- The commands that `V_OnProcessing` has begun to execute. -/
  executed : List OperationParam
  /-- The results pushed on `mpuSocketOperationResultCollection`. -/
  pushed : List OperationResult
  /-- The results handed out by `GetWebSocketOperationResult`. -/
  collected : List OperationResult
  /-- The calls of `OnOperation`. -/
  notified : List Notification
  /-- What the WRITEABLE callback has handed to `lws_write`, and on which connection. -/
  transmitted : List (Wsi × WriteOp)
  /-- What the callbacks are given after a final fragment, and the connection of that
  fragment. -/
  handed : List (Wsi × Message)
  /-- The messages that neither `OnMessage` nor `OnEvent` accepted. -/
  refused : List Message
  /-- The connections ESTABLISHED admitted. -/
  admitted : List Wsi
  /-- The calls of `OnOpen`, by connection. -/
  opened : List Wsi
  /-- The calls of `OnClose`, by connection. -/
  closed : List Wsi
  /-- The number of calls of `OnError`. -/
  errors : ℕ

/-- Nothing has happened. -/
def History.empty : History :=
  { programmed := [], executed := [], pushed := [], collected := [], notified := [], transmitted := [],
    handed := [], refused := [], admitted := [], opened := [], closed := [], errors := 0 }

/-- `mCurrentOp_X` and the local variables of `V_OnProcessing`. -/
structure Processing where
  /-- `mCurrentOp_X`. -/
  currentOp : OperationParam
  /-- `Result_X`. -/
  result : OperationResult
  /-- `SendResult_B`. -/
  sendResult : Bool
  /-- `IoPending_B`. -/
  ioPending : Bool
  /-- `ListeningMode_B`. -/
  listeningMode : Bool
  /-- `ListenTicketId_U32`. -/
  listenTicketId : ℕ
  /-- The loop has not been left, and `Rts_E` is still `BOF_ERR_NO_ERROR`. -/
  running : Bool
  /-- `mpLwsContext_X` was not null at the top of this turn, so that the turn calls `lws_service`. -/
  service : Bool
  deriving DecidableEq

/-- Before the first iteration. -/
def Processing.start : Processing :=
  { currentOp := .reset, result := .reset, sendResult := false, ioPending := false, listeningMode := false,
    listenTicketId := 0, running := true, service := false }

/-- A `BofWebSocket`. -/
structure State (cfg : WebSocketParam) where
  /-- `mpLwsContext_X` is not null. -/
  lwsContext : Bool
  /-- `mWebSocketState_X`. -/
  webSocketState : DataPerSession
  /-- `mClientCollection`. -/
  clientCollection : List (Key × DataPerSession)
  /-- `mTicket_U32`. -/
  ticket : ℕ
  /-- `mpuSocketOperationParamCollection`. -/
  paramCollection : Fifo OperationParam cfg.nbMaxOperationPending
  /-- `mpuSocketOperationWriteOpCollection`. -/
  writeOpCollection : Fifo WriteOp (cfg.nbMaxOperationPending + 1)
  /-- `mpuSocketOperationResultCollection`. -/
  resultCollection : Fifo OperationResult (cfg.nbMaxOperationPending + 1)
  /-- `mpuRxBufferCollection`. -/
  rxBufferCollection : RawBuffer Fragment
  /-- `mCancel_B`. -/
  cancel : Bool
  /-- `mCancelEvent_X` is signalled. -/
  cancelEvent : Bool
  /-- `mOperationPending_B`. -/
  operationPending : Bool
  /-- `V_OnProcessing`. -/
  loop : Processing
  /-- The session data of each connection. -/
  session : Wsi → DataPerSession
  /-- The connections for which a writable callback is outstanding. -/
  writable : List Wsi
  /-- What has happened. -/
  history : History

variable {cfg : WebSocketParam}

/-- A `BofWebSocket` whose thread has just started. -/
def State.start : State cfg :=
  { lwsContext := false
    webSocketState := .reset
    clientCollection := []
    ticket := 1
    paramCollection := .empty
    writeOpCollection := .empty
    resultCollection := .empty
    rxBufferCollection := .empty
    cancel := false
    cancelEvent := false
    operationPending := false
    loop := .start
    session := fun _ => .reset
    writable := []
    history := .empty }

/-! ### Small updates -/

/-- A result is pushed on `mpuSocketOperationResultCollection`: the status of the push,
and the state. -/
def State.pushResult (s : State cfg) (r : OperationResult) : BofErr × State cfg :=
  match s.resultCollection.push r with
  | some q => (.noError, { s with resultCollection := q, history.pushed := s.history.pushed ++ [r] })
  | none => (.full, s)

/-- `OnOperation` is called, if it is set. -/
def State.notify (s : State cfg) (n : Notification) : State cfg :=
  { s with history.notified := if cfg.onOperation then s.history.notified ++ [n] else s.history.notified }

/-- A result is pushed, and `OnOperation` called for the operation with the status of the
push. -/
def State.report (s : State cfg) (r : OperationResult) (operation : SocketOperation) (ticket : ℕ) : State cfg :=
  let (sts, s) := s.pushResult r
  s.notify ⟨operation, ticket, r.size, r.buffer, sts⟩

/-- `lws_callback_on_writable`, granted or not. -/
def State.callbackOnWritable (s : State cfg) (w : Option Wsi) (granted : Bool) : State cfg :=
  { s with writable := match w, granted with
    | some w, true => s.writable.insert w
    | _, _ => s.writable }

/-- `OnOpen` is called for the connection, if it is set. -/
def State.callOnOpen (s : State cfg) (w : Wsi) : State cfg :=
  { s with history.opened := if cfg.onOpen then s.history.opened ++ [w] else s.history.opened }

/-- `if (mWebSocketParam_X.OnOpen) { mWebSocketParam_X.OnClose(..); }` -/
def State.callOnClose (s : State cfg) (w : Wsi) : State cfg :=
  { s with history.closed := if cfg.onOpen then s.history.closed ++ [w] else s.history.closed }

/-- What a push of `r` does to the queue of results and to the history: both get `r`, or the
queue is full and nothing changes. -/
def Pushed (s : State cfg) (r : OperationResult) (q : Fifo OperationResult (cfg.nbMaxOperationPending + 1))
    (pushed : List OperationResult) : Prop :=
  (q.elements = s.resultCollection.elements ++ [r] ∧ pushed = s.history.pushed ++ [r]) ∨
  (q = s.resultCollection ∧ pushed = s.history.pushed ∧
    cfg.nbMaxOperationPending < s.resultCollection.elements.length)

theorem pushResult_eq (s : State cfg) (r : OperationResult) :
    ∃ q pushed, (s.pushResult r).2 = { s with resultCollection := q, history.pushed := pushed } ∧
      Pushed s r q pushed := by
  unfold State.pushResult
  split
  · next q hq => exact ⟨q, _, rfl, .inl ⟨(Fifo.push_eq_some_iff.mp hq).2, rfl⟩⟩
  · next hq => exact ⟨_, _, rfl, .inr ⟨rfl, rfl, Fifo.push_eq_none_iff.mp hq⟩⟩

theorem report_eq (s : State cfg) (r : OperationResult) (operation : SocketOperation) (ticket : ℕ) :
    ∃ q pushed notified, s.report r operation ticket =
        { s with resultCollection := q, history.pushed := pushed, history.notified := notified } ∧
      Pushed s r q pushed := by
  obtain ⟨q, pushed, h, hp⟩ := pushResult_eq s r
  refine ⟨q, pushed, (s.report r operation ticket).history.notified, ?_, hp⟩
  simp only [State.report, State.notify, h]

/-- `BOF::Bof_ElapsedMsTime`: the difference on `uint32_t`. -/
def elapsedMsTime (now timer : ℕ) : ℕ := toU32 (2 ^ 32 - toU32 timer + now)

end BofWebRpc.WebSocket
