import BofWebRpc.WebSocket.State
import Mathlib.Data.Int.Notation

/-!
# The callback of libwebsockets

`BofWebSocket::LwsCallback`, one definition for each of the reasons it handles, and
`lwsCallback` for the `switch`.

## The model

A `Callback` is a reason with the connection and what the calls made by that branch
answer: the socket buffer sizes can be set, the return value of `lws_write`, the free
space of the receive buffer, the answers of the user's callbacks. Assertions are
compiled out. ESTABLISHED reads a local variable that only ADD_HEADERS assigns
(`pWsCltKey_c`), so that its key is arbitrary.

Before a writable callback `libwebsockets` clears the request for it; after a close
callback the connection has no request and no session data. A reply that a user
callback writes itself is sent at once and leaves no trace in the state.

## What is proved

* `lwsCallback_same`, `callbacks_same` — no callback touches the variables of
  `V_OnProcessing` or the queue of commands.
* `lwsCallback_sameWrites` — only a writable callback touches the writes.
* `onWriteable_cases` — it leaves the queue of writes alone, or finishes its oldest
  element with one result.
-/

namespace BofWebRpc.WebSocket

open Reassembly

variable {cfg : WebSocketParam}

/-- Client or server, for the reasons that exist in both variants. -/
inductive Side where
  | server
  | client
  deriving DecidableEq

/-- The answers of the calls that a writable callback makes. -/
structure WriteEnv where
  /-- The return value of `lws_write`. -/
  written : ℤ
  /-- `Bof_GetMsTickCount`. -/
  tick : ℕ
  /-- `lws_callback_on_writable` is granted. -/
  granted : Bool
  deriving DecidableEq

/-- The answers of the calls that a RECEIVE callback makes. -/
structure ReceiveEnv where
  /-- There is room for the fragment. -/
  room : Bool
  /-- `OnMessage` returns `BOF_ERR_NO_ERROR`. -/
  onMessage : Bool
  /-- `OnEvent` returns `BOF_ERR_NO_ERROR`. -/
  onEvent : Bool
  deriving DecidableEq

/-- A call of `LwsCallback`. -/
inductive Callback where
  | httpBindProtocol (w : Wsi)
  /-- The argument `bof_ws_clt_key` of the URL, if there is one. -/
  | addHeaders (w : Wsi) (key : Option Key)
  /-- `SetSocketBufferSize` succeeds; the content of `pWsCltKey_c`. -/
  | established (w : Wsi) (bufferSize : Bool) (key : Key)
  | clientEstablished (w : Wsi) (bufferSize : Bool)
  | writeable (side : Side) (w : Wsi) (env : WriteEnv)
  | receive (side : Side) (w : Wsi) (input : List UInt8) (final : Bool) (env : ReceiveEnv)
  | clientClosed (w : Wsi)
  | closed (w : Wsi)
  /-- The connections whose close callbacks run inside `lws_context_destroy`. -/
  | clientConnectionError (w : Wsi) (destroying : List Wsi)
  /-- A reason without a branch. -/
  | other (w : Wsi)
  deriving DecidableEq

/-! ### Clients -/

/-- `IsClientExist`. -/
def State.isClientExist (s : State cfg) (key : Key) : Bool := s.clientCollection.any fun c => c.1 = key

/-- `AddClient` for the session of the connection `w`: whether the client was added, and the
state. `ConnectDone_B` of the session says the same, unless the collection is full. -/
def State.addClient (s : State cfg) (key : Key) (w : Wsi) : Bool × State cfg :=
  let free := s.clientCollection.length < cfg.nbMaxClient
  let added := free && !s.isClientExist key
  let data : DataPerSession := { s.session w with connectDone := added }
  (added, { s with
    session := if free then Function.update s.session w data else s.session
    clientCollection := if added then s.clientCollection ++ [(key, data)] else s.clientCollection })

/-- `RemoveClient` for the session of the connection `w`. -/
def State.removeClient (s : State cfg) (w : Wsi) : State cfg :=
  { s with clientCollection := s.clientCollection.eraseP fun c => c.2.pWebSocket = (s.session w).pWebSocket }

/-! ### Opening and closing -/

/-- `LWS_CALLBACK_HTTP_BIND_PROTOCOL`. -/
def State.onHttpBindProtocol (s : State cfg) (w : Wsi) : State cfg :=
  { s with webSocketState.pWebSocket := some w }

/-- `LWS_CALLBACK_ADD_HEADERS`: the connection is rejected when the value is `1`. -/
def State.onAddHeaders (s : State cfg) (key : Option Key) : ℤ :=
  -- a client without a key gets `BofWsClt_00000001`: the counter is never incremented
  let key := key.getD "BofWsClt_00000001".toList
  if s.clientCollection.length < cfg.nbMaxClient then (if s.isClientExist key then 1 else 0) else 1

/-- `LWS_CALLBACK_ESTABLISHED`. -/
def State.onEstablished (s : State cfg) (w : Wsi) (bufferSize : Bool) (key : Key) : ℤ × State cfg :=
  if bufferSize then
    let s := { s with
      webSocketState.pWebSocket := some w
      session := Function.update s.session w { s.session w with pWebSocket := some w } }
    let (added, s) := s.addClient key w
    if added then
      (0, ({ s with webSocketState.connectDone := true, history.admitted := s.history.admitted ++ [w] }).callOnOpen w)
    else (1, s)
  else (-2, s)

/-- `LWS_CALLBACK_CLIENT_ESTABLISHED`. -/
def State.onClientEstablished (s : State cfg) (w : Wsi) (bufferSize : Bool) : ℤ × State cfg :=
  if bufferSize then (0, ({ s with webSocketState.connectDone := true }).callOnOpen w) else (-4, s)

/-- A connection is gone: `libwebsockets` drops its request and its session data. -/
def State.forget (s : State cfg) (w : Wsi) : State cfg :=
  { s with
    writable := s.writable.filter (· ≠ w)
    session := Function.update s.session w .reset }

/-- `LWS_CALLBACK_CLIENT_CLOSED`. -/
def State.onClientClosed (s : State cfg) (w : Wsi) : State cfg :=
  (({ s with webSocketState.connectDone := false }).callOnClose w).forget w

/-- `LWS_CALLBACK_CLOSED`. -/
def State.onClosed (s : State cfg) (w : Wsi) : State cfg :=
  ((({ s with webSocketState.connectDone := false }).removeClient w).callOnClose w).forget w

/-- The close callback of a connection of this engine. -/
def State.onClose (s : State cfg) (w : Wsi) : State cfg :=
  if cfg.nbMaxClient = 0 then s.onClientClosed w else s.onClosed w

/-- `BOF_LWS_CLIENT_DISCONNECT`; `lws_context_destroy` runs the close callbacks of the
connections `destroying`. -/
def State.clientDisconnect (s : State cfg) (destroying : List Wsi) : State cfg :=
  let s := if s.lwsContext then { destroying.foldl State.onClose s with lwsContext := false, writable := [] } else s
  { s with webSocketState := .reset, rxBufferCollection := .empty }

/-- `LWS_CALLBACK_CLIENT_CONNECTION_ERROR`. -/
def State.onClientConnectionError (s : State cfg) (destroying : List Wsi) : State cfg :=
  let s := { s with history.errors := if cfg.onError then s.history.errors + 1 else s.history.errors }
  s.clientDisconnect destroying

/-! ### Writing -/

/-- What becomes of the oldest write when its payload, of `remain` bytes, has been handed
to `lws_write`: the status it is finished with, or `none` when it stays. -/
def WriteOp.outcome (op : WriteOp) (env : WriteEnv) : Option BofErr :=
  let remain := op.buffer.remainToRead
  if env.written < 0 ∨ (remain : ℤ) < env.written then some .write
  else if env.written = remain then some .noError
  else if op.timeOut < elapsedMsTime env.tick op.timer then some .etimedout
  else none

/-- The result of a write that is finished. -/
def WriteOp.finish (op : WriteOp) (env : WriteEnv) (sts : BofErr) : OperationResult :=
  { op.result with
    sts := sts
    size := toU32 (op.buffer.data.length - lwsPre)
    buffer := true
    time := elapsedMsTime env.tick op.timer }

/-- The result is pushed, `OnOperation` called and the write removed. -/
def State.finishWrite (s : State cfg) (r : OperationResult) : State cfg :=
  { s.report r r.operation r.opTicket with writeOpCollection := s.writeOpCollection.skip }

/-- `LWS_CALLBACK_SERVER_WRITEABLE` and `LWS_CALLBACK_CLIENT_WRITEABLE`: the oldest write is
served, on whichever connection became writable. The element of the queue is a copy:
what a partial write has sent is not noted in it. -/
def State.onWriteable (s : State cfg) (w : Wsi) (env : WriteEnv) : State cfg :=
  let s := { s with writable := s.writable.filter (· ≠ w) }
  match s.writeOpCollection.peek with
  | none => s
  | some op =>
    if op.buffer.remainToRead = 0 then s
    else
      let s := { s with history.transmitted := s.history.transmitted ++ [(w, op)] }
      match op.outcome env with
      | some sts => s.finishWrite (op.finish env sts)
      | none => s.callbackOnWritable s.webSocketState.pWebSocket env.granted

/-! ### Receiving -/

/-- A message is complete: it is handed to the callbacks that are set, and the oldest
entry of the receive buffer removed when one of them accepts it. -/
def State.onMessageComplete (s : State cfg) (w : Wsi) (m : Message) (env : ReceiveEnv) : State cfg :=
  let s := { s with history.handed := s.history.handed ++ [(w, m)] }
  let doReleaseBuffer := (cfg.onMessage && env.onMessage) || (cfg.onEvent && env.onEvent)
  if doReleaseBuffer then { s with rxBufferCollection := s.rxBufferCollection.skip }
  else { s with history.refused := s.history.refused ++ [m] }

/-- `LWS_CALLBACK_RECEIVE` and `LWS_CALLBACK_CLIENT_RECEIVE`. When not even one fragment of
the message could be stored, the final fragment finds `pRawBuffer_X` unset, and
what the callbacks are given is not known. -/
def State.onReceive (s : State cfg) (w : Wsi) (input : List UInt8) (final : Bool) (env : ReceiveEnv) : State cfg :=
  let (entry, buffer) := s.rxBufferCollection.receive env.room final (w, input)
  let s := { s with rxBufferCollection := buffer }
  match final, entry with
  | true, some m => s.onMessageComplete w m env
  | _, _ => s

/-! ### The callback -/

/-- `BofWebSocket::LwsCallback`. -/
def lwsCallback (cb : Callback) (s : State cfg) : ℤ × State cfg :=
  match cb with
  | .httpBindProtocol w => (0, s.onHttpBindProtocol w)
  | .addHeaders _ key => (s.onAddHeaders key, s)
  | .established w bufferSize key => s.onEstablished w bufferSize key
  | .clientEstablished w bufferSize => s.onClientEstablished w bufferSize
  | .writeable _ w env => (0, s.onWriteable w env)
  | .receive _ w input final env => (0, s.onReceive w input final env)
  | .clientClosed w => (0, s.onClientClosed w)
  | .closed w => (0, s.onClosed w)
  | .clientConnectionError _ destroying => (0, s.onClientConnectionError destroying)
  | .other _ => (0, s)

/-- The callbacks `cbs`, one after the other. -/
def callbacks (cbs : List Callback) (s : State cfg) : State cfg := cbs.foldl (fun s cb => (lwsCallback cb s).2) s

/-! ### What callbacks leave alone -/

/-- The queue of commands, what the user has done, what has been executed and the cancel flag are the same. -/
structure SameUser (s s' : State cfg) : Prop where
  paramCollection : s'.paramCollection = s.paramCollection
  cancel : s'.cancel = s.cancel
  programmed : s'.history.programmed = s.history.programmed
  collected : s'.history.collected = s.history.collected
  executed : s'.history.executed = s.history.executed

/-- So are the variables of `V_OnProcessing`. -/
structure SameCommands (s s' : State cfg) : Prop extends SameUser s s' where
  loop : s'.loop = s.loop

/-- The queue of writes, the results and what has been transmitted are the same. -/
structure SameWrites (s s' : State cfg) : Prop where
  writeOpCollection : s'.writeOpCollection = s.writeOpCollection
  resultCollection : s'.resultCollection = s.resultCollection
  pushed : s'.history.pushed = s.history.pushed
  transmitted : s'.history.transmitted = s.history.transmitted

theorem SameUser.refl (s : State cfg) : SameUser s s := ⟨rfl, rfl, rfl, rfl, rfl⟩

theorem SameUser.trans {s t u : State cfg} (h : SameUser s t) (h' : SameUser t u) : SameUser s u :=
  ⟨h'.paramCollection.trans h.paramCollection, h'.cancel.trans h.cancel, h'.programmed.trans h.programmed,
    h'.collected.trans h.collected, h'.executed.trans h.executed⟩

theorem SameCommands.refl (s : State cfg) : SameCommands s s := ⟨.refl s, rfl⟩

theorem SameCommands.trans {s t u : State cfg} (h : SameCommands s t) (h' : SameCommands t u) : SameCommands s u :=
  ⟨h.toSameUser.trans h'.toSameUser, h'.loop.trans h.loop⟩

theorem SameWrites.refl (s : State cfg) : SameWrites s s := ⟨rfl, rfl, rfl, rfl⟩

theorem SameWrites.trans {s t u : State cfg} (h : SameWrites s t) (h' : SameWrites t u) : SameWrites s u :=
  ⟨h'.writeOpCollection.trans h.writeOpCollection, h'.resultCollection.trans h.resultCollection,
    h'.pushed.trans h.pushed, h'.transmitted.trans h.transmitted⟩

section Frames

variable (s : State cfg) (w : Wsi)

theorem onEstablished_same (bufferSize : Bool) (key : Key) :
    SameCommands s (s.onEstablished w bufferSize key).2 ∧ SameWrites s (s.onEstablished w bufferSize key).2 := by
  simp only [State.onEstablished]
  split_ifs <;> exact ⟨⟨⟨rfl, rfl, rfl, rfl, rfl⟩, rfl⟩, ⟨rfl, rfl, rfl, rfl⟩⟩

/-- The server admits the client: it has room, and the key is new. -/
def State.admits (bufferSize : Bool) (key : Key) : Bool :=
  bufferSize && decide (s.clientCollection.length < cfg.nbMaxClient) && !s.isClientExist key

/-- ESTABLISHED signals the connection exactly when it is admitted. -/
theorem onEstablished_cases (bufferSize : Bool) (key : Key) :
    (s.admits bufferSize key = true ∧ (s.onEstablished w bufferSize key).2.webSocketState.connectDone = true ∧
      (s.onEstablished w bufferSize key).2.history.admitted = s.history.admitted ++ [w]) ∨
    (s.admits bufferSize key = false ∧
      (s.onEstablished w bufferSize key).2.webSocketState.connectDone = s.webSocketState.connectDone ∧
      (s.onEstablished w bufferSize key).2.history.admitted = s.history.admitted) := by
  cases bufferSize with
  | false => exact .inr ⟨rfl, rfl, rfl⟩
  | true =>
    cases hadmits : s.admits true key with
    | true =>
      have hadded : (decide (s.clientCollection.length < cfg.nbMaxClient) && !s.isClientExist key) = true := hadmits
      refine .inl ⟨rfl, ?_⟩
      simp only [State.onEstablished, State.addClient, State.isClientExist] at hadded ⊢
      simp only [hadded, if_true]
      exact ⟨rfl, rfl⟩
    | false =>
      have hadded : (decide (s.clientCollection.length < cfg.nbMaxClient) && !s.isClientExist key) = false := hadmits
      refine .inr ⟨rfl, ?_⟩
      simp only [State.onEstablished, State.addClient, State.isClientExist] at hadded ⊢
      simp only [hadded, if_true]
      exact ⟨rfl, rfl⟩

theorem onClientEstablished_same (bufferSize : Bool) :
    SameCommands s (s.onClientEstablished w bufferSize).2 ∧ SameWrites s (s.onClientEstablished w bufferSize).2 := by
  simp only [State.onClientEstablished]
  split_ifs <;> exact ⟨⟨⟨rfl, rfl, rfl, rfl, rfl⟩, rfl⟩, ⟨rfl, rfl, rfl, rfl⟩⟩

theorem onClose_same : SameCommands s (s.onClose w) ∧ SameWrites s (s.onClose w) := by
  simp only [State.onClose]
  split_ifs <;> exact ⟨⟨⟨rfl, rfl, rfl, rfl, rfl⟩, rfl⟩, ⟨rfl, rfl, rfl, rfl⟩⟩

theorem foldl_onClose_same (ws : List Wsi) :
    SameCommands s (ws.foldl State.onClose s) ∧ SameWrites s (ws.foldl State.onClose s) := by
  induction ws generalizing s with
  | nil => exact ⟨.refl s, .refl s⟩
  | cons w ws ih =>
    have h := onClose_same s w
    have h' := ih (s.onClose w)
    exact ⟨h.1.trans h'.1, h.2.trans h'.2⟩

/-- A disconnection touches neither commands nor writes. -/
theorem clientDisconnect_same (destroying : List Wsi) :
    SameCommands s (s.clientDisconnect destroying) ∧ SameWrites s (s.clientDisconnect destroying) := by
  have h := foldl_onClose_same s destroying
  simp only [State.clientDisconnect]
  split_ifs
  · exact ⟨⟨⟨h.1.paramCollection, h.1.cancel, h.1.programmed, h.1.collected, h.1.executed⟩, h.1.loop⟩,
      ⟨h.2.writeOpCollection, h.2.resultCollection, h.2.pushed, h.2.transmitted⟩⟩
  · exact ⟨⟨⟨rfl, rfl, rfl, rfl, rfl⟩, rfl⟩, ⟨rfl, rfl, rfl, rfl⟩⟩

theorem onClientConnectionError_same (destroying : List Wsi) :
    SameCommands s (s.onClientConnectionError destroying) ∧ SameWrites s (s.onClientConnectionError destroying) := by
  have h := clientDisconnect_same
    ({ s with history.errors := if cfg.onError then s.history.errors + 1 else s.history.errors } : State cfg) destroying
  exact ⟨⟨⟨h.1.paramCollection, h.1.cancel, h.1.programmed, h.1.collected, h.1.executed⟩, h.1.loop⟩,
    ⟨h.2.writeOpCollection, h.2.resultCollection, h.2.pushed, h.2.transmitted⟩⟩

theorem onReceive_same (input : List UInt8) (final : Bool) (env : ReceiveEnv) :
    SameCommands s (s.onReceive w input final env) ∧ SameWrites s (s.onReceive w input final env) := by
  simp only [State.onReceive, State.onMessageComplete]
  split
  · split_ifs <;> exact ⟨⟨⟨rfl, rfl, rfl, rfl, rfl⟩, rfl⟩, ⟨rfl, rfl, rfl, rfl⟩⟩
  · exact ⟨⟨⟨rfl, rfl, rfl, rfl, rfl⟩, rfl⟩, ⟨rfl, rfl, rfl, rfl⟩⟩

theorem onReceive_webSocketState (input : List UInt8) (final : Bool) (env : ReceiveEnv) :
    (s.onReceive w input final env).webSocketState = s.webSocketState := by
  simp only [State.onReceive, State.onMessageComplete]
  split
  · split_ifs <;> rfl
  · rfl

/-- An ESTABLISHED that gets as far as the session makes its connection the current one. -/
theorem onEstablished_pWebSocket (key : Key) :
    (s.onEstablished w true key).2.webSocketState.pWebSocket = some w := by
  simp only [State.onEstablished, if_true]
  split_ifs <;> rfl

end Frames

/-! ### What a writable callback does -/

/-- A write is finished with one result, which has a place in the queue of results or is lost. -/
theorem finishWrite_eq (s : State cfg) (r : OperationResult) :
    ∃ q pushed notified, s.finishWrite r =
        { s with
          writeOpCollection := s.writeOpCollection.skip
          resultCollection := q
          history.pushed := pushed
          history.notified := notified } ∧
      Pushed s r q pushed := by
  obtain ⟨q, pushed, notified, h, hp⟩ := report_eq s r r.operation r.opTicket
  exact ⟨q, pushed, notified, by rw [State.finishWrite, h], hp⟩

/-- **A writable callback** leaves the writes alone, or hands the oldest one to `lws_write`
and then keeps it or finishes it. -/
theorem onWriteable_cases (s : State cfg) (w : Wsi) (env : WriteEnv) :
    (s.onWriteable w env = { s with writable := s.writable.filter (· ≠ w) } ∧
      ∀ op, s.writeOpCollection.peek = some op → op.buffer.remainToRead = 0) ∨
    ∃ op, s.writeOpCollection.peek = some op ∧ op.buffer.remainToRead ≠ 0 ∧
      ((op.outcome env = none ∧ s.onWriteable w env =
        ({ s with writable := s.writable.filter (· ≠ w),
                  history.transmitted := s.history.transmitted ++ [(w, op)] } : State cfg).callbackOnWritable
          s.webSocketState.pWebSocket env.granted) ∨
      ∃ sts q pushed notified, op.outcome env = some sts ∧ Pushed s (op.finish env sts) q pushed ∧
        s.onWriteable w env =
          { s with
            writable := s.writable.filter (· ≠ w)
            writeOpCollection := s.writeOpCollection.skip
            resultCollection := q
            history.transmitted := s.history.transmitted ++ [(w, op)]
            history.pushed := pushed
            history.notified := notified }) := by
  cases hpeek : s.writeOpCollection.peek with
  | none =>
    refine .inl ⟨?_, fun _ hop => by cases hop⟩
    simp only [State.onWriteable, hpeek]
  | some op =>
    by_cases hrem : op.buffer.remainToRead = 0
    · refine .inl ⟨?_, fun op' h => by cases h; exact hrem⟩
      simp only [State.onWriteable, hpeek, if_pos hrem]
    · refine .inr ⟨op, rfl, hrem, ?_⟩
      cases hout : op.outcome env with
      | none =>
        refine .inl ⟨rfl, ?_⟩
        simp only [State.onWriteable, hpeek, if_neg hrem, hout]
      | some sts =>
        obtain ⟨q, pushed, notified, h, hp⟩ := finishWrite_eq ({ s with
          writable := s.writable.filter (· ≠ w),
          history.transmitted := s.history.transmitted ++ [(w, op)] } : State cfg) (op.finish env sts)
        refine .inr ⟨sts, q, pushed, notified, rfl, hp, ?_⟩
        simp only [State.onWriteable, hpeek, if_neg hrem, hout, h]

theorem callbackOnWritable_eq (s : State cfg) (w : Option Wsi) (granted : Bool) :
    s.callbackOnWritable w granted = { s with writable := (s.callbackOnWritable w granted).writable } := rfl

theorem onWriteable_same (s : State cfg) (w : Wsi) (env : WriteEnv) : SameCommands s (s.onWriteable w env) := by
  rcases onWriteable_cases s w env with ⟨h, -⟩ | ⟨op, -, -, ⟨-, h⟩ | ⟨sts, q, pushed, notified, -, -, h⟩⟩
  · rw [h]
    exact ⟨⟨rfl, rfl, rfl, rfl, rfl⟩, rfl⟩
  · rw [h, callbackOnWritable_eq]
    exact ⟨⟨rfl, rfl, rfl, rfl, rfl⟩, rfl⟩
  · rw [h]
    exact ⟨⟨rfl, rfl, rfl, rfl, rfl⟩, rfl⟩

/-- No callback touches the commands. -/
theorem lwsCallback_same (cb : Callback) (s : State cfg) : SameCommands s (lwsCallback cb s).2 := by
  cases cb with
  | httpBindProtocol w => exact ⟨⟨rfl, rfl, rfl, rfl, rfl⟩, rfl⟩
  | addHeaders w key => exact .refl s
  | established w bufferSize key => exact (onEstablished_same s w bufferSize key).1
  | clientEstablished w bufferSize => exact (onClientEstablished_same s w bufferSize).1
  | writeable side w env => exact onWriteable_same s w env
  | receive side w input final env => exact (onReceive_same s w input final env).1
  | clientClosed w => exact ⟨⟨rfl, rfl, rfl, rfl, rfl⟩, rfl⟩
  | closed w => exact ⟨⟨rfl, rfl, rfl, rfl, rfl⟩, rfl⟩
  | clientConnectionError w destroying => exact (onClientConnectionError_same s destroying).1
  | other w => exact .refl s

/-- Only a writable callback touches the writes. -/
theorem lwsCallback_sameWrites {cb : Callback} (h : ∀ side w env, cb ≠ .writeable side w env) (s : State cfg) :
    SameWrites s (lwsCallback cb s).2 := by
  cases cb with
  | httpBindProtocol w => exact ⟨rfl, rfl, rfl, rfl⟩
  | addHeaders w key => exact .refl s
  | established w bufferSize key => exact (onEstablished_same s w bufferSize key).2
  | clientEstablished w bufferSize => exact (onClientEstablished_same s w bufferSize).2
  | writeable side w env => exact absurd rfl (h side w env)
  | receive side w input final env => exact (onReceive_same s w input final env).2
  | clientClosed w => exact ⟨rfl, rfl, rfl, rfl⟩
  | closed w => exact ⟨rfl, rfl, rfl, rfl⟩
  | clientConnectionError w destroying => exact (onClientConnectionError_same s destroying).2
  | other w => exact .refl s

/-- A callback queues no write. -/
theorem lwsCallback_writes (cb : Callback) (s : State cfg) :
    ∀ op ∈ (lwsCallback cb s).2.writeOpCollection.elements, op ∈ s.writeOpCollection.elements := by
  by_cases hw : ∃ side w env, cb = .writeable side w env
  · obtain ⟨side, w, env, rfl⟩ := hw
    simp only [lwsCallback]
    rcases onWriteable_cases s w env with ⟨h, -⟩ | ⟨op, -, -, ⟨-, h⟩ | ⟨sts, q, pushed, notified, -, -, h⟩⟩
    · rw [h]
      exact fun _ hop => hop
    · rw [h]
      exact fun _ hop => hop
    · rw [h]
      exact fun _ hop => List.mem_of_mem_tail hop
  · rw [(lwsCallback_sameWrites (fun side w env he => hw ⟨side, w, env, he⟩) s).writeOpCollection]
    exact fun _ hop => hop

/-- Only a connection error destroys the context. -/
theorem lwsCallback_lwsContext {cb : Callback} (h : ∀ w destroying, cb ≠ .clientConnectionError w destroying)
    (s : State cfg) : (lwsCallback cb s).2.lwsContext = s.lwsContext := by
  cases cb with
  | httpBindProtocol w => rfl
  | addHeaders w key => rfl
  | established w bufferSize key =>
    simp only [lwsCallback, State.onEstablished]
    split_ifs <;> rfl
  | clientEstablished w bufferSize => cases bufferSize <;> rfl
  | writeable side w env =>
    simp only [lwsCallback]
    rcases onWriteable_cases s w env with ⟨he, -⟩ | ⟨op, -, -, ⟨-, he⟩ | ⟨sts, q, pushed, notified, -, -, he⟩⟩ <;>
      rw [he]
    rfl
  | receive side w input final env =>
    simp only [lwsCallback, State.onReceive, State.onMessageComplete]
    split
    · split_ifs <;> rfl
    · rfl
  | clientClosed w => rfl
  | closed w => rfl
  | clientConnectionError w destroying => exact absurd rfl (h w destroying)
  | other w => rfl

theorem callbacks_same (cbs : List Callback) (s : State cfg) : SameCommands s (callbacks cbs s) := by
  induction cbs generalizing s with
  | nil => exact .refl s
  | cons cb cbs ih => exact (lwsCallback_same cb s).trans (ih _)

end BofWebRpc.WebSocket
