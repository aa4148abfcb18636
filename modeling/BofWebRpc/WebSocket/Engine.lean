import BofWebRpc.Library.Runs
import BofWebRpc.WebSocket.Processing

/-!
# Runs of the engine

## The model

An `Event` is a call of the user, a callback inside `lws_service`, or the rest of one
iteration of `V_OnProcessing`; `step` executes it, and a run is a list of events.
A callback needs a context. `CancelWebSocketOperation` has two events, the flag it
raises and the end of its wait.

## What is proved

* `Event.byCause` — the case split for what does not depend on which call of the user it is.
* `step_sameEngine`, `step_userCalled` — what the calls of the user leave alone, and what they change.
-/

namespace BofWebRpc.WebSocket

variable {cfg : WebSocketParam}

/-- What can happen next. -/
inductive Event where
  /-- `ProgramWebSocketOperation`, at the given time. -/
  | program (timeOut tick : ℕ) (opParam : OpParam)
  /-- `GetWebSocketOperationResult`. -/
  | collect
  /-- `CancelWebSocketOperation` raises its flag. -/
  | cancel (timeOut : ℕ)
  /-- Its wait ends with the event. -/
  | cancelled
  /-- `ClearWebSocketOperation`. -/
  | clear
  /-- `ResetWebSocketOperation`. -/
  | reset
  /-- A callback inside `lws_service`. -/
  | callback (cb : Callback)
  /-- The rest of an iteration of `V_OnProcessing`. -/
  | iterate (env : LoopEnv)

/-- `BOF_WEB_RPC_PROGRAM_OPERATION`. -/
def State.program (s : State cfg) (timeOut tick : ℕ) (opParam : OpParam) : State cfg :=
  let param : OperationParam := { ticket := s.ticket, timeOut := timeOut, timer := tick, opParam := opParam }
  let s := { s with ticket := cfg.incTicketNumber s.ticket }
  match s.paramCollection.push param with
  | some q =>
    { s with
      paramCollection := q
      operationPending := true
      history.programmed := s.history.programmed ++ [(param.ticket, param.operation)] }
  | none => s

/-- `GetWebSocketOperationResult`. -/
def State.collect (s : State cfg) : State cfg :=
  match s.resultCollection.pop with
  | some (r, q) => { s with resultCollection := q, history.collected := s.history.collected ++ [r] }
  | none => s

/-- `CancelWebSocketOperation`, up to its wait. -/
def State.cancelOperation (s : State cfg) (timeOut : ℕ) : State cfg :=
  if s.cancel then s
  else { s with cancel := true, operationPending := if timeOut = 0 then false else s.operationPending }

/-- The wait of `CancelWebSocketOperation` consumes the event. -/
def State.cancelled (s : State cfg) : State cfg :=
  if s.cancelEvent then { s with cancelEvent := false, operationPending := false } else s

/-- `ClearWebSocketOperation`. -/
def State.clear (s : State cfg) : State cfg :=
  { s with operationPending := false, cancel := false, cancelEvent := false }

/-- `ResetWebSocketOperation`: what is queued for the thread and for the user goes. -/
def State.reset (s : State cfg) : State cfg :=
  ({ s with paramCollection := .empty, resultCollection := .empty } : State cfg).clear

/-- One event. -/
def step (s : State cfg) : Event → State cfg
  | .program timeOut tick opParam => s.program timeOut tick opParam
  | .collect => s.collect
  | .cancel timeOut => s.cancelOperation timeOut
  | .cancelled => s.cancelled
  | .clear => s.clear
  | .reset => s.reset
  | .callback cb => if s.lwsContext then (lwsCallback cb s).2 else s
  | .iterate env => s.iterate env

/-- The event is a `ProgramWebSocketOperation` whose push succeeds. -/
def Event.pushes (s : State cfg) : Event → Bool
  | .program _ _ _ => decide (s.paramCollection.elements.length < cfg.nbMaxOperationPending)
  | _ => false

/-! ### What the calls of the user leave alone -/

/-- A call of the user. -/
def Event.isUser : Event → Bool
  | .program _ _ _ | .collect | .cancel _ | .cancelled | .clear | .reset => true
  | .callback _ | .iterate _ => false

/-- An event is a call of the user, a callback or the rest of an iteration. -/
@[elab_as_elim] theorem Event.byCause {motive : Event → Prop} (user : ∀ e : Event, e.isUser = true → motive e)
    (callback : ∀ cb, motive (.callback cb)) (iterate : ∀ env, motive (.iterate env)) (e : Event) : motive e := by
  cases e with
  | callback cb => exact callback cb
  | iterate env => exact iterate env
  | program _ _ _ | collect | cancel _ | cancelled | clear | reset => exact user _ rfl

/-- The connections, the writes, what has been received and the loop are the same. -/
structure SameEngine (s t : State cfg) : Prop where
  lwsContext : t.lwsContext = s.lwsContext
  webSocketState : t.webSocketState = s.webSocketState
  clientCollection : t.clientCollection = s.clientCollection
  writeOpCollection : t.writeOpCollection = s.writeOpCollection
  rxBufferCollection : t.rxBufferCollection = s.rxBufferCollection
  loop : t.loop = s.loop
  session : t.session = s.session
  writable : t.writable = s.writable
  history : t.history = { s.history with programmed := t.history.programmed, collected := t.history.collected }

/-- **The calls of the user** change queues and flags only. -/
theorem step_sameEngine (s : State cfg) {e : Event} (h : e.isUser = true) : SameEngine s (step s e) := by
  cases e with
  | program timeOut tick opParam =>
    simp only [step, State.program]
    split <;> exact ⟨rfl, rfl, rfl, rfl, rfl, rfl, rfl, rfl, rfl⟩
  | collect =>
    simp only [step, State.collect]
    split <;> exact ⟨rfl, rfl, rfl, rfl, rfl, rfl, rfl, rfl, rfl⟩
  | cancel timeOut =>
    simp only [step, State.cancelOperation]
    split_ifs <;> exact ⟨rfl, rfl, rfl, rfl, rfl, rfl, rfl, rfl, rfl⟩
  | cancelled =>
    simp only [step, State.cancelled]
    split_ifs <;> exact ⟨rfl, rfl, rfl, rfl, rfl, rfl, rfl, rfl, rfl⟩
  | clear | reset => exact ⟨rfl, rfl, rfl, rfl, rfl, rfl, rfl, rfl, rfl⟩
  | callback cb => cases h
  | iterate env => cases h

/-! ### What they change -/

/-- The command that an event queues. -/
def State.queues (s : State cfg) : Event → List OperationParam
  | .program timeOut tick opParam =>
    if s.paramCollection.elements.length < cfg.nbMaxOperationPending then
      [{ ticket := s.ticket, timeOut := timeOut, timer := tick, opParam := opParam }]
    else []
  | _ => []

/-- An event that pushes nothing queues no command. -/
theorem queues_eq_nil {s : State cfg} {e : Event} (h : e.pushes s = false) : s.queues e = [] := by
  cases e with
  | program timeOut tick opParam => exact if_neg (of_decide_eq_false h)
  | collect | cancel timeOut | cancelled | clear | reset | callback cb | iterate env => rfl

/-- What is pushed is one command, with the next ticket. -/
theorem queues_of_pushes {s : State cfg} {e : Event} (h : e.pushes s = true) :
    ∃ op, s.queues e = [op] ∧ op.ticket = s.ticket := by
  cases e with
  | program timeOut tick opParam => exact ⟨_, if_pos (of_decide_eq_true h), rfl⟩
  | collect | cancel timeOut | cancelled | clear | reset | callback cb | iterate env => cases h

/-- `ResetWebSocketOperation`. -/
def Event.isReset : Event → Bool
  | .reset => true
  | _ => false

/-- What a call of the user does to the queues and to the flags: a command is queued, or all go, results go, and only
`CancelWebSocketOperation` raises its flag. -/
structure UserCalled (s : State cfg) (e : Event) (t : State cfg) : Prop where
  paramCollection : t.paramCollection.elements =
    (if e.isReset then [] else s.paramCollection.elements) ++ s.queues e
  programmed : t.history.programmed = s.history.programmed ++ (s.queues e).map fun op => (op.ticket, op.operation)
  resultCollection : ∀ r ∈ t.resultCollection.elements, r ∈ s.resultCollection.elements
  cancel : (∀ timeOut, e ≠ .cancel timeOut) → t.cancel = true → s.cancel = true
  cancelEvent : t.cancelEvent = true → s.cancelEvent = true

/-- **A call of the user** queues a command, takes results, drops what is queued or sets a flag. -/
theorem step_userCalled (s : State cfg) {e : Event} (h : e.isUser = true) : UserCalled s e (step s e) := by
  have hnil : ∀ {α : Type} (l : List α), l = l ++ [] := fun l => (List.append_nil l).symm
  cases e with
  | program timeOut tick opParam =>
    simp only [step, State.program]
    split
    · next q hq =>
      obtain ⟨hroom, helements⟩ := Fifo.push_eq_some_iff.mp hq
      have hqueues : s.queues (.program timeOut tick opParam) = [⟨s.ticket, timeOut, tick, opParam⟩] := if_pos hroom
      exact ⟨by rw [hqueues, helements]; rfl, by rw [hqueues]; rfl, fun _ hr => hr, fun _ hset => hset,
        fun hset => hset⟩
    · next hq =>
      have hqueues : s.queues (.program timeOut tick opParam) = [] :=
        if_neg (Nat.not_lt.mpr (Fifo.push_eq_none_iff.mp hq))
      exact ⟨by rw [hqueues]; exact hnil _, by rw [hqueues]; exact hnil _, fun _ hr => hr, fun _ hset => hset,
        fun hset => hset⟩
  | collect =>
    simp only [step, State.collect]
    split
    · next r q hq =>
      refine ⟨hnil _, hnil _, fun r' hr' => ?_, fun _ hset => hset, fun hset => hset⟩
      rw [Fifo.pop_eq_some_iff.mp hq]
      exact List.mem_cons_of_mem r hr'
    · exact ⟨hnil _, hnil _, fun _ hr => hr, fun _ hset => hset, fun hset => hset⟩
  | cancel timeOut =>
    simp only [step, State.cancelOperation]
    split_ifs <;> exact ⟨hnil _, hnil _, fun _ hr => hr, fun hnot _ => absurd rfl (hnot timeOut), fun hset => hset⟩
  | cancelled =>
    simp only [step, State.cancelled]
    split_ifs with hevent
    · exact ⟨hnil _, hnil _, fun _ hr => hr, fun _ hset => hset, fun _ => hevent⟩
    · exact ⟨hnil _, hnil _, fun _ hr => hr, fun _ hset => hset, fun hset => hset⟩
  | clear =>
    refine ⟨hnil _, hnil _, fun _ hr => hr, fun _ hset => ?_, fun hset => ?_⟩
    · exact absurd hset Bool.false_ne_true
    · exact absurd hset Bool.false_ne_true
  | reset =>
    refine ⟨rfl, hnil _, fun _ hr => absurd hr List.not_mem_nil, fun _ hset => ?_, fun hset => ?_⟩
    · exact absurd hset Bool.false_ne_true
    · exact absurd hset Bool.false_ne_true
  | callback cb | iterate env => cases h

/-- A queued command was there before, or is the one that has been programmed. -/
theorem UserCalled.mem_paramCollection {s t : State cfg} {e : Event} (h : UserCalled s e t) {op : OperationParam}
    (hop : op ∈ t.paramCollection.elements) : op ∈ s.paramCollection.elements ∨ op ∈ s.queues e := by
  rw [h.paramCollection] at hop
  refine (List.mem_append.mp hop).imp_left fun hkept => ?_
  split_ifs at hkept
  · exact absurd hkept List.not_mem_nil
  · exact hkept

/-- The command that is queued is that of the call. -/
theorem eq_of_mem_queues {s : State cfg} {timeOut tick : ℕ} {opParam : OpParam} {op : OperationParam}
    (hop : op ∈ s.queues (.program timeOut tick opParam)) : op = ⟨s.ticket, timeOut, tick, opParam⟩ := by
  simp only [State.queues] at hop
  split_ifs at hop
  · exact List.mem_singleton.mp hop
  · exact absurd hop List.not_mem_nil

/-! ### A client and a server, for runs on fixed inputs -/

/-- A client without user callbacks, and at most two operations. -/
def client : WebSocketParam :=
  { nbMaxOperationPending := 2, nbMaxClient := 0, onOperation := false, onEvent := false, onOpen := false,
    onClose := false, onError := false, onMessage := false, incTicketNumber := (· + 1) }

/-- A server of two clients, with `OnMessage`. -/
def server : WebSocketParam := { client with nbMaxClient := 2, onMessage := true }

/-- An iteration at time `tick` in which every call succeeds and the connection is `w`. -/
def LoopEnv.at (tick : ℕ) (w : Wsi) : LoopEnv :=
  { tickTake := tick, tickPending := tick, tickSend := tick, createContext := true, connecting := [],
    connectVia := some w, destroying := [], onWritable := true, mustExit := false }

/-- A command is programmed at time `tick`, with a second to execute it, and taken by an
iteration on the connection `w`. -/
def Event.execute (tick : ℕ) (w : Wsi) (opParam : OpParam) : List Event :=
  [.program 1000 tick opParam, .iterate (.at tick w)]

/-- A client connects as `w`. -/
def connectAs (w : Wsi) : List Event :=
  Event.execute 0 w (.connect ['k']) ++ [.callback (.clientEstablished w true), .iterate (.at 0 w)]

/-- It writes one byte. -/
def writeByte (w : Wsi) : List Event := Event.execute 0 w (.write 1 (some [65]))

/-- A client connects as `w`, and writes one byte. -/
def connectAndWrite (w : Wsi) : List Event := connectAs w ++ writeByte w

/-- The connection `w` becomes writable, and takes the byte. -/
def oneByteSent (w : Wsi) : Event := .callback (.writeable .client w { written := 1, tick := 0, granted := true })

/-- The client of the examples, connected as `1`. -/
def connected : State client := Runs.exec step State.start (connectAs 1)

end BofWebRpc.WebSocket
