import BofWebRpc.WebSocket.Serving

/-!
# Requests for a writable callback

A WRITE asks for a writable callback when it queues its payload; the callback removes
one payload and clears the request.

## What is proved

* `write_outstanding` — no write is stranded as long as a writable callback finds at most one
  payload, or leaves it and asks again, and as long as the requests are made for the connection
  and granted.
* `not_write_outstanding` — of two payloads queued before the socket becomes
  writable, the second is stranded.
-/

namespace BofWebRpc.WebSocket

open Runs

variable {cfg : WebSocketParam}

/-- While a write is queued, a writable callback is outstanding for the connection `w`. -/
def Outstanding (w : Wsi) (s : State cfg) : Prop := s.writeOpCollection.elements = [] ∨ w ∈ s.writable

instance (w : Wsi) (s : State cfg) : Decidable (Outstanding w s) := inferInstanceAs (Decidable (_ ∨ _))

/-! ### The condition -/

/-- What happens while `w` is open: `w` does not close, nobody cancels or disconnects, and the
commands are READ and WRITE. -/
def Event.On (w : Wsi) : Event → Prop
  | .callback (.closed v) | .callback (.clientClosed v) => v ≠ w
  | e => e.Serves

instance (w : Wsi) : (e : Event) → Decidable (e.On w)
  | .program _ _ _ => inferInstanceAs (Decidable (_ = _))
  | .collect | .cancelled | .clear | .reset => isTrue trivial
  | .cancel _ => isFalse id
  | .callback (.clientConnectionError _ _) => isFalse id
  | .callback (.closed _) | .callback (.clientClosed _) => inferInstanceAs (Decidable (_ ≠ _))
  | .callback (.httpBindProtocol _) | .callback (.established _ _ _) | .callback (.addHeaders _ _)
  | .callback (.clientEstablished _ _) | .callback (.writeable _ _ _) | .callback (.receive _ _ _ _ _)
  | .callback (.other _) => isTrue trivial
  | .iterate _ => inferInstanceAs (Decidable (_ = _))

theorem Event.On.serves {w : Wsi} {e : Event} (h : e.On w) : e.Serves := by
  cases e with
  | callback cb => cases cb <;> first | exact h | trivial
  | program timeOut tick opParam => exact h
  | collect | cancel timeOut | cancelled | clear | reset | iterate env => exact h

/-- A request for a writable callback is made for `w`, the connection that `mWebSocketState_X` has, and granted. -/
def State.Asks (w : Wsi) (s : State cfg) (granted : Bool) : Prop :=
  s.webSocketState.pWebSocket = some w ∧ granted = true

instance (w : Wsi) (s : State cfg) (granted : Bool) : Decidable (s.Asks w granted) :=
  inferInstanceAs (Decidable (_ ∧ _))

/-- The writable callback that serves the oldest write leaves no other one without a request:
the write is the only one, or it stays and a new request is made. -/
def WriteOp.Renewed (w : Wsi) (s : State cfg) (op : WriteOp) (env : WriteEnv) : Prop :=
  op.buffer.remainToRead ≠ 0 ∧ (op.outcome env = none → s.Asks w env.granted) ∧
    (op.outcome env ≠ none → s.writeOpCollection.elements.tail = [])

instance (w : Wsi) (s : State cfg) (op : WriteOp) (env : WriteEnv) : Decidable (op.Renewed w s env) :=
  inferInstanceAs (Decidable (_ ∧ _ ∧ _))

/-- A writable callback of `w` renews the request it has cleared, if a write is left; a WRITE that
is queued makes a request, or finds one. -/
def Event.Renews (w : Wsi) (s : State cfg) : Event → Prop
  | .callback (.writeable _ v env) => v = w → ∀ op ∈ s.writeOpCollection.elements.head?, op.Renewed w s env
  | .iterate env => s.willWrite = true → s.Asks w env.onWritable ∨ w ∈ s.writable
  | _ => True

instance (w : Wsi) (s : State cfg) : (e : Event) → Decidable (e.Renews w s)
  | .callback (.writeable _ _ _) => inferInstanceAs (Decidable (_ → ∀ _ ∈ _, _))
  | .iterate _ => inferInstanceAs (Decidable (_ → _ ∨ _))
  | .program _ _ _ | .collect | .cancelled | .clear | .reset | .cancel _ => isTrue trivial
  | .callback (.clientConnectionError _ _) | .callback (.clientEstablished _ _)
  | .callback (.clientClosed _) | .callback (.httpBindProtocol _) | .callback (.addHeaders _ _)
  | .callback (.established _ _ _) | .callback (.receive _ _ _ _ _) | .callback (.closed _)
  | .callback (.other _) => isTrue trivial

/-! ### The invariant -/

/-- The engine serves, and no write is stranded. -/
structure ServingOn (w : Wsi) (s : State cfg) : Prop extends Serving s where
  outstanding : Outstanding w s

/-- A request that is made for `w` is outstanding. -/
theorem State.Asks.mem {w : Wsi} {s : State cfg} {granted : Bool} (h : s.Asks w granted) :
    w ∈ (s.callbackOnWritable s.webSocketState.pWebSocket granted).writable := by
  simp only [State.callbackOnWritable, h.1, h.2]
  exact List.mem_insert_self

/-- A request clears no other one. -/
theorem mem_callbackOnWritable {w : Wsi} {s : State cfg} (h : w ∈ s.writable) (v : Option Wsi) (granted : Bool) :
    w ∈ (s.callbackOnWritable v granted).writable := by
  unfold State.callbackOnWritable
  split
  · exact List.mem_insert_of_mem h
  · exact h

/-- A writable callback of any connection. -/
theorem onWriteable_outstanding {w : Wsi} {s : State cfg} (h : Outstanding w s) (v : Wsi) (env : WriteEnv)
    (hc : v = w → ∀ op ∈ s.writeOpCollection.elements.head?, op.Renewed w s env) :
    Outstanding w (s.onWriteable v env) := by
  have hother : v ≠ w → w ∈ s.writable → w ∈ s.writable.filter (· ≠ v) := fun hv hmem =>
    List.mem_filter.mpr ⟨hmem, by simpa using Ne.symm hv⟩
  rcases onWriteable_cases s v env with ⟨he, hempty⟩ |
    ⟨op, hpeek, -, ⟨hout, he⟩ | ⟨sts, q, pushed, notified, hout, -, he⟩⟩
  · rw [he]
    rcases h with hnil | hmem
    · exact .inl hnil
    · by_cases hv : v = w
      · cases hhead : s.writeOpCollection.peek with
        | none => exact .inl (Fifo.peek_eq_none_iff.mp hhead)
        | some op => exact absurd (hempty op hhead) (hc hv op hhead).1
      · exact .inr (hother hv hmem)
  · rw [he]
    rcases h with hnil | hmem
    · exact .inl hnil
    · refine .inr ?_
      by_cases hv : v = w
      · obtain ⟨hsocket, hgranted⟩ := (hc hv op hpeek).2.1 hout
        exact State.Asks.mem ⟨hsocket, hgranted⟩
      · exact mem_callbackOnWritable (hother hv hmem) _ _
  · rw [he]
    by_cases hv : v = w
    · exact .inl ((hc hv op hpeek).2.2 (by rw [hout]; rintro ⟨⟩))
    · rcases h with hnil | hmem
      · rw [Fifo.peek_eq_none_iff.mpr hnil] at hpeek
        cases hpeek
      · exact .inr (hother hv hmem)

/-- The other callbacks, as far as `w` is concerned. -/
theorem lwsCallback_outstanding {w : Wsi} {s : State cfg} (h : Outstanding w s) {cb : Callback}
    (hon : (Event.callback cb).On w) (hc : (Event.callback cb).Renews w s) : Outstanding w (lwsCallback cb s).2 := by
  have hforget : ∀ v, v ≠ w → w ∈ s.writable → w ∈ s.writable.filter (· ≠ v) := fun v hv hmem =>
    List.mem_filter.mpr ⟨hmem, by simpa using Ne.symm hv⟩
  cases cb with
  | httpBindProtocol v | addHeaders v key | other v => exact h
  | established v bufferSize key =>
    have hwrites := (onEstablished_same s v bufferSize key).2.writeOpCollection
    have hwritable : (s.onEstablished v bufferSize key).2.writable = s.writable := by
      simp only [State.onEstablished]
      split_ifs <;> rfl
    rw [Outstanding, lwsCallback, hwrites, hwritable]
    exact h
  | clientEstablished v bufferSize => cases bufferSize <;> exact h
  | writeable side v env => exact onWriteable_outstanding h v env hc
  | receive side v input final env =>
    have hwrites := (onReceive_same s v input final env).2.writeOpCollection
    have hwritable : (s.onReceive v input final env).writable = s.writable := by
      simp only [State.onReceive, State.onMessageComplete]
      split
      · split_ifs <;> rfl
      · rfl
    rw [Outstanding, lwsCallback, hwrites, hwritable]
    exact h
  | clientClosed v => exact h.imp id (hforget v hon)
  | closed v => exact h.imp id (hforget v hon)
  | clientConnectionError v destroying => exact hon.elim

/-- An iteration. -/
theorem iterate_outstanding {w : Wsi} {s : State cfg} (h : ServingOn w s) {env : LoopEnv} (hexit : env.mustExit = false)
    (hc : s.willWrite = true → s.Asks w env.onWritable ∨ w ∈ s.writable) : Outstanding w (s.iterate env) := by
  rcases (iterate_writes h.toServing hexit).1 with ⟨hwrites, hwritable⟩ | ⟨hwill, -, hwritable⟩
  · rw [Outstanding, hwrites, hwritable]
    exact h.outstanding
  · refine .inr ?_
    rw [hwritable]
    rcases hc hwill with hasks | hmem
    · exact hasks.mem
    · exact mem_callbackOnWritable hmem _ _

/-! ### Runs -/

theorem step_outstanding {w : Wsi} (s : State cfg) (e : Event) (h : ServingOn w s) (hc : e.On w ∧ e.Renews w s) :
    ServingOn w (step s e) := by
  have hserving := step_serving s e h.toServing hc.1.serves
  cases e using Event.byCause with
  | user e hu =>
    have hsame := step_sameEngine s hu
    refine ⟨hserving, ?_⟩
    rw [Outstanding, hsame.writeOpCollection, hsame.writable]
    exact h.outstanding
  | callback cb =>
    have houtstanding := lwsCallback_outstanding h.outstanding hc.1 hc.2
    simp only [step, h.lwsContext, if_true] at hserving ⊢
    exact ⟨hserving, houtstanding⟩
  | iterate env => exact ⟨hserving, iterate_outstanding h hc.1.serves hc.2⟩

/-- **No write is stranded**: from a state in which the engine serves and none is, no run in which `w` stays open and
that renews its requests strands one, whatever other connections come and go. -/
theorem write_outstanding {w : Wsi} {s : State cfg} (hs : ServingOn w s) (es : List Event)
    (h : Meets step (fun s e => e.On w ∧ e.Renews w s) s es) : Outstanding w (exec step s es) :=
  (exec_inv step_outstanding es s hs h).outstanding

theorem connected_servingOn : ServingOn 1 connected := ⟨connected_serving, .inl rfl⟩

/-- Two bytes, the second one queued after the first has been sent. -/
theorem write_outstanding_two :
    Outstanding 1 (exec step connected (writeByte 1 ++ [oneByteSent 1] ++ writeByte 1)) := by
  have hrenewed : Meets step (fun s e => e.On 1 ∧ e.Renews 1 s) connected
      (writeByte 1 ++ [oneByteSent 1] ++ writeByte 1) := by decide +kernel
  exact write_outstanding connected_servingOn _ hrenewed

/-- Two bytes queued before the connection becomes writable: the callback sends the first, and
nobody asks for another callback. -/
theorem not_write_outstanding :
    ¬ ∀ (cfg : WebSocketParam) (w : Wsi) (s : State cfg) (es : List Event), ServingOn w s →
      s.webSocketState.pWebSocket = some w → Meets step (fun _ e => e.On w) s es → Outstanding w (exec step s es) := by
  intro h
  have hstranded := h client 1 connected (writeByte 1 ++ writeByte 1 ++ [oneByteSent 1]) connected_servingOn rfl
    (by decide +kernel)
  exact absurd hstranded (by decide +kernel)

end BofWebRpc.WebSocket
