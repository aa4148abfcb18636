import BofWebRpc.WebSocket.Listening

/-!
# Received messages

The fragments that arrive are put together in the receive buffer; a complete message
is handed to the callbacks, and kept for a READ when neither accepts it. The
close callbacks leave the buffer alone, and an accepted message is removed by
removing the oldest one.

## What is proved

* `delivered_once` — what READ delivers, followed by what is still there, is what has been
  refused, as long as a message is only accepted while no refused one is waiting
  and the READ that takes a message is in time to answer and has room for it.
* `handed_whole` — what the callbacks are given is one message of one connection, as long
  as the fragments of different connections do not mix.
-/

namespace BofWebRpc.WebSocket

open Runs Reassembly

variable {cfg : WebSocketParam}

/-! ### What READ delivers -/

/-- What a READ with this result has stored of the message `m` in its `pBuffer_U8`: `Size_U32` bytes. -/
def OperationResult.stored (r : OperationResult) (m : Message) : List UInt8 :=
  if r.buffer then m.payload.take r.size else []

/-- What a result delivers: a message, of which these bytes have been stored. -/
def OperationResult.delivered (r : OperationResult) : Option (Message × List UInt8) :=
  if r.operation = .read ∧ r.sts = .noError then r.message.map fun m => (m, r.stored m) else none

/-- What the results of READ operations have delivered. -/
def State.delivered (s : State cfg) : List (Message × List UInt8) :=
  s.history.pushed.filterMap OperationResult.delivered

/-- A message with all its bytes. -/
def Message.whole (m : Message) : Message × List UInt8 := (m, m.payload)

/-- The refused messages have been delivered by READ, with all their bytes, or are still in the buffer, in
order of arrival, each once. -/
def DeliveredOnce (s : State cfg) : Prop :=
  s.delivered ++ s.rxBufferCollection.committed.map Message.whole = s.history.refused.map Message.whole

instance (s : State cfg) : Decidable (DeliveredOnce s) := inferInstanceAs (Decidable (_ = _))

/-- One of the callbacks that are set accepts the message. -/
def ReceiveEnv.accepts (cfg : WebSocketParam) (env : ReceiveEnv) : Bool :=
  (cfg.onMessage && env.onMessage) || (cfg.onEvent && env.onEvent)

/-- The READ `op` is in time, and its result has a place in the queue. -/
def State.answersInTime (s : State cfg) (env : LoopEnv) (op : OperationParam) : Prop :=
  s.resultCollection.elements.length < cfg.nbMaxOperationPending + 1 ∧ s.inTime env op

instance (s : State cfg) (env : LoopEnv) (op : OperationParam) : Decidable (s.answersInTime env op) :=
  inferInstanceAs (Decidable (_ ∧ _))

/-- The bytes that a READ has room for. -/
def OpParam.room : OpParam → ℕ
  | .read nb buffer => if buffer then nb else 0
  | .exit | .listen | .connect _ | .write _ _ | .disconnect | .max => 0

/-- The oldest message that waits, if any, fits in the buffer of the READ `op`. -/
def State.fitsOldest (s : State cfg) (op : OperationParam) : Prop :=
  ∀ m ∈ s.rxBufferCollection.committed.head?, (Message.payload m).length ≤ op.opParam.room

instance (s : State cfg) (op : OperationParam) : Decidable (s.fitsOldest op) :=
  inferInstanceAs (Decidable (∀ m ∈ s.rxBufferCollection.committed.head?, _))

/-- A complete message is accepted only while no other one is waiting; a READ that finds a
message is in time, and has room for it. -/
def Event.ReadsOnce (s : State cfg) : Event → Prop
  | .callback (.receive _ _ _ final env) =>
    final = true → env.accepts cfg = true → (env.room = true ∨ s.rxBufferCollection.opened ≠ none) →
      s.rxBufferCollection.committed = []
  | .iterate env => ∀ op ∈ s.readsNow env, s.rxBufferCollection.committed ≠ [] →
    s.answersInTime env op ∧ s.fitsOldest op
  | _ => True

instance (s : State cfg) : (e : Event) → Decidable (e.ReadsOnce s)
  | .callback (.receive _ _ _ _ _) => inferInstanceAs (Decidable (_ → _ → _ ∨ _ → _))
  | .iterate _ => inferInstanceAs (Decidable (∀ _ ∈ _, _ → _ ∧ _))
  | .program _ _ _ | .collect | .cancelled | .clear | .reset | .cancel _ => isTrue trivial
  | .callback (.clientConnectionError _ _) | .callback (.clientEstablished _ _)
  | .callback (.clientClosed _) | .callback (.httpBindProtocol _) | .callback (.addHeaders _ _)
  | .callback (.established _ _ _) | .callback (.writeable _ _ _) | .callback (.closed _)
  | .callback (.other _) => isTrue trivial

/-! ### Callbacks -/

/-- What has been received, handed over and refused is the same. -/
structure SameReceived (s t : State cfg) : Prop where
  rxBufferCollection : t.rxBufferCollection = s.rxBufferCollection
  handed : t.history.handed = s.history.handed
  refused : t.history.refused = s.history.refused

/-- A callback of a serving engine that is no RECEIVE. -/
theorem lwsCallback_sameReceived {cb : Callback} (hr : ∀ side w input final env, cb ≠ .receive side w input final env)
    (hcb : (Event.callback cb).Serves) (s : State cfg) : SameReceived s (lwsCallback cb s).2 := by
  cases cb with
  | httpBindProtocol w => exact ⟨rfl, rfl, rfl⟩
  | addHeaders w key => exact ⟨rfl, rfl, rfl⟩
  | established w bufferSize key =>
    simp only [lwsCallback, State.onEstablished]
    split_ifs <;> exact ⟨rfl, rfl, rfl⟩
  | clientEstablished w bufferSize => cases bufferSize <;> exact ⟨rfl, rfl, rfl⟩
  | writeable side w env =>
    rw [lwsCallback]
    rcases onWriteable_cases s w env with ⟨h, -⟩ | ⟨op, -, -, ⟨-, h⟩ | ⟨sts, q, pushed, notified, -, -, h⟩⟩ <;>
      rw [h] <;> exact ⟨rfl, rfl, rfl⟩
  | receive side w input final env => exact absurd rfl (hr side w input final env)
  | clientClosed w => exact ⟨rfl, rfl, rfl⟩
  | closed w => exact ⟨rfl, rfl, rfl⟩
  | clientConnectionError w destroying => exact hcb.elim
  | other w => exact ⟨rfl, rfl, rfl⟩

/-- A result of a WRITE delivers nothing. -/
theorem delivered_of_write {r : OperationResult} (h : r.operation = .write) : r.delivered = none := by
  simp [OperationResult.delivered, h]

theorem delivered_pushed {s : State cfg} {r : OperationResult}
    {q : Fifo OperationResult (cfg.nbMaxOperationPending + 1)}
    {pushed : List OperationResult} (hp : Pushed s r q pushed) (hr : r.delivered = none) :
    pushed.filterMap OperationResult.delivered = s.delivered := by
  rcases hp with ⟨-, hpushed⟩ | ⟨-, hpushed, -⟩
  · rw [hpushed, List.filterMap_append, List.filterMap_cons_none hr, List.filterMap_nil, List.append_nil]
    rfl
  · rw [hpushed]
    rfl

/-- No callback delivers a message. -/
theorem lwsCallback_delivered {s : State cfg} (h : Serving s) (cb : Callback) :
    (lwsCallback cb s).2.delivered = s.delivered := by
  rcases lwsCallback_pushed h cb with he | ⟨r, q, hr, hp⟩
  · rw [State.delivered, he]
    rfl
  · exact delivered_pushed hp (delivered_of_write hr)

/-- A complete message is handed over; the callbacks accept it, and the oldest one is removed, or
refuse it. -/
theorem onMessageComplete_cases (s : State cfg) (w : Wsi) (m : Message) (env : ReceiveEnv) :
    (s.onMessageComplete w m env).history.handed = s.history.handed ++ [(w, m)] ∧
      ((env.accepts cfg = true ∧ (s.onMessageComplete w m env).history.refused = s.history.refused ∧
        (s.onMessageComplete w m env).rxBufferCollection = s.rxBufferCollection.skip) ∨
      (env.accepts cfg = false ∧ (s.onMessageComplete w m env).history.refused = s.history.refused ++ [m] ∧
        (s.onMessageComplete w m env).rxBufferCollection = s.rxBufferCollection)) := by
  unfold ReceiveEnv.accepts State.onMessageComplete
  by_cases haccepts : ((cfg.onMessage && env.onMessage) || (cfg.onEvent && env.onEvent)) = true
  · simp only [haccepts, if_true]
    exact ⟨trivial, .inl ⟨trivial, trivial, trivial⟩⟩
  · simp only [haccepts, Bool.false_eq_true, if_false]
    exact ⟨trivial, .inr ⟨trivial, trivial, trivial⟩⟩

/-- A RECEIVE stores its fragment, and hands the message over that it completes, if any. -/
theorem onReceive_cases (s : State cfg) (w : Wsi) (input : List UInt8) (final : Bool) (env : ReceiveEnv) :
    ∃ t : State cfg, t = { s with rxBufferCollection := (s.rxBufferCollection.receive env.room final (w, input)).2 } ∧
      ((s.onReceive w input final env = t ∧
        (final = true → (s.rxBufferCollection.receive env.room final (w, input)).1 = none)) ∨
      ∃ m, final = true ∧ (s.rxBufferCollection.receive env.room true (w, input)).1 = some m ∧
        s.onReceive w input final env = t.onMessageComplete w m env) := by
  refine ⟨_, rfl, ?_⟩
  cases final with
  | false => exact .inl ⟨rfl, fun he => by cases he⟩
  | true =>
    cases hentry : (s.rxBufferCollection.receive env.room true (w, input)).1 with
    | none => exact .inl ⟨by simp only [State.onReceive, hentry], fun _ => rfl⟩
    | some m => exact .inr ⟨m, rfl, rfl, by simp only [State.onReceive, hentry]⟩

theorem onReceive_once {s : State cfg} (hd : DeliveredOnce s) (h : Serving s) {side : Side} {w : Wsi}
    {input : List UInt8}
    {final : Bool} {env : ReceiveEnv} (hc : (Event.callback (.receive side w input final env)).ReadsOnce s) :
    DeliveredOnce (s.onReceive w input final env) := by
  have hdelivered : (s.onReceive w input final env).delivered = s.delivered :=
    lwsCallback_delivered h (.receive side w input final env)
  unfold DeliveredOnce at hd ⊢
  rw [hdelivered]
  obtain ⟨t, rfl, ⟨he, hnone⟩ | ⟨m, rfl, hentry, he⟩⟩ := onReceive_cases s w input final env
  · rw [he]
    cases final with
    | false => rw [RawBuffer.receive_more_committed, hd]
    | true => rw [RawBuffer.receive_final_committed, hnone rfl, Option.toList_none, List.append_nil, hd]
  · have hcommitted := RawBuffer.receive_final_committed s.rxBufferCollection env.room (w, input)
    rw [hentry, Option.toList_some] at hcommitted
    rw [he]
    rcases (onMessageComplete_cases _ w m env).2 with ⟨haccepts, hrefused, hrx⟩ | ⟨-, hrefused, hrx⟩
    · have hstored : env.room = true ∨ s.rxBufferCollection.opened ≠ none := by
        cases hroom : env.room with
        | true => exact .inl rfl
        | false =>
          refine .inr fun hopened => ?_
          rw [hroom] at hentry
          simp [RawBuffer.receive, RawBuffer.pushBuffer, RawBuffer.setAppendMode, hopened] at hentry
      have hempty := hc rfl haccepts hstored
      rw [hempty, List.nil_append] at hcommitted
      rw [hrx, hrefused, ← hd, hempty, RawBuffer.skip, hcommitted, List.tail_cons]
    · rw [hrx, hrefused, hcommitted, List.map_append, List.map_append, ← List.append_assoc, hd]

/-! ### Iterations -/

/-- A result that is sent touches nothing that has been received; what it delivers is delivered when there
is room for it. -/
theorem sendResult_received (s : State cfg) (env : LoopEnv) :
    SameReceived s (if s.loop.sendResult then s.sendResult env else s) ∧
      ((s.loop.sendResult = true → s.loop.result.delivered = none) →
        (if s.loop.sendResult then s.sendResult env else s).delivered = s.delivered) ∧
      (s.loop.sendResult = true → (if s.loop.sendResult then s.sendResult env else s).delivered =
        s.delivered ++ if s.resultCollection.elements.length < cfg.nbMaxOperationPending + 1 then
          s.loop.result.delivered.toList else []) := by
  cases hsend : s.loop.sendResult with
  | false => exact ⟨⟨rfl, rfl, rfl⟩, fun _ => rfl, fun hsent => by cases hsent⟩
  | true =>
    obtain ⟨time, q, pushed, notified, he, hp⟩ := sendResult_eq s env
    rw [if_pos rfl, he]
    refine ⟨⟨rfl, rfl, rfl⟩, fun hnone => delivered_pushed hp (hnone rfl), fun _ => ?_⟩
    have hresult : ({ s.loop.result with time := time } : OperationResult).delivered = s.loop.result.delivered := rfl
    rcases hp with ⟨hq, hpushed⟩ | ⟨-, hpushed, hfull⟩
    · have hroom : s.resultCollection.elements.length < cfg.nbMaxOperationPending + 1 := by
        have hbounded := q.bounded
        rw [hq, List.length_append, List.length_singleton] at hbounded
        exact hbounded
      rw [if_pos hroom, State.delivered, hpushed, List.filterMap_append]
      refine congrArg (s.delivered ++ ·) ?_
      rw [← hresult]
      cases hd : ({ s.loop.result with time := time } : OperationResult).delivered with
      | none => rw [List.filterMap_cons_none hd, List.filterMap_nil, Option.toList_none]
      | some d => rw [List.filterMap_cons_some hd, List.filterMap_nil, Option.toList_some]
    · rw [if_neg (Nat.not_lt.mpr hfull), List.append_nil, State.delivered, hpushed]
      rfl

/-- A READ that has taken the message `m` out delivers what it has room for. -/
theorem OperationResult.Reads.delivered {r : OperationResult} {nb : ℕ} {buffer : Bool} {m : Message}
    (h : r.Reads nb buffer m) (hread : r.operation = .read) :
    r.delivered = some (m, m.payload.take (OpParam.read nb buffer).room) := by
  obtain ⟨hsts, hsize, hbuffer, hm⟩ := h
  rw [OperationResult.delivered, if_pos ⟨hread, hsts⟩, hm, Option.map_some, OperationResult.stored, hsize, hbuffer,
    OpParam.room]
  cases buffer with
  | false => rfl
  | true => rw [if_pos rfl, if_pos rfl, ← List.take_eq_take_min]

/-- Looking at the pending operation takes the oldest message out for a READ, or leaves the receive buffer
alone. -/
theorem Working.received {s t u : State cfg} {env : LoopEnv} (hbegan : Began s t env) (hworking : Working t)
    (hu : u = if t.loop.ioPending then t.pendingOperation env else t) :
    u.history = { s.history with executed := u.history.executed } ∧ u.resultCollection = s.resultCollection ∧
      ((u.rxBufferCollection = s.rxBufferCollection ∧ (u.loop.sendResult = true → u.loop.result.delivered = none) ∧
          ∀ op, s.readsNow env = some op → s.rxBufferCollection.popBuffer = none) ∨
        ∃ m op, s.rxBufferCollection.popBuffer = some (m, u.rxBufferCollection) ∧ s.readsNow env = some op ∧
          u.loop.sendResult = true ∧
          u.loop.result.delivered =
            if s.inTime env op then some (m, (Message.payload m).take op.opParam.room) else none) := by
  have hnot : t.loop.currentOp.operation ≠ .read → ∀ op, s.readsNow env = some op →
      s.rxBufferCollection.popBuffer = none := fun hother op hnow =>
    absurd ((hbegan.reads op).mp hnow).2.1 hother
  rw [hu]
  split_ifs with hp
  · rcases hworking.pends hp with (⟨hlisten, hlistening⟩ | ⟨hread, hresult⟩) | hwrite
    · have hother : t.loop.currentOp.operation ≠ .read := by
        simp [OperationParam.operation, hlisten, OpParam.operation]
      obtain ⟨time, hpending⟩ := pendingOperation_listen env hlisten hlistening
      rw [hpending]
      split_ifs
      · exact ⟨hbegan.history, hbegan.resultCollection, .inl ⟨hbegan.rxBufferCollection, fun _ => rfl, hnot hother⟩⟩
      · refine ⟨hbegan.history, hbegan.resultCollection, .inl ⟨hbegan.rxBufferCollection, fun he => ?_, hnot hother⟩⟩
        cases he
    · have hnow := (hbegan.reads _).mpr ⟨hp, hread, rfl⟩
      obtain ⟨nb, buffer, hparam⟩ := OperationParam.opParam_eq_read hread
      obtain ⟨rx, loop, hpending, -, -, -, -, hoperation, hout⟩ := pendingOperation_read env hparam
      have hoperation : loop.result.operation = .read := hoperation.trans hresult
      have hin : t.inTime env t.loop.currentOp ↔ s.inTime env t.loop.currentOp := by
        rw [State.inTime, State.inTime, hbegan.listeningMode]
      rw [hpending]
      refine ⟨hbegan.history, hbegan.resultCollection, ?_⟩
      rw [ReadOutcome, hbegan.rxBufferCollection, hin] at hout
      rcases hout with ⟨hpop, hrx, hwait⟩ | ⟨m, hpop, hsend, -, hread⟩
      · refine .inl ⟨hrx, fun hs => ?_, fun _ _ => hpop⟩
        rcases hwait with ⟨hsend, -⟩ | ⟨-, -, hsts⟩
        · exact absurd (hsend.symm.trans hs) Bool.false_ne_true
        · simp [OperationResult.delivered, hsts]
      · refine .inr ⟨m, _, hpop, hnow, hsend, ?_⟩
        rcases hread with ⟨hin, hreads⟩ | ⟨hlate, hsts⟩
        · rw [if_pos hin, hparam]
          exact hreads.delivered hoperation
        · rw [if_neg hlate]
          simp [OperationResult.delivered, hsts]
    · have hother : t.loop.currentOp.operation ≠ .read := by rw [hwrite]; rintro ⟨⟩
      obtain ⟨time, hpending⟩ := pendingOperation_write env hwrite
      rw [hpending]
      refine ⟨hbegan.history, hbegan.resultCollection, .inl ⟨hbegan.rxBufferCollection, fun he => ?_, hnot hother⟩⟩
      cases he
  · refine ⟨hbegan.history, hbegan.resultCollection, .inl ⟨hbegan.rxBufferCollection, fun hsend => ?_,
      fun op hnow => ?_⟩⟩
    · simp [OperationResult.delivered, (hbegan.result hsend).2]
    · exact absurd ((hbegan.reads op).mp hnow).1 hp

/-- An iteration delivers nothing, or takes out the oldest message for the READ that it looks
at; what that READ has room for is delivered when it is in time. -/
theorem iterate_received {s : State cfg} (h : Serving s) {env : LoopEnv} (hexit : env.mustExit = false) :
    (s.iterate env).history.handed = s.history.handed ∧ (s.iterate env).history.refused = s.history.refused ∧
      (((s.iterate env).rxBufferCollection = s.rxBufferCollection ∧ (s.iterate env).delivered = s.delivered ∧
          ∀ op, s.readsNow env = some op → s.rxBufferCollection.popBuffer = none) ∨
        ∃ m op, s.rxBufferCollection.popBuffer = some (m, (s.iterate env).rxBufferCollection) ∧
          s.readsNow env = some op ∧ (s.iterate env).delivered = s.delivered ++
            if s.answersInTime env op then [(m, (Message.payload m).take op.opParam.room)] else []) := by
  obtain ⟨t, u, hbegan, hworking, hu, -, he⟩ := iterate_serving h hexit
  obtain ⟨hsame, hnone, hsome⟩ := sendResult_received u env
  rw [← he] at hsame hnone hsome
  obtain ⟨hhistory, hresults, hsplit⟩ := hworking.received hbegan hu
  have hdelivered : u.delivered = s.delivered := by rw [State.delivered, hhistory]; rfl
  refine ⟨hsame.handed.trans (by rw [hhistory]), hsame.refused.trans (by rw [hhistory]), ?_⟩
  rcases hsplit with ⟨hrx, hresult, hwait⟩ | ⟨m, op, hpop, hnow, hsend, hresult⟩
  · exact .inl ⟨hsame.rxBufferCollection.trans hrx, (hnone hresult).trans hdelivered, hwait⟩
  · refine .inr ⟨m, op, ?_, hnow, ?_⟩
    · rw [hsame.rxBufferCollection]
      exact hpop
    · rw [hsome hsend, hresult, hdelivered, hresults, apply_ite Option.toList, Option.toList_none, ← ite_and]
      rfl

theorem iterate_once {s : State cfg} (hd : DeliveredOnce s) (h : Serving s) {env : LoopEnv}
    (hexit : env.mustExit = false) (hc : (Event.iterate env).ReadsOnce s) : DeliveredOnce (s.iterate env) := by
  obtain ⟨-, hrefused, hsplit⟩ := iterate_received h hexit
  unfold DeliveredOnce at hd ⊢
  rw [hrefused, ← hd]
  rcases hsplit with ⟨hrx, hdelivered, -⟩ | ⟨m, op, hpop, hnow, hdelivered⟩
  · rw [hrx, hdelivered]
  · obtain ⟨hcommitted, -⟩ := RawBuffer.popBuffer_eq_some hpop
    obtain ⟨hin, hfits⟩ := hc op hnow (by rw [hcommitted]; exact List.cons_ne_nil _ _)
    have hlength : (Message.payload m).length ≤ op.opParam.room := hfits m (by rw [hcommitted]; rfl)
    rw [hdelivered, if_pos hin, List.take_of_length_le hlength, hcommitted, List.append_assoc, List.map_cons,
      List.singleton_append]
    rfl

/-! ### Runs -/

/-- The engine serves, and each refused message has been delivered or is waiting. -/
structure ServingOnce (s : State cfg) : Prop extends Serving s where
  once : DeliveredOnce s

theorem step_once (s : State cfg) (e : Event) (h : ServingOnce s) (hc : e.Serves ∧ e.ReadsOnce s) :
    ServingOnce (step s e) := by
  have hserving := step_serving s e h.toServing hc.1
  cases e using Event.byCause with
  | user e hu =>
    have hsame := step_sameEngine s hu
    refine ⟨hserving, ?_⟩
    have honce := h.once
    unfold DeliveredOnce State.delivered at honce ⊢
    rw [hsame.rxBufferCollection, hsame.history]
    exact honce
  | callback cb =>
    refine ⟨hserving, ?_⟩
    simp only [step, h.lwsContext, if_true]
    by_cases hr : ∃ side w input final env, cb = .receive side w input final env
    · obtain ⟨side, w, input, final, env, rfl⟩ := hr
      exact onReceive_once h.once h.toServing hc.2
    · have hsame := lwsCallback_sameReceived
        (fun side w input final env he => hr ⟨side, w, input, final, env, he⟩) hc.1 s
      have honce := h.once
      unfold DeliveredOnce at honce ⊢
      rw [lwsCallback_delivered h.toServing cb, hsame.rxBufferCollection, hsame.refused]
      exact honce
  | iterate env => exact ⟨hserving, iterate_once h.once h.toServing hc.1 hc.2⟩

/-- **Received messages are consumed exactly once**, in every run in which a message is only accepted
while none is waiting, and the READ that takes one is in time and has room for it. -/
theorem delivered_once {s : State cfg} (hs : ServingOnce s) (es : List Event)
    (h : Meets step (fun s e => e.Serves ∧ e.ReadsOnce s) s es) : DeliveredOnce (exec step s es) :=
  (exec_inv step_once es s hs h).once

/-- A fragment of one byte from the client `w` of a server. -/
def fragment (w : Wsi) (byte : UInt8) (final accepted : Bool) : Event :=
  .callback (.receive .server w [byte] final { room := true, onMessage := accepted, onEvent := false })

theorem listened_servingOnce : ServingOnce listened := ⟨listened_listening.toServing, by decide +kernel⟩

/-- A message is refused and read before another one is accepted. -/
theorem delivered_once_two :
    DeliveredOnce (exec step listened (clientConnects 1 ['a'] ++ [fragment 1 65 true false] ++
      Event.execute 0 0 (.read 1 true) ++ [fragment 1 66 true true])) := by
  have hreads : Meets step (fun s e => e.Serves ∧ e.ReadsOnce s) listened (clientConnects 1 ['a'] ++
      [fragment 1 65 true false] ++ Event.execute 0 0 (.read 1 true) ++ [fragment 1 66 true true]) := by decide +kernel
  exact delivered_once listened_servingOnce _ hreads

/-- A message is accepted while a refused one is waiting: the refused one is removed, and the accepted
one stays for a READ. -/
theorem not_delivered_once :
    ¬ ∀ (cfg : WebSocketParam) (s : State cfg) (es : List Event), ServingOnce s →
      Meets step (fun _ e => e.Serves) s es → DeliveredOnce (exec step s es) := by
  intro h
  have hdropped := h server listened (clientConnects 1 ['a'] ++ [fragment 1 65 true false, fragment 1 66 true true])
    listened_servingOnce (by decide +kernel)
  exact absurd hdropped (by decide +kernel)

/-! ### Whole messages -/

/-- What the connections have sent, message by message. -/
abbrev Sent := Assembler Wsi (List UInt8)

/-- An event in terms of what the connections send. -/
def Event.follow (m : Sent) : Event → Sent
  | .callback (.receive _ w input final _) => m.receive w final input
  | .callback (.closed w) | .callback (.clientClosed w) => m.close w
  | _ => m

theorem follow_user (m : Sent) {e : Event} (h : e.isUser = true) : e.follow m = m := by
  cases e with
  | callback cb | iterate env => cases h
  | program _ _ _ | collect | cancel _ | cancelled | clear | reset => rfl

/-- One event, and what the connections have sent with it. -/
def gather (p : State cfg × Sent) (e : Event) : State cfg × Sent := (step p.1 e, e.follow p.2)

/-- Fragments come from connections that are not closed, and find room. -/
def Event.FromOpen (m : Sent) : Event → Prop
  | .callback (.receive _ w _ _ env) => env.room = true ∧ w ∉ m.gone
  | _ => True

instance (m : Sent) : (e : Event) → Decidable (e.FromOpen m)
  | .callback (.receive _ _ _ _ _) => inferInstanceAs (Decidable (_ ∧ _))
  | .program _ _ _ | .collect | .cancelled | .clear | .reset | .cancel _ | .iterate _ => isTrue trivial
  | .callback (.clientConnectionError _ _) | .callback (.clientEstablished _ _)
  | .callback (.clientClosed _) | .callback (.httpBindProtocol _) | .callback (.addHeaders _ _)
  | .callback (.established _ _ _) | .callback (.writeable _ _ _) | .callback (.closed _)
  | .callback (.other _) => isTrue trivial

/-- A fragment does not mix with those of another connection: the message that is open in the
receive buffer, if any, is its own connection's. -/
def Event.Unmixed (s : State cfg) : Event → Prop
  | .callback (.receive _ w _ _ _) => Contiguous s.rxBufferCollection w
  | _ => True

instance (s : State cfg) : (e : Event) → Decidable (e.Unmixed s)
  | .callback (.receive _ _ _ _ _) => inferInstanceAs (Decidable (Contiguous _ _))
  | .program _ _ _ | .collect | .cancelled | .clear | .reset | .cancel _ | .iterate _ => isTrue trivial
  | .callback (.clientConnectionError _ _) | .callback (.clientEstablished _ _)
  | .callback (.clientClosed _) | .callback (.httpBindProtocol _) | .callback (.addHeaders _ _)
  | .callback (.established _ _ _) | .callback (.writeable _ _ _) | .callback (.closed _)
  | .callback (.other _) => isTrue trivial

/-- What the callbacks have been given is, message by message, what the connections have sent,
each made of fragments of one connection. -/
def HandedWhole (p : State cfg × Sent) : Prop :=
  p.1.history.handed.map (fun h => (h.1, h.2.map Prod.snd)) = p.2.messages ∧
    ∀ h ∈ p.1.history.handed, OfSource h.1 h.2

instance (p : State cfg × Sent) : Decidable (HandedWhole p) := inferInstanceAs (Decidable (_ ∧ ∀ _ ∈ _, _))

/-- The engine serves, and its receive buffer assembles the messages of the connections. -/
structure ServingWhole (p : State cfg × Sent) : Prop where
  serving : Serving p.1
  assembles : Assembles p.1.rxBufferCollection p.2
  whole : HandedWhole p

theorem Assembles.of_opened {b b' : RawBuffer Fragment} {m : Sent} (h : Assembles b m) (ho : b'.opened = b.opened) :
    Assembles b' m :=
  ⟨fun hnone => h.idle (ho ▸ hnone), fun e he => h.open_ e (ho ▸ he)⟩

/-- What does not touch the receive buffer. -/
theorem ServingWhole.same {s t : State cfg} {m : Sent} (h : ServingWhole (s, m)) (ht : Serving t)
    (ho : t.rxBufferCollection.opened = s.rxBufferCollection.opened) (hh : t.history.handed = s.history.handed) :
    ServingWhole (t, m) := by
  refine ⟨ht, Assembles.of_opened h.assembles ho, ?_⟩
  rw [HandedWhole, hh]
  exact h.whole

/-- A connection that closes leaves its fragments. -/
theorem ServingWhole.close {s : State cfg} {m : Sent} (h : ServingWhole (s, m)) (w : Wsi) :
    ServingWhole (s, m.close w) := ⟨h.serving, h.assembles.close w, h.whole⟩

/-- A fragment that does not mix. -/
theorem onReceive_whole {s : State cfg} {m : Sent} (h : ServingWhole (s, m)) {w : Wsi} {input : List UInt8}
    {final : Bool}
    {env : ReceiveEnv} (hserving : Serving (s.onReceive w input final env)) (hroom : env.room = true) (hw : w ∉ m.gone)
    (hc : Contiguous s.rxBufferCollection w) :
    ServingWhole (s.onReceive w input final env, m.receive w final input) := by
  obtain ⟨hassembles, hcomplete⟩ := RawBuffer.receive_assembles h.assembles hw hc final input
  refine ⟨hserving, ?_, ?_⟩
  · obtain ⟨t, rfl, ⟨he, -⟩ | ⟨msg, rfl, -, he⟩⟩ := onReceive_cases s w input final env
    · rw [he, hroom]
      exact hassembles
    · rw [he]
      apply Assembles.of_opened hassembles
      rcases (onMessageComplete_cases _ w msg env).2 with ⟨-, -, hrx⟩ | ⟨-, -, hrx⟩ <;> rw [hrx, hroom]
      rfl
  · obtain ⟨hmap, hsource⟩ := h.whole
    obtain ⟨t, rfl, ⟨he, hnone⟩ | ⟨msg, rfl, hentry, he⟩⟩ := onReceive_cases s w input final env
    · rw [he]
      cases final with
      | false => exact ⟨hmap, hsource⟩
      | true =>
        obtain ⟨e, hsome, -⟩ := hcomplete rfl
        rw [hroom] at hnone
        exact absurd ((hnone rfl).symm.trans hsome) (Option.some_ne_none _).symm
    · obtain ⟨e, hsome, hof, hmessages⟩ := hcomplete rfl
      rw [hroom, hsome, Option.some.injEq] at hentry
      subst hentry
      rw [HandedWhole, he, (onMessageComplete_cases _ w e env).1]
      refine ⟨?_, fun p hp => ?_⟩
      · rw [List.map_append, List.map_singleton, hmap, hmessages]
      · rcases List.mem_append.mp hp with hp | hp
        · exact hsource p hp
        · rw [List.mem_singleton.mp hp]
          exact hof

theorem gather_whole (p : State cfg × Sent) (e : Event) (h : ServingWhole p)
    (hc : e.Serves ∧ e.FromOpen p.2 ∧ e.Unmixed p.1) : ServingWhole (gather p e) := by
  obtain ⟨s, m⟩ := p
  have hserving := step_serving s e h.serving hc.1
  cases e using Event.byCause with
  | user e hu =>
    have hsame := step_sameEngine s hu
    rw [gather, follow_user m hu]
    exact h.same hserving (by rw [hsame.rxBufferCollection]) (by rw [hsame.history])
  | callback cb =>
    have hcontext : s.lwsContext = true := h.serving.lwsContext
    have hstep : step s (.callback cb) = (lwsCallback cb s).2 := by simp only [step, hcontext, if_true]
    rw [hstep] at hserving
    rw [gather, hstep]
    by_cases hr : ∃ side w input final env, cb = .receive side w input final env
    · obtain ⟨side, w, input, final, env, rfl⟩ := hr
      exact onReceive_whole h hserving hc.2.1.1 hc.2.1.2 hc.2.2
    · have hsame := lwsCallback_sameReceived
        (fun side w input final env he => hr ⟨side, w, input, final, env, he⟩) hc.1 s
      have hkept := h.same hserving (by rw [hsame.rxBufferCollection]) hsame.handed
      cases cb with
      | closed w => exact hkept.close w
      | clientClosed w => exact hkept.close w
      | receive side w input final env => exact absurd ⟨side, w, input, final, env, rfl⟩ hr
      | httpBindProtocol w => exact hkept
      | addHeaders w key => exact hkept
      | established w bufferSize key => exact hkept
      | clientEstablished w bufferSize => exact hkept
      | writeable side w env => exact hkept
      | clientConnectionError w destroying => exact hkept
      | other w => exact hkept
  | iterate env =>
    obtain ⟨hhanded, -, hsplit⟩ := iterate_received h.serving hc.1
    refine h.same hserving ?_ hhanded
    rcases hsplit with ⟨hrx, -, -⟩ | ⟨msg, op, hpop, -⟩
    · exact congrArg RawBuffer.opened hrx
    · exact (RawBuffer.popBuffer_eq_some hpop).2

/-- **What the callbacks are given is whole**, in every run in which no fragment finds the
unfinished message of another connection in the receive buffer. -/
theorem handed_whole {p : State cfg × Sent} (hp : ServingWhole p) (es : List Event)
    (h : Meets gather (fun p e => e.Serves ∧ e.FromOpen p.2 ∧ e.Unmixed p.1) p es) :
    HandedWhole (exec gather p es) :=
  (exec_inv gather_whole es p hp h).whole

theorem listened_servingWhole : ServingWhole (listened, Assembler.empty) :=
  ⟨listened_listening.toServing, assembles_empty, by decide +kernel⟩

/-- Two clients, one after the other; the first one sends two fragments. -/
theorem handed_whole_two :
    HandedWhole (exec gather (listened, Assembler.empty) (clientConnects 1 ['a'] ++ clientConnects 2 ['b'] ++
      [fragment 1 65 false true, fragment 1 66 true true, fragment 2 67 true true])) := by
  have hunmixed : Meets gather (fun p e => e.Serves ∧ e.FromOpen p.2 ∧ e.Unmixed p.1) (listened, Assembler.empty)
      (clientConnects 1 ['a'] ++ clientConnects 2 ['b'] ++
        [fragment 1 65 false true, fragment 1 66 true true, fragment 2 67 true true]) := by decide +kernel
  exact handed_whole listened_servingWhole _ hunmixed

/-- A message of the second client arrives between two fragments of the first: the callbacks are given
one message made of both. -/
theorem not_handed_whole :
    ¬ ∀ (cfg : WebSocketParam) (p : State cfg × Sent) (es : List Event), ServingWhole p →
      Meets gather (fun p e => e.Serves ∧ e.FromOpen p.2) p es → HandedWhole (exec gather p es) := by
  intro h
  have hmixed := h server (listened, Assembler.empty)
    (clientConnects 1 ['a'] ++ clientConnects 2 ['b'] ++ [fragment 1 65 false true, fragment 2 67 true true])
    listened_servingWhole (by decide +kernel)
  exact absurd hmixed (by decide +kernel)

end BofWebRpc.WebSocket
