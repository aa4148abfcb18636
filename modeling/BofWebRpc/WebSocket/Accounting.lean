import BofWebRpc.WebSocket.Iteration
import Mathlib.Data.List.Count

/-!
# One result for each operation

The ticket and the operation of a command travel from the queue of commands through
`Result_X` or the queue of writes to a result. The invariant accounts for all of them.

## What is proved

* `operations_answered` — a client whose user stays within the limit answers each
  operation once, as long as no command is popped while another one is pending, every
  request for a writable callback is granted, and a pending operation without a context
  at the top of the turn is noticed by the clock.
* `not_operations_answered` — a READ popped while the CONNECT is pending has no result.
-/

namespace BofWebRpc.WebSocket

open Runs

variable {cfg : WebSocketParam}

/-- The ticket and the operation. -/
abbrev Tag := ℕ × SocketOperation

/-- What a command is known by. -/
def OperationParam.tag (p : OperationParam) : Tag := (p.ticket, p.operation)

/-- What a result is known by. -/
def OperationResult.tag (r : OperationResult) : Tag := (r.opTicket, r.operation)

/-- The queues of commands and of writes are empty, and no operation is pending. -/
def State.Quiet (s : State cfg) : Prop :=
  s.paramCollection.elements = [] ∧ s.writeOpCollection.elements = [] ∧ s.loop.ioPending = false

instance (s : State cfg) : Decidable s.Quiet := inferInstanceAs (Decidable (_ ∧ _ ∧ _))

/-- Each programmed operation has exactly one result, with its ticket and its operation. -/
def Answered (s : State cfg) : Prop := (s.history.pushed.map OperationResult.tag).Perm s.history.programmed

instance (s : State cfg) : Decidable (Answered s) := inferInstanceAs (Decidable (List.Perm _ _))

/-! ### The condition -/

/-- The user holds fewer operations than allowed when he programs one, and neither cancels
nor resets. -/
def Event.WithinLimit (s : State cfg) : Event → Prop
  | .program _ _ _ => s.history.programmed.length < s.history.collected.length + cfg.nbMaxOperationPending
  | .cancel _ | .reset => False
  | .collect | .cancelled | .clear | .callback _ | .iterate _ => True

instance (s : State cfg) : (e : Event) → Decidable (e.WithinLimit s)
  | .program _ _ _ => inferInstanceAs (Decidable (_ < _))
  | .cancel _ | .reset => isFalse id
  | .collect | .cancelled | .clear | .callback _ | .iterate _ => isTrue trivial

/-- An iteration finds no command while an operation is pending; the writable callback for
a write it queues is granted; and the clock is not at zero when the context of a pending
operation was gone at the top of the turn. -/
def Event.Undisturbed (s : State cfg) : Event → Prop
  | .iterate env =>
    (s.loop.ioPending = true → s.paramCollection.elements = []) ∧
    (s.willWrite = true → env.onWritable = true) ∧
    (s.loop.ioPending = true → s.loop.service = false → toU32 env.tickPending ≠ 0)
  | .program _ _ _ | .collect | .cancel _ | .cancelled | .clear | .reset | .callback _ => True

instance (s : State cfg) : (e : Event) → Decidable (e.Undisturbed s)
  | .iterate _ => inferInstanceAs (Decidable ((_ → _) ∧ (_ → _) ∧ (_ → _ → _)))
  | .program _ _ _ | .collect | .cancel _ | .cancelled | .clear | .reset | .callback _ => isTrue trivial

/-! ### The accounts -/

/-- Every programmed operation is queued, in hand, being written or answered; the results
that are not collected are in their queue, and the user keeps the limit. -/
structure Tallied (s : State cfg) (inHand : List Tag) : Prop where
  accounted : (s.paramCollection.elements.map OperationParam.tag ++ inHand ++
    s.writeOpCollection.elements.map (fun op => op.result.tag) ++
    s.history.pushed.map OperationResult.tag).Perm s.history.programmed
  collected : s.history.pushed.length = s.history.collected.length + s.resultCollection.elements.length
  limit : s.history.programmed.length ≤ s.history.collected.length + cfg.nbMaxOperationPending

theorem Tallied.same {s t : State cfg} {inHand : List Tag} (h : Tallied s inHand) (hu : SameUser s t)
    (hw : SameWrites s t) : Tallied t inHand := by
  refine ⟨?_, ?_, ?_⟩
  · rw [hu.paramCollection, hw.writeOpCollection, hw.pushed, hu.programmed]
    exact h.accounted
  · rw [hw.pushed, hu.collected, hw.resultCollection]
    exact h.collected
  · rw [hu.programmed, hu.collected]
    exact h.limit

/-- As long as an operation is not answered there is room for its result. -/
theorem Tallied.room {s : State cfg} {inHand : List Tag} (h : Tallied s inHand)
    (hne : 0 < inHand.length + s.writeOpCollection.elements.length) :
    s.resultCollection.elements.length < cfg.nbMaxOperationPending := by
  have hlen := h.accounted.length_eq
  have hcollected := h.collected
  have hlimit := h.limit
  simp only [List.length_append, List.length_map] at hlen
  omega

theorem Tallied.pushed_eq {s : State cfg} {inHand : List Tag} (h : Tallied s inHand)
    (hne : 0 < inHand.length + s.writeOpCollection.elements.length) {r : OperationResult}
    {q : Fifo OperationResult (cfg.nbMaxOperationPending + 1)} {pushed : List OperationResult}
    (hp : Pushed s r q pushed) :
    q.elements = s.resultCollection.elements ++ [r] ∧ pushed = s.history.pushed ++ [r] := by
  rcases hp with hp | ⟨-, -, hfull⟩
  · exact hp
  · exact absurd (h.room hne) (Nat.not_lt.mpr (Nat.le_of_lt hfull))

/-- A result is collected. -/
theorem Tallied.collect {s : State cfg} {inHand : List Tag} (h : Tallied s inHand) : Tallied s.collect inHand := by
  unfold State.collect
  split
  · next r q hq =>
    have hq := Fifo.pop_eq_some_iff.mp hq
    refine ⟨h.accounted, ?_, Nat.le_trans h.limit ?_⟩
    · have hcollected := h.collected
      rw [hq] at hcollected
      simp only [List.length_append, List.length_cons, List.length_nil] at hcollected ⊢
      omega
    · simp only [List.length_append, List.length_cons, List.length_nil]
      omega
  · exact h

/-- A command is programmed. -/
theorem Tallied.program {s : State cfg} {inHand : List Tag} (h : Tallied s inHand) (timeOut tick : ℕ)
    (opParam : OpParam)
    (hlimit : s.history.programmed.length < s.history.collected.length + cfg.nbMaxOperationPending) :
    Tallied (s.program timeOut tick opParam) inHand := by
  simp only [State.program]
  split
  · next q hq =>
    refine ⟨?_, h.collected, ?_⟩
    · have haccounted := h.accounted
      rw [List.perm_iff_count] at haccounted ⊢
      intro t
      have ht := haccounted t
      simp only [(Fifo.push_eq_some_iff.mp hq).2, List.map_append, List.map_cons, List.map_nil, List.count_append,
        OperationParam.tag] at ht ⊢
      omega
    · simp only [List.length_append, List.length_cons, List.length_nil]
      omega
  · exact ⟨h.accounted, h.collected, h.limit⟩

/-- A command is popped into the hand. -/
theorem Tallied.popped {s : State cfg} (h : Tallied s []) {op : OperationParam}
    (hop : s.paramCollection.elements = op :: s.paramCollection.skip.elements) : Tallied (s.popped op) [op.tag] := by
  refine ⟨?_, h.collected, h.limit⟩
  have haccounted := h.accounted
  rw [hop] at haccounted
  rw [List.perm_iff_count] at haccounted ⊢
  intro t
  have ht := haccounted t
  simp only [State.popped, List.map_cons, List.count_append, List.count_cons, List.count_nil] at ht ⊢
  omega

/-! ### Callbacks -/

/-- A writable callback answers the oldest write, or nothing. -/
theorem onWriteable_tallied {s : State cfg} {inHand : List Tag} (h : Tallied s inHand) (w : Wsi) (env : WriteEnv) :
    Tallied (s.onWriteable w env) inHand := by
  rcases onWriteable_cases s w env with ⟨he, -⟩ | ⟨op, hpeek, -, ⟨-, he⟩ | ⟨sts, q, pushed, notified, -, hp, he⟩⟩
  · rw [he]
    exact ⟨h.accounted, h.collected, h.limit⟩
  · rw [he, callbackOnWritable_eq]
    exact ⟨h.accounted, h.collected, h.limit⟩
  · have hop := Fifo.peek_eq_some_iff.mp hpeek
    have hne : 0 < inHand.length + s.writeOpCollection.elements.length := by
      rw [hop, List.length_cons]
      omega
    obtain ⟨hq, hpushed⟩ := h.pushed_eq hne hp
    have htag : (op.finish env sts).tag = op.result.tag := rfl
    rw [he]
    refine ⟨?_, ?_, h.limit⟩
    · have haccounted := h.accounted
      rw [hop] at haccounted
      rw [List.perm_iff_count] at haccounted ⊢
      intro t
      have ht := haccounted t
      simp only [hpushed, List.map_append, List.map_cons, List.map_nil, List.count_append, List.count_cons,
        List.count_nil, htag] at ht ⊢
      omega
    · simp only [hpushed, hq, List.length_append, List.length_cons, List.length_nil, h.collected]
      omega

theorem lwsCallback_tallied {s : State cfg} {inHand : List Tag} (h : Tallied s inHand) (cb : Callback) :
    Tallied (lwsCallback cb s).2 inHand := by
  by_cases hw : ∃ side w env, cb = .writeable side w env
  · obtain ⟨side, w, env, rfl⟩ := hw
    exact onWriteable_tallied h w env
  · exact h.same (lwsCallback_same cb s).toSameUser
      (lwsCallback_sameWrites (fun side w env he => hw ⟨side, w, env, he⟩) s)

theorem callbacks_tallied (cbs : List Callback) {s : State cfg} {inHand : List Tag} (h : Tallied s inHand) :
    Tallied (callbacks cbs s) inHand := by
  induction cbs generalizing s with
  | nil => exact h
  | cons cb cbs ih => exact ih (lwsCallback_tallied h cb)

/-! ### The pending operation -/

/-- CONNECT, READ and DISCONNECT keep their result until it is sent. -/
def Waits (op : SocketOperation) : Prop := op = .connect ∨ op = .read ∨ op = .disconnect

/-- What looking at such an operation does: it is answered now, or still pending. -/
structure Looked (s t : State cfg) : Prop where
  currentOp : t.loop.currentOp = s.loop.currentOp
  tag : t.loop.result.tag = s.loop.result.tag
  listeningMode : t.loop.listeningMode = s.loop.listeningMode
  sendResult : t.loop.sendResult = !t.loop.ioPending
  disconnect : s.loop.currentOp.operation = .disconnect → t.loop.ioPending = false

theorem pending_looked {s : State cfg} (env : LoopEnv) (hp : s.loop.ioPending = true)
    (hop : Waits s.loop.currentOp.operation) : Looked s (s.pending env) := by
  unfold OperationParam.operation at hop
  cases hparam : s.loop.currentOp.opParam with
  | connect key =>
    have hnot : s.loop.currentOp.operation ≠ .disconnect := by
      simp [OperationParam.operation, hparam, OpParam.operation]
    simp only [State.pending, hparam]
    split_ifs
    · exact ⟨rfl, rfl, rfl, rfl, fun h => absurd h hnot⟩
    · exact ⟨rfl, rfl, rfl, by rw [hp]; rfl, fun h => absurd h hnot⟩
  | disconnect =>
    simp only [State.pending, hparam]
    exact ⟨rfl, rfl, rfl, rfl, fun _ => rfl⟩
  | read nb buffer =>
    have hnot : s.loop.currentOp.operation ≠ .disconnect := by
      simp [OperationParam.operation, hparam, OpParam.operation]
    simp only [State.pending, hparam]
    split
    · exact ⟨rfl, rfl, rfl, rfl, fun h => absurd h hnot⟩
    · exact ⟨rfl, rfl, rfl, by rw [State.setSts, hp]; rfl, fun h => absurd h hnot⟩
  | listen | write _ _ | exit | max => simp [Waits, hparam, OpParam.operation] at hop

theorem pendingOperation_looked {s : State cfg} (env : LoopEnv) (hp : s.loop.ioPending = true)
    (hop : Waits s.loop.currentOp.operation) : Looked s (s.pendingOperation env) := by
  have h := pending_looked env hp hop
  obtain ⟨t, rfl, ⟨-, he⟩ | ⟨-, he⟩⟩ := pendingOperation_cases s env
  · rw [he]
    exact ⟨h.currentOp, h.tag, h.listeningMode, h.sendResult, h.disconnect⟩
  · rw [he]
    have hloop := timeOutOperation_loop ({ s.pending env with
      loop.result.time := elapsedMsTime env.tickPending (s.pending env).loop.currentOp.timer } : State cfg) env
    refine ⟨?_, ?_, ?_, ?_, fun _ => ?_⟩
    · rw [hloop]
      exact h.currentOp
    · rw [hloop]
      exact h.tag
    · rw [hloop]
      exact h.listeningMode
    · rw [hloop]
      rfl
    · rw [hloop]

theorem elapsedMsTime_zero (now : ℕ) : elapsedMsTime now 0 = toU32 now := by
  simp [elapsedMsTime, toU32, Nat.add_mod_left]

/-- An operation whose context is gone is given up: its parameters have been reset, so that
any time is over its limit. -/
theorem pendingOperation_reset {s : State cfg} (env : LoopEnv) (hlisten : s.loop.listeningMode = false)
    (hop : s.loop.currentOp = .reset) (htick : toU32 env.tickPending ≠ 0) :
    (s.pendingOperation env).loop.sendResult = true ∧ (s.pendingOperation env).loop.ioPending = false ∧
      (s.pendingOperation env).loop.listeningMode = false ∧
      (s.pendingOperation env).loop.result.tag = s.loop.result.tag := by
  have hpending : s.pending env = { s with
      loop.sendResult := false, loop.result.sts := .badId, loop.ioPending := false } := by
    have hparam : s.loop.currentOp.opParam = .max := by rw [hop]; rfl
    simp only [State.pending, hparam]
  obtain ⟨t, rfl, ⟨hover, -⟩ | ⟨-, he⟩⟩ := pendingOperation_cases s env
  · rw [hpending] at hover
    simp only [State.isOverTime, hop, hlisten] at hover
    have hlate : 0 < elapsedMsTime env.tickPending 0 := by
      rw [elapsedMsTime_zero]
      exact Nat.pos_of_ne_zero htick
    simp [OperationParam.reset, OperationParam.operation, OpParam.operation, hlate] at hover
  · rw [he, timeOutOperation_loop, hpending]
    exact ⟨rfl, rfl, hlisten, rfl⟩

/-! ### Phases of an iteration -/

/-- What has a result that is not pushed: it is sent at the end of the iteration, or the
operation is pending. -/
def Processing.inHand (l : Processing) : List Tag := if l.sendResult || l.ioPending then [l.result.tag] else []

theorem Tallied.one {s : State cfg} (h : Tallied s [s.loop.result.tag])
    (hone : s.loop.sendResult = true ∨ s.loop.ioPending = true) : Tallied s s.loop.inHand := by
  have hinHand : s.loop.inHand = [s.loop.result.tag] := if_pos ((Bool.or_eq_true _ _).mpr hone)
  rw [hinHand]
  exact h

theorem Tallied.none {s : State cfg} (h : Tallied s []) (hsend : s.loop.sendResult = false)
    (hpending : s.loop.ioPending = false) : Tallied s s.loop.inHand := by
  have hinHand : s.loop.inHand = [] := if_neg (by simp [hsend, hpending])
  rw [hinHand]
  exact h

/-- After the command: an operation that failed is answered, one that waits or whose
context is gone is in hand, a WRITE is in its queue. -/
structure Begun (env : LoopEnv) (s : State cfg) : Prop where
  listening : s.loop.listeningMode = false
  cancel : s.cancel = false
  tallied : (s.loop.ioPending = false ∧ Tallied s s.loop.inHand) ∨
    (s.loop.ioPending = true ∧ Tallied s [s.loop.result.tag] ∧ Waits s.loop.currentOp.operation) ∨
    (s.loop.ioPending = true ∧ Tallied s [s.loop.result.tag] ∧ s.loop.currentOp = .reset ∧
      toU32 env.tickPending ≠ 0) ∨
    (s.loop.ioPending = true ∧ Tallied s [] ∧ s.loop.currentOp.operation = .write)

/-- After the pending operation: one operation is in hand, which is answered now or is
pending. -/
structure Settled (s : State cfg) : Prop where
  listening : s.loop.listeningMode = false
  cancel : s.cancel = false
  once : s.loop.sendResult = true → s.loop.ioPending = false
  waits : s.loop.ioPending = true → Waits s.loop.currentOp.operation ∧ s.loop.currentOp.operation ≠ .disconnect
  tallied : Tallied s s.loop.inHand

/-- Between two iterations. -/
structure Resting (s : State cfg) : Prop extends Settled s where
  sendResult : s.loop.sendResult = false

/-- The commands that `beginCommand` has prepared. -/
structure Prepared (s : State cfg) : Prop where
  listening : s.loop.listeningMode = false
  cancel : s.cancel = false
  sendResult : s.loop.sendResult = true
  ioPending : s.loop.ioPending = false
  tag : s.loop.result.tag = s.loop.currentOp.tag
  tallied : Tallied s [s.loop.result.tag]

/-- A command answers, waits or writes. -/
structure Commanded (s : State cfg) : Prop where
  listening : s.loop.listeningMode = false
  cancel : s.cancel = false
  sendResult : s.loop.sendResult = true
  ioPending : s.loop.ioPending = false
  tallied : (Tallied s [s.loop.result.tag] ∧ (s.loop.result.sts = .noError → Waits s.loop.currentOp.operation)) ∨
    (Tallied s [] ∧ s.loop.result.sts = .noError ∧ s.loop.currentOp.operation = .write)

/-- A status that is not `noError` leaves the operation in hand, to be answered. -/
theorem Prepared.setSts {s : State cfg} (h : Prepared s) {sts : BofErr}
    (hsts : sts = .noError → Waits s.loop.currentOp.operation) : Commanded (s.setSts sts) :=
  ⟨h.listening, h.cancel, h.sendResult, h.ioPending,
    .inl ⟨h.tallied.same ⟨rfl, rfl, rfl, rfl, rfl⟩ ⟨rfl, rfl, rfl, rfl⟩, hsts⟩⟩

/-- What happens to the connection does not matter to an operation in hand. -/
theorem Prepared.same {s t : State cfg} (h : Prepared s) (hc : SameCommands s t) (ht : Tallied t [s.loop.result.tag]) :
    Prepared t := by
  refine ⟨?_, hc.cancel.trans h.cancel, ?_, ?_, ?_, ?_⟩
  · rw [hc.loop]
    exact h.listening
  · rw [hc.loop]
    exact h.sendResult
  · rw [hc.loop]
    exact h.ioPending
  · rw [hc.loop]
    exact h.tag
  · rw [hc.loop]
    exact ht

theorem Prepared.clientDisconnect {s : State cfg} (h : Prepared s) (destroying : List Wsi) :
    Prepared (s.clientDisconnect destroying) :=
  have hsame := clientDisconnect_same s destroying
  h.same hsame.1 (h.tallied.same hsame.1.toSameUser hsame.2)

/-- What happens while the connection is opened. -/
theorem Prepared.connecting {s : State cfg} (h : Prepared s) (cbs : List Callback) (via : Option Wsi) :
    Prepared ({ callbacks cbs { s with lwsContext := true } with webSocketState.pWebSocket := via } : State cfg) := by
  have hstart : Tallied ({ s with lwsContext := true } : State cfg) [s.loop.result.tag] :=
    h.tallied.same ⟨rfl, rfl, rfl, rfl, rfl⟩ ⟨rfl, rfl, rfl, rfl⟩
  have hsame := callbacks_same cbs ({ s with lwsContext := true } : State cfg)
  exact h.same ⟨⟨hsame.paramCollection, hsame.cancel, hsame.programmed, hsame.collected, hsame.executed⟩, hsame.loop⟩
    ((callbacks_tallied cbs hstart).same ⟨rfl, rfl, rfl, rfl, rfl⟩ ⟨rfl, rfl, rfl, rfl⟩)

theorem commandConnect_commanded {s : State cfg} (hclient : cfg.nbMaxClient = 0) (h : Prepared s) (env : LoopEnv)
    {key : Key} (hop : s.loop.currentOp.opParam = .connect key) : Commanded (s.commandConnect env key) := by
  have hwaits : Waits s.loop.currentOp.operation := .inl (by rw [OperationParam.operation, hop]; rfl)
  have hconnected := h.connecting env.connecting env.connectVia
  simp only [State.commandConnect]
  split_ifs with hmode hcan hctx hvia
  · exact absurd hclient hmode
  · refine hconnected.setSts fun _ => ?_
    rw [show ({ callbacks env.connecting { s with lwsContext := true } with
      webSocketState.pWebSocket := env.connectVia } : State cfg).loop = s.loop from (callbacks_same _ _).loop]
    exact hwaits
  · exact hconnected.setSts (fun he => by cases he)
  · exact (h.clientDisconnect env.destroying).setSts (fun he => by cases he)
  · exact h.setSts (fun he => by cases he)

theorem commandWrite_commanded {s : State cfg} (h : Prepared s) (env : LoopEnv) {nb : ℕ}
    {buffer : Option (List UInt8)} (hop : s.loop.currentOp.opParam = .write nb buffer)
    (hgranted : s.acceptsWrite nb buffer = true → env.onWritable = true) :
    Commanded (s.commandWrite env nb buffer) := by
  rcases commandWrite_cases s env nb buffer with ⟨sts, hsts, he⟩ | ⟨data, q, haccepts, hq, he⟩
  · rw [he]
    exact h.setSts fun hno => absurd hno hsts
  · rw [he, callbackOnWritable_eq, hgranted haccepts]
    refine ⟨h.listening, h.cancel, h.sendResult, h.ioPending, .inr ⟨?_, rfl, ?_⟩⟩
    · refine ⟨?_, h.tallied.collected, h.tallied.limit⟩
      have haccounted := h.tallied.accounted
      have htag : (s.newWriteOp nb data).result.tag = s.loop.result.tag := rfl
      rw [List.perm_iff_count] at haccounted ⊢
      intro t
      have ht := haccounted t
      simp only [State.setSts, (Fifo.push_eq_some_iff.mp hq).2, List.map_append, List.map_cons, List.map_nil,
        List.count_append, List.count_cons, List.count_nil, htag] at ht ⊢
      omega
    · simp only [State.setSts, OperationParam.operation, hop]
      rfl

theorem command_commanded {s : State cfg} (hclient : cfg.nbMaxClient = 0) (h : Prepared s) (env : LoopEnv)
    (hgranted : ∀ nb buffer, s.loop.currentOp.opParam = .write nb buffer → s.acceptsWrite nb buffer = true →
      env.onWritable = true) : Commanded (s.command env) := by
  unfold State.command
  cases hop : s.loop.currentOp.opParam with
  | listen =>
    simp only [State.commandListen, if_pos hclient]
    exact h.setSts (fun he => by cases he)
  | connect key => exact commandConnect_commanded hclient h env hop
  | disconnect =>
    have hwaits : Waits s.loop.currentOp.operation := .inr (.inr (by rw [OperationParam.operation, hop]; rfl))
    simp only [State.commandDisconnect]
    split_ifs
    · exact h.setSts (fun he => by cases he)
    · refine (h.clientDisconnect env.destroying).setSts fun _ => ?_
      rw [(clientDisconnect_same s env.destroying).1.loop]
      exact hwaits
    · exact h.setSts (fun he => by cases he)
  | exit =>
    exact ⟨h.listening, h.cancel, h.sendResult, h.ioPending,
      .inl ⟨h.tallied.same ⟨rfl, rfl, rfl, rfl, rfl⟩ ⟨rfl, rfl, rfl, rfl⟩, fun he => by cases he⟩⟩
  | read nb buffer =>
    exact h.setSts fun _ => .inr (.inl (by rw [OperationParam.operation, hop]; rfl))
  | write nb buffer => exact commandWrite_commanded h env hop (hgranted nb buffer hop)
  | max => exact h.setSts (fun he => by cases he)

theorem Commanded.begun {s : State cfg} (h : Commanded s) (env : LoopEnv) :
    Begun env { s with loop.ioPending := s.loop.ioPending || decide (s.loop.result.sts = .noError) } := by
  refine ⟨h.listening, h.cancel, ?_⟩
  rcases h.tallied with ⟨htallied, hwaits⟩ | ⟨htallied, hsts, hop⟩
  · have htallied := htallied.same (t := { s with
      loop.ioPending := s.loop.ioPending || decide (s.loop.result.sts = .noError) })
      ⟨rfl, rfl, rfl, rfl, rfl⟩ ⟨rfl, rfl, rfl, rfl⟩
    by_cases hsts : s.loop.result.sts = .noError
    · exact .inr (.inl ⟨by simp [hsts], htallied, hwaits hsts⟩)
    · exact .inl ⟨by simp [h.ioPending, hsts], htallied.one (.inl h.sendResult)⟩
  · refine .inr (.inr (.inr ⟨by simp [hsts], ?_, hop⟩))
    exact htallied.same ⟨rfl, rfl, rfl, rfl, rfl⟩ ⟨rfl, rfl, rfl, rfl⟩

/-- What is in hand, between two iterations, is the pending operation. -/
theorem Resting.idle {s : State cfg} (h : Resting s) (hp : s.loop.ioPending = false) : Tallied s [] := by
  have hinHand : s.loop.inHand = [] := if_neg (by simp [h.sendResult, hp])
  exact hinHand ▸ h.tallied

theorem Settled.one {s : State cfg} (h : Settled s) (hone : s.loop.sendResult = true ∨ s.loop.ioPending = true) :
    Tallied s [s.loop.result.tag] := by
  have hinHand : s.loop.inHand = [s.loop.result.tag] := if_pos ((Bool.or_eq_true _ _).mpr hone)
  exact hinHand ▸ h.tallied

/-- The command of the iteration. -/
theorem newCommand_begun {s : State cfg} (hclient : cfg.nbMaxClient = 0) (h : Resting s) (env : LoopEnv)
    (hc : (Event.iterate env).Undisturbed s) : Begun env (s.newCommand env) := by
  obtain ⟨halone, hgranted, hclock⟩ := hc
  rcases newCommand_cases s env with ⟨-, he⟩ | ⟨op, hop, ⟨hp, -, -⟩ | ⟨htaken, he⟩⟩
  · rw [he]
    refine ⟨h.listening, h.cancel, ?_⟩
    by_cases hp : s.loop.ioPending = true
    · have htallied := h.one (.inr hp)
      cases hservice : s.loop.service with
      | true => exact .inr (.inl ⟨hp, htallied.same ⟨rfl, rfl, rfl, rfl, rfl⟩ ⟨rfl, rfl, rfl, rfl⟩, (h.waits hp).1⟩)
      | false =>
        exact .inr (.inr (.inl ⟨hp, htallied.same ⟨rfl, rfl, rfl, rfl, rfl⟩ ⟨rfl, rfl, rfl, rfl⟩, rfl,
          hclock hp hservice⟩))
    · exact .inl ⟨Bool.eq_false_iff.mpr hp, h.tallied.same ⟨rfl, rfl, rfl, rfl, rfl⟩ ⟨rfl, rfl, rfl, rfl⟩⟩
  · rw [halone hp] at hop
    cases hop
  · have hp : s.loop.ioPending = false := by
      by_contra hp
      rw [halone (Bool.not_eq_false _ ▸ hp)] at hop
      cases hop
    have htallied := (h.idle hp).popped hop
    have hprepared : Prepared ((s.popped op).beginCommand env) :=
      ⟨h.listening, h.cancel, rfl, hp, rfl, htallied.accounted, htallied.collected, htallied.limit⟩
    rw [he, takeCommand_eq]
    refine (command_commanded hclient hprepared env fun nb buffer hparam haccepts => hgranted ?_).begun env
    exact willWrite_eq_true htaken hparam haccepts

/-- The pending operation. -/
theorem Begun.settled {s : State cfg} {env : LoopEnv} (h : Begun env s) :
    Settled (if s.loop.ioPending then s.pendingOperation env else s) := by
  have hsame := pendingOperation_same s env
  have hcancel := hsame.1.cancel.trans h.cancel
  rcases h.tallied with ⟨hp, ht⟩ | ⟨hp, ht, hwaits⟩ | ⟨hp, ht, hreset, htick⟩ | ⟨hp, ht, hwrite⟩
  · rw [hp]
    exact ⟨h.listening, h.cancel, fun _ => hp, fun hp' => absurd (hp.symm.trans hp') Bool.false_ne_true, ht⟩
  · have hlooked := pendingOperation_looked env hp hwaits
    have ht := ht.same hsame.1 hsame.2.1
    rw [if_pos hp]
    rw [← hlooked.tag] at ht
    refine ⟨hlooked.listeningMode.trans h.listening, hcancel, fun hsend => ?_, fun hp' => ?_, ht.one ?_⟩
    · rw [hlooked.sendResult] at hsend
      simpa using hsend
    · rw [hlooked.currentOp]
      refine ⟨hwaits, fun hdisconnect => ?_⟩
      exact absurd ((hlooked.disconnect hdisconnect).symm.trans hp') Bool.false_ne_true
    · rw [hlooked.sendResult]
      cases (s.pendingOperation env).loop.ioPending <;> simp
  · obtain ⟨hsend, hp', hlistening, htag⟩ :=
      pendingOperation_reset env h.listening hreset htick
    have ht := ht.same hsame.1 hsame.2.1
    rw [if_pos hp]
    rw [← htag] at ht
    exact ⟨hlistening, hcancel, fun _ => hp', fun h => absurd (hp'.symm.trans h) Bool.false_ne_true,
      ht.one (.inl hsend)⟩
  · have ht := ht.same hsame.1 hsame.2.1
    obtain ⟨time, he⟩ := pendingOperation_write env hwrite
    rw [if_pos hp]
    rw [he] at ht ⊢
    exact ⟨h.listening, h.cancel, by rintro ⟨⟩, by rintro ⟨⟩, ht.none rfl rfl⟩

/-- The result is sent. -/
theorem Settled.resting {s : State cfg} (h : Settled s) (env : LoopEnv) :
    Resting (if s.loop.sendResult then s.sendResult env else s) := by
  cases hsend : s.loop.sendResult with
  | false => exact ⟨h, hsend⟩
  | true =>
    have hp := h.once hsend
    have htallied := h.one (.inl hsend)
    obtain ⟨time, q, pushed, notified, he, hpush⟩ := sendResult_eq s env
    obtain ⟨hq, hpushed⟩ := htallied.pushed_eq (Nat.add_pos_left Nat.zero_lt_one _) hpush
    have htag : ({ s.loop.result with time := time } : OperationResult).tag = s.loop.result.tag := rfl
    rw [if_pos rfl, he]
    refine ⟨⟨h.listening, h.cancel, by rintro ⟨⟩, fun h => absurd (hp.symm.trans h) Bool.false_ne_true, ?_⟩, rfl⟩
    refine Tallied.none ⟨?_, ?_, htallied.limit⟩ rfl hp
    · have haccounted := htallied.accounted
      rw [List.perm_iff_count] at haccounted ⊢
      intro t
      have ht := haccounted t
      simp only [hpushed, List.map_append, List.map_cons, List.map_nil, List.count_append, List.count_cons,
        List.count_nil, htag] at ht ⊢
      omega
    · simp only [hpushed, hq, List.length_append, List.length_cons, List.length_nil, htallied.collected]
      omega

theorem Resting.same {s t : State cfg} (h : Resting s) (hu : SameUser s t) (hw : SameWrites s t)
    {running service : Bool} (hl : t.loop = { s.loop with running := running, service := service }) : Resting t := by
  have ht := h.tallied.same hu hw
  refine ⟨⟨?_, hu.cancel.trans h.cancel, ?_, ?_, ?_⟩, ?_⟩ <;> rw [hl]
  · exact h.listening
  · exact h.once
  · exact h.waits
  · exact ht
  · exact h.sendResult

theorem loopEnd_resting {s : State cfg} (h : Resting s) (env : LoopEnv) : Resting (s.loopEnd env) := by
  have hsame := loopEnd_same s env
  obtain ⟨running, service, hloop⟩ := loopEnd_loop s env
  exact h.same hsame.1 hsame.2.1 hloop

theorem iterate_resting {s : State cfg} (hclient : cfg.nbMaxClient = 0) (h : Resting s) (env : LoopEnv)
    (hc : (Event.iterate env).Undisturbed s) : Resting (s.iterate env) := by
  cases hrun : s.loop.running with
  | false =>
    rw [iterate_of_stopped hrun]
    exact h
  | true =>
    have hsettled : Settled (s.beforeCancel env) := (newCommand_begun hclient h env hc).settled
    rw [iterate_eq hrun, State.endIteration, if_neg (ne_true_of_eq_false hsettled.cancel)]
    exact loopEnd_resting (hsettled.resting env) env

/-! ### Runs -/

theorem step_resting (hclient : cfg.nbMaxClient = 0) (s : State cfg) (e : Event) (h : Resting s)
    (hc : e.WithinLimit s ∧ e.Undisturbed s) : Resting (step s e) := by
  cases e with
  | program timeOut tick opParam =>
    have htallied := h.tallied.program timeOut tick opParam hc.1
    simp only [step, State.program] at htallied ⊢
    split at htallied <;> exact ⟨⟨h.listening, h.cancel, h.once, h.waits, htallied⟩, h.sendResult⟩
  | collect =>
    have htallied := h.tallied.collect
    simp only [step, State.collect] at htallied ⊢
    split at htallied
    · exact ⟨⟨h.listening, h.cancel, h.once, h.waits, htallied⟩, h.sendResult⟩
    · exact h
  | cancel timeOut | reset => exact hc.1.elim
  | cancelled =>
    simp only [step, State.cancelled]
    split_ifs
    · exact h.same ⟨rfl, rfl, rfl, rfl, rfl⟩ ⟨rfl, rfl, rfl, rfl⟩ rfl
    · exact h
  | clear => exact h.same ⟨rfl, h.cancel.symm, rfl, rfl, rfl⟩ ⟨rfl, rfl, rfl, rfl⟩ rfl
  | callback cb =>
    simp only [step]
    split_ifs
    · have hsame := lwsCallback_same cb s
      have htallied := lwsCallback_tallied h.tallied cb
      rw [← hsame.loop] at htallied
      refine ⟨⟨?_, hsame.cancel.trans h.cancel, ?_, ?_, htallied⟩, ?_⟩ <;> rw [hsame.loop]
      · exact h.listening
      · exact h.once
      · exact h.waits
      · exact h.sendResult
    · exact h
  | iterate env => exact iterate_resting hclient h env hc.2

theorem start_resting : Resting (State.start : State cfg) :=
  ⟨⟨rfl, rfl, by rintro ⟨⟩, by rintro ⟨⟩, ⟨.refl _, rfl, Nat.zero_le _⟩⟩, rfl⟩

/-- **One result for each operation**: in every quiet state that a client reaches without
disturbance, the results are those of the programmed operations, each once. -/
theorem operations_answered (hclient : cfg.nbMaxClient = 0) (es : List Event)
    (h : Meets step (fun s e => e.WithinLimit s ∧ e.Undisturbed s) (State.start : State cfg) es)
    (hquiet : (exec step (State.start : State cfg) es).Quiet) : Answered (exec step (State.start : State cfg) es) := by
  have hresting := exec_inv (step_resting hclient) es _ start_resting h
  obtain ⟨hparams, hwrites, hpending⟩ := hquiet
  have haccounted := (hresting.idle hpending).accounted
  rw [hparams, hwrites] at haccounted
  exact haccounted

/-- A connection, and a byte sent on it. -/
theorem operations_answered_two :
    (exec step (State.start : State client) (connectAndWrite 1 ++ [oneByteSent 1])).Quiet ∧
      Answered (exec step (State.start : State client) (connectAndWrite 1 ++ [oneByteSent 1])) :=
  ⟨by decide +kernel, operations_answered rfl _ (by decide +kernel) (by decide +kernel)⟩

/-- A READ that is popped while the CONNECT is pending replaces its parameters: when it is
over time, the result has the ticket of the CONNECT, and the READ has none. -/
theorem not_operations_answered :
    ¬ ∀ (cfg : WebSocketParam) (es : List Event), cfg.nbMaxClient = 0 →
      Meets step (fun s e => e.WithinLimit s) (State.start : State cfg) es →
      (exec step (State.start : State cfg) es).Quiet → Answered (exec step (State.start : State cfg) es) := by
  intro h
  have hlost := h client (Event.execute 0 1 (.connect ['k']) ++ Event.execute 0 1 (.read 1 true) ++
    [.callback (.clientEstablished 1 true), .iterate (.at 2000 1)]) rfl (by decide +kernel) (by decide +kernel)
  exact absurd hlost (by decide +kernel)

end BofWebRpc.WebSocket
