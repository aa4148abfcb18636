import BofWebRpc.WebSocket.Accounting
import BofWebRpc.WebSocket.Ordering
import BofWebRpc.WebSocket.Reconnecting

/-!
# One answer after the other

The loop has one operation in hand at a time. A WRITE leaves it for the queue of writes, and
gets its result from the writable callback; any other operation is answered before the next
command is executed.

## The model

`InHand` is an operation between its `case` and its result, `Held` the one that is still
pending at the end of an iteration.

## What is proved

* `iterate_attended` — one iteration answers the operation in hand, or leaves it pending and in
  time, or hands a WRITE over.
-/

namespace BofWebRpc.WebSocket

open Runs

variable {cfg : WebSocketParam}

/-! ### The operation in hand -/

/-- The operation `op` is pending, and its timer has been restarted at the time `t`. -/
structure Held (op : OperationParam) (t : ℕ) (s : State cfg) : Prop where
  ioPending : s.loop.ioPending = true
  currentOp : s.loop.currentOp = { op with timer := t }
  tag : s.loop.result.tag = op.tag

/-- What is pending after it has been looked at is in time. -/
theorem pendingOperation_in_time {s : State cfg} {env : LoopEnv} (hlistening : s.loop.listeningMode = false)
    (hp : s.loop.ioPending = true) (hop : Waits s.loop.currentOp.operation)
    (hstill : (s.pendingOperation env).loop.ioPending = true) :
    elapsedMsTime env.tickPending s.loop.currentOp.timer ≤ s.loop.currentOp.timeOut := by
  have hlooked := pending_looked env hp hop
  have hwrite : s.loop.currentOp.operation ≠ .write := by
    intro he
    rw [he] at hop
    rcases hop with he | he | he <;> cases he
  obtain ⟨t, rfl, ⟨hover, -⟩ | ⟨-, he⟩⟩ := pendingOperation_cases s env
  · simpa [State.isOverTime, hlooked.currentOp, hlooked.listeningMode, hlistening, hwrite] using hover
  · rw [he, timeOutOperation_loop] at hstill
    cases hstill

/-! ### One iteration -/

/-- The head of an iteration has the result of `op` in hand: it is to be sent, or `op` is pending, unless its
parameters have been reset because the context is gone. -/
structure InHand (op : OperationParam) (t : ℕ) (s : State cfg) : Prop where
  tag : s.loop.result.tag = op.tag
  sends : s.loop.ioPending = false → s.loop.sendResult = true
  currentOp : s.loop.ioPending = true → s.loop.currentOp = { op with timer := t } ∨ s.loop.currentOp = .reset

/-- The iteration that takes `op`. -/
theorem newCommand_inHand (hclient : cfg.nbMaxClient = 0) {s : State cfg} (h : Resting s) {op : OperationParam}
    (htaken : s.taken = some op) (env : LoopEnv) : InHand op env.tickTake (s.newCommand env) := by
  have hp : s.loop.ioPending = false := by
    simp only [State.taken, h.listening, Bool.or_false] at htaken
    split_ifs at htaken with hp
    exact Bool.eq_false_iff.mpr fun hset => by simp [hset] at hp
  obtain ⟨sts, running, hloop⟩ := command_loop hclient ((s.popped op).beginCommand env) env
  have hcommand : (s.newCommand env).loop = { ((s.popped op).beginCommand env).loop with
      result.sts := sts, running := running, ioPending := s.loop.ioPending || decide (sts = .noError) } := by
    rw [newCommand_of_taken htaken, takeCommand_eq]
    simp only [hloop]
    rfl
  refine ⟨?_, fun _ => ?_, fun _ => .inl ?_⟩ <;> rw [hcommand] <;> rfl

/-- A later iteration: no other command is there. -/
theorem Held.inHand {op : OperationParam} {t : ℕ} {s : State cfg} (h : Held op t s) {env : LoopEnv}
    (hc : (Event.iterate env).Undisturbed s) : InHand op t (s.newCommand env) := by
  have hempty := hc.1 h.ioPending
  rcases newCommand_cases s env with ⟨-, he⟩ | ⟨op', hop', -⟩
  · rw [he]
    refine ⟨h.tag, fun hp => absurd (h.ioPending.symm.trans hp) Bool.true_eq_false.mp, fun _ => ?_⟩
    show (if s.loop.service then s.loop.currentOp else .reset) = _ ∨
      (if s.loop.service then s.loop.currentOp else .reset) = _
    split_ifs
    · exact .inl h.currentOp
    · exact .inr rfl
  · rw [hempty] at hop'
    cases hop'

/-- The result in hand is sent at the end of the iteration. -/
theorem endIteration_answers {s : State cfg} (h : Settled s) (hsend : s.loop.sendResult = true) (env : LoopEnv) :
    ∃ r, (s.endIteration env).history.pushed = s.history.pushed ++ [r] ∧ r.tag = s.loop.result.tag := by
  have hroom := (h.one (.inl hsend)).room (Nat.add_pos_left Nat.zero_lt_one _)
  apply (endIteration_sends_iff (Q := fun r => r.tag = s.loop.result.tag) (fun _ _ => Iff.rfl) s env).mpr
  exact ⟨h.cancel, Nat.lt_succ_of_lt hroom, hsend, rfl⟩

/-- Nothing is sent at the end of an iteration that has nothing to send. -/
theorem endIteration_silent {s : State cfg} (hcancel : s.cancel = false) (hsend : s.loop.sendResult = false)
    (env : LoopEnv) : (s.endIteration env).history.pushed = s.history.pushed := by
  rcases endIteration_results s env with ⟨hset, -⟩ | ⟨-, -, -, hpushed⟩ | ⟨-, hset, -⟩
  · exact absurd (hcancel.symm.trans hset) Bool.false_ne_true
  · exact hpushed
  · exact absurd (hsend.symm.trans hset) Bool.false_ne_true

/-- At the end of an iteration the operation that is pending is in hand, and nothing else. -/
theorem endIteration_inHand {s : State cfg} (hcancel : s.cancel = false) (env : LoopEnv) :
    (s.endIteration env).loop.inHand = if s.loop.ioPending then [s.loop.result.tag] else [] := by
  obtain ⟨time, running, service, hloop⟩ := endIteration_loop hcancel env
  rw [hloop, Processing.inHand, Bool.false_or]
  rfl

/-- What one iteration makes of the operation in hand, after the results `pushed`: it is answered; it is still pending,
and in time; or it is a WRITE, which is out of hand. -/
inductive Attended (op : OperationParam) (t : ℕ) (env : LoopEnv) (pushed : List OperationResult) (s : State cfg) :
    Prop
  | answered (r : OperationResult) (tag : r.tag = op.tag) (results : s.history.pushed = pushed ++ [r])
      (inHand : s.loop.inHand = [])
  | pending (results : s.history.pushed = pushed) (held : Held op t s) (inHand : s.loop.inHand = [op.tag])
      (inTime : elapsedMsTime env.tickPending t ≤ op.timeOut)
  | written (results : s.history.pushed = pushed) (write : op.operation = .write) (inHand : s.loop.inHand = [])

/-- **One iteration** answers the operation in hand, leaves it pending and in time, or hands it over to be written. -/
theorem iterate_attended (hclient : cfg.nbMaxClient = 0) {s : State cfg} (h : Resting s) {env : LoopEnv}
    (hc : (Event.iterate env).Undisturbed s) (hrun : s.loop.running = true) {op : OperationParam} {t : ℕ}
    (hhand : InHand op t (s.newCommand env)) :
    Attended op t env (s.beforeCancel env).history.pushed (s.iterate env) := by
  have hbegun := newCommand_begun hclient h env hc
  have hsettled : Settled (s.beforeCancel env) := hbegun.settled
  have hrest := endIteration_inHand hsettled.cancel env
  rw [iterate_eq hrun]
  have hanswers : (s.beforeCancel env).loop.sendResult = true → (s.beforeCancel env).loop.result.tag = op.tag →
      Attended op t env (s.beforeCancel env).history.pushed ((s.beforeCancel env).endIteration env) := by
    intro hsend htag
    obtain ⟨r, hr, hrtag⟩ := endIteration_answers hsettled hsend env
    exact .answered r (hrtag.trans htag) hr (hrest.trans (if_neg (ne_true_of_eq_false (hsettled.once hsend))))
  cases hp : (s.newCommand env).loop.ioPending with
  | false =>
    have hbefore : s.beforeCancel env = s.newCommand env := if_neg (ne_true_of_eq_false hp)
    rw [hbefore] at hanswers ⊢
    exact hanswers (hhand.sends hp) hhand.tag
  | true =>
    have hbefore : s.beforeCancel env = (s.newCommand env).pendingOperation env := if_pos hp
    rcases hbegun.tallied with ⟨hnone, -⟩ | ⟨-, -, hwaits⟩ | ⟨-, -, hreset, htick⟩ | ⟨-, -, hwrite⟩
    · exact absurd (hnone.symm.trans hp) Bool.false_ne_true
    · have hcurrent : (s.newCommand env).loop.currentOp = { op with timer := t } := by
        refine (hhand.currentOp hp).resolve_right fun hreset => ?_
        rw [hreset] at hwaits
        rcases hwaits with he | he | he <;> cases he
      have hlooked := pendingOperation_looked env hp hwaits
      rw [← hbefore] at hlooked
      have htag := hlooked.tag.trans hhand.tag
      cases hstill : (s.beforeCancel env).loop.ioPending with
      | false =>
        refine hanswers ?_ htag
        rw [hlooked.sendResult, hstill]
        rfl
      | true =>
        have hsilent : (s.beforeCancel env).loop.sendResult = false := by
          rw [hlooked.sendResult, hstill]
          rfl
        have hin := pendingOperation_in_time hbegun.listening hp hwaits (hbefore ▸ hstill)
        rw [hcurrent] at hin
        obtain ⟨time, running, service, hloop⟩ := endIteration_loop hsettled.cancel env
        rw [hstill, if_pos rfl, htag] at hrest
        refine .pending (endIteration_silent hsettled.cancel hsilent env) ⟨?_, ?_, ?_⟩ hrest hin <;> rw [hloop]
        · exact hstill
        · exact hlooked.currentOp.trans hcurrent
        · exact htag
    · -- the context is gone, and any time is over the limit of the parameters that have been reset
      obtain ⟨hsend, -, -, htag⟩ := pendingOperation_reset env hbegun.listening hreset htick
      rw [← hbefore] at hsend htag
      exact hanswers hsend (htag.trans hhand.tag)
    · have hwritten : op.operation = .write := by
        rcases hhand.currentOp hp with hcurrent | hreset
        · rw [hcurrent] at hwrite
          exact hwrite
        · rw [hreset] at hwrite
          cases hwrite
      obtain ⟨time, he⟩ := pendingOperation_write env hwrite
      rw [← hbefore] at he
      have hsilent : (s.beforeCancel env).loop.sendResult = false := by rw [he]
      have hidle : (s.beforeCancel env).loop.ioPending = false := by rw [he]
      rw [hidle] at hrest
      exact .written (endIteration_silent hsettled.cancel hsilent env) hwritten hrest

end BofWebRpc.WebSocket
