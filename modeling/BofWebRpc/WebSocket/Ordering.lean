import BofWebRpc.Library.Pipeline
import BofWebRpc.WebSocket.Cancelling
import BofWebRpc.WebSocket.Tickets

/-!
# The order of the commands

`ProgramWebSocketOperation` appends a command to `mpuSocketOperationParamCollection`, and
each iteration pops one. The one that is popped is dropped when another operation is
pending, unless the server listens; the cancel block and `ResetWebSocketOperation` drop all
that are queued.

## What is proved

* `iterate_commands` — an iteration executes the command it pops, or none.
* `commands_in_order` — in every run the commands are executed in the order in which they have
  been accepted, none twice.
* `commands_kept_iff` — no command is missed if and only if no step of the run drops one.
-/

namespace BofWebRpc.WebSocket

open Runs Pipeline

variable {cfg : WebSocketParam}

/-- The commands waiting. -/
def State.queued (s : State cfg) : List OperationParam := s.paramCollection.elements

/-- The commands that have been executed, and those that wait. -/
def State.commands (s : State cfg) : List OperationParam := s.history.executed ++ s.queued

/-! ### One iteration -/

/-- What is executed was the oldest command. -/
theorem queued_of_taken {s : State cfg} {op : OperationParam} (h : s.taken = some op) :
    s.queued = op :: s.queued.tail := by
  simp only [State.taken] at h
  split_ifs at h
  exact Fifo.peek_eq_some_iff.mp h

/-- The head of an iteration pops the oldest command, and executes it unless another operation is pending. -/
theorem newCommand_commands (s : State cfg) (env : LoopEnv) :
    (s.newCommand env).queued = s.queued.tail ∧
      (s.newCommand env).history.executed = s.history.executed ++ s.taken.toList := by
  rcases newCommand_cases s env with ⟨hnone, he⟩ | ⟨op, hop, ⟨hp, hl, he⟩ | ⟨htaken, he⟩⟩
  · have hqueued : s.queued = [] := hnone
    have htaken : s.taken = none := by
      rw [State.taken, Fifo.peek_eq_none_iff.mpr hnone]
      split_ifs <;> rfl
    rw [he, htaken, hqueued]
    exact ⟨hnone, (List.append_nil _).symm⟩
  · have htaken : s.taken = none := by
      rw [State.taken, hp, hl]
      rfl
    rw [he, htaken]
    exact ⟨rfl, (List.append_nil _).symm⟩
  · have hsame := command_sameUser ((s.popped op).beginCommand env) env
    rw [he, takeCommand_eq, htaken]
    exact ⟨congrArg Fifo.elements hsame.paramCollection, hsame.executed⟩

/-- **An iteration** executes the command that it pops, unless another operation is pending; its cancel block
resets the queue. -/
theorem iterate_commands {s : State cfg} (hrun : s.loop.running = true) (env : LoopEnv) :
    (s.iterate env).queued = (if s.cancel then [] else s.queued.tail) ∧
      (s.iterate env).history.executed = s.history.executed ++ s.taken.toList := by
  obtain ⟨hqueued, hexecuted⟩ := newCommand_commands s env
  constructor
  · cases hcancel : s.cancel with
    | true =>
      have hcancels : (Event.iterate env).cancels s = true := by rw [Event.cancels, hrun, hcancel]; rfl
      rw [State.queued, (iterate_of_cancel hcancels).1]
      rfl
    | false =>
      have hbefore : (s.beforeCancel env).cancel = false := (beforeCancel_sameSignals s env).cancel.trans hcancel
      rw [iterate_eq hrun, State.queued, (endIteration_queues hbefore env).1]
      refine Eq.trans ?_ hqueued
      simp only [State.beforeCancel]
      split_ifs
      · exact congrArg Fifo.elements (pendingOperation_same (s.newCommand env) env).1.paramCollection
      · rfl
  · -- nothing else in the iteration executes a command
    rw [← hexecuted]
    refine iterate_rule (R := fun s u : State cfg => u.history.executed = s.history.executed) (fun _ => rfl)
      (fun h h' => h'.trans h) (fun s => ?_) (fun _ => rfl) (fun s => ?_) (fun s => ?_) hrun
    · exact (pendingOperation_same s env).1.executed
    · obtain ⟨time, q, pushed, notified, hsent, -⟩ := sendResult_eq s env
      rw [hsent]
    · exact (loopEnd_same s env).1.executed

/-! ### What a step drops -/

/-- No command is dropped: none is popped while another operation is pending, a cancel block finds none behind the
one that is executed, and a reset finds none. -/
def Event.Keeps (s : State cfg) : Event → Prop
  | .iterate _ => s.loop.running = true →
      (s.loop.ioPending = true → s.loop.listeningMode = false → s.queued = []) ∧
        (s.cancel = true → s.queued.length ≤ 1)
  | .reset => s.queued = []
  | _ => True

instance (s : State cfg) : (e : Event) → Decidable (e.Keeps s)
  | .iterate _ => inferInstanceAs (Decidable (_ → (_ → _ → _) ∧ (_ → _)))
  | .reset => inferInstanceAs (Decidable (_ = _))
  | .program _ _ _ | .collect | .cancel _ | .cancelled | .clear | .callback _ => isTrue trivial

/-- A step that is no iteration executes nothing, and only a reset drops what is queued. -/
theorem step_commands (s : State cfg) {e : Event} (he : ∀ env, e ≠ .iterate env) :
    (step s e).commands = s.history.executed ++ (if e.isReset then [] else s.queued) ++ s.queues e := by
  cases e using Event.byCause with
  | user e hu =>
    have hexecuted : (step s e).history.executed = s.history.executed := by rw [(step_sameEngine s hu).history]
    rw [State.commands, hexecuted, State.queued, (step_userCalled s hu).paramCollection, List.append_assoc]
    rfl
  | callback cb =>
    have hsame : (step s (.callback cb)).commands = s.commands := by
      simp only [step]
      split_ifs
      · rw [State.commands, State.queued, (lwsCallback_same cb s).executed, (lwsCallback_same cb s).paramCollection]
        rfl
      · rfl
    exact hsame.trans (List.append_nil _).symm
  | iterate env => exact absurd rfl (he env)

/-- **One step** adds what it accepts, drops some commands or none, and keeps their order. -/
theorem step_keeps_iff (s : State cfg) (e : Event) :
    List.Sublist (step s e).commands (s.commands ++ s.queues e) ∧
      ((step s e).commands = s.commands ++ s.queues e ↔ e.Keeps s) := by
  by_cases hiterate : ∃ env, e = .iterate env
  · obtain ⟨env, rfl⟩ := hiterate
    have hnone : s.queues (.iterate env) = [] := rfl
    rw [hnone, List.append_nil, step]
    cases hrun : s.loop.running with
    | false =>
      rw [iterate_of_stopped hrun]
      exact ⟨.refl _, iff_of_true rfl fun hset => absurd (hrun.symm.trans hset) Bool.false_ne_true⟩
    | true =>
      obtain ⟨hqueued, hexecuted⟩ := iterate_commands hrun env
      have hkeeps : (Event.iterate env).Keeps s ↔
          (s.loop.ioPending = true → s.loop.listeningMode = false → s.queued = []) ∧
            (s.cancel = true → s.queued.length ≤ 1) := ⟨fun h => h hrun, fun h _ => h⟩
      rw [State.commands, State.commands, hexecuted, hqueued, List.append_assoc, hkeeps]
      refine ⟨List.Sublist.append (.refl _) ?_, ?_⟩
      · cases htaken : s.taken with
        | none =>
          split_ifs
          · exact List.nil_sublist _
          · exact List.tail_sublist _
        | some op =>
          rw [queued_of_taken htaken]
          split_ifs
          · exact List.Sublist.cons_cons op (List.nil_sublist _)
          · exact .refl _
      · rw [List.append_cancel_left_eq]
        cases htaken : s.taken with
        | none =>
          -- a command that is there is popped and dropped
          have hpends : s.queued ≠ [] → s.loop.ioPending = true ∧ s.loop.listeningMode = false := by
            intro hne
            rw [State.taken] at htaken
            split_ifs at htaken with hfree
            · exact absurd (Fifo.peek_eq_none_iff.mp htaken) hne
            · simpa using hfree
          constructor
          · intro hsame
            have hnil : s.queued = [] := by
              have hlength := congrArg List.length hsame
              split_ifs at hlength <;> simp at hlength <;> exact List.eq_nil_of_length_eq_zero (by omega)
            rw [hnil]
            exact ⟨fun _ _ => rfl, fun _ => Nat.zero_le 1⟩
          · rintro ⟨halone, -⟩
            have hnil : s.queued = [] := by
              by_contra hne
              exact hne (halone (hpends hne).1 (hpends hne).2)
            rw [hnil]
            split_ifs <;> rfl
        | some op =>
          have hcons := queued_of_taken htaken
          have hfree : s.loop.ioPending = true → s.loop.listeningMode = false → s.queued = [] := by
            intro hp hl
            simp [State.taken, hp, hl] at htaken
          rw [and_iff_right hfree, hcons]
          cases hcancel : s.cancel with
          | false => exact iff_of_true rfl fun hset => absurd hset Bool.false_ne_true
          | true =>
            simp only [if_true, Option.toList_some, List.append_nil, List.cons.injEq, true_and, List.length_cons,
              forall_const]
            rw [eq_comm, ← List.length_eq_zero_iff]
            omega
  · rw [step_commands s fun env he => hiterate ⟨env, he⟩, State.commands]
    cases e with
    | iterate env => exact absurd ⟨env, rfl⟩ hiterate
    | reset =>
      have hnone : s.queues .reset = [] := rfl
      rw [hnone, List.append_nil, List.append_nil]
      refine ⟨List.Sublist.append (.refl _) (List.nil_sublist _), ?_⟩
      rw [List.append_cancel_left_eq]
      exact eq_comm
    | program timeOut tick opParam => exact ⟨.refl _, iff_of_true rfl trivial⟩
    | collect | cancel timeOut | cancelled | clear | callback cb => exact ⟨.refl _, iff_of_true rfl trivial⟩

/-! ### Runs -/

/-- **Commands are executed in order, each at most once**: in every run the commands that have been executed, followed
by those still queued, are a part of those accepted, in the same order; what is accepted is what
`ProgramWebSocketOperation` has answered with a ticket. -/
theorem commands_in_order (s : State cfg) (es : List Event) :
    List.Sublist (exec step s es).commands (s.commands ++ collect step State.queues s es) ∧
      (exec step s es).history.programmed =
        s.history.programmed ++ (collect step State.queues s es).map OperationParam.tag := by
  refine ⟨held_sublist (fun s e => (step_keeps_iff s e).1) es s, ?_⟩
  rw [← map_collect]
  exact history_exec (H := fun s : State cfg => s.history.programmed) (I := fun _ => True)
    (fun s e _ _ => ⟨trivial, step_programmed s e⟩) es s trivial (meets_true step es s)

/-- **No command is missed** in a run if and only if no step of it drops one. -/
theorem commands_kept_iff (s : State cfg) (es : List Event) :
    (exec step s es).commands = s.commands ++ collect step State.queues s es ↔ Meets step (fun s e => e.Keeps s) s es :=
  (held_eq_iff (fun s e => (step_keeps_iff s e).1) es s).trans
    (meets_iff (I := fun _ => True) (fun _ _ _ _ => trivial) (fun s e _ _ => (step_keeps_iff s e).2) es s trivial
      (meets_true step es s))

end BofWebRpc.WebSocket
