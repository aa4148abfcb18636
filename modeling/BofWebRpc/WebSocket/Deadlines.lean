import BofWebRpc.WebSocket.Answers
import BofWebRpc.WebSocket.Lifecycle
import BofWebRpc.WebSocket.Sharing

/-!
# Deadlines

A command restarts its timer when it is taken, and each later iteration compares the time it has been
pending with `TimeOut_U32`. A WRITE is not looked at here: the writable callback has its own test.

## The model

`AnsweredSince` says that an operation has got its result since a given moment. The runs are those of
`BofWebRpc.WebSocket.Accounting`: a client whose user stays within the limit, and whose pending operation
is not disturbed by another command.

## What is proved

* `iterate_held` — one iteration answers the operation, or leaves it pending and in time.
* `answered_by_deadline` — in every run, the first iteration after the deadline finds the operation
  answered, or answers it.
-/

namespace BofWebRpc.WebSocket

open Runs

variable {cfg : WebSocketParam}

/-! ### Results that have come -/

/-- `op` has got its result after the results `base`. -/
def AnsweredSince (base : List OperationResult) (op : OperationParam) (s : State cfg) : Prop :=
  ∃ new, s.history.pushed = base ++ new ∧ op.tag ∈ new.map OperationResult.tag

theorem AnsweredSince.more {base new : List OperationResult} {op : OperationParam} {s t : State cfg}
    (h : AnsweredSince base op s) (hnew : t.history.pushed = s.history.pushed ++ new) : AnsweredSince base op t := by
  obtain ⟨found, hfound, hmem⟩ := h
  refine ⟨found ++ new, ?_, ?_⟩
  · rw [hnew, hfound, List.append_assoc]
  · rw [List.map_append]
    exact List.mem_append_left _ hmem

/-! ### One iteration -/

/-- **One iteration** answers the operation in hand, or leaves it pending and in time. -/
theorem iterate_held (hclient : cfg.nbMaxClient = 0) {s : State cfg} (h : Resting s) {env : LoopEnv}
    (hc : (Event.iterate env).Undisturbed s) (hrun : s.loop.running = true) {op : OperationParam} {t : ℕ}
    (hop : op.operation ≠ .write) (hhand : InHand op t (s.newCommand env)) :
    (Held op t (s.iterate env) ∧ elapsedMsTime env.tickPending t ≤ op.timeOut) ∨
      AnsweredSince s.history.pushed op (s.iterate env) := by
  obtain ⟨new, -, -, hnew⟩ := beforeCancel_pushes (P := fun _ => True) (s := s) (fun _ _ _ _ => trivial) env
  have hattended := iterate_attended hclient h hc hrun hhand
  cases hattended with
  | answered r tag results inHand =>
    refine .inr ⟨new ++ [r], ?_, ?_⟩
    · rw [results, hnew, List.append_assoc]
    · rw [List.map_append, ← tag]
      exact List.mem_append_right _ (List.mem_singleton_self _)
  | pending results held inHand inTime => exact .inl ⟨held, inTime⟩
  | written results write inHand => exact absurd write hop

/-! ### Runs -/

/-- Since the results were `base`, the operation `op` has been pending or has got its result. -/
structure Awaiting (base : List OperationResult) (op : OperationParam) (t : ℕ) (s : State cfg) : Prop where
  resting : Resting s
  past : ∃ old, s.history.pushed = base ++ old
  kept : Held op t s ∨ AnsweredSince base op s

section Await

variable {base : List OperationResult} {op : OperationParam} {t : ℕ} {s : State cfg}

/-- A result that comes later is one that has come since. -/
theorem Awaiting.answered {u : State cfg} (h : Awaiting base op t s) (hu : AnsweredSince s.history.pushed op u) :
    AnsweredSince base op u := by
  obtain ⟨old, hold⟩ := h.past
  obtain ⟨found, hfound, hmem⟩ := hu
  refine ⟨old ++ found, ?_, ?_⟩
  · rw [hfound, hold, List.append_assoc]
  · rw [List.map_append]
    exact List.mem_append_right _ hmem

/-- The results of a step come after those that are there. -/
theorem step_pushed {e : Event} (h : Resting s) (he : e.WithinLimit s) :
    ∃ new, (step s e).history.pushed = s.history.pushed ++ new := by
  have hnotcancel : e.wipes = false := by
    cases e <;> first | rfl | exact he.elim
  obtain ⟨-, new, hnew, -⟩ := step_results h.cancel hnotcancel
  exact ⟨new, hnew⟩

/-- An iteration looks at the operation that is pending. -/
theorem Awaiting.iterate (hclient : cfg.nbMaxClient = 0) (h : Awaiting base op t s) (hop : op.operation ≠ .write)
    {env : LoopEnv} (hc : (Event.iterate env).Undisturbed s) (hrun : s.loop.running = true) :
    (Held op t (s.iterate env) ∧ elapsedMsTime env.tickPending t ≤ op.timeOut) ∨
      AnsweredSince base op (s.iterate env) := by
  rcases h.kept with hheld | hanswered
  · exact (iterate_held hclient h.resting hc hrun hop (hheld.inHand hc)).imp_right h.answered
  · obtain ⟨new, hnew⟩ := step_pushed (e := .iterate env) h.resting trivial
    exact .inr (hanswered.more hnew)

/-- **One event**: the operation stays pending until it has its result. -/
theorem step_awaiting (hclient : cfg.nbMaxClient = 0) (hop : op.operation ≠ .write) (e : Event)
    (h : Awaiting base op t s) (he : e.WithinLimit s ∧ e.Undisturbed s) : Awaiting base op t (step s e) := by
  obtain ⟨new, hnew⟩ := step_pushed h.resting he.1
  obtain ⟨old, hold⟩ := h.past
  refine ⟨step_resting hclient s e h.resting he, ⟨old ++ new, by rw [hnew, hold, List.append_assoc]⟩, ?_⟩
  have hsame : (step s e).loop = s.loop → Held op t (step s e) ∨ AnsweredSince base op (step s e) := by
    intro hloop
    refine h.kept.imp (fun hheld => ?_) fun hanswered => hanswered.more hnew
    obtain ⟨hp, hcurrent, htag⟩ := hheld
    rw [← hloop] at hp hcurrent htag
    exact ⟨hp, hcurrent, htag⟩
  cases e using Event.byCause with
  | user e hu => exact hsame (step_sameEngine s hu).loop
  | callback cb =>
    apply hsame
    rw [step]
    split_ifs
    · exact (lwsCallback_same cb s).loop
    · rfl
  | iterate env =>
    cases hrun : s.loop.running with
    | false => exact hsame (congrArg State.loop (iterate_of_stopped hrun env))
    | true => exact (h.iterate hclient hop he.2 hrun).imp_left And.left

end Await

/-- The loop that is running now has been running before. -/
theorem running_before (es : List Event) {s : State cfg} (h : (exec step s es).loop.running = true) :
    s.loop.running = true := by
  induction es generalizing s with
  | nil => exact h
  | cons e es ih => exact ((step_running s e).mp (ih h)).1

/-- **Deadlines are kept**: in every run of a client whose user stays within the limit and whose pending operations are
not disturbed, an operation that is taken, other than a WRITE, has its result at the end of the first iteration that
looks at it when its time is over, if the thread still runs. -/
theorem answered_by_deadline (hclient : cfg.nbMaxClient = 0) (es₀ es : List Event) (env₀ env : LoopEnv)
    {op : OperationParam}
    (h : Meets step (fun s e => e.WithinLimit s ∧ e.Undisturbed s) (State.start : State cfg)
      (es₀ ++ (.iterate env₀ :: es ++ [.iterate env])))
    (hrun : (exec step (State.start : State cfg) (es₀ ++ .iterate env₀ :: es)).loop.running = true)
    (htaken : (exec step (State.start : State cfg) es₀).taken = some op) (hop : op.operation ≠ .write)
    (hlate : op.timeOut < elapsedMsTime env.tickPending env₀.tickTake) :
    AnsweredSince (exec step (State.start : State cfg) es₀).history.pushed op
      (exec step (State.start : State cfg) (es₀ ++ (.iterate env₀ :: es ++ [.iterate env]))) := by
  obtain ⟨hbefore, hlater⟩ := meets_append.mp h
  have hresting := exec_inv (step_resting hclient) es₀ _ start_resting hbefore
  rw [exec_append] at hrun ⊢
  generalize exec step (State.start : State cfg) es₀ = s₀ at *
  obtain ⟨⟨hfirst, hbetween⟩, hlast, -⟩ := meets_append.mp hlater
  rw [exec_append, exec_cons]
  rw [exec_cons] at hrun hlast
  -- from the iteration that takes it on, the operation is pending or has its result
  have hstart : Awaiting s₀.history.pushed op env₀.tickTake (step s₀ (.iterate env₀)) := by
    have hrunning : s₀.loop.running = true := ((step_running s₀ (.iterate env₀)).mp (running_before es hrun)).1
    have htake := iterate_held hclient hresting hfirst.2 hrunning hop (newCommand_inHand hclient hresting htaken env₀)
    exact ⟨step_resting hclient s₀ (.iterate env₀) hresting hfirst, step_pushed hresting hfirst.1,
      htake.imp_left And.left⟩
  have hawaiting := exec_inv (fun s e hs he => step_awaiting hclient hop e hs he) es _ hstart hbetween
  rcases hawaiting.iterate hclient hop hlast.2 hrun with ⟨-, hin⟩ | hanswered
  · exact absurd hlate (Nat.not_lt.mpr hin)
  · exact hanswered

/-- A READ finds no message: after a second it has its result. -/
theorem answered_by_deadline_read :
    AnsweredSince (exec step (State.start : State client) (connectAs 1 ++
      [.program 1000 0 (.read 1 true)])).history.pushed
      ⟨2, 1000, 0, .read 1 true⟩
      (exec step (State.start : State client) (connectAs 1 ++ [.program 1000 0 (.read 1 true)] ++
        (.iterate (.at 0 1) :: [.iterate (.at 500 1)] ++ [.iterate (.at 1001 1)]))) := by
  have htaken : (exec step (State.start : State client) (connectAs 1 ++ [.program 1000 0 (.read 1 true)])).taken =
      some ⟨2, 1000, 0, .read 1 true⟩ := by decide +kernel
  exact answered_by_deadline rfl _ _ _ _ (by decide +kernel) (by decide +kernel) htaken (by decide) (by decide +kernel)

end BofWebRpc.WebSocket
