import BofWebRpc.Library.Runs
import BofWebRpc.Library.Shutdown

/-!
# Starting and stopping a server

`Start` creates a thread that calls `listen` and waits until the server runs, or until it is tired
of waiting; `Stop` asks the server to stop, waits in the same way, and joins the thread.

## The model

`ServerThread` is the place where the calling thread is, in `Start`, `Stop` or the destructor, and the
place where the listener is. `is_running` is true from the moment the listener serves until it has ended,
and `stop` is a request in the sense of `Shutdown`. One step of the calling thread is one access to
what it shares with the listener; `Delta_U32` comes from outside.

`mStopServerThread`, which nothing reads, is left out.

## What is proved

* `webServer_no_deadlock` — `Stop` never waits for a listener that has not been asked to end, in every run in which
  `stop` is never called before the listener serves.
* `early_stop_deadlocks` — a `stop` that comes too early is followed by such a wait.
-/

namespace BofWebRpc.WebApp

open Runs Shutdown

/-! ### The threads -/

/-- What follows a `Stop`. -/
inductive AfterStop where
  /-- It returns to the user. -/
  | done
  /-- `Start` goes on. -/
  | restart
  /-- The destructor deletes the server. -/
  | delete
  deriving DecidableEq

/-- Where the calling thread is. -/
inductive CallerPoint where
  /-- In no call. -/
  | idle
  /-- In `Start`, before `if (mServerThread.joinable())`. -/
  | joinable
  /-- In `Start`, before `std::thread`. -/
  | create
  /-- In `Start`, in the loop. -/
  | waitRunning
  /-- In `Start`, before `Rts_B = IsRunning()`. -/
  | started
  /-- In `Stop`, before `mpHttpServer->stop()`. -/
  | stop (after : AfterStop)
  /-- In `Stop`, in the loop. -/
  | waitStopped (after : AfterStop)
  /-- In `Stop`, before `Rts_B = !IsRunning()`. -/
  | stopped (after : AfterStop)
  /-- In `mServerThread.join()`. -/
  | join (after : AfterStop)
  /-- The server has been deleted. -/
  | deleted
  deriving DecidableEq

/-- The calling thread and the listener. -/
structure ServerThread where
  /-- `mServerThread`. -/
  listener : Worker
  caller : CallerPoint
  /-- `Rts_B` of the last call. -/
  rts : Bool
  deriving DecidableEq

/-- A server that has not been started. -/
def ServerThread.new : ServerThread := { listener := .absent, caller := .idle, rts := false }

/-- `IsRunning`. -/
def ServerThread.isRunning (s : ServerThread) : Bool := decide (s.listener = .serving ∨ s.listener = .asked)

/-- `mServerThread.joinable()`. -/
def ServerThread.isJoinable (s : ServerThread) : Bool := decide (s.listener ≠ .absent)

/-- Where `Stop` returns to. -/
def AfterStop.point : AfterStop → CallerPoint
  | .done => .idle
  | .restart => .create
  | .delete => .deleted

/-- One step of the calling thread, with `ServerStartStopTimeoutInMs_U32` and the `Delta_U32` of a loop. -/
def ServerThread.advance (timeOut delta : ℕ) (s : ServerThread) : ServerThread :=
  match s.caller with
  | .idle | .deleted => s
  | .joinable => { s with caller := if s.isJoinable then .stop .restart else .create }
  | .create => { s with listener := .preparing, caller := .waitRunning }
  | .waitRunning => if s.isRunning ∨ timeOut ≤ delta then { s with caller := .started } else s
  | .started => { s with rts := s.isRunning, caller := .idle }
  | .stop after => { s with listener := s.listener.request, caller := .waitStopped after }
  | .waitStopped after => if ¬ s.isRunning ∨ timeOut ≤ delta then { s with caller := .stopped after } else s
  | .stopped after => { s with rts := !s.isRunning, caller := if s.isJoinable then .join after else after.point }
  | .join after => if s.listener = .ended then { s with listener := .absent, caller := after.point } else s

/-- What can happen next. -/
inductive ServerEvent where
  /-- `Start` is called. -/
  | start
  /-- `Stop` is called. -/
  | stop
  /-- The destructor is called. -/
  | delete
  /-- The calling thread takes a step. -/
  | caller (delta : ℕ)
  /-- The listener takes a step; `listen` may fail. -/
  | listener (fails : Bool)
  deriving DecidableEq

/-- One event; a call is made when no other one is in progress. -/
def ServerThread.step (timeOut : ℕ) (s : ServerThread) : ServerEvent → ServerThread
  | .start => if s.caller = .idle then { s with caller := .joinable } else s
  | .stop => if s.caller = .idle then { s with caller := .stop .done } else s
  | .delete => if s.caller = .idle then { s with caller := .stop .delete } else s
  | .caller delta => s.advance timeOut delta
  | .listener fails => { s with listener := s.listener.advance fails }

/-! ### Deadlocks -/

/-- `Stop` waits in `join`, the listener serves or will serve, and has not been asked to end; the only thread that
could ask it is the one that waits. -/
def ServerThread.Deadlocked (s : ServerThread) : Prop :=
  (s.caller = .join .done ∨ s.caller = .join .restart ∨ s.caller = .join .delete) ∧ ¬ s.listener.Ending

instance (s : ServerThread) : Decidable s.Deadlocked := inferInstanceAs (Decidable (_ ∧ _))

/-- `stop` is not called between the creation of the listener and the moment it serves. -/
def ServerEvent.Timely (s : ServerThread) : ServerEvent → Prop
  | .caller _ =>
    s.caller = .stop .done ∨ s.caller = .stop .restart ∨ s.caller = .stop .delete → s.listener ≠ .preparing
  | _ => True

instance (s : ServerThread) : (e : ServerEvent) → Decidable (e.Timely s)
  | .caller _ => inferInstanceAs (Decidable (_ → _))
  | .start | .stop | .delete | .listener _ => isTrue trivial

/-- Between `stop` and `join` the listener ends. -/
def ServerThread.Stopping (s : ServerThread) : Prop :=
  match s.caller with
  | .waitStopped _ | .stopped _ | .join _ => s.listener.Ending
  | _ => True

theorem step_stopping (timeOut : ℕ) (s : ServerThread) (e : ServerEvent) (h : s.Stopping) (ht : e.Timely s) :
    (s.step timeOut e).Stopping := by
  obtain ⟨listener, caller, rts⟩ := s
  cases e with
  | start | stop | delete =>
    simp only [ServerThread.step]
    split_ifs
    · trivial
    · exact h
  | listener fails =>
    cases caller with
    | waitStopped after | stopped after | join after => exact Worker.Ending.advance h fails
    | idle | joinable | create | waitRunning | started | stop after | deleted => trivial
  | caller delta =>
    have hpoint : ∀ after : AfterStop, ∀ l rts, ServerThread.Stopping ⟨l, after.point, rts⟩ := by
      intro after l rts
      cases after <;> trivial
    cases caller with
    | idle | deleted | create | started => trivial
    | joinable =>
      simp only [ServerThread.step, ServerThread.advance]
      split_ifs <;> trivial
    | waitRunning =>
      simp only [ServerThread.step, ServerThread.advance]
      split_ifs <;> trivial
    | stop after =>
      refine request_ending (ht ?_)
      cases after with
      | done => exact .inl rfl
      | restart => exact .inr (.inl rfl)
      | delete => exact .inr (.inr rfl)
    | waitStopped after =>
      simp only [ServerThread.step, ServerThread.advance]
      split_ifs <;> exact h
    | stopped after =>
      simp only [ServerThread.step, ServerThread.advance]
      split_ifs
      · exact h
      · exact hpoint after _ _
    | join after =>
      simp only [ServerThread.step, ServerThread.advance]
      split_ifs
      · exact hpoint after _ _
      · exact h

/-- **No deadlock** in any run, with any time limit, in which `stop` is never called before the listener serves. -/
theorem webServer_no_deadlock (timeOut : ℕ) (es : List ServerEvent)
    (h : Meets (ServerThread.step timeOut) (fun s e => e.Timely s) ServerThread.new es) :
    ¬ (exec (ServerThread.step timeOut) ServerThread.new es).Deadlocked := by
  have hstopping := exec_inv (step_stopping timeOut) es _ (show ServerThread.new.Stopping from trivial) h
  rintro ⟨hjoin, hending⟩
  rw [ServerThread.Stopping] at hstopping
  rcases hjoin with hjoin | hjoin | hjoin <;> rw [hjoin] at hstopping <;> exact hending hstopping

/-- A server is started, and stopped when it runs. -/
theorem webServer_no_deadlock_started :
    ¬ (exec (ServerThread.step 100) ServerThread.new
      [.start, .caller 0, .caller 0, .listener false, .caller 0, .caller 0, .stop, .caller 0, .caller 20, .caller 100,
        .caller 0]).Deadlocked :=
  webServer_no_deadlock 100 _ (by decide)

/-- **A `stop` that comes too early** is followed by a deadlock, for every time limit. -/
theorem early_stop_deadlocks (timeOut : ℕ) {s : ServerThread} {after : AfterStop} (hstop : s.caller = .stop after)
    (hpreparing : s.listener = .preparing) :
    (exec (ServerThread.step timeOut) s [.caller 0, .caller 0, .caller 0]).Deadlocked := by
  obtain ⟨listener, caller, rts⟩ := s
  subst hstop hpreparing
  have hjoin : exec (ServerThread.step timeOut) ⟨.preparing, .stop after, rts⟩ [.caller 0, .caller 0, .caller 0] =
      ⟨.preparing, .join after, true⟩ := by
    simp only [exec_cons, exec_nil, ServerThread.step, ServerThread.advance, request_preparing]
    simp [ServerThread.isRunning, ServerThread.isJoinable]
  rw [hjoin]
  refine ⟨?_, fun hending => hending.1 rfl⟩
  cases after with
  | done => exact .inl rfl
  | restart => exact .inr (.inl rfl)
  | delete => exact .inr (.inr rfl)

/-- `Start` gives up at once, and `Stop` is called before the listener serves; it serves then, and is never asked to
end. -/
theorem not_webServer_no_deadlock :
    ¬ ∀ (timeOut : ℕ) (es : List ServerEvent), ¬ (exec (ServerThread.step timeOut) ServerThread.new es).Deadlocked := by
  intro h
  exact h 0 [.start, .caller 0, .caller 0, .caller 0, .caller 0, .stop, .caller 0, .caller 0,
    .caller 0, .listener false]
    (by decide)

end BofWebRpc.WebApp
