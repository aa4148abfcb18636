import BofWebRpc.Library.Runs
import BofWebRpc.Library.Shutdown

/-!
# Running and stopping a gRPC server

`Run` launches a thread that builds the server, assigns it to `mpuServer` and blocks in `Wait`;
`Stop` calls `Shutdown` if `mpuServer` is set, and destroys the thread, which waits for its end.

## The model

`GrpcServer` is the place where the calling thread is, in `Stop` or the destructor, and the place
where the thread of `V_OnProcessing` is: it prepares up to the assignment and serves from there, and
`Shutdown` is a request in the sense of `Shutdown`. After the end of a thread `mpuServer` still holds its
server, so that a `Shutdown` that comes while the next one is built goes to the server before. `Run` launches no second
thread as long as there is one. The assertion is compiled out, and `ASYNC` is not defined.

## What is proved

* `grpcServer_no_deadlock` — `Stop` never waits for a thread whose server has not been shut down, in every run in which
  it tests `mpuServer` and calls `Shutdown` at no time when a server is being built.
* `early_test_deadlocks` — a `Stop` that finds `mpuServer` null while the server is being built, is followed by such a
  wait if the server can be built.
-/

namespace BofWebRpc.Grpc

open Runs Shutdown

/-! ### The threads -/

/-- Where the calling thread is; in the destructor nothing is called after `Stop`. -/
inductive CallerPoint where
  /-- In no call. -/
  | idle
  /-- In `Stop`, before `if (mpuServer)`. -/
  | test (destructor : Bool)
  /-- In `Stop`, before `mpuServer->Shutdown()`. -/
  | shutdown (destructor : Bool)
  /-- In `DestroyBofProcessingThread`. -/
  | destroy (destructor : Bool)
  /-- The object is gone. -/
  | gone
  deriving DecidableEq

/-- The calling thread and the processing thread. -/
structure GrpcServer where
  /-- The thread of `V_OnProcessing`. -/
  processing : Worker
  /-- `mpuServer` is not null. -/
  server : Bool
  caller : CallerPoint
  deriving DecidableEq

/-- A server that has not been run. -/
def GrpcServer.new : GrpcServer := { processing := .absent, server := false, caller := .idle }

/-- One step of the calling thread. -/
def GrpcServer.advance (s : GrpcServer) : GrpcServer :=
  match s.caller with
  | .idle | .gone => s
  | .test destructor => { s with caller := if s.server then .shutdown destructor else .destroy destructor }
  | .shutdown destructor => { s with processing := s.processing.request, caller := .destroy destructor }
  | .destroy destructor =>
    if s.processing = .ended ∨ s.processing = .absent then
      { s with processing := .absent, caller := if destructor then .gone else .idle }
    else s

/-- One step of the processing thread; `BuildAndStart` may return null, which is assigned as well. -/
def GrpcServer.process (s : GrpcServer) (fails : Bool) : GrpcServer :=
  { s with
    processing := s.processing.advance fails
    server := if s.processing = .preparing then !fails else s.server }

/-- What can happen next. -/
inductive GrpcEvent where
  /-- `Run` is called. -/
  | run
  /-- `Stop` is called. -/
  | stop
  /-- The destructor is called. -/
  | delete
  /-- The calling thread takes a step. -/
  | caller
  /-- The processing thread takes a step. -/
  | processing (fails : Bool)
  deriving DecidableEq

/-- One event; a call is made when no other one is in progress. -/
def GrpcServer.step (s : GrpcServer) : GrpcEvent → GrpcServer
  | .run => if s.caller = .idle ∧ s.processing = .absent then { s with processing := .preparing } else s
  | .stop => if s.caller = .idle then { s with caller := .test false } else s
  | .delete => if s.caller = .idle then { s with caller := .test true } else s
  | .caller => s.advance
  | .processing fails => s.process fails

/-! ### Deadlocks -/

/-- `Stop` waits for the thread, and that builds its server or waits for a `Shutdown` of it; the only thread that
could call `Shutdown` is the one that waits. -/
def GrpcServer.Deadlocked (s : GrpcServer) : Prop :=
  (s.caller = .destroy false ∨ s.caller = .destroy true) ∧ ¬ s.processing.Ending

instance (s : GrpcServer) : Decidable s.Deadlocked := inferInstanceAs (Decidable (_ ∧ _))

/-- While a server is being built, `Stop` neither finds `mpuServer` null nor calls `Shutdown`, which would go to the
server before. -/
def GrpcEvent.Timely (s : GrpcServer) : GrpcEvent → Prop
  | .caller =>
    match s.caller with
    | .test _ => s.server = false → s.processing ≠ .preparing
    | .shutdown _ => s.processing ≠ .preparing
    | .idle | .destroy _ | .gone => True
  | _ => True

instance (s : GrpcServer) (e : GrpcEvent) : Decidable (e.Timely s) := by
  unfold GrpcEvent.Timely
  cases e <;> cases s.caller <;> exact inferInstance

/-- A thread that serves has assigned its server, and a thread that is destroyed is about to end. -/
structure GrpcServer.Stopping (s : GrpcServer) : Prop where
  assigned : s.processing = .serving → s.server = true
  destroyed : ∀ destructor, s.caller = .destroy destructor → s.processing.Ending

theorem step_stopping (s : GrpcServer) (e : GrpcEvent) (h : s.Stopping) (ht : e.Timely s) : (s.step e).Stopping := by
  obtain ⟨processing, server, caller⟩ := s
  obtain ⟨hassigned, hdestroyed⟩ := h
  cases e with
  | run =>
    simp only [GrpcServer.step]
    split_ifs with hidle
    · exact ⟨by rintro ⟨⟩, fun _ hd => by rw [hidle.1] at hd; cases hd⟩
    · exact ⟨hassigned, hdestroyed⟩
  | stop | delete =>
    simp only [GrpcServer.step]
    split_ifs
    · exact ⟨hassigned, by rintro _ ⟨⟩⟩
    · exact ⟨hassigned, hdestroyed⟩
  | processing fails =>
    refine ⟨fun hserving => ?_, fun destructor hd => (hdestroyed destructor hd).advance fails⟩
    simp only [GrpcServer.step, GrpcServer.process] at hserving ⊢
    cases processing with
    | preparing =>
      cases fails with
      | false => rfl
      | true => cases hserving
    | serving => exact hassigned rfl
    | absent | asked | ended => cases hserving
  | caller =>
    cases caller with
    | idle | gone => exact ⟨hassigned, hdestroyed⟩
    | test destructor =>
      simp only [GrpcServer.step, GrpcServer.advance]
      cases server with
      | true => exact ⟨hassigned, by rintro _ ⟨⟩⟩
      | false =>
        -- without a server no thread serves, and none is being built
        refine ⟨hassigned, fun _ _ => ⟨ht rfl, fun hserving => ?_⟩⟩
        cases hassigned hserving
    | shutdown destructor =>
      refine ⟨fun hserving => ?_, fun _ _ => request_ending ht⟩
      exact absurd hserving (request_ending ht).2
    | destroy destructor =>
      simp only [GrpcServer.step, GrpcServer.advance]
      split_ifs
      · refine ⟨by rintro ⟨⟩, fun d hd => ?_⟩
        cases destructor <;> cases hd
      · exact ⟨by rintro ⟨⟩, by rintro _ ⟨⟩⟩
      · exact ⟨hassigned, hdestroyed⟩

/-- **No deadlock** in any run in which `Stop` does its test and its `Shutdown` at no time when a server is being
built. -/
theorem grpcServer_no_deadlock (es : List GrpcEvent)
    (h : Meets GrpcServer.step (fun s e => e.Timely s) GrpcServer.new es) :
    ¬ (exec GrpcServer.step GrpcServer.new es).Deadlocked := by
  have hstopping := exec_inv step_stopping es _ ⟨by rintro ⟨⟩, by rintro _ ⟨⟩⟩ h
  rintro ⟨hdestroy, hending⟩
  rcases hdestroy with hdestroy | hdestroy <;> exact hending (hstopping.destroyed _ hdestroy)

/-- A server is run, and deleted when it waits. -/
theorem grpcServer_no_deadlock_run :
    ¬ (exec GrpcServer.step GrpcServer.new [.run, .processing false, .delete, .caller, .caller]).Deadlocked :=
  grpcServer_no_deadlock _ (by decide)

/-- **A `Stop` that comes too early** is followed by a deadlock if the server is built. -/
theorem early_test_deadlocks {s : GrpcServer} {destructor : Bool} (htest : s.caller = .test destructor)
    (hserver : s.server = false) (hpreparing : s.processing = .preparing) :
    (exec GrpcServer.step s [.caller, .processing false]).Deadlocked := by
  obtain ⟨processing, server, caller⟩ := s
  subst htest hserver hpreparing
  refine ⟨?_, fun hending => hending.2 rfl⟩
  cases destructor with
  | false => exact .inl rfl
  | true => exact .inr rfl

/-- `Stop` finds `mpuServer` null, and the server is assigned then: the thread waits for a `Shutdown` that never
comes. -/
theorem not_grpcServer_no_deadlock :
    ¬ ∀ es : List GrpcEvent, ¬ (exec GrpcServer.step GrpcServer.new es).Deadlocked := by
  intro h
  exact h [.run, .stop, .caller, .processing false] (by decide)

end BofWebRpc.Grpc
