/-!
# Threads that end on request

A thread prepares, serves until it is asked to end, and ends. A request is effective only while the thread
serves: one that comes earlier is not remembered. Whoever then waits for the end of the thread waits
for ever.

## What is proved

* `request_ending` — a request ends the thread, unless it comes while the thread prepares.
* `Ending.advance` — a thread that is ending goes on ending.
-/

namespace Shutdown

/-- Where the thread is. -/
inductive Worker where
  /-- There is none, or it has been joined. -/
  | absent
  /-- It has been created, and does not serve yet. -/
  | preparing
  | serving
  /-- It serves no longer, and is about to end. -/
  | asked
  /-- It has ended, and has not been joined. -/
  | ended
  deriving DecidableEq

/-- The thread is asked to end. -/
def Worker.request : Worker → Worker
  | .serving => .asked
  | w => w

/-- One step of the thread; its preparation may fail. -/
def Worker.advance (fails : Bool) : Worker → Worker
  | .preparing => if fails then .ended else .serving
  | .asked => .ended
  | w => w

/-- The thread has ended, or will end by itself. -/
def Worker.Ending (w : Worker) : Prop := w ≠ .preparing ∧ w ≠ .serving

instance (w : Worker) : Decidable w.Ending := inferInstanceAs (Decidable (_ ∧ _))

/-- **A request ends the thread**, unless it comes too early. -/
theorem request_ending {w : Worker} (h : w ≠ .preparing) : w.request.Ending := by
  cases w with
  | preparing => exact absurd rfl h
  | absent | serving | asked | ended => exact ⟨by rintro ⟨⟩, by rintro ⟨⟩⟩

/-- A request that comes too early is lost. -/
theorem request_preparing : Worker.preparing.request = .preparing := rfl

theorem Worker.Ending.advance {w : Worker} (h : w.Ending) (fails : Bool) : (w.advance fails).Ending := by
  cases w with
  | preparing => exact absurd rfl h.1
  | serving => exact absurd rfl h.2
  | absent | asked | ended => exact ⟨by rintro ⟨⟩, by rintro ⟨⟩⟩

end Shutdown
