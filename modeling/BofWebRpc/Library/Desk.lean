import Mathlib.Data.List.Perm.Basic
import Mathlib.Logic.Relation

/-!
# A desk

Jobs are accepted into a queue and taken from it one at a time. The one in hand is finished, or, if it is of
a kind that can wait, put aside; what has been put aside is finished later, the oldest first.

## The model

`Desk` says where each accepted job is. A `Step` moves one job; the predicate `D` picks the jobs that may be
put aside.

## What is proved

* `Sound.reaches` — from an empty desk, each accepted job is in one place, the jobs that may not be put aside
  are finished in the order in which they were accepted, and so wait those that are not finished.
-/

universe u

/-- Where the jobs are. -/
@[ext] structure Desk (α : Type u) where
  /-- All that have been accepted. -/
  accepted : List α
  /-- Those that have not been taken. -/
  queue : List α
  /-- The one that is being done. -/
  hand : Option α
  /-- Those that have been put aside. -/
  aside : List α
  /-- Those that are finished. -/
  done : List α

namespace Desk

variable {α : Type u} {D : α → Prop}

/-- Nothing has been accepted. -/
def empty : Desk α := { accepted := [], queue := [], hand := none, aside := [], done := [] }

/-- One move of one job. -/
inductive Step (D : α → Prop) : Desk α → Desk α → Prop
  | accept (d : Desk α) (a : α) : Step D d { d with accepted := d.accepted ++ [a], queue := d.queue ++ [a] }
  | take {d : Desk α} {a : α} {queue : List α} (queued : d.queue = a :: queue) (free : d.hand = none) :
      Step D d { d with queue := queue, hand := some a }
  | finish {d : Desk α} {a : α} (held : d.hand = some a) : Step D d { d with hand := none, done := d.done ++ [a] }
  | putAside {d : Desk α} {a : α} (held : d.hand = some a) (late : D a) :
      Step D d { d with hand := none, aside := d.aside ++ [a] }
  | release {d : Desk α} {a : α} {aside : List α} (waiting : d.aside = a :: aside) :
      Step D d { d with aside := aside, done := d.done ++ [a] }

/-- Any number of moves. -/
abbrev Reaches (D : α → Prop) : Desk α → Desk α → Prop := Relation.ReflTransGen (Step D)

/-- Jobs are accepted one after the other. -/
theorem reaches_accept (d : Desk α) (jobs : List α) :
    Reaches D d { d with accepted := d.accepted ++ jobs, queue := d.queue ++ jobs } := by
  induction jobs generalizing d with
  | nil =>
    rw [List.append_nil, List.append_nil]
  | cons a jobs ih =>
    have hrest := ih { d with accepted := d.accepted ++ [a], queue := d.queue ++ [a] }
    rw [List.append_assoc, List.append_assoc] at hrest
    exact .head (.accept d a) hrest

/-- The number of jobs. -/
def size (d : Desk α) : ℕ := d.done.length + d.aside.length + d.hand.toList.length + d.queue.length

/-- No job is lost or done twice, and they keep their order as far as they can. -/
structure Sound (D : α → Prop) [DecidablePred D] (d : Desk α) : Prop where
  /-- Each job is in one place. -/
  conserved : (d.done ++ d.aside ++ d.hand.toList ++ d.queue).Perm d.accepted
  /-- Those that may not be put aside are finished in order. -/
  ordered : (d.done ++ d.hand.toList ++ d.queue).filter (¬ D ·) = d.accepted.filter (¬ D ·)
  /-- Those that are not finished wait in order. -/
  waiting : (d.aside ++ d.hand.toList ++ d.queue).Sublist d.accepted
  /-- Only jobs of the kind that can wait are put aside. -/
  late : ∀ a ∈ d.aside, D a

variable [DecidablePred D]

theorem Sound.size_eq {d : Desk α} (h : Sound D d) : d.size = d.accepted.length := by
  have hlength := h.conserved.length_eq
  simp only [List.length_append] at hlength
  exact hlength

theorem sound_empty : Sound D (empty : Desk α) :=
  ⟨.refl _, rfl, .refl _, fun _ ha => absurd ha List.not_mem_nil⟩

/-- **One move.** -/
theorem Sound.step {d d' : Desk α} (h : Sound D d) (hs : Step D d d') : Sound D d' := by
  obtain ⟨hconserved, hordered, hwaiting, hlate⟩ := h
  cases hs with
  | accept a =>
    refine ⟨?_, ?_, ?_, hlate⟩
    · rw [← List.append_assoc]
      exact hconserved.append_right [a]
    · rw [← List.append_assoc, List.filter_append, hordered, List.filter_append]
    · rw [← List.append_assoc]
      exact hwaiting.append (.refl [a])
  | take queued free =>
    rw [queued, free] at hconserved hordered hwaiting
    simp only [Option.toList_none, List.append_nil] at hconserved hordered hwaiting
    refine ⟨?_, ?_, ?_, hlate⟩ <;> simp only [Option.toList_some, List.append_assoc, List.singleton_append]
    · rw [← List.append_assoc]
      exact hconserved
    · exact hordered
    · exact hwaiting
  | @finish a held =>
    rw [held] at hconserved hordered hwaiting
    simp only [Option.toList_some] at hconserved hordered hwaiting
    refine ⟨?_, ?_, ?_, hlate⟩ <;> simp only [Option.toList_none, List.append_nil]
    · refine .trans (.append_right d.queue ?_) hconserved
      rw [List.append_assoc, List.append_assoc]
      exact .append_left d.done List.perm_append_comm
    · exact hordered
    · refine .trans (.append ?_ (.refl d.queue)) hwaiting
      exact List.sublist_append_left d.aside [a]
  | @putAside a held late =>
    rw [held] at hconserved hordered hwaiting
    simp only [Option.toList_some] at hconserved hordered hwaiting
    refine ⟨?_, ?_, ?_, ?_⟩ <;> simp only [Option.toList_none, List.append_nil]
    · rw [← List.append_assoc]
      exact hconserved
    · rw [← hordered]
      simp [late]
    · exact hwaiting
    · intro b hb
      exact (List.mem_append.mp hb).elim (hlate b) fun hb => List.mem_singleton.mp hb ▸ late
  | @release a aside waiting =>
    rw [waiting] at hconserved hwaiting hlate
    refine ⟨?_, ?_, ?_, fun b hb => hlate b (List.mem_cons_of_mem a hb)⟩
    · rw [List.append_assoc d.done]
      exact hconserved
    · have ha : D a := hlate a List.mem_cons_self
      rw [← hordered]
      simp [ha]
    · exact (List.sublist_cons_self a _).trans hwaiting

/-- **Any number of moves.** -/
theorem Sound.reaches {d d' : Desk α} (h : Sound D d) (hs : Reaches D d d') : Sound D d' := by
  induction hs with
  | refl => exact h
  | tail _ hstep ih => exact ih.step hstep

end Desk
