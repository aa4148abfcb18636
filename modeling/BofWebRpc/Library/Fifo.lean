import Mathlib.Data.List.Basic

/-!
# Bounded queues

A first-in first-out queue of at most `n` elements; the bound is part of the value.
A push on a full queue fails, and a pop of an empty one.

## What is proved

* `push_eq_some_iff`, `push_eq_none_iff`, `pop_eq_some_iff` — the operations in terms of the list of elements.
-/

universe u

/-- A queue of at most `n` elements, the oldest first. -/
@[ext]
structure Fifo (α : Type u) (n : ℕ) where
  /-- The elements, the oldest first. -/
  elements : List α
  /-- There are no more than `n`. -/
  bounded : elements.length ≤ n

namespace Fifo

variable {α : Type u} {n : ℕ}

/-- The empty queue. -/
def empty : Fifo α n := ⟨[], Nat.zero_le n⟩

/-- A new youngest element, if there is room. -/
def push (q : Fifo α n) (a : α) : Option (Fifo α n) :=
  if h : q.elements.length < n then
    some ⟨q.elements ++ [a], by rw [List.length_append]; exact h⟩
  else none

/-- The oldest element, which stays. -/
def peek (q : Fifo α n) : Option α := q.elements.head?

/-- The queue without its oldest element. -/
def skip (q : Fifo α n) : Fifo α n :=
  ⟨q.elements.tail, by rw [List.length_tail]; exact Nat.le_trans (Nat.sub_le _ _) q.bounded⟩

@[simp] theorem skip_elements (q : Fifo α n) : q.skip.elements = q.elements.tail := rfl

/-- The oldest element and the queue without it. -/
def pop (q : Fifo α n) : Option (α × Fifo α n) := q.peek.map fun a => (a, q.skip)

theorem push_eq_some_iff {q q' : Fifo α n} {a : α} :
    q.push a = some q' ↔ q.elements.length < n ∧ q'.elements = q.elements ++ [a] := by
  unfold push
  split
  · next h =>
    rw [Option.some.injEq, Fifo.ext_iff]
    exact ⟨fun he => ⟨h, he.symm⟩, fun he => he.2.symm⟩
  · next h => exact ⟨by rintro ⟨⟩, fun he => absurd he.1 h⟩

theorem push_eq_none_iff {q : Fifo α n} {a : α} : q.push a = none ↔ n ≤ q.elements.length := by
  unfold push
  split
  · next h => exact ⟨by rintro ⟨⟩, fun he => absurd he (Nat.not_le.mpr h)⟩
  · next h => exact ⟨fun _ => Nat.not_lt.mp h, fun _ => rfl⟩

theorem peek_eq_some_iff {q : Fifo α n} {a : α} : q.peek = some a ↔ q.elements = a :: q.skip.elements := by
  unfold peek
  rw [skip_elements]
  cases q.elements with
  | nil => simp
  | cons b l => simp

theorem peek_eq_none_iff {q : Fifo α n} : q.peek = none ↔ q.elements = [] := List.head?_eq_none_iff

theorem pop_eq_some_iff {q q' : Fifo α n} {a : α} : q.pop = some (a, q') ↔ q.elements = a :: q'.elements := by
  unfold pop
  rw [Option.map_eq_some_iff]
  constructor
  · rintro ⟨b, hb, he⟩
    cases he
    exact peek_eq_some_iff.mp hb
  · intro h
    have hq : q.skip = q' := Fifo.ext (by rw [skip_elements, h, List.tail_cons])
    exact ⟨a, peek_eq_some_iff.mpr (by rw [hq]; exact h), by rw [hq]⟩

end Fifo
