import Mathlib.Data.List.Basic
import Mathlib.Logic.Function.Basic

/-!
# Cells with one owner each

A program allocates cells, keeps their addresses, and frees them again. Nothing goes
wrong when every cell in use has one owner and is freed when its owner goes.

## The model

A `Heap` has the cells in use, by address, and remembers whether an access went
wrong: one to an address that is not in use. An address is never given out twice, so
that an address that is kept too long is not in use by accident.

`Owned h holds lost` says that nothing went wrong, that no two owners hold the same
cell, and that the cells in use are those held and the `lost` ones, which nobody will
free.

## What is proved

* `Owned.alloc`, `Owned.free`, `Owned.modify`, `Owned.access` — the operations of an
  owner on its cell keep `Owned`.
* `Owned.lose` — what an allocation without an owner does.
* `Owned.alloc_others`, `Owned.freeIf_others`, `Owned.modify_others` — the cells of the other owners stay as they are.
-/

namespace Ownership

universe u v

variable {α : Type u} {κ : Type v}

/-- Cells by address. -/
structure Heap (α : Type u) where
  /-- The cells in use. -/
  cells : ℕ → Option α
  /-- The next address. -/
  next : ℕ
  /-- An access went wrong. -/
  faulted : Bool

/-- No cell is in use. -/
def Heap.empty : Heap α := ⟨fun _ => none, 0, false⟩

/-- A new cell, at the next address. -/
def Heap.alloc (h : Heap α) (a : α) : Heap α :=
  { h with cells := Function.update h.cells h.next (some a), next := h.next + 1 }

/-- The cell at `p` is freed. -/
def Heap.free (h : Heap α) (p : ℕ) : Heap α :=
  { h with cells := Function.update h.cells p none, faulted := h.faulted || (h.cells p).isNone }

/-- `if (p) free(p)`. -/
def Heap.freeIf (h : Heap α) : Option ℕ → Heap α
  | none => h
  | some p => h.free p

/-- The cell at `p` is changed. -/
def Heap.modify (h : Heap α) (p : ℕ) (f : α → α) : Heap α :=
  { h with cells := Function.update h.cells p ((h.cells p).map f), faulted := h.faulted || (h.cells p).isNone }

/-- An access through the pointer `p` to a cell that has to be `fit` for it. -/
def Heap.access (h : Heap α) (p : Option ℕ) (fit : α → Bool) : Heap α :=
  { h with faulted := h.faulted || !((p.bind h.cells).any fit) }

section Cells

variable (h : Heap α) {p q : ℕ}

@[simp] theorem alloc_cells_self (a : α) : (h.alloc a).cells h.next = some a := Function.update_self ..

theorem alloc_cells_ne (hne : q ≠ h.next) (a : α) : (h.alloc a).cells q = h.cells q := Function.update_of_ne hne ..

@[simp] theorem free_cells_self : (h.free p).cells p = none := Function.update_self ..

theorem free_cells_ne (hne : q ≠ p) : (h.free p).cells q = h.cells q := Function.update_of_ne hne ..

@[simp] theorem modify_cells_self (f : α → α) : (h.modify p f).cells p = (h.cells p).map f := Function.update_self ..

theorem modify_cells_ne (hne : q ≠ p) (f : α → α) : (h.modify p f).cells q = h.cells q :=
  Function.update_of_ne hne ..

@[simp] theorem access_cells (r : Option ℕ) (fit : α → Bool) : (h.access r fit).cells = h.cells := rfl

end Cells

/-- The owners `k` hold the cells `holds k`, each its own; the others in use are `lost`. -/
structure Owned (h : Heap α) (holds : κ → Option ℕ) (lost : List ℕ) : Prop where
  /-- No access went wrong. -/
  sound : h.faulted = false
  /-- The next address is new. -/
  fresh : ∀ p, h.next ≤ p → h.cells p = none
  /-- A cell has one owner. -/
  unique : ∀ {k k' p}, holds k = some p → holds k' = some p → k = k'
  /-- The cells in use. -/
  live_iff : ∀ p, (h.cells p).isSome = true ↔ (∃ k, holds k = some p) ∨ p ∈ lost
  /-- What is lost has no owner. -/
  ownerless : ∀ {k p}, holds k = some p → p ∉ lost

section Owned

variable {h : Heap α} {holds : κ → Option ℕ} {lost : List ℕ} {k : κ} {p : ℕ}

/-- What is held is in use. -/
theorem Owned.live (ho : Owned h holds lost) (hk : holds k = some p) : ∃ a, h.cells p = some a :=
  Option.isSome_iff_exists.mp ((ho.live_iff p).mpr (.inl ⟨k, hk⟩))

/-- What is in use is not at the next address. -/
theorem Owned.ne_next (ho : Owned h holds lost) {a : α} (hp : h.cells p = some a) : p ≠ h.next := by
  rintro rfl
  rw [ho.fresh h.next (Nat.le_refl _)] at hp
  cases hp

theorem Owned.holds_ne_next (ho : Owned h holds lost) (hk : holds k = some p) : p ≠ h.next := by
  obtain ⟨a, ha⟩ := ho.live hk
  exact ho.ne_next ha

theorem Owned.lost_ne_next (ho : Owned h holds lost) (hp : p ∈ lost) : p ≠ h.next := by
  obtain ⟨a, ha⟩ := Option.isSome_iff_exists.mp ((ho.live_iff p).mpr (.inr hp))
  exact ho.ne_next ha

/-- The cells of two owners. -/
theorem Owned.ne_of_ne (ho : Owned h holds lost) {k' : κ} {q : ℕ} (hk : holds k = some p) (hk' : holds k' = some q)
    (hne : k' ≠ k) : q ≠ p := by
  rintro rfl
  exact hne (ho.unique hk' hk)

/-- The owners other than `k` find their cells as they were. -/
def Others (h h' : Heap α) (holds : κ → Option ℕ) (k : κ) : Prop :=
  ∀ k' p, k' ≠ k → holds k' = some p → h'.cells p = h.cells p

theorem Owned.alloc_others (ho : Owned h holds lost) (k : κ) (a : α) : Others h (h.alloc a) holds k :=
  fun _ _ _ hk' => alloc_cells_ne h (ho.holds_ne_next hk') a

theorem Owned.modify_others (ho : Owned h holds lost) (hk : holds k = some p) (f : α → α) :
    Others h (h.modify p f) holds k :=
  fun _ _ hne hk' => modify_cells_ne h (ho.ne_of_ne hk hk' hne) f

theorem Owned.freeIf_others (ho : Owned h holds lost) (k : κ) : Others h (h.freeIf (holds k)) holds k := by
  intro k' q hne hk'
  cases hk : holds k with
  | none => rfl
  | some p => exact free_cells_ne h (ho.ne_of_ne hk hk' hne)

/-- A new cell is in use, with those that were. -/
theorem Owned.alloc_live_iff (ho : Owned h holds lost) (a : α) (q : ℕ) :
    ((h.alloc a).cells q).isSome = true ↔ q = h.next ∨ (∃ k, holds k = some q) ∨ q ∈ lost := by
  by_cases hq : q = h.next
  · subst hq
    rw [alloc_cells_self]
    exact iff_of_true rfl (.inl rfl)
  · rw [alloc_cells_ne h hq, ho.live_iff q]
    exact (or_iff_right hq).symm

theorem Owned.alloc_fresh (ho : Owned h holds lost) (a : α) (q : ℕ) (hq : (h.alloc a).next ≤ q) :
    (h.alloc a).cells q = none := by
  have hlt : h.next < q := hq
  rw [alloc_cells_ne h (Nat.ne_of_gt hlt)]
  exact ho.fresh q (Nat.le_of_lt hlt)

/-- **Allocation without an owner.** -/
theorem Owned.lose (ho : Owned h holds lost) (a : α) : Owned (h.alloc a) holds (lost ++ [h.next]) where
  sound := ho.sound
  fresh := ho.alloc_fresh a
  unique := ho.unique
  live_iff := by
    intro q
    rw [ho.alloc_live_iff a q, List.mem_append, List.mem_singleton]
    tauto
  ownerless := by
    intro k q hk hq
    rcases List.mem_append.mp hq with hlost | hnext
    · exact ho.ownerless hk hlost
    · exact ho.holds_ne_next hk (List.mem_singleton.mp hnext)

variable [DecidableEq κ]

/-- **Allocation.** -/
theorem Owned.alloc (ho : Owned h holds lost) (hk : holds k = none) (a : α) :
    Owned (h.alloc a) (Function.update holds k (some h.next)) lost where
  sound := ho.sound
  fresh := ho.alloc_fresh a
  unique := by
    intro i j q hi hj
    rw [Function.update_apply] at hi hj
    split_ifs at hi hj with hik hjk hjk
    · rw [hik, hjk]
    · cases hi
      exact absurd rfl (ho.holds_ne_next hj)
    · cases hj
      exact absurd rfl (ho.holds_ne_next hi)
    · exact ho.unique hi hj
  live_iff := by
    intro q
    rw [ho.alloc_live_iff a q]
    constructor
    · rintro (rfl | ⟨i, hi⟩ | hq)
      · exact .inl ⟨k, Function.update_self ..⟩
      · have hne : i ≠ k := by
          rintro rfl
          cases hk.symm.trans hi
        exact .inl ⟨i, (Function.update_of_ne hne ..).trans hi⟩
      · exact .inr hq
    · rintro (⟨i, hi⟩ | hq)
      · rw [Function.update_apply] at hi
        split_ifs at hi
        · exact .inl (Option.some.inj hi).symm
        · exact .inr (.inl ⟨i, hi⟩)
      · exact .inr (.inr hq)
  ownerless := by
    intro i q hi hq
    rw [Function.update_apply] at hi
    split_ifs at hi
    · cases hi
      exact ho.lost_ne_next hq rfl
    · exact ho.ownerless hi hq

/-- **Freeing** the cell of an owner, who has none then. -/
theorem Owned.free (ho : Owned h holds lost) (hk : holds k = some p) :
    Owned (h.free p) (Function.update holds k none) lost where
  sound := by
    obtain ⟨a, ha⟩ := ho.live hk
    show (h.faulted || (h.cells p).isNone) = false
    rw [ho.sound, ha]
    rfl
  fresh := by
    intro q hq
    by_cases hqp : q = p
    · rw [hqp, free_cells_self]
    · rw [free_cells_ne h hqp]
      exact ho.fresh q hq
  unique := by
    intro i j q hi hj
    rw [Function.update_apply] at hi hj
    split_ifs at hi hj
    exact ho.unique hi hj
  live_iff := by
    intro q
    by_cases hqp : q = p
    · subst hqp
      rw [free_cells_self]
      apply iff_of_false Bool.false_ne_true
      rintro (⟨i, hi⟩ | hq)
      · rw [Function.update_apply] at hi
        split_ifs at hi with hik
        exact hik (ho.unique hi hk)
      · exact ho.ownerless hk hq
    · rw [free_cells_ne h hqp, ho.live_iff q]
      apply or_congr_left
      constructor
      · rintro ⟨i, hi⟩
        have hne : i ≠ k := by
          rintro rfl
          exact hqp (Option.some.inj (hi.symm.trans hk))
        exact ⟨i, (Function.update_of_ne hne ..).trans hi⟩
      · rintro ⟨i, hi⟩
        rw [Function.update_apply] at hi
        split_ifs at hi
        exact ⟨i, hi⟩
  ownerless := by
    intro i q hi
    rw [Function.update_apply] at hi
    split_ifs at hi
    exact ho.ownerless hi

/-- `if (p) free(p)` of what an owner holds, if anything. -/
theorem Owned.freeIf (ho : Owned h holds lost) (k : κ) :
    Owned (h.freeIf (holds k)) (Function.update holds k none) lost := by
  cases hk : holds k with
  | none =>
    rw [Function.update_eq_self_iff.mpr hk.symm]
    exact ho
  | some p => exact ho.free hk

omit [DecidableEq κ]

/-- **Changing** the cell of an owner. -/
theorem Owned.modify (ho : Owned h holds lost) (hk : holds k = some p) (f : α → α) :
    Owned (h.modify p f) holds lost where
  sound := by
    obtain ⟨a, ha⟩ := ho.live hk
    show (h.faulted || (h.cells p).isNone) = false
    rw [ho.sound, ha]
    rfl
  fresh := by
    intro q hq
    have hne : q ≠ p := by
      rintro rfl
      obtain ⟨a, ha⟩ := ho.live hk
      cases (ho.fresh q hq).symm.trans ha
    rw [modify_cells_ne h hne]
    exact ho.fresh q hq
  unique := ho.unique
  live_iff := by
    intro q
    by_cases hqp : q = p
    · rw [hqp, modify_cells_self, Option.isSome_map, ho.live_iff p]
    · rw [modify_cells_ne h hqp, ho.live_iff q]
  ownerless := ho.ownerless

/-- **Access** to the cell of an owner, which is fit for it. -/
theorem Owned.access (ho : Owned h holds lost) {a : α} (hp : h.cells p = some a) {fit : α → Bool}
    (hfit : fit a = true) :
    Owned (h.access (some p) fit) holds lost where
  sound := by
    show (h.faulted || !((h.cells p).any fit)) = false
    rw [ho.sound, hp, Option.any_some, hfit]
    rfl
  fresh := ho.fresh
  unique := ho.unique
  live_iff := ho.live_iff
  ownerless := ho.ownerless

end Owned

end Ownership
