import Mathlib.Data.List.Basic
import Mathlib.Data.List.Nodup

/-!
# Tables with two keys

A table is a list of rows in which two columns each tell the rows apart. Rows are
added at the end, and removed by the value of the second column.

## What is proved

* `Table.append`, `Table.eraseP` — adding a row that is new in both columns and removing a
  row keep a table.
* `Table.mem_eraseP_iff` — removing by the second column removes exactly the row with that
  value.
-/

universe u v w

variable {α : Type u} {κ : Type v} {ι : Type w}

/-- The rows `l` differ in the columns `f` and `g`. -/
structure Table (f : α → κ) (g : α → ι) (l : List α) : Prop where
  /-- No two rows agree in the first column. -/
  first : (l.map f).Nodup
  /-- No two rows agree in the second column. -/
  second : (l.map g).Nodup

namespace Table

variable {f : α → κ} {g : α → ι} {l : List α}

theorem nil : Table f g [] := ⟨List.nodup_nil, List.nodup_nil⟩

theorem nodup_map_append {β : Type w} {h : α → β} {a : α} (hl : (l.map h).Nodup) (ha : ∀ b ∈ l, h b ≠ h a) :
    ((l ++ [a]).map h).Nodup := by
  rw [List.map_append, List.map_singleton, List.nodup_append]
  refine ⟨hl, List.nodup_singleton _, ?_⟩
  intro x hx y hy
  obtain ⟨b, hb, rfl⟩ := List.mem_map.mp hx
  rw [List.mem_singleton.mp hy]
  exact ha b hb

/-- A row that is new in both columns. -/
theorem append {κ : Type w} {f : α → κ} (h : Table f g l) {a : α} (hf : ∀ b ∈ l, f b ≠ f a) (hg : ∀ b ∈ l, g b ≠ g a) :
    Table f g (l ++ [a]) := ⟨nodup_map_append h.first hf, nodup_map_append h.second hg⟩

section Erase

variable [DecidableEq ι]

/-- Removing a row. -/
theorem eraseP (h : Table f g l) (x : ι) : Table f g (l.eraseP fun a => g a = x) :=
  ⟨h.first.sublist (List.eraseP_sublist.map f), h.second.sublist (List.eraseP_sublist.map g)⟩

/-- Removing the row with the value `x` leaves the rows with other values. -/
theorem mem_eraseP_iff (h : Table f g l) {x : ι} {a : α} : (a ∈ l.eraseP fun a => g a = x) ↔ a ∈ l ∧ g a ≠ x := by
  have hsecond := h.second
  clear h
  induction l with
  | nil => simp
  | cons b l ih =>
    rw [List.map_cons, List.nodup_cons] at hsecond
    by_cases hb : g b = x
    · rw [List.eraseP_cons_of_pos (by simpa using hb)]
      constructor
      · intro ha
        refine ⟨List.mem_cons_of_mem b ha, fun hx => hsecond.1 ?_⟩
        rw [hb, ← hx]
        exact List.mem_map_of_mem ha
      · rintro ⟨ha, hx⟩
        rcases List.mem_cons.mp ha with rfl | ha
        · exact absurd hb hx
        · exact ha
    · have hrest := ih hsecond.2
      rw [List.eraseP_cons_of_neg (by simpa using hb)]
      constructor
      · intro ha
        rcases List.mem_cons.mp ha with rfl | ha
        · exact ⟨List.mem_cons_self, hb⟩
        · exact ⟨List.mem_cons_of_mem b (hrest.mp ha).1, (hrest.mp ha).2⟩
      · rintro ⟨ha, hx⟩
        rcases List.mem_cons.mp ha with rfl | ha
        · exact List.mem_cons_self
        · exact List.mem_cons_of_mem b (hrest.mpr ⟨ha, hx⟩)

end Erase

end Table
