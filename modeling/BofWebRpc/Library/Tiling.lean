import Mathlib.Data.List.Basic
import Mathlib.Tactic.NormNum

/-!
# Tilings of an interval by blocks

A transfer in pieces moves blocks, each the items of a closed interval
`first..last`. `Tiles a n bs` says that the blocks `bs`, in order, cover the
positions `a, …, n - 1` without a gap and without an overlap, each carrying exactly
as many items as its interval has positions.

## What is proved

* `tiles_append` — a tiling is split and joined at any block.
* `Tiles.length_contents` — the items of a tiling are as many as its positions.
* `flatten_range_blocks` — cutting a list into consecutive blocks of
  one size, the last perhaps shorter, loses nothing.
-/

namespace Tiling

universe u

variable {β : Type u}

/-- The items of the interval `first..last`, both ends included. -/
@[ext]
structure Block (β : Type u) where
  /-- The first position. -/
  first : ℕ
  /-- The last position. -/
  last : ℕ
  /-- The items. -/
  items : List β
  deriving DecidableEq

/-- The items of the blocks, in order. -/
def contents (bs : List (Block β)) : List β := (bs.map Block.items).flatten

@[simp] theorem contents_nil : contents ([] : List (Block β)) = [] := rfl

@[simp] theorem contents_cons (b : Block β) (bs : List (Block β)) :
    contents (b :: bs) = b.items ++ contents bs := rfl

@[simp] theorem contents_append (bs cs : List (Block β)) :
    contents (bs ++ cs) = contents bs ++ contents cs := by simp [contents]

/-- The blocks cover `a, …, n - 1` consecutively. -/
def Tiles : ℕ → ℕ → List (Block β) → Prop
  | a, n, [] => a = n
  | a, n, b :: bs => b.first = a ∧ a ≤ b.last ∧ b.items.length = b.last + 1 - a ∧ Tiles (b.last + 1) n bs

theorem tiles_append (bs cs : List (Block β)) (a n : ℕ) :
    Tiles a n (bs ++ cs) ↔ ∃ m, Tiles a m bs ∧ Tiles m n cs := by
  induction bs generalizing a with
  | nil => simp [Tiles]
  | cons b bs ih =>
    simp only [List.cons_append, Tiles, ih]
    constructor
    · rintro ⟨h₁, h₂, h₃, m, hb, hc⟩
      exact ⟨m, ⟨h₁, h₂, h₃, hb⟩, hc⟩
    · rintro ⟨m, ⟨h₁, h₂, h₃, hb⟩, hc⟩
      exact ⟨h₁, h₂, h₃, m, hb, hc⟩

/-- One more block at the end. -/
theorem tiles_concat (bs : List (Block β)) (b : Block β) (a n : ℕ) :
    Tiles a n (bs ++ [b]) ↔
      Tiles a b.first bs ∧ b.first ≤ b.last ∧ b.items.length = b.last + 1 - b.first ∧ b.last + 1 = n := by
  rw [tiles_append]
  constructor
  · rintro ⟨m, hb, rfl, h₂, h₃, h₄⟩
    exact ⟨hb, h₂, h₃, h₄⟩
  · rintro ⟨hb, h₂, h₃, h₄⟩
    exact ⟨b.first, hb, rfl, h₂, h₃, h₄⟩

theorem Tiles.le {bs : List (Block β)} {a n : ℕ} (h : Tiles a n bs) : a ≤ n := by
  induction bs generalizing a with
  | nil => exact le_of_eq h
  | cons b bs ih =>
    obtain ⟨-, h₂, -, h₄⟩ := h
    have := ih h₄
    omega

/-- A tiling of `a, …, n - 1` has `n - a` items. -/
theorem Tiles.length_contents {bs : List (Block β)} {a n : ℕ} (h : Tiles a n bs) :
    (contents bs).length = n - a := by
  induction bs generalizing a with
  | nil =>
    simp only [Tiles] at h
    simp [h]
  | cons b bs ih =>
    obtain ⟨-, h₂, h₃, h₄⟩ := h
    have hle := h₄.le
    rw [contents_cons, List.length_append, h₃, ih h₄]
    omega

/-! ### Cutting a list into blocks of one size -/

/-- The block number `k` of `l`, when `l` is cut into blocks of `c` items. -/
def blockAt (c k : ℕ) (l : List β) : List β := (l.drop (k * c)).take c

/-- How many blocks of `c` items, the last perhaps shorter, `n` items make. -/
def numBlocks (c n : ℕ) : ℕ := (n + c - 1) / c

theorem lt_numBlocks_iff {c : ℕ} (hc : 0 < c) (k n : ℕ) : k < numBlocks c n ↔ k * c < n := by
  unfold numBlocks
  rw [Nat.lt_iff_add_one_le, Nat.le_div_iff_mul_le hc, Nat.add_mul]
  omega

/-- The blocks hold all items. -/
theorem le_mul_numBlocks {c : ℕ} (hc : 0 < c) (n : ℕ) : n ≤ numBlocks c n * c :=
  Nat.le_of_not_lt fun h => lt_irrefl _ ((lt_numBlocks_iff hc _ n).mpr h)

/-- The first `k` blocks are the first `k * c` items. -/
theorem flatten_range_blocks (c k : ℕ) (l : List β) :
    ((List.range k).map fun i => blockAt c i l).flatten = l.take (k * c) := by
  induction k with
  | zero => simp
  | succ k ih =>
    rw [List.range_succ, List.map_append, List.flatten_append, ih, Nat.add_mul, one_mul, List.take_add]
    simp [blockAt]

end Tiling
