import Mathlib.Data.List.TakeWhile

/-!
# Query strings

The query of a URL is a list of arguments separated by `&`, each of them
percent-decoded. An argument is looked up by its name, which includes the `=`.

## What is proved

* `argument_append` — of a query that begins with the name, what is found is what follows up
  to the next `&`, decoded.
* `argument_append_iff` — it is found unchanged if and only if it has no `&` and decoding
  leaves it alone.
-/

namespace Query

/-- The value of a hexadecimal digit. -/
def hexValue (c : Char) : Option ℕ :=
  if '0' ≤ c ∧ c ≤ '9' then some (c.toNat - '0'.toNat)
  else if 'a' ≤ c ∧ c ≤ 'f' then some (c.toNat - 'a'.toNat + 10)
  else if 'A' ≤ c ∧ c ≤ 'F' then some (c.toNat - 'A'.toNat + 10)
  else none

/-- The character that `%` with the two digits `a` and `b` stands for. -/
def escape (a b : Char) : Option Char := do
  let high ← hexValue a
  let low ← hexValue b
  return Char.ofNat (16 * high + low)

/-- Percent-decoding; what is no escape stays. -/
def percentDecode : List Char → List Char
  | [] => []
  | [c] => [c]
  | [c, d] => [c, d]
  | c :: a :: b :: rest =>
    match if c = '%' then escape a b else none with
    | some d => d :: percentDecode rest
    | none => c :: percentDecode (a :: b :: rest)

/-- The value of the first argument of the query whose name is `name`. -/
def argument (name query : List Char) : Option (List Char) :=
  ((query.splitOn '&').map percentDecode).findSome? fun arg =>
    if name.isPrefixOf arg then some (arg.drop name.length) else none

theorem percentDecode_cons {c : Char} (h : c ≠ '%') (l : List Char) :
    percentDecode (c :: l) = c :: percentDecode l := by
  match l with
  | [] => rfl
  | [d] => rfl
  | a :: b :: rest => simp only [percentDecode, if_neg h]

/-- What has no `%` is not changed. -/
theorem percentDecode_append {l : List Char} (h : '%' ∉ l) (l' : List Char) :
    percentDecode (l ++ l') = l ++ percentDecode l' := by
  induction l with
  | nil => rfl
  | cons c l ih =>
    rw [List.mem_cons, not_or] at h
    rw [List.cons_append, percentDecode_cons (Ne.symm h.1), ih h.2, List.cons_append]

theorem length_percentDecode_le (l : List Char) : (percentDecode l).length ≤ l.length := by
  fun_induction percentDecode l with
  | case1 => exact Nat.le_refl _
  | case2 => exact Nat.le_refl _
  | case3 => exact Nat.le_refl _
  | case4 c a b rest d _ ih =>
    simp only [List.length_cons]
    omega
  | case5 c a b rest _ ih =>
    simp only [List.length_cons] at ih ⊢
    omega

/-- The first part of a list that is split. -/
theorem splitOn_head (a : Char) (l : List Char) : ∃ parts, l.splitOn a = l.takeWhile (· ≠ a) :: parts := by
  induction l with
  | nil => exact ⟨[], rfl⟩
  | cons c l ih =>
    obtain ⟨parts, hparts⟩ := ih
    rw [List.splitOn] at hparts ⊢
    rw [List.splitOnP_cons_eq_if_modifyHead, hparts]
    by_cases hc : c = a
    · subst hc
      exact ⟨l.takeWhile (· ≠ c) :: parts, by simp⟩
    · exact ⟨parts, by simp [hc]⟩

/-- **Looking up** the first argument of a query. -/
theorem argument_append {name : List Char} (hand : '&' ∉ name) (hpercent : '%' ∉ name) (value : List Char) :
    argument name (name ++ value) = some (percentDecode (value.takeWhile (· ≠ '&'))) := by
  obtain ⟨parts, hparts⟩ := splitOn_head '&' (name ++ value)
  have hname : ∀ c ∈ name, c ≠ '&' := fun c hc he => hand (he ▸ hc)
  have htake : (name ++ value).takeWhile (· ≠ '&') = name ++ value.takeWhile (· ≠ '&') :=
    List.takeWhile_append_of_pos (by simpa using hname)
  rw [argument, hparts, htake, List.map_cons, percentDecode_append hpercent, List.findSome?_cons]
  have hprefix : name.isPrefixOf (name ++ percentDecode (value.takeWhile (· ≠ '&'))) = true := by
    rw [List.isPrefixOf_iff_prefix]
    exact List.prefix_append _ _
  rw [if_pos hprefix, List.drop_left]

/-- The value survives exactly when it has no `&` and decoding does not change it. -/
theorem argument_append_iff {name : List Char} (hand : '&' ∉ name) (hpercent : '%' ∉ name) (value : List Char) :
    argument name (name ++ value) = some value ↔ '&' ∉ value ∧ percentDecode value = value := by
  rw [argument_append hand hpercent, Option.some.injEq]
  constructor
  · intro h
    -- a shorter prefix cannot decode to the whole value
    have hlength := length_percentDecode_le (value.takeWhile (· ≠ '&'))
    rw [h] at hlength
    have hwhole : value.takeWhile (· ≠ '&') = value :=
      (List.takeWhile_prefix _).eq_of_length (Nat.le_antisymm (List.takeWhile_prefix _).length_le hlength)
    refine ⟨fun hmem => ?_, by rw [hwhole] at h; exact h⟩
    have hall := List.takeWhile_eq_self_iff.mp hwhole '&' hmem
    simp at hall
  · rintro ⟨hvalue, hdecode⟩
    have hwhole : value.takeWhile (· ≠ '&') = value :=
      List.takeWhile_eq_self_iff.mpr fun c hc => by simpa using fun he : c = '&' => hvalue (he ▸ hc)
    rw [hwhole, hdecode]

end Query
