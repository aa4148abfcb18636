import Mathlib.Data.List.TakeWhile

/-!
# Patterns that are matched with backtracking

A pattern is a sequence of items. An item takes a number of characters of one class, the
longest choice first when it is greedy and the shortest one first when it is lazy. A string
matches when the items, in order, take all of it; the first choice that leads to the end of
the string wins, and the captured items are the groups of the match.

## What is proved

* `fullMatch_sound`, `fullMatch_complete` — the search finds a decomposition into what the
  items take whenever there is one, in whatever order it tries.
* `Determined.unique` — a pattern in which each repeated item is followed by what it does not
  take, or by a tail of a fixed length, has one decomposition at most.
* `fullMatch_eq_some_iff` — hence the search for such a pattern returns exactly it.
-/

namespace Regex

variable {α : Type*}

/-- An item of a pattern. -/
structure Item (α : Type*) where
  /-- The class of its characters. -/
  accepts : α → Bool
  /-- The fewest characters it takes. -/
  fewest : ℕ
  /-- The most characters it takes, if there is a bound. -/
  most : Option ℕ
  /-- It tries the longest choice first. -/
  greedy : Bool
  /-- It is a group. -/
  captured : Bool

/-- The character `c`. -/
def char [DecidableEq α] (c : α) : Item α := ⟨fun a => decide (a = c), 1, some 1, true, false⟩

/-- The group `(p+)`. -/
def plus (p : α → Bool) : Item α := ⟨p, 1, none, true, true⟩

/-- The group `(p*?)`. -/
def lazyStar (p : α → Bool) : Item α := ⟨p, 0, none, false, true⟩

namespace Item

/-- The item takes the string `t`. -/
def Takes (x : Item α) (t : List α) : Prop :=
  (∀ a ∈ t, x.accepts a = true) ∧ x.fewest ≤ t.length ∧ ∀ m ∈ x.most, t.length ≤ m

/-- The most characters the item can take at the beginning of `s`. -/
def longest (x : Item α) (s : List α) : ℕ :=
  match x.most with
  | none => (s.takeWhile x.accepts).length
  | some m => min m (s.takeWhile x.accepts).length

/-- The choices of the item at the beginning of `s`, in the order in which they are tried:
what it takes, and what is left. -/
def choices (x : Item α) (s : List α) : List (List α × List α) :=
  let lengths := List.range' x.fewest (x.longest s + 1 - x.fewest)
  (if x.greedy then lengths.reverse else lengths).map s.splitAt

end Item

/-- Backtracking: what each item takes, by the first choice that leads to the end of `s`. -/
def fullMatch : List (Item α) → List α → Option (List (List α))
  | [], [] => some []
  | [], _ :: _ => none
  | x :: pattern, s => (x.choices s).findSome? fun c => (fullMatch pattern c.2).map (c.1 :: ·)

/-- What the captured items took. -/
def groups : List (Item α) → List (List α) → List (List α)
  | x :: pattern, t :: ts => if x.captured then t :: groups pattern ts else groups pattern ts
  | _, _ => []

/-- The match of a whole string: the string, and its groups. -/
def regexMatch (pattern : List (Item α)) (s : List α) : Option (List (List α)) :=
  (fullMatch pattern s).map fun ts => s :: groups pattern ts

/-- The strings of a pattern, with what each item takes. -/
inductive Matches : List (Item α) → List α → List (List α) → Prop where
  /-- The empty pattern has the empty string. -/
  | nil : Matches [] [] []
  /-- An item and the items behind it. -/
  | cons {x : Item α} {pattern : List (Item α)} {t s : List α} {ts : List (List α)} :
      x.Takes t → Matches pattern s ts → Matches (x :: pattern) (t ++ s) (t :: ts)

theorem matches_nil_iff (s : List α) (ts : List (List α)) : Matches [] s ts ↔ s = [] ∧ ts = [] := by
  constructor
  · intro h
    cases h
    exact ⟨rfl, rfl⟩
  · rintro ⟨rfl, rfl⟩
    exact Matches.nil

theorem matches_cons_iff (x : Item α) (pattern : List (Item α)) (s : List α) (ts : List (List α)) :
    Matches (x :: pattern) s ts ↔ ∃ t r ts', x.Takes t ∧ Matches pattern r ts' ∧ s = t ++ r ∧ ts = t :: ts' := by
  constructor
  · intro h
    cases h with
    | cons ht hr => exact ⟨_, _, _, ht, hr, rfl, rfl⟩
  · rintro ⟨t, r, ts', ht, hr, rfl, rfl⟩
    exact Matches.cons ht hr

/-! ### What the items take -/

theorem takes_char_iff [DecidableEq α] (c : α) (t : List α) : (char c).Takes t ↔ t = [c] := by
  constructor
  · rintro ⟨hall, hfew, hmost⟩
    obtain ⟨a, rfl⟩ := List.length_eq_one_iff.mp (Nat.le_antisymm (hmost 1 rfl) hfew)
    have ha := hall a (by simp)
    rw [of_decide_eq_true ha]
  · rintro rfl
    exact ⟨by simp [char], Nat.le_refl 1, by simp [char]⟩

theorem takes_plus_iff (p : α → Bool) (t : List α) : (plus p).Takes t ↔ t ≠ [] ∧ ∀ a ∈ t, p a = true := by
  simp only [Item.Takes, plus, Option.mem_def, reduceCtorEq, false_implies, implies_true, and_true]
  rw [and_comm, Nat.one_le_iff_ne_zero, Ne, List.length_eq_zero_iff]

theorem takes_lazyStar_iff (p : α → Bool) (t : List α) : (lazyStar p).Takes t ↔ ∀ a ∈ t, p a = true := by
  simp [Item.Takes, lazyStar]

theorem matches_char_cons_iff [DecidableEq α] (c : α) (pattern : List (Item α)) (s : List α) (ts : List (List α)) :
    Matches (char c :: pattern) s ts ↔ ∃ r ts', Matches pattern r ts' ∧ s = c :: r ∧ ts = [c] :: ts' := by
  rw [matches_cons_iff]
  constructor
  · rintro ⟨t, r, ts', ht, hr, rfl, rfl⟩
    rw [takes_char_iff] at ht
    subst ht
    exact ⟨r, ts', hr, rfl, rfl⟩
  · rintro ⟨r, ts', hr, rfl, rfl⟩
    exact ⟨[c], r, ts', (takes_char_iff c [c]).mpr rfl, hr, rfl, rfl⟩

/-- A word in front of a pattern. -/
theorem matches_word_append_iff [DecidableEq α] (w : List α) (pattern : List (Item α)) (s : List α)
    (ts : List (List α)) :
    Matches (w.map char ++ pattern) s ts ↔
      ∃ r ts', Matches pattern r ts' ∧ s = w ++ r ∧ ts = w.map (fun c => [c]) ++ ts' := by
  induction w generalizing s ts with
  | nil => simp
  | cons c w ih =>
    rw [List.map_cons, List.cons_append, matches_char_cons_iff]
    constructor
    · rintro ⟨r, ts', hr, rfl, rfl⟩
      obtain ⟨r', us, hr', rfl, rfl⟩ := (ih r ts').mp hr
      exact ⟨r', us, hr', rfl, rfl⟩
    · rintro ⟨r', us, hr', rfl, rfl⟩
      exact ⟨w ++ r', w.map (fun c => [c]) ++ us, (ih _ _).mpr ⟨r', us, hr', rfl, rfl⟩, rfl, rfl⟩

theorem groups_word_append [DecidableEq α] (w : List α) (pattern : List (Item α)) (ts : List (List α)) :
    groups (w.map char ++ pattern) (w.map (fun c => [c]) ++ ts) = groups pattern ts := by
  induction w with
  | nil => rfl
  | cons c w ih =>
    rw [← ih]
    rfl

theorem all_take_iff (p : α → Bool) (k : ℕ) (s : List α) (hk : k ≤ s.length) :
    (∀ a ∈ s.take k, p a = true) ↔ k ≤ (s.takeWhile p).length := by
  constructor
  · intro h
    have hsplit : s.takeWhile p = s.take k ++ (s.drop k).takeWhile p := by
      conv => lhs; rw [← List.take_append_drop k s, List.takeWhile_append_of_pos h]
    rw [hsplit, List.length_append, List.length_take, Nat.min_eq_left hk]
    exact Nat.le_add_right _ _
  · intro h a ha
    have htaken : s.take k <+: s.takeWhile p :=
      List.prefix_of_prefix_length_le (List.take_prefix k s) (List.takeWhile_prefix p)
        (by rw [List.length_take, Nat.min_eq_left hk]; exact h)
    exact List.mem_takeWhile_imp (htaken.subset ha)

theorem Item.le_longest_iff (x : Item α) (k : ℕ) (s : List α) :
    k ≤ x.longest s ↔ k ≤ (s.takeWhile x.accepts).length ∧ ∀ m ∈ x.most, k ≤ m := by
  simp only [Item.longest]
  split
  · next h => simp [h]
  · next m h =>
    rw [Nat.le_min, and_comm]
    simp [h]

/-- The choices are the beginnings that the item takes. -/
theorem Item.mem_choices_iff (x : Item α) (s t r : List α) : (t, r) ∈ x.choices s ↔ s = t ++ r ∧ x.Takes t := by
  have hmem : (t, r) ∈ x.choices s ↔ ∃ k, (x.fewest ≤ k ∧ k ≤ x.longest s) ∧ s.take k = t ∧ s.drop k = r := by
    simp only [Item.choices, List.mem_map, List.splitAt_eq, Prod.mk.injEq]
    refine exists_congr fun k => and_congr_left' ?_
    have hrange : k ∈ List.range' x.fewest (x.longest s + 1 - x.fewest) ↔ x.fewest ≤ k ∧ k ≤ x.longest s := by
      rw [List.mem_range'_1]
      omega
    split_ifs
    · rw [List.mem_reverse, hrange]
    · exact hrange
  rw [hmem]
  constructor
  · rintro ⟨k, ⟨hfew, hlong⟩, rfl, rfl⟩
    obtain ⟨htake, hmost⟩ := (x.le_longest_iff k s).mp hlong
    have hk : k ≤ s.length := Nat.le_trans htake (List.takeWhile_prefix _).length_le
    have hlen : (s.take k).length = k := by rw [List.length_take, Nat.min_eq_left hk]
    refine ⟨(List.take_append_drop k s).symm, (all_take_iff _ k s hk).mpr htake, ?_, ?_⟩
    · rw [hlen]; exact hfew
    · rw [hlen]; exact hmost
  · rintro ⟨rfl, hall, hfew, hmost⟩
    refine ⟨t.length, ⟨hfew, (x.le_longest_iff _ _).mpr ⟨?_, hmost⟩⟩, by simp, by simp⟩
    rw [← all_take_iff x.accepts t.length (t ++ r) (by simp)]
    simpa using hall

/-! ### The search and the grammar -/

/-- What the search returns is a decomposition. -/
theorem fullMatch_sound {pattern : List (Item α)} {s : List α} {ts : List (List α)}
    (h : fullMatch pattern s = some ts) : Matches pattern s ts := by
  induction pattern generalizing s ts with
  | nil =>
    cases s with
    | nil => cases h; exact Matches.nil
    | cons a s => cases h
  | cons x pattern ih =>
    rw [fullMatch] at h
    obtain ⟨⟨t, r⟩, hc, hrest⟩ := List.exists_of_findSome?_eq_some h
    obtain ⟨rfl, ht⟩ := (x.mem_choices_iff s t r).mp hc
    obtain ⟨ts', hts, rfl⟩ := Option.map_eq_some_iff.mp hrest
    exact Matches.cons ht (ih hts)

/-- A string that has a decomposition is matched. -/
theorem fullMatch_complete {pattern : List (Item α)} {s : List α} {ts : List (List α)}
    (h : Matches pattern s ts) : (fullMatch pattern s).isSome = true := by
  induction h with
  | nil => rfl
  | cons ht _ ih =>
    rw [fullMatch, List.findSome?_isSome_iff]
    exact ⟨_, (Item.mem_choices_iff _ _ _ _).mpr ⟨rfl, ht⟩, by simpa using ih⟩

/-- A pattern whose decompositions are unique. -/
inductive Determined : List (Item α) → Prop where
  /-- The empty pattern. -/
  | nil : Determined []
  /-- An item of one length. -/
  | single {x : Item α} {pattern : List (Item α)} :
      x.most = some x.fewest → Determined pattern → Determined (x :: pattern)
  /-- An item that cannot take the character that has to follow it. -/
  | stopped {x y : Item α} {pattern : List (Item α)} :
      (∀ a, y.accepts a = true → x.accepts a = false) → 0 < y.fewest → Determined (y :: pattern) →
        Determined (x :: y :: pattern)
  /-- An item in front of a tail of one length. -/
  | last {x : Item α} {pattern : List (Item α)} :
      (∀ y ∈ pattern, y.most = some y.fewest) → Determined pattern → Determined (x :: pattern)

theorem Determined.word_append [DecidableEq α] (w : List α) {pattern : List (Item α)} (h : Determined pattern) :
    Determined (w.map char ++ pattern) := by
  induction w with
  | nil => exact h
  | cons c w ih => exact Determined.single rfl ih

theorem Item.Takes.length_eq {x : Item α} {t : List α} (h : x.Takes t) (hx : x.most = some x.fewest) :
    t.length = x.fewest :=
  Nat.le_antisymm (h.2.2 _ hx) h.2.1

/-- What items of a fixed length take together has a fixed length. -/
theorem Matches.length_unique {pattern : List (Item α)} {s s' : List α} {ts ts' : List (List α)}
    (hfixed : ∀ y ∈ pattern, y.most = some y.fewest) (h : Matches pattern s ts) (h' : Matches pattern s' ts') :
    s.length = s'.length := by
  induction h generalizing s' ts' with
  | nil => rw [((matches_nil_iff ..).mp h').1]
  | cons ht _ ih =>
    obtain ⟨t', r', us', ht', hr', rfl, -⟩ := (matches_cons_iff ..).mp h'
    have hrest := ih (fun y hy => hfixed y (List.mem_cons_of_mem _ hy)) hr'
    have hx := hfixed _ List.mem_cons_self
    rw [List.length_append, List.length_append, ht.length_eq hx, ht'.length_eq hx, hrest]

/-- What is in front of the first character that an item does not take. -/
theorem Matches.takeWhile_eq {x y : Item α} {pattern : List (Item α)} {t r : List α} {ts : List (List α)}
    (hstop : ∀ a, y.accepts a = true → x.accepts a = false) (hy : 0 < y.fewest) (ht : x.Takes t)
    (hr : Matches (y :: pattern) r ts) : (t ++ r).takeWhile x.accepts = t := by
  obtain ⟨u, r', ts', hu, -, rfl, -⟩ := (matches_cons_iff ..).mp hr
  obtain ⟨a, u, rfl⟩ := List.exists_cons_of_length_pos (Nat.lt_of_lt_of_le hy hu.2.1)
  have ha := hstop a (hu.1 a (by simp))
  rw [List.takeWhile_append_of_pos ht.1]
  simp [ha]

/-- **A determined pattern has one decomposition at most.** -/
theorem Determined.unique {pattern : List (Item α)} (hp : Determined pattern) {s : List α} {ts ts' : List (List α)}
    (h : Matches pattern s ts) (h' : Matches pattern s ts') : ts = ts' := by
  induction hp generalizing s ts ts' with
  | nil =>
    rw [((matches_nil_iff ..).mp h).2, ((matches_nil_iff ..).mp h').2]
  | @single x pattern hx _ ih =>
    obtain ⟨t, r, us, ht, hr, rfl, rfl⟩ := (matches_cons_iff ..).mp h
    obtain ⟨t', r', us', ht', hr', hs, rfl⟩ := (matches_cons_iff ..).mp h'
    obtain ⟨rfl, rfl⟩ := List.append_inj hs ((ht.length_eq hx).trans (ht'.length_eq hx).symm)
    rw [ih hr hr']
  | @stopped x y pattern hstop hy _ ih =>
    obtain ⟨t, r, us, ht, hr, rfl, rfl⟩ := (matches_cons_iff ..).mp h
    obtain ⟨t', r', us', ht', hr', hs, rfl⟩ := (matches_cons_iff ..).mp h'
    have htt : t = t' := by
      rw [← hr.takeWhile_eq hstop hy ht, hs, hr'.takeWhile_eq hstop hy ht']
    obtain rfl : r = r' := by rw [htt] at hs; exact List.append_cancel_left hs
    rw [htt, ih hr hr']
  | @last x pattern hfixed _ ih =>
    obtain ⟨t, r, us, ht, hr, rfl, rfl⟩ := (matches_cons_iff ..).mp h
    obtain ⟨t', r', us', ht', hr', hs, rfl⟩ := (matches_cons_iff ..).mp h'
    obtain ⟨rfl, rfl⟩ := List.append_inj' hs (Matches.length_unique hfixed hr hr')
    rw [ih hr hr']

/-- The search for a determined pattern returns its decomposition, and nothing else. -/
theorem fullMatch_eq_some_iff {pattern : List (Item α)} (hp : Determined pattern) {s : List α}
    {ts : List (List α)} : fullMatch pattern s = some ts ↔ Matches pattern s ts := by
  constructor
  · exact fullMatch_sound
  · intro h
    obtain ⟨ts', hts⟩ := Option.isSome_iff_exists.mp (fullMatch_complete h)
    rw [hts, hp.unique (fullMatch_sound hts) h]

/-- The match of a determined pattern: the string and the groups of its decomposition. -/
theorem regexMatch_eq_some_iff {pattern : List (Item α)} (hp : Determined pattern) {s : List α}
    {m : List (List α)} : regexMatch pattern s = some m ↔ ∃ ts, Matches pattern s ts ∧ s :: groups pattern ts = m := by
  rw [regexMatch, Option.map_eq_some_iff]
  exact exists_congr fun ts => and_congr_left' (fullMatch_eq_some_iff hp)

end Regex
