import BofWebRpc.Library.Regex
import Mathlib.Data.List.Basic

/-!
# The text of a command

A command is sent as `name(argument,argument,..)`. `BofWebApp::S_SplitCmdAndArg` matches the
whole text against `(\w+)\((.*?)\)`, and `BofWebApp::S_SplitArg` cuts what is between the
parentheses at its commas with `std::getline`.

## What is proved

* `splitCmdAndArg_exact` — what is accepted is exactly the grammar, the decomposition is
  unique, and the outputs are only written when the text is accepted.
* `splitArg_intercalate` — the arguments that are joined come back, but an empty one at the
  end is dropped: `std::getline` has nothing left to read and reports a failure.
* `commandText_roundTrip_iff` — hence a command is read back if and only if its last argument
  is not empty.
-/

namespace BofWebRpc.WebApp

/-! ### The command and its argument -/

/-- `\w`. -/
def isWord (c : Char) : Bool := c.isAlphanum || c == '_'

/-- `.`, which stands for anything but a line terminator. -/
def isInLine (c : Char) : Bool := c != '\n' && c != '\r'

/-- `(\w+)\((.*?)\)`. -/
def regExCmdArg : List (Regex.Item Char) :=
  [Regex.plus isWord, Regex.char '(', Regex.lazyStar isInLine, Regex.char ')']

/-- `BofWebApp::S_SplitCmdAndArg`: what it returns, and `_rCmd_S` and `_rArg_S` afterwards. -/
def splitCmdAndArg (cmdArgRequest cmd arg : List Char) : Bool × List Char × List Char :=
  match Regex.regexMatch regExCmdArg cmdArgRequest with
  | none => (false, cmd, arg)
  | some found =>
    if found.length ≥ 2 then
      if found.length = 3 then (true, found.getD 1 [], found.getD 2 [])
      else (true, found.getD 1 [], [])
    else (false, cmd, arg)

/-- A command name. -/
def IsCommand (c : List Char) : Prop := c ≠ [] ∧ ∀ x ∈ c, isWord x = true

/-- A text without line terminators. -/
def IsLine (a : List Char) : Prop := ∀ x ∈ a, x ≠ '\n' ∧ x ≠ '\r'

/-- `s` is `c(a)`. -/
def IsCmdArg (s c a : List Char) : Prop := IsCommand c ∧ IsLine a ∧ s = c ++ '(' :: (a ++ [')'])

instance (c : List Char) : Decidable (IsCommand c) :=
  have := List.decidableBAll (fun x => isWord x = true) c
  inferInstanceAs (Decidable (c ≠ [] ∧ ∀ x ∈ c, isWord x = true))

instance (a : List Char) : Decidable (IsLine a) := List.decidableBAll (fun x => x ≠ '\n' ∧ x ≠ '\r') a

theorem isLine_iff (a : List Char) : IsLine a ↔ ∀ x ∈ a, isInLine x = true := by
  simp [IsLine, isInLine]

theorem determined_regExCmdArg : Regex.Determined regExCmdArg := by
  have hstop : ∀ a, (Regex.char '(').accepts a = true → (Regex.plus isWord).accepts a = false := by
    intro a ha
    rw [of_decide_eq_true ha]
    decide
  refine .stopped hstop Nat.one_pos (.single rfl ?_)
  -- the lazy group stretches to the last character, which the pattern fixes
  refine .last (fun y hy => ?_) (.single rfl .nil)
  rw [List.mem_singleton.mp hy]
  rfl

/-- The groups of a match are the command and its argument. -/
theorem regexMatch_regExCmdArg_iff (s : List Char) (found : List (List Char)) :
    Regex.regexMatch regExCmdArg s = some found ↔ ∃ c a, IsCmdArg s c a ∧ found = [s, c, a] := by
  rw [Regex.regexMatch_eq_some_iff determined_regExCmdArg]
  constructor
  · rintro ⟨ts, h, rfl⟩
    obtain ⟨c, _, _, hc, h₁, rfl, rfl⟩ := (Regex.matches_cons_iff ..).mp h
    obtain ⟨_, _, h₂, rfl, rfl⟩ := (Regex.matches_char_cons_iff ..).mp h₁
    obtain ⟨a, _, _, ha, h₃, rfl, rfl⟩ := (Regex.matches_cons_iff ..).mp h₂
    obtain ⟨_, _, h₄, rfl, rfl⟩ := (Regex.matches_char_cons_iff ..).mp h₃
    obtain ⟨rfl, rfl⟩ := (Regex.matches_nil_iff ..).mp h₄
    rw [Regex.takes_plus_iff] at hc
    rw [Regex.takes_lazyStar_iff, ← isLine_iff] at ha
    exact ⟨c, a, ⟨hc, ha, rfl⟩, rfl⟩
  · rintro ⟨c, a, ⟨hc, ha, rfl⟩, rfl⟩
    refine ⟨[c, ['('], a, [')']], ?_, rfl⟩
    refine .cons ((Regex.takes_plus_iff ..).mpr hc) ((Regex.matches_char_cons_iff ..).mpr ⟨_, _, ?_, rfl, rfl⟩)
    refine .cons ((Regex.takes_lazyStar_iff ..).mpr ((isLine_iff a).mp ha)) ?_
    exact (Regex.matches_char_cons_iff ..).mpr ⟨_, _, .nil, rfl, rfl⟩

theorem splitCmdAndArg_of_isCmdArg {s c a : List Char} (h : IsCmdArg s c a) (cmd arg : List Char) :
    splitCmdAndArg s cmd arg = (true, c, a) := by
  rw [splitCmdAndArg, (regexMatch_regExCmdArg_iff s _).mpr ⟨c, a, h, rfl⟩]
  rfl

theorem splitCmdAndArg_of_not_isCmdArg {s : List Char} (h : ∀ c a, ¬ IsCmdArg s c a) (cmd arg : List Char) :
    splitCmdAndArg s cmd arg = (false, cmd, arg) := by
  have hnone : Regex.regexMatch regExCmdArg s = none := by
    rw [Option.eq_none_iff_forall_ne_some]
    intro found hfound
    obtain ⟨c, a, hca, -⟩ := (regexMatch_regExCmdArg_iff s found).mp hfound
    exact h c a hca
  rw [splitCmdAndArg, hnone]

/-- The command is in front of the first `(`, and the argument between it and the final `)`. -/
theorem IsCmdArg.eq {s c a : List Char} (h : IsCmdArg s c a) :
    s.getLast? = some ')' ∧ c = s.takeWhile (· ≠ '(') ∧ a = (s.dropWhile (· ≠ '(')).tail.dropLast := by
  obtain ⟨⟨-, hc⟩, -, rfl⟩ := h
  have hword : ∀ x ∈ c, decide (x ≠ '(') = true := by
    intro x hx
    have hx := hc x hx
    rw [decide_eq_true_eq]
    rintro rfl
    revert hx
    decide
  refine ⟨?_, ?_, ?_⟩
  · rw [← List.cons_append, ← List.append_assoc, List.getLast?_concat]
  · rw [List.takeWhile_append_of_pos hword]
    simp
  · rw [List.dropWhile_append_of_pos hword]
    simp

/-- **The commands that are accepted** are exactly the texts `c(a)`, with one decomposition;
the outputs are then `c` and `a`, and are not touched otherwise. -/
theorem splitCmdAndArg_exact (s cmd arg : List Char) :
    ((splitCmdAndArg s cmd arg).1 = true ↔ ∃ c a, IsCmdArg s c a) ∧
      (∀ c a, IsCmdArg s c a → s.getLast? = some ')' ∧ splitCmdAndArg s cmd arg = (true, c, a) ∧
        c = s.takeWhile (· ≠ '(') ∧ a = (s.dropWhile (· ≠ '(')).tail.dropLast) ∧
      (∀ c a c' a', IsCmdArg s c a → IsCmdArg s c' a' → c = c' ∧ a = a') ∧
      ((splitCmdAndArg s cmd arg).1 = false → (splitCmdAndArg s cmd arg).2 = (cmd, arg)) := by
  refine ⟨⟨fun h => ?_, ?_⟩, ?_, ?_, fun h => ?_⟩
  · by_contra hnone
    simp only [not_exists] at hnone
    rw [splitCmdAndArg_of_not_isCmdArg hnone] at h
    cases h
  · rintro ⟨c, a, h⟩
    rw [splitCmdAndArg_of_isCmdArg h]
  · intro c a h
    exact ⟨h.eq.1, splitCmdAndArg_of_isCmdArg h cmd arg, h.eq.2⟩
  · intro c a c' a' h h'
    exact ⟨h.eq.2.1.trans h'.eq.2.1.symm, h.eq.2.2.trans h'.eq.2.2.symm⟩
  · have hnone : ∀ c a, ¬ IsCmdArg s c a := by
      intro c a hca
      rw [splitCmdAndArg_of_isCmdArg hca] at h
      cases h
    rw [splitCmdAndArg_of_not_isCmdArg hnone]

/-- A command with nested parentheses and text behind the first `)`. -/
theorem splitCmdAndArg_exact_nested :
    IsCmdArg "f((a)b(c))".toList ['f'] "(a)b(c)".toList ∧
      splitCmdAndArg "f((a)b(c))".toList [] [] = (true, ['f'], "(a)b(c)".toList) := by
  have h : IsCmdArg "f((a)b(c))".toList ['f'] "(a)b(c)".toList :=
    ⟨by decide, by decide, by decide⟩
  exact ⟨h, ((splitCmdAndArg_exact _ [] []).2.1 _ _ h).2.1⟩

/-! ### The arguments -/

/-- A `std::stringstream` that is read: what is left, and whether its end was met (`eofbit`). -/
structure StringStream where
  /-- What is left. -/
  rest : List Char
  /-- `eofbit`. -/
  eof : Bool

/-- `std::getline(Ss, Item_S, delim)`: the item and the stream, when it succeeds. It fails on a
stream whose end was met, and when there is no character to extract. -/
def getline (delim : Char) (ss : StringStream) : Option (List Char × StringStream) :=
  if ss.eof ∨ ss.rest = [] then none
  else
    match ss.rest.dropWhile (· ≠ delim) with
    | [] => some (ss.rest, ⟨[], true⟩)
    | _ :: rest => some (ss.rest.takeWhile (· ≠ delim), ⟨rest, false⟩)

theorem length_rest_getline {delim : Char} {ss ss' : StringStream} {item : List Char}
    (h : getline delim ss = some (item, ss')) : ss'.rest.length < ss.rest.length := by
  simp only [getline] at h
  split_ifs at h with hfail
  rw [not_or] at hfail
  have hpos : 0 < ss.rest.length := List.length_pos_iff.mpr hfail.2
  split at h
  · cases h
    exact hpos
  · next c rest hdrop =>
    cases h
    have hle : (ss.rest.dropWhile (· ≠ delim)).length ≤ ss.rest.length := (List.dropWhile_suffix _).length_le
    rw [hdrop, List.length_cons] at hle
    exact hle

/-- The loop of `S_SplitArg`. -/
def splitArgLoop (ss : StringStream) : List (List Char) :=
  match h : getline ',' ss with
  | none => []
  | some (item, ss') =>
    have := length_rest_getline h
    item :: splitArgLoop ss'
termination_by ss.rest.length

/-- `BofWebApp::S_SplitArg`. -/
def splitArg (arg : List Char) : List (List Char) := splitArgLoop ⟨arg, false⟩

theorem splitArgLoop_of_none {ss : StringStream} (h : getline ',' ss = none) : splitArgLoop ss = [] := by
  rw [splitArgLoop]
  split
  · rfl
  · next h' => rw [h] at h'; cases h'

theorem splitArgLoop_of_some {ss ss' : StringStream} {item : List Char} (h : getline ',' ss = some (item, ss')) :
    splitArgLoop ss = item :: splitArgLoop ss' := by
  rw [splitArgLoop]
  split
  · next h' => rw [h] at h'; cases h'
  · next h' => rw [h] at h'; cases h'; rfl

theorem getline_last {x : List Char} (hx : ',' ∉ x) (hne : x ≠ []) : getline ',' ⟨x, false⟩ = some (x, ⟨[], true⟩) := by
  have hdrop : x.dropWhile (· ≠ ',') = [] := by
    rw [List.dropWhile_eq_nil_iff]
    intro c hc
    exact decide_eq_true fun he => hx (he ▸ hc)
  simp only [getline, hdrop]
  simp [hne]

theorem getline_item {x : List Char} (hx : ',' ∉ x) (rest : List Char) :
    getline ',' ⟨x ++ ',' :: rest, false⟩ = some (x, ⟨rest, false⟩) := by
  have hall : ∀ c ∈ x, decide (c ≠ ',') = true := fun c hc => decide_eq_true fun he => hx (he ▸ hc)
  have htake : (x ++ ',' :: rest).takeWhile (· ≠ ',') = x := by
    rw [List.takeWhile_append_of_pos hall]
    simp
  have hdrop : (x ++ ',' :: rest).dropWhile (· ≠ ',') = ',' :: rest := by
    rw [List.dropWhile_append_of_pos hall]
    simp
  simp only [getline, htake, hdrop]
  simp

/-- **Arguments that are joined by commas** are cut at them, and an empty one at the end is
dropped. -/
theorem splitArg_intercalate {xs : List (List Char)} (hne : xs ≠ []) (hxs : ∀ x ∈ xs, ',' ∉ x) :
    splitArg ([','].intercalate xs) = if xs.getLast? = some [] then xs.dropLast else xs := by
  induction xs with
  | nil => exact absurd rfl hne
  | cons x xs ih =>
    have hx := hxs x (by simp)
    cases xs with
    | nil =>
      rw [List.intercalate_singleton, splitArg]
      by_cases hempty : x = []
      · subst hempty
        exact splitArgLoop_of_none rfl
      · rw [splitArgLoop_of_some (getline_last hx hempty), splitArgLoop_of_none rfl]
        simp [hempty]
    | cons y ys =>
      have ih := ih (by simp) fun z hz => hxs z (List.mem_cons_of_mem x hz)
      rw [List.intercalate_cons_cons, List.append_assoc, List.singleton_append, splitArg,
        splitArgLoop_of_some (getline_item hx _)]
      rw [splitArg] at ih
      rw [ih, List.getLast?_cons_cons]
      split_ifs <;> rfl

/-! ### The round trip -/

/-- An argument: no comma and no line terminator. -/
def IsArgument (x : List Char) : Prop := ',' ∉ x ∧ IsLine x

/-- The text of a command. -/
def commandText (c : List Char) (xs : List (List Char)) : List Char :=
  c ++ '(' :: ([','].intercalate xs ++ [')'])

theorem isLine_intercalate {xs : List (List Char)} (h : ∀ x ∈ xs, IsLine x) : IsLine ([','].intercalate xs) := by
  induction xs with
  | nil => simp [IsLine]
  | cons x xs ih =>
    have hx := h x (by simp)
    have ih := ih fun z hz => h z (List.mem_cons_of_mem x hz)
    cases xs with
    | nil => rwa [List.intercalate_singleton]
    | cons y ys =>
      rw [List.intercalate_cons_cons]
      intro c hc
      simp only [List.mem_append, List.mem_singleton] at hc
      rcases hc with (hc | rfl) | hc
      · exact hx c hc
      · decide
      · exact ih c hc

/-- **The round trip.** A command is read back with all its arguments exactly when the last
one is not empty. -/
theorem commandText_roundTrip_iff {c : List Char} {xs : List (List Char)} (hc : IsCommand c) (hlen : 2 ≤ xs.length)
    (hxs : ∀ x ∈ xs, IsArgument x) (cmd arg : List Char) :
    (∃ a, splitCmdAndArg (commandText c xs) cmd arg = (true, c, a) ∧ splitArg a = xs) ↔ xs.getLast? ≠ some [] := by
  have hne : xs ≠ [] := List.ne_nil_of_length_pos (by omega)
  have hcmd : IsCmdArg (commandText c xs) c ([','].intercalate xs) :=
    ⟨hc, isLine_intercalate fun x hx => (hxs x hx).2, rfl⟩
  have hsplit := splitArg_intercalate hne fun x hx => (hxs x hx).1
  rw [splitCmdAndArg_of_isCmdArg hcmd]
  constructor
  · rintro ⟨a, ha, hall⟩ hlast
    cases ha
    rw [hsplit, if_pos hlast] at hall
    have hdrop := congrArg List.length hall
    rw [List.length_dropLast] at hdrop
    omega
  · intro hlast
    refine ⟨_, rfl, ?_⟩
    rw [hsplit, if_neg hlast]

/-- `f(,(a))`: the first argument is empty and comes back. -/
theorem commandText_roundTrip_leading :
    ∃ a, splitCmdAndArg (commandText ['f'] [[], "(a)".toList]) [] [] = (true, ['f'], a) ∧
      splitArg a = [[], "(a)".toList] :=
  (commandText_roundTrip_iff (by decide) (by decide)
    (by simp [IsArgument, IsLine]) [] []).mpr (by decide)

/-- `f(a,)`: the second argument is empty and is lost. -/
theorem commandText_roundTrip_trailing :
    ¬ ∀ (c : List Char) (xs : List (List Char)), IsCommand c → 2 ≤ xs.length → (∀ x ∈ xs, IsArgument x) →
      ∀ cmd arg, ∃ a, splitCmdAndArg (commandText c xs) cmd arg = (true, c, a) ∧ splitArg a = xs := by
  intro h
  have harg : ∀ x ∈ [['a'], []], IsArgument x := by simp [IsArgument, IsLine]
  obtain ⟨a, ha, hall⟩ := h ['f'] [['a'], []] (by decide) (by decide) harg [] []
  have hcmd : IsCmdArg (commandText ['f'] [['a'], []]) ['f'] ['a', ','] := ⟨by decide, by decide, rfl⟩
  rw [splitCmdAndArg_of_isCmdArg hcmd] at ha
  cases ha
  have hsplit : splitArg ([','].intercalate [['a'], []]) = [['a']] :=
    splitArg_intercalate (by decide) fun x hx => (harg x hx).1
  rw [show ['a', ','] = [','].intercalate [['a'], []] from rfl, hsplit] at hall
  revert hall
  decide

end BofWebRpc.WebApp
