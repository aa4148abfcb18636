import BofWebRpc.Library.Regex
import Mathlib.Data.List.Basic
import Mathlib.Tactic.NormNum

/-!
# The Content-Range header

`BofWebApp::S_ParseContentRangeRequest` matches a whole string against the regular
expression `bytes (\d+)-(\d+)/(\d+)` and converts the three groups with
`std::stoul`; the transfers write the header with
`snprintf(.., "bytes %zu-%zu/%zu", ..)` into a buffer of `0x100` characters.
`size_t` and `unsigned long` have 64 bits.

## What is proved

* `parseContentRangeRequest_format` — the parser reads back what the transfers
  write, for every three `size_t` values.
* `matchContentRange_iff_regexMatch` — reading from the left finds what the search for the
  regular expression finds.
* `parseContentRangeRequestInto_exact` — what is accepted is exactly the grammar, with values
  below `2 ^ 64`, and the transfers' header is read back.
-/

namespace BofWebRpc.WebApp

/-- The number of values of `size_t`. -/
def sizeMax : ℕ := 2 ^ 64

/-- `x - y` on `size_t`. -/
def sizeSub (x y : ℕ) : ℕ := (x + sizeMax - y) % sizeMax

/-- `x + y` on `size_t`. -/
def sizeAdd (x y : ℕ) : ℕ := (x + y) % sizeMax

/-- The conversion of a `size_t` to `uint32_t`. -/
def toU32 (x : ℕ) : ℕ := x % 2 ^ 32

/-- `bytes `. -/
def bytesUnit : List Char := ['b', 'y', 't', 'e', 's', ' ']

/-! ### Writing -/

/-- `snprintf` into a buffer of `size` characters, the last one for the terminator. -/
def snprintf (size : ℕ) (s : List Char) : List Char := s.take (size - 1)

/-- The text of `"bytes %zu-%zu/%zu"`. -/
def contentRangeText (rangeMin rangeMax dataSize : ℕ) : List Char :=
  bytesUnit ++ (Nat.toDigits 10 rangeMin ++ '-' :: (Nat.toDigits 10 rangeMax ++ '/' :: Nat.toDigits 10 dataSize))

/-- The header the client and the handlers write. -/
def formatContentRange (rangeMin rangeMax dataSize : ℕ) : List Char :=
  snprintf 0x100 (contentRangeText rangeMin rangeMax dataSize)

theorem length_toDigits_le {n : ℕ} (h : n < sizeMax) : (Nat.toDigits 10 n).length ≤ 20 := by
  rw [Nat.length_toDigits_le_iff (by decide) (by decide)]
  exact lt_trans h (by decide)

/-- The text of three `size_t` values and its terminator fit in the buffer. -/
theorem length_contentRangeText_lt {a b n : ℕ} (ha : a < sizeMax) (hb : b < sizeMax) (hn : n < sizeMax) :
    (contentRangeText a b n).length < 0x100 := by
  have h1 := length_toDigits_le ha
  have h2 := length_toDigits_le hb
  have h3 := length_toDigits_le hn
  simp only [contentRangeText, bytesUnit, List.length_append, List.length_cons, List.length_nil]
  omega

/-- The buffer is large enough for three `size_t` values. -/
theorem formatContentRange_eq {a b n : ℕ} (ha : a < sizeMax) (hb : b < sizeMax) (hn : n < sizeMax) :
    formatContentRange a b n = contentRangeText a b n := by
  have hlen := length_contentRangeText_lt ha hb hn
  exact List.take_of_length_le (by omega)

/-! ### Parsing -/

/-- `(\d+)` in front of the character `sep`: the digits, and what follows `sep`. -/
def digitsBefore (sep : Char) (s : List Char) : Option (List Char × List Char) :=
  match s.takeWhile Char.isDigit, s.dropWhile Char.isDigit with
  | [], _ => none
  | _ :: _, [] => none
  | d :: ds, c :: rest => if c = sep then some (d :: ds, rest) else none

/-- `std::regex_match` with `bytes (\d+)-(\d+)/(\d+)`: the three groups. -/
def matchContentRange (s : List Char) : Option (List Char × List Char × List Char) :=
  if bytesUnit <+: s then
    match digitsBefore '-' (s.drop bytesUnit.length) with
    | none => none
    | some (d₁, s) =>
      match digitsBefore '/' s with
      | none => none
      | some (d₂, d₃) => if d₃ ≠ [] ∧ d₃.all Char.isDigit then some (d₁, d₂, d₃) else none
  else none

/-- `std::stoul` on a string of digits; it throws `std::out_of_range` when the value
does not fit in 64 bits. -/
def stoul (digits : List Char) : Option ℕ :=
  if Nat.ofDigitChars 10 digits 0 < sizeMax then some (Nat.ofDigitChars 10 digits 0) else none

/-- `BofWebApp::S_ParseContentRangeRequest`: `RangeMin`, `RangeMax` and `DataSize`, when
it returns true. -/
def parseContentRangeRequest (s : List Char) : Option (ℕ × ℕ × ℕ) :=
  match matchContentRange s with
  | none => none
  | some (d₁, d₂, d₃) =>
    match stoul d₁, stoul d₂, stoul d₃ with
    | some rangeMin, some rangeMax, some dataSize => some (rangeMin, rangeMax, dataSize)
    | _, _, _ => none

/-- A non-empty string of decimal digits. -/
def IsDigits (d : List Char) : Prop := d ≠ [] ∧ ∀ c ∈ d, c.isDigit = true

/-- `s` is `bytes d₁-d₂/d₃`. -/
def IsContentRange (s d₁ d₂ d₃ : List Char) : Prop :=
  IsDigits d₁ ∧ IsDigits d₂ ∧ IsDigits d₃ ∧ s = bytesUnit ++ (d₁ ++ '-' :: (d₂ ++ '/' :: d₃))

theorem digitsBefore_eq_some_iff {sep : Char} (hsep : sep.isDigit = false) (s d rest : List Char) :
    digitsBefore sep s = some (d, rest) ↔ IsDigits d ∧ s = d ++ sep :: rest := by
  constructor
  · intro h
    have hs : s.takeWhile Char.isDigit ++ s.dropWhile Char.isDigit = s := List.takeWhile_append_dropWhile
    simp only [digitsBefore] at h
    split at h
    · cases h
    · cases h
    · next a ds c r htake hdrop =>
      split_ifs at h with hc
      cases h
      refine ⟨⟨List.cons_ne_nil _ _, fun x hx => ?_⟩, ?_⟩
      · rw [← htake] at hx
        exact List.mem_takeWhile_imp hx
      · rw [← hs, htake, hdrop, hc]
  · rintro ⟨⟨hne, hall⟩, rfl⟩
    have htake : (d ++ sep :: rest).takeWhile Char.isDigit = d := by
      rw [List.takeWhile_append_of_pos hall]
      simp [hsep]
    have hdrop : (d ++ sep :: rest).dropWhile Char.isDigit = sep :: rest := by
      rw [List.dropWhile_append_of_pos hall]
      simp [hsep]
    obtain ⟨a, ds, rfl⟩ := List.exists_cons_of_ne_nil hne
    rw [digitsBefore, htake, hdrop]
    simp

theorem matchContentRange_eq_some_iff (s d₁ d₂ d₃ : List Char) :
    matchContentRange s = some (d₁, d₂, d₃) ↔ IsContentRange s d₁ d₂ d₃ := by
  have hdigits : (d₃ ≠ [] ∧ d₃.all Char.isDigit = true) ↔ IsDigits d₃ := by
    rw [IsDigits, List.all_eq_true]
  simp only [matchContentRange]
  constructor
  · intro h
    split_ifs at h with hunit
    obtain ⟨r, rfl⟩ := hunit
    rw [List.drop_left] at h
    split at h
    · cases h
    · next a r₁ h₁ =>
      split at h
      · cases h
      · next b r₂ h₂ =>
        split_ifs at h with h₃
        cases h
        obtain ⟨ha, rfl⟩ := (digitsBefore_eq_some_iff (by decide) ..).mp h₁
        obtain ⟨hb, rfl⟩ := (digitsBefore_eq_some_iff (by decide) ..).mp h₂
        exact ⟨ha, hb, hdigits.mp h₃, rfl⟩
  · rintro ⟨h₁, h₂, h₃, rfl⟩
    rw [if_pos (List.prefix_append _ _), List.drop_left]
    rw [(digitsBefore_eq_some_iff (by decide) _ d₁ _).mpr ⟨h₁, rfl⟩]
    simp only
    rw [(digitsBefore_eq_some_iff (by decide) _ d₂ d₃).mpr ⟨h₂, rfl⟩]
    simp only
    rw [if_pos (hdigits.mpr h₃)]

theorem stoul_eq_some_iff (d : List Char) (n : ℕ) :
    stoul d = some n ↔ Nat.ofDigitChars 10 d 0 = n ∧ n < sizeMax := by
  simp only [stoul]
  split_ifs with h
  · rw [Option.some.injEq]
    exact ⟨fun he => ⟨he, he ▸ h⟩, fun he => he.1⟩
  · simp only [false_iff, not_and]
    exact fun he hn => h (he ▸ hn)

/-- The numbers of a header that is accepted. -/
theorem parseContentRangeRequest_eq_some_iff (s : List Char) (a b n : ℕ) :
    parseContentRangeRequest s = some (a, b, n) ↔
      ∃ d₁ d₂ d₃, IsContentRange s d₁ d₂ d₃ ∧ (Nat.ofDigitChars 10 d₁ 0 = a ∧ a < sizeMax) ∧
        (Nat.ofDigitChars 10 d₂ 0 = b ∧ b < sizeMax) ∧ (Nat.ofDigitChars 10 d₃ 0 = n ∧ n < sizeMax) := by
  simp only [← stoul_eq_some_iff, ← matchContentRange_eq_some_iff]
  rw [parseContentRangeRequest]
  cases hm : matchContentRange s with
  | none => simp
  | some g =>
    obtain ⟨d₁, d₂, d₃⟩ := g
    constructor
    · intro h
      refine ⟨d₁, d₂, d₃, rfl, ?_⟩
      cases h₁ : stoul d₁ <;> cases h₂ : stoul d₂ <;> cases h₃ : stoul d₃ <;> simp_all
    · rintro ⟨e₁, e₂, e₃, he, h₁, h₂, h₃⟩
      cases he
      simp only [h₁, h₂, h₃]

theorem isDigits_toDigits (n : ℕ) : IsDigits (Nat.toDigits 10 n) :=
  ⟨Nat.toDigits_ne_nil, fun _ hc => Nat.isDigit_of_mem_toDigits (by decide) (by decide) hc⟩

/-- **The parser reads back what the transfers write.** -/
theorem parseContentRangeRequest_format {a b n : ℕ} (ha : a < sizeMax) (hb : b < sizeMax) (hn : n < sizeMax) :
    parseContentRangeRequest (formatContentRange a b n) = some (a, b, n) := by
  rw [formatContentRange_eq ha hb hn, parseContentRangeRequest_eq_some_iff]
  exact ⟨_, _, _, ⟨isDigits_toDigits a, isDigits_toDigits b, isDigits_toDigits n, rfl⟩,
    ⟨by simp, ha⟩, ⟨by simp, hb⟩, ⟨by simp, hn⟩⟩

/-- What the parser accepts fits in `size_t`. -/
theorem parseContentRangeRequest_lt {s : List Char} {a b n : ℕ}
    (h : parseContentRangeRequest s = some (a, b, n)) : a < sizeMax ∧ b < sizeMax ∧ n < sizeMax := by
  obtain ⟨_, _, _, -, ⟨-, ha⟩, ⟨-, hb⟩, -, hn⟩ := (parseContentRangeRequest_eq_some_iff s a b n).mp h
  exact ⟨ha, hb, hn⟩

/-! ### The regular expression -/

/-- `bytes (\d+)-(\d+)/(\d+)`. -/
def regExContentRange : List (Regex.Item Char) :=
  bytesUnit.map Regex.char ++
    [Regex.plus Char.isDigit, Regex.char '-', Regex.plus Char.isDigit, Regex.char '/', Regex.plus Char.isDigit]

theorem determined_regExContentRange : Regex.Determined regExContentRange := by
  have stops : ∀ {c : Char}, c.isDigit = false →
      ∀ a, (Regex.char c).accepts a = true → (Regex.plus Char.isDigit).accepts a = false := by
    intro c hc a ha
    rw [of_decide_eq_true ha]
    exact hc
  apply Regex.Determined.word_append
  refine .stopped (stops (by decide)) Nat.one_pos (.single rfl ?_)
  refine .stopped (stops (by decide)) Nat.one_pos (.single rfl ?_)
  exact .last (by simp) .nil

/-- The groups of a match are the three strings of digits. -/
theorem regexMatch_regExContentRange_iff (s : List Char) (m : List (List Char)) :
    Regex.regexMatch regExContentRange s = some m ↔ ∃ d₁ d₂ d₃, IsContentRange s d₁ d₂ d₃ ∧ m = [s, d₁, d₂, d₃] := by
  rw [Regex.regexMatch_eq_some_iff determined_regExContentRange]
  constructor
  · rintro ⟨ts, h, rfl⟩
    obtain ⟨_, _, ha, rfl, rfl⟩ := (Regex.matches_word_append_iff ..).mp h
    obtain ⟨d₁, _, _, h₁, hb, rfl, rfl⟩ := (Regex.matches_cons_iff ..).mp ha
    obtain ⟨_, _, hc, rfl, rfl⟩ := (Regex.matches_char_cons_iff ..).mp hb
    obtain ⟨d₂, _, _, h₂, hd, rfl, rfl⟩ := (Regex.matches_cons_iff ..).mp hc
    obtain ⟨_, _, he, rfl, rfl⟩ := (Regex.matches_char_cons_iff ..).mp hd
    obtain ⟨d₃, _, _, h₃, hf, rfl, rfl⟩ := (Regex.matches_cons_iff ..).mp he
    obtain ⟨rfl, rfl⟩ := (Regex.matches_nil_iff ..).mp hf
    rw [Regex.takes_plus_iff] at h₁ h₂ h₃
    refine ⟨d₁, d₂, d₃, ⟨h₁, h₂, h₃, by rw [List.append_nil]⟩, ?_⟩
    rw [regExContentRange, Regex.groups_word_append]
    rfl
  · rintro ⟨d₁, d₂, d₃, ⟨h₁, h₂, h₃, rfl⟩, rfl⟩
    refine ⟨bytesUnit.map (fun c => [c]) ++ [d₁, ['-'], d₂, ['/'], d₃], ?_, ?_⟩
    · refine (Regex.matches_word_append_iff ..).mpr ⟨_, _, ?_, rfl, rfl⟩
      refine .cons ((Regex.takes_plus_iff ..).mpr h₁) ((Regex.matches_char_cons_iff ..).mpr ⟨_, _, ?_, rfl, rfl⟩)
      refine .cons ((Regex.takes_plus_iff ..).mpr h₂) ((Regex.matches_char_cons_iff ..).mpr ⟨_, _, ?_, rfl, rfl⟩)
      refine (Regex.matches_cons_iff ..).mpr ⟨d₃, [], [], (Regex.takes_plus_iff ..).mpr h₃, .nil, ?_, rfl⟩
      rw [List.append_nil]
    · rw [regExContentRange, Regex.groups_word_append]
      rfl

/-- Reading from the left finds what the search finds. -/
theorem matchContentRange_iff_regexMatch (s d₁ d₂ d₃ : List Char) :
    matchContentRange s = some (d₁, d₂, d₃) ↔ Regex.regexMatch regExContentRange s = some [s, d₁, d₂, d₃] := by
  rw [matchContentRange_eq_some_iff, regexMatch_regExContentRange_iff]
  constructor
  · exact fun h => ⟨d₁, d₂, d₃, h, rfl⟩
  · rintro ⟨e₁, e₂, e₃, h, heq⟩
    cases heq
    exact h

/-! ### The references of the caller -/

/-- `BofWebApp::S_ParseContentRangeRequest`: what it returns, and the three variables of the
caller, which it assigns one after the other. -/
def parseContentRangeRequestInto (s : List Char) (rangeMin rangeMax dataSize : ℕ) : Bool × ℕ × ℕ × ℕ :=
  match Regex.regexMatch regExContentRange s with
  | some [_, d₁, d₂, d₃] =>
    match stoul d₁ with
    | none => (false, rangeMin, rangeMax, dataSize)
    | some rangeMin =>
      match stoul d₂ with
      | none => (false, rangeMin, rangeMax, dataSize)
      | some rangeMax =>
        match stoul d₃ with
        | none => (false, rangeMin, rangeMax, dataSize)
        | some dataSize => (true, rangeMin, rangeMax, dataSize)
  | _ => (false, rangeMin, rangeMax, dataSize)

/-- The transfers, which use the variables only when it returns true, read the numbers of
`parseContentRangeRequest`. -/
theorem parseContentRangeRequestInto_eq_true_iff (s : List Char) (v₁ v₂ v₃ a b n : ℕ) :
    parseContentRangeRequestInto s v₁ v₂ v₃ = (true, a, b, n) ↔ parseContentRangeRequest s = some (a, b, n) := by
  rw [parseContentRangeRequest]
  cases hm : matchContentRange s with
  | none =>
    have hregex : ∀ d₁ d₂ d₃, Regex.regexMatch regExContentRange s ≠ some [s, d₁, d₂, d₃] := by
      intro d₁ d₂ d₃ h
      rw [(matchContentRange_iff_regexMatch s d₁ d₂ d₃).mpr h] at hm
      cases hm
    have hnone : Regex.regexMatch regExContentRange s = none := by
      rw [Option.eq_none_iff_forall_ne_some]
      intro m h
      obtain ⟨d₁, d₂, d₃, -, rfl⟩ := (regexMatch_regExContentRange_iff s m).mp h
      exact hregex d₁ d₂ d₃ h
    simp [parseContentRangeRequestInto, hnone]
  | some g =>
    obtain ⟨d₁, d₂, d₃⟩ := g
    rw [parseContentRangeRequestInto, (matchContentRange_iff_regexMatch s d₁ d₂ d₃).mp hm]
    cases h₁ : stoul d₁ <;> cases h₂ : stoul d₂ <;> cases h₃ : stoul d₃ <;> simp [h₁, h₂, h₃]

/-- **The parser is exact**: it returns true on `bytes d₁-d₂/d₃` with values below `2 ^ 64`
and on nothing else, the three variables are then these values, and it reads back the
header that the transfers write, which fits in their buffer. -/
theorem parseContentRangeRequestInto_exact :
    (∀ (s : List Char) (v₁ v₂ v₃ a b n : ℕ),
      parseContentRangeRequestInto s v₁ v₂ v₃ = (true, a, b, n) ↔
        ∃ d₁ d₂ d₃, IsContentRange s d₁ d₂ d₃ ∧ (Nat.ofDigitChars 10 d₁ 0 = a ∧ a < 2 ^ 64) ∧
          (Nat.ofDigitChars 10 d₂ 0 = b ∧ b < 2 ^ 64) ∧ (Nat.ofDigitChars 10 d₃ 0 = n ∧ n < 2 ^ 64)) ∧
      ∀ (v₁ v₂ v₃ : ℕ) (a b n : Fin (2 ^ 64)),
        (contentRangeText a b n).length < 0x100 ∧
          parseContentRangeRequestInto (formatContentRange a b n) v₁ v₂ v₃ = (true, a.val, b.val, n.val) := by
  refine ⟨fun s v₁ v₂ v₃ a b n => ?_, fun v₁ v₂ v₃ a b n => ⟨?_, ?_⟩⟩
  · rw [parseContentRangeRequestInto_eq_true_iff, parseContentRangeRequest_eq_some_iff]
    rfl
  · exact length_contentRangeText_lt a.isLt b.isLt n.isLt
  · rw [parseContentRangeRequestInto_eq_true_iff]
    exact parseContentRangeRequest_format a.isLt b.isLt n.isLt

example : parseContentRangeRequest (formatContentRange 0 65535 196618876) = some (0, 65535, 196618876) := by
  decide

end BofWebRpc.WebApp
