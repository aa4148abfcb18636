import BofWebRpc.Library.Runs
import BofWebRpc.Library.Tiling
import BofWebRpc.WebApp.Http
import Mathlib.Data.Option.Basic

/-!
# Downloading in chunks

`BofWebClient::Download` asks for the file in chunks: each request names the range
it wants in a `Content-Range` header, and the answers are written to the local
file one after the other.

## The model

The loop is `downloadIteration`, one turn of `while (1)`, over the variables
`RangeMin`, `RangeMax` and `DataSize` and the local file. The server is arbitrary:
an iteration is given whatever came back. `accepted` is history: the ranges and
bodies of the responses the loop accepted.

## What is proved

* `downloadIteration_cases` — what one iteration can do.
* `download_sound_iff` — when `Download` tells the truth. It is decided by the
  response with status 200 that ends the transfer: `RangeMin` and `RangeMax` are
  rewritten for the next request before the final test reads them, so that the
  test passes one chunk early, and the last chunk starts at the last byte that is
  already there. Only a transfer of a single request ends as it says.
-/

namespace BofWebRpc.WebApp

open Runs Tiling

/-- The variables of `Download`. -/
@[ext]
structure DownloadState where
  /-- `RangeMin`, of the next request. -/
  rangeMin : ℕ
  /-- `RangeMax`, of the next request. -/
  rangeMax : ℕ
  /-- `DataSize`, `0` until a response has announced it. -/
  dataSize : ℕ
  /-- The local file. -/
  io : List UInt8
  /-- History: the responses accepted. -/
  accepted : List (Block UInt8)
  deriving DecidableEq

/-- Before the loop; `_ChunkSizeInByte_U32 - 1` is computed on `uint32_t`. -/
def DownloadState.start (chunkSizeInByte : ℕ) : DownloadState :=
  { rangeMin := 0, rangeMax := toU32 (chunkSizeInByte + (2 ^ 32 - 1)), dataSize := 0, io := [], accepted := [] }

/-- The `Content-Range` of the next request. -/
def DownloadState.header (s : DownloadState) : List Char :=
  formatContentRange s.rangeMin s.rangeMax s.dataSize

/-- `if (DataSize == 0) { .. }`: the first response with control data announces the
size, and shortens the range when it reaches the end. -/
def DownloadState.controlData (s : DownloadState) (newRangeMax newDataSize : ℕ) : DownloadState :=
  if s.dataSize = 0 then
    { s with
      dataSize := newDataSize
      rangeMax := if newDataSize ≤ sizeAdd newRangeMax 1 then sizeSub newDataSize 1 else s.rangeMax }
  else s

/-- After `fwrite`: the chunk is in the file and the ranges are those of the next
request. -/
def DownloadState.advance (s : DownloadState) (newRangeMax : ℕ) (body : List UInt8) : DownloadState :=
  let rangeMin := sizeAdd s.rangeMax 1
  let rangeMax := sizeSub (sizeAdd rangeMin body.length) 1
  let last := sizeSub s.dataSize 1 ≤ rangeMax
  { s with
    -- the last chunk: `RangeMin = NewRangeMax`
    rangeMin := if last then newRangeMax else rangeMin
    rangeMax := if last then sizeSub s.dataSize 1 else rangeMax
    io := s.io ++ body
    accepted := s.accepted ++ [⟨s.rangeMin, s.rangeMax, body⟩] }

/-- The tests of one turn, in the order of the source, up to `fwrite`: the response and
its control data `NewRangeMin`, `NewRangeMax`, `NewDataSize` when all are passed. -/
def DownloadState.check (s : DownloadState) (e : Exchange) : Option (Response × ℕ × ℕ × ℕ) := do
  let res ← e.res
  guard (res.status = 200 ∨ res.status = 206)
  guard (res.body.length ≠ 0)
  let (newRangeMin, newRangeMax, newDataSize) ← parseContentRangeRequest res.contentRange
  guard (newDataSize ≠ 0)
  let s := s.controlData newRangeMax newDataSize
  guard (s.rangeMin = newRangeMin ∧ s.rangeMax = newRangeMax ∧ s.dataSize = newDataSize)
  -- `ChunkSize_U32` keeps the low 32 bits of the size of the range
  guard (toU32 (sizeAdd (sizeSub s.rangeMax s.rangeMin) 1) = res.body.length)
  guard (e.io = true)
  return (res, newRangeMin, newRangeMax, newDataSize)

/-- One turn of the loop: every test that fails is a `break`. -/
def downloadIteration (s : DownloadState) (e : Exchange) : Outcome DownloadState Bool :=
  match s.check e with
  | none => .leave false s
  | some (res, _, newRangeMax, newDataSize) =>
    let s := (s.controlData newRangeMax newDataSize).advance newRangeMax res.body
    if res.status = 200 then .leave (decide (sizeSub s.dataSize 1 ≤ s.rangeMax)) s
    else .next s

/-- `BofWebClient::Download`, with an HTTP client or not (`connected`), the local file
opened for writing or not (`opened`), against the answers `es`. -/
def download (connected opened : Bool) (chunkSizeInByte : ℕ) (es : List Exchange) : Outcome DownloadState Bool :=
  if connected && opened then loop downloadIteration (.start chunkSizeInByte) es
  else .leave false (.start chunkSizeInByte)

/-! ### What one iteration can do -/

/-- In state `s` the loop accepts the response `res`, which announces `a-b/n`. -/
structure Accepts (s : DownloadState) (e : Exchange) (res : Response) (a b n : ℕ) : Prop where
  res_eq : e.res = some res
  status : res.status = 200 ∨ res.status = 206
  body : res.body ≠ []
  header : parseContentRangeRequest res.contentRange = some (a, b, n)
  size : n ≠ 0
  rangeMin : s.rangeMin = a
  rangeMax : (s.controlData b n).rangeMax = b
  dataSize : (s.controlData b n).dataSize = n
  chunk : toU32 (sizeAdd (sizeSub b a) 1) = res.body.length
  io : e.io = true

@[simp] theorem controlData_rangeMin (s : DownloadState) (b n : ℕ) : (s.controlData b n).rangeMin = s.rangeMin := by
  unfold DownloadState.controlData; split <;> rfl

@[simp] theorem controlData_io (s : DownloadState) (b n : ℕ) : (s.controlData b n).io = s.io := by
  unfold DownloadState.controlData; split <;> rfl

@[simp] theorem controlData_accepted (s : DownloadState) (b n : ℕ) :
    (s.controlData b n).accepted = s.accepted := by
  unfold DownloadState.controlData; split <;> rfl

theorem check_eq_some_iff (s : DownloadState) (e : Exchange) (res : Response) (a b n : ℕ) :
    s.check e = some (res, a, b, n) ↔ Accepts s e res a b n := by
  simp only [DownloadState.check, bind, Option.bind_eq_some_iff, Option.guard_eq_some', pure,
    Option.some.injEq, Prod.mk.injEq, Prod.exists, exists_const]
  constructor
  · rintro ⟨res', hres, hst, hb, a', b', n', hp, hn, ⟨h₁, h₂, h₃⟩, hc, hio, rfl, rfl, rfl, rfl⟩
    rw [h₁, h₂] at hc
    exact ⟨hres, hst, fun h => hb (by rw [h]; rfl), hp, hn, by simpa using h₁, h₂, h₃, hc, hio⟩
  · intro h
    refine ⟨res, h.res_eq, h.status, fun hb => h.body (List.length_eq_zero_iff.mp hb), a, b, n, h.header, h.size,
      ⟨by simpa using h.rangeMin, h.rangeMax, h.dataSize⟩, ?_, h.io, rfl, rfl, rfl, rfl⟩
    rw [h.rangeMax, controlData_rangeMin, h.rangeMin]
    exact h.chunk

/-- **One iteration**: it leaves with `false`, or it accepts a response, and then goes
round after a 206 and leaves with the final test after a 200. -/
theorem downloadIteration_cases (s : DownloadState) (e : Exchange) :
    (downloadIteration s e = .leave false s ∧ ∀ res a b n, ¬ Accepts s e res a b n) ∨
    ∃ res a b n, Accepts s e res a b n ∧
      downloadIteration s e =
        if res.status = 200 then
          .leave (decide (sizeSub n 1 ≤ ((s.controlData b n).advance b res.body).rangeMax))
            ((s.controlData b n).advance b res.body)
        else .next ((s.controlData b n).advance b res.body) := by
  unfold downloadIteration
  cases hc : s.check e with
  | none =>
    refine .inl ⟨rfl, fun res a b n h => ?_⟩
    rw [(check_eq_some_iff s e res a b n).mpr h] at hc
    cases hc
  | some p =>
    obtain ⟨res, a, b, n⟩ := p
    have h := (check_eq_some_iff s e res a b n).mp hc
    refine .inr ⟨res, a, b, n, h, ?_⟩
    simp only [DownloadState.advance, h.dataSize]

theorem Accepts.unique {s : DownloadState} {e : Exchange} {res res' : Response} {a b n a' b' n' : ℕ}
    (h : Accepts s e res a b n) (h' : Accepts s e res' a' b' n') : res = res' ∧ a = a' ∧ b = b' ∧ n = n' := by
  cases h.res_eq.symm.trans h'.res_eq
  cases h.header.symm.trans h'.header
  exact ⟨rfl, rfl, rfl, rfl⟩

/-! ### The ranges of the next request -/

/-- What `Download` relies on from one request to the next: nothing has been received
yet, or the next request starts after the last block received, or (the last chunk) on
its last byte. -/
def RangesOk (s : DownloadState) : Prop :=
  (s.dataSize = 0 ∧ s.accepted = [] ∧ s.rangeMin = 0 ∧ s.rangeMax < 2 ^ 32) ∨
  (0 < s.dataSize ∧ s.dataSize < sizeMax ∧ ∃ bs b, s.accepted = bs ++ [b] ∧
    ((s.rangeMin = b.last + 1 ∧ s.rangeMax < s.dataSize - 1) ∨
      (s.rangeMin = b.last ∧ s.rangeMax = s.dataSize - 1)))

theorem rangesOk_start (chunkSizeInByte : ℕ) : RangesOk (.start chunkSizeInByte) :=
  .inl ⟨rfl, rfl, rfl, Nat.mod_lt _ (by decide)⟩

/-- The accepted range ends inside the file. -/
theorem Accepts.last_lt {s : DownloadState} {e : Exchange} {res : Response} {a b n : ℕ} (h : Accepts s e res a b n)
    (hs : RangesOk s) : b + 1 < sizeMax := by
  have hb := h.rangeMax
  have hd := h.dataSize
  have hlt := (parseContentRangeRequest_lt h.header).2.2
  have hn := h.size
  unfold DownloadState.controlData at hb hd
  unfold sizeMax at hlt ⊢
  rcases hs with ⟨h₀, -, -, h₁⟩ | ⟨h₀, -, _, _, -, h₁⟩
  · rw [if_pos h₀] at hb
    change (if n ≤ sizeAdd b 1 then sizeSub n 1 else s.rangeMax) = b at hb
    unfold sizeSub sizeMax at hb
    split_ifs at hb <;> omega
  · rw [if_neg (by omega)] at hb hd
    omega

/-- `RangeMax` after the chunk `a-b` of `len` bytes. -/
theorem advance_rangeMax {s : DownloadState} {b n len : ℕ} {body : List UInt8} (hb : s.rangeMax = b)
    (hn : s.dataSize = n) (hlen : body.length = len) (h₀ : n ≠ 0) (hlt : n < sizeMax) :
    (s.advance b body).rangeMax = if n - 1 ≤ sizeAdd b len then n - 1 else sizeAdd b len := by
  have h₁ : sizeSub n 1 = n - 1 := by unfold sizeSub sizeMax at *; omega
  have h₂ : sizeSub (sizeAdd (sizeAdd b 1) len) 1 = sizeAdd b len := by unfold sizeSub sizeAdd sizeMax; omega
  simp only [DownloadState.advance, hb, hn, hlen, h₁, h₂]

/-- Accepting a response keeps the ranges as `RangesOk` says. -/
theorem RangesOk.advance {s : DownloadState} {e : Exchange} {res : Response} {a b n : ℕ} (hs : RangesOk s)
    (h : Accepts s e res a b n) : RangesOk ((s.controlData b n).advance b res.body) := by
  have hlt := (parseContentRangeRequest_lt h.header).2.2
  have hb := h.last_lt hs
  have h₁ : sizeSub n 1 = n - 1 := by have := h.size; unfold sizeSub sizeMax at *; omega
  have h₂ : sizeAdd b 1 = b + 1 := by unfold sizeAdd; exact Nat.mod_eq_of_lt hb
  refine .inr ⟨?_, ?_, s.accepted, ⟨a, b, res.body⟩, ?_, ?_⟩
  · simpa [DownloadState.advance, h.dataSize] using Nat.pos_of_ne_zero h.size
  · simpa [DownloadState.advance, h.dataSize] using hlt
  · simp [DownloadState.advance, h.rangeMin, h.rangeMax]
  · simp only [DownloadState.advance, h.rangeMax, h.dataSize, h₁, h₂]
    split_ifs with hl
    · exact .inr ⟨rfl, rfl⟩
    · exact .inl ⟨rfl, not_le.mp hl⟩

/-! ### When `Download` tells the truth -/

/-- The local file is the announced data: at least one byte, and the bodies of accepted
responses whose ranges follow each other from the first byte to the last. -/
def DownloadState.Complete (s : DownloadState) : Prop :=
  1 ≤ s.dataSize ∧ Tiles 0 s.dataSize s.accepted ∧ s.io = contents s.accepted ∧ s.io.length = s.dataSize

/-- If `Download` returns true then the local file is the announced data. -/
def DownloadSound (connected opened : Bool) (chunkSizeInByte : ℕ) (es : List Exchange) : Prop :=
  ∀ s, download connected opened chunkSizeInByte es = .leave true s → s.Complete

/-- A response with status 200 that the loop accepts is the first one, for the whole of
fewer than `2^32` bytes; or the range one chunk further does not reach the end either,
so that the final test fails. -/
def WholeOrShort (s : DownloadState) (e : Exchange) : Prop :=
  ∀ res a b n, Accepts s e res a b n → res.status = 200 →
    (s.dataSize = 0 ∧ a = 0 ∧ b = n - 1 ∧ n < 2 ^ 32) ∨ sizeAdd b res.body.length < n - 1

/-- The block a final response adds completes the file exactly when it is the whole file. -/
theorem complete_advance_iff {s : DownloadState} {e : Exchange} {res : Response} {a b n : ℕ} (hs : RangesOk s)
    (hio : s.io = contents s.accepted) (h : Accepts s e res a b n) :
    ((s.controlData b n).advance b res.body).Complete ↔ s.dataSize = 0 ∧ a = 0 ∧ b = n - 1 ∧ n < 2 ^ 32 := by
  have hacc : ((s.controlData b n).advance b res.body).accepted = s.accepted ++ [⟨a, b, res.body⟩] := by
    simp [DownloadState.advance, h.rangeMin, h.rangeMax]
  have hD : ((s.controlData b n).advance b res.body).dataSize = n := by simp [DownloadState.advance, h.dataSize]
  have hc := h.chunk
  have hb := h.last_lt hs
  have hn := h.size
  simp only [sizeSub, sizeAdd, toU32] at hc
  constructor
  · rintro ⟨-, ht, -, -⟩
    rw [hacc, hD, tiles_concat] at ht
    obtain ⟨ht, hab, hlen, hbn⟩ := ht
    simp only at hab hlen hbn
    rcases hs with ⟨h₀, -, hmin, -⟩ | ⟨h₀, -, bs, b₀, hbs, hr⟩
    · -- the first response: its block is the whole file
      have ha : a = 0 := h.rangeMin.symm.trans hmin
      refine ⟨h₀, ha, by omega, ?_⟩
      have : res.body.length < 2 ^ 32 := by omega
      omega
    · -- a later one: the next request never was the block after the last
      exfalso
      have hlast : b₀.last + 1 = a := by
        simp only [hbs, tiles_concat] at ht
        exact ht.2.2.2
      have hmin := h.rangeMin
      have hmax := h.rangeMax
      have hd := h.dataSize
      unfold DownloadState.controlData at hmax hd
      rw [if_neg (by omega)] at hmax hd
      omega
  · rintro ⟨h₀, rfl, rfl, h32⟩
    rcases hs with ⟨-, hacc₀, hmin, -⟩ | ⟨h₀', -⟩
    · have hlen : res.body.length = n := by unfold sizeMax at *; omega
      have hio' : ((s.controlData (n - 1) n).advance (n - 1) res.body).io =
          contents (s.accepted ++ [⟨0, n - 1, res.body⟩]) := by
        simp [DownloadState.advance, hio]
      have ht : Tiles 0 n (s.accepted ++ [⟨0, n - 1, res.body⟩]) := by
        rw [hacc₀, List.nil_append]
        exact ⟨rfl, Nat.zero_le _, by simp only; omega, show n - 1 + 1 = n by omega⟩
      refine ⟨by rw [hD]; omega, by rw [hacc, hD]; exact ht, by rw [hacc]; exact hio', ?_⟩
      rw [hio', ht.length_contents, hD, Nat.sub_zero]
    · omega

/-- From any state between two requests: the transfer ends with the truth exactly when
every response it ends on is the whole file, or too short. -/
theorem loop_sound_iff : ∀ (es : List Exchange) (s : DownloadState), RangesOk s → s.io = contents s.accepted →
    ((∀ s', loop downloadIteration s es = .leave true s' → s'.Complete) ↔
      Along downloadIteration WholeOrShort s es) := by
  intro es
  induction es with
  | nil => intro s _ _; simp [loop, Along]
  | cons e es ih =>
    intro s hs hio
    rcases downloadIteration_cases s e with ⟨hb, hno⟩ | ⟨res, a, b, n, h, hb⟩
    · have hw : WholeOrShort s e := fun res a b n h => absurd h (hno res a b n)
      simp [loop, Along, hb, hw]
    · have hlt := (parseContentRangeRequest_lt h.header).2.2
      by_cases hst : res.status = 200
      · rw [if_pos hst] at hb
        have hn1 : sizeSub n 1 = n - 1 := by have := h.size; unfold sizeSub sizeMax at *; omega
        have htest : sizeSub n 1 ≤ ((s.controlData b n).advance b res.body).rangeMax ↔
            ¬ sizeAdd b res.body.length < n - 1 := by
          rw [hn1, advance_rangeMax h.rangeMax h.dataSize rfl h.size hlt]
          split_ifs <;> omega
        have hw : WholeOrShort s e ↔
            (s.dataSize = 0 ∧ a = 0 ∧ b = n - 1 ∧ n < 2 ^ 32) ∨ sizeAdd b res.body.length < n - 1 := by
          refine ⟨fun hw => hw res a b n h hst, fun hw res' a' b' n' h' _ => ?_⟩
          obtain ⟨rfl, rfl, rfl, rfl⟩ := h.unique h'
          exact hw
        simp only [loop, Along, hb, Outcome.leave.injEq, decide_eq_true_eq, htest, and_true, hw,
          ← complete_advance_iff hs hio h]
        constructor
        · intro hsound
          exact or_iff_not_imp_right.mpr fun hlate => hsound _ ⟨hlate, rfl⟩
        · rintro hor s' ⟨hlate, rfl⟩
          exact hor.resolve_right hlate
      · rw [if_neg hst] at hb
        have hw : WholeOrShort s e := by
          intro res' a' b' n' h' hst'
          obtain ⟨rfl, -⟩ := h.unique h'
          exact absurd hst' hst
        have hio' : ((s.controlData b n).advance b res.body).io =
            contents ((s.controlData b n).advance b res.body).accepted := by
          simp [DownloadState.advance, hio]
        simp only [loop, Along, hb, hw, true_and]
        exact ih _ (hs.advance h) hio'

/-- **When `Download` tells the truth**, for every chunk size and every finite sequence
of answers: exactly when each response with status 200 that it accepts is the first
one and announces the whole of fewer than `2^32` bytes, or ends more than one chunk
before the last byte. -/
theorem download_sound_iff (connected opened : Bool) (chunkSizeInByte : ℕ) (es : List Exchange) :
    DownloadSound connected opened chunkSizeInByte es ↔
      (connected && opened) = true → Along downloadIteration WholeOrShort (.start chunkSizeInByte) es := by
  unfold DownloadSound download
  split_ifs with hc
  · simpa only [hc, true_imp_iff] using loop_sound_iff es _ (rangesOk_start chunkSizeInByte) rfl
  · exact ⟨fun _ h => absurd h hc, fun _ _ h => by cases h⟩

/-- A server that answers the first request for 6 of 10 bytes with status 200. -/
theorem not_downloadSound_early_ok :
    ¬ DownloadSound true true 6 [⟨some ⟨200, formatContentRange 0 5 10, [1, 2, 3, 4, 5, 6]⟩, true⟩] := by
  intro h
  have hc := h ⟨5, 9, 10, [1, 2, 3, 4, 5, 6], [⟨0, 5, [1, 2, 3, 4, 5, 6]⟩]⟩ (by decide +kernel)
  exact absurd hc.2.2.2 (by decide)

end BofWebRpc.WebApp
