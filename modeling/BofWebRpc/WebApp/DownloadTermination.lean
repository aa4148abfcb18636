import BofWebRpc.WebApp.Download
import Mathlib.Logic.Function.Iterate

/-!
# Downloads that do not end

Nothing but an answer that is not as expected ends the loop of `Download`: after the last byte
`RangeMin` is set back to it, and the same request is made again and again, as long as the server
answers it with status 206.

## The model

The server is an infinite sequence of answers. `asked` is the sequence of the ranges that `Download`
asks for; it depends on the chunk size and on what the first answer announces.

## What is proved

* `nextRange_last` — after the last byte, the last byte is asked for again.
* `download_ends_iff` — `Download` ends within as many requests as there are bytes exactly when one of
  the answers to them does not give what was asked for with status 206.
-/

namespace BofWebRpc.WebApp

open Runs

/-! ### The requests -/

/-- The first range, once the answer has announced that its own ends at `newRangeMax`, of `dataSize` bytes. -/
def firstRange (chunkSizeInByte newRangeMax dataSize : ℕ) : ℕ × ℕ :=
  (0, if dataSize ≤ sizeAdd newRangeMax 1 then sizeSub dataSize 1 else toU32 (chunkSizeInByte + (2 ^ 32 - 1)))

/-- `ChunkSize_U32`, the size of a range. -/
def chunkSize (r : ℕ × ℕ) : ℕ := toU32 (sizeAdd (sizeSub r.2 r.1) 1)

/-- The range after the range `r`. -/
def nextRange (dataSize : ℕ) (r : ℕ × ℕ) : ℕ × ℕ :=
  let rangeMin := sizeAdd r.2 1
  let rangeMax := sizeSub (sizeAdd rangeMin (chunkSize r)) 1
  if sizeSub dataSize 1 ≤ rangeMax then (r.2, sizeSub dataSize 1) else (rangeMin, rangeMax)

/-- The range that is asked for after `k` answers. -/
def asked (chunkSizeInByte newRangeMax dataSize k : ℕ) : ℕ × ℕ :=
  (nextRange dataSize)^[k] (firstRange chunkSizeInByte newRangeMax dataSize)

/-- After the last byte, the last byte is asked for again. -/
theorem nextRange_last {dataSize : ℕ} (h₀ : dataSize ≠ 0) (h : dataSize < sizeMax) :
    nextRange dataSize (dataSize - 1, dataSize - 1) = (dataSize - 1, dataSize - 1) := by
  have hlast : sizeSub dataSize 1 = dataSize - 1 := by unfold sizeSub sizeMax at *; omega
  have hone : chunkSize (dataSize - 1, dataSize - 1) = 1 := by
    simp [chunkSize, toU32, sizeAdd, sizeSub, sizeMax]
  have hmax : sizeSub (sizeAdd (sizeAdd (dataSize - 1) 1) 1) 1 = dataSize := by
    unfold sizeSub sizeAdd sizeMax at *
    omega
  simp only [nextRange, hone, hmax, hlast]
  exact if_pos (Nat.sub_le _ _)

/-! ### The answers -/

/-- The control data of an answer. -/
def Exchange.announced (e : Exchange) : Option (ℕ × ℕ × ℕ) :=
  e.res.bind fun res => parseContentRangeRequest res.contentRange

/-- The range `r` of `dataSize` bytes is given with status 206, and can be written. -/
def Exchange.Obliges (e : Exchange) (dataSize : ℕ) (r : ℕ × ℕ) : Prop :=
  ∃ res ∈ e.res, res.status = 206 ∧ parseContentRangeRequest res.contentRange = some (r.1, r.2, dataSize) ∧
    res.body ≠ [] ∧ res.body.length = chunkSize r ∧ e.io = true

/-- `Download` has ended after at most `n` of the answers. -/
def DownloadEnds (connected opened : Bool) (chunkSizeInByte : ℕ) (es : ℕ → Exchange) (n : ℕ) : Prop :=
  ∃ k ≤ n, ∃ r s, download connected opened chunkSizeInByte ((List.range k).map es) = .leave r s

/-! ### One iteration -/

/-- The state in which the range `r` is asked for, or turns out to have been when the answer `e` announces the
size. -/
structure Asks (s : DownloadState) (e : Exchange) (dataSize : ℕ) (r : ℕ × ℕ) : Prop where
  rangeMin : s.rangeMin = r.1
  rangeMax : ∀ a b n, e.announced = some (a, b, n) → (s.controlData b n).rangeMax = r.2
  dataSize : ∀ a b n, e.announced = some (a, b, n) → (s.controlData b n).dataSize = dataSize

/-- An answer is accepted, and does not end the loop, exactly when it obliges. -/
theorem obliges_iff {s : DownloadState} {e : Exchange} {dataSize : ℕ} {r : ℕ × ℕ} (hs : Asks s e dataSize r)
    (h₀ : dataSize ≠ 0) :
    e.Obliges dataSize r ↔ ∃ res, Accepts s e res r.1 r.2 dataSize ∧ res.status ≠ 200 := by
  constructor
  · rintro ⟨res, hres, hstatus, hheader, hbody, hlen, hio⟩
    have hannounced : e.announced = some (r.1, r.2, dataSize) := by
      rw [Exchange.announced, Option.mem_def.mp hres]
      exact hheader
    refine ⟨res, ⟨hres, .inr hstatus, hbody, hheader, h₀, hs.rangeMin, ?_, ?_, hlen.symm, hio⟩, ?_⟩
    · exact hs.rangeMax _ _ _ hannounced
    · exact hs.dataSize _ _ _ hannounced
    · rw [hstatus]
      decide
  · rintro ⟨res, h, hstatus⟩
    exact ⟨res, h.res_eq, h.status.resolve_left hstatus, h.header, h.body, h.chunk.symm, h.io⟩

/-- What is accepted is what was asked for. -/
theorem Accepts.asked {s : DownloadState} {e : Exchange} {dataSize : ℕ} {r : ℕ × ℕ} (hs : Asks s e dataSize r)
    {res : Response} {a b n : ℕ} (h : Accepts s e res a b n) : a = r.1 ∧ b = r.2 ∧ n = dataSize := by
  have hannounced : e.announced = some (a, b, n) := by
    rw [Exchange.announced, h.res_eq]
    exact h.header
  exact ⟨h.rangeMin.symm.trans hs.rangeMin, h.rangeMax.symm.trans (hs.rangeMax _ _ _ hannounced),
    h.dataSize.symm.trans (hs.dataSize _ _ _ hannounced)⟩

/-- **One iteration**: the loop goes round after an answer that obliges, to ask for the next range, and is left
after any other one. -/
theorem downloadIteration_asked {s : DownloadState} {e : Exchange} {dataSize : ℕ} {r : ℕ × ℕ}
    (hs : Asks s e dataSize r) (h₀ : dataSize ≠ 0) :
    (e.Obliges dataSize r ∧ ∃ t, downloadIteration s e = .next t ∧ t.dataSize = dataSize ∧
      (t.rangeMin, t.rangeMax) = nextRange dataSize r) ∨
    (¬ e.Obliges dataSize r ∧ ∃ b t, downloadIteration s e = .leave b t) := by
  rw [obliges_iff hs h₀]
  rcases downloadIteration_cases s e with ⟨he, hno⟩ | ⟨res, a, b, n, h, he⟩
  · refine .inr ⟨?_, _, _, he⟩
    rintro ⟨res, h, -⟩
    exact hno _ _ _ _ h
  · obtain ⟨rfl, rfl, rfl⟩ := h.asked hs
    by_cases hstatus : res.status = 200
    · rw [if_pos hstatus] at he
      refine .inr ⟨?_, _, _, he⟩
      rintro ⟨res', h', hstatus'⟩
      rw [(h.unique h').1] at hstatus
      exact hstatus' hstatus
    · rw [if_neg hstatus] at he
      refine .inl ⟨⟨res, h, hstatus⟩, _, he, ?_, ?_⟩
      · simp only [DownloadState.advance, h.dataSize]
      · simp only [DownloadState.advance, h.rangeMax, h.dataSize, nextRange, chunkSize, h.chunk]
        split_ifs <;> rfl

/-! ### The loop -/

/-- The state after `k` answers. -/
def AsksAfter (chunkSizeInByte newRangeMax dataSize k : ℕ) (s : DownloadState) : Prop :=
  (k = 0 ∧ s = .start chunkSizeInByte) ∨
    (s.dataSize = dataSize ∧ (s.rangeMin, s.rangeMax) = asked chunkSizeInByte newRangeMax dataSize k)

theorem AsksAfter.asks {es : ℕ → Exchange} {chunkSizeInByte a b dataSize k : ℕ} {s : DownloadState}
    (h : AsksAfter chunkSizeInByte b dataSize k s) (h₀ : dataSize ≠ 0)
    (hfirst : (es 0).announced = some (a, b, dataSize)) :
    Asks s (es k) dataSize (asked chunkSizeInByte b dataSize k) := by
  rcases h with ⟨rfl, rfl⟩ | ⟨hsize, hrange⟩
  · refine ⟨rfl, fun a' b' n h => ?_, fun a' b' n h => ?_⟩
    · cases hfirst.symm.trans h
      rfl
    · cases hfirst.symm.trans h
      rfl
  · rw [← hrange]
    have hsame : ∀ b n, s.controlData b n = s := by
      intro b n
      rw [DownloadState.controlData, if_neg (by rw [hsize]; exact h₀)]
    refine ⟨rfl, fun a' b' n _ => ?_, fun a' b' n _ => ?_⟩
    · rw [hsame]
    · rw [hsame]
      exact hsize

/-- After `n` answers the loop has been left exactly when one of them does not oblige. -/
theorem loop_leaves_iff {es : ℕ → Exchange} {a b dataSize : ℕ} (h₀ : dataSize ≠ 0)
    (hfirst : (es 0).announced = some (a, b, dataSize)) (chunkSizeInByte n : ℕ) :
    (∃ r s, loop downloadIteration (.start chunkSizeInByte) ((List.range n).map es) = .leave r s) ↔
      ∃ k < n, ¬ (es k).Obliges dataSize (asked chunkSizeInByte b dataSize k) := by
  refine loop_stream_iff (I := AsksAfter chunkSizeInByte b dataSize) (fun k s hs => ?_) (.inl ⟨rfl, rfl⟩) n
  rcases downloadIteration_asked (hs.asks h₀ hfirst) h₀ with ⟨hobliges, t, he, hsize, hrange⟩ | hleaves
  · refine .inl ⟨hobliges, t, he, .inr ⟨hsize, ?_⟩⟩
    rw [hrange, asked, asked, Function.iterate_succ_apply']
  · exact .inr hleaves

/-- **When `Download` ends**, for every chunk size and every infinite sequence of answers of which the first
announces the size: within as many requests as there are bytes exactly when one of the answers to these requests does
not give the range that is asked for with status 206. -/
theorem download_ends_iff (connected opened : Bool) (chunkSizeInByte : ℕ) (es : ℕ → Exchange) {a b dataSize : ℕ}
    (h₀ : 1 ≤ dataSize) (hfirst : (es 0).announced = some (a, b, dataSize)) :
    DownloadEnds connected opened chunkSizeInByte es dataSize ↔ ((connected && opened) = true →
      ∃ k < dataSize, ¬ (es k).Obliges dataSize (asked chunkSizeInByte b dataSize k)) := by
  have hleaves := loop_leaves_iff (Nat.one_le_iff_ne_zero.mp h₀) hfirst chunkSizeInByte
  unfold DownloadEnds download
  split_ifs with hc
  · simp only [hleaves, hc, true_imp_iff]
    constructor
    · rintro ⟨n, hn, k, hk, hnot⟩
      exact ⟨k, Nat.lt_of_lt_of_le hk hn, hnot⟩
    · rintro ⟨k, hk, hnot⟩
      exact ⟨dataSize, le_rfl, k, hk, hnot⟩
  · exact iff_of_true ⟨0, Nat.zero_le _, _, _, rfl⟩ fun h => absurd h hc

/-- A server that answers the first request and then no more. -/
theorem download_ends_two : DownloadEnds true true 1
    (fun k => if k = 0 then ⟨some ⟨206, formatContentRange 0 0 2, [7]⟩, true⟩ else ⟨none, true⟩) 2 := by
  refine (download_ends_iff true true 1 _ (a := 0) (b := 0) (by decide) (by decide +kernel)).mpr fun _ =>
    ⟨1, by decide, ?_⟩
  rintro ⟨res, hres, -⟩
  cases hres

/-- A server that gives the only byte of a file, with status 206. -/
def oneByte : Exchange := ⟨some ⟨206, formatContentRange 0 0 1, [7]⟩, true⟩

/-- As long as it does so `Download` goes on. -/
theorem oneByte_never_ends (n : ℕ) : ¬ DownloadEnds true true 1 (fun _ => oneByte) n := by
  rintro ⟨k, -, hleave⟩
  have hfirst : oneByte.announced = some (0, 0, 1) := by decide +kernel
  obtain ⟨j, -, hnot⟩ := (loop_leaves_iff one_ne_zero hfirst 1 k).mp hleave
  have hasked : asked 1 0 1 j = (0, 0) := Function.iterate_fixed (nextRange_last one_ne_zero (by decide)) j
  rw [hasked] at hnot
  exact hnot ⟨_, rfl, rfl, by decide +kernel, by decide, by decide, rfl⟩

theorem not_download_ends : ¬ ∀ (chunkSizeInByte : ℕ) (es : ℕ → Exchange) (a b dataSize : ℕ),
    1 ≤ chunkSizeInByte → 1 ≤ dataSize → (es 0).announced = some (a, b, dataSize) →
    DownloadEnds true true chunkSizeInByte es dataSize := by
  intro h
  exact oneByte_never_ends 1 (h 1 (fun _ => oneByte) 0 0 1 le_rfl le_rfl (by decide +kernel))

end BofWebRpc.WebApp
