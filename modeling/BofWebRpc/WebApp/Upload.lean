import BofWebRpc.Library.Runs
import BofWebRpc.Library.Tiling
import BofWebRpc.WebApp.Http
import Mathlib.Data.Option.Basic

/-!
# Uploading in chunks

`BofWebClient::Upload` reads the file chunk by chunk and posts each chunk with a
`Content-Range` header that says which bytes of the file it is.

## The model

`uploadIteration` is one turn of `while (1)` over the variables `RangeMin` and
`RangeMax` and the position in the file. The server is arbitrary: an iteration is
given whatever came back. `reads` and `posts` are history: the size of every
`fread` into the chunk buffer, and every POST with its answer.

## What is proved

* `uploadIteration_sat` — one iteration posts the next block of the file, and goes
  round only after a 206 that confirms it.
* `upload_sound` — for every sequence of answers, the POSTs are consecutive blocks of
  the file under headers that describe them, no read overruns the buffer, the loop
  ends, and `Upload` returns true only if the whole file has been posted and
  confirmed.
-/

namespace BofWebRpc.WebApp

open Runs Tiling

/-- A POST, and what came back. -/
structure Post where
  /-- The `Content-Range` header. -/
  contentRange : List Char
  /-- The body. -/
  body : List UInt8
  /-- `Res`. -/
  res : Option Response
  deriving DecidableEq

/-- The variables of `Upload`. -/
structure UploadState where
  /-- `RangeMin`. -/
  rangeMin : ℕ
  /-- `RangeMax`. -/
  rangeMax : ℕ
  /-- The position in the local file. -/
  pos : ℕ
  /-- History: the sizes asked of `fread`. -/
  reads : List ℕ
  /-- History: the POSTs. -/
  posts : List Post
  deriving DecidableEq

/-- `_ChunkSizeInByte_U32`, `64 KiB` when it is not given. -/
def effectiveChunk (chunkSizeInByte : ℕ) : ℕ := if chunkSizeInByte = 0 then 64 * 1024 else chunkSizeInByte

/-- Before the loop. -/
def UploadState.start (dataSize chunkSizeInByte : ℕ) : UploadState :=
  { rangeMin := 0
    rangeMax := if dataSize ≤ effectiveChunk chunkSizeInByte then sizeSub dataSize 1
      else toU32 (effectiveChunk chunkSizeInByte + (2 ^ 32 - 1))
    pos := 0
    reads := []
    posts := [] }

/-- `ReadSize = RangeMax - RangeMin + 1`. -/
def UploadState.readSize (s : UploadState) : ℕ := sizeAdd (sizeSub s.rangeMax s.rangeMin) 1

/-- What `fread` puts into the chunk buffer. -/
def UploadState.chunk (file : List UInt8) (s : UploadState) : List UInt8 := (file.drop s.pos).take s.readSize

/-- `fread(pChunk_U8, ReadSize, 1, pIo_X) == 1` when the disk does not fail: one whole
item, of at least one byte. -/
def UploadState.canRead (file : List UInt8) (s : UploadState) : Prop :=
  s.readSize ≠ 0 ∧ (s.chunk file).length = s.readSize

instance (file : List UInt8) (s : UploadState) : Decidable (s.canRead file) := inferInstanceAs (Decidable (_ ∧ _))

/-- The `Content-Range` of the POST. -/
def UploadState.header (dataSize : ℕ) (s : UploadState) : List Char :=
  formatContentRange s.rangeMin s.rangeMax dataSize

/-- The tests on the answer to a POST: the response, when it has status 200 or 206 and
the `Content-Range` of the request. -/
def UploadState.confirmed (s : UploadState) (dataSize : ℕ) (res : Option Response) : Option Response := do
  let res ← res
  guard (res.status = 200 ∨ res.status = 206)
  let (newRangeMin, newRangeMax, newDataSize) ← parseContentRangeRequest res.contentRange
  guard (s.rangeMin = newRangeMin ∧ s.rangeMax = newRangeMax ∧ dataSize = newDataSize)
  return res

/-- The ranges after a 206. -/
def UploadState.advance (s : UploadState) (dataSize readSize : ℕ) : UploadState :=
  let rangeMin := sizeAdd s.rangeMax 1
  let rangeMax := sizeSub (sizeAdd rangeMin readSize) 1
  { s with
    rangeMin := rangeMin
    rangeMax := if sizeSub dataSize 1 ≤ rangeMax then sizeSub dataSize 1 else rangeMax }

/-- One turn of the loop. -/
def uploadIteration (file : List UInt8) (s : UploadState) (e : Exchange) : Outcome UploadState Bool :=
  let dataSize := ftell file.length
  let readSize := s.readSize
  let read := { s with reads := s.reads ++ [readSize] }
  if s.canRead file ∧ e.io = true then
    let post : Post := ⟨s.header dataSize, s.chunk file, e.res⟩
    let s := { read with pos := s.pos + readSize, posts := s.posts ++ [post] }
    match s.confirmed dataSize e.res with
    | none => .leave false s
    | some res =>
      if res.status = 200 then .leave (decide (sizeSub dataSize 1 ≤ s.rangeMax)) s
      else .next (s.advance dataSize readSize)
  else .leave false read

/-- `BofWebClient::Upload` of a file, with an HTTP client or not (`connected`), the local
file opened or not (`opened`), against the answers `es`. -/
def upload (connected opened : Bool) (file : List UInt8) (chunkSizeInByte : ℕ) (es : List Exchange) :
    Outcome UploadState Bool :=
  let s := UploadState.start (ftell file.length) chunkSizeInByte
  if connected && opened then loop (uploadIteration file) s es else .leave false s

/-! ### The blocks of the file -/

/-- The last byte of block `k` of a file of `n` bytes cut into blocks of `c`. -/
def blockLast (c n k : ℕ) : ℕ := min ((k + 1) * c) n - 1

/-- The header and the body of the POST of block `k`. -/
def Post.IsBlock (p : Post) (file : List UInt8) (c k : ℕ) : Prop :=
  p.contentRange = formatContentRange (k * c) (blockLast c file.length k) file.length ∧ p.body = blockAt c k file

/-- The answer to the POST of block `k` has status 200 or 206 and names the range of the
block. -/
def Post.Confirmed (p : Post) (n c k : ℕ) : Prop :=
  ∃ res, p.res = some res ∧ (res.status = 200 ∨ res.status = 206) ∧
    parseContentRangeRequest res.contentRange = some (k * c, blockLast c n k, n)

theorem confirmed_eq_some_iff (s : UploadState) (n : ℕ) (o : Option Response) (res : Response) :
    s.confirmed n o = some res ↔ o = some res ∧ (res.status = 200 ∨ res.status = 206) ∧
      parseContentRangeRequest res.contentRange = some (s.rangeMin, s.rangeMax, n) := by
  simp only [UploadState.confirmed, bind, Option.bind_eq_some_iff, Option.guard_eq_some', pure, Option.some.injEq,
    Prod.exists, exists_const]
  constructor
  · rintro ⟨r, hr, hst, a, b, m, hp, ⟨rfl, rfl, rfl⟩, rfl⟩
    exact ⟨hr, hst, hp⟩
  · rintro ⟨hr, hst, hp⟩
    exact ⟨res, hr, hst, _, _, _, hp, ⟨rfl, rfl, rfl⟩, rfl⟩

/-! ### The invariant -/

/-- Between two iterations: the first `s.posts.length` blocks have been posted, and
confirmed. -/
structure UploadInv (file : List UInt8) (c : ℕ) (s : UploadState) : Prop where
  blocks : ∀ (k : ℕ) (p : Post), s.posts[k]? = some p → p.IsBlock file c k
  confirmed : ∀ (k : ℕ) (p : Post), s.posts[k]? = some p → p.Confirmed file.length c k
  count : s.posts.length ≤ numBlocks c file.length
  reads : ∀ r ∈ s.reads, r ≤ c
  /-- The next block, when there is one. -/
  block : s.posts.length < numBlocks c file.length →
    s.pos = s.posts.length * c ∧ s.rangeMin = s.posts.length * c ∧
      s.rangeMax = blockLast c file.length s.posts.length
  /-- After the last block the range is empty. -/
  done : s.posts.length = numBlocks c file.length → s.rangeMin = file.length ∧ s.rangeMax = file.length - 1

/-- After the loop. -/
structure UploadPost (file : List UInt8) (c : ℕ) (r : Bool) (s : UploadState) : Prop where
  blocks : ∀ (k : ℕ) (p : Post), s.posts[k]? = some p → p.IsBlock file c k
  count : s.posts.length ≤ numBlocks c file.length
  reads : ∀ r ∈ s.reads, r ≤ c
  whole : r = true → s.posts.length = numBlocks c file.length
  confirmed : r = true → ∀ (k : ℕ) (p : Post), s.posts[k]? = some p → p.Confirmed file.length c k
  final : r = true → ∃ p res, s.posts.getLast? = some p ∧ p.res = some res ∧ res.status = 200

/-- What holds of every POST but the last, and of the last, holds of all. -/
theorem forall_getElem?_concat {α : Type*} {P : ℕ → α → Prop} {l : List α} {a : α}
    (hl : ∀ k x, l[k]? = some x → P k x) (ha : P l.length a) : ∀ k x, (l ++ [a])[k]? = some x → P k x := by
  intro k x h
  rcases Nat.lt_trichotomy k l.length with hk | rfl | hk
  · exact hl k x (by rwa [List.getElem?_append_left hk] at h)
  · simp only [List.getElem?_concat_length, Option.some.injEq] at h
    exact h ▸ ha
  · rw [List.getElem?_eq_none (by simp only [List.length_append, List.length_singleton]; omega)] at h
    cases h

section Blocks

variable {n c : ℕ}

/-- Block `k` exists exactly when its first byte does. -/
theorem first_lt_of_lt_numBlocks (hc : 0 < c) {k : ℕ} (hk : k < numBlocks c n) : k * c < n :=
  (lt_numBlocks_iff hc k n).mp hk

/-- The size of block `k`, as `Upload` computes it from its range. -/
theorem readSize_block (hc : 0 < c) (hn : n < 2 ^ 63) {k : ℕ} (hk : k < numBlocks c n) :
    sizeAdd (sizeSub (blockLast c n k) (k * c)) 1 = min c (n - k * c) := by
  have hlt := first_lt_of_lt_numBlocks hc hk
  have hnext : (k + 1) * c = k * c + c := by rw [Nat.add_mul, one_mul]
  unfold sizeAdd sizeSub blockLast sizeMax
  omega

/-- Block `k` is the last one exactly when its range ends at the last byte. -/
theorem last_iff (hc : 0 < c) {k : ℕ} (hk : k < numBlocks c n) :
    n - 1 ≤ blockLast c n k ↔ k + 1 = numBlocks c n := by
  have hlt := first_lt_of_lt_numBlocks hc hk
  have hnext := lt_numBlocks_iff hc (k + 1) n
  have h1 : (k + 1) * c = k * c + c := by rw [Nat.add_mul, one_mul]
  unfold blockLast
  omega

/-- The range `Upload` computes after block `k` is that of block `k + 1`. -/
theorem nextRange_block (hc : 0 < c) (hc' : c < 2 ^ 32) (hn : n < 2 ^ 63) {k : ℕ} (hk : k + 1 < numBlocks c n) :
    blockLast c n k + 1 = (k + 1) * c ∧
      (if n - 1 ≤ (k + 1) * c + min c (n - k * c) - 1 then n - 1 else (k + 1) * c + min c (n - k * c) - 1) =
        blockLast c n (k + 1) := by
  have hlt := first_lt_of_lt_numBlocks hc hk
  have h1 : (k + 1) * c = k * c + c := by rw [Nat.add_mul, one_mul]
  have h2 : (k + 1 + 1) * c = k * c + c + c := by rw [Nat.add_mul, one_mul, h1]
  unfold blockLast
  split <;> omega

end Blocks

theorem sizeSub_one {n : ℕ} (h0 : 0 < n) (h : n < 2 ^ 63) : sizeSub n 1 = n - 1 := by
  unfold sizeSub sizeMax
  omega

theorem ftell_eq {n : ℕ} (h : n < 2 ^ 63) : ftell n = n := if_pos h

/-- What is read from byte `a` on, when the size is that of a block cut at the end of the file. -/
theorem chunk_eq_take {s : UploadState} {file : List UInt8} {a c : ℕ} (hpos : s.pos = a)
    (hsize : s.readSize = min c (file.length - a)) : s.chunk file = (file.drop a).take c := by
  rw [UploadState.chunk, hsize, hpos, ← List.take_take, List.take_of_length_le (l := file.drop a) (by simp)]

section Soundness

variable {file : List UInt8} {c : ℕ}

/-- The size of the next block. -/
theorem UploadInv.readSize_eq {s : UploadState} (hs : UploadInv file c s) (hc : 0 < c) (hn : file.length < 2 ^ 63)
    (hk : s.posts.length < numBlocks c file.length) : s.readSize = min c (file.length - s.posts.length * c) := by
  obtain ⟨-, hmin, hmax⟩ := hs.block hk
  rw [UploadState.readSize, hmax, hmin]
  exact readSize_block hc hn hk

/-- After the last block nothing is left to read. -/
theorem UploadInv.readSize_done {s : UploadState} (hs : UploadInv file c s) (h0 : 0 < file.length)
    (hn : file.length < 2 ^ 63) (hk : s.posts.length = numBlocks c file.length) : s.readSize = 0 := by
  obtain ⟨hmin, hmax⟩ := hs.done hk
  rw [UploadState.readSize, hmin, hmax]
  unfold sizeAdd sizeSub sizeMax
  omega

/-- One more read within the chunk buffer. -/
theorem UploadInv.reads_concat {s : UploadState} (hs : UploadInv file c s) {size : ℕ} (hsize : size ≤ c) :
    ∀ r ∈ s.reads ++ [size], r ≤ c := by
  intro r hr
  rcases List.mem_append.mp hr with hr | hr
  · exact hs.reads r hr
  · rw [List.mem_singleton.mp hr]
    exact hsize

/-- The ranges after a confirmed POST, whether a block is left or not. -/
theorem UploadInv.advance {s : UploadState} (hc : 0 < c) (hc' : c < 2 ^ 32) (h0 : 0 < file.length)
    (hn : file.length < 2 ^ 63) (hs : UploadInv file c s) (hk : s.posts.length < numBlocks c file.length)
    {p : Post} (hp : p.IsBlock file c s.posts.length) (hp' : p.Confirmed file.length c s.posts.length)
    {r : ℕ} (hr : r = min c (file.length - s.posts.length * c)) :
    UploadInv file c (({ s with
      reads := s.reads ++ [r], pos := s.pos + r, posts := s.posts ++ [p] } : UploadState).advance file.length r) := by
  obtain ⟨hpos, hmin, hmax⟩ := hs.block hk
  have hlt := first_lt_of_lt_numBlocks hc hk
  refine ⟨?_, ?_, ?_, ?_, ?_, ?_⟩
  · exact forall_getElem?_concat hs.blocks hp
  · exact forall_getElem?_concat hs.confirmed hp'
  · simp only [UploadState.advance, List.length_append, List.length_singleton]
    exact hk
  · intro r' hr'
    simp only [UploadState.advance, List.mem_append, List.mem_singleton] at hr'
    rcases hr' with hr' | rfl
    · exact hs.reads r' hr'
    · omega
  · intro hk'
    simp only [UploadState.advance, List.length_append, List.length_singleton] at hk' ⊢
    obtain ⟨hb1, hb2⟩ := nextRange_block hc hc' hn hk'
    have hlt' := first_lt_of_lt_numBlocks hc hk'
    have hnext : (s.posts.length + 1) * c = s.posts.length * c + c := by rw [Nat.add_mul, one_mul]
    have hmin' : sizeAdd s.rangeMax 1 = (s.posts.length + 1) * c := by
      unfold sizeAdd sizeMax
      omega
    have hmax' : sizeSub (sizeAdd ((s.posts.length + 1) * c) r) 1 = (s.posts.length + 1) * c + r - 1 := by
      unfold sizeSub sizeAdd sizeMax
      omega
    refine ⟨by omega, hmin', ?_⟩
    rw [hmin', hmax', sizeSub_one h0 hn, ← hb2, hr]
  · intro hk'
    simp only [UploadState.advance, List.length_append, List.length_singleton] at hk' ⊢
    have hlast := (last_iff hc hk).mpr hk'
    have hle : blockLast c file.length s.posts.length ≤ file.length - 1 := by unfold blockLast; omega
    have hmin' : sizeAdd s.rangeMax 1 = file.length := by
      unfold sizeAdd sizeMax
      omega
    refine ⟨hmin', ?_⟩
    rw [hmin', sizeSub_one h0 hn, if_pos]
    unfold sizeSub sizeAdd sizeMax
    omega

/-- **One iteration** posts the next block of the file; it goes round only after a 206
that confirms the block, and leaves with `true` only after a 200 that confirms the last
one. -/
theorem uploadIteration_sat {s : UploadState} (hc : 0 < c) (hc' : c < 2 ^ 32) (h0 : 0 < file.length)
    (hn : file.length < 2 ^ 63) (hs : UploadInv file c s) (e : Exchange) :
    (uploadIteration file s e).Sat
      (fun s' => UploadInv file c s' ∧
        numBlocks c file.length - s'.posts.length < numBlocks c file.length - s.posts.length)
      (UploadPost file c) := by
  rcases Nat.lt_or_ge s.posts.length (numBlocks c file.length) with hk | hk
  · -- block `s.posts.length` is left to post
    obtain ⟨hpos, hmin, hmax⟩ := hs.block hk
    have hlt := first_lt_of_lt_numBlocks hc hk
    have hsize := hs.readSize_eq hc hn hk
    have hreads := hs.reads_concat (hsize.trans_le (min_le_left _ _))
    have hcount : ∀ p : Post, (s.posts ++ [p]).length ≤ numBlocks c file.length := by
      intro p
      rw [List.length_append, List.length_singleton]
      exact hk
    have hchunk : s.chunk file = blockAt c s.posts.length file := chunk_eq_take hpos hsize
    unfold uploadIteration
    simp only [ftell_eq hn, hchunk]
    split_ifs with hread
    · have hblock : Post.IsBlock ⟨s.header file.length, blockAt c s.posts.length file, e.res⟩ file c
          s.posts.length := by
        refine ⟨?_, rfl⟩
        rw [UploadState.header, hmin, hmax]
      split
      · next hno =>
        exact ⟨forall_getElem?_concat hs.blocks hblock, hcount _, hreads, by simp, by simp, by simp⟩
      · next res hres =>
        obtain ⟨he, hst, hp⟩ := (confirmed_eq_some_iff _ _ _ _).mp hres
        have hconf : Post.Confirmed ⟨s.header file.length, blockAt c s.posts.length file, e.res⟩ file.length c
            s.posts.length := by
          refine ⟨res, he, hst, ?_⟩
          rw [hp, ← hmin, ← hmax]
        split_ifs with h200
        · refine ⟨forall_getElem?_concat hs.blocks hblock, hcount _, hreads, ?_,
            fun _ => forall_getElem?_concat hs.confirmed hconf, ?_⟩
          · intro hr
            have hlast : file.length - 1 ≤ s.rangeMax := by
              rw [← sizeSub_one h0 hn]
              exact of_decide_eq_true hr
            rw [hmax] at hlast
            simpa using (last_iff hc hk).mp hlast
          · exact fun _ => ⟨_, res, List.getLast?_concat, he, h200⟩
        · refine ⟨hs.advance hc hc' h0 hn hk hblock hconf hsize, ?_⟩
          simp only [UploadState.advance, List.length_append, List.length_singleton]
          omega
    · exact ⟨hs.blocks, hs.count, hreads, by simp, by simp, by simp⟩
  · -- every block has been confirmed with a 206: `ReadSize` is zero
    have hk' : s.posts.length = numBlocks c file.length := le_antisymm hs.count hk
    unfold uploadIteration UploadState.canRead
    simp only [hs.readSize_done h0 hn hk', ne_eq, not_true_eq_false, false_and, if_false]
    exact ⟨hs.blocks, hs.count, hs.reads_concat (Nat.zero_le c), by simp, by simp, by simp⟩

/-- Before the first iteration. -/
theorem uploadInv_start {chunkSizeInByte : ℕ} (hc : 0 < effectiveChunk chunkSizeInByte)
    (hc' : effectiveChunk chunkSizeInByte < 2 ^ 32) (h0 : 0 < file.length) (hn : file.length < 2 ^ 63) :
    UploadInv file (effectiveChunk chunkSizeInByte) (.start file.length chunkSizeInByte) := by
  have hpos : 0 < numBlocks (effectiveChunk chunkSizeInByte) file.length := by
    rw [lt_numBlocks_iff hc, zero_mul]
    exact h0
  refine ⟨by simp [UploadState.start], by simp [UploadState.start], Nat.zero_le _, by simp [UploadState.start], ?_, ?_⟩
  · intro _
    simp only [UploadState.start, List.length_nil, zero_mul, true_and, blockLast, zero_add, one_mul,
      sizeSub_one h0 hn, toU32]
    split <;> omega
  · intro h
    simp only [UploadState.start, List.length_nil] at h
    omega

end Soundness

theorem effectiveChunk_pos (chunkSizeInByte : ℕ) : 0 < effectiveChunk chunkSizeInByte := by
  unfold effectiveChunk
  split <;> omega

theorem effectiveChunk_lt {chunkSizeInByte : ℕ} (h : chunkSizeInByte < 2 ^ 32) :
    effectiveChunk chunkSizeInByte < 2 ^ 32 := by
  unfold effectiveChunk
  split <;> omega

/-- The bodies of all the blocks, in order, are the file. -/
theorem flatten_bodies {file : List UInt8} {c : ℕ} (hc : 0 < c) {posts : List Post}
    (hblocks : ∀ (k : ℕ) (p : Post), posts[k]? = some p → p.IsBlock file c k)
    (hwhole : posts.length = numBlocks c file.length) : (posts.map Post.body).flatten = file := by
  have hbodies : posts.map Post.body = (List.range (numBlocks c file.length)).map fun k => blockAt c k file := by
    refine List.ext_getElem? fun k => ?_
    rcases Nat.lt_or_ge k posts.length with hk | hk
    · have hk' : k < numBlocks c file.length := hwhole ▸ hk
      have hb := (hblocks k posts[k] (List.getElem?_eq_getElem hk)).2
      simp only [List.getElem?_map, List.getElem?_eq_getElem hk, List.getElem?_range hk', Option.map_some, hb]
    · have hk' : numBlocks c file.length ≤ k := hwhole ▸ hk
      rw [List.getElem?_eq_none (by simpa using hk), List.getElem?_eq_none (by simpa using hk')]
  rw [hbodies, flatten_range_blocks, List.take_of_length_le]
  exact le_mul_numBlocks hc _

section Upload

variable {file : List UInt8} {chunkSizeInByte : ℕ}

/-- The loop keeps the invariant, and leaves as `UploadPost` says. -/
theorem upload_sat (connected opened : Bool) (es : List Exchange) (h0 : 0 < file.length)
    (hn : file.length < 2 ^ 63) (hc : chunkSizeInByte < 2 ^ 32) :
    (upload connected opened file chunkSizeInByte es).Sat (UploadInv file (effectiveChunk chunkSizeInByte))
      (UploadPost file (effectiveChunk chunkSizeInByte)) := by
  have hpos := effectiveChunk_pos chunkSizeInByte
  have hlt := effectiveChunk_lt hc
  have hstart := uploadInv_start hpos hlt h0 hn
  unfold upload
  rw [ftell_eq hn]
  dsimp only
  split_ifs
  · refine loop_rule (P := fun _ _ => True) (fun s e hs _ => ?_) es _ hstart ?_
    · have h := uploadIteration_sat hpos hlt h0 hn hs e
      cases hb : uploadIteration file s e with
      | next s' =>
        rw [hb] at h
        exact h.1
      | leave r s' =>
        rw [hb] at h
        exact h
    · exact along_true _ _ _
  · exact ⟨hstart.blocks, hstart.count, hstart.reads, by simp, by simp, by simp⟩

/-- The loop is left after at most as many answers as there are blocks, and one more. -/
theorem upload_leaves (connected opened : Bool) {es : List Exchange} (h0 : 0 < file.length)
    (hn : file.length < 2 ^ 63) (hc : chunkSizeInByte < 2 ^ 32)
    (hes : numBlocks (effectiveChunk chunkSizeInByte) file.length < es.length) :
    ∃ r s, upload connected opened file chunkSizeInByte es = .leave r s := by
  have hpos := effectiveChunk_pos chunkSizeInByte
  have hlt := effectiveChunk_lt hc
  have hstart := uploadInv_start hpos hlt h0 hn
  unfold upload
  rw [ftell_eq hn]
  dsimp only
  split_ifs
  · refine loop_total (I := UploadInv file (effectiveChunk chunkSizeInByte))
      (fun s => numBlocks (effectiveChunk chunkSizeInByte) file.length - s.posts.length)
      (fun s e hs => ?_) es _ hstart (lt_of_le_of_lt (Nat.sub_le _ _) hes)
    have h := uploadIteration_sat hpos hlt h0 hn hs e
    cases hb : uploadIteration file s e with
    | next s' =>
      rw [hb] at h
      exact h
    | leave r s' => trivial
  · exact ⟨_, _, rfl⟩

end Upload

/-- **Soundness of `Upload`** against any server: the POST number `k` carries block `k` of
the file under a header that describes it, no read overruns the chunk buffer, there
are at most as many POSTs as blocks and the loop ends, and `Upload` returns true only
if every block has been posted, in order, and confirmed by a 200 or a 206 with the
range of the block, the last one by a 200. -/
theorem upload_sound (connected opened : Bool) (file : List UInt8) (chunkSizeInByte : ℕ) (es : List Exchange)
    (h0 : file ≠ []) (hn : file.length < 2 ^ 63) (hc : chunkSizeInByte < 2 ^ 32) :
    let c := effectiveChunk chunkSizeInByte
    let out := upload connected opened file chunkSizeInByte es
    (∀ (k : ℕ) (p : Post), out.state.posts[k]? = some p → p.IsBlock file c k) ∧
    (∀ r ∈ out.state.reads, r ≤ c) ∧
    out.state.posts.length ≤ numBlocks c file.length ∧
    (numBlocks c file.length < es.length → ∃ r s, out = .leave r s) ∧
    ∀ s, out = .leave true s →
      s.posts.length = numBlocks c file.length ∧ (s.posts.map Post.body).flatten = file ∧
        (∀ (k : ℕ) (p : Post), s.posts[k]? = some p → p.Confirmed file.length c k) ∧
        ∃ p res, s.posts.getLast? = some p ∧ p.res = some res ∧ res.status = 200 := by
  intro c out
  have hlen : 0 < file.length := List.length_pos_iff.mpr h0
  have hsat : out.Sat (UploadInv file c) (UploadPost file c) := upload_sat connected opened es hlen hn hc
  have hall : (∀ (k : ℕ) (p : Post), out.state.posts[k]? = some p → p.IsBlock file c k) ∧
      (∀ r ∈ out.state.reads, r ≤ c) ∧ out.state.posts.length ≤ numBlocks c file.length := by
    cases hout : out with
    | next s =>
      rw [hout] at hsat
      exact ⟨hsat.blocks, hsat.reads, hsat.count⟩
    | leave r s =>
      rw [hout] at hsat
      exact ⟨hsat.blocks, hsat.reads, hsat.count⟩
  refine ⟨hall.1, hall.2.1, hall.2.2, upload_leaves connected opened hlen hn hc, ?_⟩
  intro s hout
  rw [hout] at hsat
  have hwhole := hsat.whole rfl
  exact ⟨hwhole, flatten_bodies (effectiveChunk_pos _) hsat.blocks hwhole, hsat.confirmed rfl, hsat.final rfl⟩

/-- A file of three bytes in chunks of two: two POSTs, both confirmed. -/
theorem upload_sound_three :
    let confirmation := fun (status a b : ℕ) => (⟨status, formatContentRange a b 3, []⟩ : Response)
    let es : List Exchange := [⟨some (confirmation 206 0 1), true⟩, ⟨some (confirmation 200 2 2), true⟩]
    ∃ s, upload true true [1, 2, 3] 2 es = .leave true s ∧ (s.posts.map Post.body).flatten = [1, 2, 3] := by
  intro confirmation es
  have h := upload_sound true true [1, 2, 3] 2 es (by decide) (by decide) (by decide)
  have hout : upload true true [1, 2, 3] 2 es = .leave true ⟨2, 2, 3, [2, 1],
      [⟨formatContentRange 0 1 3, [1, 2], some (confirmation 206 0 1)⟩,
        ⟨formatContentRange 2 2 3, [3], some (confirmation 200 2 2)⟩]⟩ := by decide +kernel
  exact ⟨_, hout, (h.2.2.2.2 _ hout).2.1⟩

end BofWebRpc.WebApp
