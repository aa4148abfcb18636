import BofWebRpc.WebApp.Handlers
import BofWebRpc.WebApp.Upload

/-!
# Upload against PostUpload

`Upload` computes the size of each block on `size_t`; `PostUpload` computes the size it
expects on `uint32_t`, and takes a first range that ends at byte `0` for no range.

## The model

`uploadServed` gives an iteration of `Upload` the answer of `PostUpload` to its POST, if
it sends one; the transfer is the interaction of the two. Between two POSTs
`UploadAligned` says that client and handler agree on the next block, which starts
at byte `a`, and that the bytes before it are written.

## What is proved

* `upload_served_step`, `upload_refused_step` — one POST: the handler stores the
  block if it expects one of that size (`Serves`), and refuses it otherwise.
* `upload_postUpload_iff` — a file arrives exactly when the first block has at least
  two bytes and what follows it fits in 32 bits.
-/

namespace BofWebRpc.WebApp

open Runs

variable {passed : UploadState → ℕ} {sessionId dir file : List Char} {content : List UInt8} {c a : ℕ}

/-- The POST of the next iteration. -/
def UploadState.request (sessionId dir file : List Char) (content : List UInt8) (s : UploadState) : Request :=
  { sessionId := sessionId
    contentRange := s.header (ftell content.length)
    dir := some dir
    file := some file
    body := s.chunk content }

/-- The answer of `PostUpload` to the next POST, if one is sent, when no system call fails; `passed` says how many
bytes `fwrite` passes on to the file then. No response comes back from a server without defined behaviour. -/
def uploadServed (passed : UploadState → ℕ) (sessionId dir file : List Char) (content : List UInt8) (s : UploadState)
    (server : Server) : Exchange × Server :=
  if s.canRead content then
    match postUpload (.good (passed s)) server (s.request sessionId dir file content) with
    | none => (⟨none, true⟩, server)
    | some (res, server) => (⟨some res, true⟩, server)
  else (⟨none, true⟩, server)

theorem uploadServed_eq {s : UploadState} {server : Server} {reply : Response × Server} (hread : s.canRead content)
    (h : postUpload (.good (passed s)) server (s.request sessionId dir file content) = some reply) :
    uploadServed passed sessionId dir file content s server = (⟨some reply.1, true⟩, reply.2) := by
  rw [uploadServed, if_pos hread, h]

/-! ### The POSTs PostUpload accepts -/

section Requests

variable {server : Server} {req : Request} {path : List Char} {b n : ℕ}

/-- A first POST of one byte. -/
theorem postUpload_oneByte (hfront : server.front req = .control path 0 0 n) (htask : server.tasks req.sessionId = none)
    (env : HandlerEnv) :
    postUpload env server req =
      some (server.terminate env (server.io req.sessionId) req.sessionId .notAcceptable406) := by
  simp [postUpload, hfront, Server.uploadTask, htask]

/-- A first POST of more. -/
theorem postUpload_first (hfront : server.front req = .control path 0 b n)
    (htask : server.tasks req.sessionId = none) (hb : b ≠ 0) (hbn : b < n) (hb' : b + 1 < 2 ^ 32)
    (hbody : req.body.length = b + 1) (passed : ℕ) :
    ∃ io files, io.path = path ∧ io.Wrote files req.body ∧ postUpload (.good passed) server req =
      some (({ server with files := files } : Server).reply (.good passed) req.sessionId ⟨0, b, n, b + 1, io⟩ b
        (b + 1) []) := by
  have hchunk : toU32 (sizeAdd b 1) = b + 1 := by unfold toU32 sizeAdd sizeMax; omega
  have hsize : (if n ≤ b + 1 then n else b + 1) = b + 1 := by split <;> omega
  have hn : n ≠ 0 := by omega
  have hne : req.body ≠ [] := by
    rw [← List.length_pos_iff, hbody]
    exact Nat.succ_pos b
  have hopens : (HandlerEnv.good passed).opens = true := rfl
  obtain ⟨hwritten, hwrote⟩ := (wrote_wb server.files path).fwrite hne (.good passed) rfl
  have hpath := (fwrite_file (.good passed) (.wb path) req.body (Function.update server.files path (some []))).1
  generalize HandlerEnv.good passed = env at *
  refine ⟨_, _, hpath, hwrote, ?_⟩
  simp only [postUpload, hfront, Server.uploadTask, htask, hopens, hb, hn, hbn, ne_eq, not_false_eq_true,
    and_self, if_true, hchunk, hsize, hbody, hwritten]

/-- A POST of a transfer under way. -/
theorem postUpload_expected {task : UpDownTask} (hfront : server.front req = .control path a b n)
    (htask : server.tasks req.sessionId = some task) (h : task.Expects a b n) {written : List UInt8}
    (hwrote : task.io.Wrote server.files written) (hbody : req.body ≠ []) (hsize : task.nextSize = req.body.length)
    (passed : ℕ) :
    ∃ io files, io.path = task.io.path ∧ io.Wrote files (written ++ req.body) ∧ postUpload (.good passed) server req =
      some (({ server with files := files } : Server).reply (.good passed) req.sessionId { task with io := io } b
        req.body.length []) := by
  obtain ⟨hwritten, hwrote'⟩ := hwrote.fwrite hbody (.good passed) rfl
  refine ⟨_, _, (fwrite_file ..).1, hwrote', ?_⟩
  simp only [postUpload, hfront, Server.uploadTask, htask, if_pos h, hsize, if_true, if_pos hwritten]

/-- A POST of another size than the task expects. -/
theorem postUpload_size {task : UpDownTask} (hfront : server.front req = .control path a b n)
    (htask : server.tasks req.sessionId = some task) (h : task.Expects a b n) (hsize : task.nextSize ≠ req.body.length)
    (env : HandlerEnv) :
    postUpload env server req = some (server.terminate env (some task.io) req.sessionId .internalServerError500) := by
  simp only [postUpload, hfront, Server.uploadTask, htask, if_pos h, if_neg hsize]

end Requests

/-! ### The client at one block -/

/-- The next block starts at byte `a`. -/
structure UploadAt (content : List UInt8) (c a : ℕ) (s : UploadState) : Prop where
  left : a < content.length
  rangeMin : s.rangeMin = a
  rangeMax : s.rangeMax = min (a + c) content.length - 1
  pos : s.pos = a

section Client

variable {s : UploadState}

theorem UploadAt.readSize (h : UploadAt content c a s) (hc : 0 < c) (hc' : c < 2 ^ 32)
    (hn : content.length < 2 ^ 63) : s.readSize = min c (content.length - a) := by
  have := h.left
  rw [UploadState.readSize, h.rangeMin, h.rangeMax]
  unfold sizeAdd sizeSub sizeMax
  omega

theorem UploadAt.chunk (h : UploadAt content c a s) (hc : 0 < c) (hc' : c < 2 ^ 32)
    (hn : content.length < 2 ^ 63) : s.chunk content = (content.drop a).take c :=
  chunk_eq_take h.pos (h.readSize hc hc' hn)

theorem UploadAt.canRead (h : UploadAt content c a s) (hc : 0 < c) (hc' : c < 2 ^ 32)
    (hn : content.length < 2 ^ 63) : s.canRead content := by
  have := h.left
  refine ⟨?_, ?_⟩
  · rw [h.readSize hc hc' hn]
    omega
  · rw [h.chunk hc hc' hn, h.readSize hc hc' hn, List.length_take, List.length_drop]

/-- A terminated task is answered without a range, which ends the upload. -/
theorem uploadIteration_terminated (s : UploadState) (status : ℕ) (io : Bool) :
    ∃ s', uploadIteration content s ⟨some ⟨status, [], []⟩, io⟩ = .leave false s' := by
  have hno : parseContentRangeRequest [] = none := by decide
  unfold uploadIteration
  simp only
  split_ifs
  · split
    · exact ⟨_, rfl⟩
    · next h =>
      have hp := ((confirmed_eq_some_iff _ _ _ _).mp h).2.2
      rw [← Option.some.inj ((confirmed_eq_some_iff _ _ _ _).mp h).1, hno] at hp
      cases hp
  · exact ⟨_, rfl⟩

/-- A 206 that confirms the block: the next block follows, if there is one. -/
theorem UploadAt.next (h : UploadAt content c a s) (hc : 0 < c) (hc' : c < 2 ^ 32) (hn : content.length < 2 ^ 63)
    (hnext : a + c < content.length) (body : List UInt8) :
    ∃ s', uploadIteration content s
        ⟨some ⟨206, formatContentRange a (min (a + c) content.length - 1) content.length, body⟩, true⟩ = .next s' ∧
      UploadAt content c (a + c) s' := by
  have hsize := h.readSize hc hc' hn
  unfold uploadIteration
  simp only [if_pos (And.intro (h.canRead hc hc' hn) trivial), ftell_eq hn]
  rw [(confirmed_eq_some_iff _ _ _ _).mpr ⟨rfl, .inr rfl, ?_⟩]
  · simp only [show ¬ (206 : ℕ) = 200 by decide, if_false]
    refine ⟨_, rfl, hnext, ?_, ?_, ?_⟩
    · simp only [UploadState.advance, h.rangeMax]
      unfold sizeAdd sizeMax
      omega
    · have h1 := sizeSub_one (n := content.length) (by omega) hn
      simp only [UploadState.advance, h.rangeMax, h1, hsize]
      unfold sizeSub sizeAdd sizeMax
      split <;> omega
    · simp only [UploadState.advance, h.pos, hsize]
      omega
  · simp only [h.rangeMin, h.rangeMax]
    refine parseContentRangeRequest_format ?_ ?_ ?_ <;> (unfold sizeMax; omega)

/-- A 200 that confirms the last block. -/
theorem UploadAt.last (h : UploadAt content c a s) (hc : 0 < c) (hc' : c < 2 ^ 32) (hn : content.length < 2 ^ 63)
    (hlast : content.length ≤ a + c) (body : List UInt8) :
    ∃ s', uploadIteration content s
        ⟨some ⟨200, formatContentRange a (min (a + c) content.length - 1) content.length, body⟩, true⟩ =
      .leave true s' := by
  have hleft := h.left
  unfold uploadIteration
  simp only [if_pos (And.intro (h.canRead hc hc' hn) trivial), ftell_eq hn]
  rw [(confirmed_eq_some_iff _ _ _ _).mpr ⟨rfl, .inl rfl, ?_⟩]
  · have h1 := sizeSub_one (n := content.length) (by omega) hn
    have hle : content.length - 1 ≤ min (a + c) content.length - 1 := by omega
    simp only [if_true, h.rangeMax, h1, decide_eq_true hle]
    exact ⟨_, rfl⟩
  · simp only [h.rangeMin, h.rangeMax]
    refine parseContentRangeRequest_format ?_ ?_ ?_ <;> (unfold sizeMax; omega)

end Client

/-! ### Client and handler between two POSTs -/

/-- Client and handler agree on the next block, and the bytes before it are written. -/
structure UploadAligned (sessionId path : List Char) (content : List UInt8) (c a : ℕ) (s : UploadState)
    (server : Server) : Prop where
  client : UploadAt content c a s
  handler : (a = 0 ∧ server.tasks sessionId = none) ∨
    (c ≤ a ∧ ∃ io, io.path = path ∧ io.Wrote server.files (content.take a) ∧
      server.tasks sessionId = some ⟨a, min (a + c) content.length - 1, content.length, c, io⟩)

/-- The handler takes the block of `content` that starts at byte `a`. -/
def Serves (n c a : ℕ) : Prop := if a = 0 then 2 ≤ min n c else min c (toU32 (n - a)) = min c (n - a)

section Step

variable {path : List Char} {s : UploadState} {server : Server}

/-- The handler reads the header of the next POST back. -/
theorem UploadAt.front (h : UploadAt content c a s) (sessionId : List Char) (hn : content.length < 2 ^ 63)
    (hpath : ¬ ['.', '.'] <:+: server.path dir file) :
    server.front (s.request sessionId dir file content) =
      .control (server.path dir file) a (min (a + c) content.length - 1) content.length := by
  have hleft := h.left
  refine Server.front_control hpath rfl rfl ?_ ?_ ?_ ?_
  · unfold sizeMax; omega
  · unfold sizeMax; omega
  · unfold sizeMax; omega
  · rw [UploadState.request, ftell_eq hn, UploadState.header, h.rangeMin, h.rangeMax]

/-- What the handler answers to the next POST: it refuses it, or writes the block. -/
theorem UploadAligned.served (h : UploadAligned sessionId (server.path dir file) content c a s server) (hc : 0 < c)
    (hc' : c < 2 ^ 32) (hn : content.length < 2 ^ 63) (hpath : ¬ ['.', '.'] <:+: server.path dir file) :
    (¬ Serves content.length c a ∧ ∃ io status, uploadServed passed sessionId dir file content s server =
      (⟨some (server.terminate (.good (passed s)) io sessionId status).1, true⟩,
        (server.terminate (.good (passed s)) io sessionId status).2)) ∨
    (Serves content.length c a ∧ ∃ (io : File) (files : Files) (k : ℕ), io.path = server.path dir file ∧
      io.Wrote files (content.take (a + c)) ∧ (a + c < content.length → k = c) ∧
      let reply := ({ server with files := files } : Server).reply (.good (passed s)) sessionId
        ⟨a, min (a + c) content.length - 1, content.length, k, io⟩ (min (a + c) content.length - 1)
        (min c (content.length - a)) []
      uploadServed passed sessionId dir file content s server = (⟨some reply.1, true⟩, reply.2)) := by
  have hleft := h.client.left
  have hfront := h.client.front sessionId hn hpath
  have hbody : (s.request sessionId dir file content).body = (content.drop a).take c := h.client.chunk hc hc' hn
  have hlen : (s.request sessionId dir file content).body.length = min c (content.length - a) := by
    rw [hbody, List.length_take, List.length_drop]
  have hread := h.client.canRead hc hc' hn
  rcases h.handler with ⟨rfl, hfree⟩ | ⟨hca, io, hio, hwrote, htask⟩
  · simp only [zero_add, Nat.sub_zero, Serves, if_true] at *
    by_cases hb : 2 ≤ min content.length c
    · -- the first POST
      obtain ⟨io, files, hio, hwrote, hserved⟩ := postUpload_first hfront hfree (by omega) (by omega) (by omega)
        (by rw [hlen]; omega) (passed s)
      have hsize : min c content.length - 1 + 1 = min c content.length := by omega
      rw [hsize] at hserved
      rw [hbody, List.drop_zero] at hwrote
      exact .inr ⟨hb, io, files, min c content.length, hio, hwrote, by omega, uploadServed_eq hread hserved⟩
    · -- a range that ends at byte 0
      have hzero : min c content.length - 1 = 0 := by omega
      rw [hzero] at hfront
      exact .inl ⟨hb, _, .notAcceptable406, uploadServed_eq hread (postUpload_oneByte hfront hfree (.good (passed s)))⟩
  · -- a POST of a transfer under way
    have ha : a ≠ 0 := by omega
    have hexp : UpDownTask.Expects ⟨a, min (a + c) content.length - 1, content.length, c, io⟩ a
        (min (a + c) content.length - 1) content.length := ⟨rfl, rfl, by simp only; omega, rfl⟩
    have hne : (s.request sessionId dir file content).body ≠ [] := by
      rw [← List.length_pos_iff, hlen]
      omega
    have hsub : sizeSub content.length a = content.length - a := by unfold sizeSub sizeMax; omega
    have hnext : UpDownTask.nextSize ⟨a, min (a + c) content.length - 1, content.length, c, io⟩ =
        min c (toU32 (content.length - a)) := by rw [UpDownTask.nextSize, hsub]
    simp only [Serves, if_neg ha]
    by_cases hk : min c (toU32 (content.length - a)) = min c (content.length - a)
    · obtain ⟨io', files, hio', hwrote', hserved⟩ := postUpload_expected hfront htask hexp hwrote hne
        (hnext.trans (hk.trans hlen.symm)) (passed s)
      rw [hbody, ← List.take_add] at hwrote'
      rw [hlen] at hserved
      exact .inr ⟨hk, io', files, c, hio'.trans hio, hwrote', fun _ => rfl, uploadServed_eq hread hserved⟩
    · have hsize : UpDownTask.nextSize ⟨a, min (a + c) content.length - 1, content.length, c, io⟩ ≠
          (s.request sessionId dir file content).body.length := by
        rw [hnext, hlen]
        exact hk
      exact .inl ⟨hk, _, .internalServerError500,
        uploadServed_eq hread (postUpload_size hfront htask hexp hsize (.good (passed s)))⟩

/-- **A POST the handler refuses** ends the upload. -/
theorem upload_refused_step (h : UploadAligned sessionId (server.path dir file) content c a s server) (hc : 0 < c)
    (hc' : c < 2 ^ 32) (hn : content.length < 2 ^ 63) (hpath : ¬ ['.', '.'] <:+: server.path dir file)
    (hno : ¬ Serves content.length c a) :
    ∃ s', uploadIteration content s (uploadServed passed sessionId dir file content s server).1 = .leave false s' := by
  rcases h.served hc hc' hn hpath with ⟨-, io, status, hserved⟩ | ⟨hyes, -⟩
  · rw [hserved]
    exact uploadIteration_terminated s status.code true
  · exact absurd hyes hno

/-- **A POST the handler takes** moves both sides to the next block, or ends the upload
with the file stored. -/
theorem upload_served_step (h : UploadAligned sessionId (server.path dir file) content c a s server) (hc : 0 < c)
    (hc' : c < 2 ^ 32) (hn : content.length < 2 ^ 63) (hpath : ¬ ['.', '.'] <:+: server.path dir file)
    (hyes : Serves content.length c a) :
    (a + c < content.length ∧ ∃ s',
      uploadIteration content s (uploadServed passed sessionId dir file content s server).1 = .next s' ∧
      (uploadServed passed sessionId dir file content s server).2.path dir file = server.path dir file ∧
      UploadAligned sessionId (server.path dir file) content c (a + c) s'
        (uploadServed passed sessionId dir file content s server).2) ∨
    (content.length ≤ a + c ∧ ∃ s',
      uploadIteration content s (uploadServed passed sessionId dir file content s server).1 = .leave true s' ∧
      (uploadServed passed sessionId dir file content s server).2.files (server.path dir file) = some content ∧
      (uploadServed passed sessionId dir file content s server).2.tasks sessionId = none) := by
  have hleft := h.client.left
  have h1 := sizeSub_one (n := content.length) (by omega) hn
  rcases h.served hc hc' hn hpath with ⟨hno, -⟩ | ⟨-, io, files, k, hio, hwrote, hk, hserved⟩
  · exact absurd hyes hno
  · simp only at hserved
    by_cases hnext : a + c < content.length
    · have hmid : ¬ content.length - 1 ≤ min (a + c) content.length - 1 := by omega
      simp only [Server.reply, h1, if_neg hmid] at hserved
      obtain ⟨s', hs', hat⟩ := h.client.next hc hc' hn hnext []
      refine .inl ⟨hnext, s', by rw [hserved]; exact hs', by rw [hserved]; rfl, hat, .inr ⟨by omega, io, hio, ?_, ?_⟩⟩
      · rw [hserved]
        exact hwrote
      · rw [hserved, hk hnext]
        refine (Function.update_self ..).trans ?_
        have hsize : min c (content.length - a) = c := by omega
        have hmin : sizeAdd (min (a + c) content.length - 1) 1 = a + c := by unfold sizeAdd sizeMax; omega
        have hmax : (if content.length - 1 ≤ sizeAdd (min (a + c) content.length - 1) c then content.length - 1
            else sizeAdd (min (a + c) content.length - 1) c) = min (a + c + c) content.length - 1 := by
          unfold sizeAdd sizeMax
          split <;> omega
        simp only [UpDownTask.advance, hsize, h1, hmin, hmax]
    · have hend : content.length - 1 ≤ min (a + c) content.length - 1 := by omega
      simp only [Server.reply, h1, if_pos hend] at hserved
      obtain ⟨s', hs'⟩ := h.client.last hc hc' hn (by omega) []
      have hclosed := hwrote.fclose (.good (passed s)) rfl
      rw [List.take_of_length_le (not_lt.mp hnext), hio] at hclosed
      refine .inr ⟨not_lt.mp hnext, s', by rw [hserved]; exact hs', ?_, ?_⟩
      · rw [hserved]
        exact hclosed
      · rw [hserved]
        exact Function.update_self ..

end Step

/-! ### The whole transfer -/

section Transfer

variable {server : Server} {chunkSizeInByte : ℕ}

/-- Before the first POST. -/
theorem uploadAligned_start (hc : effectiveChunk chunkSizeInByte < 2 ^ 32) (hn : content.length < 2 ^ 63)
    (h0 : content ≠ []) (path : List Char) (hfree : server.tasks sessionId = none) :
    UploadAligned sessionId path content (effectiveChunk chunkSizeInByte) 0
      (.start content.length chunkSizeInByte) server := by
  have hpos : 0 < content.length := List.length_pos_iff.mpr h0
  have hc0 := effectiveChunk_pos chunkSizeInByte
  refine ⟨⟨hpos, rfl, ?_, rfl⟩, .inl ⟨rfl, hfree⟩⟩
  simp only [UploadState.start, sizeSub_one hpos hn, zero_add, toU32]
  split <;> omega

/-- A transfer under way that starts with a block of one byte, or has `2^32` bytes or
more left after the first block. -/
def UploadStuck (sessionId dir file path : List Char) (content : List UInt8) (c : ℕ) (s : UploadState)
    (server : Server) : Prop :=
  server.path dir file = path ∧
    ∃ a, UploadAligned sessionId path content c a s server ∧ (a = 0 ∨ 2 ^ 32 ≤ content.length - a)

/-- Such a transfer stays so until a POST is refused. -/
theorem upload_stuck_step {path : List Char} {s : UploadState} (hc : 0 < c) (hc' : c < 2 ^ 32)
    (hn : content.length < 2 ^ 63) (hpath : ¬ ['.', '.'] <:+: path)
    (hstuck : min content.length c < 2 ∨ 2 ^ 32 + c ≤ content.length)
    (h : UploadStuck sessionId dir file path content c s server) :
    (uploadIteration content s (uploadServed passed sessionId dir file content s server).1).Sat
      (fun s' => UploadStuck sessionId dir file path content c s'
        (uploadServed passed sessionId dir file content s server).2)
      fun r _ => r = false := by
  obtain ⟨rfl, a, h, ha⟩ := h
  by_cases hyes : Serves content.length c a
  · have hleft : 2 ^ 32 ≤ content.length - (a + c) := by
      unfold Serves toU32 at hyes
      split_ifs at hyes <;> omega
    rcases upload_served_step h hc hc' hn hpath hyes with ⟨-, s', hs', hroot, h'⟩ | ⟨hend, -⟩
    · rw [hs']
      exact ⟨hroot, a + c, h', .inr hleft⟩
    · omega
  · obtain ⟨s', hs'⟩ := upload_refused_step h hc hc' hn hpath hyes
    rw [hs']
    rfl

/-- A transfer under way. -/
def UploadGoing (sessionId dir file path : List Char) (content : List UInt8) (c : ℕ) (s : UploadState)
    (server : Server) : Prop :=
  server.path dir file = path ∧ ∃ a, UploadAligned sessionId path content c a s server

/-- When the first block has two bytes and the rest fits, every POST is taken. -/
theorem upload_progress_step {path : List Char} {s : UploadState} (hc : 0 < c) (hc' : c < 2 ^ 32)
    (hn : content.length < 2 ^ 63) (hpath : ¬ ['.', '.'] <:+: path) (h2 : 2 ≤ min content.length c)
    (h32 : content.length < 2 ^ 32 + c) (h : UploadGoing sessionId dir file path content c s server) :
    (uploadIteration content s (uploadServed passed sessionId dir file content s server).1).Sat
      (fun s' => UploadGoing sessionId dir file path content c s'
        (uploadServed passed sessionId dir file content s server).2 ∧
        content.length - s'.rangeMin < content.length - s.rangeMin)
      fun r _ => r = true ∧ (uploadServed passed sessionId dir file content s server).2.files path = some content ∧
        (uploadServed passed sessionId dir file content s server).2.tasks sessionId = none := by
  obtain ⟨rfl, a, h⟩ := h
  have hyes : Serves content.length c a := by
    rcases h.handler with ⟨rfl, -⟩ | ⟨hca, -⟩
    · simpa only [Serves, if_true] using h2
    · have hrest : content.length - a < 2 ^ 32 := by omega
      simp only [Serves, if_neg (show a ≠ 0 by omega), toU32, Nat.mod_eq_of_lt hrest]
  rcases upload_served_step h hc hc' hn hpath hyes with ⟨hnext, s', hs', hroot, h'⟩ | ⟨-, s', hs', hfile, htask⟩
  · rw [hs']
    refine ⟨⟨hroot, a + c, h'⟩, ?_⟩
    rw [h'.client.rangeMin, h.client.rangeMin]
    omega
  · rw [hs']
    exact ⟨rfl, hfile, htask⟩

/-- **Upload against `PostUpload`**: for every content and every chunk size, the transfer
ends with true, the file stored and no task left for the session exactly when the
first block has at least two bytes and the rest of the file fits in 32 bits. -/
theorem upload_postUpload_iff (hc : chunkSizeInByte < 2 ^ 32) (hn : content.length < 2 ^ 63) (h0 : content ≠ [])
    (hpath : ¬ ['.', '.'] <:+: server.path dir file) (hfree : server.tasks sessionId = none) :
    (∃ fuel s server', interact (uploadIteration content) (uploadServed passed sessionId dir file content) fuel
        (.start content.length chunkSizeInByte) server = .leave true (s, server') ∧
      server'.files (server.path dir file) = some content ∧ server'.tasks sessionId = none) ↔
    2 ≤ min content.length (effectiveChunk chunkSizeInByte) ∧
      content.length < 2 ^ 32 + effectiveChunk chunkSizeInByte := by
  have hc0 := effectiveChunk_pos chunkSizeInByte
  have hc' := effectiveChunk_lt hc
  have hstart := uploadAligned_start hc' hn h0 (server.path dir file) hfree
  generalize effectiveChunk chunkSizeInByte = c at *
  constructor
  · rintro ⟨fuel, s, server', hout, -⟩
    by_contra hcond
    have h := interact_rule (uploadServed passed sessionId dir file content) (Q := fun r _ _ => r = false)
      (fun s t h => upload_stuck_step hc0 hc' hn hpath (by omega) h) fuel
      (.start content.length chunkSizeInByte) server ⟨rfl, 0, hstart, .inl rfl⟩
    rw [hout] at h
    cases h
  · rintro ⟨h2, h32⟩
    obtain ⟨fuel, r, s, server', hout, rfl, hfile, htask⟩ := interact_total
      (uploadServed passed sessionId dir file content)
      (I := UploadGoing sessionId dir file (server.path dir file) content c)
      (Q := fun r _ server' => r = true ∧ server'.files (server.path dir file) = some content ∧
        server'.tasks sessionId = none) (fun s _ => content.length - s.rangeMin)
      (fun s t h => upload_progress_step hc0 hc' hn hpath h2 h32 h) (content.length + 1)
      (.start content.length chunkSizeInByte) server ⟨rfl, 0, hstart⟩ (Nat.lt_succ_of_le (Nat.sub_le _ _))
    exact ⟨fuel, s, server', hout, hfile, htask⟩

/-- A file of three bytes in chunks of two. -/
theorem upload_postUpload_three :
    ∃ fuel s server', interact (uploadIteration [7, 8, 9]) (uploadServed (fun _ => 0) ['s'] ['d'] ['f'] [7, 8, 9]) fuel
        (.start 3 2) (.start ['r'] ['d'] ['g'] []) = .leave true (s, server') ∧
      server'.files ['r', '/', 'd', '/', 'f'] = some [7, 8, 9] ∧ server'.tasks ['s'] = none :=
  (upload_postUpload_iff (by decide) (by decide) (by decide) (by decide) rfl).mpr (by decide)

/-- A file of one byte. -/
theorem not_upload_postUpload_one :
    ¬ ∃ fuel s server', interact (uploadIteration [7]) (uploadServed (fun _ => 0) ['s'] ['d'] ['f'] [7]) fuel
        (.start 1 2) (.start ['r'] ['d'] ['g'] []) = .leave true (s, server') ∧
      server'.files ['r', '/', 'd', '/', 'f'] = some [7] ∧ server'.tasks ['s'] = none := by
  rintro ⟨fuel, s, server', hout, -⟩
  have hc : effectiveChunk 2 < 2 ^ 32 := by decide
  have h0 : [(7 : UInt8)] ≠ [] := by decide
  have hfree : (Server.start ['r'] ['d'] ['g'] []).tasks ['s'] = none := rfl
  have hstart := uploadAligned_start hc (by decide) h0 ['r', '/', 'd', '/', 'f'] hfree
  have h := interact_rule (uploadServed (fun _ => 0) ['s'] ['d'] ['f'] [7]) (Q := fun r _ _ => r = false)
    (fun s t h => upload_stuck_step (by decide) (by decide) (by decide) (by decide) (by decide) h) fuel (.start 1 2)
    (.start ['r'] ['d'] ['g'] []) ⟨rfl, 0, hstart, .inl rfl⟩
  rw [hout] at h
  cases h

end Transfer

end BofWebRpc.WebApp
