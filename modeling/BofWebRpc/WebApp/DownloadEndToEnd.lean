import BofWebRpc.WebApp.Download
import BofWebRpc.WebApp.Handlers

/-!
# Download against GetDownload

`Download` and `GetDownload` each keep a `RangeMin` and a `RangeMax` and advance them
by formulas of their own.

## The model

`downloadServed` gives an iteration of `Download` the answer of `GetDownload` to its
request; the transfer is the interaction of the two.

## What is proved

* `download_served_whole` — a file of at most one chunk arrives.
* `download_served_later` — a longer one never does. Until the last chunk client and
  handler agree on the next range. For the last chunk the client asks from the last
  byte it already has, the handler expects the byte after it, and the request is
  refused.
-/

namespace BofWebRpc.WebApp

open Runs

variable {passed : DownloadState → ℕ} {sessionId dir file : List Char}

/-- The request of the next iteration. -/
def DownloadState.request (sessionId dir file : List Char) (s : DownloadState) : Request :=
  { sessionId := sessionId, contentRange := s.header, dir := some dir, file := some file, body := [] }

/-- The answer of `GetDownload` to the next request, when no system call fails; `passed` says how far `fread` reads
ahead then. No response comes back from a server without defined behaviour. -/
def downloadServed (passed : DownloadState → ℕ) (sessionId dir file : List Char) (s : DownloadState) (server : Server) :
    Exchange × Server :=
  match getDownload (.good (passed s)) server (s.request sessionId dir file) with
  | none => (⟨none, true⟩, server)
  | some (res, server) => (⟨some res, true⟩, server)

/-- The header of the next request is read back by the handler. -/
def DownloadState.Fits (s : DownloadState) : Prop :=
  s.rangeMin < sizeMax ∧ s.rangeMax < sizeMax ∧ s.dataSize < sizeMax

/-- The handler reads the range of the next request. -/
theorem front_request {server : Server} (hpath : ¬ ['.', '.'] <:+: server.path dir file) {s : DownloadState}
    (h : s.Fits) : server.front (s.request sessionId dir file) =
      .control (server.path dir file) s.rangeMin s.rangeMax s.dataSize :=
  Server.front_control hpath rfl rfl h.1 h.2.1 h.2.2 rfl

/-- The range of the first request is one chunk. -/
theorem front_start {server : Server} {c : ℕ} (hc : 2 ≤ c) (hc' : c < 2 ^ 32)
    (hpath : ¬ ['.', '.'] <:+: server.path dir file) :
    server.front ((DownloadState.start c).request sessionId dir file) =
      .control (server.path dir file) 0 (c - 1) 0 := by
  have hmax : (DownloadState.start c).rangeMax = c - 1 := by unfold DownloadState.start toU32; simp only; omega
  have hfits : (DownloadState.start c).Fits := by
    have hzero : 0 < sizeMax := by decide
    refine ⟨hzero, ?_, hzero⟩
    rw [hmax, sizeMax]
    omega
  rw [front_request hpath hfits, hmax]
  rfl

/-- A terminated task is answered without a range, which ends the download. -/
theorem downloadIteration_terminated (s : DownloadState) (status : ℕ) (io : Bool) :
    downloadIteration s ⟨some ⟨status, [], []⟩, io⟩ = .leave false s := by
  rcases downloadIteration_cases s ⟨some ⟨status, [], []⟩, io⟩ with ⟨h, -⟩ | ⟨res, a, b, n, h, -⟩
  · exact h
  · cases h.res_eq
    exact absurd rfl h.body

/-! ### The requests GetDownload serves -/

section Requests

variable {server : Server} {req : Request} {path content : List Char} {a b n : ℕ}

/-- The first request, for at least the whole file. -/
theorem getDownload_whole {content : List UInt8} (hfront : server.front req = .control path 0 b 0)
    (htask : server.tasks req.sessionId = none) (hfile : server.files path = some content) (hb : b ≠ 0)
    (hb' : b + 1 < 2 ^ 32) (h0 : content ≠ []) (hle : content.length ≤ b + 1) (passed : ℕ) :
    ∃ server', getDownload (.good passed) server req =
      some (⟨200, formatContentRange 0 (content.length - 1) content.length, content⟩, server') := by
  have hpos : 0 < content.length := List.length_pos_iff.mpr h0
  have hsize : ftell content.length = content.length := if_pos (by omega)
  have hchunk : toU32 (sizeAdd b 1) = b + 1 := by unfold toU32 sizeAdd sizeMax; omega
  have hlast : sizeSub content.length 1 = content.length - 1 := by unfold sizeSub sizeMax; omega
  obtain ⟨io, hread⟩ := (reads_rb hfile).fread_ok (Nat.pos_iff_ne_zero.mp hpos) (.good passed) rfl (Nat.le_refl _)
  have hwhole : (content.drop (File.rb path).pos).take content.length = content := List.take_length
  rw [hwhole] at hread
  have hopens : (HandlerEnv.good passed).opens = true := rfl
  have halloc : (HandlerEnv.good passed).allocates = true := rfl
  generalize HandlerEnv.good passed = env at hopens halloc hread ⊢
  refine ⟨(server.terminate env (some io) req.sessionId .ok200).2, ?_⟩
  simp only [getDownload, hfront, Server.downloadTask, htask, hfile, hopens, halloc, hb, ne_eq, not_false_eq_true,
    and_self, if_true, hsize, hchunk, if_pos hle, hlast, hread]
  rw [Server.reply, hlast, if_pos (by omega)]
  rfl

/-- The first request, for less than the whole file. -/
theorem getDownload_first {content : List UInt8} (hfront : server.front req = .control path 0 b 0)
    (htask : server.tasks req.sessionId = none) (hfile : server.files path = some content) (hb : b ≠ 0)
    (hb' : b + 1 < 2 ^ 32) (hlt : b + 1 < content.length) (passed : ℕ) :
    ∃ io, getDownload (.good passed) server req =
      some (⟨206, formatContentRange 0 b (ftell content.length), content.take (b + 1)⟩,
        server.store req.sessionId
          ((⟨0, b, ftell content.length, b + 1, io⟩ : UpDownTask).advance (b + 1))) := by
  have hsize : b + 1 < ftell content.length ∧ ftell content.length < sizeMax := by
    refine ⟨?_, ftell_lt _⟩
    unfold ftell sizeMax
    split <;> omega
  have hchunk : toU32 (sizeAdd b 1) = b + 1 := by unfold toU32 sizeAdd sizeMax; omega
  have hlast : sizeSub (ftell content.length) 1 = ftell content.length - 1 := by unfold sizeSub sizeMax at *; omega
  obtain ⟨io, hread⟩ := (reads_rb hfile).fread_ok (Nat.succ_ne_zero b) (.good passed) rfl (Nat.le_of_lt hlt)
  have hopens : (HandlerEnv.good passed).opens = true := rfl
  have halloc : (HandlerEnv.good passed).allocates = true := rfl
  generalize HandlerEnv.good passed = env at hopens halloc hread ⊢
  refine ⟨io, ?_⟩
  simp only [getDownload, hfront, Server.downloadTask, htask, hfile, hopens, halloc, hb, ne_eq, not_false_eq_true,
    and_self, if_true, hchunk, if_neg (show ¬ ftell content.length ≤ b + 1 by omega), hread]
  rw [Server.reply, hlast, if_neg (by omega)]
  rfl

/-- A request of a transfer under way that is not the expected one. -/
theorem getDownload_unexpected {task : UpDownTask} (hfront : server.front req = .control path a b n)
    (htask : server.tasks req.sessionId = some task) (h : ¬ task.Expects a b n) (env : HandlerEnv) :
    getDownload env server req =
      some (server.terminate env (server.io req.sessionId) req.sessionId .notAcceptable406) := by
  simp only [getDownload, hfront, Server.downloadTask, htask, if_neg h]

/-- The expected request of a transfer under way, before the last range: the range is
sent and the task advances, or the request fails. -/
theorem getDownload_expected {task : UpDownTask} (hfront : server.front req = .control path a b n)
    (htask : server.tasks req.sessionId = some task) (h : task.Expects a b n) (hlast : ¬ sizeSub n 1 ≤ b)
    (env : HandlerEnv) :
    (∃ body io, body.length = task.nextSize ∧ getDownload env server req =
      some (⟨206, task.header, body⟩,
        server.store req.sessionId (({ task with io := io } : UpDownTask).advance task.nextSize))) ∨
    getDownload env server req =
      some (server.terminate env (some task.io) req.sessionId .internalServerError500) := by
  simp only [getDownload, hfront, Server.downloadTask, htask, if_pos h]
  cases hread : task.io.fread env task.nextSize server.files with
  | none => exact .inr rfl
  | some read =>
    obtain ⟨chunk, io⟩ := read
    have hnot : ¬ sizeSub task.dataSize 1 ≤ b := by
      rw [← h.2.2.2]
      exact hlast
    refine .inl ⟨chunk, io, (fread_some hread).2.2.2.1, ?_⟩
    simp only [Server.reply, if_neg hnot]
    rfl

end Requests

/-! ### Client and handler between two requests -/

/-- The next request is the one the task expects, and it is not the last. -/
structure Aligned (s : DownloadState) (task : UpDownTask) : Prop where
  rangeMin : task.rangeMin = s.rangeMin
  rangeMax : task.rangeMax = s.rangeMax
  dataSize : task.dataSize = s.dataSize
  fits : s.Fits
  notLast : s.rangeMax < s.dataSize - 1

/-- Both sides after a range that was not the last: they still agree, or the client
starts its last request one byte too early. -/
theorem advance_together {s : DownloadState} {task : UpDownTask} {body : List UInt8} {b n : ℕ}
    (hb : s.rangeMax = b) (hb' : task.rangeMax = b) (hn : s.dataSize = n) (hn' : task.dataSize = n)
    (hlt : n < sizeMax) (hnot : b < n - 1) :
    Aligned (s.advance b body) (task.advance body.length) ∨
      ((s.advance b body).Fits ∧ (task.advance body.length).rangeMin ≠ (s.advance b body).rangeMin) := by
  have h₀ : n ≠ 0 := by omega
  have h1 : sizeSub n 1 = n - 1 := by unfold sizeSub sizeMax at *; omega
  have hmin : sizeAdd b 1 = b + 1 := by unfold sizeAdd sizeMax at *; omega
  have hmax : (s.advance b body).rangeMax =
      if n - 1 ≤ sizeAdd b body.length then n - 1 else sizeAdd b body.length := advance_rangeMax hb hn rfl h₀ hlt
  have hadd : sizeAdd b body.length < sizeMax := Nat.mod_lt _ (by decide)
  have hsum : sizeSub (sizeAdd (sizeAdd b 1) body.length) 1 = sizeAdd b body.length := by
    unfold sizeSub sizeAdd sizeMax; omega
  by_cases hl : n - 1 ≤ sizeAdd b body.length
  · right
    have hstart : (s.advance b body).rangeMin = b := by
      simp only [DownloadState.advance, hb, hn, hsum, h1, if_pos hl]
    rw [if_pos hl] at hmax
    refine ⟨⟨by omega, by omega, ?_⟩, ?_⟩
    · simpa [DownloadState.advance, hn] using hlt
    · simp only [UpDownTask.advance, hb', hmin, hstart]
      omega
  · left
    have hstart : (s.advance b body).rangeMin = b + 1 := by
      rw [DownloadState.advance, hb, hn, h1, hsum, if_neg hl, hmin]
    rw [if_neg hl] at hmax
    refine ⟨?_, ?_, ?_, ⟨by omega, by omega, ?_⟩, ?_⟩
    · simp only [UpDownTask.advance, hb', hmin, hstart]
    · simp only [UpDownTask.advance, hb', hn', h1, if_neg hl, hmax]
    · simp only [UpDownTask.advance, hn', DownloadState.advance, hn]
    · simpa [DownloadState.advance, hn] using hlt
    · rw [hmax]
      simp only [DownloadState.advance, hn]
      omega

/-- Before a request of a download of more than one chunk. -/
def LongDownload (sessionId dir file : List Char) (c : ℕ) (content : List UInt8) (s : DownloadState)
    (server : Server) : Prop :=
  ¬ ['.', '.'] <:+: server.path dir file ∧
    ((s = .start c ∧ server.tasks sessionId = none ∧ server.files (server.path dir file) = some content) ∨
      ∃ task, server.tasks sessionId = some task ∧
        (Aligned s task ∨ (s.Fits ∧ task.rangeMin ≠ s.rangeMin)))

/-- The client accepts the range the handler sent, or gives up. -/
theorem longDownload_sent (sessionId : List Char) (s : DownloadState) {server : Server} (task : UpDownTask) (c : ℕ)
    {a b n : ℕ} (content body : List UInt8) (hpath : ¬ ['.', '.'] <:+: server.path dir file)
    (hmin : task.rangeMin = a) (hmax : task.rangeMax = b) (hn : task.dataSize = n) (hlt : n < sizeMax)
    (ha : a < sizeMax)
    (hnot : b < n - 1) :
    (downloadIteration s ⟨some ⟨206, task.header, body⟩, true⟩).Sat
      (fun s' => LongDownload sessionId dir file c content s'
        (server.store sessionId (task.advance body.length)))
      fun r _ => r = false := by
  rcases downloadIteration_cases s ⟨some ⟨206, task.header, body⟩, true⟩ with ⟨h, -⟩ | ⟨res, a', b', n', h, hout⟩
  · rw [h]
    rfl
  · cases h.res_eq
    have hhead := h.header
    simp only [UpDownTask.header, hmin, hmax, hn] at hhead
    rw [parseContentRangeRequest_format ha (by omega) hlt] at hhead
    cases hhead
    rw [hout, if_neg (show ¬ (206 : ℕ) = 200 by decide)]
    refine ⟨hpath, .inr ⟨_, Function.update_self .., ?_⟩⟩
    exact advance_together h.rangeMax hmax h.dataSize hn hlt hnot

/-- **One request** of a download of more than one chunk. -/
theorem longDownload_step {c : ℕ} {content : List UInt8} (hc : 2 ≤ c) (hc' : c < 2 ^ 32) (hlong : c < content.length)
    {s : DownloadState} {server : Server} (h : LongDownload sessionId dir file c content s server) :
    (downloadIteration s (downloadServed passed sessionId dir file s server).1).Sat
      (fun s' => LongDownload sessionId dir file c content s' (downloadServed passed sessionId dir file s server).2)
      fun r _ => r = false := by
  obtain ⟨hpath, ⟨rfl, hfree, hfile⟩ | ⟨task, htask, hs⟩⟩ := h
  · -- the first request
    obtain ⟨io, hserved⟩ := getDownload_first (front_start hc hc' hpath) hfree hfile (by omega) (by omega) (by omega)
      (passed (.start c))
    have hsize : c < ftell content.length := by
      unfold ftell sizeMax
      split <;> omega
    simp only [downloadServed, hserved]
    have hlen : (content.take (c - 1 + 1)).length = c - 1 + 1 := by rw [List.length_take]; omega
    have hsent := longDownload_sent sessionId (.start c)
      ⟨0, c - 1, ftell content.length, c - 1 + 1, io⟩ c content (content.take (c - 1 + 1)) hpath
      (a := 0) (b := c - 1) (n := ftell content.length) rfl rfl rfl (ftell_lt _) (by decide) (by omega)
    rwa [hlen] at hsent
  · have hfits : s.Fits := hs.elim Aligned.fits And.left
    have hfront : server.front (s.request sessionId dir file) =
        .control (server.path dir file) s.rangeMin s.rangeMax s.dataSize := front_request hpath hfits
    rcases hs with hs | ⟨-, hne⟩
    · -- the request is the expected one
      have hnot := hs.notLast
      have hexp : task.Expects s.rangeMin s.rangeMax s.dataSize :=
        ⟨hs.rangeMin.symm, hs.rangeMax.symm, by rw [hs.dataSize]; omega, hs.dataSize.symm⟩
      have hlast : ¬ sizeSub s.dataSize 1 ≤ s.rangeMax := by
        have := hfits.2.2
        unfold sizeSub sizeMax at *
        omega
      rcases getDownload_expected hfront htask hexp hlast (.good (passed s)) with ⟨body, io, hbody, hserved⟩ | hserved
      · simp only [downloadServed, hserved, ← hbody]
        exact longDownload_sent sessionId s { task with io := io } c content body hpath hs.rangeMin hs.rangeMax
          hs.dataSize
          hfits.2.2 hfits.1 hnot
      · simp only [downloadServed, hserved, Server.terminate, downloadIteration_terminated]
        rfl
    · -- the last request, one byte too early
      have hserved := getDownload_unexpected hfront htask (fun h => hne h.1.symm) (.good (passed s))
      simp only [downloadServed, hserved, Server.terminate, downloadIteration_terminated]
      rfl

/-! ### The whole transfer -/

section Transfer

variable {server : Server} {content : List UInt8} {c : ℕ}

/-- A file longer than one chunk never arrives. -/
theorem download_served_later (hc : 2 ≤ c) (hc' : c < 2 ^ 32) (hpath : ¬ ['.', '.'] <:+: server.path dir file)
    (hfile : server.files (server.path dir file) = some content) (hfree : server.tasks sessionId = none)
    (hlong : c < content.length) (fuel : ℕ) (s : DownloadState) (server' : Server) :
    interact downloadIteration (downloadServed passed sessionId dir file) fuel (.start c) server ≠
      .leave true (s, server') := by
  intro hout
  have h := interact_rule (downloadServed passed sessionId dir file) (Q := fun r _ _ => r = false)
    (fun s server h => longDownload_step hc hc' hlong h) fuel (.start c) server
    ⟨hpath, .inl ⟨rfl, hfree, hfile⟩⟩
  rw [hout] at h
  cases h

/-- A file of at most one chunk arrives with the first answer. -/
theorem download_served_whole (hc : 2 ≤ c) (hc' : c < 2 ^ 32) (hpath : ¬ ['.', '.'] <:+: server.path dir file)
    (hfile : server.files (server.path dir file) = some content) (hfree : server.tasks sessionId = none)
    (h0 : content ≠ []) (hshort : content.length ≤ c) :
    ∃ s server', interact downloadIteration (downloadServed passed sessionId dir file) 1 (.start c) server =
      .leave true (s, server') ∧ s.io = content := by
  have hpos : 0 < content.length := List.length_pos_iff.mpr h0
  obtain ⟨server', hserved⟩ := getDownload_whole (front_start hc hc' hpath) hfree hfile (by omega) (by omega) h0
    (by omega) (passed (.start c))
  have hn1 : sizeSub content.length 1 = content.length - 1 := by unfold sizeSub sizeMax; omega
  have hacc : Accepts (.start c)
      ⟨some ⟨200, formatContentRange 0 (content.length - 1) content.length, content⟩, true⟩
      ⟨200, formatContentRange 0 (content.length - 1) content.length, content⟩ 0 (content.length - 1)
      content.length := by
    have hrange : ((DownloadState.start c).controlData (content.length - 1) content.length).rangeMax =
        content.length - 1 := by
      simp only [DownloadState.controlData, DownloadState.start, if_true, hn1]
      rw [if_pos]
      unfold sizeAdd sizeMax
      omega
    refine ⟨rfl, .inl rfl, h0, ?_, by omega, rfl, hrange, rfl, ?_, rfl⟩
    · exact parseContentRangeRequest_format (by decide) (by unfold sizeMax; omega) (by unfold sizeMax; omega)
    · unfold toU32 sizeAdd sizeSub sizeMax
      simp only
      omega
  rcases downloadIteration_cases (.start c)
      ⟨some ⟨200, formatContentRange 0 (content.length - 1) content.length, content⟩, true⟩ with
    ⟨-, hno⟩ | ⟨res, a, b, n, h, hout⟩
  · exact absurd hacc (hno _ _ _ _)
  · obtain ⟨rfl, rfl, rfl, rfl⟩ := hacc.unique h
    have hend : content.length - 1 ≤ sizeAdd (content.length - 1) content.length := by
      unfold sizeAdd sizeMax
      omega
    rw [if_pos rfl, advance_rangeMax h.rangeMax h.dataSize rfl h.size (by unfold sizeMax; omega), hn1, if_pos hend,
      decide_eq_true (le_refl _)] at hout
    refine ⟨((DownloadState.start c).controlData (content.length - 1) content.length).advance (content.length - 1)
      content, server', ?_, by simp [DownloadState.advance, DownloadState.start]⟩
    simp only [interact, downloadServed, hserved, hout]

/-- **Download against `GetDownload`**: for every content and every chunk size, the
transfer ends with true and the remote file exactly when one chunk holds the file. -/
theorem download_getDownload_iff (hc : 2 ≤ c) (hc' : c < 2 ^ 32) (hpath : ¬ ['.', '.'] <:+: server.path dir file)
    (hfile : server.files (server.path dir file) = some content) (hfree : server.tasks sessionId = none)
    (h0 : content ≠ []) :
    (∃ fuel s server', interact downloadIteration (downloadServed passed sessionId dir file) fuel (.start c) server =
      .leave true (s, server') ∧ s.io = content) ↔ content.length ≤ c := by
  constructor
  · rintro ⟨fuel, s, server', hout, -⟩
    by_contra hlong
    exact download_served_later hc hc' hpath hfile hfree (not_le.mp hlong) fuel s server' hout
  · intro hshort
    exact ⟨1, download_served_whole hc hc' hpath hfile hfree h0 hshort⟩

/-- A file of two bytes in chunks of two. -/
theorem download_getDownload_two :
    ∃ fuel s server', interact downloadIteration (downloadServed (fun _ => 0) ['s'] ['d'] ['f']) fuel (.start 2)
      (.start ['r'] ['d'] ['f'] [7, 8]) = .leave true (s, server') ∧ s.io = [7, 8] :=
  (download_getDownload_iff (by decide) (by decide) (by decide) (by decide) rfl (by decide)).mpr (by decide)

/-- A file of three bytes in chunks of two. -/
theorem not_download_getDownload_three :
    ¬ ∃ fuel s server', interact downloadIteration (downloadServed (fun _ => 0) ['s'] ['d'] ['f']) fuel (.start 2)
      (.start ['r'] ['d'] ['f'] [7, 8, 9]) = .leave true (s, server') ∧ s.io = [7, 8, 9] := by
  rintro ⟨fuel, s, server', hout, -⟩
  have hfile : (Server.start ['r'] ['d'] ['f'] [7, 8, 9]).files ['r', '/', 'd', '/', 'f'] = some [7, 8, 9] := by decide
  exact download_served_later (by decide) (by decide) (by decide) hfile rfl (by decide) fuel s server' hout

end Transfer

end BofWebRpc.WebApp
