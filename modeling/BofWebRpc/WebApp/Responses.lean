import BofWebRpc.WebApp.Download
import BofWebRpc.WebApp.Upload

/-!
# Absent responses

`Res` holds no response before the first request, nor when a request fails. `Upload` and `Download`
look at it with `Res->` on the way through an iteration and in the arguments of their error logs.

## The model

`Watched` adds the variable `Res` to the variables of a loop, and a history of what it held each time
that it was looked at. The loops are those of `Upload` and `Download`, with each `Res->` in its place.

## What is proved

* `watchedUpload_map`, `watchedDownload_map` — the history does not change what the loops do.
* `responses_held_iff` — `Res->` always finds a response, but for a read of the file that fails before the first
  request.
-/

namespace BofWebRpc.WebApp

open Runs

/-! ### Looking at the response -/

/-- The variables of a transfer, and `Res`. -/
structure Watched (σ : Type) where
  /-- The other variables. -/
  vars : σ
  /-- `Res`. -/
  res : Option Response
  /-- History: what `Res` held at each `Res->`. -/
  uses : List (Option Response)
  deriving DecidableEq

variable {σ : Type}

/-- Before the loop. -/
def Watched.start (s : σ) : Watched σ := { vars := s, res := none, uses := [] }

/-- `Res->`, `n` times. -/
def Watched.use (w : Watched σ) (n : ℕ) : Watched σ := { w with uses := w.uses ++ List.replicate n w.res }

/-- `Res = ..`, and the tests of its status; the error log names the status twice. -/
def Watched.receive (w : Watched σ) (res : Option Response) : Option Response × Watched σ :=
  let w := { w with res := res }
  match res with
  | none => (none, w)
  | some res =>
    let w := w.use (if res.status = 200 then 1 else 2)
    if res.status = 200 ∨ res.status = 206 then (some res, w) else (none, w.use 2)

/-- Every `Res->` found a response. -/
def Watched.Held (w : Watched σ) : Prop := ∀ res ∈ w.uses, res ≠ none

instance (w : Watched σ) : Decidable w.Held := inferInstanceAs (Decidable (∀ _ ∈ _, _))

/-! ### The loops -/

/-- A block has been read and posted. -/
def UploadState.posted (file : List UInt8) (s : UploadState) (res : Option Response) : UploadState :=
  { s with
    reads := s.reads ++ [s.readSize]
    pos := s.pos + s.readSize
    posts := s.posts ++ [⟨s.header (ftell file.length), s.chunk file, res⟩] }

/-- The answer to a POST, once its status is known. -/
def Watched.confirm (w : Watched UploadState) (dataSize readSize : ℕ) (res : Response) :
    Outcome (Watched UploadState) Bool :=
  let s := w.vars
  -- `Res->get_header_value`
  let w := w.use 1
  match parseContentRangeRequest res.contentRange with
  | none => .leave false w
  | some (newRangeMin, newRangeMax, newDataSize) =>
    if s.rangeMin = newRangeMin ∧ s.rangeMax = newRangeMax ∧ dataSize = newDataSize then
      if res.status = 200 then .leave (decide (sizeSub dataSize 1 ≤ s.rangeMax)) (w.use 1)
      else .next { w.use 2 with vars := s.advance dataSize readSize }
    else .leave false w

/-- One turn of the loop of `Upload`. -/
def watchedUploadIteration (file : List UInt8) (w : Watched UploadState) (e : Exchange) :
    Outcome (Watched UploadState) Bool :=
  if w.vars.canRead file ∧ e.io = true then
    match ({ w with vars := w.vars.posted file e.res } : Watched UploadState).receive e.res with
    | (none, t) => .leave false t
    | (some res, t) => t.confirm (ftell file.length) w.vars.readSize res
  else
    -- the error log names the size and the address of `Res->body`
    .leave false (({ w with vars.reads := w.vars.reads ++ [w.vars.readSize] } : Watched UploadState).use 2)

/-- `Upload`. -/
def watchedUpload (connected opened : Bool) (file : List UInt8) (chunkSizeInByte : ℕ) (es : List Exchange) :
    Outcome (Watched UploadState) Bool :=
  let w := Watched.start (UploadState.start (ftell file.length) chunkSizeInByte)
  if connected && opened then loop (watchedUploadIteration file) w es else .leave false w

/-- The answer to a GET, once its status is known. -/
def Watched.store (w : Watched DownloadState) (io : Bool) (res : Response) : Outcome (Watched DownloadState) Bool :=
  let s := w.vars
  -- `Res->body.size()`
  let w := w.use 1
  if res.body.length = 0 then .leave false w
  else
    -- `Res->get_header_value`
    let w := w.use 1
    match parseContentRangeRequest res.contentRange with
    | none => .leave false w
    | some (newRangeMin, newRangeMax, newDataSize) =>
      let s := s.controlData newRangeMax newDataSize
      if newDataSize ≠ 0 ∧ s.rangeMin = newRangeMin ∧ s.rangeMax = newRangeMax ∧ s.dataSize = newDataSize then
        let w := w.use 1
        if toU32 (sizeAdd (sizeSub s.rangeMax s.rangeMin) 1) = res.body.length then
          -- the address and the size of `Res->body`, for `fwrite`; once more in the error log
          let w := w.use 2
          if io = true then
            let s := s.advance newRangeMax res.body
            if res.status = 200 then .leave (decide (sizeSub s.dataSize 1 ≤ s.rangeMax)) { w.use 1 with vars := s }
            else .next { w.use 2 with vars := s }
          else .leave false (w.use 2)
        else .leave false (w.use 1)
      else .leave false w

/-- One turn of the loop of `Download`. -/
def watchedDownloadIteration (w : Watched DownloadState) (e : Exchange) : Outcome (Watched DownloadState) Bool :=
  match w.receive e.res with
  | (none, t) => .leave false t
  | (some res, t) => t.store e.io res

/-- `Download`. -/
def watchedDownload (connected opened : Bool) (chunkSizeInByte : ℕ) (es : List Exchange) :
    Outcome (Watched DownloadState) Bool :=
  let w := Watched.start (DownloadState.start chunkSizeInByte)
  if connected && opened then loop watchedDownloadIteration w es else .leave false w

/-! ### Uses -/

/-- Only `Res` matters. -/
theorem held_vars (w : Watched σ) (s : σ) : ({ w with vars := s } : Watched σ).Held ↔ w.Held := Iff.rfl

/-- With a response, looking at it is no harm. -/
theorem use_held {w : Watched σ} {res : Response} (h : w.res = some res) (n : ℕ) : (w.use n).Held ↔ w.Held := by
  simp only [Watched.Held, Watched.use, List.forall_mem_append, h]
  refine and_iff_left fun r hr => ?_
  rw [List.eq_of_mem_replicate hr]
  exact (Option.some_ne_none res)

/-- Without one it is. -/
theorem use_held_iff (w : Watched σ) {n : ℕ} (hn : n ≠ 0) : (w.use n).Held ↔ w.Held ∧ w.res ≠ none := by
  cases hres : w.res with
  | none =>
    refine iff_of_false (fun hheld => hheld none ?_ rfl) fun h => h.2 rfl
    rw [Watched.use, hres]
    exact List.mem_append_right _ (List.mem_replicate.mpr ⟨hn, rfl⟩)
  | some res => exact (use_held hres n).trans (and_iff_left (Option.some_ne_none res)).symm

/-- The answer to a request is looked at when there is one; if its status is 200 or 206, the iteration goes on. -/
theorem receive_cases (w : Watched σ) (o : Option Response) :
    ∃ t : Watched σ, t.vars = w.vars ∧ (t.Held ↔ w.Held) ∧
      ((w.receive o = (none, t) ∧ ∀ res, o = some res → ¬ (res.status = 200 ∨ res.status = 206)) ∨
        ∃ res, o = some res ∧ (res.status = 200 ∨ res.status = 206) ∧ w.receive o = (some res, t) ∧
          t.res = some res) := by
  cases o with
  | none => exact ⟨{ w with res := none }, rfl, Iff.rfl, .inl ⟨rfl, fun res h => by cases h⟩⟩
  | some res =>
    have hheld : ∀ n, (({ w with res := some res } : Watched σ).use n).Held ↔ w.Held := use_held rfl
    by_cases hstatus : res.status = 200 ∨ res.status = 206
    · refine ⟨({ w with res := some res } : Watched σ).use (if res.status = 200 then 1 else 2), rfl, hheld _,
        .inr ⟨res, rfl, hstatus, ?_, rfl⟩⟩
      simp only [Watched.receive, if_pos hstatus]
    · refine ⟨(({ w with res := some res } : Watched σ).use (if res.status = 200 then 1 else 2)).use 2, rfl,
        (use_held rfl 2).trans (hheld _), .inl ⟨?_, fun res' h => ?_⟩⟩
      · simp only [Watched.receive, if_neg hstatus]
      · cases h
        exact hstatus

/-! ### Upload -/

/-- What is done with an answer is what the tests of `Upload` say, and the history changes nothing. -/
theorem confirm_map (w : Watched UploadState) (dataSize readSize : ℕ) {res : Response}
    (hstatus : res.status = 200 ∨ res.status = 206) :
    (w.confirm dataSize readSize res).map Watched.vars = match w.vars.confirmed dataSize (some res) with
      | none => .leave false w.vars
      | some res =>
        if res.status = 200 then .leave (decide (sizeSub dataSize 1 ≤ w.vars.rangeMax)) w.vars
        else .next (w.vars.advance dataSize readSize) := by
  unfold Watched.confirm UploadState.confirmed
  cases hparse : parseContentRangeRequest res.contentRange with
  | none =>
    simp only [bind, Option.bind, guard, if_pos hstatus, hparse, pure]
    rfl
  | some p =>
    simp only [bind, Option.bind, guard, if_pos hstatus, hparse, pure]
    by_cases hrange : w.vars.rangeMin = p.1 ∧ w.vars.rangeMax = p.2.1 ∧ dataSize = p.2.2
    · rw [if_pos hrange, if_pos hrange]
      by_cases h200 : res.status = 200
      · simp only [if_pos h200]
        rfl
      · simp only [if_neg h200]
        rfl
    · rw [if_neg hrange, if_neg hrange]
      rfl

/-- The turn of the loop, with the state after the POST. -/
theorem uploadIteration_posted (file : List UInt8) (s : UploadState) (e : Exchange) :
    uploadIteration file s e =
      if s.canRead file ∧ e.io = true then
        match (s.posted file e.res).confirmed (ftell file.length) e.res with
        | none => .leave false (s.posted file e.res)
        | some res =>
          if res.status = 200 then
            .leave (decide (sizeSub (ftell file.length) 1 ≤ (s.posted file e.res).rangeMax)) (s.posted file e.res)
          else .next ((s.posted file e.res).advance (ftell file.length) s.readSize)
      else .leave false { s with reads := s.reads ++ [s.readSize] } := rfl

/-- The history changes nothing. -/
theorem watchedUploadIteration_map (file : List UInt8) (w : Watched UploadState) (e : Exchange) :
    (watchedUploadIteration file w e).map Watched.vars = uploadIteration file w.vars e := by
  rw [watchedUploadIteration, uploadIteration_posted]
  split_ifs with hread
  · obtain ⟨t, hvars, -, ⟨ht, hno⟩ | ⟨res, hres, hstatus, ht, -⟩⟩ :=
      receive_cases ({ w with vars := w.vars.posted file e.res } : Watched UploadState) e.res
    · have hnone : (w.vars.posted file e.res).confirmed (ftell file.length) e.res = none := by
        refine Option.eq_none_iff_forall_ne_some.mpr fun res h => ?_
        obtain ⟨hres, hstatus, -⟩ := (confirmed_eq_some_iff _ _ _ _).mp h
        exact hno res hres hstatus
      rw [ht, hnone]
      exact congrArg (Outcome.leave false) hvars
    · rw [ht]
      refine (confirm_map t _ _ hstatus).trans ?_
      rw [hvars, ← hres]
  · rfl

/-- `fread` succeeds, or an earlier response is there for the error log. -/
def Watched.CanLog (file : List UInt8) (w : Watched UploadState) (e : Exchange) : Prop :=
  (w.vars.canRead file ∧ e.io = true) ∨ w.res ≠ none

/-- The answer to a POST is looked at while it is there, and it still is when the loop goes round. -/
theorem confirm_held {w : Watched UploadState} {res : Response} (h : w.res = some res) (dataSize readSize : ℕ) :
    ((w.confirm dataSize readSize res).state.Held ↔ w.Held) ∧
      (w.confirm dataSize readSize res).Sat (fun t => t.res ≠ none) fun _ _ => True := by
  have huse : ∀ n, (w.use n).Held ↔ w.Held := use_held h
  have huse₂ : ∀ m n, ((w.use m).use n).Held ↔ w.Held := fun m n => (use_held (w := w.use m) h n).trans (huse m)
  unfold Watched.confirm
  cases parseContentRangeRequest res.contentRange with
  | none => exact ⟨huse 1, trivial⟩
  | some p =>
    dsimp only
    split_ifs
    · exact ⟨huse₂ 1 1, trivial⟩
    · refine ⟨huse₂ 1 2, ?_⟩
      exact h.trans_ne (Option.some_ne_none res)
    · exact ⟨huse 1, trivial⟩

/-- **One iteration** of `Upload`. -/
theorem watchedUploadIteration_held (file : List UInt8) (w : Watched UploadState) (e : Exchange) :
    ((watchedUploadIteration file w e).state.Held ↔ w.Held ∧ w.CanLog file e) ∧
      (watchedUploadIteration file w e).Sat (fun t => t.res ≠ none) fun _ _ => True := by
  unfold watchedUploadIteration
  split_ifs with hread
  · have hcan : w.CanLog file e := .inl hread
    rw [and_iff_left hcan]
    obtain ⟨t, -, hheld, ⟨ht, -⟩ | ⟨res, -, -, ht, hres⟩⟩ :=
      receive_cases ({ w with vars := w.vars.posted file e.res } : Watched UploadState) e.res
    · rw [ht]
      exact ⟨hheld.trans (held_vars w _), trivial⟩
    · rw [ht]
      obtain ⟨hconfirm, hsat⟩ := confirm_held hres (ftell file.length) w.vars.readSize
      exact ⟨(hconfirm.trans hheld).trans (held_vars w _), hsat⟩
  · refine ⟨?_, trivial⟩
    have hcan : w.CanLog file e ↔ w.res ≠ none := or_iff_right hread
    rw [hcan, ← held_vars w { w.vars with reads := w.vars.reads ++ [w.vars.readSize] }]
    exact use_held_iff ({ w with vars.reads := w.vars.reads ++ [w.vars.readSize] } : Watched UploadState) two_ne_zero

/-! ### Download -/

/-- An answer that passes all the tests is accepted. -/
theorem accepts_of {s : DownloadState} {e : Exchange} {res : Response} {a b n : ℕ} (hres : e.res = some res)
    (hstatus : res.status = 200 ∨ res.status = 206) (hbody : res.body.length ≠ 0)
    (hparse : parseContentRangeRequest res.contentRange = some (a, b, n))
    (hrange : n ≠ 0 ∧ (s.controlData b n).rangeMin = a ∧ (s.controlData b n).rangeMax = b ∧
      (s.controlData b n).dataSize = n)
    (hchunk : toU32 (sizeAdd (sizeSub (s.controlData b n).rangeMax (s.controlData b n).rangeMin) 1) = res.body.length)
    (hio : e.io = true) : Accepts s e res a b n := by
  obtain ⟨hn, hmin, hmax, hsize⟩ := hrange
  rw [hmin, hmax] at hchunk
  rw [controlData_rangeMin] at hmin
  exact ⟨hres, hstatus, fun h => hbody (List.length_eq_zero_iff.mpr h), hparse, hn, hmin, hmax, hsize, hchunk, hio⟩

/-- What is done with an answer is what `Download` does, and the history changes nothing. -/
theorem store_map (w : Watched DownloadState) {e : Exchange} {res : Response} (hres : e.res = some res)
    (hstatus : res.status = 200 ∨ res.status = 206) :
    (w.store e.io res).map Watched.vars = downloadIteration w.vars e := by
  have hleave : (∀ a b n, ¬ Accepts w.vars e res a b n) → downloadIteration w.vars e = .leave false w.vars := by
    intro hno
    rcases downloadIteration_cases w.vars e with ⟨he, -⟩ | ⟨res', a, b, n, h, -⟩
    · exact he
    · cases hres.symm.trans h.res_eq
      exact absurd h (hno a b n)
  unfold Watched.store
  by_cases hbody : res.body.length = 0
  · rw [hleave fun a b n h => h.body (List.length_eq_zero_iff.mp hbody)]
    simp only [if_pos hbody]
    rfl
  rw [if_neg hbody]
  cases hparse : parseContentRangeRequest res.contentRange with
  | none =>
    rw [hleave fun a b n h => by cases hparse.symm.trans h.header]
    rfl
  | some p =>
    obtain ⟨a, b, n⟩ := p
    have hleave : ¬ Accepts w.vars e res a b n → downloadIteration w.vars e = .leave false w.vars := by
      refine fun hno => hleave fun a' b' n' h => ?_
      cases hparse.symm.trans h.header
      exact hno h
    dsimp only
    split_ifs with hrange hchunk hio h200
    · have h := accepts_of hres hstatus hbody hparse hrange hchunk hio
      rw [downloadIteration, (check_eq_some_iff _ _ _ _ _ _).mpr h]
      simp only [if_pos h200]
      rfl
    · have h := accepts_of hres hstatus hbody hparse hrange hchunk hio
      rw [downloadIteration, (check_eq_some_iff _ _ _ _ _ _).mpr h]
      simp only [if_neg h200]
      rfl
    · rw [hleave fun h => hio h.io]
      rfl
    · rw [hleave fun h => hchunk ?_]
      · rfl
      · rw [controlData_rangeMin, h.rangeMin, h.rangeMax]
        exact h.chunk
    · rw [hleave fun h => hrange ⟨h.size, (controlData_rangeMin _ _ _).trans h.rangeMin, h.rangeMax, h.dataSize⟩]
      rfl

/-- The history changes nothing. -/
theorem watchedDownloadIteration_map (w : Watched DownloadState) (e : Exchange) :
    (watchedDownloadIteration w e).map Watched.vars = downloadIteration w.vars e := by
  rw [watchedDownloadIteration]
  obtain ⟨t, hvars, -, ⟨ht, hno⟩ | ⟨res, hres, hstatus, ht, -⟩⟩ := receive_cases w e.res
  · rw [ht]
    rcases downloadIteration_cases w.vars e with ⟨he, -⟩ | ⟨res, a, b, n, h, -⟩
    · rw [he]
      exact congrArg (Outcome.leave false) hvars
    · exact absurd h.status (hno res h.res_eq)
  · rw [ht, ← hvars]
    exact store_map t hres hstatus

/-- The answer to a GET is looked at while it is there. -/
theorem store_held {w : Watched DownloadState} {res : Response} (h : w.res = some res) (io : Bool) :
    (w.store io res).state.Held ↔ w.Held := by
  have huse : ∀ {t : Watched DownloadState}, t.res = some res ∧ (t.Held ↔ w.Held) → ∀ n,
      (t.use n).res = some res ∧ ((t.use n).Held ↔ w.Held) := fun ht n => ⟨ht.1, (use_held ht.1 n).trans ht.2⟩
  have h₁ := huse ⟨h, Iff.rfl⟩ 1
  have h₂ := huse h₁ 1
  have h₃ := huse h₂ 1
  have h₄ := huse h₃ 2
  unfold Watched.store
  cases parseContentRangeRequest res.contentRange with
  | none =>
    dsimp only
    split_ifs
    · exact h₁.2
    · exact h₂.2
  | some p =>
    dsimp only
    split_ifs
    · exact h₁.2
    · exact (held_vars _ _).trans (huse h₄ 1).2
    · exact (held_vars _ _).trans (huse h₄ 2).2
    · exact (huse h₄ 2).2
    · exact (huse h₃ 1).2
    · exact h₂.2

/-- **One iteration** of `Download`. -/
theorem watchedDownloadIteration_held (w : Watched DownloadState) (e : Exchange) :
    (watchedDownloadIteration w e).state.Held ↔ w.Held := by
  rw [watchedDownloadIteration]
  obtain ⟨t, -, hheld, ⟨ht, -⟩ | ⟨res, -, -, ht, hres⟩⟩ := receive_cases w e.res
  · rw [ht]
    exact hheld
  · rw [ht]
    exact (store_held hres e.io).trans hheld

/-! ### Whole transfers -/

/-- `watchedUpload` does what `Upload` does. -/
theorem watchedUpload_map (connected opened : Bool) (file : List UInt8) (chunkSizeInByte : ℕ) (es : List Exchange) :
    (watchedUpload connected opened file chunkSizeInByte es).map Watched.vars =
      upload connected opened file chunkSizeInByte es := by
  unfold watchedUpload upload
  dsimp only
  split_ifs
  · exact loop_map (watchedUploadIteration_map file) es _
  · rfl

/-- `watchedDownload` does what `Download` does. -/
theorem watchedDownload_map (connected opened : Bool) (chunkSizeInByte : ℕ) (es : List Exchange) :
    (watchedDownload connected opened chunkSizeInByte es).map Watched.vars =
      download connected opened chunkSizeInByte es := by
  unfold watchedDownload download
  dsimp only
  split_ifs
  · exact loop_map watchedDownloadIteration_map es _
  · rfl

/-- `Download` never looks at a response that is absent. -/
theorem watchedDownload_held (connected opened : Bool) (chunkSizeInByte : ℕ) (es : List Exchange) :
    (watchedDownload connected opened chunkSizeInByte es).state.Held := by
  have hstart : (Watched.start (DownloadState.start chunkSizeInByte)).Held := fun res h => by cases h
  unfold watchedDownload
  dsimp only
  split_ifs
  · have hloop := loop_iff (P := fun _ _ => True) (K := Watched.Held)
      (fun w e => (watchedDownloadIteration_held w e).trans (and_iff_left trivial).symm) es
    exact (hloop _).mpr ⟨hstart, along_true _ _ _⟩
  · exact hstart

/-- Once the loop has gone round, there is a response for the error log. -/
theorem along_canLog_cons (file : List UInt8) (w : Watched UploadState) (e : Exchange) (es : List Exchange) :
    Along (watchedUploadIteration file) (Watched.CanLog file) w (e :: es) ↔ w.CanLog file e := by
  rw [Along]
  apply and_iff_left
  have hnext := (watchedUploadIteration_held file w e).2
  have hlater : ∀ t : Watched UploadState, t.res ≠ none →
      Along (watchedUploadIteration file) (Watched.CanLog file) t es :=
    along_inv (fun t a ht => ⟨.inr ht, (watchedUploadIteration_held file t a).2⟩) es
  cases hb : watchedUploadIteration file w e with
  | leave r t => trivial
  | next t =>
    rw [hb] at hnext
    exact hlater t hnext

/-- Before, there is none. -/
theorem along_canLog_iff (file : List UInt8) {w : Watched UploadState} (h : w.res = none) (es : List Exchange) :
    Along (watchedUploadIteration file) (Watched.CanLog file) w es ↔
      ∀ e ∈ es.head?, w.vars.canRead file ∧ e.io = true := by
  cases es with
  | nil => exact iff_of_true trivial fun e he => by cases he
  | cons e es =>
    have hfirst : w.CanLog file e ↔ w.vars.canRead file ∧ e.io = true := or_iff_left fun hres => hres h
    rw [along_canLog_cons, hfirst]
    simp

/-- The size of the first `fread`. -/
theorem readSize_start {n chunkSizeInByte : ℕ} (hc : chunkSizeInByte < 2 ^ 32) :
    (UploadState.start (ftell n) chunkSizeInByte).readSize = min n (effectiveChunk chunkSizeInByte) := by
  have hpos := effectiveChunk_pos chunkSizeInByte
  have hlt := effectiveChunk_lt hc
  unfold UploadState.readSize UploadState.start ftell toU32 sizeAdd sizeSub sizeMax
  dsimp only
  split_ifs <;> omega

/-- The first `fread` has something to read when the file is not empty. -/
theorem canRead_start_iff (file : List UInt8) {chunkSizeInByte : ℕ} (hc : chunkSizeInByte < 2 ^ 32) :
    (UploadState.start (ftell file.length) chunkSizeInByte).canRead file ↔ file ≠ [] := by
  have hpos := effectiveChunk_pos chunkSizeInByte
  have hstart : (UploadState.start (ftell file.length) chunkSizeInByte).pos = 0 := rfl
  rw [← List.length_pos_iff, UploadState.canRead, UploadState.chunk, readSize_start hc, hstart, List.drop_zero,
    List.length_take]
  omega

/-- `Upload` looks at an absent response when the first `fread` fails. -/
theorem watchedUpload_held_iff (connected opened : Bool) (file : List UInt8) {chunkSizeInByte : ℕ}
    (hc : chunkSizeInByte < 2 ^ 32) (es : List Exchange) :
    (watchedUpload connected opened file chunkSizeInByte es).state.Held ↔
      ((connected && opened) = true → ∀ e ∈ es.head?, file ≠ [] ∧ e.io = true) := by
  have hstart : ∀ s : UploadState, (Watched.start s).Held := fun s res h => by cases h
  unfold watchedUpload
  dsimp only
  split_ifs with hopen
  · rw [loop_iff (P := Watched.CanLog file) (K := Watched.Held)
      (fun w e => (watchedUploadIteration_held file w e).1) es, and_iff_right (hstart _), along_canLog_iff file rfl]
    simp only [hopen, true_imp_iff, Watched.start, canRead_start_iff file hc]
  · exact iff_of_true (hstart _) fun h => absurd h hopen

/-- **`Res->` finds a response**, for every file, every chunk size and every sequence of answers: always in `Download`,
and in `Upload` exactly when the file is not empty and the first `fread` succeeds, or it does not come to that. -/
theorem responses_held_iff (connected opened : Bool) (file : List UInt8) (chunkSizeInByte : ℕ) (es : List Exchange)
    (hc : chunkSizeInByte < 2 ^ 32) :
    ((watchedUpload connected opened file chunkSizeInByte es).state.Held ∧
      (watchedDownload connected opened chunkSizeInByte es).state.Held) ↔
      ((connected && opened) = true → ∀ e ∈ es.head?, file ≠ [] ∧ e.io = true) := by
  rw [and_iff_left (watchedDownload_held connected opened chunkSizeInByte es)]
  exact watchedUpload_held_iff connected opened file hc es

/-- A file of one byte, and no answer to its POST. -/
theorem responses_held_one : (watchedUpload true true [7] 0 [⟨none, true⟩]).state.Held ∧
    (watchedDownload true true 0 [⟨none, true⟩]).state.Held := by
  refine (responses_held_iff true true [7] 0 _ (by decide)).mpr fun _ e he => ?_
  cases he
  exact ⟨by decide, rfl⟩

/-- The file is empty. -/
theorem not_responses_held : ¬ ∀ (file : List UInt8) (chunkSizeInByte : ℕ) (es : List Exchange),
    chunkSizeInByte < 2 ^ 32 → (watchedUpload true true file chunkSizeInByte es).state.Held ∧
      (watchedDownload true true chunkSizeInByte es).state.Held := by
  intro h
  exact absurd (h [] 1 [⟨none, true⟩] (by decide)).1 (by decide +kernel)

end BofWebRpc.WebApp
