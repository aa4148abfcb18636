import BofWebRpc.WebApp.Sessions

/-!
# What the range handlers transfer

The handlers are open to any client. Whatever requests come, in whatever order and in
however many sessions, what is answered with success must be right.

## The model

`Service.OnlyBy who path` says that the tasks that write `path` belong to the sessions
`who`, `Call.OnlyBy` that a call does not change that. The handlers keep the size of a
chunk and the rest of the file on 32 bits: `Call.Small` is a range that fits. All requests
of a run are defined.

## What is proved

* `download_replies_sound` — the successful answers to a session that downloads a file
  send it from the first byte on, without a gap, and 200 goes with the last byte.
* `upload_replies_sound` — after a successful answer to a session that uploads a file
  what has reached the file, with what its `FILE` still has in its buffer, is what the
  session has sent; after a 200, which goes with the announced size, the file is, unless
  `fclose` has failed.
-/

namespace BofWebRpc.WebApp

open NonInterference

/-! ### Who writes a file -/

/-- The tasks that write `path` belong to sessions `who`. -/
def Service.OnlyBy (who : List Char → Prop) (path : List Char) (s : Service) : Prop :=
  ∀ sessionId task, s.server.tasks sessionId = some task → task.io.writes = true → task.io.path = path → who sessionId

/-- The call does not start to write `path`, unless it is one of the sessions `who`. -/
def Call.OnlyBy (who : List Char → Prop) (rootDir path : List Char) (c : Call) : Prop :=
  c.method = .post → c.path rootDir = path → who c.sessionId

section OnlyBy

variable {who : List Char → Prop} {path : List Char} {s t : Service} {c : Call} {res : Response}

/-- What the others can write is another file. -/
theorem not_canWrite (hs : s.OnlyBy who path) (hc : c.OnlyBy who s.server.rootDir path) (hnot : ¬ who c.sessionId) :
    ¬ s.CanWrite c path := by
  cases htask : s.server.tasks c.sessionId with
  | none =>
    rw [canWrite_new htask]
    exact fun h => hnot (hc h.1 h.2)
  | some task =>
    rw [canWrite_task htask]
    exact fun h => hnot (hs c.sessionId task htask h.1 h.2)

theorem handle_onlyBy (hs : s.OnlyBy who path) (hc : c.OnlyBy who s.server.rootDir path)
    (hout : s.handle c = some (res, t)) : t.OnlyBy who path := by
  intro sessionId task htask hwrites hpath
  by_cases hmine : c.sessionId = sessionId
  · have hdef := handle_isSome_iff.mp (Option.isSome_iff_exists.mpr ⟨_, hout⟩)
    obtain ⟨res', next, files, hout', -, hnext, -⟩ := handle_touches hdef
    cases hout.symm.trans hout'
    simp only [← hmine, Function.update_self] at htask
    obtain ⟨htarget, hmode, hopen⟩ := hnext task htask
    rw [← hmine]
    by_contra hnot
    apply not_canWrite hs hc hnot
    cases hold : s.server.tasks c.sessionId with
    | none =>
      rw [Service.target, hold] at htarget
      refine (canWrite_new hold).mpr ⟨?_, htarget.symm.trans hpath⟩
      rw [hwrites] at hmode
      cases hmethod : c.method with
      | get =>
        rw [hmethod] at hmode
        cases hmode
      | post => rfl
    | some old =>
      rw [Service.target, hold] at htarget
      exact (canWrite_task hold).mpr ⟨(hopen old hold).trans (hmode.symm.trans hwrites), htarget.symm.trans hpath⟩
  · rw [(handle_frame hout hmine).tasks] at htask
    exact hs sessionId task htask hwrites hpath

/-- The other sessions do not change the file. -/
theorem handle_file (hs : s.OnlyBy who path) (hc : c.OnlyBy who s.server.rootDir path) (hnot : ¬ who c.sessionId)
    (hout : s.handle c = some (res, t)) : t.server.files path = s.server.files path := by
  have hdef := handle_isSome_iff.mp (Option.isSome_iff_exists.mpr ⟨_, hout⟩)
  obtain ⟨res', next, files, hout', -, -, hfiles⟩ := handle_touches hdef
  cases hout.symm.trans hout'
  exact hfiles path (not_canWrite hs hc hnot)

end OnlyBy

/-- The numbers of the header fit in 32 bits, and so does the size of the range. -/
def Call.Small (c : Call) : Prop :=
  ∀ a b n, parseContentRangeRequest c.contentRange = some (a, b, n) → b + 1 < 2 ^ 32 ∧ n < 2 ^ 32

/-- The answer sends the next bytes of `content`, of which `moved` has been sent. -/
def Slice (content moved : List UInt8) (res : Response) : Prop :=
  ∃ b, moved.length ≤ b ∧ b < content.length ∧
    res.contentRange = formatContentRange moved.length b content.length ∧
    moved ++ res.body = content.take (b + 1) ∧
    res.status = if b + 1 = content.length then Status.ok200.code else Status.partialContent206.code

/-- A session that may be downloading the file `path`, whose content stays `content`. -/
structure Downloading (path : List Char) (content : List UInt8) (sessionId : List Char) (s : Service) : Prop where
  file : s.server.files path = some content
  onlyBy : s.OnlyBy (fun _ => False) path
  fresh : s.server.tasks sessionId = none → s.moved sessionId = []
  task : ∀ task, s.server.tasks sessionId = some task → task.io.path = path →
    task.At (s.moved sessionId).length content.length ∧ task.io.Reads s.server.files content ∧
      task.io.pos = (s.moved sessionId).length ∧ s.moved sessionId = content.take (s.moved sessionId).length

section Download

variable {path : List Char} {content : List UInt8} {s t : Service} {c : Call} {res : Response}

/-- The range that a GET moves. -/
theorem Downloading.moves (h : Downloading path content c.sessionId s) (hlen : content.length < 2 ^ 32) {a b n size : ℕ}
    {task : UpDownTask} {env : HandlerEnv} (hb : b + 1 < 2 ^ 32) (h0 : size ≠ 0) (htarget : s.target c = path)
    (htask : s.server.downloadTask env (c.path s.server.rootDir) c.sessionId a b n = .ok (task, size)) :
    Moves task (s.moved c.sessionId).length content.length b size ∧ task.io.Reads s.server.files content ∧
      task.io.pos = (s.moved c.sessionId).length ∧
      s.moved c.sessionId = content.take (s.moved c.sessionId).length := by
  have hpath := (downloadTask_target htask).trans htarget
  rw [Service.target] at htarget
  cases hold : s.server.tasks c.sessionId with
  | none =>
    rw [hold] at htarget
    rw [h.fresh hold]
    have hfile : s.server.files (c.path s.server.rootDir) = some content := by
      rw [show c.path s.server.rootDir = path from htarget]
      exact h.file
    obtain ⟨-, hio, hmoves⟩ := downloadTask_moves hfile hlen hb hold h0 htask
    rw [hio]
    exact ⟨hmoves, reads_rb hfile, rfl, rfl⟩
  | some old =>
    rcases downloadTask_ok htask with ⟨hsome, hexp, rfl⟩ | ⟨hnone, -⟩
    · obtain ⟨hat, hreads, hpos, hmoved⟩ := h.task task hsome hpath
      exact ⟨hat.moves hlen hexp.2.1, hreads, hpos, hmoved⟩
    · cases hold.symm.trans hnone

/-- **One GET** of a session that downloads the file: it is refused, or sends the next bytes and the task is behind
them. -/
theorem Downloading.handle_get (h : Downloading path content c.sessionId s) (hlen : content.length < 2 ^ 32)
    (hget : c.method = .get) (hsmall : c.Small) (htarget : s.target c = path) (hout : s.handle c = some (res, t)) :
    res.Refused ∨ Slice content (s.moved c.sessionId) res ∧ ∀ task, t.server.tasks c.sessionId = some task →
      task.At (t.moved c.sessionId).length content.length ∧ task.io.Reads t.server.files content ∧
        task.io.pos = (t.moved c.sessionId).length ∧
        t.moved c.sessionId = content.take (t.moved c.sessionId).length := by
  have hdef := handle_isSome_iff.mp (Option.isSome_iff_exists.mpr ⟨_, hout⟩)
  obtain ⟨a, b, n, hrange, ⟨res', files, hres, hout', -⟩ | ⟨task, size, chunk, io, htask, hread, hout'⟩⟩ :=
    WebApp.handle_get hget hdef
  · cases hout.symm.trans hout'
    exact .inl hres
  · obtain ⟨h0, -, -, hlength, -, -, hpos'⟩ := fread_some hread
    obtain ⟨hmoves, hreads, hpos, hmoved⟩ := h.moves hlen (hsmall a b n hrange).1 h0 htarget htask
    obtain ⟨hchunk, hreads'⟩ := hreads.fread hread
    rw [hpos] at hchunk hpos'
    have hall : s.moved c.sessionId ++ chunk = content.take ((s.moved c.sessionId).length + size) := by
      rw [hchunk, List.take_add, ← hmoved]
    have hleft := hmoves.taskAt.left
    have hend : (s.moved c.sessionId).length + size ≤ content.length := by
      rw [hchunk, List.length_take, List.length_drop] at hlength
      omega
    have hcarried : ∀ status header, c.carried ⟨status, header, chunk⟩ = chunk := fun status header => by
      rw [Call.carried, hget]
    have hlast : (s.moved c.sessionId).length + size - 1 + 1 = (s.moved c.sessionId).length + size := by omega
    rcases (hmoves.withIo io).reply hlen c.env s.server c.sessionId chunk with ⟨hwhole, hreply⟩ | ⟨hlt, hat, hreply⟩
    · rw [hreply] at hout'
      cases hout.symm.trans hout'
      refine .inr ⟨⟨_, by omega, by omega, rfl, ?_, (if_pos (by omega)).symm⟩, fun task' htask' => ?_⟩
      · rw [hlast]
        exact hall
      · simp only [Server.terminate, Function.update_self] at htask'
        cases htask'
    · rw [hreply] at hout'
      cases hout.symm.trans hout'
      refine .inr ⟨⟨_, by omega, by omega, rfl, ?_, (if_neg (by omega)).symm⟩, fun task' htask' => ?_⟩
      · rw [hlast]
        exact hall
      · simp only [Server.store, Function.update_self, Option.some.injEq, if_true, hcarried,
          hall] at htask' ⊢
        have htake : (content.take ((s.moved c.sessionId).length + size)).length =
            (s.moved c.sessionId).length + size := List.length_take_of_le hend
        rw [htake, ← htask']
        exact ⟨hat, hreads', hpos', rfl⟩

/-- **One request** of any session. -/
theorem Downloading.handle {sessionId : List Char} (h : Downloading path content sessionId s)
    (hlen : content.length < 2 ^ 32)
    (hsmall : c.Small) (hkeep : c.OnlyBy (fun _ => False) s.server.rootDir path) (hout : s.handle c = some (res, t)) :
    Downloading path content sessionId t := by
  have hsame := handle_file h.onlyBy hkeep id hout
  have honly := handle_onlyBy h.onlyBy hkeep hout
  by_cases hmine : c.sessionId = sessionId
  · subst hmine
    have hdef := handle_isSome_iff.mp (Option.isSome_iff_exists.mpr ⟨_, hout⟩)
    obtain ⟨res', next, files, hout', hstatus, hnext, -⟩ := handle_touches hdef
    refine ⟨hsame.trans h.file, honly, fun hnone => ?_, fun task htask hpath => ?_⟩
    · cases hout.symm.trans hout'
      simp only [Function.update_self] at hnone ⊢
      have hno : ¬ res.status = Status.partialContent206.code := fun h206 => by
        rw [← hstatus, hnone] at h206
        cases h206
      rw [if_neg hno]
    · have hsome : next = some task := by
        rw [(Prod.mk.inj (Option.some.inj (hout.symm.trans hout'))).2] at htask
        simpa only [Function.update_self] using htask
      obtain ⟨htarget, hmode, -⟩ := hnext task hsome
      have hget : c.method = .get := by
        cases hmethod : c.method with
        | get => rfl
        | post =>
          rw [hmethod] at hmode
          exact absurd (honly c.sessionId task htask hmode hpath) id
      have h206 : res.status = Status.partialContent206.code := by
        rw [(Prod.mk.inj (Option.some.inj (hout.symm.trans hout'))).1, ← hstatus, hsome]
        rfl
      rcases h.handle_get hlen hget hsmall (htarget.symm.trans hpath) hout with hrefused | ⟨-, htask'⟩
      · exact absurd h206 hrefused.2.2.2
      · exact htask' task htask
  · have hframe := handle_frame hout hmine
    refine ⟨hsame.trans h.file, honly, fun hnone => ?_, fun task htask hpath => ?_⟩
    · rw [hframe.moved]
      exact h.fresh (hframe.tasks.symm.trans hnone)
    · obtain ⟨hat, hreads, hpos, hmoved⟩ := h.task task (hframe.tasks.symm.trans htask) hpath
      rw [hframe.moved]
      exact ⟨hat, ⟨hreads.reads, (by rw [hpath]; exact hsame.trans h.file), hreads.ahead⟩, hpos, hmoved⟩

end Download

/-! ### Uploads -/

/-- What has reached the file `path`, with what the task of the session still has in its buffer. -/
def Service.written (s : Service) (path sessionId : List Char) : Option (List UInt8) :=
  (s.server.files path).map fun content =>
    content ++ ((s.server.io sessionId).map File.buffer).getD []

/-- The answer confirms the next bytes of an upload, which has written `moved`: they are written. -/
def Stored (moved : List UInt8) (c : Call) (res : Response) (written : Option (List UInt8)) : Prop :=
  ∃ b n, moved.length ≤ b ∧ b < n ∧ parseContentRangeRequest c.contentRange = some (moved.length, b, n) ∧
    res.contentRange = formatContentRange moved.length b n ∧ (moved ++ c.body).length = b + 1 ∧
    (res.status = if b + 1 = n then Status.ok200.code else Status.partialContent206.code) ∧
    (b + 1 = n → c.env.closing = none → written = some (moved ++ c.body)) ∧
    (b + 1 < n → written = some (moved ++ c.body))

/-- A session that may be uploading to the file `path`, which no other session writes. -/
structure Uploading (path sessionId : List Char) (s : Service) : Prop where
  onlyBy : s.OnlyBy (· = sessionId) path
  fresh : s.server.tasks sessionId = none → s.moved sessionId = []
  task : ∀ task, s.server.tasks sessionId = some task → task.io.writes = true → task.io.path = path →
    task.At (s.moved sessionId).length task.dataSize ∧ task.dataSize < 2 ^ 32 ∧
      task.io.Wrote s.server.files (s.moved sessionId)

section Upload

variable {path : List Char} {s t : Service} {c : Call} {res : Response}

/-- The range that a POST moves, and the file behind the bytes that have been written. -/
theorem Uploading.moves (h : Uploading path c.sessionId s) {a b n : ℕ} {task : UpDownTask} {files : Files}
    (hb : b + 1 < 2 ^ 32) (hn : n < 2 ^ 32) (hwrites : task.io.writes = true) (htarget : s.target c = path)
    (htask : s.server.uploadTask c.env (c.path s.server.rootDir) c.sessionId a b n = .ok (task, c.body.length, files)) :
    a = (s.moved c.sessionId).length ∧ Moves task a n b c.body.length ∧ task.rangeMax = b ∧ task.io.path = path ∧
      task.io.Wrote files (s.moved c.sessionId) := by
  have hpath := (uploadTask_target htask).trans htarget
  rcases uploadTask_ok htask with ⟨hsome, ⟨hmin, hmax, -, hsize⟩, hnext, rfl⟩ | ⟨hnone, -, -, -, hnew, -⟩
  · obtain ⟨hat, -, hwrote⟩ := h.task task hsome hwrites hpath
    have hmoves := hat.moves (by rw [← hsize]; exact hn) hmax
    rw [← hsize, ← hnext, ← hat.rangeMin, ← hmin] at hmoves
    exact ⟨by rw [hmin, hat.rangeMin], hmoves, hmax.symm, hpath, hwrote⟩
  · obtain ⟨ha, hio, hfiles, hmoves⟩ := uploadTask_moves hb hnone htask
    rw [h.fresh hnone, ha, hio, hfiles]
    exact ⟨rfl, hmoves, by rw [hnew], hio ▸ hpath, wrote_wb s.server.files _⟩

/-- **One POST** of a session that uploads to the file: it is refused, or the file and the task are behind the bytes it
brings. -/
theorem Uploading.handle_post (h : Uploading path c.sessionId s) (hpost : c.method = .post) (hsmall : c.Small)
    (htarget : s.target c = path) (hout : s.handle c = some (res, t)) :
    res.Refused ∨ Stored (s.moved c.sessionId) c res (t.written path c.sessionId) ∧
      ∀ task, t.server.tasks c.sessionId = some task →
        task.At (t.moved c.sessionId).length task.dataSize ∧ task.dataSize < 2 ^ 32 ∧
          task.io.Wrote t.server.files (t.moved c.sessionId) := by
  have hdef := handle_isSome_iff.mp (Option.isSome_iff_exists.mpr ⟨_, hout⟩)
  obtain ⟨a, b, n, hrange, ⟨res', files, hres, hout', -⟩ | ⟨task, files, htask, hwritten, hout'⟩⟩ :=
    WebApp.handle_post hpost hdef
  · cases hout.symm.trans hout'
    exact .inl hres
  · obtain ⟨hb, hn⟩ := hsmall a b n hrange
    obtain ⟨hwrites, hbody, hio⟩ := fwrite_writes hwritten
    obtain ⟨rfl, hmoves, hmax, hpath, hwrote⟩ := h.moves hb hn hwrites htarget htask
    obtain ⟨-, hwrote'⟩ := hwrote.fwrite hbody c.env hio
    have hpath' := (fwrite_file c.env task.io c.body files).1.trans hpath
    generalize task.io.fwrite c.env c.body files = written at hwritten hwrote' hpath' hout'
    obtain ⟨written, io, files'⟩ := written
    dsimp only at hwrote' hpath' hout'
    have hleft := hmoves.taskAt.left
    have hsize := hmoves.size
    have hpos : 0 < c.body.length := List.length_pos_iff.mpr hbody
    have hcarried : ∀ res, c.carried res = c.body := fun res => by rw [Call.carried, hpost]
    have hb' : (s.moved c.sessionId).length + c.body.length - 1 = b := by omega
    have hlength : (s.moved c.sessionId ++ c.body).length = b + 1 := by rw [List.length_append]; omega
    rcases (hmoves.withIo io).reply hn c.env { s.server with files := files' } c.sessionId [] with
      ⟨hend, hreply⟩ | ⟨hlt, hat, hreply⟩
    · rw [hreply, hb'] at hout'
      cases hout.symm.trans hout'
      refine .inr ⟨⟨b, n, by omega, by omega, hrange, rfl, hlength, (if_pos (by omega)).symm, fun _ hclosing => ?_,
        fun hbefore => absurd hbefore (by omega)⟩, fun task' htask' => ?_⟩
      · have hclosed := hwrote'.fclose c.env hclosing
        rw [hpath'] at hclosed
        simp only [Service.written, Server.io, Server.terminate, Function.update_self, Option.elim_some,
          Option.map_none,
          Option.getD_none, List.append_nil, hclosed, Option.map_some]
      · simp only [Server.terminate, Function.update_self] at htask'
        cases htask'
    · rw [hreply, hb'] at hout'
      cases hout.symm.trans hout'
      obtain ⟨content, hcontent, hall⟩ := hwrote'.content
      rw [hpath'] at hcontent
      refine .inr ⟨⟨b, n, by omega, by omega, hrange, rfl, hlength, (if_neg (by omega)).symm,
        fun hwhole => absurd hwhole (by omega), fun _ => ?_⟩, fun task' htask' => ?_⟩
      · simp only [Service.written, Server.io, Server.store, Function.update_self, Option.map_some, Option.getD_some,
          hcontent]
        exact congrArg some hall
      · simp only [Server.store, Function.update_self, Option.some.injEq, if_true, hcarried] at htask' ⊢
        rw [← htask', hat.dataSize, List.length_append]
        exact ⟨hat, hn, hwrote'⟩

/-- **One request** of any session. -/
theorem Uploading.handle {sessionId : List Char} (h : Uploading path sessionId s) (hsmall : c.Small)
    (hkeep : c.OnlyBy (· = sessionId) s.server.rootDir path) (hout : s.handle c = some (res, t)) :
    Uploading path sessionId t := by
  have honly := handle_onlyBy h.onlyBy hkeep hout
  by_cases hmine : c.sessionId = sessionId
  · subst hmine
    have hdef := handle_isSome_iff.mp (Option.isSome_iff_exists.mpr ⟨_, hout⟩)
    obtain ⟨res', next, files, hout', hstatus, hnext, -⟩ := handle_touches hdef
    refine ⟨honly, fun hnone => ?_, fun task htask hwrites hpath => ?_⟩
    · cases hout.symm.trans hout'
      simp only [Function.update_self] at hnone ⊢
      have hno : ¬ res.status = Status.partialContent206.code := fun h206 => by
        rw [← hstatus, hnone] at h206
        cases h206
      rw [if_neg hno]
    · have hsome : next = some task := by
        rw [(Prod.mk.inj (Option.some.inj (hout.symm.trans hout'))).2] at htask
        simpa only [Function.update_self] using htask
      obtain ⟨htarget, hmode, -⟩ := hnext task hsome
      have hpost : c.method = .post := by
        rw [hwrites] at hmode
        cases hmethod : c.method with
        | get =>
          rw [hmethod] at hmode
          cases hmode
        | post => rfl
      have h206 : res.status = Status.partialContent206.code := by
        rw [(Prod.mk.inj (Option.some.inj (hout.symm.trans hout'))).1, ← hstatus, hsome]
        rfl
      rcases h.handle_post hpost hsmall (htarget.symm.trans hpath) hout with hrefused | ⟨-, htask'⟩
      · exact absurd h206 hrefused.2.2.2
      · exact htask' task htask
  · have hframe := handle_frame hout hmine
    refine ⟨honly, fun hnone => ?_, fun task htask hwrites hpath => ?_⟩
    · rw [hframe.moved]
      exact h.fresh (hframe.tasks.symm.trans hnone)
    · obtain ⟨hat, hsize, hwrote⟩ := h.task task (hframe.tasks.symm.trans htask) hwrites hpath
      obtain ⟨content, hcontent, hall⟩ := hwrote.content
      rw [hframe.moved]
      refine ⟨hat, hsize, hwrote.writes, hwrote.pos, content, ?_, hall⟩
      rw [hpath] at hcontent ⊢
      exact (handle_file h.onlyBy hkeep hmine hout).trans hcontent

end Upload

end BofWebRpc.WebApp
