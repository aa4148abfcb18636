import BofWebRpc.WebApp.Pointers
import Mathlib.Data.Option.Defs

/-!
# The files and buffers of the range handlers

What the handlers with pointers do, against those of `Service`, whose tasks have their
`FILE` themselves.

## The model

`Represents server coarse lost` ties the two: each session of `server` holds a file and,
if it downloads, a buffer of its own, and with them its record is the task of `coarse`.
`lost` are the files that no session holds.

## What is proved

* `handle_simulates` — the handlers keep `Represents` and answer alike, request by request,
  and have defined behaviour for the same requests.
* `handlers_refine` — so they do in every run.
* `pointers_sound_iff` — no file and no buffer is used or released after its release, and
  no read overruns its buffer.
* `open_files_held_iff` — the buffers are those of the tasks, and the open files are
  if and only if no allocation has failed.
-/

namespace BofWebRpc.WebApp

open NonInterference Ownership

/-! ### Tasks with and without pointers -/

/-- The record is the task, with its file and, when that is not open for writing, its buffer. -/
structure UpDownRecord.Holds (t : UpDownRecord) (io : Heap File) (buffers : Heap ℕ) (task : UpDownTask) : Prop where
  rangeMin : t.rangeMin = task.rangeMin
  rangeMax : t.rangeMax = task.rangeMax
  dataSize : t.dataSize = task.dataSize
  chunkSize : t.chunkSize = task.chunkSize
  pIo : ∃ p, t.pIo = some p ∧ io.cells p = some task.io
  pBuffer : if task.io.writes = true then t.pBuffer = none else
    ∃ p, t.pBuffer = some p ∧ buffers.cells p = some t.chunkSize

/-- The file each session holds. -/
def UtWebServer.holdsIo (server : UtWebServer) (sessionId : List Char) : Option ℕ :=
  (server.upDownTaskCollection sessionId).bind UpDownRecord.pIo

/-- The buffer each session holds. -/
def UtWebServer.holdsBuffer (server : UtWebServer) (sessionId : List Char) : Option ℕ :=
  (server.upDownTaskCollection sessionId).bind UpDownRecord.pBuffer

/-- The server has the files and tasks of `coarse`, and every session holds its own file and buffer. -/
structure Represents (server : UtWebServer) (coarse : Server) (lost : List ℕ) : Prop where
  rootDir : server.rootDir = coarse.rootDir
  files : server.files = coarse.files
  tasks : ∀ sessionId, Option.Rel (fun t task => t.Holds server.io server.buffers task)
    (server.upDownTaskCollection sessionId) (coarse.tasks sessionId)
  io : Owned server.io server.holdsIo lost
  buffers : Owned server.buffers server.holdsBuffer []

section Represents

variable {server : UtWebServer} {coarse : Server} {lost : List ℕ} {sessionId : List Char} {t : UpDownRecord}
  {task : UpDownTask}

/-- A record depends on its own cells only. -/
theorem UpDownRecord.Holds.congr {io io' : Heap File} {buffers buffers' : Heap ℕ} (h : t.Holds io buffers task)
    (hio : ∀ p, t.pIo = some p → io'.cells p = io.cells p)
    (hbuffers : ∀ p, t.pBuffer = some p → buffers'.cells p = buffers.cells p) : t.Holds io' buffers' task where
  rangeMin := h.rangeMin
  rangeMax := h.rangeMax
  dataSize := h.dataSize
  chunkSize := h.chunkSize
  pIo := by
    obtain ⟨p, hp, hcell⟩ := h.pIo
    exact ⟨p, hp, (hio p hp).trans hcell⟩
  pBuffer := by
    have hbuffer := h.pBuffer
    split_ifs at hbuffer ⊢
    · exact hbuffer
    · obtain ⟨p, hp, hcell⟩ := hbuffer
      exact ⟨p, hp, (hbuffers p hp).trans hcell⟩

theorem bind_update {α β : Type} (f : List Char → Option α) (g : α → Option β) (x : Option α) :
    (fun k => (Function.update f sessionId x k).bind g) =
      Function.update (fun k => (f k).bind g) sessionId (x.bind g) := by
  funext k
  simp only [Function.update_apply]
  split_ifs <;> rfl

/-- **The task of one session is replaced**, and the others find their files and buffers as they were. -/
theorem Represents.replace (h : Represents server coarse lost) (sessionId : List Char) {server' : UtWebServer}
    {coarse' : Server}
    {lost' : List ℕ} {x : Option UpDownRecord} {y : Option UpDownTask}
    (hrootDir : server'.rootDir = coarse'.rootDir) (hfiles : server'.files = coarse'.files)
    (hcollection : server'.upDownTaskCollection = Function.update server.upDownTaskCollection sessionId x)
    (htasks : coarse'.tasks = Function.update coarse.tasks sessionId y)
    (hmine : Option.Rel (fun t task => t.Holds server'.io server'.buffers task) x y)
    (hio : Owned server'.io (Function.update server.holdsIo sessionId (x.bind UpDownRecord.pIo)) lost')
    (hothers : Others server.io server'.io server.holdsIo sessionId)
    (hbuffers : Owned server'.buffers (Function.update server.holdsBuffer sessionId (x.bind UpDownRecord.pBuffer)) [])
    (hothers' : Others server.buffers server'.buffers server.holdsBuffer sessionId) :
    Represents server' coarse' lost' where
  rootDir := hrootDir
  files := hfiles
  tasks := by
    intro other
    rw [hcollection, htasks]
    by_cases hother : other = sessionId
    · subst hother
      rw [Function.update_self, Function.update_self]
      exact hmine
    · rw [Function.update_of_ne hother, Function.update_of_ne hother]
      have hrel := h.tasks other
      generalize coarse.tasks other = z at hrel ⊢
      cases hrecord : server.upDownTaskCollection other with
      | none =>
        rw [hrecord] at hrel
        cases hrel
        exact .none
      | some t =>
        rw [hrecord] at hrel
        cases hrel with
        | some hholds =>
          refine .some (hholds.congr (fun p hp => ?_) fun p hp => ?_)
          · exact hothers other p hother (by rw [UtWebServer.holdsIo, hrecord]; exact hp)
          · exact hothers' other p hother (by rw [UtWebServer.holdsBuffer, hrecord]; exact hp)
  io := by
    have hholds : server'.holdsIo = Function.update server.holdsIo sessionId (x.bind UpDownRecord.pIo) := by
      show (fun k => (server'.upDownTaskCollection k).bind UpDownRecord.pIo) = _
      rw [hcollection]
      exact bind_update _ _ x
    rw [hholds]
    exact hio
  buffers := by
    have hholds : server'.holdsBuffer = Function.update server.holdsBuffer sessionId (x.bind UpDownRecord.pBuffer) := by
      show (fun k => (server'.upDownTaskCollection k).bind UpDownRecord.pBuffer) = _
      rw [hcollection]
      exact bind_update _ _ x
    rw [hholds]
    exact hbuffers

@[simp] theorem store_holdsIo (server : UtWebServer) (sessionId : List Char) (t : UpDownRecord) :
    (server.store sessionId t).holdsIo sessionId = t.pIo := by
  simp only [UtWebServer.holdsIo, UtWebServer.store, Function.update_self, Option.bind_some]

@[simp] theorem store_holdsBuffer (server : UtWebServer) (sessionId : List Char) (t : UpDownRecord) :
    (server.store sessionId t).holdsBuffer sessionId = t.pBuffer := by
  simp only [UtWebServer.holdsBuffer, UtWebServer.store, Function.update_self, Option.bind_some]

/-- The iterator of the session: that of its entry, if it has one. -/
def UtWebServer.At (server : UtWebServer) (sessionId : List Char) (it : Option (List Char)) : Prop :=
  it = some sessionId ∨ (it = none ∧ server.upDownTaskCollection sessionId = none)

/-- The record of the session, and its task. -/
theorem Represents.stored (h : Represents (server.store sessionId t) (coarse.store sessionId task) lost) :
    t.Holds server.io server.buffers task := by
  have htask := h.tasks sessionId
  simp only [UtWebServer.store, Server.store, Function.update_self] at htask
  cases htask with
  | some hholds => exact hholds

/-- The file of the session's task is closed. -/
theorem Represents.fclose_files (h : Represents (server.store sessionId t) (coarse.store sessionId task) lost)
    (env : HandlerEnv) : (server.fclose env t.pIo).files = task.io.fclose env coarse.files := by
  obtain ⟨p, hp, hcell⟩ := h.stored.pIo
  have hfiles : server.files = coarse.files := h.files
  rw [UtWebServer.fclose, hp, Option.bind_some, hcell, hfiles]
  rfl

/-- **TerminateUpDownTask** closes the file of the local task and deletes its buffer, and erases its entry, if there is
one. -/
theorem Represents.terminate (h : Represents (server.store sessionId t) (coarse.store sessionId task) lost)
    {it : Option (List Char)} (hit : server.At sessionId it) (env : HandlerEnv) (status : Status) (res : Response) :
    Represents (server.terminate env t status res it).2
      (coarse.terminate env (some task.io) sessionId status).2 lost := by
  have hio := h.io.freeIf sessionId
  have hothers := h.io.freeIf_others sessionId
  have hbuffers := h.buffers.freeIf sessionId
  have hothers' := h.buffers.freeIf_others sessionId
  rw [store_holdsIo] at hio hothers
  rw [store_holdsBuffer] at hbuffers hothers'
  refine h.replace sessionId (x := none) (y := none) h.rootDir
    (h.fclose_files env) ?_ ?_ .none hio hothers hbuffers hothers'
  · rw [UtWebServer.store, Function.update_idem]
    rcases hit with rfl | ⟨rfl, hnone⟩
    · rfl
    · exact (Function.update_eq_self_iff.mpr hnone.symm).symm
  · exact (Function.update_idem ..).symm

/-- A session without a task has none in either server. -/
theorem Represents.absent (h : Represents server coarse lost) (hnone : server.upDownTaskCollection sessionId = none) :
    coarse.tasks sessionId = none := by
  have hrel := h.tasks sessionId
  rw [hnone] at hrel
  generalize coarse.tasks sessionId = y at hrel ⊢
  cases hrel
  rfl

/-- A session with a task has it in both. -/
theorem Represents.present (h : Represents server coarse lost)
    (hsome : server.upDownTaskCollection sessionId = some t) :
    ∃ task, coarse.tasks sessionId = some task ∧ t.Holds server.io server.buffers task ∧
      Represents (server.store sessionId t) (coarse.store sessionId task) lost := by
  have hrel := h.tasks sessionId
  rw [hsome] at hrel
  generalize hy : coarse.tasks sessionId = y at hrel
  cases hrel with
  | some hholds =>
    rename_i task
    refine ⟨task, rfl, hholds, ?_⟩
    have hserver : server.store sessionId t = server := by
      rw [UtWebServer.store, Function.update_eq_self_iff.mpr hsome.symm]
    have hcoarse : coarse.store sessionId task = coarse := by
      rw [Server.store, Function.update_eq_self_iff.mpr hy.symm]
    rw [hserver, hcoarse]
    exact h

/-- A session without a task is refused. -/
theorem Represents.idle (h : Represents server coarse lost) (hnone : server.upDownTaskCollection sessionId = none)
    {io : Heap File} {lost' : List ℕ} (hio : Owned io server.holdsIo lost')
    (hothers : Others server.io io server.holdsIo sessionId) (env : HandlerEnv) (status : Status) :
    Represents { server with io := io } (coarse.terminate env (coarse.io sessionId) sessionId status).2 lost' := by
  have hholdsIo : server.holdsIo sessionId = none := by rw [UtWebServer.holdsIo, hnone]; rfl
  have hholdsBuffer : server.holdsBuffer sessionId = none := by rw [UtWebServer.holdsBuffer, hnone]; rfl
  have hcoarse : coarse.io sessionId = none := by rw [Server.io, h.absent hnone]; rfl
  rw [hcoarse]
  refine h.replace sessionId (x := none) (y := none) h.rootDir h.files ?_ rfl .none ?_ hothers ?_ fun _ _ _ _ => rfl
  · exact (Function.update_eq_self_iff.mpr hnone.symm).symm
  · rw [Option.bind_none, Function.update_eq_self_iff.mpr hholdsIo.symm]
    exact hio
  · rw [Option.bind_none, Function.update_eq_self_iff.mpr hholdsBuffer.symm]
    exact h.buffers

/-- The task of the session goes on to the next range. -/
theorem Represents.advance (h : Represents (server.store sessionId t) (coarse.store sessionId task) lost) (size : ℕ) :
    Represents (server.store sessionId (t.advance size)) (coarse.store sessionId (task.advance size)) lost := by
  obtain ⟨hmin, hmax, hsize, hchunk, hio, hbuffer⟩ := h.stored
  refine h.replace sessionId (x := some (t.advance size)) (y := some (task.advance size)) h.rootDir h.files ?_ ?_
    (.some ?_) ?_
    (fun _ _ _ _ => rfl) ?_ fun _ _ _ _ => rfl
  · exact (Function.update_idem ..).symm
  · exact (Function.update_idem ..).symm
  · refine ⟨?_, ?_, hsize, hchunk, hio, hbuffer⟩
    · simp only [UpDownRecord.advance, UpDownTask.advance, hmax]
    · simp only [UpDownRecord.advance, UpDownTask.advance, hmax, hsize]
  · rw [Option.bind_some, show (t.advance size).pIo = t.pIo from rfl, ← store_holdsIo server sessionId t,
      Function.update_eq_self]
    exact h.io
  · rw [Option.bind_some, show (t.advance size).pBuffer = t.pBuffer from rfl, ← store_holdsBuffer server sessionId t,
      Function.update_eq_self]
    exact h.buffers

/-- **The end of a handler** that has transferred its range. -/
theorem Represents.conclude (h : Represents (server.store sessionId t) (coarse.store sessionId task) lost)
    {it : Option (List Char)} (hit : server.At sessionId it) (env : HandlerEnv) (b size : ℕ) (body : List UInt8) :
    (server.conclude env t sessionId it b size ⟨Response.unset.status, t.header, body⟩).1 =
        (coarse.reply env sessionId task b size body).1 ∧
      Represents (server.conclude env t sessionId it b size ⟨Response.unset.status, t.header, body⟩).2
        (coarse.reply env sessionId task b size body).2 lost := by
  have hholds := h.stored
  have hheader : t.header = task.header := by
    rw [UpDownRecord.header, UpDownTask.header, hholds.rangeMin, hholds.rangeMax, hholds.dataSize]
  rw [UtWebServer.conclude, Server.reply, hholds.dataSize, hheader]
  split_ifs
  · exact ⟨rfl, h.terminate hit env .ok200 _⟩
  · exact ⟨rfl, h.advance size⟩

/-- The `FILE` of the session's task changes, with the files; it stays open the same way. -/
theorem Represents.withIo (h : Represents (server.store sessionId t) (coarse.store sessionId task) lost) {p : ℕ}
    (hp : t.pIo = some p) {io : File} (hmode : io.writes = task.io.writes) {files files' : Files}
    (hfiles : files = files')
    {buffers : Heap ℕ} (hbuffers : Owned buffers (server.store sessionId t).holdsBuffer [])
    (hcells : buffers.cells = server.buffers.cells) :
    Represents
      (({ server with files := files, io := server.io.modify p fun _ => io, buffers := buffers } : UtWebServer).store
        sessionId t)
      (({ coarse with files := files' } : Server).store sessionId { task with io := io }) lost := by
  obtain ⟨hmin, hmax, hsize, hchunk, ⟨q, hq, hcell⟩, hbuffer⟩ := h.stored
  obtain rfl := Option.some.inj (hp.symm.trans hq)
  have hholdsIo : (server.store sessionId t).holdsIo sessionId = some p := (store_holdsIo ..).trans hp
  refine h.replace sessionId (x := some t) (y := some { task with io := io }) h.rootDir hfiles ?_ ?_ (.some ?_) ?_
    (h.io.modify_others hholdsIo _) ?_ fun _ q _ _ => congrFun hcells q
  · exact (Function.update_idem ..).symm
  · exact (Function.update_idem ..).symm
  · refine ⟨hmin, hmax, hsize, hchunk, ⟨p, hp, ?_⟩, ?_⟩
    · show (server.io.modify p _).cells p = _
      rw [modify_cells_self, hcell]
      rfl
    · show if io.writes = true then _ else ∃ q, t.pBuffer = some q ∧ buffers.cells q = _
      rw [hcells, hmode]
      exact hbuffer
  · rw [Option.bind_some, hp, ← hholdsIo, Function.update_eq_self]
    exact h.io.modify hholdsIo _
  · rw [Option.bind_some, ← store_holdsBuffer server sessionId t, Function.update_eq_self]
    exact hbuffers

/-- A buffer is written. -/
theorem Represents.withBuffers (h : Represents (server.store sessionId t) coarse lost) {buffers : Heap ℕ}
    (hbuffers : Owned buffers (server.store sessionId t).holdsBuffer [])
    (hcells : buffers.cells = server.buffers.cells) :
    Represents (({ server with buffers := buffers } : UtWebServer).store sessionId t) coarse lost where
  rootDir := h.rootDir
  files := h.files
  tasks := by
    intro other
    have hrel := h.tasks other
    show Option.Rel _ ((server.store sessionId t).upDownTaskCollection other) (coarse.tasks other)
    generalize (server.store sessionId t).upDownTaskCollection other = x, coarse.tasks other = y at hrel ⊢
    cases hrel with
    | none => exact .none
    | some hholds => exact .some (hholds.congr (fun _ _ => rfl) fun p _ => congrFun hcells p)
  io := h.io
  buffers := hbuffers

/-- The buffer that a read of `size` bytes touches holds them. -/
theorem Represents.touched (h : Represents (server.store sessionId t) (coarse.store sessionId task) lost) {size : ℕ}
    (hsize : size ≤ t.chunkSize) :
    Owned (if task.io.writes = true then server.buffers
        else server.buffers.access t.pBuffer fun capacity => decide (size ≤ capacity))
      (server.store sessionId t).holdsBuffer [] := by
  have hbuffer := h.stored.pBuffer
  by_cases hwrites : task.io.writes = true
  · rw [if_pos hwrites]
    exact h.buffers
  · rw [if_neg hwrites] at hbuffer ⊢
    obtain ⟨q, hq, hcell⟩ := hbuffer
    rw [hq]
    exact h.buffers.access hcell (decide_eq_true hsize)

/-- **The third part of GetDownload**: the next bytes of the file, into a buffer that holds them, or the end. -/
theorem Represents.download (h : Represents (server.store sessionId t) (coarse.store sessionId task) lost)
    {it : Option (List Char)} (hit : server.At sessionId it) (env : HandlerEnv) (b : ℕ) {size : ℕ}
    (hsize : size ≤ t.chunkSize) :
    (task.io.fread env size coarse.files = none ∧
      (server.download env t sessionId it b size).1 =
        (coarse.terminate env (some task.io) sessionId .internalServerError500).1 ∧
      Represents (server.download env t sessionId it b size).2
        (coarse.terminate env (some task.io) sessionId .internalServerError500).2 lost) ∨
    ∃ chunk io, task.io.fread env size coarse.files = some (chunk, io) ∧
      (server.download env t sessionId it b size).1 =
        (coarse.reply env sessionId { task with io := io } b size chunk).1 ∧
      Represents (server.download env t sessionId it b size).2
        (coarse.reply env sessionId { task with io := io } b size chunk).2 lost := by
  obtain ⟨p, hp, hcell⟩ := h.stored.pIo
  have hfiles : server.files = coarse.files := h.files
  have htouched := h.touched hsize
  have hcells : (if task.io.writes = true then server.buffers
      else server.buffers.access t.pBuffer fun capacity => decide (size ≤ capacity)).cells = server.buffers.cells := by
    split_ifs
    · rfl
    · rfl
  cases hread : task.io.fread env size coarse.files with
  | none =>
    have hfread : server.fread env t size = (none, { server with
        buffers := if task.io.writes = true then server.buffers
          else server.buffers.access t.pBuffer fun capacity => decide (size ≤ capacity) }) := by
      simp only [UtWebServer.fread, hp, Option.bind_some, hcell, hfiles, hread]
    refine .inl ⟨rfl, ?_⟩
    rw [UtWebServer.download, hfread]
    exact ⟨rfl, (h.withBuffers htouched hcells).terminate hit env .internalServerError500 .unset⟩
  | some read =>
    obtain ⟨chunk, io⟩ := read
    have hfread : server.fread env t size = (some chunk, { server with
        io := server.io.modify p fun _ => io
        buffers := if task.io.writes = true then server.buffers
          else server.buffers.access t.pBuffer fun capacity => decide (size ≤ capacity) }) := by
      simp only [UtWebServer.fread, hp, Option.bind_some, hcell, hfiles, hread, Option.getD_some]
    refine .inr ⟨chunk, io, rfl, ?_⟩
    rw [UtWebServer.download, hfread]
    exact (h.withIo hp (fread_some hread).2.2.2.2.2.1 hfiles htouched hcells).conclude hit env b size chunk

/-- **The third part of PostUpload**: the body at the position of the file, or the end. -/
theorem Represents.upload (h : Represents (server.store sessionId t) (coarse.store sessionId task) lost)
    {it : Option (List Char)} (hit : server.At sessionId it) (env : HandlerEnv) (b size : ℕ) (body : List UInt8) :
    let written := task.io.fwrite env body coarse.files
    let coarse' : Server := { coarse with files := written.2.2 }
    let reply := if size = body.length then
        if written.1 = true then coarse'.reply env sessionId { task with io := written.2.1 } b size []
        else coarse'.terminate env (some written.2.1) sessionId .insufficientStorage507
      else coarse.terminate env (some task.io) sessionId .internalServerError500
    (server.upload env t sessionId it b size body).1 = reply.1 ∧
      Represents (server.upload env t sessionId it b size body).2 reply.2 lost := by
  intro written coarse' reply
  obtain ⟨p, hp, hcell⟩ := h.stored.pIo
  have hfiles : server.files = coarse.files := h.files
  have hfwrite : server.fwrite env t body = (written.1, { server with
      files := written.2.2, io := server.io.modify p fun _ => written.2.1 }) := by
    simp only [UtWebServer.fwrite, hp, Option.bind_some, hcell, hfiles, Option.getD_some]
    rfl
  have hnext := h.withIo hp (fwrite_file env task.io body coarse.files).2
    (rfl : written.2.2 = written.2.2) h.buffers rfl
  by_cases hsize : size = body.length
  · have hreply : reply = if written.1 = true then coarse'.reply env sessionId { task with io := written.2.1 } b size []
        else coarse'.terminate env (some written.2.1) sessionId .insufficientStorage507 := if_pos hsize
    rw [hreply, UtWebServer.upload, if_pos hsize, hfwrite]
    cases hwritten : written.1 with
    | true =>
      rw [if_pos rfl]
      exact hnext.conclude hit env b size []
    | false =>
      rw [if_neg Bool.false_ne_true]
      exact ⟨rfl, hnext.terminate hit env .insufficientStorage507 .unset⟩
  · have hreply : reply = coarse.terminate env (some task.io) sessionId .internalServerError500 := if_neg hsize
    rw [hreply, UtWebServer.upload, if_neg hsize]
    exact ⟨rfl, h.terminate hit env .internalServerError500 .unset⟩

/-- A session without a task opens a file, and may allocate a buffer. -/
theorem Represents.opens (h : Represents server coarse lost) (hnone : server.upDownTaskCollection sessionId = none)
    {files files' : Files} (hfiles : files = files') {buffers : Heap ℕ} {io : File} (htask : task.io = io)
    (hio : t.pIo = some server.io.next) (hmin : t.rangeMin = task.rangeMin) (hmax : t.rangeMax = task.rangeMax)
    (hsize : t.dataSize = task.dataSize)
    (hchunk : t.chunkSize = task.chunkSize)
    (hbuffer : if io.writes = true then t.pBuffer = none ∧ buffers = server.buffers else
      t.pBuffer = some server.buffers.next ∧ buffers = server.buffers.alloc t.chunkSize) :
    Represents
      (({ server with files := files, io := server.io.alloc io, buffers := buffers } : UtWebServer).store sessionId t)
      (({ coarse with files := files' } : Server).store sessionId task) lost := by
  subst htask
  have hholdsIo : server.holdsIo sessionId = none := by rw [UtWebServer.holdsIo, hnone]; rfl
  have hholdsBuffer : server.holdsBuffer sessionId = none := by rw [UtWebServer.holdsBuffer, hnone]; rfl
  refine h.replace sessionId (x := some t) (y := some task) h.rootDir hfiles rfl rfl
    (.some ⟨hmin, hmax, hsize, hchunk, ⟨server.io.next, hio, alloc_cells_self ..⟩, ?_⟩) ?_
    (h.io.alloc_others sessionId task.io) ?_ ?_
  · split_ifs at hbuffer ⊢
    · exact hbuffer.1
    · refine ⟨server.buffers.next, hbuffer.1, ?_⟩
      rw [show (UtWebServer.store _ sessionId t).buffers = buffers from rfl, hbuffer.2]
      exact alloc_cells_self ..
  · rw [Option.bind_some, hio]
    exact h.io.alloc hholdsIo task.io
  · rw [Option.bind_some]
    split_ifs at hbuffer
    · rw [hbuffer.1, Function.update_eq_self_iff.mpr hholdsBuffer.symm,
        show (UtWebServer.store _ sessionId t).buffers = buffers from rfl, hbuffer.2]
      exact h.buffers
    · rw [hbuffer.1, show (UtWebServer.store _ sessionId t).buffers = buffers from rfl, hbuffer.2]
      exact h.buffers.alloc hholdsBuffer _
  · split_ifs at hbuffer
    · rw [show (UtWebServer.store _ sessionId t).buffers = buffers from rfl, hbuffer.2]
      exact fun _ _ _ _ => rfl
    · rw [show (UtWebServer.store _ sessionId t).buffers = buffers from rfl, hbuffer.2]
      exact h.buffers.alloc_others sessionId _

theorem UpDownRecord.Holds.expects {io : Heap File} {buffers : Heap ℕ} (h : t.Holds io buffers task) (a b n : ℕ) :
    t.Expects a b n ↔ task.Expects a b n := by
  rw [UpDownRecord.Expects, UpDownTask.Expects, h.rangeMin, h.rangeMax, h.dataSize]

theorem UpDownRecord.Holds.nextSize {io : Heap File} {buffers : Heap ℕ} (h : t.Holds io buffers task) :
    t.nextSize = task.nextSize := by
  rw [UpDownRecord.nextSize, UpDownTask.nextSize, h.rangeMin, h.dataSize, h.chunkSize]

/-- **The second part of GetDownload** against the task of a download without pointers. -/
theorem Represents.beginDownload (h : Represents server coarse lost) (env : HandlerEnv) (path sessionId : List Char)
    (a b n : ℕ) :
    (∃ status t server', server.beginDownload env path sessionId a b n = (.refused status, t, server') ∧
      coarse.downloadTask env path sessionId a b n = .error status ∧
      Represents (server'.terminate env t status .unset (server.find sessionId)).2
        (coarse.terminate env (coarse.io sessionId) sessionId status).2 lost) ∨
    (∃ t server', server.beginDownload env path sessionId a b n = (.threw, t, server') ∧
      coarse.downloadTask env path sessionId a b n = .error .internalServerError500 ∧
      Represents server' (coarse.terminate env (coarse.io sessionId) sessionId .internalServerError500).2
        (lost ++ [server.io.next])) ∨
    ∃ size t server' task, server.beginDownload env path sessionId a b n = (.ready size, t, server') ∧
      coarse.downloadTask env path sessionId a b n = .ok (task, size) ∧ size ≤ t.chunkSize ∧
      server'.At sessionId (server.find sessionId) ∧
      Represents (server'.store sessionId t) (coarse.store sessionId task) lost := by
  have hfiles : server.files path = coarse.files path := congrFun h.files path
  cases hentry : server.upDownTaskCollection sessionId with
  | none =>
    have hcoarse := h.absent hentry
    have hfind : server.find sessionId = none := by rw [UtWebServer.find, hentry]; rfl
    have hrefused := fun status => h.idle hentry h.io (fun _ _ _ _ => rfl) env status
    rw [hfind]
    simp only [UtWebServer.beginDownload, Server.downloadTask, hentry, hcoarse, hfiles]
    by_cases hfirst : a = 0 ∧ b ≠ 0 ∧ n = 0
    · rw [if_pos hfirst, if_pos hfirst]
      cases hopens : env.opens with
      | false => exact .inl ⟨_, _, _, rfl, rfl, hrefused _⟩
      | true =>
        cases hfile : coarse.files path with
        | none => exact .inl ⟨_, _, _, rfl, rfl, hrefused _⟩
        | some content =>
          by_cases halloc : env.allocates = true
          · by_cases hsize : ftell content.length ≤ toU32 (sizeAdd b 1)
            · simp only [if_pos halloc, if_pos hsize]
              refine .inr (.inr ⟨_, _, _, _, rfl, rfl, hsize, .inr ⟨rfl, hentry⟩, ?_⟩)
              exact h.opens hentry h.files rfl rfl rfl rfl rfl rfl ⟨rfl, rfl⟩
            · simp only [if_pos halloc, if_neg hsize]
              refine .inr (.inr ⟨_, _, _, _, rfl, rfl, Nat.le_refl _, .inr ⟨rfl, hentry⟩, ?_⟩)
              exact h.opens hentry h.files rfl rfl rfl rfl rfl rfl ⟨rfl, rfl⟩
          · simp only [if_neg halloc]
            exact .inr (.inl ⟨_, _, rfl, trivial, h.idle hentry (h.io.lose _) (h.io.alloc_others sessionId _) env _⟩)
    · rw [if_neg hfirst, if_neg hfirst]
      exact .inl ⟨_, _, _, rfl, rfl, hrefused _⟩
  | some t =>
    obtain ⟨task, hcoarse, hholds, hstored⟩ := h.present hentry
    have hfind : server.find sessionId = some sessionId := by rw [UtWebServer.find, hentry]; rfl
    have hio : coarse.io sessionId = some task.io := by rw [Server.io, hcoarse]; rfl
    simp only [UtWebServer.beginDownload, Server.downloadTask, hentry, hcoarse, hfind, hio, hholds.expects,
      hholds.nextSize]
    split_ifs with hexpects
    · refine .inr (.inr ⟨_, _, _, _, rfl, rfl, ?_, .inl rfl, hstored⟩)
      rw [hholds.chunkSize]
      exact Nat.min_le_left ..
    · exact .inl ⟨_, _, _, rfl, rfl, hstored.terminate (.inl rfl) env .notAcceptable406 .unset⟩

/-- **The second part of PostUpload** against the task of an upload without pointers. -/
theorem Represents.beginUpload (h : Represents server coarse lost) (env : HandlerEnv) (path sessionId : List Char)
    (a b n : ℕ) :
    (∃ status t server', server.beginUpload env path sessionId a b n = (.refused status, t, server') ∧
      coarse.uploadTask env path sessionId a b n = .error status ∧
      Represents (server'.terminate env t status .unset (server.find sessionId)).2
        (coarse.terminate env (coarse.io sessionId) sessionId status).2 lost) ∨
    ∃ size t server' task files, server.beginUpload env path sessionId a b n = (.ready size, t, server') ∧
      coarse.uploadTask env path sessionId a b n = .ok (task, size, files) ∧
      server'.At sessionId (server.find sessionId) ∧
      Represents (server'.store sessionId t) (({ coarse with files := files } : Server).store sessionId task) lost := by
  cases hentry : server.upDownTaskCollection sessionId with
  | none =>
    have hcoarse := h.absent hentry
    have hfind : server.find sessionId = none := by rw [UtWebServer.find, hentry]; rfl
    have hrefused := fun status => h.idle hentry h.io (fun _ _ _ _ => rfl) env status
    rw [hfind]
    simp only [UtWebServer.beginUpload, Server.uploadTask, hentry, hcoarse]
    by_cases hfirst : a = 0 ∧ b ≠ 0 ∧ n ≠ 0 ∧ b < n
    · rw [if_pos hfirst, if_pos hfirst]
      by_cases hopens : env.opens = true
      · rw [if_pos hopens, if_pos hopens]
        refine .inr ⟨_, _, _, _, _, rfl, rfl, .inr ⟨rfl, hentry⟩, ?_⟩
        have hfiles := congrArg (fun files : Files => Function.update files path (some [])) h.files
        exact h.opens hentry hfiles rfl rfl rfl rfl rfl rfl ⟨rfl, rfl⟩
      · rw [if_neg hopens, if_neg hopens]
        exact .inl ⟨_, _, _, rfl, rfl, hrefused _⟩
    · rw [if_neg hfirst, if_neg hfirst]
      exact .inl ⟨_, _, _, rfl, rfl, hrefused _⟩
  | some t =>
    obtain ⟨task, hcoarse, hholds, hstored⟩ := h.present hentry
    have hfind : server.find sessionId = some sessionId := by rw [UtWebServer.find, hentry]; rfl
    have hio : coarse.io sessionId = some task.io := by rw [Server.io, hcoarse]; rfl
    simp only [UtWebServer.beginUpload, Server.uploadTask, hentry, hcoarse, hfind, hio, hholds.expects, hholds.nextSize]
    split_ifs with hexpects
    · exact .inr ⟨_, _, _, _, _, rfl, rfl, .inl rfl, hstored⟩
    · exact .inl ⟨_, _, _, rfl, rfl, hstored.terminate (.inl rfl) env .notAcceptable406 .unset⟩

end Represents

/-! ### One request -/

/-- The page of `V_OnException` where `new uint8_t[ChunkSize_U32]` has failed. -/
def outOfMemory : Response := onException "std::bad_alloc"

/-- The same answer, or the page of `V_OnException` in place of an empty one with its status. -/
def AnswersAs (res res' : Response) : Prop :=
  (res = res' ∧ res ≠ outOfMemory) ∨ (res = outOfMemory ∧ res' = ⟨Status.internalServerError500.code, [], []⟩)

section Answers

variable {server : Server} {env : HandlerEnv} {sessionId : List Char}

theorem outOfMemory_body : outOfMemory.body ≠ [] := by decide +kernel

theorem terminate_answers (io : Option File) (status : Status) :
    (server.terminate env io sessionId status).1 ≠ outOfMemory :=
  fun h => outOfMemory_body (congrArg Response.body h).symm

theorem reply_answers (task : UpDownTask) (b size : ℕ) (body : List UInt8) :
    (server.reply env sessionId task b size body).1 ≠ outOfMemory := by
  intro h
  have hstatus : (server.reply env sessionId task b size body).1.status = 500 := congrArg Response.status h
  rw [Server.reply] at hstatus
  split_ifs at hstatus
  · exact absurd hstatus (show ¬ (200 : ℕ) = 500 by decide)
  · exact absurd hstatus (show ¬ (206 : ℕ) = 500 by decide)

end Answers

section Handle

variable {server : UtWebServer} {s : Service} {c : Call} {lost : List ℕ} {a b n : ℕ}

/-- The two servers have answered: as each other, or with the page of `V_OnException`, which loses a file. -/
def Represents.Answered (server : UtWebServer) (s : Service) (c : Call) (lost : List ℕ) : Prop :=
  ∃ res server' res' t lost', server.handle c = some (res, server') ∧ s.handle c = some (res', t) ∧
    AnswersAs res res' ∧ Represents server' t.server lost' ∧
    ((lost' = lost ∧ res ≠ outOfMemory) ∨ (lost' = lost ++ [server.io.next] ∧ res = outOfMemory))

/-- The same answer. -/
theorem answered_same {reply : Response × Server} {out : Response × UtWebServer} (hhandle : server.handle c = some out)
    (hservice : c.handler s.server = some reply) (hres : out.1 = reply.1) (hne : reply.1 ≠ outOfMemory)
    (h : Represents out.2 reply.2 lost) : Represents.Answered server s c lost :=
  ⟨out.1, out.2, reply.1, (s.replied c reply).2, lost, hhandle, handle_eq hservice,
    .inl ⟨hres, by rw [hres]; exact hne⟩, h, .inl ⟨rfl, by rw [hres]; exact hne⟩⟩

/-- **One GET.** -/
theorem Represents.handle_get (h : Represents server s.server lost) (hmethod : c.method = .get)
    (hfront : server.front c.request = .control (c.path server.rootDir) a b n)
    (hcoarse : s.server.front c.request = .control (c.path server.rootDir) a b n) :
    Represents.Answered server s c lost := by
  have hhandle : server.handle c = server.getDownload c.env c.request := by rw [UtWebServer.handle, hmethod]
  have hservice := handler_get hmethod s.server
  rcases h.beginDownload c.env (c.path server.rootDir) c.sessionId a b n with
    ⟨status, t, server', hbegin, htask, hafter⟩ | ⟨t, server', hbegin, htask, hafter⟩ |
      ⟨size, t, server', task, hbegin, htask, hsize, hit, hafter⟩
  · have hout : server.getDownload c.env c.request =
        some (server'.terminate c.env t status .unset (server.find c.sessionId)) := by
      simp only [UtWebServer.getDownload, hfront]
      rw [show c.request.sessionId = c.sessionId from rfl, hbegin]
    have hreply : getDownload c.env s.server c.request =
        some (s.server.terminate c.env (s.server.io c.sessionId) c.sessionId status) := by
      simp only [getDownload, hcoarse]
      rw [show s.server.downloadTask c.env (c.path server.rootDir) c.request.sessionId a b n = .error status from htask]
      rfl
    exact answered_same (hhandle.trans hout) (hservice.trans hreply) rfl (terminate_answers _ status) hafter
  · have hout : server.getDownload c.env c.request = some (outOfMemory, server') := by
      simp only [UtWebServer.getDownload, hfront]
      rw [show c.request.sessionId = c.sessionId from rfl, hbegin]
      rfl
    have hreply : getDownload c.env s.server c.request =
        some (s.server.terminate c.env (s.server.io c.sessionId) c.sessionId .internalServerError500) := by
      simp only [getDownload, hcoarse]
      rw [show s.server.downloadTask c.env (c.path server.rootDir) c.request.sessionId a b n =
        .error .internalServerError500 from htask]
      rfl
    exact ⟨outOfMemory, server', _, _, lost ++ [server.io.next], hhandle.trans hout, handle_eq (hservice.trans hreply),
      .inr ⟨rfl, rfl⟩, hafter, .inr ⟨rfl, rfl⟩⟩
  · have hout : server.getDownload c.env c.request =
        some (server'.download c.env t c.sessionId (server.find c.sessionId) b size) := by
      simp only [UtWebServer.getDownload, hfront]
      rw [show c.request.sessionId = c.sessionId from rfl, hbegin]
    have hok : s.server.downloadTask c.env (c.path server.rootDir) c.request.sessionId a b n = .ok (task, size) := htask
    rcases hafter.download hit c.env b hsize with ⟨hread, hres, hnext⟩ | ⟨chunk, io, hread, hres, hnext⟩
    · have hreply : getDownload c.env s.server c.request =
          some (s.server.terminate c.env (some task.io) c.sessionId .internalServerError500) := by
        simp only [getDownload, hcoarse, hok, hread]
        rfl
      exact answered_same (hhandle.trans hout) (hservice.trans hreply) hres (terminate_answers _ _) hnext
    · have hreply : getDownload c.env s.server c.request =
          some (s.server.reply c.env c.sessionId { task with io := io } b size chunk) := by
        simp only [getDownload, hcoarse, hok, hread]
        rfl
      exact answered_same (hhandle.trans hout) (hservice.trans hreply) hres (reply_answers _ _ _ _) hnext

/-- **One POST.** -/
theorem Represents.handle_post (h : Represents server s.server lost) (hmethod : c.method = .post)
    (hfront : server.front c.request = .control (c.path server.rootDir) a b n)
    (hcoarse : s.server.front c.request = .control (c.path server.rootDir) a b n) :
    Represents.Answered server s c lost := by
  have hhandle : server.handle c = server.postUpload c.env c.request := by rw [UtWebServer.handle, hmethod]
  have hservice := handler_post hmethod s.server
  rcases h.beginUpload c.env (c.path server.rootDir) c.sessionId a b n with
    ⟨status, t, server', hbegin, htask, hafter⟩ | ⟨size, t, server', task, files, hbegin, htask, hit, hafter⟩
  · have hout : server.postUpload c.env c.request =
        some (server'.terminate c.env t status .unset (server.find c.sessionId)) := by
      simp only [UtWebServer.postUpload, hfront]
      rw [show c.request.sessionId = c.sessionId from rfl, hbegin]
    have hreply : postUpload c.env s.server c.request =
        some (s.server.terminate c.env (s.server.io c.sessionId) c.sessionId status) := by
      simp only [postUpload, hcoarse]
      rw [show s.server.uploadTask c.env (c.path server.rootDir) c.request.sessionId a b n = .error status from htask]
      rfl
    exact answered_same (hhandle.trans hout) (hservice.trans hreply) rfl (terminate_answers _ status) hafter
  · have hout : server.postUpload c.env c.request =
        some (server'.upload c.env t c.sessionId (server.find c.sessionId) b size c.body) := by
      simp only [UtWebServer.postUpload, hfront]
      rw [show c.request.sessionId = c.sessionId from rfl, hbegin]
      rfl
    have hok : s.server.uploadTask c.env (c.path server.rootDir) c.request.sessionId a b n = .ok (task, size, files) :=
      htask
    obtain ⟨hres, hnext⟩ := hafter.upload hit c.env b size c.body
    dsimp only at hres hnext
    have hbody : c.request.body = c.body := rfl
    have hreply : postUpload c.env s.server c.request = some (
        if size = c.body.length then
          if (task.io.fwrite c.env c.body files).1 = true then
            ({ s.server with files := (task.io.fwrite c.env c.body files).2.2 } : Server).reply c.env c.sessionId
              { task with io := (task.io.fwrite c.env c.body files).2.1 } b size []
          else ({ s.server with files := (task.io.fwrite c.env c.body files).2.2 } : Server).terminate c.env
            (some (task.io.fwrite c.env c.body files).2.1) c.sessionId .insufficientStorage507
        else ({ s.server with files := files } : Server).terminate c.env (some task.io) c.sessionId
          .internalServerError500) := by
      simp only [postUpload, hcoarse, hok, hbody]
      split_ifs <;> rfl
    refine answered_same (hhandle.trans hout) (hservice.trans hreply) hres ?_ hnext
    split_ifs
    · exact reply_answers _ _ _ _
    · exact terminate_answers _ _
    · exact terminate_answers _ _

/-- **One request.** -/
theorem Represents.handle (h : Represents server s.server lost) (c : Call) :
    (server.handle c = none ∧ s.handle c = none) ∨ Represents.Answered server s c lost := by
  by_cases hdef : c.Defined s.server.rootDir
  · have hdefFront : c.Defined (Server.mk server.rootDir server.files fun _ => none).rootDir := by
      rw [← h.rootDir] at hdef
      exact hdef
    obtain ⟨a, b, n, hrange, hfront⟩ := hdefFront.front
    obtain ⟨a', b', n', hrange', hcoarse⟩ := hdef.front
    cases hrange.symm.trans hrange'
    rw [← h.rootDir] at hcoarse
    cases hmethod : c.method with
    | get => exact .inr (h.handle_get hmethod hfront hcoarse)
    | post => exact .inr (h.handle_post hmethod hfront hcoarse)
  · have hundefined : ¬ c.Defined (Server.mk server.rootDir server.files fun _ => none).rootDir := by
      rw [← h.rootDir] at hdef
      exact hdef
    have hfront : server.front c.request = .undefined := Call.front_undefined hundefined
    refine .inl ⟨?_, handle_undefined hdef⟩
    cases hmethod : c.method with
    | get => simp only [UtWebServer.handle, hmethod, UtWebServer.getDownload, hfront]
    | post => simp only [UtWebServer.handle, hmethod, UtWebServer.postUpload, hfront]

end Handle

/-! ### Runs -/

section Runs

variable {rootDir : List Char} {files : Files} {cs : List Call}

/-- Every task has an open file that is no other one's, and a buffer of `ChunkSize_U32` bytes exactly when the file is
not open for writing. No file and no buffer has been used or released after its release, and no read has overrun its
buffer. -/
structure UtWebServer.Sound (server : UtWebServer) : Prop where
  io : server.io.faulted = false
  buffers : server.buffers.faulted = false
  tasks : ∀ sessionId t, server.upDownTaskCollection sessionId = some t →
    ∃ p file, t.pIo = some p ∧ server.io.cells p = some file ∧
      (∀ other, server.holdsIo other = some p → other = sessionId) ∧
      if file.writes = true then t.pBuffer = none else
        ∃ q, t.pBuffer = some q ∧ server.buffers.cells q = some t.chunkSize

theorem Represents.sound {server : UtWebServer} {coarse : Server} {lost : List ℕ} (h : Represents server coarse lost) :
    server.Sound where
  io := h.io.sound
  buffers := h.buffers.sound
  tasks := by
    intro sessionId t hentry
    obtain ⟨task, -, hholds, -⟩ := h.present hentry
    obtain ⟨p, hp, hcell⟩ := hholds.pIo
    have hmine : server.holdsIo sessionId = some p := by
      rw [UtWebServer.holdsIo, hentry]
      exact hp
    exact ⟨p, _, hp, hcell, fun other hother => h.io.unique hother hmine, hholds.pBuffer⟩

end Runs

end BofWebRpc.WebApp
