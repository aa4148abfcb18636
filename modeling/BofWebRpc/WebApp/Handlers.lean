import BofWebRpc.WebApp.Http
import BofWebRpc.WebApp.Stdio
import Mathlib.Data.List.Infix

/-!
# The range handlers

The server side of the transfers: `GetDownload` sends a file in ranges and
`PostUpload` receives one. A transfer that needs more than one request leaves an
`UPDOWN_TASK` in `mUpDownTaskCollection` under its `Session-Id`, with the range the
handler expects next.

## The model

`Server` has the files and the tasks, each with its open `FILE`. A handler takes what
the system calls of this request answer (`HandlerEnv`), the server and the request. Its
result is `none` where the source has no defined behaviour: a path with `..` or a header
that cannot be parsed is answered by a call of `TerminateUpDownTask` with an iterator
that was never assigned, which is compared and erased.

`new uint8_t[..]` that fails is a flag of `HandlerEnv` like the others; the
handler's start time, which nothing reads, is left out.
-/

namespace BofWebRpc.WebApp

/-- `UPDOWN_TASK`. -/
structure UpDownTask where
  /-- `RangeMin` of the range expected next. -/
  rangeMin : ℕ
  /-- `RangeMax` of the range expected next. -/
  rangeMax : ℕ
  /-- `DataSize`. -/
  dataSize : ℕ
  /-- `ChunkSize_U32`. -/
  chunkSize : ℕ
  /-- What `pIo_X` points to. -/
  io : File

/-- The server. -/
structure Server where
  /-- `RootDir_S`. -/
  rootDir : List Char
  /-- The files. -/
  files : Files
  /-- `mUpDownTaskCollection`, by session. -/
  tasks : List Char → Option UpDownTask

/-- A server at the start, with one file. -/
def Server.start (rootDir dir file : List Char) (content : List UInt8) : Server :=
  { rootDir := rootDir
    files := fun path => if path = rootDir ++ '/' :: (dir ++ '/' :: file) then some content else none
    tasks := fun _ => none }

/-- The response of a handler that sets nothing; `cpp-httplib` sends it with status 200. -/
def Response.unset : Response := ⟨200, [], []⟩

/-- `TerminateUpDownTask`: the file of the local task, if it has one, is closed, the entry of the session erased when
there is one, and the status is the answer. -/
def Server.terminate (env : HandlerEnv) (server : Server) (io : Option File) (sessionId : List Char) (status : Status) :
    Response × Server :=
  (⟨status.code, [], []⟩,
    { server with
      files := io.elim server.files fun file => file.fclose env server.files
      tasks := Function.update server.tasks sessionId none })

/-- The file of the session's task. -/
def Server.io (server : Server) (sessionId : List Char) : Option File := (server.tasks sessionId).map UpDownTask.io

/-- `mUpDownTaskCollection[SessionId_S] = UpDownTask_X`. -/
def Server.store (server : Server) (sessionId : List Char) (task : UpDownTask) : Server :=
  { server with tasks := Function.update server.tasks sessionId (some task) }

/-- `RootDir_S + "/" + Dir_S + "/" + File_S`. -/
def Server.path (server : Server) (dir file : List Char) : List Char :=
  server.rootDir ++ '/' :: (dir ++ '/' :: file)

/-! ### What both handlers do -/

/-- What the first part of a handler finds. -/
inductive Front where
  /-- A path parameter is missing: `at` threw, and the exception was caught. -/
  | threw
  /-- `TerminateUpDownTask` was called with the unassigned iterator. -/
  | undefined
  /-- The path, and the three numbers of the header. -/
  | control (path : List Char) (rangeMin rangeMax dataSize : ℕ)

/-- The first part of a handler. -/
def Server.front (server : Server) (req : Request) : Front :=
  match req.dir, req.file with
  | some dir, some file =>
    if ['.', '.'] <:+: server.path dir file then .undefined
    else
      match parseContentRangeRequest req.contentRange with
      | none => .undefined
      | some (rangeMin, rangeMax, dataSize) => .control (server.path dir file) rangeMin rangeMax dataSize
  | _, _ => .threw

/-- A well-formed header is read back. -/
theorem Server.front_control {server : Server} {req : Request} {dir file : List Char} {a b n : ℕ}
    (hpath : ¬ ['.', '.'] <:+: server.path dir file) (hdir : req.dir = some dir) (hfile : req.file = some file)
    (ha : a < sizeMax) (hb : b < sizeMax) (hn : n < sizeMax)
    (hreq : req.contentRange = formatContentRange a b n) :
    server.front req = .control (server.path dir file) a b n := by
  simp only [Server.front, hdir, hfile, if_neg hpath, hreq, parseContentRangeRequest_format ha hb hn]

/-- `std::min(ChunkSize_U32, static_cast<uint32_t>(DataSize - RangeMin))`: the size of the
next range. -/
def UpDownTask.nextSize (task : UpDownTask) : ℕ := min task.chunkSize (toU32 (sizeSub task.dataSize task.rangeMin))

/-- The range and the size of a request are those the task expects. -/
def UpDownTask.Expects (task : UpDownTask) (rangeMin rangeMax dataSize : ℕ) : Prop :=
  rangeMin = task.rangeMin ∧ rangeMax = task.rangeMax ∧ rangeMax ≤ task.dataSize ∧ dataSize = task.dataSize

instance (task : UpDownTask) (a b n : ℕ) : Decidable (task.Expects a b n) :=
  inferInstanceAs (Decidable (_ ∧ _ ∧ _ ∧ _))

/-- The task after a range of `size` bytes. -/
def UpDownTask.advance (task : UpDownTask) (size : ℕ) : UpDownTask :=
  let rangeMax := sizeAdd task.rangeMax size
  { task with
    rangeMin := sizeAdd task.rangeMax 1
    rangeMax := if sizeSub task.dataSize 1 ≤ rangeMax then sizeSub task.dataSize 1 else rangeMax }

/-- The `Content-Range` of the answer. -/
def UpDownTask.header (task : UpDownTask) : List Char :=
  formatContentRange task.rangeMin task.rangeMax task.dataSize

/-- The answer to a range that was transferred: the transfer ends when the range asked
for (`rangeMax` of the request) reaches the last byte. -/
def Server.reply (env : HandlerEnv) (server : Server) (sessionId : List Char) (task : UpDownTask) (rangeMax size : ℕ)
    (body : List UInt8) : Response × Server :=
  if sizeSub task.dataSize 1 ≤ rangeMax then
    (⟨Status.ok200.code, task.header, body⟩, (server.terminate env (some task.io) sessionId .ok200).2)
  else (⟨Status.partialContent206.code, task.header, body⟩, server.store sessionId (task.advance size))

/-! ### Download -/

/-- The task of a download and its `ReadSize`, or the status that refuses the request. -/
def Server.downloadTask (env : HandlerEnv) (server : Server) (path sessionId : List Char)
    (rangeMin rangeMax dataSize : ℕ) : Except Status (UpDownTask × ℕ) :=
  match server.tasks sessionId with
  | none =>
    -- the first range must be `0-chunksize/0`
    if rangeMin = 0 ∧ rangeMax ≠ 0 ∧ dataSize = 0 then
      match env.opens, server.files path with
      | true, some content =>
        let dataSize := ftell content.length
        let chunkSize := toU32 (sizeAdd rangeMax 1)
        if env.allocates then
          if dataSize ≤ chunkSize then
            .ok (⟨rangeMin, sizeSub dataSize 1, dataSize, chunkSize, .rb path⟩, dataSize)
          else .ok (⟨rangeMin, rangeMax, dataSize, chunkSize, .rb path⟩, chunkSize)
        else .error .internalServerError500
      | _, _ => .error .unauthorized401
    else .error .notAcceptable406
  | some task =>
    if task.Expects rangeMin rangeMax dataSize then .ok (task, task.nextSize)
    else .error .notAcceptable406

/-- `UtWebServer::GetDownload`. -/
def getDownload (env : HandlerEnv) (server : Server) (req : Request) : Option (Response × Server) :=
  match server.front req with
  | .threw => some (.unset, server)
  | .undefined => none
  | .control path rangeMin rangeMax dataSize =>
    match server.downloadTask env path req.sessionId rangeMin rangeMax dataSize with
    | .error status => some (server.terminate env (server.io req.sessionId) req.sessionId status)
    | .ok (task, readSize) =>
      match task.io.fread env readSize server.files with
      | some (chunk, io) => some (server.reply env req.sessionId { task with io := io } rangeMax readSize chunk)
      | none => some (server.terminate env (some task.io) req.sessionId .internalServerError500)

/-! ### Upload -/

/-- The task of an upload, its `WriteSize` and the files with this one opened, or the
status that refuses the request. -/
def Server.uploadTask (env : HandlerEnv) (server : Server) (path sessionId : List Char)
    (rangeMin rangeMax dataSize : ℕ) : Except Status (UpDownTask × ℕ × Files) :=
  match server.tasks sessionId with
  | none =>
    if rangeMin = 0 ∧ rangeMax ≠ 0 ∧ dataSize ≠ 0 ∧ rangeMax < dataSize then
      if env.opens then
        let chunkSize := toU32 (sizeAdd rangeMax 1)
        .ok (⟨rangeMin, rangeMax, dataSize, chunkSize, .wb path⟩,
          if dataSize ≤ chunkSize then dataSize else chunkSize, Function.update server.files path (some []))
      else .error .unauthorized401
    else .error .notAcceptable406
  | some task =>
    if task.Expects rangeMin rangeMax dataSize then .ok (task, task.nextSize, server.files)
    else .error .notAcceptable406

/-- `UtWebServer::PostUpload`. -/
def postUpload (env : HandlerEnv) (server : Server) (req : Request) : Option (Response × Server) :=
  match server.front req with
  | .threw => some (.unset, server)
  | .undefined => none
  | .control path rangeMin rangeMax dataSize =>
    match server.uploadTask env path req.sessionId rangeMin rangeMax dataSize with
    | .error status => some (server.terminate env (server.io req.sessionId) req.sessionId status)
    | .ok (task, writeSize, files) =>
      if writeSize = req.body.length then
        let (written, io, files) := task.io.fwrite env req.body files
        let server := { server with files := files }
        if written = true then some (server.reply env req.sessionId { task with io := io } rangeMax writeSize [])
        else some (server.terminate env (some io) req.sessionId .insufficientStorage507)
      else
        let server := { server with files := files }
        some (server.terminate env (some task.io) req.sessionId .internalServerError500)

end BofWebRpc.WebApp
