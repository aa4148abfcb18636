import BofWebRpc.Library.Ownership
import BofWebRpc.WebApp.Sessions

/-!
# The range handlers with their pointers

An `UPDOWN_TASK` has two pointers: `pIo_X` to an open file and `pBuffer_U8` to the
buffer of a download. The handlers copy the task out of `mUpDownTaskCollection`, open
and allocate for a new one, and close and free in `TerminateUpDownTask`.

## The model

`UtWebServer` is the server with its open files and its buffers as cells of two heaps.
A task has addresses here, where `UpDownTask` has the `FILE` itself. A read checks that
its buffer is in use and large enough.

`new` throws when there is no memory: nothing in the handler catches that, and
`V_OnException` answers. The local task goes without its file being closed.
-/

namespace BofWebRpc.WebApp

open Ownership

/-- `UPDOWN_TASK` with its pointers. -/
structure UpDownRecord where
  /-- `RangeMin`. -/
  rangeMin : ℕ
  /-- `RangeMax`. -/
  rangeMax : ℕ
  /-- `DataSize`. -/
  dataSize : ℕ
  /-- `ChunkSize_U32`. -/
  chunkSize : ℕ
  /-- `pIo_X`. -/
  pIo : Option ℕ
  /-- `pBuffer_U8`. -/
  pBuffer : Option ℕ

/-- `UPDOWN_TASK::Reset`. -/
def UpDownRecord.reset : UpDownRecord := ⟨0, 0, 0, 0, none, none⟩

/-- `std::min(ChunkSize_U32, static_cast<uint32_t>(DataSize - RangeMin))`. -/
def UpDownRecord.nextSize (t : UpDownRecord) : ℕ := min t.chunkSize (toU32 (sizeSub t.dataSize t.rangeMin))

/-- The range and the size of a request are those the task expects. -/
def UpDownRecord.Expects (t : UpDownRecord) (rangeMin rangeMax dataSize : ℕ) : Prop :=
  rangeMin = t.rangeMin ∧ rangeMax = t.rangeMax ∧ rangeMax ≤ t.dataSize ∧ dataSize = t.dataSize

instance UpDownRecord.decidableExpects (t : UpDownRecord) (a b n : ℕ) : Decidable (t.Expects a b n) :=
  inferInstanceAs (Decidable (_ ∧ _ ∧ _ ∧ _))

/-- The task after a range of `size` bytes. -/
def UpDownRecord.advance (t : UpDownRecord) (size : ℕ) : UpDownRecord :=
  let rangeMax := sizeAdd t.rangeMax size
  { t with
    rangeMin := sizeAdd t.rangeMax 1
    rangeMax := if sizeSub t.dataSize 1 ≤ rangeMax then sizeSub t.dataSize 1 else rangeMax }

/-- The `Content-Range` of the answer. -/
def UpDownRecord.header (t : UpDownRecord) : List Char := formatContentRange t.rangeMin t.rangeMax t.dataSize

/-- The server of the two routes. -/
structure UtWebServer where
  /-- `RootDir_S`. -/
  rootDir : List Char
  /-- The files. -/
  files : Files
  /-- `mUpDownTaskCollection`. -/
  upDownTaskCollection : List Char → Option UpDownRecord
  /-- The open files. -/
  io : Heap File
  /-- The buffers, by their sizes. -/
  buffers : Heap ℕ

/-- A server without tasks. -/
def UtWebServer.start (rootDir : List Char) (files : Files) : UtWebServer :=
  ⟨rootDir, files, fun _ => none, .empty, .empty⟩

/-- `mUpDownTaskCollection[SessionId_S] = UpDownTask_X`. -/
def UtWebServer.store (server : UtWebServer) (sessionId : List Char) (t : UpDownRecord) : UtWebServer :=
  { server with upDownTaskCollection := Function.update server.upDownTaskCollection sessionId (some t) }

/-- `mUpDownTaskCollection.find`: the key of the entry, none for `end()`. -/
def UtWebServer.find (server : UtWebServer) (sessionId : List Char) : Option (List Char) :=
  (server.upDownTaskCollection sessionId).map fun _ => sessionId

/-- `if (pIo_X) { fclose(pIo_X); }`. -/
def UtWebServer.fclose (env : HandlerEnv) (server : UtWebServer) (pIo : Option ℕ) : UtWebServer :=
  { server with
    files := (pIo.bind server.io.cells).elim server.files fun file => file.fclose env server.files
    io := server.io.freeIf pIo }

/-- `TerminateUpDownTask`. -/
def UtWebServer.terminate (env : HandlerEnv) (server : UtWebServer) (t : UpDownRecord) (status : Status)
    (res : Response)
    (it : Option (List Char)) : Response × UtWebServer :=
  let server := server.fclose env t.pIo
  ({ res with status := status.code },
    { server with
      buffers := server.buffers.freeIf t.pBuffer
      upDownTaskCollection := match it with
        | none => server.upDownTaskCollection
        | some sessionId => Function.update server.upDownTaskCollection sessionId none })

/-- `BofWebServer::V_OnException`: a page with what the exception says, cut to `pBuffer_c`. -/
def onException (what : String) : Response :=
  ⟨Status.internalServerError500.code, [],
    (("<h1>Error 500</h1><p>" ++ what ++ "</p>").toList.map fun c => c.toNat.toUInt8).take 255⟩

/-- The first part of a handler, which has no task yet. -/
def UtWebServer.front (server : UtWebServer) (req : Request) : Front :=
  Server.front ⟨server.rootDir, server.files, fun _ => none⟩ req

/-- How the second part of a handler ends. -/
inductive Begun where
  /-- `TerminateUpDownTask` is called. -/
  | refused (status : Status)
  /-- `std::bad_alloc` leaves the handler. -/
  | threw
  /-- A range of `size` bytes is transferred next. -/
  | ready (size : ℕ)

/-- The end of a handler that has transferred its range; `res` has everything but the status. -/
def UtWebServer.conclude (env : HandlerEnv) (server : UtWebServer) (t : UpDownRecord) (sessionId : List Char)
    (it : Option (List Char)) (rangeMax size : ℕ) (res : Response) : Response × UtWebServer :=
  if sizeSub t.dataSize 1 ≤ rangeMax then server.terminate env t .ok200 res it
  else ({ res with status := Status.partialContent206.code }, server.store sessionId (t.advance size))

/-! ### Download -/

/-- The second part of `GetDownload`: how it ends, and the local `UpDownTask_X`. -/
def UtWebServer.beginDownload (env : HandlerEnv) (server : UtWebServer) (path sessionId : List Char)
    (rangeMin rangeMax dataSize : ℕ) : Begun × UpDownRecord × UtWebServer :=
  match server.upDownTaskCollection sessionId with
  | none =>
    if rangeMin = 0 ∧ rangeMax ≠ 0 ∧ dataSize = 0 then
      match env.opens, server.files path with
      | true, some content =>
        let dataSize := ftell content.length
        let chunkSize := toU32 (sizeAdd rangeMax 1)
        let opened : UpDownRecord := ⟨rangeMin, rangeMax, dataSize, chunkSize, some server.io.next, none⟩
        let server := { server with io := server.io.alloc (.rb path) }
        if env.allocates then
          let t := { opened with pBuffer := some server.buffers.next }
          let server := { server with buffers := server.buffers.alloc chunkSize }
          if dataSize ≤ chunkSize then (.ready dataSize, { t with rangeMax := sizeSub dataSize 1 }, server)
          else (.ready chunkSize, t, server)
        else (.threw, opened, server)
      | _, _ => (.refused .unauthorized401, .reset, server)
    else (.refused .notAcceptable406, .reset, server)
  | some t =>
    if t.Expects rangeMin rangeMax dataSize then (.ready t.nextSize, t, server)
    else (.refused .notAcceptable406, t, server)

/-- `fread(UpDownTask_X.pBuffer_U8, size, 1, UpDownTask_X.pIo_X) == 1`: the bytes read, if so. A file that is open
for writing is not read, and the buffer not touched. -/
def UtWebServer.fread (env : HandlerEnv) (server : UtWebServer) (t : UpDownRecord) (size : ℕ) :
    Option (List UInt8) × UtWebServer :=
  match t.pIo.bind server.io.cells with
  | none => (none, { server with io := server.io.access none fun _ => true })
  | some file =>
    let touched := if file.writes = true then server.buffers
      else server.buffers.access t.pBuffer fun capacity => decide (size ≤ capacity)
    match file.fread env size server.files with
    | none => (none, { server with buffers := touched })
    | some (chunk, file) =>
      (some chunk, { server with io := server.io.modify (t.pIo.getD 0) fun _ => file, buffers := touched })

/-- The third part of `GetDownload`. -/
def UtWebServer.download (env : HandlerEnv) (server : UtWebServer) (t : UpDownRecord) (sessionId : List Char)
    (it : Option (List Char)) (rangeMax size : ℕ) : Response × UtWebServer :=
  match server.fread env t size with
  | (some chunk, server) => server.conclude env t sessionId it rangeMax size ⟨Response.unset.status, t.header, chunk⟩
  | (none, server) => server.terminate env t .internalServerError500 .unset it

/-- `UtWebServer::GetDownload`. -/
def UtWebServer.getDownload (env : HandlerEnv) (server : UtWebServer) (req : Request) :
    Option (Response × UtWebServer) :=
  match server.front req with
  | .threw => some (.unset, server)
  | .undefined => none
  | .control path rangeMin rangeMax dataSize =>
    let it := server.find req.sessionId
    match server.beginDownload env path req.sessionId rangeMin rangeMax dataSize with
    | (.refused status, t, server) => some (server.terminate env t status .unset it)
    | (.threw, _, server) => some (onException "std::bad_alloc", server)
    | (.ready size, t, server) => some (server.download env t req.sessionId it rangeMax size)

/-! ### Upload -/

/-- The second part of `PostUpload`. -/
def UtWebServer.beginUpload (env : HandlerEnv) (server : UtWebServer) (path sessionId : List Char)
    (rangeMin rangeMax dataSize : ℕ) : Begun × UpDownRecord × UtWebServer :=
  match server.upDownTaskCollection sessionId with
  | none =>
    if rangeMin = 0 ∧ rangeMax ≠ 0 ∧ dataSize ≠ 0 ∧ rangeMax < dataSize then
      if env.opens then
        let chunkSize := toU32 (sizeAdd rangeMax 1)
        (.ready (if dataSize ≤ chunkSize then dataSize else chunkSize),
          ⟨rangeMin, rangeMax, dataSize, chunkSize, some server.io.next, none⟩,
          { server with
            files := Function.update server.files path (some [])
            io := server.io.alloc (.wb path) })
      else (.refused .unauthorized401, .reset, server)
    else (.refused .notAcceptable406, .reset, server)
  | some t =>
    if t.Expects rangeMin rangeMax dataSize then (.ready t.nextSize, t, server)
    else (.refused .notAcceptable406, t, server)

/-- `fwrite(body, size, 1, UpDownTask_X.pIo_X) == 1`. -/
def UtWebServer.fwrite (env : HandlerEnv) (server : UtWebServer) (t : UpDownRecord) (body : List UInt8) :
    Bool × UtWebServer :=
  match t.pIo.bind server.io.cells with
  | none => (false, { server with io := server.io.access none fun _ => true })
  | some file =>
    let (written, file, files) := file.fwrite env body server.files
    (written, { server with files := files, io := server.io.modify (t.pIo.getD 0) fun _ => file })

/-- The third part of `PostUpload`. -/
def UtWebServer.upload (env : HandlerEnv) (server : UtWebServer) (t : UpDownRecord) (sessionId : List Char)
    (it : Option (List Char)) (rangeMax size : ℕ) (body : List UInt8) : Response × UtWebServer :=
  if size = body.length then
    match server.fwrite env t body with
    | (true, server) => server.conclude env t sessionId it rangeMax size ⟨Response.unset.status, t.header, []⟩
    | (false, server) => server.terminate env t .insufficientStorage507 .unset it
  else server.terminate env t .internalServerError500 .unset it

/-- `UtWebServer::PostUpload`. -/
def UtWebServer.postUpload (env : HandlerEnv) (server : UtWebServer) (req : Request) :
    Option (Response × UtWebServer) :=
  match server.front req with
  | .threw => some (.unset, server)
  | .undefined => none
  | .control path rangeMin rangeMax dataSize =>
    let it := server.find req.sessionId
    match server.beginUpload env path req.sessionId rangeMin rangeMax dataSize with
    | (.refused status, t, server) => some (server.terminate env t status .unset it)
    | (.threw, _, server) => some (onException "std::bad_alloc", server)
    | (.ready size, t, server) => some (server.upload env t req.sessionId it rangeMax size req.body)

/-- The handler of the route; none where it has no defined behaviour. -/
def UtWebServer.handle (server : UtWebServer) (c : Call) : Option (Response × UtWebServer) :=
  match c.method with
  | .get => server.getDownload c.env c.request
  | .post => server.postUpload c.env c.request

end BofWebRpc.WebApp
