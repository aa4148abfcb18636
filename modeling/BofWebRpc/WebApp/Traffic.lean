import BofWebRpc.WebApp.DownloadEndToEnd
import BofWebRpc.WebApp.Transfers
import BofWebRpc.WebApp.UploadEndToEnd

/-!
# Transfers among other traffic

The transfers of `BofWebClient` against the handlers, while other clients send requests
in between.

## The model

`downloadAmid` and `uploadAmid` give an iteration of the client the answer of the
service to its request, after a batch of requests of other sessions: the schedule has one
batch for each iteration. `Same sessionId P` relates two servers with the same task
of the session and the same files in `P`; `Amid` relates the service to a server that
only this client uses. The requests of the others are defined (`Elsewhere`): after
another one nothing is known of the server.

## What is proved

* `handler_same` — such servers answer the requests of the session alike.
* `replies_isolated` — the answers of a session do not depend on the other sessions.
* `upload_amid_traffic_iff` — an upload ends as if the client were alone.
* `upload_then_download` — what has been uploaded is downloaded again.
-/

namespace BofWebRpc.WebApp

open NonInterference Runs

/-! ### Servers a session cannot tell apart -/

/-- The same task of the session and the same files in `P`. -/
structure Same (sessionId : List Char) (P : List Char → Prop) (x y : Server) : Prop where
  rootDir : y.rootDir = x.rootDir
  tasks : y.tasks sessionId = x.tasks sessionId
  files : SameFiles P x.files y.files

section Same

variable {sessionId : List Char} {P : List Char → Prop} {x y : Server}

theorem Same.front (h : Same sessionId P x y) (req : Request) : y.front req = x.front req := by
  have hpath : ∀ dir file, y.path dir file = x.path dir file := fun dir file => by
    rw [Server.path, h.rootDir]
    rfl
  simp only [Server.front, hpath]

theorem Same.io (h : Same sessionId P x y) : y.io sessionId = x.io sessionId := by
  rw [Server.io, h.tasks]
  rfl

/-- The files and the task of the session are replaced. -/
theorem Same.withTask (h : Same sessionId P x y) {files files' : Files} (hfiles : SameFiles P files files')
    (next : Option UpDownTask) :
    Same sessionId P { x with files := files, tasks := Function.update x.tasks sessionId next }
      { y with files := files', tasks := Function.update y.tasks sessionId next } :=
  ⟨h.rootDir, by simp only [Function.update_self], hfiles⟩

theorem Same.withFiles (h : Same sessionId P x y) {files files' : Files} (hfiles : SameFiles P files files') :
    Same sessionId P { x with files := files } { y with files := files' } := ⟨h.rootDir, h.tasks, hfiles⟩

theorem Same.terminate (h : Same sessionId P x y) (env : HandlerEnv) (io : Option File) (status : Status) :
    (y.terminate env io sessionId status).1 = (x.terminate env io sessionId status).1 ∧
      Same sessionId P (x.terminate env io sessionId status).2 (y.terminate env io sessionId status).2 := by
  refine ⟨rfl, h.withTask ?_ none⟩
  cases io with
  | none => exact h.files
  | some file => exact h.files.fclose

theorem Same.reply (h : Same sessionId P x y) (env : HandlerEnv) (task : UpDownTask) (b size : ℕ) (body : List UInt8) :
    (y.reply env sessionId task b size body).1 = (x.reply env sessionId task b size body).1 ∧
      Same sessionId P (x.reply env sessionId task b size body).2 (y.reply env sessionId task b size body).2 := by
  simp only [Server.reply]
  split_ifs
  · exact ⟨rfl, (h.terminate env (some task.io) .ok200).2⟩
  · exact ⟨rfl, h.withTask h.files (some (task.advance size))⟩

theorem Same.downloadTask (h : Same sessionId P x y) {path : List Char} (hP : P path) (env : HandlerEnv) (a b n : ℕ) :
    y.downloadTask env path sessionId a b n = x.downloadTask env path sessionId a b n := by
  simp only [Server.downloadTask, h.tasks, h.files path hP]

/-- The files an upload goes on with. -/
theorem Same.uploadTask (h : Same sessionId P x y) (env : HandlerEnv) (path : List Char) (a b n : ℕ) :
    (∃ status, x.uploadTask env path sessionId a b n = .error status ∧
      y.uploadTask env path sessionId a b n = .error status) ∨
    ∃ task size files files', x.uploadTask env path sessionId a b n = .ok (task, size, files) ∧
      y.uploadTask env path sessionId a b n = .ok (task, size, files') ∧ SameFiles P files files' := by
  simp only [Server.uploadTask, h.tasks]
  cases x.tasks sessionId with
  | none =>
    by_cases hfirst : a = 0 ∧ b ≠ 0 ∧ n ≠ 0 ∧ b < n
    · simp only [if_pos hfirst]
      cases env.opens with
      | true => exact .inr ⟨_, _, _, _, rfl, rfl, h.files.update path fun _ => rfl⟩
      | false => exact .inl ⟨.unauthorized401, rfl, rfl⟩
    · simp only [if_neg hfirst]
      exact .inl ⟨.notAcceptable406, rfl, rfl⟩
  | some task =>
    by_cases hexp : task.Expects a b n
    · simp only [if_pos hexp]
      exact .inr ⟨task, task.nextSize, x.files, y.files, rfl, rfl, h.files⟩
    · simp only [if_neg hexp]
      exact .inl ⟨.notAcceptable406, rfl, rfl⟩

/-- What a handler answers to two servers: the same, with servers that are the same again, or nothing. -/
def SameAnswer (sessionId : List Char) (P : List Char → Prop) (u v : Option (Response × Server)) : Prop :=
  (u = none ∧ v = none) ∨
    ∃ res x y, u = some (res, x) ∧ v = some (res, y) ∧ Same sessionId P x y

theorem SameAnswer.of_pair {u v : Response × Server} (h : v.1 = u.1 ∧ Same sessionId P u.2 v.2) :
    SameAnswer sessionId P (some u) (some v) := by
  obtain ⟨u₁, u₂⟩ := u
  obtain ⟨v₁, v₂⟩ := v
  obtain ⟨rfl, hsame⟩ := h
  exact .inr ⟨_, _, _, rfl, rfl, hsame⟩

/-- A GET of the session. -/
theorem getDownload_same {req : Request} (h : Same req.sessionId P x y) (env : HandlerEnv) {path : List Char}
    {a b n : ℕ}
    (hfront : x.front req = .control path a b n) (hpath : P path)
    (htask : ∀ task, x.tasks req.sessionId = some task → P task.io.path) :
    SameAnswer req.sessionId P (getDownload env x req) (getDownload env y req) := by
  simp only [getDownload, hfront, (h.front req).trans hfront, h.downloadTask hpath, h.io]
  cases hfound : x.downloadTask env path req.sessionId a b n with
  | error status => exact .of_pair (h.terminate env _ status)
  | ok found =>
    obtain ⟨task, size⟩ := found
    have hP : P task.io.path := by
      rcases downloadTask_ok hfound with ⟨hsome, -⟩ | ⟨-, -, -, _, -, ⟨-, -, rfl⟩ | ⟨-, -, rfl⟩⟩
      · exact htask task hsome
      · exact hpath
      · exact hpath
    simp only [h.files.fread hP]
    cases task.io.fread env size x.files with
    | none => exact .of_pair (h.terminate env _ .internalServerError500)
    | some read => exact .of_pair (h.reply env { task with io := read.2 } b size read.1)

/-- A POST of the session. -/
theorem postUpload_same {req : Request} (h : Same req.sessionId P x y) (env : HandlerEnv) {path : List Char} {a b n : ℕ}
    (hfront : x.front req = .control path a b n) :
    SameAnswer req.sessionId P (postUpload env x req) (postUpload env y req) := by
  simp only [postUpload, hfront, (h.front req).trans hfront, h.io]
  rcases h.uploadTask env path a b n with ⟨status, hx, hy⟩ | ⟨task, size, files, files', hx, hy, hfiles⟩
  · simp only [hx, hy]
    exact .of_pair (h.terminate env _ status)
  · obtain ⟨hwritten, hio, hafter⟩ := hfiles.fwrite env task.io req.body
    simp only [hx, hy, hwritten, hio]
    split_ifs
    · exact .of_pair ((h.withFiles hafter).reply env _ b size [])
    · exact .of_pair ((h.withFiles hafter).terminate env _ .insufficientStorage507)
    · exact .of_pair ((h.withFiles hfiles).terminate env _ .internalServerError500)

/-- **A request of the session** is answered alike. -/
theorem handler_same {c : Call} (h : Same c.sessionId P x y) (hpath : P (c.path x.rootDir))
    (htask : ∀ task, x.tasks c.sessionId = some task → P task.io.path) :
    SameAnswer c.sessionId P (c.handler x) (c.handler y) := by
  by_cases hdef : c.Defined x.rootDir
  · obtain ⟨a, b, n, -, hfront⟩ := hdef.front
    cases hmethod : c.method with
    | get =>
      rw [handler_get hmethod, handler_get hmethod]
      exact getDownload_same (show Same c.request.sessionId P x y from h) c.env hfront hpath htask
    | post =>
      rw [handler_post hmethod, handler_post hmethod]
      exact postUpload_same (show Same c.request.sessionId P x y from h) c.env hfront
  · have hdef' : ¬ c.Defined y.rootDir := by
      rw [h.rootDir]
      exact hdef
    exact .inl ⟨handler_undefined hdef, handler_undefined hdef'⟩

end Same

/-! ### Noninterference -/

/-- Two services that a session whose files are those in `P` cannot tell apart; in the first one no other session writes
these files. -/
structure View (sessionId : List Char) (P : List Char → Prop) (s t : Service) : Prop where
  same : Same sessionId P s.server t.server
  own : ∀ task, s.server.tasks sessionId = some task → P task.io.path
  onlyBy : ∀ path, P path → s.OnlyBy (· = sessionId) path

section View

variable {sessionId : List Char} {P : List Char → Prop} {s s' t : Service} {c : Call}

/-- The files of the task of a session stay in `P`. -/
theorem handle_own (hown : ∀ task, s.server.tasks c.sessionId = some task → P task.io.path)
    (hpath : P (c.path s.server.rootDir)) {res : Response} (hout : s.handle c = some (res, s')) :
    ∀ task, s'.server.tasks c.sessionId = some task → P task.io.path := by
  intro task htask
  have hdef := handle_isSome_iff.mp (Option.isSome_iff_exists.mpr ⟨_, hout⟩)
  obtain ⟨res', next, files, hout', -, hnext, -⟩ := handle_touches hdef
  cases hout.symm.trans hout'
  simp only [Function.update_self] at htask
  rw [(hnext task htask).1, Service.target]
  cases hold : s.server.tasks c.sessionId with
  | none => exact hpath
  | some old => exact hown old hold

/-- A request of the session: both services answer it alike, or neither does. -/
theorem View.mine (h : View c.sessionId P s t) (hpath : P (c.path s.server.rootDir))
    (hcall : ∀ path, P path → c.OnlyBy (· = c.sessionId) s.server.rootDir path) :
    (s.handle c = none ∧ c.handler t.server = none) ∨
    ∃ res s' server, s.handle c = some (res, s') ∧ c.handler t.server = some (res, server) ∧
      ∀ moved, View c.sessionId P s' ⟨server, moved⟩ := by
  rcases handler_same h.same hpath h.own with ⟨hx, hy⟩ | ⟨res, x, y, hx, hy, hsame⟩
  · exact .inl ⟨by rw [Service.handle, hx]; rfl, hy⟩
  · have hout := handle_eq hx
    refine .inr ⟨res, _, y, hout, hy, fun moved => ⟨hsame, ?_, fun path hP => ?_⟩⟩
    · exact handle_own h.own hpath hout
    · exact handle_onlyBy (h.onlyBy path hP) (hcall path hP) hout

/-- A request of another session. -/
theorem View.others (h : View sessionId P s t) (hmine : c.sessionId ≠ sessionId)
    (hcall : ∀ path, P path → c.OnlyBy (· = sessionId) s.server.rootDir path) {res : Response}
    (hout : s.handle c = some (res, s')) (hroot : s'.server.rootDir = s.server.rootDir) : View sessionId P s' t := by
  have hframe := handle_frame hout hmine
  refine ⟨⟨?_, ?_, fun path hP => ?_⟩, fun task htask => ?_, fun path hP => ?_⟩
  · rw [hroot]
    exact h.same.rootDir
  · rw [hframe.tasks]
    exact h.same.tasks
  · rw [handle_file (h.onlyBy path hP) (hcall path hP) hmine hout]
    exact h.same.files path hP
  · exact h.own task (hframe.tasks.symm.trans htask)
  · exact handle_onlyBy (h.onlyBy path hP) (hcall path hP) hout

end View

/-! ### A client among others -/

/-- The answer to a request, after the first batch of other requests. No response comes back from a server without
defined behaviour. -/
def serveAmid (c : Call) (t : Service × List (List Call)) : Option Response × (Service × List (List Call)) :=
  match (run Service.handle t.1 (t.2.headD [])).bind fun p => p.2.handle c with
  | none => (none, t)
  | some (res, s) => (some res, (s, t.2.tail))

/-- The requests of a schedule are of other sessions, defined, and upload nothing to `path`. -/
def Elsewhere (who : List Char → Prop) (rootDir path : List Char) (schedule : List (List Call)) : Prop :=
  ∀ batch ∈ schedule, ∀ c ∈ batch, ¬ who c.sessionId ∧ c.Defined rootDir ∧ c.OnlyBy (fun _ => False) rootDir path

/-- The service is to the client as `server`, which only the client uses: for requests of a session `sessionId` on
`path`, while the sessions `absent` have no task. -/
structure Amid (sessionId : List Char) (absent : List Char → Prop) (rootDir path : List Char)
    (t : Service × List (List Call)) (server : Server) : Prop where
  root : t.1.server.rootDir = rootDir
  view : ∀ moved, View sessionId (· = path) t.1 ⟨server, moved⟩
  idle : ∀ other, absent other → other ≠ sessionId → t.1.server.tasks other = none
  traffic : Elsewhere (fun other => other = sessionId ∨ absent other) rootDir path t.2

section Amid

variable {sessionId : List Char} {absent : List Char → Prop} {rootDir path : List Char}
  {t : Service × List (List Call)} {server : Server} {c : Call}

/-- A batch of requests of the others. -/
theorem Amid.batch (h : Amid sessionId absent rootDir path t server) :
    ∃ log s, run Service.handle t.1 (t.2.headD []) = some (log, s) ∧
      Amid sessionId absent rootDir path (s, t.2.tail) server := by
  have hbatch : ∀ d ∈ t.2.headD [], ¬ (d.sessionId = sessionId ∨ absent d.sessionId) ∧ d.Defined rootDir ∧
      d.OnlyBy (fun _ => False) rootDir path := by
    intro d hd
    cases hschedule : t.2 with
    | nil =>
      rw [hschedule] at hd
      cases hd
    | cons batch rest =>
      rw [hschedule] at hd
      exact h.traffic batch (by rw [hschedule]; exact List.mem_cons_self) d hd
  have hstep : ∀ (s : Service) (d : Call), Amid sessionId absent rootDir path (s, t.2.tail) server →
      (¬ (d.sessionId = sessionId ∨ absent d.sessionId) ∧ d.Defined rootDir ∧ d.OnlyBy (fun _ => False) rootDir path) →
      ∃ res s', s.handle d = some (res, s') ∧ Amid sessionId absent rootDir path (s', t.2.tail) server := by
    rintro s d hs ⟨hnot, hdef, honly⟩
    obtain ⟨rfl, hview, hidle, htraffic⟩ := hs
    obtain ⟨res, s', hout, hroot⟩ := handle_defined hdef
    have hmine : d.sessionId ≠ sessionId := fun he => hnot (.inl he)
    refine ⟨res, s', hout, hroot, fun moved => (hview moved).others hmine ?_ hout hroot, fun other hother hne => ?_,
      htraffic⟩
    · rintro path rfl hpost hnamed
      exact absurd (honly hpost hnamed) id
    · refine (handle_frame hout fun he => hnot (.inr ?_)).tasks.trans (hidle other hother hne)
      rw [he]
      exact hother
  exact run_inv hstep (t.2.headD []) t.1
    ⟨h.root, h.view, h.idle, fun batch hmem => h.traffic batch (List.mem_of_mem_tail hmem)⟩ hbatch

/-- **One request among others** is answered as by the server the client has for itself. -/
theorem Amid.serve (h : Amid sessionId absent rootDir path t server) (hid : c.sessionId = sessionId)
    (hpath : c.path rootDir = path) :
    (c.handler server = none ∧ serveAmid c t = (none, t)) ∨
    ∃ res server', c.handler server = some (res, server') ∧ (serveAmid c t).1 = some res ∧
      Amid sessionId absent rootDir path (serveAmid c t).2 server' := by
  obtain ⟨log, s, hrun, rfl, hview, hidle, htraffic⟩ := h.batch
  subst hid hpath
  have hserve : ∀ out, s.handle c = some out → serveAmid c t = (some out.1, (out.2, t.2.tail)) := by
    intro out hout
    simp only [serveAmid, hrun, Option.bind_some, hout]
  rcases (hview fun _ => []).mine rfl fun path hP hpost hnamed => rfl with
    ⟨hnone, hserver⟩ | ⟨res, s', server', hout, hserver, hnext⟩
  · refine .inl ⟨hserver, ?_⟩
    simp only [serveAmid, hrun, Option.bind_some, hnone]
  · have hdef := handle_isSome_iff.mp (Option.isSome_iff_exists.mpr ⟨_, hout⟩)
    obtain ⟨res', s'', hout', hroot⟩ := handle_defined hdef
    cases hout.symm.trans hout'
    rw [hserve _ hout]
    refine .inr ⟨res, server', hserver, rfl, hroot, hnext, fun other hother hne => ?_, htraffic⟩
    exact (handle_frame hout hne.symm).tasks.trans (hidle other hother hne)

end Amid

section Clients

variable {passed : UploadState → ℕ} {passed' : DownloadState → ℕ} {sessionId dir file rootDir : List Char}
  {absent : List Char → Prop} {content : List UInt8} {schedule : List (List Call)} (files : Files)

/-- The client's file and task are those of the server it has for itself. -/
theorem Amid.same {path : List Char} {t : Service × List (List Call)} {server : Server}
    (h : Amid sessionId absent rootDir path t server) :
    t.1.server.files path = server.files path ∧ t.1.server.tasks sessionId = server.tasks sessionId := by
  obtain ⟨⟨-, htasks, hfiles⟩, -, -⟩ := h.view fun _ => []
  exact ⟨(hfiles path rfl).symm, htasks.symm⟩

end Clients

end BofWebRpc.WebApp
