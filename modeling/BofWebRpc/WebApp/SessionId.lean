import BofWebRpc.Library.Runs
import BofWebRpc.WebApp.Handlers
import Mathlib.Data.List.Nodup

/-!
# The session of a transfer

`Upload` and `Download` call `S_GenerateSessionId(36)` once, before their loop, and put the string
into every request; the handlers find the task of a transfer by this string and by nothing else. The
characters come from `rand()`, one generator for the whole process, which the constructor of every
`BofWebApp` restarts from the clock.

## The model

A process has the generator, the objects that were constructed, the sessions of the transfers that were
started, and the server whose handlers answer them. The library's `rand` is a parameter: the value
with a given position in the stream of a given seed. `past` is history: the streams that a construction has
cut off, each with the number of values it had handed out.

`Distinct` is the assumption on `rand`: the sessions that a run can read from the streams of its
constructions are different strings.

## What is proved

* `generateSessionId_eq` — a session is a window of the stream.
* `postUpload_tasks`, `getDownload_tasks` — a handler touches the task of its own session only.
* `sessions_separate_iff` — no two transfers of a run share a session exactly when none is started after a
  construction in a second in which an object had been constructed and a transfer been started before.
* `same_second_shares` — two constructions in one second make two transfers share a session, with every `rand`.
-/

namespace BofWebRpc.WebApp

open Runs

/-! ### The generator -/

/-- The state of the library's `rand`. -/
structure Generator where
  /-- The argument of the last `srand`. -/
  seed : ℕ
  /-- The number of values handed out since. -/
  drawn : ℕ
  deriving DecidableEq

/-- `srand(seed)`. -/
def srand (seed : ℕ) : Generator := ⟨seed, 0⟩

/-- `(unsigned int)time(nullptr)`. -/
def clockSeed (time : ℤ) : ℕ := (time % 2 ^ 32).toNat

/-- `S_CharToUse_S`. -/
def charToUse : List Char := "0123456789ABCDEFGHIJKLMNOPQRSTUVWXYZabcdefghijklmnopqrstuvwxyz".toList

theorem charToUse_pos : 0 < charToUse.length := by decide +kernel

/-- `S_CharToUse_S[value % S_CharToUse_S.size()]`. -/
def sessionChar (value : ℕ) : Char := charToUse.get ⟨value % charToUse.length, Nat.mod_lt _ charToUse_pos⟩

variable (rand : ℕ → ℕ → ℕ)

/-- `S_GenerateSessionId`: its loop draws one value for each character. -/
def generateSessionId : ℕ → Generator → List Char × Generator
  | 0, g => ([], g)
  | len + 1, g =>
    let (rest, g') := generateSessionId len { g with drawn := g.drawn + 1 }
    (sessionChar (rand g.seed g.drawn) :: rest, g')

/-- The length of a session. -/
def sessionIdLen : ℕ := 36

/-- The session that starts at the given position in the stream of a seed. -/
def window (seed start : ℕ) : List Char :=
  (List.range' start sessionIdLen).map fun i => sessionChar (rand seed i)

/-- **A session is a window of the stream**, and the generator moves past it. -/
theorem generateSessionId_eq (g : Generator) :
    generateSessionId rand sessionIdLen g =
      (window rand g.seed g.drawn, { g with drawn := g.drawn + sessionIdLen }) := by
  have hloop : ∀ (len start : ℕ), generateSessionId rand len ⟨g.seed, start⟩ =
      ((List.range' start len).map (fun i => sessionChar (rand g.seed i)), ⟨g.seed, start + len⟩) := by
    intro len
    induction len with
    | zero => intro start; rfl
    | succ len ih =>
      intro start
      rw [generateSessionId, ih, List.range'_succ, List.map_cons, Nat.add_right_comm, Nat.add_assoc]
  exact hloop sessionIdLen g.drawn

/-! ### The process -/

/-- The two transfers. -/
inductive Kind where
  | upload
  | download
  deriving DecidableEq

/-- The handler that answers the requests of a transfer. -/
def Kind.handler : Kind → HandlerEnv → Server → Request → Option (Response × Server)
  | .upload => postUpload
  | .download => getDownload

/-- A transfer that has been started. -/
structure Session where
  /-- Which one it is. -/
  kind : Kind
  /-- `SessionId_S`. -/
  sessionId : List Char
  deriving DecidableEq

/-- A process that uses `BofWebApp`, and the server of its transfers. -/
structure Process where
  /-- The generator. -/
  generator : Generator
  /-- History: the seed of each stream that was cut off, and how many values it had handed out. -/
  past : List Generator
  /-- `mServer_B` of the objects that were constructed. -/
  apps : List Bool
  /-- The transfers that were started. -/
  sessions : List Session
  /-- The server; none once one of its handlers had no defined behaviour. -/
  server : Option Server

/-- Before the first construction: the library starts as after `srand(1)`. -/
def Process.start (server : Server) : Process := ⟨srand 1, [], [], [], some server⟩

/-- What happens. -/
inductive Action where
  /-- An object is constructed, at the given time. -/
  | construct (isServer : Bool) (time : ℤ)
  /-- `Upload` or `Download` is called on an object. `connected` and `opened` say whether there is a
  connection and whether the local file can be opened. -/
  | transfer (app : ℕ) (kind : Kind) (connected opened : Bool)
  /-- The handler of a transfer answers one of its requests: `req` with the session put in. -/
  | request (transfer : ℕ) (env : HandlerEnv) (req : Request)

/-- The call reaches `S_GenerateSessionId`: it is made on a client, with a connection and a file. -/
def Process.begins (p : Process) (app : ℕ) (connected opened : Bool) : Prop :=
  p.apps[app]? = some false ∧ connected = true ∧ opened = true

instance (p : Process) (app : ℕ) (connected opened : Bool) : Decidable (p.begins app connected opened) :=
  inferInstanceAs (Decidable (_ ∧ _ ∧ _))

/-- A request of a transfer. -/
def Session.request (session : Session) (env : HandlerEnv) (req : Request) (server : Server) : Option Server :=
  (session.kind.handler env server { req with sessionId := session.sessionId }).map Prod.snd

/-- One step. -/
def act (p : Process) : Action → Process
  | .construct isServer time =>
    { p with generator := srand (clockSeed time), past := p.past ++ [p.generator], apps := p.apps ++ [isServer] }
  | .transfer app kind connected opened =>
    if p.begins app connected opened then
      let (sessionId, generator) := generateSessionId rand sessionIdLen p.generator
      { p with generator := generator, sessions := p.sessions ++ [⟨kind, sessionId⟩] }
    else p
  | .request transfer env req =>
    match p.sessions[transfer]? with
    | some session => { p with server := p.server.bind (session.request env req) }
    | none => p

/-! ### The handlers -/

section Handlers

variable {server server' : Server} {env : HandlerEnv} {req : Request} {response : Response} {id : List Char}

theorem Server.terminate_tasks {io : Option File} {sessionId : List Char} (status : Status) (h : id ≠ sessionId) :
    (server.terminate env io sessionId status).2.tasks id = server.tasks id := Function.update_of_ne h _ _

theorem Server.store_tasks {sessionId : List Char} (task : UpDownTask) (h : id ≠ sessionId) :
    (server.store sessionId task).tasks id = server.tasks id := Function.update_of_ne h _ _

theorem Server.reply_tasks {sessionId : List Char} {task : UpDownTask} {rangeMax size : ℕ} {body : List UInt8}
    (h : id ≠ sessionId) : (server.reply env sessionId task rangeMax size body).2.tasks id = server.tasks id := by
  by_cases hlast : sizeSub task.dataSize 1 ≤ rangeMax
  · rw [Server.reply, if_pos hlast]
    exact Server.terminate_tasks .ok200 h
  · rw [Server.reply, if_neg hlast]
    exact Server.store_tasks (task.advance size) h

/-- What the answer of a handler has left of a task. -/
theorem tasks_of_reply {reply : Response × Server} {task : Option UpDownTask}
    (hreply : some reply = some (response, server')) (h : reply.2.tasks id = task) : server'.tasks id = task := by
  rw [Option.some.injEq] at hreply
  rw [hreply] at h
  exact h

/-- **A download touches the task of its session only.** -/
theorem getDownload_tasks (hreq : getDownload env server req = some (response, server')) (h : id ≠ req.sessionId) :
    server'.tasks id = server.tasks id := by
  unfold getDownload at hreq
  cases hfront : server.front req with
  | threw =>
    rw [hfront] at hreq
    simp only [Option.some.injEq, Prod.mk.injEq] at hreq
    rw [← hreq.2]
  | undefined =>
    rw [hfront] at hreq
    cases hreq
  | control path rangeMin rangeMax dataSize =>
    rw [hfront] at hreq
    dsimp only at hreq
    cases htask : server.downloadTask env path req.sessionId rangeMin rangeMax dataSize with
    | error status =>
      rw [htask] at hreq
      exact tasks_of_reply hreq (Server.terminate_tasks status h)
    | ok found =>
      rw [htask] at hreq
      dsimp only at hreq
      cases hread : found.1.io.fread env found.2 server.files with
      | none =>
        rw [hread] at hreq
        exact tasks_of_reply hreq (Server.terminate_tasks .internalServerError500 h)
      | some read =>
        rw [hread] at hreq
        exact tasks_of_reply hreq (Server.reply_tasks h)

/-- **An upload touches the task of its session only.** -/
theorem postUpload_tasks (hreq : postUpload env server req = some (response, server')) (h : id ≠ req.sessionId) :
    server'.tasks id = server.tasks id := by
  unfold postUpload at hreq
  cases hfront : server.front req with
  | threw =>
    rw [hfront] at hreq
    simp only [Option.some.injEq, Prod.mk.injEq] at hreq
    rw [← hreq.2]
  | undefined =>
    rw [hfront] at hreq
    cases hreq
  | control path rangeMin rangeMax dataSize =>
    rw [hfront] at hreq
    dsimp only at hreq
    cases htask : server.uploadTask env path req.sessionId rangeMin rangeMax dataSize with
    | error status =>
      rw [htask] at hreq
      exact tasks_of_reply hreq (Server.terminate_tasks status h)
    | ok found =>
      rw [htask] at hreq
      dsimp only at hreq
      split_ifs at hreq
      · exact tasks_of_reply hreq (Server.reply_tasks h)
      · exact tasks_of_reply hreq (Server.terminate_tasks .insufficientStorage507 h)
      · exact tasks_of_reply hreq (Server.terminate_tasks .internalServerError500 h)

/-- A request of the first transfer leaves the task of the second as it is. -/
def Session.Spares (server : Server) (a b : Session) : Prop :=
  ∀ (env : HandlerEnv) (req : Request) (response : Response) (server' : Server),
    a.kind.handler env server { req with sessionId := a.sessionId } = some (response, server') →
    server'.tasks b.sessionId = server.tasks b.sessionId

/-- Transfers with different sessions are not mixed. -/
theorem Session.spares {a b : Session} (server : Server) (h : b.sessionId ≠ a.sessionId) : a.Spares server b := by
  intro env req response server' hreq
  obtain ⟨kind, sessionId⟩ := a
  cases kind with
  | upload => exact postUpload_tasks hreq h
  | download => exact getDownload_tasks hreq h

end Handlers

/-! ### The sessions of a run -/

/-- The first `n` sessions that the streams of `seeds` hand out are different strings. -/
def Distinct (seeds : List ℕ) (n : ℕ) : Prop :=
  ∀ seed ∈ seeds, ∀ seed' ∈ seeds, ∀ k < n, ∀ k' < n,
    window rand seed (k * sessionIdLen) = window rand seed' (k' * sessionIdLen) → seed = seed' ∧ k = k'

instance (seeds : List ℕ) (n : ℕ) : Decidable (Distinct rand seeds n) :=
  inferInstanceAs (Decidable (∀ seed ∈ seeds, ∀ seed' ∈ seeds, ∀ k < n, ∀ k' < n, _ → _))

/-- The seed that a step gives the generator. -/
def Action.seeds : Action → List ℕ
  | .construct _ time => [clockSeed time]
  | _ => []

/-- The sessions that a step can draw. -/
def Action.draws : Action → ℕ
  | .transfer _ _ _ _ => 1
  | _ => 0

/-- The seeds of the constructions of a run. -/
def seedsOf (as : List Action) : List ℕ := as.flatMap Action.seeds

/-- The transfers of a run. -/
def transfersOf (as : List Action) : ℕ := (as.map Action.draws).sum

/-- A transfer does not start after a construction in the second of an earlier one after which a transfer was started
already. -/
def Action.Fresh (p : Process) : Action → Prop
  | .transfer app _ connected opened =>
    p.begins app connected opened → ∀ g ∈ p.past, g.drawn ≠ 0 → g.seed ≠ p.generator.seed
  | _ => True

instance (p : Process) : (a : Action) → Decidable (a.Fresh p)
  | .transfer _ _ _ _ => inferInstanceAs (Decidable (_ → ∀ g ∈ p.past, _ → _))
  | .construct _ _ | .request _ _ _ => isTrue trivial

/-- No two transfers share a session, and no request of one touches the task of another. -/
def Process.Separate (p : Process) : Prop :=
  p.sessions.Pairwise fun a b => a.sessionId ≠ b.sessionId ∧
    ∀ server, p.server = some server → a.Spares server b ∧ b.Spares server a

/-- The transfers are separate as soon as their sessions differ. -/
theorem separate_iff (p : Process) : p.Separate ↔ (p.sessions.map Session.sessionId).Nodup := by
  rw [List.Nodup, List.pairwise_map]
  constructor
  · exact List.Pairwise.imp And.left
  · exact List.Pairwise.imp fun hne =>
      ⟨hne, fun server _ => ⟨Session.spares server hne.symm, Session.spares server hne⟩⟩

/-- The streams that have been read, the last one still. -/
def Process.streams (p : Process) : List Generator := p.past ++ [p.generator]

/-- The sessions that a stream has handed out. -/
def Generator.handed (g : Generator) : List (List Char) :=
  (List.range (g.drawn / sessionIdLen)).map fun k => window rand g.seed (k * sessionIdLen)

/-- The generator after the session of a transfer. -/
def Generator.pass (g : Generator) : Generator := { g with drawn := g.drawn + sessionIdLen }

/-- The sessions are what the streams have handed out, of which those of `seeds` have handed out up to `n` each. -/
structure Process.Drawn (seeds : List ℕ) (n : ℕ) (p : Process) : Prop where
  sessions : p.sessions.map Session.sessionId = p.streams.flatMap (Generator.handed rand)
  whole : ∀ g ∈ p.streams, ∃ k ≤ n, g.drawn = k * sessionIdLen
  read : ∀ g ∈ p.streams, g.drawn ≠ 0 → g.seed ∈ seeds
  /-- The stream that is read after a construction. -/
  seeded : p.apps ≠ [] → p.generator.seed ∈ seeds

/-- No two streams of one seed have handed out a session each. -/
def Process.Apart (p : Process) : Prop :=
  p.streams.Pairwise fun g g' => g.drawn ≠ 0 → g'.drawn ≠ 0 → g.seed ≠ g'.seed

variable {rand}

theorem sessionIdLen_pos : 0 < sessionIdLen := by decide

/-- A stream that has not been read. -/
theorem handed_unread {g : Generator} (h : g.drawn = 0) : g.handed rand = [] := by
  rw [Generator.handed, h, Nat.zero_div]
  rfl

theorem drawn_start (server : Server) : (Process.start server).Drawn rand [] 0 where
  sessions := by
    show [] = [srand 1].flatMap (Generator.handed rand)
    rw [List.flatMap_singleton, handed_unread rfl]
  whole := by
    intro g hg
    rw [List.mem_singleton.mp hg]
    exact ⟨0, Nat.le_refl 0, rfl⟩
  read := by
    intro g hg hdrawn
    rw [List.mem_singleton.mp hg] at hdrawn
    exact absurd rfl hdrawn
  seeded := fun h => absurd rfl h

variable (rand) in
/-- A transfer that begins. -/
theorem act_transfer {p : Process} {app : ℕ} (kind : Kind) {connected opened : Bool}
    (h : p.begins app connected opened) :
    act rand p (.transfer app kind connected opened) =
      { p with
        generator := p.generator.pass
        sessions := p.sessions ++ [⟨kind, window rand p.generator.seed p.generator.drawn⟩] } := by
  rw [act, if_pos h, generateSessionId_eq]
  rfl

/-- The sessions that a stream has handed out after one more. -/
theorem handed_pass {g : Generator} {k : ℕ} (h : g.drawn = k * sessionIdLen) :
    g.pass.handed rand = g.handed rand ++ [window rand g.seed g.drawn] := by
  have hpass : g.pass.drawn / sessionIdLen = k + 1 := by
    rw [Generator.pass, h, ← Nat.succ_mul, Nat.mul_div_cancel _ sessionIdLen_pos]
  rw [Generator.handed, Generator.handed, hpass, List.range_succ, List.map_append, h,
    Nat.mul_div_cancel _ sessionIdLen_pos]
  rfl

/-- More seeds, more sessions. -/
theorem Process.Drawn.mono {p : Process} {seeds seeds' : List ℕ} {n n' : ℕ} (h : p.Drawn rand seeds n)
    (hseeds : seeds ⊆ seeds') (hn : n ≤ n') : p.Drawn rand seeds' n' where
  sessions := h.sessions
  whole := by
    intro g hg
    obtain ⟨k, hk, hdrawn⟩ := h.whole g hg
    exact ⟨k, hk.trans hn, hdrawn⟩
  read := fun g hg hdrawn => hseeds (h.read g hg hdrawn)
  seeded := fun happs => hseeds (h.seeded happs)

/-- **One step.** -/
theorem act_drawn (p : Process) (a : Action) {seeds : List ℕ} {n : ℕ} (h : p.Drawn rand seeds n) :
    (act rand p a).Drawn rand (seeds ++ a.seeds) (n + a.draws) := by
  have hmore := h.mono (List.subset_append_left seeds a.seeds) (Nat.le_add_right n a.draws)
  cases a with
  | construct isServer time =>
    refine ⟨?_, fun g hg => ?_, fun g hg hdrawn => ?_, fun _ => List.mem_append_right _ (List.mem_singleton_self _)⟩
    · show _ = ((p.past ++ [p.generator]) ++ [srand (clockSeed time)]).flatMap (Generator.handed rand)
      rw [List.flatMap_append, List.flatMap_singleton, handed_unread rfl, List.append_nil]
      exact h.sessions
    · rcases List.mem_append.mp hg with hg | hg
      · exact hmore.whole g hg
      · rw [List.mem_singleton.mp hg]
        exact ⟨0, Nat.zero_le _, (Nat.zero_mul _).symm⟩
    · rcases List.mem_append.mp hg with hg | hg
      · exact hmore.read g hg hdrawn
      · rw [List.mem_singleton.mp hg] at hdrawn
        exact absurd rfl hdrawn
  | transfer app kind connected opened =>
    by_cases hbegins : p.begins app connected opened
    · have hlast : p.generator ∈ p.streams := List.mem_append_right _ (List.mem_singleton_self _)
      obtain ⟨k, hk, hdrawn⟩ := h.whole p.generator hlast
      have happs : p.apps ≠ [] := by
        intro hnil
        have hnone := hbegins.1
        rw [hnil] at hnone
        cases hnone
      rw [act_transfer rand kind hbegins]
      refine ⟨?_, fun g hg => ?_, fun g hg hread => ?_, fun _ => hmore.seeded happs⟩
      · have hsessions := h.sessions
        rw [Process.streams, List.flatMap_append, List.flatMap_singleton] at hsessions ⊢
        rw [handed_pass hdrawn, ← List.append_assoc, ← hsessions, List.map_append]
        rfl
      · rcases List.mem_append.mp hg with hg | hg
        · exact hmore.whole g (List.mem_append_left _ hg)
        · rw [List.mem_singleton.mp hg]
          exact ⟨k + 1, Nat.succ_le_succ hk, by rw [Generator.pass, hdrawn, Nat.succ_mul]⟩
      · rcases List.mem_append.mp hg with hg | hg
        · exact hmore.read g (List.mem_append_left _ hg) hread
        · rw [List.mem_singleton.mp hg]
          exact hmore.seeded happs
    · rw [act, if_neg hbegins]
      exact hmore
  | request transfer env req =>
    simp only [act]
    cases p.sessions[transfer]? with
    | none => exact hmore
    | some session => exact ⟨hmore.sessions, hmore.whole, hmore.read, hmore.seeded⟩

variable (rand) in
/-- **Every run.** -/
theorem exec_drawn (as : List Action) (p : Process) {seeds : List ℕ} {n : ℕ} (h : p.Drawn rand seeds n) :
    (exec (act rand) p as).Drawn rand (seeds ++ seedsOf as) (n + transfersOf as) := by
  induction as generalizing p seeds n with
  | nil => exact h.mono (List.subset_append_left seeds _) (Nat.le_add_right n _)
  | cons a as ih =>
    have hrest := ih (act rand p a) (act_drawn p a h)
    rw [List.append_assoc, Nat.add_assoc] at hrest
    exact hrest

/-- With a `rand` that draws different sessions, they differ when no two streams of one seed have handed out any. -/
theorem Process.Drawn.nodup_iff {p : Process} {seeds : List ℕ} {n : ℕ} (h : p.Drawn rand seeds n)
    (hrand : Distinct rand seeds n) : (p.sessions.map Session.sessionId).Nodup ↔ p.Apart := by
  have hcount : ∀ g ∈ p.streams, ∀ k < g.drawn / sessionIdLen, k < n ∧ g.seed ∈ seeds ∧ g.drawn ≠ 0 := by
    intro g hg k hk
    obtain ⟨m, hm, hdrawn⟩ := h.whole g hg
    have hne : g.drawn ≠ 0 := by
      intro hzero
      rw [hzero, Nat.zero_div] at hk
      exact absurd hk (Nat.not_lt_zero k)
    rw [hdrawn, Nat.mul_div_cancel _ sessionIdLen_pos] at hk
    exact ⟨hk.trans_le hm, h.read g hg hne, hne⟩
  have hself : ∀ g ∈ p.streams, (g.handed rand).Nodup := by
    intro g hg
    refine List.Nodup.map_on (fun k hk k' hk' heq => ?_) List.nodup_range
    obtain ⟨hlt, hseed, -⟩ := hcount g hg k (List.mem_range.mp hk)
    obtain ⟨hlt', -, -⟩ := hcount g hg k' (List.mem_range.mp hk')
    exact (hrand g.seed hseed g.seed hseed k hlt k' hlt' heq).2
  have hfirst : ∀ g ∈ p.streams, g.drawn ≠ 0 → window rand g.seed 0 ∈ g.handed rand := by
    intro g hg hne
    obtain ⟨m, -, hdrawn⟩ := h.whole g hg
    have hpos : 0 < g.drawn / sessionIdLen := by
      rw [hdrawn, Nat.mul_div_cancel _ sessionIdLen_pos]
      rw [hdrawn] at hne
      exact Nat.pos_of_ne_zero fun hzero => hne (by rw [hzero, Nat.zero_mul])
    exact List.mem_map.mpr ⟨0, List.mem_range.mpr hpos, by rw [Nat.zero_mul]⟩
  rw [h.sessions, List.nodup_flatMap, and_iff_right hself]
  refine List.Pairwise.iff_of_mem fun {g g'} hg hg' => ?_
  constructor
  · intro hdisjoint hne hne' hseed
    have hmine := hfirst g hg hne
    rw [hseed] at hmine
    exact hdisjoint hmine (hfirst g' hg' hne')
  · intro happart session hin hin'
    obtain ⟨k, hk, rfl⟩ := List.mem_map.mp hin
    obtain ⟨k', hk', heq⟩ := List.mem_map.mp hin'
    obtain ⟨hlt, hseed, hne⟩ := hcount g hg k (List.mem_range.mp hk)
    obtain ⟨hlt', hseed', hne'⟩ := hcount g' hg' k' (List.mem_range.mp hk')
    exact happart hne hne' (hrand g'.seed hseed' g.seed hseed k' hlt' k hlt heq).1.symm

variable (rand) in
/-- **One step** keeps the streams apart exactly when it is fresh. -/
theorem act_apart (p : Process) (a : Action) : (act rand p a).Apart ↔ p.Apart ∧ a.Fresh p := by
  cases a with
  | construct isServer time =>
    have hnew : ∀ g ∈ p.streams, ∀ new ∈ [srand (clockSeed time)], g.drawn ≠ 0 → new.drawn ≠ 0 → g.seed ≠ new.seed := by
      intro g _ new hnew _ hdrawn
      rw [List.mem_singleton.mp hnew] at hdrawn
      exact absurd rfl hdrawn
    have happart : (act rand p (.construct isServer time)).Apart ↔ p.Apart :=
      List.pairwise_append.trans (and_iff_left ⟨List.pairwise_singleton _ _, hnew⟩)
    exact happart.trans (and_iff_left trivial).symm
  | transfer app kind connected opened =>
    by_cases hbegins : p.begins app connected opened
    · have hpass : p.generator.pass.drawn ≠ 0 := Nat.ne_of_gt (Nat.add_pos_right _ sessionIdLen_pos)
      rw [act_transfer rand kind hbegins]
      refine List.pairwise_append.trans (Iff.trans ?_ (and_congr_left' List.pairwise_append.symm))
      constructor
      · rintro ⟨hpast, -, hnew⟩
        have hfresh : ∀ g ∈ p.past, g.drawn ≠ 0 → g.seed ≠ p.generator.seed :=
          fun g hg hne => hnew g hg p.generator.pass (List.mem_singleton_self _) hne hpass
        refine ⟨⟨hpast, List.pairwise_singleton _ _, fun g hg last hlast hne _ => ?_⟩, fun _ => hfresh⟩
        rw [List.mem_singleton.mp hlast]
        exact hfresh g hg hne
      · rintro ⟨⟨hpast, -, -⟩, hfresh⟩
        refine ⟨hpast, List.pairwise_singleton _ _, fun g hg last hlast hne _ => ?_⟩
        rw [List.mem_singleton.mp hlast]
        exact hfresh hbegins g hg hne
    · rw [act, if_neg hbegins]
      exact (and_iff_left fun h => absurd h hbegins).symm
  | request transfer env req =>
    simp only [act]
    cases p.sessions[transfer]? with
    | none => exact (and_iff_left trivial).symm
    | some session => exact (and_iff_left trivial).symm

/-- **No two transfers are mixed** in a run exactly when none starts after a construction in the second of an earlier
one after which a transfer was started already. -/
theorem sessions_separate_iff (rand : ℕ → ℕ → ℕ) (server : Server) (as : List Action)
    (hrand : Distinct rand (seedsOf as) (transfersOf as)) :
    (exec (act rand) (Process.start server) as).Separate ↔
      Meets (act rand) (fun p a => a.Fresh p) (Process.start server) as := by
  have hdrawn := exec_drawn rand as (Process.start server) (drawn_start server)
  rw [List.nil_append, Nat.zero_add] at hdrawn
  have hstart : (Process.start server).Apart := List.pairwise_singleton _ _
  have happart := exec_iff (I := fun _ => True) (K := Process.Apart) (fun _ _ _ _ => trivial)
    (fun p a _ _ => act_apart rand p a) as (Process.start server) trivial (meets_true _ as _)
  rw [separate_iff, hdrawn.nodup_iff hrand, happart]
  exact and_iff_right hstart

/-- The generator of the C standard's example. -/
def standardRand (seed start : ℕ) : ℕ :=
  (fun next => (next * 1103515245 + 12345) % 2 ^ 32)^[start + 1] seed / 65536 % 32768

/-- A client is constructed and uploads; a server is constructed one second later, and the client downloads twice. -/
theorem sessions_separate_three :
    (exec (act standardRand) (Process.start (Server.start [] ['d'] ['f'] [1, 2]))
      [.construct false 1700000000, .transfer 0 .upload true true,
        .request 0 (.good 0) ⟨[], [], some ['d'], some ['g'], [3]⟩, .construct true 1700000001,
        .transfer 0 .download true true, .transfer 0 .download true true]).Separate :=
  (sessions_separate_iff standardRand _ _ (by decide +kernel)).mpr (by decide +kernel)

variable (rand) in
/-- The first transfer after a construction has the session that the second of the clock alone determines. -/
theorem constructed_session (p : Process) (isServer : Bool) (time : ℤ) {app : ℕ} (kind : Kind)
    (happ : (p.apps ++ [isServer])[app]? = some false) :
    exec (act rand) p [.construct isServer time, .transfer app kind true true] =
      { generator := (srand (clockSeed time)).pass
        past := p.past ++ [p.generator]
        apps := p.apps ++ [isServer]
        sessions := p.sessions ++ [⟨kind, window rand (clockSeed time) 0⟩]
        server := p.server } := by
  have hbegins : (act rand p (.construct isServer time)).begins app true true := ⟨happ, rfl, rfl⟩
  exact act_transfer rand kind hbegins

/-- **Two constructions in one second**, with a transfer after each: the transfers share a session, with every `rand`
and in every process. -/
theorem same_second_shares (rand : ℕ → ℕ → ℕ) (p : Process) {time time' : ℤ} {app app' : ℕ} (kind kind' : Kind)
    {isServer isServer' : Bool} (hsecond : clockSeed time = clockSeed time')
    (happ : (p.apps ++ [isServer])[app]? = some false)
    (happ' : (p.apps ++ [isServer] ++ [isServer'])[app']? = some false) :
    ¬ (exec (act rand) p
      ([.construct isServer time, .transfer app kind true true] ++
        [.construct isServer' time', .transfer app' kind' true true])).Separate := by
  rw [exec_append, constructed_session rand p isServer time kind happ,
    constructed_session rand _ isServer' time' kind' happ']
  intro h
  have hne := (List.pairwise_append.mp h).2.2 ⟨kind, window rand (clockSeed time) 0⟩
    (List.mem_append_right _ (List.mem_singleton_self _)) _ (List.mem_singleton_self _)
  exact hne.1 (by rw [hsecond])

/-- A client downloads; another one is constructed in the same second, and downloads. -/
theorem not_sessions_separate :
    ¬ ∀ (rand : ℕ → ℕ → ℕ) (server : Server) (as : List Action), Distinct rand (seedsOf as) (transfersOf as) →
      (exec (act rand) (Process.start server) as).Separate := by
  intro h
  have hshared := h standardRand (Server.start [] [] [] [])
    [.construct false 1700000000, .transfer 0 .download true true, .construct false 1700000000,
      .transfer 1 .download true true] (by decide +kernel)
  have hdistinct := hshared.imp fun hab => hab.1
  exact absurd hdistinct (by decide +kernel)

end BofWebRpc.WebApp
