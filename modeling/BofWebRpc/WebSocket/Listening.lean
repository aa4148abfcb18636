import BofWebRpc.WebSocket.Serving

/-!
# Connections reported by a listening server

Connections are signalled to the loop by one boolean, which the LISTEN turns into a
CONNECT result with its own ticket as long as it is the pending operation.

## What is proved

* `connections_reported` — as long as a connection is only admitted when the LISTEN is pending
  and has none to report, and neither a close nor a command comes before the report,
  each connection has its CONNECT result.
* `not_connections_reported` — two connections between two iterations are reported once.
-/

namespace BofWebRpc.WebSocket

open Runs

variable {cfg : WebSocketParam}

/-- A CONNECT result with the ticket of the LISTEN. -/
def OperationResult.reports (L : ℕ) (r : OperationResult) : Bool := decide (r.operation = .connect ∧ r.opTicket = L)

/-- The number of CONNECT results pushed with the ticket `L`. -/
def State.reports (s : State cfg) (L : ℕ) : ℕ := s.history.pushed.countP (OperationResult.reports L)

/-- Each admitted connection has been reported with the ticket `L`. -/
def AllReported (s : State cfg) (L : ℕ) : Prop := s.reports L = s.history.admitted.length

instance (s : State cfg) (L : ℕ) : Decidable (AllReported s L) := inferInstanceAs (Decidable (_ = _))

/-! ### The condition -/

/-- What happens to a listening server: it gets no callback of a client, nobody cancels or
disconnects, the commands are READ and WRITE, and the queue of results is never full. -/
def Event.Listens (s : State cfg) : Event → Prop
  | .callback (.clientEstablished _ _) | .callback (.clientClosed _) => False
  | .iterate env => env.mustExit = false ∧ s.resultCollection.elements.length < cfg.nbMaxOperationPending + 1
  | e => e.Serves

instance (s : State cfg) : (e : Event) → Decidable (e.Listens s)
  | .program _ _ _ => inferInstanceAs (Decidable (_ = _))
  | .collect | .cancelled | .clear | .reset => isTrue trivial
  | .cancel _ => isFalse id
  | .callback (.clientConnectionError _ _) | .callback (.clientEstablished _ _)
  | .callback (.clientClosed _) => isFalse id
  | .callback (.httpBindProtocol _) | .callback (.addHeaders _ _) | .callback (.established _ _ _)
  | .callback (.writeable _ _ _) | .callback (.receive _ _ _ _ _) | .callback (.closed _)
  | .callback (.other _) => isTrue trivial
  | .iterate _ => inferInstanceAs (Decidable (_ ∧ _))

theorem Event.Listens.serves {s : State cfg} {e : Event} (h : e.Listens s) : e.Serves := by
  cases e with
  | callback cb => cases cb <;> first | exact h | exact h.elim
  | iterate env => exact h.1
  | program timeOut tick opParam => exact h
  | collect | cancel timeOut | cancelled | clear | reset => exact h

/-- The pending operation is the LISTEN. -/
def State.listenPending (s : State cfg) : Bool := s.loop.ioPending && decide (s.loop.currentOp.opParam = .listen)

/-- A connection is admitted only while the LISTEN is pending and the previous one has been
reported; nothing closes and no command is taken before the report. -/
def Event.Separated (s : State cfg) : Event → Prop
  | .callback (.established _ bufferSize key) =>
    s.admits bufferSize key = true → s.webSocketState.connectDone = false ∧ s.listenPending = true
  | .callback (.closed _) => s.webSocketState.connectDone = false
  | .iterate _ => s.webSocketState.connectDone = true → s.paramCollection.elements = []
  | _ => True

instance (s : State cfg) : (e : Event) → Decidable (e.Separated s)
  | .callback (.established _ _ _) => inferInstanceAs (Decidable (_ → _ ∧ _))
  | .callback (.closed _) => inferInstanceAs (Decidable (_ = _))
  | .iterate _ => inferInstanceAs (Decidable (_ → _))
  | .program _ _ _ | .collect | .cancelled | .clear | .reset | .cancel _ => isTrue trivial
  | .callback (.clientConnectionError _ _) | .callback (.clientEstablished _ _)
  | .callback (.clientClosed _) | .callback (.httpBindProtocol _) | .callback (.addHeaders _ _)
  | .callback (.writeable _ _ _) | .callback (.receive _ _ _ _ _) | .callback (.other _) => isTrue trivial

/-! ### The invariant -/

/-- A LISTEN with the ticket `L` has succeeded, and every connection admitted so far has been
reported. -/
structure Listening (L : ℕ) (s : State cfg) : Prop extends Serving s where
  listeningMode : s.loop.listeningMode = true
  listenTicketId : s.loop.listenTicketId = L
  connectDone : s.webSocketState.connectDone = false
  reported : AllReported s L

/-- Every admitted connection has been reported, but for the one that is signalled; that one
is the LISTEN's to report. -/
structure Reporting (L : ℕ) (s : State cfg) : Prop extends Serving s where
  listeningMode : s.loop.listeningMode = true
  listenTicketId : s.loop.listenTicketId = L
  reports : s.reports L + (if s.webSocketState.connectDone then 1 else 0) = s.history.admitted.length
  signalled : s.webSocketState.connectDone = true → s.listenPending = true

theorem Listening.reporting {L : ℕ} {s : State cfg} (h : Listening L s) : Reporting L s := by
  refine ⟨h.toServing, h.listeningMode, h.listenTicketId, ?_, fun hdone => ?_⟩
  · simp only [h.connectDone, Bool.false_eq_true, if_false, Nat.add_zero]
    exact h.reported
  · exact absurd (h.connectDone.symm.trans hdone) Bool.false_ne_true

theorem Reporting.listening {L : ℕ} {s : State cfg} (h : Reporting L s) (hdone : s.webSocketState.connectDone = false) :
    Listening L s := by
  have hreports := h.reports
  simp only [hdone, Bool.false_eq_true, if_false, Nat.add_zero] at hreports
  exact ⟨h.toServing, h.listeningMode, h.listenTicketId, hdone, hreports⟩

theorem Reporting.same {L : ℕ} {s t : State cfg} (h : Reporting L s) (ht : Serving t) (hl : t.loop = s.loop)
    (hw : t.webSocketState = s.webSocketState) (hp : t.history.pushed = s.history.pushed)
    (ha : t.history.admitted = s.history.admitted) : Reporting L t := by
  refine ⟨ht, ?_, ?_, ?_, ?_⟩
  · rw [hl]
    exact h.listeningMode
  · rw [hl]
    exact h.listenTicketId
  · rw [State.reports, hp, hw, ha]
    exact h.reports
  · rw [hw, State.listenPending, hl]
    exact h.signalled

/-- A result that is no CONNECT does not count. -/
theorem pushed_reports {s : State cfg} {r : OperationResult} {q : Fifo OperationResult (cfg.nbMaxOperationPending + 1)}
    {pushed : List OperationResult} (L : ℕ) (hp : Pushed s r q pushed) (hr : r.operation ≠ .connect) :
    pushed.countP (OperationResult.reports L) = s.reports L := by
  rcases hp with ⟨-, hpushed⟩ | ⟨-, hpushed, -⟩
  · rw [hpushed, List.countP_append, List.countP_singleton, if_neg]
    · rfl
    · simp [OperationResult.reports, hr]
  · rw [hpushed]
    rfl

/-! ### Callbacks -/

/-- A callback pushes no result, or the one of a WRITE. -/
theorem lwsCallback_pushed {s : State cfg} (h : Serving s) (cb : Callback) :
    (lwsCallback cb s).2.history.pushed = s.history.pushed ∨
      ∃ r q, r.operation = .write ∧ Pushed s r q (lwsCallback cb s).2.history.pushed := by
  by_cases hw : ∃ side w env, cb = .writeable side w env
  · obtain ⟨side, w, env, rfl⟩ := hw
    rw [lwsCallback]
    rcases onWriteable_cases s w env with ⟨he, -⟩ | ⟨op, hpeek, -, ⟨-, he⟩ | ⟨sts, q, pushed, notified, -, hp, he⟩⟩
    · rw [he]
      exact .inl rfl
    · rw [he]
      exact .inl rfl
    · have hop : op.result.operation = .write := by
        apply h.writes op
        rw [Fifo.peek_eq_some_iff.mp hpeek]
        exact List.mem_cons_self
      rw [he]
      exact .inr ⟨op.finish env sts, q, hop, hp⟩
  · exact .inl (lwsCallback_sameWrites (fun side w env he => hw ⟨side, w, env, he⟩) s).pushed

/-- No callback reports a connection. -/
theorem lwsCallback_reports {s : State cfg} (h : Serving s) (L : ℕ) (cb : Callback) :
    (lwsCallback cb s).2.reports L = s.reports L := by
  rcases lwsCallback_pushed h cb with he | ⟨r, q, hr, hp⟩
  · rw [State.reports, he]
    rfl
  · apply pushed_reports L hp
    rw [hr]
    rintro ⟨⟩

/-- The callbacks that neither admit nor close. -/
theorem lwsCallback_signal {s : State cfg} {cb : Callback} (he : ∀ w b key, cb ≠ .established w b key)
    (hc : ∀ w, cb ≠ .closed w) (h : (Event.callback cb).Listens s) :
    (lwsCallback cb s).2.webSocketState.connectDone = s.webSocketState.connectDone ∧
      (lwsCallback cb s).2.history.admitted = s.history.admitted := by
  cases cb with
  | httpBindProtocol w => exact ⟨rfl, rfl⟩
  | addHeaders w key => exact ⟨rfl, rfl⟩
  | established w b key => exact absurd rfl (he w b key)
  | clientEstablished w b => exact h.elim
  | writeable side w env =>
    rw [lwsCallback]
    rcases onWriteable_cases s w env with ⟨he, -⟩ | ⟨op, -, -, ⟨-, he⟩ | ⟨sts, q, pushed, notified, -, -, he⟩⟩ <;>
      rw [he] <;> exact ⟨rfl, rfl⟩
  | receive side w input final env =>
    refine ⟨congrArg DataPerSession.connectDone (onReceive_webSocketState s w input final env), ?_⟩
    simp only [lwsCallback, State.onReceive, State.onMessageComplete]
    split
    · split_ifs <;> rfl
    · rfl
  | clientClosed w => exact h.elim
  | closed w => exact absurd rfl (hc w)
  | clientConnectionError w destroying => exact h.elim
  | other w => exact ⟨rfl, rfl⟩

theorem lwsCallback_reporting {L : ℕ} {s : State cfg} (h : Reporting L s) {cb : Callback}
    (hl : (Event.callback cb).Listens s) (hc : (Event.callback cb).Separated s) :
    Reporting L (lwsCallback cb s).2 := by
  have hserving := lwsCallback_serving h.toServing hl.serves
  have hreports := lwsCallback_reports h.toServing L cb
  have hloop := (lwsCallback_same cb s).loop
  have hpending : (lwsCallback cb s).2.listenPending = s.listenPending := by rw [State.listenPending, hloop]; rfl
  have hmode : (lwsCallback cb s).2.loop.listeningMode = true := by rw [hloop]; exact h.listeningMode
  have hticket : (lwsCallback cb s).2.loop.listenTicketId = L := by rw [hloop]; exact h.listenTicketId
  by_cases hest : ∃ w b key, cb = .established w b key
  · obtain ⟨w, b, key, rfl⟩ := hest
    rcases onEstablished_cases s w b key with ⟨hadmits, hdone, hadmitted⟩ | ⟨-, hdone, hadmitted⟩
    · obtain ⟨hquiet, hlisten⟩ := hc hadmits
      refine ⟨hserving, hmode, hticket, ?_, fun _ => hpending.trans hlisten⟩
      have hall : s.reports L = s.history.admitted.length := (h.listening hquiet).reported
      rw [hreports, show (lwsCallback (.established w b key) s).2.webSocketState.connectDone = true from hdone,
        show (lwsCallback (.established w b key) s).2.history.admitted = _ from hadmitted, if_pos rfl, hall,
        List.length_append, List.length_singleton]
    · refine ⟨hserving, hmode, hticket, ?_, fun hsig => hpending.trans (h.signalled (hdone ▸ hsig))⟩
      rw [hreports, show (lwsCallback (.established w b key) s).2.webSocketState.connectDone = _ from hdone,
        show (lwsCallback (.established w b key) s).2.history.admitted = _ from hadmitted]
      exact h.reports
  · by_cases hclosed : ∃ w, cb = .closed w
    · obtain ⟨w, rfl⟩ := hclosed
      have hquiet : s.webSocketState.connectDone = false := hc
      refine Listening.reporting ⟨hserving, hmode, hticket, rfl, hreports.trans ?_⟩
      exact (h.listening hquiet).reported
    · obtain ⟨hdone, hadmitted⟩ := lwsCallback_signal (fun w b key he => hest ⟨w, b, key, he⟩)
        (fun w he => hclosed ⟨w, he⟩) hl
      refine ⟨hserving, hmode, hticket, ?_, fun hsig => hpending.trans (h.signalled (hdone ▸ hsig))⟩
      rw [hreports, hdone, hadmitted]
      exact h.reports

/-! ### Iterations -/

/-- An iteration that finds a connection signalled takes no command, and reports it. -/
theorem iterate_signalled {L : ℕ} {s : State cfg} (h : Reporting L s) {env : LoopEnv}
    (hl : (Event.iterate env).Listens s) (hdone : s.webSocketState.connectDone = true)
    (hparams : s.paramCollection.elements = []) : Listening L (s.iterate env) := by
  obtain ⟨hexit, hroom⟩ := hl
  obtain ⟨t, u, hbegan, -, hu, hsending, he⟩ := iterate_serving h.toServing hexit
  have hserving := hsending.serving env
  rw [← he] at hserving
  have ht := hbegan.idle hparams
  subst ht
  have hsignalled := h.signalled hdone
  simp only [State.listenPending, Bool.and_eq_true, decide_eq_true_eq] at hsignalled
  obtain ⟨time, hpending⟩ := pendingOperation_listen env hsignalled.2 h.listeningMode
  rw [if_pos hsignalled.1, hpending, if_pos hdone] at hu
  subst hu
  obtain ⟨time', q, pushed, notified, hsend, hp⟩ := sendResult_eq _ env
  rw [if_pos rfl, hsend] at he
  have hpushed := hp.resolve_right fun hfull => absurd hroom (Nat.not_lt.mpr hfull.2.2)
  refine ⟨hserving, ?_, ?_, ?_, ?_⟩ <;> rw [he]
  · exact h.listeningMode
  · exact h.listenTicketId
  · have hreports := h.reports
    rw [hdone, if_pos rfl] at hreports
    rw [AllReported, ← hreports, State.reports]
    simp only [hpushed.2, List.countP_append, List.countP_singleton, OperationResult.reports, h.listenTicketId]
    rfl

/-- Looking at the pending operation signals no connection, and makes no CONNECT. -/
theorem Working.quiet {s t u : State cfg} {env : LoopEnv} (hbegan : Began s t env) (hworking : Working t)
    (hu : u = if t.loop.ioPending then t.pendingOperation env else t)
    (hdone : s.webSocketState.connectDone = false) :
    u.webSocketState.connectDone = false ∧ u.history = t.history ∧
      u.loop.listeningMode = t.loop.listeningMode ∧ u.loop.listenTicketId = t.loop.listenTicketId ∧
      (u.loop.sendResult = true → u.loop.result.operation ≠ .connect) := by
  have hstill : t.webSocketState.connectDone = false := by rw [hbegan.webSocketState]; exact hdone
  rw [hu]
  split_ifs with hp
  · rcases hworking.pends hp with (⟨hlisten, hlistening⟩ | ⟨hread, hresult⟩) | hwrite
    · obtain ⟨time, hpending⟩ := pendingOperation_listen env hlisten hlistening
      rw [hpending, if_neg (ne_true_of_eq_false hstill)]
      exact ⟨hstill, rfl, rfl, rfl, fun he => by cases he⟩
    · obtain ⟨nb, buffer, hparam⟩ := OperationParam.opParam_eq_read hread
      obtain ⟨rx, loop, hpending, -, hmode, hticket, -, hoperation, -⟩ := pendingOperation_read env hparam
      rw [hpending]
      refine ⟨hstill, rfl, hmode, hticket, fun _ => ?_⟩
      rw [hoperation, hresult]
      rintro ⟨⟩
    · obtain ⟨time, hpending⟩ := pendingOperation_write env hwrite
      rw [hpending]
      exact ⟨hstill, rfl, rfl, rfl, fun he => by cases he⟩
  · refine ⟨hstill, rfl, rfl, rfl, fun hsend => ?_⟩
    rcases (hbegan.result hsend).1 with hread | hwrite
    · rw [hread]
      rintro ⟨⟩
    · rw [hwrite]
      rintro ⟨⟩

/-- An iteration that finds none pushes no CONNECT. -/
theorem iterate_quiet {L : ℕ} {s : State cfg} (h : Reporting L s) {env : LoopEnv}
    (hl : (Event.iterate env).Listens s) (hdone : s.webSocketState.connectDone = false) :
    Listening L (s.iterate env) := by
  obtain ⟨t, u, hbegan, hworking, hu, hsending, he⟩ := iterate_serving h.toServing hl.1
  have hserving := hsending.serving env
  rw [← he] at hserving
  obtain ⟨hdone', hhistory, hmode, hticket, hresult⟩ := hworking.quiet hbegan hu hdone
  have hreported : s.reports L = s.history.admitted.length := (h.listening hdone).reported
  have hhistory : u.history = { s.history with executed := t.history.executed } := hhistory.trans hbegan.history
  have hmode : u.loop.listeningMode = true := (hmode.trans hbegan.listeningMode).trans h.listeningMode
  have hticket : u.loop.listenTicketId = L := (hticket.trans hbegan.listenTicketId).trans h.listenTicketId
  split_ifs at he with hsend
  · obtain ⟨time, q, pushed, notified, hsent, hp⟩ := sendResult_eq u env
    have hcount := pushed_reports L hp (hresult hsend)
    rw [hsent] at he
    refine ⟨hserving, ?_, ?_, ?_, ?_⟩ <;> rw [he]
    · exact hmode
    · exact hticket
    · exact hdone'
    · rw [AllReported, State.reports, hcount, State.reports, hhistory]
      exact hreported
  · refine ⟨hserving, ?_, ?_, ?_, ?_⟩ <;> rw [he]
    · exact hmode
    · exact hticket
    · exact hdone'
    · rw [AllReported, State.reports, hhistory]
      exact hreported

/-- **After an iteration** every connection has been reported. -/
theorem iterate_listening {L : ℕ} {s : State cfg} (h : Reporting L s) {env : LoopEnv}
    (hl : (Event.iterate env).Listens s) (hc : (Event.iterate env).Separated s) : Listening L (s.iterate env) := by
  by_cases hdone : s.webSocketState.connectDone = true
  · exact iterate_signalled h hl hdone (hc hdone)
  · exact iterate_quiet h hl (Bool.eq_false_iff.mpr hdone)

/-! ### Runs -/

theorem step_reporting {L : ℕ} (s : State cfg) (e : Event) (h : Reporting L s) (hc : e.Listens s ∧ e.Separated s) :
    Reporting L (step s e) := by
  have hserving := step_serving s e h.toServing hc.1.serves
  cases e using Event.byCause with
  | user e hu =>
    have hsame := step_sameEngine s hu
    refine h.same hserving hsame.loop hsame.webSocketState ?_ ?_ <;> rw [hsame.history]
  | callback cb =>
    simp only [step, h.lwsContext, if_true]
    exact lwsCallback_reporting h hc.1 hc.2
  | iterate env => exact (iterate_listening h hc.1 hc.2).reporting

/-- **Every connection is reported**: after a successful LISTEN with the ticket `L`, and a run whose steps
are separated, one more iteration leaves one CONNECT result for each admitted connection. -/
theorem connections_reported {L : ℕ} {s : State cfg} (hs : Listening L s) (es : List Event) (env : LoopEnv)
    (h : Meets step (fun s e => e.Listens s ∧ e.Separated s) s (es ++ [.iterate env])) :
    AllReported (exec step s (es ++ [.iterate env])) L := by
  obtain ⟨hes, henv, -⟩ := meets_append.mp h
  have hreporting := exec_inv step_reporting es s hs.reporting hes
  rw [exec_append]
  exact (iterate_listening hreporting henv.1 henv.2).reported

/-- The server of the examples, after its LISTEN. -/
def listened : State server := exec step State.start (Event.execute 0 0 .listen)

theorem listened_listening : Listening 1 listened :=
  ⟨⟨⟨rfl, rfl, rfl, rfl, by decide +kernel, by decide +kernel⟩, rfl, fun _ => .inl ⟨rfl, rfl⟩⟩,
    rfl, rfl, rfl, by decide +kernel⟩

/-- A client connects to the server with the given key. -/
def clientConnects (w : Wsi) (key : Key) : List Event :=
  [.callback (.httpBindProtocol w), .callback (.addHeaders w (some key)), .callback (.established w true key)]

/-- Two connections, with an iteration after each. -/
theorem connections_reported_two :
    AllReported (exec step listened (clientConnects 1 ['a'] ++ [.iterate (.at 0 0)] ++ clientConnects 2 ['b'] ++
      [.iterate (.at 0 0)])) 1 := by
  have hseparated : Meets step (fun s e => e.Listens s ∧ e.Separated s) listened
      (clientConnects 1 ['a'] ++ [.iterate (.at 0 0)] ++ clientConnects 2 ['b'] ++ [.iterate (.at 0 0)]) := by
    decide +kernel
  exact connections_reported listened_listening _ _ hseparated

/-- Two connections that are established before the loop has looked at the first are
reported once. -/
theorem not_connections_reported :
    ¬ ∀ (cfg : WebSocketParam) (L : ℕ) (s : State cfg) (es : List Event) (env : LoopEnv), Listening L s →
      Meets step (fun s e => e.Listens s) s (es ++ [.iterate env]) →
      AllReported (exec step s (es ++ [.iterate env])) L := by
  intro h
  have htwice := h server 1 listened (clientConnects 1 ['a'] ++ clientConnects 2 ['b']) (.at 0 0) listened_listening
    (by decide +kernel)
  exact absurd htwice (by decide +kernel)

end BofWebRpc.WebSocket
