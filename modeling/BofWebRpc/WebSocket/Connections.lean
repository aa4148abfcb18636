import BofWebRpc.WebSocket.Iteration

/-!
# The connections of libwebsockets

`LwsCallback` is called in an order that `libwebsockets` promises: a connection is
established once, with a handle that is not in use, and closed at most once after
that, also when its context is destroyed; a server gets no callback of a client.

## The model

`Connections` follows a run from outside: which connections are established, which of
them `LwsCallback` has admitted, and which admitted ones have closed. `watch` runs
the engine and the follower side by side; `Event.Lawful` is the promise.

## What is proved

* `iterate_shuts` — an iteration leaves the clients alone, or destroys the context and closes
  connections.
* `watch_inv` — an invariant kept by establishing and by closing one connection is
  kept by every lawful step.
-/

namespace BofWebRpc.WebSocket

open Runs

variable {cfg : WebSocketParam}

/-! ### The follower -/

/-- The connections, as `libwebsockets` knows them. -/
structure Connections where
  /-- The connections that are established and not closed. -/
  established : List Wsi
  /-- Those for which `LwsCallback` returned `0`. -/
  admitted : List Wsi
  /-- The admitted connections that have closed. -/
  finished : List Wsi

/-- No connection. -/
def Connections.none : Connections := ⟨[], [], []⟩

/-- The connection `w` is established, and `LwsCallback` gives an answer. -/
def Connections.establish (m : Connections) (w : Wsi) (answer : ℤ) : Connections :=
  { m with
    established := w :: m.established
    admitted := if answer = 0 then w :: m.admitted else m.admitted }

/-- The connection `w` closes. -/
def Connections.close (m : Connections) (w : Wsi) : Connections :=
  { established := m.established.filter (· ≠ w)
    admitted := m.admitted.filter (· ≠ w)
    finished := if w ∈ m.admitted then m.finished ++ [w] else m.finished }

/-- A callback, with the answer of `LwsCallback`. -/
def Connections.callback (m : Connections) (answer : ℤ) : Callback → Connections
  | .established w _ _ | .clientEstablished w _ => m.establish w answer
  | .closed w | .clientClosed w => m.close w
  | .clientConnectionError _ destroying => destroying.foldl Connections.close m
  | _ => m

/-- A step from the state `s`; an iteration that ends without a context has destroyed it. -/
def Connections.follow (m : Connections) (s : State cfg) : Event → Connections
  | .callback cb => if s.lwsContext then m.callback (lwsCallback cb s).1 cb else m
  | .iterate env => if (s.iterate env).lwsContext then m else env.destroying.foldl Connections.close m
  | _ => m

theorem Connections.follow_user (m : Connections) (s : State cfg) {e : Event} (h : e.isUser = true) :
    m.follow s e = m := by
  cases e with
  | callback cb | iterate env => cases h
  | program _ _ _ | collect | cancel _ | cancelled | clear | reset => rfl

/-- The engine and its connections. -/
abbrev Watched (cfg : WebSocketParam) := State cfg × Connections

/-- A `BofWebSocket` whose thread has just started, without connections. -/
def Watched.start : Watched cfg := (State.start, Connections.none)

/-- One event. -/
def watch (p : Watched cfg) (e : Event) : Watched cfg := (step p.1 e, p.2.follow p.1 e)

/-! ### The promise -/

/-- The connections `ws` may be closed, one after the other. -/
def Connections.Closable (m : Connections) (ws : List Wsi) : Prop := ws.Nodup ∧ ∀ w ∈ ws, w ∈ m.established

instance (m : Connections) (ws : List Wsi) : Decidable (m.Closable ws) := inferInstanceAs (Decidable (_ ∧ ∀ _ ∈ _, _))

/-- What may run inside `lws_client_connect_via_info`: nothing is established yet. -/
def Callback.whileConnecting : Callback → Bool
  | .other _ => true
  | .clientConnectionError _ destroying => destroying.isEmpty
  | _ => false

/-- The order that `libwebsockets` promises. -/
def Event.Lawful (p : Watched cfg) : Event → Prop
  | .callback (.established w _ _) => cfg.nbMaxClient ≠ 0 ∧ w ∉ p.2.established
  | .callback (.closed w) => cfg.nbMaxClient ≠ 0 ∧ w ∈ p.2.established
  | .callback (.clientEstablished w _) => cfg.nbMaxClient = 0 ∧ w ∉ p.2.established
  | .callback (.clientClosed w) => cfg.nbMaxClient = 0 ∧ w ∈ p.2.established
  | .callback (.clientConnectionError _ destroying) => cfg.nbMaxClient = 0 ∧ p.2.Closable destroying
  | .iterate env =>
    p.2.Closable env.destroying ∧ (p.1.lwsContext = false → env.destroying = []) ∧
      (cfg.nbMaxClient = 0 → ∀ cb ∈ env.connecting, cb.whileConnecting = true)
  | _ => True

instance (p : Watched cfg) : (e : Event) → Decidable (e.Lawful p)
  | .callback (.established _ _ _) | .callback (.closed _) | .callback (.clientEstablished _ _)
  | .callback (.clientClosed _) | .callback (.clientConnectionError _ _) => inferInstanceAs (Decidable (_ ∧ _))
  | .iterate _ => inferInstanceAs (Decidable (_ ∧ (_ → _) ∧ (_ → ∀ _ ∈ _, _)))
  | .callback (.httpBindProtocol _) | .callback (.addHeaders _ _) | .callback (.writeable _ _ _)
  | .callback (.receive _ _ _ _ _) | .callback (.other _) => isTrue trivial
  | .program _ _ _ | .collect | .cancelled | .clear | .reset | .cancel _ => isTrue trivial

/-! ### What leaves the clients alone -/

/-- The clients, the session data, and the calls of `OnOpen` and `OnClose` are the same. -/
structure SameClients (s t : State cfg) : Prop where
  clientCollection : t.clientCollection = s.clientCollection
  session : t.session = s.session
  opened : t.history.opened = s.history.opened
  closed : t.history.closed = s.history.closed

theorem SameClients.refl (s : State cfg) : SameClients s s := ⟨rfl, rfl, rfl, rfl⟩

theorem SameClients.trans {s t u : State cfg} (h : SameClients s t) (h' : SameClients t u) : SameClients s u :=
  ⟨h'.clientCollection.trans h.clientCollection, h'.session.trans h.session, h'.opened.trans h.opened,
    h'.closed.trans h.closed⟩

/-- Closing a connection looks at the clients only. -/
theorem SameClients.onClose {s t : State cfg} (h : SameClients s t) (w : Wsi) :
    SameClients (s.onClose w) (t.onClose w) := by
  simp only [State.onClose]
  split_ifs
  · refine ⟨h.clientCollection, ?_, h.opened, ?_⟩
    · simp only [State.onClientClosed, State.forget, State.callOnClose, h.session]
    · simp only [State.onClientClosed, State.forget, State.callOnClose, h.closed]
  · refine ⟨?_, ?_, h.opened, ?_⟩
    · simp only [State.onClosed, State.forget, State.callOnClose, State.removeClient, h.clientCollection, h.session]
    · simp only [State.onClosed, State.forget, State.callOnClose, State.removeClient, h.session]
    · simp only [State.onClosed, State.forget, State.callOnClose, State.removeClient, h.closed]

theorem SameClients.foldl_onClose {s t : State cfg} (h : SameClients s t) (ws : List Wsi) :
    SameClients (ws.foldl State.onClose s) (ws.foldl State.onClose t) := by
  induction ws generalizing s t with
  | nil => exact h
  | cons w ws ih => exact ih (h.onClose w)

/-- The clients are the same, or the context is destroyed and the connections `ws` are closed. -/
def Shuts (ws : List Wsi) (s t : State cfg) : Prop :=
  (t.lwsContext = s.lwsContext ∧ SameClients s t) ∨
    (s.lwsContext = true ∧ t.lwsContext = false ∧ SameClients (ws.foldl State.onClose s) t)

theorem Shuts.trans {ws : List Wsi} {s t u : State cfg} (h : Shuts ws s t) (h' : Shuts ws t u) : Shuts ws s u := by
  rcases h with ⟨hc, hs⟩ | ⟨hc, hd, hs⟩
  · rcases h' with ⟨hc', hs'⟩ | ⟨hc', hd', hs'⟩
    · exact .inl ⟨hc'.trans hc, hs.trans hs'⟩
    · exact .inr ⟨hc.symm.trans hc', hd', (hs.foldl_onClose ws).trans hs'⟩
  · rcases h' with ⟨hc', hs'⟩ | ⟨hc', -, -⟩
    · exact .inr ⟨hc, hc'.trans hd, hs.trans hs'⟩
    · exact absurd (hd.symm.trans hc') Bool.false_ne_true

theorem clientDisconnect_shuts (s : State cfg) (ws : List Wsi) : Shuts ws s (s.clientDisconnect ws) := by
  simp only [State.clientDisconnect]
  split_ifs with hc
  · exact .inr ⟨hc, rfl, rfl, rfl, rfl, rfl⟩
  · exact .inl ⟨rfl, rfl, rfl, rfl, rfl⟩

theorem clientDisconnect_lwsContext (s : State cfg) (ws : List Wsi) : (s.clientDisconnect ws).lwsContext = false := by
  simp only [State.clientDisconnect]
  split_ifs with hc
  · rfl
  · exact Bool.eq_false_iff.mpr hc

/-- A callback that neither establishes nor closes. -/
def Callback.isQuiet : Callback → Bool
  | .established _ _ _ | .clientEstablished _ _ | .closed _ | .clientClosed _ | .clientConnectionError _ _ => false
  | .httpBindProtocol _ | .addHeaders _ _ | .writeable _ _ _ | .receive _ _ _ _ _ | .other _ => true

theorem lwsCallback_sameClients {cb : Callback} (h : cb.isQuiet = true) (s : State cfg) :
    SameClients s (lwsCallback cb s).2 := by
  cases cb with
  | httpBindProtocol w => exact ⟨rfl, rfl, rfl, rfl⟩
  | addHeaders w key => exact .refl s
  | writeable side w env =>
    rw [lwsCallback]
    rcases onWriteable_cases s w env with ⟨he, -⟩ | ⟨op, -, -, ⟨-, he⟩ | ⟨sts, q, pushed, notified, -, -, he⟩⟩ <;>
      rw [he] <;> exact ⟨rfl, rfl, rfl, rfl⟩
  | receive side w input final env =>
    simp only [lwsCallback, State.onReceive, State.onMessageComplete]
    split
    · split_ifs <;> exact ⟨rfl, rfl, rfl, rfl⟩
    · exact ⟨rfl, rfl, rfl, rfl⟩
  | other w => exact .refl s
  | established w b key | clientEstablished w b | closed w | clientClosed w | clientConnectionError w ws =>
    cases h

/-- What runs inside `lws_client_connect_via_info` leaves the clients alone. -/
theorem callbacks_connecting {cbs : List Callback} (h : ∀ cb ∈ cbs, cb.whileConnecting = true) (s : State cfg) :
    SameClients s (callbacks cbs s) := by
  induction cbs generalizing s with
  | nil => exact .refl s
  | cons cb cbs ih =>
    have hcb := h cb List.mem_cons_self
    have hrest := fun t : State cfg => ih (fun c hc => h c (List.mem_cons_of_mem cb hc)) t
    refine SameClients.trans ?_ (hrest _)
    cases cb with
    | other w => exact .refl s
    | clientConnectionError w ws =>
      obtain rfl : ws = [] := List.isEmpty_iff.mp hcb
      rcases clientDisconnect_shuts
        ({ s with history.errors := if cfg.onError then s.history.errors + 1 else s.history.errors } : State cfg) []
        with ⟨-, hs⟩ | ⟨-, -, hs⟩ <;> exact ⟨hs.clientCollection, hs.session, hs.opened, hs.closed⟩
    | httpBindProtocol w | addHeaders w key | writeable side w env | receive side w input final env
    | established w b key | clientEstablished w b | closed w | clientClosed w => cases hcb

/-! ### Iterations -/

/-- A command leaves the clients alone, or destroys the context; it may also create one. -/
theorem command_shuts (s : State cfg) (env : LoopEnv)
    (hconnecting : cfg.nbMaxClient = 0 → ∀ cb ∈ env.connecting, cb.whileConnecting = true) :
    Shuts env.destroying s (s.command env) ∨ (s.lwsContext = false ∧ SameClients s (s.command env)) := by
  have hsame : ∀ sts, Shuts env.destroying s (s.setSts sts) := fun sts => .inl ⟨rfl, rfl, rfl, rfl, rfl⟩
  have hdisconnect : ∀ sts, Shuts env.destroying s ((s.clientDisconnect env.destroying).setSts sts) := fun sts =>
    (clientDisconnect_shuts s env.destroying).trans (.inl ⟨rfl, rfl, rfl, rfl, rfl⟩)
  unfold State.command
  split
  · simp only [State.commandListen]
    split_ifs with hmode hfree hcreate
    · exact .inl (hsame _)
    · exact .inr ⟨hfree.2, rfl, rfl, rfl, rfl⟩
    · have hstart : Shuts env.destroying s { s with webSocketState.connectDone := false } :=
        .inl ⟨rfl, rfl, rfl, rfl, rfl⟩
      exact .inl ((hstart.trans (clientDisconnect_shuts _ env.destroying)).trans (.inl ⟨rfl, rfl, rfl, rfl, rfl⟩))
    · exact .inl (hsame _)
  · rw [State.commandConnect]
    split
    · exact .inl (hsame _)
    · next hmode =>
      split
      · next hcan =>
        split
        · have hs := callbacks_connecting (hconnecting (not_not.mp hmode)) ({ s with lwsContext := true } : State cfg)
          exact .inr ⟨hcan.2.1, hs.clientCollection, hs.session, hs.opened, hs.closed⟩
        · exact .inl (hdisconnect _)
      · exact .inl (hsame _)
  · simp only [State.commandDisconnect]
    split_ifs
    · exact .inl (hsame _)
    · exact .inl (hdisconnect _)
    · exact .inl (hsame _)
  · exact .inl (.inl ⟨rfl, rfl, rfl, rfl, rfl⟩)
  · exact .inl (hsame _)
  · rcases commandWrite_cases s env _ _ with ⟨sts, -, he⟩ | ⟨data, q, -, -, he⟩
    · rw [he]
      exact .inl (hsame _)
    · rw [he]
      exact .inl (.inl ⟨rfl, rfl, rfl, rfl, rfl⟩)
  · exact .inl (hsame _)

theorem newCommand_shuts (s : State cfg) (env : LoopEnv)
    (hconnecting : cfg.nbMaxClient = 0 → ∀ cb ∈ env.connecting, cb.whileConnecting = true) :
    Shuts env.destroying s (s.newCommand env) ∨ (s.lwsContext = false ∧ SameClients s (s.newCommand env)) := by
  rcases newCommand_cases s env with ⟨-, he⟩ | ⟨op, -, ⟨-, -, he⟩ | ⟨-, he⟩⟩
  · rw [he]
    exact .inl (.inl ⟨rfl, rfl, rfl, rfl, rfl⟩)
  · rw [he]
    exact .inl (.inl ⟨rfl, rfl, rfl, rfl, rfl⟩)
  · rw [he, takeCommand_eq]
    have hbegin : Shuts env.destroying s ((s.popped op).beginCommand env) := .inl ⟨rfl, rfl, rfl, rfl, rfl⟩
    rcases command_shuts ((s.popped op).beginCommand env) env hconnecting with h | ⟨hc, hs⟩
    · exact .inl ((hbegin.trans h).trans (.inl ⟨rfl, rfl, rfl, rfl, rfl⟩))
    · exact .inr ⟨hc, hs.clientCollection, hs.session, hs.opened, hs.closed⟩

theorem pendingOperation_shuts (s : State cfg) (env : LoopEnv) : Shuts env.destroying s (s.pendingOperation env) := by
  have hpending : Shuts env.destroying s (s.pending env) := by
    simp only [State.pending]
    split
    · split_ifs <;> exact .inl ⟨rfl, rfl, rfl, rfl, rfl⟩
    · split_ifs <;> exact .inl ⟨rfl, rfl, rfl, rfl, rfl⟩
    · exact .inl ⟨rfl, rfl, rfl, rfl, rfl⟩
    · split <;> exact .inl ⟨rfl, rfl, rfl, rfl, rfl⟩
    · exact .inl ⟨rfl, rfl, rfl, rfl, rfl⟩
    · exact .inl ⟨rfl, rfl, rfl, rfl, rfl⟩
  obtain ⟨t, rfl, ⟨-, he⟩ | ⟨-, he⟩⟩ := pendingOperation_cases s env
  · rw [he]
    exact hpending.trans (.inl ⟨rfl, rfl, rfl, rfl, rfl⟩)
  · rw [he]
    have htime : Shuts env.destroying (s.pending env) { s.pending env with
        loop.result.time := elapsedMsTime env.tickPending (s.pending env).loop.currentOp.timer } :=
      .inl ⟨rfl, rfl, rfl, rfl, rfl⟩
    refine (hpending.trans htime).trans ?_
    simp only [State.timeOutOperation]
    split_ifs
    · exact (clientDisconnect_shuts _ env.destroying).trans (.inl ⟨rfl, rfl, rfl, rfl, rfl⟩)
    · exact .inl ⟨rfl, rfl, rfl, rfl, rfl⟩

theorem loopEnd_shuts (s : State cfg) (env : LoopEnv) : Shuts env.destroying s (s.loopEnd env) := by
  simp only [State.loopEnd]
  split_ifs
  · exact .inl ⟨rfl, rfl, rfl, rfl, rfl⟩
  · exact (clientDisconnect_shuts s env.destroying).trans (.inl ⟨rfl, rfl, rfl, rfl, rfl⟩)

/-- **An iteration** leaves the clients alone, or destroys the context and closes connections; it may
also create a context. -/
theorem iterate_shuts (s : State cfg) (env : LoopEnv)
    (hconnecting : cfg.nbMaxClient = 0 → ∀ cb ∈ env.connecting, cb.whileConnecting = true) :
    Shuts env.destroying s (s.iterate env) ∨
      (s.lwsContext = false ∧ (SameClients s (s.iterate env) ∨
        SameClients (env.destroying.foldl State.onClose s) (s.iterate env))) := by
  cases hrun : s.loop.running with
  | false =>
    rw [iterate_of_stopped hrun]
    exact .inl (.inl ⟨rfl, .refl s⟩)
  | true =>
    -- after the command no context is created any more
    have hrest : Shuts env.destroying (s.newCommand env) (s.iterate env) := by
      refine iterate_rule (R := Shuts env.destroying) (fun t => .inl ⟨rfl, .refl t⟩) Shuts.trans
        (fun t => pendingOperation_shuts t env) (fun _ => .inl ⟨rfl, rfl, rfl, rfl, rfl⟩) (fun t => ?_)
        (fun t => loopEnd_shuts t env) hrun
      obtain ⟨time, q, pushed, notified, he, -⟩ := sendResult_eq t env
      rw [he]
      exact .inl ⟨rfl, rfl, rfl, rfl, rfl⟩
    rcases newCommand_shuts s env hconnecting with hfirst | ⟨hc, hs⟩
    · exact .inl (hfirst.trans hrest)
    · refine .inr ⟨hc, ?_⟩
      rcases hrest with ⟨-, hs'⟩ | ⟨-, -, hs'⟩
      · exact .inl (hs.trans hs')
      · exact .inr ((hs.foldl_onClose env.destroying).trans hs')

/-! ### The invariant rule -/

theorem Connections.Closable.close {m : Connections} {w : Wsi} {ws : List Wsi} (h : m.Closable (w :: ws)) :
    (m.close w).Closable ws := by
  obtain ⟨hnew, hnodup⟩ := List.nodup_cons.mp h.1
  refine ⟨hnodup, fun v hv => List.mem_filter.mpr ⟨h.2 v (List.mem_cons_of_mem w hv), ?_⟩⟩
  have hne : v ≠ w := fun he => hnew (he ▸ hv)
  simpa using hne

/-- The step closes connections that meet `C` only. -/
def Event.ClosesOnly (C : Connections → Wsi → Prop) (m : Connections) : Event → Prop
  | .callback (.closed w) | .callback (.clientClosed w) => C m w
  | .callback (.clientConnectionError _ destroying) => ∀ w ∈ destroying, C m w
  | .iterate env => ∀ w ∈ env.destroying, C m w
  | _ => True

section Rule

variable {I : State cfg → Connections → Prop} {C : Connections → Wsi → Prop}

/-- What closing one connection keeps, destroying the context keeps. -/
theorem foldl_close_inv (hothers : ∀ m w v, v ≠ w → C m v → C (m.close w) v)
    (hclose : ∀ s m w, I s m → w ∈ m.established → C m w → I (s.onClose w) (m.close w)) :
    ∀ (ws : List Wsi) (s : State cfg) (m : Connections), I s m → m.Closable ws → (∀ w ∈ ws, C m w) →
      I (ws.foldl State.onClose s) (ws.foldl Connections.close m) := by
  intro ws
  induction ws with
  | nil => intro s m hI _ _; exact hI
  | cons w ws ih =>
    intro s m hI hws hC
    have hnew := (List.nodup_cons.mp hws.1).1
    apply ih _ _ (hclose s m w hI (hws.2 w List.mem_cons_self) (hC w List.mem_cons_self)) hws.close
    exact fun v hv => hothers m w v (fun he => hnew (he ▸ hv)) (hC v (List.mem_cons_of_mem w hv))

/-- What destroying the context keeps, an iteration keeps. -/
theorem iterate_inv (hsame : ∀ s t m, I s m → SameClients s t → I t m)
    (hothers : ∀ m w v, v ≠ w → C m v → C (m.close w) v)
    (hclose : ∀ s m w, I s m → w ∈ m.established → C m w → I (s.onClose w) (m.close w))
    {s : State cfg} {m : Connections} {env : LoopEnv} (h : I s m) (hl : (Event.iterate env).Lawful (s, m))
    (hC : (Event.iterate env).ClosesOnly C m) :
    I (watch (s, m) (.iterate env)).1 (watch (s, m) (.iterate env)).2 := by
  obtain ⟨hclosable, hnone, hconnecting⟩ := hl
  have hall := foldl_close_inv hothers hclose env.destroying s m h hclosable hC
  simp only [watch, step, Connections.follow]
  rcases iterate_shuts s env hconnecting with (⟨hc, hs⟩ | ⟨hc, hd, hs⟩) | ⟨hc, hs⟩
  · split_ifs with hctx
    · exact hsame _ _ _ h hs
    · rw [hnone (hc.symm.trans (Bool.eq_false_iff.mpr hctx))]
      exact hsame _ _ _ h hs
  · rw [if_neg (ne_true_of_eq_false hd)]
    exact hsame _ _ _ hall hs
  · rw [hnone hc] at hs ⊢
    have hs : SameClients s (s.iterate env) := hs.elim id id
    split_ifs <;> exact hsame _ _ _ h hs

/-- **The invariant rule** for the clients: what looks at the clients only, and is kept when one
connection is established and when one that meets `C` closes, is kept by every lawful step that
closes such connections only. -/
theorem watch_inv (hsame : ∀ s t m, I s m → SameClients s t → I t m)
    (hserver : cfg.nbMaxClient ≠ 0 → ∀ s m w b key, I s m → w ∉ m.established →
      I (s.onEstablished w b key).2 (m.establish w (s.onEstablished w b key).1))
    (hclient : cfg.nbMaxClient = 0 → ∀ s m w b, I s m → w ∉ m.established →
      I (s.onClientEstablished w b).2 (m.establish w (s.onClientEstablished w b).1))
    (hothers : ∀ m w v, v ≠ w → C m v → C (m.close w) v)
    (hclose : ∀ s m w, I s m → w ∈ m.established → C m w → I (s.onClose w) (m.close w))
    (p : Watched cfg) (e : Event) (h : I p.1 p.2) (hl : e.Lawful p) (hC : e.ClosesOnly C p.2) :
    I (watch p e).1 (watch p e).2 := by
  obtain ⟨s, m⟩ := p
  cases e using Event.byCause with
  | user e hu =>
    have he := step_sameEngine s hu
    rw [watch, m.follow_user s hu]
    exact hsame s _ m h ⟨he.clientCollection, he.session, by rw [he.history], by rw [he.history]⟩
  | iterate env => exact iterate_inv hsame hothers hclose h hl hC
  | callback cb =>
    simp only [watch, step, Connections.follow]
    split_ifs with hctx
    · by_cases hquiet : cb.isQuiet = true
      · have hs := lwsCallback_sameClients hquiet s
        have hm : m.callback (lwsCallback cb s).1 cb = m := by cases cb <;> first | rfl | cases hquiet
        rw [hm]
        exact hsame _ _ _ h hs
      · cases cb with
        | established w b key => exact hserver hl.1 s m w b key h hl.2
        | clientEstablished w b => exact hclient hl.1 s m w b h hl.2
        | closed w =>
          have hkept := hclose s m w h hl.2 hC
          rw [State.onClose, if_neg hl.1] at hkept
          exact hkept
        | clientClosed w =>
          have hkept := hclose s m w h hl.2 hC
          rw [State.onClose, if_pos hl.1] at hkept
          exact hkept
        | clientConnectionError w ws =>
          have hall := foldl_close_inv hothers hclose ws s m h hl.2 hC
          rcases clientDisconnect_shuts
            ({ s with history.errors := if cfg.onError then s.history.errors + 1 else s.history.errors } : State cfg) ws
            with ⟨hc, -⟩ | ⟨-, -, hs⟩
          · exact absurd (hc.symm.trans (clientDisconnect_lwsContext _ ws)) (ne_true_of_eq_false · hctx)
          · have herrors := (⟨rfl, rfl, rfl, rfl⟩ : SameClients s
              { s with history.errors := if cfg.onError then s.history.errors + 1 else s.history.errors })
            exact hsame _ _ _ hall ((herrors.foldl_onClose ws).trans hs)
        | httpBindProtocol w | addHeaders w key | writeable side w env | receive side w input final env | other w =>
          exact absurd rfl hquiet
    · exact h

end Rule

end BofWebRpc.WebSocket
