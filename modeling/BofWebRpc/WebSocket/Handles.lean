import BofWebRpc.WebSocket.Connections
import BofWebRpc.WebSocket.Isolation
import BofWebRpc.WebSocket.Listening

/-!
# The handle in use

`mWebSocketState_X.pWebSocket_X` is one handle for all connections: HTTP_BIND_PROTOCOL,
ESTABLISHED and CONNECT overwrite it, the cancel block and the end of a context clear
it, and the close callbacks leave it alone.

## The model

A `Handling` follows a run from outside: the connections, and the *last* one, which is
the last connection bound, established or connected since the last cancel and in the
present context.

## What is proved

* `handle_follows` — the handle in use is the last connection.
* `handles_live_iff` — a server only uses live connections if and only if, each time, the
  last connection has been admitted and has not closed.
* `assertions_hold_iff` — the assertions of the handshakes hold if and only if no handshake
  comes between another connection's binding and its establishment, and no cancel
  between a CONNECT and its establishment.
-/

namespace BofWebRpc.WebSocket

open Runs

variable {cfg : WebSocketParam}

/-! ### The follower -/

/-- The connections, and the last one. -/
structure Handling where
  connections : Connections
  last : Option Wsi

/-- The last connection after a step from the state `s`. -/
def Event.last (s : State cfg) (last : Option Wsi) : Event → Option Wsi
  | .callback (.httpBindProtocol w) => if s.lwsContext then some w else last
  | .callback (.established w true _) => if s.lwsContext then some w else last
  | .callback (.clientConnectionError _ _) => if s.lwsContext then none else last
  | .iterate env =>
    if (s.iterate env).lwsContext then
      (if s.loop.running && s.cancel then none
        else if s.loop.running && s.willConnect env then env.connectVia else last)
    else none
  | _ => last

theorem last_user (s : State cfg) (last : Option Wsi) {e : Event} (h : e.isUser = true) : e.last s last = last := by
  cases e with
  | callback cb | iterate env => cases h
  | program _ _ _ | collect | cancel _ | cancelled | clear | reset => rfl

/-- The engine and its follower. -/
abbrev Handled (cfg : WebSocketParam) := State cfg × Handling

/-- A `BofWebSocket` whose thread has just started. -/
def Handled.start : Handled cfg := (State.start, ⟨Connections.none, none⟩)

/-- One event. -/
def handle (p : Handled cfg) (e : Event) : Handled cfg :=
  (step p.1 e, ⟨p.2.connections.follow p.1 e, e.last p.1 p.2.last⟩)

/-- The order that `libwebsockets` promises. -/
def Event.Orderly (p : Handled cfg) (e : Event) : Prop := e.Lawful (p.1, p.2.connections)

instance (p : Handled cfg) (e : Event) : Decidable (e.Orderly p) := inferInstanceAs (Decidable (e.Lawful _))

/-! ### What an iteration does to the handle -/

/-- The handle stays, or is cleared with the end of the context. -/
def Drops (s t : State cfg) : Prop :=
  (t.lwsContext = s.lwsContext ∧ t.webSocketState.pWebSocket = s.webSocketState.pWebSocket) ∨
    (t.lwsContext = false ∧ t.webSocketState.pWebSocket = none)

theorem Drops.refl (s : State cfg) : Drops s s := .inl ⟨rfl, rfl⟩

theorem Drops.trans {s t u : State cfg} (h : Drops s t) (h' : Drops t u) : Drops s u := by
  rcases h' with ⟨hc', hw'⟩ | hgone
  · rcases h with ⟨hc, hw⟩ | ⟨hc, hw⟩
    · exact .inl ⟨hc'.trans hc, hw'.trans hw⟩
    · exact .inr ⟨hc'.trans hc, hw'.trans hw⟩
  · exact .inr hgone

theorem clientDisconnect_drops (s : State cfg) (ws : List Wsi) : Drops s (s.clientDisconnect ws) :=
  .inr ⟨clientDisconnect_lwsContext s ws, rfl⟩

theorem pendingOperation_drops (s : State cfg) (env : LoopEnv) : Drops s (s.pendingOperation env) := by
  have hpending : Drops s (s.pending env) := by
    simp only [State.pending]
    split
    · split_ifs <;> exact .inl ⟨rfl, rfl⟩
    · split_ifs <;> exact .inl ⟨rfl, rfl⟩
    · exact .inl ⟨rfl, rfl⟩
    · split <;> exact .inl ⟨rfl, rfl⟩
    · exact .inl ⟨rfl, rfl⟩
    · exact .inl ⟨rfl, rfl⟩
  obtain ⟨t, rfl, ⟨-, he⟩ | ⟨-, he⟩⟩ := pendingOperation_cases s env
  · rw [he]
    exact hpending.trans (.inl ⟨rfl, rfl⟩)
  · rw [he]
    refine hpending.trans ?_
    simp only [State.timeOutOperation]
    split_ifs
    · exact .inr ⟨clientDisconnect_lwsContext _ env.destroying, rfl⟩
    · exact .inl ⟨rfl, rfl⟩

theorem loopEnd_drops (s : State cfg) (env : LoopEnv) : Drops s (s.loopEnd env) := by
  simp only [State.loopEnd]
  split_ifs
  · exact .refl s
  · exact (clientDisconnect_drops s env.destroying).trans (.inl ⟨rfl, rfl⟩)

/-- What a command does to the handle: a CONNECT that creates a context sets it; a LISTEN that creates
one leaves it alone. -/
theorem command_handle (s : State cfg) (env : LoopEnv) :
    (∃ key, s.loop.currentOp.opParam = .connect key ∧ cfg.nbMaxClient = 0 ∧ s.canConnect key ∧
        env.createContext = true ∧ (s.command env).webSocketState.pWebSocket = env.connectVia) ∨
      ((∀ key, s.loop.currentOp.opParam = .connect key → cfg.nbMaxClient = 0 → s.canConnect key →
          env.createContext = false) ∧
        (Drops s (s.command env) ∨ (cfg.nbMaxClient ≠ 0 ∧ s.lwsContext = false ∧
          (s.command env).webSocketState.pWebSocket = s.webSocketState.pWebSocket))) := by
  have hgone : ∀ (u : State cfg) (sts : BofErr), Drops s ((u.clientDisconnect env.destroying).setSts sts) :=
    fun u sts => .inr ⟨clientDisconnect_lwsContext u env.destroying, rfl⟩
  unfold State.command
  cases hop : s.loop.currentOp.opParam with
  | connect key =>
    dsimp only
    rw [State.commandConnect]
    split
    · next hmode => exact .inr ⟨fun _ _ hclient => absurd hclient hmode, .inl (.inl ⟨rfl, rfl⟩)⟩
    · next hmode =>
      split
      · next hcan =>
        split
        · next hcreate => exact .inl ⟨key, rfl, not_not.mp hmode, hcan, hcreate, rfl⟩
        · next hcreate => exact .inr ⟨fun _ _ _ _ => Bool.eq_false_iff.mpr hcreate, .inl (hgone s _)⟩
      · next hcan =>
        refine .inr ⟨fun key' hkey _ hcan' => ?_, .inl (.inl ⟨rfl, rfl⟩)⟩
        cases hkey
        exact absurd hcan' hcan
  | listen =>
    refine .inr ⟨by rintro _ ⟨⟩, ?_⟩
    simp only [State.commandListen]
    split_ifs with hmode hfree hcreate
    · exact .inl (.inl ⟨rfl, rfl⟩)
    · exact .inr ⟨hmode, hfree.2, rfl⟩
    · exact .inl (hgone _ _)
    · exact .inl (.inl ⟨rfl, rfl⟩)
  | disconnect =>
    refine .inr ⟨by rintro _ ⟨⟩, .inl ?_⟩
    simp only [State.commandDisconnect]
    split_ifs
    · exact .inl ⟨rfl, rfl⟩
    · exact hgone s _
    · exact .inl ⟨rfl, rfl⟩
  | write nb buffer =>
    refine .inr ⟨by rintro _ ⟨⟩, .inl ?_⟩
    rcases commandWrite_cases s env nb buffer with ⟨sts, -, he⟩ | ⟨data, q, -, -, he⟩ <;> simp only [he] <;>
      exact .inl ⟨rfl, rfl⟩
  | read nb buffer => exact .inr ⟨by rintro _ ⟨⟩, .inl (.inl ⟨rfl, rfl⟩)⟩
  | exit => exact .inr ⟨by rintro _ ⟨⟩, .inl (.inl ⟨rfl, rfl⟩)⟩
  | max => exact .inr ⟨by rintro _ ⟨⟩, .inl (.inl ⟨rfl, rfl⟩)⟩

/-- The command of an iteration. -/
theorem newCommand_handle (s : State cfg) (env : LoopEnv) :
    (s.willConnect env = true ∧ (s.newCommand env).webSocketState.pWebSocket = env.connectVia) ∨
      (s.willConnect env = false ∧ (Drops s (s.newCommand env) ∨ (cfg.nbMaxClient ≠ 0 ∧ s.lwsContext = false ∧
        (s.newCommand env).webSocketState.pWebSocket = s.webSocketState.pWebSocket))) := by
  rcases newCommand_cases s env with ⟨hparams, he⟩ | ⟨op, -, ⟨hp, hlistening, he⟩ | ⟨htaken, he⟩⟩
  · have hpeek := Fifo.peek_eq_none_iff.mpr hparams
    refine .inr ⟨?_, .inl (.inl ?_)⟩
    · simp only [State.willConnect, State.taken, hpeek, ite_self, Option.map_none]
    · rw [he]
      exact ⟨rfl, rfl⟩
  · refine .inr ⟨?_, .inl (.inl ?_)⟩
    · simp only [State.willConnect, State.taken, hp, hlistening]
      rfl
    · rw [he]
      exact ⟨rfl, rfl⟩
  · rw [he, takeCommand_eq]
    rcases command_handle ((s.popped op).beginCommand env) env with ⟨key, hkey, hmode, hcan, hcreate, hw⟩ | ⟨hnot, hw⟩
    · have hkey : op.opParam = .connect key := hkey
      have hcan : s.canConnect key := hcan
      refine .inl ⟨?_, hw⟩
      simp [State.willConnect, htaken, hkey, hmode, hcan, hcreate]
    · refine .inr ⟨?_, hw⟩
      rw [Bool.eq_false_iff]
      intro hwill
      simp only [State.willConnect, htaken, Option.map_some] at hwill
      split at hwill
      · next key hkey =>
        simp only [Bool.and_eq_true, decide_eq_true_eq] at hwill
        have hcreate := hnot key (Option.some.inj hkey) hwill.1.1 hwill.1.2
        exact absurd (hcreate.symm.trans hwill.2) Bool.false_ne_true
      · cases hwill

/-- **The handle after an iteration**: a cancel clears it, a CONNECT sets it, and the end of the context
clears it; a LISTEN may create a context. -/
theorem iterate_handle (s : State cfg) (env : LoopEnv) :
    ((s.loop.running && s.cancel) = true ∧ (s.iterate env).webSocketState.pWebSocket = none) ∨
      ((s.loop.running && s.cancel) = false ∧
        (((s.loop.running && s.willConnect env) = true ∧
            ((s.iterate env).lwsContext = true → (s.iterate env).webSocketState.pWebSocket = env.connectVia)) ∨
          ((s.loop.running && s.willConnect env) = false ∧ (Drops s (s.iterate env) ∨
            (cfg.nbMaxClient ≠ 0 ∧ s.lwsContext = false ∧
              ((s.iterate env).webSocketState.pWebSocket = s.webSocketState.pWebSocket ∨
                (s.iterate env).webSocketState.pWebSocket = none)))))) := by
  cases hrun : s.loop.running with
  | false =>
    rw [iterate_of_stopped hrun]
    exact .inr ⟨rfl, .inr ⟨rfl, .inl (.refl s)⟩⟩
  | true =>
    simp only [State.iterate, hrun, if_true, Bool.true_and]
    have hnew := newCommand_handle s env
    have hcancel := (newCommand_sameSignals s env).cancel
    generalize s.newCommand env = t at hnew hcancel ⊢
    have hpending : Drops t (if t.loop.ioPending then t.pendingOperation env else t) ∧
        (if t.loop.ioPending then t.pendingOperation env else t).cancel = t.cancel := by
      split_ifs
      · exact ⟨pendingOperation_drops t env, (pendingOperation_same t env).1.cancel⟩
      · exact ⟨.refl t, rfl⟩
    generalize (if t.loop.ioPending then t.pendingOperation env else t) = u at hpending ⊢
    have hrest : ∀ v : State cfg, Drops v ((if v.loop.sendResult then v.sendResult env else v).loopEnd env) := by
      intro v
      refine Drops.trans ?_ (loopEnd_drops _ env)
      split_ifs
      · obtain ⟨time, q, pushed, notified, he, -⟩ := sendResult_eq v env
        rw [he]
        exact .inl ⟨rfl, rfl⟩
      · exact .refl v
    rw [hpending.2, hcancel]
    cases hs : s.cancel with
    | true =>
      refine .inl ⟨rfl, ?_⟩
      rcases hrest u.cancelBlock with ⟨-, hw⟩ | ⟨-, hw⟩
      · exact hw
      · exact hw
    | false =>
      have hall := hpending.1.trans (hrest u)
      refine .inr ⟨rfl, ?_⟩
      rcases hnew with ⟨hwill, hw⟩ | ⟨hwill, hdrops | ⟨hserver, hcontext, hw⟩⟩
      · refine .inl ⟨hwill, fun hc => ?_⟩
        rcases hall with ⟨-, hw'⟩ | ⟨hc', -⟩
        · exact hw'.trans hw
        · exact absurd (hc'.symm.trans hc) Bool.false_ne_true
      · exact .inr ⟨hwill, .inl (hdrops.trans hall)⟩
      · refine .inr ⟨hwill, .inr ⟨hserver, hcontext, ?_⟩⟩
        rcases hall with ⟨-, hw'⟩ | ⟨-, hw'⟩
        · exact .inl (hw'.trans hw)
        · exact .inr hw'

/-! ### The handle is the last connection -/

/-- The handle in use is the last connection, on a client as long as there is a context. -/
structure Follows (p : Handled cfg) : Prop where
  handle : p.1.lwsContext = true ∨ cfg.nbMaxClient ≠ 0 → p.1.webSocketState.pWebSocket = p.2.last
  nothing : p.1.lwsContext = false → p.2.last = none

theorem start_follows : Follows (Handled.start : Handled cfg) := ⟨fun _ => rfl, fun _ => rfl⟩

theorem iterate_follows {s : State cfg} {m : Handling} (h : Follows (s, m)) (env : LoopEnv) :
    Follows (handle (s, m) (.iterate env)) := by
  have hserver : s.willConnect env = true → cfg.nbMaxClient = 0 := by
    intro hwill
    simp only [State.willConnect] at hwill
    split at hwill
    · simp only [Bool.and_eq_true, decide_eq_true_eq] at hwill
      exact hwill.1.1
    · cases hwill
  refine ⟨fun hc => ?_, fun hc => ?_⟩
  swap
  · have hc : (s.iterate env).lwsContext = false := hc
    simp only [handle, Event.last]
    rw [if_neg (ne_true_of_eq_false hc)]
  have hc : (s.iterate env).lwsContext = true ∨ cfg.nbMaxClient ≠ 0 := hc
  simp only [handle, Event.last, step]
  rcases iterate_handle s env with ⟨hcancel, hw⟩ | ⟨hcancel, ⟨hwill, hw⟩ | ⟨hwill, hdrops | ⟨hs, hcontext, hw⟩⟩⟩
  · rw [hw, hcancel]
    simp
  · have hclient := hserver (Bool.and_eq_true_iff.mp hwill).2
    have hcontext := hc.resolve_right (not_not.mpr hclient)
    rw [hw hcontext, hcancel, hwill, if_pos hcontext]
    rfl
  · rw [hcancel, hwill]
    rcases hdrops with ⟨hcontext, hw⟩ | ⟨hcontext, hw⟩
    · rw [hcontext] at hc ⊢
      rw [hw, show s.webSocketState.pWebSocket = m.last from h.handle hc]
      simp only [Bool.false_eq_true, if_false]
      split_ifs with hctx
      · rfl
      · exact h.nothing (Bool.eq_false_iff.mpr hctx)
    · rw [hw, if_neg (ne_true_of_eq_false hcontext)]
  · rw [hcancel, hwill]
    simp only [Bool.false_eq_true, if_false]
    have hnone := h.nothing hcontext
    have hhandle := h.handle (.inr hs)
    have hnow : (s.iterate env).webSocketState.pWebSocket = none :=
      hw.elim (fun he => he.trans (hhandle.trans hnone)) id
    rw [hnow]
    split_ifs
    · exact hnone.symm
    · rfl

/-- Without a context no callback runs. -/
theorem last_of_no_context {s : State cfg} (hc : s.lwsContext = false) (cb : Callback) (last : Option Wsi) :
    (Event.callback cb).last s last = last := by
  cases cb with
  | established w b key =>
    cases b with
    | true =>
      simp only [Event.last, hc]
      rfl
    | false => rfl
  | httpBindProtocol w | clientConnectionError w ws =>
    simp only [Event.last, hc]
    rfl
  | addHeaders w key | clientEstablished w b | writeable side w env | receive side w input final env
  | clientClosed w | closed w | other w => rfl

/-- **The handle after a callback**: HTTP_BIND_PROTOCOL and ESTABLISHED set it, an error of the connection clears
it. -/
theorem lwsCallback_last {s : State cfg} (hc : s.lwsContext = true) (cb : Callback) :
    (lwsCallback cb s).2.webSocketState.pWebSocket = (Event.callback cb).last s s.webSocketState.pWebSocket := by
  cases cb with
  | established w b key =>
    cases b with
    | true =>
      simp only [Event.last, hc]
      exact onEstablished_pWebSocket s w key
    | false => rfl
  | httpBindProtocol w | clientConnectionError w ws =>
    simp only [Event.last, hc]
    rfl
  | clientEstablished w b => cases b <;> rfl
  | writeable side w env =>
    rw [lwsCallback]
    rcases onWriteable_cases s w env with ⟨he, -⟩ | ⟨op, -, -, ⟨-, he⟩ | ⟨sts, q, pushed, notified, -, -, he⟩⟩ <;>
      rw [he] <;> rfl
  | receive side w input final env =>
    exact congrArg DataPerSession.pWebSocket (onReceive_webSocketState s w input final env)
  | addHeaders w key | clientClosed w | closed w | other w => rfl

theorem handle_follows (p : Handled cfg) (e : Event) (h : Follows p) : Follows (handle p e) := by
  obtain ⟨s, m⟩ := p
  cases e using Event.byCause with
  | user e hu =>
    have hsame := step_sameEngine s hu
    refine ⟨?_, ?_⟩
    · simp only [handle, last_user s _ hu, hsame.lwsContext, hsame.webSocketState]
      exact h.handle
    · simp only [handle, last_user s _ hu, hsame.lwsContext]
      exact h.nothing
  | iterate env => exact iterate_follows h env
  | callback cb =>
    cases hc : s.lwsContext with
    | false =>
      have hstep : step s (.callback cb) = s := by simp only [step, hc]; rfl
      refine ⟨?_, ?_⟩
      · simp only [handle, hstep, last_of_no_context hc]
        exact h.handle
      · simp only [handle, hstep, last_of_no_context hc]
        exact h.nothing
    | true =>
      have hstep : step s (.callback cb) = (lwsCallback cb s).2 := by simp only [step, hc, if_true]
      have hhandle : s.webSocketState.pWebSocket = m.last := h.handle (.inl hc)
      have hlast := lwsCallback_last hc cb
      rw [hhandle] at hlast
      refine ⟨fun _ => ?_, fun hnone => ?_⟩
      · simp only [handle, hstep]
        exact hlast
      · simp only [handle, hstep] at hnone
        by_cases herror : ∃ w ws, cb = .clientConnectionError w ws
        · obtain ⟨w, ws, rfl⟩ := herror
          simp only [handle, Event.last, hc]
          rfl
        · -- no other callback destroys the context
          have hcontext := lwsCallback_lwsContext (fun w ws he => herror ⟨w, ws, he⟩) s
          exact absurd (hnone.symm.trans (hcontext.trans hc)) Bool.false_ne_true

/-! ### Only live connections are used -/

/-- The next iteration executes a READ or a WRITE that finds itself connected. -/
def State.uses (s : State cfg) : Bool :=
  match s.taken.map OperationParam.opParam with
  | some (.read _ _) | some (.write _ _) => s.isConnected
  | _ => false

/-- A writable callback writes a part of the oldest payload, and asks for another callback. -/
def State.renews (s : State cfg) (env : WriteEnv) : Bool :=
  match s.writeOpCollection.peek with
  | some op => decide (op.buffer.remainToRead ≠ 0 ∧ op.outcome env = none)
  | none => false

/-- The step uses `pWebSocket_X`. -/
def Event.usesHandle (s : State cfg) : Event → Bool
  | .iterate _ => s.loop.running && s.uses
  | .callback (.writeable _ _ env) => s.lwsContext && s.renews env
  | _ => false

/-- The handle is a connection that has been admitted and has not closed. -/
def Connections.Live (m : Connections) (w : Option Wsi) : Prop := ∃ v ∈ m.admitted, w = some v

instance (m : Connections) (w : Option Wsi) : Decidable (m.Live w) := inferInstanceAs (Decidable (∃ _ ∈ _, _))

/-- A step that uses the handle finds a live connection in it. -/
def Event.UsesLive (p : Handled cfg) (e : Event) : Prop :=
  e.usesHandle p.1 = true → p.2.connections.Live p.1.webSocketState.pWebSocket

/-- A step that uses the handle comes while the last connection is live. -/
def Event.LastLive (p : Handled cfg) (e : Event) : Prop := e.usesHandle p.1 = true → p.2.connections.Live p.2.last

instance (p : Handled cfg) (e : Event) : Decidable (e.UsesLive p) := inferInstanceAs (Decidable (_ → _))

instance (p : Handled cfg) (e : Event) : Decidable (e.LastLive p) := inferInstanceAs (Decidable (_ → _))

/-- **A server uses live connections only** if and only if, each time, the last connection has been
admitted and has not closed. -/
theorem handles_live_iff (hserver : cfg.nbMaxClient ≠ 0) (es : List Event)
    (h : Meets handle (fun p e => e.Orderly p) (Handled.start : Handled cfg) es) :
    Meets handle (fun p e => e.UsesLive p) (Handled.start : Handled cfg) es ↔
      Meets handle (fun p e => e.LastLive p) (Handled.start : Handled cfg) es := by
  refine meets_iff (I := Follows) (fun p e hp _ => handle_follows p e hp) (fun p e hp _ => ?_) es _ start_follows h
  rw [Event.UsesLive, Event.LastLive, hp.handle (.inr hserver)]

/-- A client connects, and the server writes to it. -/
theorem handles_live_iff_one :
    Meets handle (fun p e => e.UsesLive p) (Handled.start : Handled server)
      (Event.execute 0 0 .listen ++ clientConnects 1 ['a'] ++ writeByte 1) := by
  have horderly : Meets handle (fun p e => e.Orderly p) (Handled.start : Handled server)
      (Event.execute 0 0 .listen ++ clientConnects 1 ['a'] ++ writeByte 1) := by decide +kernel
  have hlive : Meets handle (fun p e => e.LastLive p) (Handled.start : Handled server)
      (Event.execute 0 0 .listen ++ clientConnects 1 ['a'] ++ writeByte 1) := by decide +kernel
  exact (handles_live_iff (by decide) _ horderly).mpr hlive

/-- The only client closes, and the server writes to it. -/
theorem not_handles_live :
    ¬ ∀ (cfg : WebSocketParam) (es : List Event), cfg.nbMaxClient ≠ 0 →
      Meets handle (fun p e => e.Orderly p) (Handled.start : Handled cfg) es →
      Meets handle (fun p e => e.UsesLive p) (Handled.start : Handled cfg) es := by
  intro h
  have hclosed := h server
    (Event.execute 0 0 .listen ++ clientConnects 1 ['a'] ++ [.callback (.closed 1)] ++ writeByte 1) (by decide)
    (by decide +kernel)
  exact absurd hclosed (by decide +kernel)

/-! ### The assertions of the handshakes -/

/-- The assertion that the step evaluates holds. -/
def Event.Asserts (s : State cfg) : Event → Prop
  | .callback (.established w true _) =>
    s.lwsContext = true → s.webSocketState.pWebSocket = none ∨ s.webSocketState.pWebSocket = some w
  | .callback (.clientEstablished w true) => s.lwsContext = true → s.webSocketState.pWebSocket = some w
  | _ => True

/-- An ESTABLISHED follows its own binding, and a CLIENT_ESTABLISHED its own CONNECT, with no other
connection and no cancel in between; on a server a cancel does no harm. -/
def Event.Uninterrupted (p : Handled cfg) : Event → Prop
  | .callback (.established w true _) => p.1.lwsContext = true → p.2.last = none ∨ p.2.last = some w
  | .callback (.clientEstablished w true) => p.1.lwsContext = true → p.2.last = some w
  | _ => True

instance (s : State cfg) : (e : Event) → Decidable (e.Asserts s)
  | .callback (.established _ true _) => inferInstanceAs (Decidable (_ → _ ∨ _))
  | .callback (.clientEstablished _ true) => inferInstanceAs (Decidable (_ → _))
  | .callback (.established _ false _) | .callback (.clientEstablished _ false) => isTrue trivial
  | .callback (.closed _) | .callback (.clientClosed _) | .callback (.clientConnectionError _ _)
  | .callback (.httpBindProtocol _) | .callback (.addHeaders _ _) | .callback (.writeable _ _ _)
  | .callback (.receive _ _ _ _ _) | .callback (.other _) => isTrue trivial
  | .program _ _ _ | .collect | .cancelled | .clear | .reset | .cancel _ | .iterate _ => isTrue trivial

instance (p : Handled cfg) : (e : Event) → Decidable (e.Uninterrupted p)
  | .callback (.established _ true _) => inferInstanceAs (Decidable (_ → _ ∨ _))
  | .callback (.clientEstablished _ true) => inferInstanceAs (Decidable (_ → _))
  | .callback (.established _ false _) | .callback (.clientEstablished _ false) => isTrue trivial
  | .callback (.closed _) | .callback (.clientClosed _) | .callback (.clientConnectionError _ _)
  | .callback (.httpBindProtocol _) | .callback (.addHeaders _ _) | .callback (.writeable _ _ _)
  | .callback (.receive _ _ _ _ _) | .callback (.other _) => isTrue trivial
  | .program _ _ _ | .collect | .cancelled | .clear | .reset | .cancel _ | .iterate _ => isTrue trivial

theorem asserts_iff {p : Handled cfg} (h : Follows p) (e : Event) : e.Asserts p.1 ↔ e.Uninterrupted p := by
  have hhandle : p.1.lwsContext = true → p.1.webSocketState.pWebSocket = p.2.last := fun hc => h.handle (.inl hc)
  cases e with
  | callback cb =>
    cases cb with
    | established w b key =>
      cases b with
      | true => exact forall_congr' fun hc => by rw [hhandle hc]
      | false => exact Iff.rfl
    | clientEstablished w b =>
      cases b with
      | true => exact forall_congr' fun hc => by rw [hhandle hc]
      | false => exact Iff.rfl
    | httpBindProtocol w | addHeaders w key | writeable side w env | receive side w input final env | clientClosed w
    | closed w | clientConnectionError w ws | other w => exact Iff.rfl
  | program timeOut tick opParam => exact Iff.rfl
  | collect | cancel timeOut | cancelled | clear | reset | iterate env => exact Iff.rfl

/-- **The assertions hold** in a run if and only if each handshake is uninterrupted. -/
theorem assertions_hold_iff (es : List Event)
    (h : Meets handle (fun p e => e.Orderly p) (Handled.start : Handled cfg) es) :
    Meets handle (fun p e => e.Asserts p.1) (Handled.start : Handled cfg) es ↔
      Meets handle (fun p e => e.Uninterrupted p) (Handled.start : Handled cfg) es :=
  meets_iff (I := Follows) (fun p e hp _ => handle_follows p e hp) (fun _ e hp _ => asserts_iff hp e)
    es _ start_follows h

/-- Two clients, one after the other. -/
theorem assertions_hold_iff_two :
    Meets handle (fun p e => e.Asserts p.1) (Handled.start : Handled server)
      (Event.execute 0 0 .listen ++ clientConnects 1 ['a'] ++ clientConnects 2 ['b']) := by
  have horderly : Meets handle (fun p e => e.Orderly p) (Handled.start : Handled server)
      (Event.execute 0 0 .listen ++ clientConnects 1 ['a'] ++ clientConnects 2 ['b']) := by decide +kernel
  have huninterrupted : Meets handle (fun p e => e.Uninterrupted p) (Handled.start : Handled server)
      (Event.execute 0 0 .listen ++ clientConnects 1 ['a'] ++ clientConnects 2 ['b']) := by decide +kernel
  exact (assertions_hold_iff _ horderly).mpr huninterrupted

/-- The second client is bound before the first one is established. -/
theorem not_assertions_hold :
    ¬ ∀ (cfg : WebSocketParam) (es : List Event),
      Meets handle (fun p e => e.Orderly p) (Handled.start : Handled cfg) es →
      Meets handle (fun p e => e.Asserts p.1) (Handled.start : Handled cfg) es := by
  intro h
  have hoverlap := h server
    (Event.execute 0 0 .listen ++ [.callback (.httpBindProtocol 1)] ++ clientConnects 2 ['b'] ++ [
      .callback (.established 1 true ['a'])]) (by decide +kernel)
  exact absurd hoverlap (by decide +kernel)

end BofWebRpc.WebSocket
