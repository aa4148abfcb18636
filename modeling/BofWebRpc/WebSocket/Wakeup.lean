import BofWebRpc.WebSocket.Connections

/-!
# Wake-ups

`lws_service` sleeps until something happens on the network, or until
`lws_cancel_service` wakes it up. `ProgramWebSocketOperation` does so after its push, if it finds
a context; `CancelWebSocketOperation` does not.

## The model

`V_OnProcessing` is cut into the steps between which a call of the user can come: `Phase` is
the place where the thread is, and `advance` takes it to the next one. A call of
`ProgramWebSocketOperation` has three steps: the push, the test of `mpLwsContext_X`, and
`lws_cancel_service`. A wake-up is remembered until `lws_service` returns, or
longer if it comes at the last moment. A thread whose context is destroyed by a
callback leaves `lws_service`.

## What is proved

* `advance_iterate` — the steps of the thread, one after the other, are an iteration.
* `wakeups_kept` — inside `lws_service` no command and no cancel is left without a wake-up, in every run
  in which each command is popped alone, each context is created without a command waiting,
  and each cancel comes while the thread will still look at the flag, unless a wake-up is under way.
-/

namespace BofWebRpc.WebSocket

open Runs

variable {cfg : WebSocketParam}

/-! ### The thread -/

/-- Where the thread of `V_OnProcessing` is. -/
inductive Phase where
  /-- At the head of the loop. -/
  | top
  /-- Inside `lws_service`. -/
  | service
  /-- Before `Pop`. -/
  | pop
  /-- After `Pop`; `NewCommandRcv_B`. -/
  | command (newCommandRcv : Bool)
  /-- Before `if (IoPending_B)`. -/
  | pending
  /-- Before `if (mCancel_B)`. -/
  | cancel
  /-- Before `if (SendResult_B)`. -/
  | send
  deriving DecidableEq

/-- The engine, its thread, and the wake-ups. -/
structure Threaded (cfg : WebSocketParam) where
  engine : State cfg
  phase : Phase
  /-- `lws_cancel_service` has been called for `mpLwsContext_X`, and `lws_service` has not returned since. -/
  wakeUp : Bool
  /-- The calls of `ProgramWebSocketOperation` between their push and their test of `mpLwsContext_X`. -/
  testing : ℕ
  /-- Those between a test that found a context and `lws_cancel_service`. -/
  waking : ℕ

/-- A `BofWebSocket` whose thread has just started. -/
def Threaded.start : Threaded cfg := { engine := .start, phase := .top, wakeUp := false, testing := 0, waking := 0 }

/-- The thread has come to the given phase; the wake-ups of a context that is gone are gone. -/
def Threaded.reach (p : Threaded cfg) (s : State cfg) (phase : Phase) : Threaded cfg :=
  { p with engine := s, phase := phase, wakeUp := p.wakeUp && s.lwsContext }

/-- `if ((!IoPending_B) || (ListeningMode_B)) { .. }` -/
def State.execute (s : State cfg) (newCommandRcv : Bool) (env : LoopEnv) : State cfg :=
  if newCommandRcv && (!s.loop.ioPending || s.loop.listeningMode) then s.takeCommand env else s

/-- One step of the thread. A wake-up that comes when `lws_service` returns anyway may be kept. -/
def Threaded.advance (p : Threaded cfg) (env : LoopEnv) (kept : Bool) : Threaded cfg :=
  let s := p.engine
  match p.phase with
  | .top => if s.loop.running then { p with phase := if s.lwsContext then .service else .pop } else p
  | .service => { p with phase := .pop, wakeUp := p.wakeUp && kept }
  | .pop => p.reach s.popNextOp.2 (.command s.popNextOp.1)
  | .command newCommandRcv => p.reach (s.execute newCommandRcv env) .pending
  | .pending => p.reach (if s.loop.ioPending then s.pendingOperation env else s) .cancel
  | .cancel => p.reach (if s.cancel then s.cancelBlock else s) .send
  | .send => p.reach ((if s.loop.sendResult then s.sendResult env else s).loopEnd env) .top

/-- What can happen next. -/
inductive ThreadEvent where
  /-- A call of the user; of `ProgramWebSocketOperation` the part up to its push. -/
  | user (e : Event)
  /-- `if (mpLwsContext_X)` in `BOF_LWS_WAKEUP_SERVICE`. -/
  | test
  /-- `lws_cancel_service(mpLwsContext_X)` in `BOF_LWS_WAKEUP_SERVICE`. -/
  | wakeUp
  /-- A callback inside `lws_service`. -/
  | callback (cb : Callback)
  /-- The thread takes a step. -/
  | thread (env : LoopEnv) (kept : Bool)

/-- One event. -/
def interleave (p : Threaded cfg) : ThreadEvent → Threaded cfg
  | .user e =>
    if e.isUser then
      { p with engine := step p.engine e, testing := if e.pushes p.engine then p.testing + 1 else p.testing }
    else p
  | .test =>
    if p.testing = 0 then p
    else { p with testing := p.testing - 1, waking := if p.engine.lwsContext then p.waking + 1 else p.waking }
  | .wakeUp => if p.waking = 0 then p else { p with waking := p.waking - 1, wakeUp := p.engine.lwsContext }
  | .callback cb =>
    if p.phase = .service ∧ p.engine.lwsContext = true then
      p.reach (lwsCallback cb p.engine).2 (if (lwsCallback cb p.engine).2.lwsContext then .service else .pop)
    else p
  | .thread env kept => p.advance env kept

/-- **The steps of the thread** from `Pop` to the end of the loop are an iteration. -/
theorem advance_iterate {p : Threaded cfg} (hphase : p.phase = .pop) (hrun : p.engine.loop.running = true)
    (env : LoopEnv) (kept : Bool) :
    (exec interleave p (List.replicate 5 (.thread env kept))).engine = p.engine.iterate env ∧
      (exec interleave p (List.replicate 5 (.thread env kept))).phase = .top := by
  obtain ⟨s, phase, wakeUp, testing, waking⟩ := p
  subst hphase
  have hrun : s.loop.running = true := hrun
  have hiterate : s.iterate env =
      (exec interleave ⟨s, .pop, wakeUp, testing, waking⟩ (List.replicate 5 (.thread env kept))).engine := by
    simp only [State.iterate, hrun, if_true]
    rfl
  exact ⟨hiterate.symm, rfl⟩

/-! ### What is promised, and its condition -/

/-- A wake-up is pending for the context, or a call is in progress that will still issue one. -/
def Threaded.UnderWay (p : Threaded cfg) : Prop := p.wakeUp = true ∨ 0 < p.testing + p.waking

instance (p : Threaded cfg) : Decidable p.UnderWay := inferInstanceAs (Decidable (_ ∨ _))

/-- A thread inside `lws_service` that should look at a command or at a cancel will be woken up. -/
def Awaited (p : Threaded cfg) : Prop :=
  p.phase = .service → p.engine.paramCollection.elements ≠ [] ∨ p.engine.cancel = true → p.UnderWay

instance (p : Threaded cfg) : Decidable (Awaited p) := inferInstanceAs (Decidable (_ → _ → _))

/-- The event is a `CancelWebSocketOperation` that raises the flag. -/
def Event.raises (s : State cfg) : Event → Bool
  | .cancel _ => !s.cancel
  | _ => false

/-- The thread has passed the test of `mCancel_B`, and there is a context: it will enter `lws_service`, or is
inside, before it looks at the flag again. -/
def Threaded.Passed (p : Threaded cfg) : Prop :=
  p.engine.lwsContext = true ∧ (p.phase = .send ∨ p.phase = .top ∨ p.phase = .service)

instance (p : Threaded cfg) : Decidable p.Passed := inferInstanceAs (Decidable (_ ∧ _))

/-- The current command is a LISTEN or a CONNECT that passes its check, and `lws_create_context` succeeds. -/
def State.createsContext (s : State cfg) (env : LoopEnv) : Bool :=
  match s.loop.currentOp.opParam with
  | .listen => decide (cfg.nbMaxClient ≠ 0) && !s.loop.listeningMode && !s.lwsContext && env.createContext
  | .connect wsCltKey => decide (cfg.nbMaxClient = 0) && decide (s.canConnect wsCltKey) && env.createContext
  | _ => false

/-- What has to be done needs no wake-up, or one is under way: a cancel comes before the thread has passed its
test, a command is popped alone, a context is created when no command waits. -/
def ThreadEvent.NeedsNone (p : Threaded cfg) : ThreadEvent → Prop
  | .user e => e.raises p.engine = true → p.Passed → p.UnderWay
  | .thread env _ =>
    match p.phase with
    | .pop => p.engine.lwsContext = true → p.engine.paramCollection.elements.length ≤ 1 ∨ p.UnderWay
    | .command newCommandRcv => newCommandRcv = true → p.engine.createsContext env = true →
        p.engine.paramCollection.elements = [] ∨ p.UnderWay
    | _ => True
  | _ => True

instance (p : Threaded cfg) : (e : ThreadEvent) → Decidable (e.NeedsNone p)
  | .user _ => inferInstanceAs (Decidable (_ → _ → _))
  | .thread env _ => by
    unfold ThreadEvent.NeedsNone
    exact match p.phase with
      | .pop => inferInstanceAs (Decidable (_ → _))
      | .command _ => inferInstanceAs (Decidable (_ → _ → _))
      | .top | .service | .pending | .cancel | .send => isTrue trivial
  | .test | .wakeUp | .callback _ => isTrue trivial

/-! ### What the thread leaves alone -/

/-- A context that exists after a command existed before, or is created by it. -/
theorem command_lwsContext {s : State cfg} {env : LoopEnv} (h : (s.command env).lwsContext = true) :
    s.lwsContext = true ∨ s.createsContext env = true := by
  have hgone : ∀ t : State cfg, (t.clientDisconnect env.destroying).lwsContext ≠ true := fun t =>
    ne_true_of_eq_false (clientDisconnect_lwsContext t env.destroying)
  unfold State.command at h
  unfold State.createsContext
  split at h
  · next hop =>
    rw [hop]
    simp only [State.commandListen] at h
    split_ifs at h with hmode hfree hcreate
    · exact .inl h
    · exact .inr (by simp [hmode, hfree, hcreate])
    · exact absurd h (hgone _)
    · exact .inl h
  · next key hop =>
    rw [hop]
    rw [State.commandConnect] at h
    split at h
    · exact .inl h
    · next hmode =>
      split at h
      · next hcan =>
        split at h
        · next hcreate => exact .inr (by simp [not_not.mp hmode, hcan, hcreate])
        · exact absurd h (hgone s)
      · exact .inl h
  · simp only [State.commandDisconnect] at h
    split_ifs at h
    · exact .inl h
    · exact absurd h (hgone s)
    · exact .inl h
  · exact .inl h
  · exact .inl h
  · rcases commandWrite_cases s env _ _ with ⟨sts, -, he⟩ | ⟨data, q, -, -, he⟩
    · rw [he] at h
      exact .inl h
    · rw [he] at h
      exact .inl h
  · exact .inl h

theorem execute_paramCollection (s : State cfg) (newCommandRcv : Bool) (env : LoopEnv) :
    (s.execute newCommandRcv env).paramCollection = s.paramCollection := by
  simp only [State.execute]
  split_ifs
  · rw [takeCommand_eq]
    exact (command_sameUser (s.beginCommand env) env).paramCollection
  · rfl

theorem execute_lwsContext {s : State cfg} {newCommandRcv : Bool} {env : LoopEnv}
    (h : (s.execute newCommandRcv env).lwsContext = true) :
    s.lwsContext = true ∨ (newCommandRcv = true ∧ s.createsContext env = true) := by
  simp only [State.execute] at h
  split_ifs at h with htaken
  · rw [takeCommand_eq] at h
    rw [Bool.and_eq_true] at htaken
    exact (command_lwsContext h).imp id fun hcreates => ⟨htaken.1, hcreates⟩
  · exact .inl h

/-- A command that is popped leaves the others. -/
theorem popNextOp_same (s : State cfg) :
    s.popNextOp.2.lwsContext = s.lwsContext ∧ s.popNextOp.2.cancel = s.cancel ∧
      s.popNextOp.2.paramCollection.elements.length = s.paramCollection.elements.length - 1 := by
  cases hpeek : s.paramCollection.peek with
  | none =>
    have hnil := Fifo.peek_eq_none_iff.mp hpeek
    simp [State.popNextOp, Fifo.pop, hpeek, hnil]
  | some op =>
    have hcons := Fifo.peek_eq_some_iff.mp hpeek
    refine ⟨by simp [State.popNextOp, Fifo.pop, hpeek], by simp [State.popNextOp, Fifo.pop, hpeek], ?_⟩
    rw [hcons]
    simp [State.popNextOp, Fifo.pop, hpeek]

/-- A call of the user that pushes nothing brings no command. -/
theorem user_paramCollection {s : State cfg} {e : Event} (hu : e.isUser = true) (hpushes : e.pushes s = false)
    (h : (step s e).paramCollection.elements ≠ []) : s.paramCollection.elements ≠ [] := by
  obtain ⟨op, hop⟩ := List.exists_mem_of_ne_nil _ h
  rcases (step_userCalled s hu).mem_paramCollection hop with hold | hnew
  · exact List.ne_nil_of_mem hold
  · rw [queues_eq_nil hpushes] at hnew
    exact absurd hnew List.not_mem_nil

/-- Only `CancelWebSocketOperation` raises the flag. -/
theorem user_cancel {s : State cfg} {e : Event} (hu : e.isUser = true) (h : (step s e).cancel = true) :
    s.cancel = true ∨ e.raises s = true := by
  by_cases hraise : ∃ timeOut, e = .cancel timeOut
  · obtain ⟨timeOut, rfl⟩ := hraise
    cases hc : s.cancel with
    | true => exact .inl rfl
    | false => exact .inr (by simp only [Event.raises, hc, Bool.not_false])
  · exact .inl ((step_userCalled s hu).cancel (fun timeOut he => hraise ⟨timeOut, he⟩) h)

/-! ### The invariant -/

/-- No command waits in the queue of a thread that has a context and does not pop next, and no cancel waits for a
thread that has passed its test, unless a wake-up is under way. -/
structure Roused (p : Threaded cfg) : Prop where
  serving : p.phase = .service → p.engine.lwsContext = true
  alone : p.engine.lwsContext = false → p.wakeUp = false
  queued : p.engine.lwsContext = true → p.phase ≠ .pop → p.engine.paramCollection.elements ≠ [] → p.UnderWay
  cancelled : p.Passed → p.engine.cancel = true → p.UnderWay

theorem Roused.awaited {p : Threaded cfg} (h : Roused p) : Awaited p := by
  intro hservice hwork
  have hctx := h.serving hservice
  rcases hwork with hqueue | hcancel
  · exact h.queued hctx (by rw [hservice]; rintro ⟨⟩) hqueue
  · exact h.cancelled ⟨hctx, .inr (.inr hservice)⟩ hcancel

theorem start_roused : Roused (Threaded.start : Threaded cfg) :=
  ⟨by rintro ⟨⟩, fun _ => rfl, by rintro ⟨⟩, fun hpassed => absurd hpassed.1 Bool.false_ne_true⟩

/-- What is under way stays so, as long as there is a context. -/
theorem Threaded.UnderWay.reach {p : Threaded cfg} (h : p.UnderWay) {s : State cfg} (hctx : s.lwsContext = true)
    (phase : Phase) : (p.reach s phase).UnderWay := by
  refine h.imp (fun hw => ?_) id
  simp only [Threaded.reach, hw, hctx, Bool.and_self]

theorem reach_alone (p : Threaded cfg) {s : State cfg} (phase : Phase) (h : s.lwsContext = false) :
    (p.reach s phase).wakeUp = false := by
  simp only [Threaded.reach, h, Bool.and_false]

/-- The thread comes to another place, outside `lws_service`. -/
theorem Roused.reach {p : Threaded cfg} {s : State cfg} {phase : Phase} (hservice : phase ≠ .service)
    (hqueued : s.lwsContext = true → phase ≠ .pop → s.paramCollection.elements ≠ [] → p.UnderWay)
    (hcancelled : s.lwsContext = true → phase = .send ∨ phase = .top → s.cancel = true → p.UnderWay) :
    Roused (p.reach s phase) := by
  refine ⟨fun h => absurd h hservice, reach_alone p phase, ?_, ?_⟩
  · exact fun hctx hphase hqueue => (hqueued hctx hphase hqueue).reach hctx phase
  · rintro ⟨hctx, hphase⟩ hcancel
    have hphase : phase = .send ∨ phase = .top := hphase.imp id (Or.resolve_right · hservice)
    exact (hcancelled hctx hphase hcancel).reach hctx phase

/-- **A step of the thread.** -/
theorem advance_roused {p : Threaded cfg} (h : Roused p) (env : LoopEnv) (kept : Bool)
    (hneeds : (ThreadEvent.thread env kept).NeedsNone p) : Roused (p.advance env kept) := by
  obtain ⟨s, phase, wakeUp, testing, waking⟩ := p
  cases phase with
  | top =>
    simp only [Threaded.advance]
    split_ifs with hrun hctx
    · exact ⟨fun _ => hctx, h.alone, fun hc _ hq => h.queued hc (fun he => by cases he) hq,
        fun hpassed hcancel => h.cancelled ⟨hctx, .inr (.inl rfl)⟩ hcancel⟩
    · exact ⟨by rintro ⟨⟩, h.alone, fun _ hpop => absurd rfl hpop, fun hpassed => absurd hpassed.1 hctx⟩
    · exact h
  | service =>
    refine ⟨by rintro ⟨⟩, fun hctx => ?_, fun _ hpop => absurd rfl hpop,
      fun hpassed => absurd hpassed.2 (by simp [Threaded.advance])⟩
    exact absurd (h.serving rfl) (ne_true_of_eq_false hctx)
  | pop =>
    obtain ⟨hctx, -, hlength⟩ := popNextOp_same s
    refine Roused.reach (fun he => by cases he) (fun hc _ hqueue => ?_) (fun _ hphase => absurd hphase (by simp))
    refine (hneeds (hctx ▸ hc)).resolve_left fun hone => hqueue ?_
    have hone : s.paramCollection.elements.length ≤ 1 := hone
    have hnone : s.popNextOp.2.paramCollection.elements.length = 0 := by omega
    exact List.eq_nil_of_length_eq_zero hnone
  | command newCommandRcv =>
    have hsame := execute_paramCollection s newCommandRcv env
    refine Roused.reach (fun he => by cases he) (fun hc _ hqueue => ?_) (fun _ hphase => absurd hphase (by simp))
    rw [hsame] at hqueue
    rcases execute_lwsContext hc with hctx | ⟨hrcv, hcreates⟩
    · exact h.queued hctx (fun he => by cases he) hqueue
    · exact (hneeds hrcv hcreates).resolve_left hqueue
  | pending =>
    refine Roused.reach (fun he => by cases he) (fun hc _ hqueue => ?_) (fun _ hphase => absurd hphase (by simp))
    split_ifs at hc hqueue
    · rw [(pendingOperation_same s env).1.paramCollection] at hqueue
      rcases pendingOperation_shuts s env with ⟨hctx, -⟩ | ⟨-, hgone, -⟩
      · exact h.queued (hctx.symm.trans hc) (fun he => by cases he) hqueue
      · exact absurd hc (ne_true_of_eq_false hgone)
    · exact h.queued hc (fun he => by cases he) hqueue
  | cancel =>
    refine Roused.reach (fun he => by cases he) (fun hc _ hqueue => ?_) (fun hc _ hcancel => ?_)
    · split_ifs at hc hqueue
      · exact absurd rfl hqueue
      · exact h.queued hc (fun he => by cases he) hqueue
    · split_ifs at hcancel with hnot
      · cases hcancel
      · exact absurd hcancel hnot
  | send =>
    have hsend : (if s.loop.sendResult then s.sendResult env else s).lwsContext = s.lwsContext ∧
        (if s.loop.sendResult then s.sendResult env else s).paramCollection = s.paramCollection ∧
        (if s.loop.sendResult then s.sendResult env else s).cancel = s.cancel := by
      split_ifs
      · obtain ⟨time, q, pushed, notified, he, -⟩ := sendResult_eq s env
        rw [he]
        exact ⟨rfl, rfl, rfl⟩
      · exact ⟨rfl, rfl, rfl⟩
    simp only [Threaded.advance]
    generalize (if s.loop.sendResult then s.sendResult env else s) = t at hsend ⊢
    obtain ⟨hctx, hqueue', hcancel'⟩ := hsend
    have hsame := (loopEnd_same t env).1
    have hkept : (t.loopEnd env).lwsContext = true → s.lwsContext = true := by
      intro hc
      rcases loopEnd_shuts t env with ⟨hend, -⟩ | ⟨-, hgone, -⟩
      · exact hctx.symm.trans (hend.symm.trans hc)
      · exact absurd hc (ne_true_of_eq_false hgone)
    refine Roused.reach (fun he => by cases he) (fun hc _ hqueue => ?_) (fun hc _ hcancel => ?_)
    · rw [hsame.paramCollection, hqueue'] at hqueue
      exact h.queued (hkept hc) (fun he => by cases he) hqueue
    · rw [hsame.cancel, hcancel'] at hcancel
      exact h.cancelled ⟨hkept hc, .inl rfl⟩ hcancel

/-- **One event** of the thread, of the user, or inside `lws_service`. -/
theorem interleave_roused (p : Threaded cfg) (e : ThreadEvent) (h : Roused p) (hneeds : e.NeedsNone p) :
    Roused (interleave p e) := by
  cases e with
  | user e =>
    by_cases hu : e.isUser = true
    · have hctx := (step_sameEngine p.engine hu).lwsContext
      simp only [interleave, hu, if_true]
      -- a push is a call under way, and nothing that was under way is lost
      have hkept : p.UnderWay → ({ p with
          engine := step p.engine e
          testing := if e.pushes p.engine then p.testing + 1 else p.testing } : Threaded cfg).UnderWay := by
        refine fun hw => hw.imp id fun hcalls => ?_
        dsimp only
        split_ifs <;> omega
      refine ⟨fun hservice => hctx.trans (h.serving hservice), fun hnone => h.alone (hctx.symm.trans hnone), ?_, ?_⟩
      · intro hc hphase hqueue
        by_cases hpushes : e.pushes p.engine = true
        · refine .inr ?_
          simp only [hpushes, if_true]
          omega
        · have hwaiting := user_paramCollection hu (Bool.eq_false_iff.mpr hpushes) hqueue
          exact hkept (h.queued (hctx.symm.trans hc) hphase hwaiting)
      · rintro ⟨hc, hphase⟩ hcancel
        have hpassed : p.Passed := ⟨hctx.symm.trans hc, hphase⟩
        rcases user_cancel hu hcancel with hold | hraises
        · exact hkept (h.cancelled hpassed hold)
        · exact hkept (hneeds hraises hpassed)
    · rw [interleave, if_neg hu]
      exact h
  | test =>
    simp only [interleave]
    split_ifs with hnone hctx
    · exact h
    · have hkept : p.UnderWay → ({ p with testing := p.testing - 1, waking := p.waking + 1 } : Threaded cfg).UnderWay :=
        fun hw => hw.imp id fun _ => Nat.lt_of_lt_of_le (Nat.succ_pos p.waking) (Nat.le_add_left _ _)
      exact ⟨h.serving, h.alone, fun hc hphase hqueue => hkept (h.queued hc hphase hqueue),
        fun hpassed hcancel => hkept (h.cancelled hpassed hcancel)⟩
    · exact ⟨h.serving, h.alone, fun hc => absurd hc hctx, fun hpassed => absurd hpassed.1 hctx⟩
  | wakeUp =>
    simp only [interleave]
    split_ifs with hnone
    · exact h
    · exact ⟨h.serving, id, fun hc _ _ => .inl hc, fun hpassed _ => .inl hpassed.1⟩
  | callback cb =>
    simp only [interleave]
    split_ifs with hservice hctx
    · -- the context is kept, and the queue and the flag are the user's
      have hsame := (lwsCallback_same cb p.engine).toSameUser
      have hpassed : p.Passed := ⟨hservice.2, .inr (.inr hservice.1)⟩
      refine ⟨fun _ => hctx, reach_alone p .service, fun hc _ hqueue => ?_, fun _ hcancel => ?_⟩
      · refine (h.queued hservice.2 (by rw [hservice.1]; rintro ⟨⟩) ?_).reach hc _
        simp only [Threaded.reach, hsame.paramCollection] at hqueue
        exact hqueue
      · refine (h.cancelled hpassed ?_).reach hctx _
        simp only [Threaded.reach, hsame.cancel] at hcancel
        exact hcancel
    · refine Roused.reach (fun he => by cases he) (fun hc => absurd hc hctx) (fun hc => absurd hc hctx)
    · exact h
  | thread env kept => exact advance_roused h env kept hneeds

/-- **No wake-up is lost** in a run that needs none but those of `ProgramWebSocketOperation`. -/
theorem wakeups_kept (es : List ThreadEvent)
    (h : Meets interleave (fun p e => e.NeedsNone p) (Threaded.start : Threaded cfg) es) :
    Awaited (exec interleave (Threaded.start : Threaded cfg) es) :=
  (exec_inv interleave_roused es _ start_roused h).awaited

/-- A CONNECT is programmed and executed, and the thread enters `lws_service`. -/
def connectsAndServes : List ThreadEvent :=
  [.user (.program 1000 0 (.connect ['k'])), .test] ++ List.replicate 7 (.thread (.at 0 1) false)

/-- A READ is programmed while the thread is inside `lws_service`. -/
theorem wakeups_kept_read :
    Awaited (exec interleave (Threaded.start : Threaded client)
      (connectsAndServes ++ [.user (.program 1000 0 (.read 1 true)), .test, .wakeUp])) := by
  have hneeds : Meets interleave (fun p e => e.NeedsNone p) (Threaded.start : Threaded client)
      (connectsAndServes ++ [.user (.program 1000 0 (.read 1 true)), .test, .wakeUp]) := by decide +kernel
  exact wakeups_kept _ hneeds

/-- A cancel comes while the thread is inside `lws_service`: nothing wakes it up. -/
theorem not_wakeups_kept :
    ¬ ∀ (cfg : WebSocketParam) (es : List ThreadEvent),
      Awaited (exec interleave (Threaded.start : Threaded cfg) es) := by
  intro h
  have hasleep := h client (connectsAndServes ++ [.user (.cancel 1000)])
  exact absurd hasleep (by decide +kernel)

end BofWebRpc.WebSocket
