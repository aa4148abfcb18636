import BofWebRpc.WebSocket.Results

/-!
# Reports

A result is pushed on `mpuSocketOperationResultCollection`, and then `OnOperation` is called, with the
operation and the ticket of `mCurrentOp_X` and the status of the push.

## What is proved

* `report_announced_iff` — a push and its call say the same when the operation is the one of the result, and
  has succeeded.
* `beforeCancel_sameReports`, `loopEnd_sameReports` — an iteration reports only when it sends its result.
* `command_succeeds_iff` — when a command succeeds.
-/

namespace BofWebRpc.WebSocket

variable {cfg : WebSocketParam}

/-! ### A push and a call -/

/-- The call of `OnOperation` that says what the result says. -/
def OperationResult.note (r : OperationResult) : Notification := ⟨r.operation, r.opTicket, r.size, r.buffer, r.sts⟩

/-- What has been pushed from `s` to `t` has been announced, each result once, and nothing else. -/
def Announced (s t : State cfg) : Prop :=
  ∃ new, t.history.pushed = s.history.pushed ++ new ∧
    t.history.notified = s.history.notified ++ new.map OperationResult.note

/-- Nothing has been pushed or announced. -/
structure SameReports (s t : State cfg) : Prop where
  pushed : t.history.pushed = s.history.pushed
  notified : t.history.notified = s.history.notified

theorem SameReports.refl (s : State cfg) : SameReports s s := ⟨rfl, rfl⟩

theorem SameReports.trans {s t u : State cfg} (h : SameReports s t) (h' : SameReports t u) : SameReports s u :=
  ⟨h'.pushed.trans h.pushed, h'.notified.trans h.notified⟩

theorem SameReports.announced {s t : State cfg} (h : SameReports s t) : Announced s t :=
  ⟨[], by rw [h.pushed, List.append_nil], by rw [h.notified, List.map_nil, List.append_nil]⟩

/-- Steps that report nothing do not matter. -/
theorem announced_congr {s s' t t' : State cfg} (h : SameReports s s') (h' : SameReports t t') :
    Announced s t ↔ Announced s' t' := by
  rw [Announced, Announced, h.pushed, h.notified, h'.pushed, h'.notified]

/-- **A push and its call agree** when the call is made for the operation of the result, and that has succeeded. -/
theorem report_announced_iff (hset : cfg.onOperation = true) {s : State cfg}
    (hroom : s.resultCollection.elements.length < cfg.nbMaxOperationPending + 1) (r : OperationResult)
    (operation : SocketOperation) (ticket : ℕ) :
    Announced s (s.report r operation ticket) ↔ operation = r.operation ∧ ticket = r.opTicket ∧ r.sts = .noError := by
  have hreport : (s.report r operation ticket).history.pushed = s.history.pushed ++ [r] ∧
      (s.report r operation ticket).history.notified =
        s.history.notified ++ [⟨operation, ticket, r.size, r.buffer, .noError⟩] := by
    cases hq : s.resultCollection.push r with
    | none => exact absurd (Fifo.push_eq_none_iff.mp hq) (Nat.not_le.mpr hroom)
    | some q =>
      simp only [State.report, State.pushResult, hq, State.notify, hset, if_true, and_self]
  constructor
  · rintro ⟨new, hpushed, hnotified⟩
    rw [hreport.1, List.append_cancel_left_eq] at hpushed
    rw [hreport.2, ← hpushed, List.map_singleton, List.append_cancel_left_eq, List.singleton_inj] at hnotified
    have hoperation := congrArg Notification.operation hnotified
    have hticket := congrArg Notification.ticket hnotified
    have hsts := congrArg Notification.sts hnotified
    exact ⟨hoperation, hticket, hsts.symm⟩
  · rintro ⟨rfl, rfl, hsts⟩
    refine ⟨[r], hreport.1, ?_⟩
    rw [hreport.2, List.map_singleton, OperationResult.note, hsts]

/-! ### What reports nothing -/

theorem foldl_onClose_sameReports (ws : List Wsi) (s : State cfg) : SameReports s (ws.foldl State.onClose s) := by
  induction ws generalizing s with
  | nil => exact .refl s
  | cons w ws ih =>
    refine SameReports.trans ?_ (ih (s.onClose w))
    simp only [State.onClose]
    split_ifs <;> exact ⟨rfl, rfl⟩

theorem clientDisconnect_sameReports (s : State cfg) (ws : List Wsi) : SameReports s (s.clientDisconnect ws) := by
  obtain ⟨hpushed, hnotified⟩ := foldl_onClose_sameReports ws s
  simp only [State.clientDisconnect]
  split_ifs
  · exact ⟨hpushed, hnotified⟩
  · exact ⟨rfl, rfl⟩

/-- A writable callback. -/
def Callback.isWriteable : Callback → Bool
  | .writeable _ _ _ => true
  | _ => false

/-- Only a writable callback reports, and changes the queue of results. -/
theorem lwsCallback_sameReports {cb : Callback} (h : cb.isWriteable = false) (s : State cfg) :
    SameReports s (lwsCallback cb s).2 ∧ (lwsCallback cb s).2.resultCollection = s.resultCollection := by
  have hquiet : ∀ side w env, cb ≠ .writeable side w env := by
    rintro side w env rfl
    cases h
  refine ⟨⟨(lwsCallback_sameWrites hquiet s).pushed, ?_⟩, (lwsCallback_sameWrites hquiet s).resultCollection⟩
  cases cb with
  | httpBindProtocol w => rfl
  | addHeaders w key => rfl
  | established w bufferSize key =>
    simp only [lwsCallback, State.onEstablished]
    split_ifs <;> rfl
  | clientEstablished w bufferSize => cases bufferSize <;> rfl
  | writeable side w env => cases h
  | receive side w input final env =>
    simp only [lwsCallback, State.onReceive, State.onMessageComplete]
    split
    · split_ifs <;> rfl
    · rfl
  | clientClosed w => rfl
  | closed w => rfl
  | clientConnectionError w ws =>
    exact (clientDisconnect_sameReports
      ({ s with history.errors := if cfg.onError then s.history.errors + 1 else s.history.errors } : State cfg)
        ws).notified
  | other w => rfl

theorem callbacks_sameReports {cbs : List Callback} (h : ∀ cb ∈ cbs, cb.isWriteable = false) (s : State cfg) :
    SameReports s (callbacks cbs s) ∧ (callbacks cbs s).resultCollection = s.resultCollection := by
  induction cbs generalizing s with
  | nil => exact ⟨.refl s, rfl⟩
  | cons cb cbs ih =>
    obtain ⟨hsame, hresults⟩ := lwsCallback_sameReports (h cb List.mem_cons_self) s
    obtain ⟨hsame', hresults'⟩ := ih (fun c hc => h c (List.mem_cons_of_mem cb hc)) (lwsCallback cb s).2
    exact ⟨hsame.trans hsame', hresults'.trans hresults⟩

/-- A command reports nothing, if no writable callback runs inside `lws_client_connect_via_info`. -/
theorem command_sameReports (s : State cfg) (env : LoopEnv) (h : ∀ cb ∈ env.connecting, cb.isWriteable = false) :
    SameReports s (s.command env) ∧ (s.command env).resultCollection = s.resultCollection := by
  have hgone : ∀ t : State cfg, SameReports t (t.clientDisconnect env.destroying) ∧
      (t.clientDisconnect env.destroying).resultCollection = t.resultCollection := fun t =>
    ⟨clientDisconnect_sameReports t env.destroying, (clientDisconnect_same t env.destroying).2.resultCollection⟩
  unfold State.command
  split
  · simp only [State.commandListen]
    split_ifs
    · exact ⟨⟨rfl, rfl⟩, rfl⟩
    · exact ⟨⟨rfl, rfl⟩, rfl⟩
    · obtain ⟨hsame, hresults⟩ := hgone { s with webSocketState.connectDone := false }
      exact ⟨⟨hsame.pushed, hsame.notified⟩, hresults⟩
    · exact ⟨⟨rfl, rfl⟩, rfl⟩
  · rw [State.commandConnect]
    split
    · exact ⟨⟨rfl, rfl⟩, rfl⟩
    · split
      · split
        · obtain ⟨hsame, hresults⟩ := callbacks_sameReports h ({ s with lwsContext := true } : State cfg)
          exact ⟨⟨hsame.pushed, hsame.notified⟩, hresults⟩
        · obtain ⟨hsame, hresults⟩ := hgone s
          exact ⟨⟨hsame.pushed, hsame.notified⟩, hresults⟩
      · exact ⟨⟨rfl, rfl⟩, rfl⟩
  · simp only [State.commandDisconnect]
    split_ifs
    · exact ⟨⟨rfl, rfl⟩, rfl⟩
    · obtain ⟨hsame, hresults⟩ := hgone s
      exact ⟨⟨hsame.pushed, hsame.notified⟩, hresults⟩
    · exact ⟨⟨rfl, rfl⟩, rfl⟩
  · exact ⟨⟨rfl, rfl⟩, rfl⟩
  · exact ⟨⟨rfl, rfl⟩, rfl⟩
  · rcases commandWrite_cases s env _ _ with ⟨sts, -, he⟩ | ⟨data, q, -, -, he⟩ <;> rw [he] <;> exact ⟨⟨rfl, rfl⟩, rfl⟩
  · exact ⟨⟨rfl, rfl⟩, rfl⟩

theorem newCommand_sameReports (s : State cfg) (env : LoopEnv) (h : ∀ cb ∈ env.connecting, cb.isWriteable = false) :
    SameReports s (s.newCommand env) ∧ (s.newCommand env).resultCollection = s.resultCollection := by
  rcases newCommand_cases s env with ⟨-, he⟩ | ⟨op, -, ⟨-, -, he⟩ | ⟨-, he⟩⟩
  · rw [he]
    exact ⟨⟨rfl, rfl⟩, rfl⟩
  · rw [he]
    exact ⟨⟨rfl, rfl⟩, rfl⟩
  · obtain ⟨⟨hpushed, hnotified⟩, hresults⟩ := command_sameReports ((s.popped op).beginCommand env) env h
    rw [he, takeCommand_eq]
    exact ⟨⟨hpushed, hnotified⟩, hresults⟩

theorem pendingOperation_sameReports (s : State cfg) (env : LoopEnv) : SameReports s (s.pendingOperation env) := by
  refine ⟨(pendingOperation_same s env).2.1.pushed, ?_⟩
  have hpending : (s.pending env).history.notified = s.history.notified := by
    simp only [State.pending]
    split
    · split_ifs <;> rfl
    · split_ifs <;> rfl
    · rfl
    · split <;> rfl
    · rfl
    · rfl
  obtain ⟨t, rfl, ⟨-, he⟩ | ⟨-, he⟩⟩ := pendingOperation_cases s env
  · rw [he]
    exact hpending
  · rw [he]
    refine Eq.trans ?_ hpending
    simp only [State.timeOutOperation]
    split_ifs
    · exact (clientDisconnect_sameReports ({ s.pending env with
        loop.result.time := elapsedMsTime env.tickPending (s.pending env).loop.currentOp.timer } : State cfg)
        env.destroying).notified
    · rfl

theorem beforeCancel_sameReports (s : State cfg) (env : LoopEnv) (h : ∀ cb ∈ env.connecting, cb.isWriteable = false) :
    SameReports s (s.beforeCancel env) ∧ (s.beforeCancel env).resultCollection = s.resultCollection := by
  obtain ⟨hsame, hresults⟩ := newCommand_sameReports s env h
  refine ⟨?_, (beforeCancel_results s env).1.trans hresults⟩
  simp only [State.beforeCancel]
  split_ifs
  · exact hsame.trans (pendingOperation_sameReports _ env)
  · exact hsame

theorem loopEnd_sameReports (s : State cfg) (env : LoopEnv) : SameReports s (s.loopEnd env) := by
  obtain ⟨hpushed, hnotified⟩ := clientDisconnect_sameReports s env.destroying
  simp only [State.loopEnd]
  split_ifs
  · exact ⟨rfl, rfl⟩
  · exact ⟨hpushed, hnotified⟩

/-! ### When a command succeeds -/

/-- The server or client, its state, its parameters and the calls it makes let the command succeed. EXIT ends
the loop with an error. -/
def State.succeeds (s : State cfg) (env : LoopEnv) : OpParam → Prop
  | .listen => cfg.nbMaxClient ≠ 0 ∧ (s.loop.listeningMode = false ∧ s.lwsContext = false) ∧ env.createContext = true
  | .connect wsCltKey =>
    cfg.nbMaxClient = 0 ∧ s.canConnect wsCltKey ∧ env.createContext = true ∧ env.connectVia.isSome = true
  | .disconnect => cfg.nbMaxClient = 0 ∧ (s.webSocketState.connectDone = true ∨ s.lwsContext = true)
  | .exit | .max => False
  | .read nb buffer => s.acceptsRead nb buffer = true
  | .write nb buffer => s.acceptsWrite nb buffer = true ∧ env.onWritable = true

instance (s : State cfg) (env : LoopEnv) : (p : OpParam) → Decidable (s.succeeds env p)
  | .listen | .connect _ => inferInstanceAs (Decidable (_ ∧ _ ∧ _))
  | .disconnect | .write _ _ => inferInstanceAs (Decidable (_ ∧ _))
  | .exit | .max => isFalse id
  | .read _ _ => inferInstanceAs (Decidable (_ = _))

/-- **A command succeeds** as `succeeds` says. -/
theorem command_succeeds_iff (s : State cfg) (env : LoopEnv) :
    (s.command env).loop.result.sts = .noError ↔ s.succeeds env s.loop.currentOp.opParam := by
  have hsts : ∀ (t : State cfg) (sts : BofErr), (t.setSts sts).loop.result.sts = sts := fun _ _ => rfl
  unfold State.command
  cases hop : s.loop.currentOp.opParam with
  | listen =>
    simp only [State.commandListen, State.succeeds]
    split_ifs with hmode hidle hcreate
    · exact ⟨by rintro ⟨⟩, fun h => absurd hmode h.1⟩
    · exact ⟨fun _ => ⟨hmode, hidle, hcreate⟩, fun _ => rfl⟩
    · exact ⟨by rintro ⟨⟩, fun h => absurd h.2.2 hcreate⟩
    · exact ⟨by rintro ⟨⟩, fun h => absurd h.2.1 hidle⟩
  | connect key =>
    simp only [State.commandConnect, State.succeeds]
    split_ifs with hmode hcan hcreate hvia
    · exact ⟨by rintro ⟨⟩, fun h => absurd h.1 hmode⟩
    · exact ⟨fun _ => ⟨not_not.mp hmode, hcan, hcreate, hvia⟩, fun _ => rfl⟩
    · exact ⟨by rintro ⟨⟩, fun h => absurd h.2.2.2 hvia⟩
    · exact ⟨by rintro ⟨⟩, fun h => absurd h.2.2.1 hcreate⟩
    · exact ⟨by rintro ⟨⟩, fun h => absurd h.2.1 hcan⟩
  | disconnect =>
    simp only [State.commandDisconnect, State.succeeds]
    split_ifs with hmode hdone
    · exact ⟨by rintro ⟨⟩, fun h => absurd h.1 hmode⟩
    · exact ⟨fun _ => ⟨not_not.mp hmode, hdone⟩, fun _ => rfl⟩
    · exact ⟨by rintro ⟨⟩, fun h => absurd h.2 hdone⟩
  | exit => exact ⟨by rintro ⟨⟩, fun h => h.elim⟩
  | max => exact ⟨by rintro ⟨⟩, fun h => h.elim⟩
  | read nb buffer =>
    simp only [State.commandRead, State.succeeds, State.acceptsRead, hsts, Bool.and_eq_true, decide_eq_true_eq]
    split_ifs with hconnected hvalid
    · exact ⟨fun _ => ⟨⟨hconnected, hvalid.1⟩, hvalid.2⟩, fun _ => rfl⟩
    · exact ⟨by rintro ⟨⟩, fun h => absurd ⟨h.1.2, h.2⟩ hvalid⟩
    · exact ⟨by rintro ⟨⟩, fun h => absurd h.1.1 hconnected⟩
  | write nb buffer =>
    have hrefused : (s.commandWrite env nb buffer).loop.result.sts = .noError →
        s.acceptsWrite nb buffer = true ∧ env.onWritable = true := by
      intro hok
      rcases commandWrite_cases s env nb buffer with ⟨sts, hno, he⟩ | ⟨data, q, haccepts, -, he⟩ <;>
        rw [he, hsts] at hok
      · exact absurd hok hno
      · split_ifs at hok with hgranted
        exact ⟨haccepts, hgranted⟩
    refine ⟨hrefused, ?_⟩
    rintro ⟨haccepts, hgranted⟩
    obtain ⟨data, q, -, -, he⟩ := commandWrite_of_accepts haccepts env
    dsimp only
    rw [he, hsts, if_pos hgranted]

end BofWebRpc.WebSocket
