import BofWebRpc.WebSocket.Connections
import BofWebRpc.WebSocket.Listening

/-!
# OnOpen and OnClose

The close events test `OnOpen` and then call `OnClose`, for every connection: also when
`OnClose` is not set, and also when the connection was refused.

## What is proved

* `step_sameCalls` — `OnOperation` and `OnError` are called only when they are set.
* `onReceive_unset` — nor is an `OnMessage` or `OnEvent` that is not set.
* `notifications_paired` — in every run in which connections close as the guard expects
  it, no callback is called that is not set, and each `OnOpen` is followed by its `OnClose`.
-/

namespace BofWebRpc.WebSocket

open Runs

variable {cfg : WebSocketParam}

/-! ### OnOperation and OnError -/

theorem iterate_sameCalls (s : State cfg) (env : LoopEnv) : SameCalls s (s.iterate env) := by
  rcases iterate_cases s env with ⟨-, he⟩ | ⟨-, -, he⟩ | ⟨-, -, h⟩
  · rw [he]
    exact (SameSignals.refl s).toSameCalls
  · rw [he]
    have hblock : SameCalls (s.beforeCancel env) (s.beforeCancel env).cancelBlock := ⟨fun _ => rfl, fun _ => rfl⟩
    exact ((beforeCancel_sameSignals s env).toSameCalls.trans hblock).trans (loopEnd_sameSignals _ env).toSameCalls
  · exact h.toSameCalls

/-- **`OnOperation` and `OnError`** are called in no step, unless they are set. -/
theorem step_sameCalls (s : State cfg) (e : Event) : SameCalls s (step s e) := by
  cases e using Event.byCause with
  | user e hu =>
    have h := (step_sameEngine s hu).history
    exact ⟨fun _ => by rw [h], fun _ => by rw [h]⟩
  | callback cb =>
    simp only [step]
    split_ifs
    · exact (lwsCallback_sameSignals cb s).toSameCalls
    · exact (SameSignals.refl s).toSameCalls
  | iterate env => exact iterate_sameCalls s env

/-- **An `OnMessage` or `OnEvent` that is not set is not called**: what it would answer makes no difference. -/
theorem onReceive_unset (s : State cfg) (w : Wsi) (input : List UInt8) (final : Bool) {env env' : ReceiveEnv}
    (hroom : env'.room = env.room) (hmessage : cfg.onMessage = true → env'.onMessage = env.onMessage)
    (hevent : cfg.onEvent = true → env'.onEvent = env.onEvent) :
    s.onReceive w input final env' = s.onReceive w input final env := by
  have haccepts : ((cfg.onMessage && env'.onMessage) || (cfg.onEvent && env'.onEvent)) =
      ((cfg.onMessage && env.onMessage) || (cfg.onEvent && env.onEvent)) := by
    cases hm : cfg.onMessage with
    | true =>
      cases he : cfg.onEvent with
      | true => rw [hmessage hm, hevent he]
      | false => rw [hmessage hm]; rfl
    | false =>
      cases he : cfg.onEvent with
      | true => rw [hevent he]; rfl
      | false => rfl
  simp only [State.onReceive, State.onMessageComplete, hroom, haccepts]

/-! ### Pairs -/

/-- `OnOpen` and `OnClose` are paired, and nothing else is called than what is set. Of the calls of `OnMessage` and
`OnEvent` there is no history; that they are not called either when they are not set is `onReceive_unset`. -/
structure Paired (p : Watched cfg) : Prop where
  unsetOpen : cfg.onOpen = false → p.1.history.opened = []
  unsetClose : cfg.onClose = false → p.1.history.closed = []
  unsetOperation : cfg.onOperation = false → p.1.history.notified = []
  unsetError : cfg.onError = false → p.1.history.errors = 0
  /-- Each admitted connection has had its `OnOpen`, and each one that was admitted and has closed its
  `OnClose`; no other connection has had any. -/
  balanced : cfg.onOpen = true → cfg.onClose = true → ∀ w,
    p.1.history.opened.count w = p.1.history.closed.count w + if w ∈ p.2.admitted then 1 else 0
  /-- `OnClose` alone is called for each connection that was admitted and has closed. -/
  closes : cfg.onOpen = false → cfg.onClose = true → ∀ w, p.2.finished.count w ≤ p.1.history.closed.count w

/-- The guard around `OnClose` does what it should when the connection `w` closes: both callbacks are set
and the connection was admitted; or `OnOpen` is not set, and there is nothing to call. -/
def Connections.Expects (cfg : WebSocketParam) (m : Connections) (w : Wsi) : Prop :=
  if cfg.onOpen then cfg.onClose = true ∧ w ∈ m.admitted else cfg.onClose = false ∨ w ∉ m.admitted

instance (m : Connections) (w : Wsi) : Decidable (m.Expects cfg w) := by
  unfold Connections.Expects
  exact inferInstance

instance (C : Connections → Wsi → Prop) [∀ m w, Decidable (C m w)] (m : Connections) :
    (e : Event) → Decidable (e.ClosesOnly C m)
  | .callback (.closed w) | .callback (.clientClosed w) => inferInstanceAs (Decidable (C m w))
  | .callback (.clientConnectionError _ _) | .iterate _ => inferInstanceAs (Decidable (∀ _ ∈ _, C m _))
  | .callback (.established _ _ _) | .callback (.clientEstablished _ _) | .callback (.httpBindProtocol _)
  | .callback (.addHeaders _ _) | .callback (.writeable _ _ _) | .callback (.receive _ _ _ _ _)
  | .callback (.other _) => isTrue trivial
  | .program _ _ _ | .collect | .cancelled | .clear | .reset | .cancel _ => isTrue trivial

/-- The pairs, as far as they depend on the connections. -/
structure Pairing (s : State cfg) (m : Connections) : Prop where
  established : ∀ w ∈ m.admitted, w ∈ m.established
  unsetOpen : cfg.onOpen = false → s.history.opened = []
  unsetClose : cfg.onClose = false → s.history.closed = []
  balanced : cfg.onOpen = true → cfg.onClose = true → ∀ w,
    s.history.opened.count w = s.history.closed.count w + if w ∈ m.admitted then 1 else 0
  finished : cfg.onOpen = false → cfg.onClose = true → m.finished = []

theorem Pairing.same {s t : State cfg} {m : Connections} (h : Pairing s m) (hs : SameClients s t) : Pairing t m := by
  refine ⟨h.established, ?_, ?_, ?_, h.finished⟩
  · rw [hs.opened]
    exact h.unsetOpen
  · rw [hs.closed]
    exact h.unsetClose
  · rw [hs.opened, hs.closed]
    exact h.balanced

/-- A handshake that succeeds, with its `OnOpen` if that is set. -/
theorem Pairing.establish {s t : State cfg} {m : Connections} {w : Wsi} {answer : ℤ} (h : Pairing s m)
    (hw : w ∉ m.established) (hclosed : t.history.closed = s.history.closed)
    (hopened : t.history.opened =
      if cfg.onOpen = true ∧ answer = 0 then s.history.opened ++ [w] else s.history.opened) :
    Pairing t (m.establish w answer) := by
  have hnew : w ∉ m.admitted := fun hmem => hw (h.established w hmem)
  refine ⟨?_, ?_, ?_, ?_, h.finished⟩
  · intro v hv
    simp only [Connections.establish] at hv ⊢
    split_ifs at hv
    · exact (List.mem_cons.mp hv).elim (fun he => he ▸ List.mem_cons_self)
        fun hv => List.mem_cons_of_mem w (h.established v hv)
    · exact List.mem_cons_of_mem w (h.established v hv)
  · intro hunset
    rw [hopened, if_neg (fun hset => ne_true_of_eq_false hunset hset.1)]
    exact h.unsetOpen hunset
  · rw [hclosed]
    exact h.unsetClose
  · intro hopen hclose v
    have hv := h.balanced hopen hclose v
    rw [hopened, hclosed]
    by_cases hanswer : answer = 0
    · simp only [Connections.establish, hanswer, hopen, and_self, if_true, List.count_append, List.count_singleton,
        List.mem_cons]
      by_cases he : v = w
      · subst he
        rw [if_neg hnew] at hv
        simp only [beq_self_eq_true, true_or, if_true]
        omega
      · have hne : (w == v) = false := beq_eq_false_iff_ne.mpr fun hwv => he hwv.symm
        simp only [hne, he, false_or, Bool.false_eq_true, if_false]
        exact hv
    · simp only [Connections.establish, hanswer, and_false, if_false]
      exact hv

/-- A connection closes as the guard expects it. -/
theorem Pairing.close {s : State cfg} {m : Connections} {w : Wsi} (h : Pairing s m) (hexpects : m.Expects cfg w) :
    Pairing (s.onClose w) (m.close w) := by
  have hopened : (s.onClose w).history.opened = s.history.opened := by
    simp only [State.onClose]
    split_ifs <;> rfl
  have hclosed : (s.onClose w).history.closed =
      if cfg.onOpen then s.history.closed ++ [w] else s.history.closed := by
    simp only [State.onClose]
    split_ifs <;> simp_all [State.onClientClosed, State.onClosed, State.forget, State.callOnClose, State.removeClient]
  have hadmitted : ∀ v, v ∈ (m.close w).admitted ↔ v ∈ m.admitted ∧ v ≠ w := by
    intro v
    simp [Connections.close]
  refine ⟨?_, ?_, ?_, ?_, ?_⟩
  · intro v hv
    obtain ⟨hv, hne⟩ := (hadmitted v).mp hv
    exact List.mem_filter.mpr ⟨h.established v hv, by simpa using hne⟩
  · rw [hopened]
    exact h.unsetOpen
  · intro hunset
    rw [hclosed]
    split_ifs with hopen
    · rw [Connections.Expects, if_pos hopen] at hexpects
      exact absurd (hunset.symm.trans hexpects.1) Bool.false_ne_true
    · exact h.unsetClose hunset
  · intro hopen hclose v
    have hv := h.balanced hopen hclose v
    rw [Connections.Expects, if_pos hopen] at hexpects
    rw [hopened, hclosed, if_pos hopen, List.count_append, List.count_singleton]
    simp only [hadmitted v]
    by_cases he : v = w
    · subst he
      rw [if_pos hexpects.2] at hv
      simp only [beq_self_eq_true, ne_eq, not_true_eq_false, and_false, if_true, if_false]
      omega
    · have hne : (w == v) = false := beq_eq_false_iff_ne.mpr fun hwv => he hwv.symm
      simp only [hne, he, ne_eq, not_false_eq_true, and_true, Bool.false_eq_true, if_false]
      exact hv
  · intro hopen hclose
    rw [Connections.Expects, if_neg (ne_true_of_eq_false hopen)] at hexpects
    have hnot : w ∉ m.admitted :=
      hexpects.resolve_left (fun hunset => absurd (hunset.symm.trans hclose) Bool.false_ne_true)
    simp only [Connections.close, if_neg hnot]
    exact h.finished hopen hclose

/-- Every lawful step in which connections close as the guard expects it keeps the pairs. -/
theorem watch_pairing (p : Watched cfg) (e : Event) (h : Pairing p.1 p.2) (hl : e.Lawful p)
    (hcloses : e.ClosesOnly (Connections.Expects cfg) p.2) : Pairing (watch p e).1 (watch p e).2 := by
  refine watch_inv (I := Pairing) (fun _ _ _ => Pairing.same) ?_ ?_ ?_ ?_ p e h hl hcloses
  · intro _ s m w b key hs hw
    refine hs.establish hw ?_ ?_
    · simp only [State.onEstablished]
      split_ifs <;> rfl
    · cases b with
      | false => exact (if_neg (fun hset => absurd (show (-2 : ℤ) = 0 from hset.2) (by decide))).symm
      | true =>
        simp only [State.onEstablished, if_true]
        split_ifs <;> simp_all [State.callOnOpen, State.addClient]
  · intro _ s m w b hs hw
    refine hs.establish hw ?_ ?_
    · simp only [State.onClientEstablished]
      split_ifs <;> rfl
    · cases b with
      | false => exact (if_neg (fun hset => absurd (show (-4 : ℤ) = 0 from hset.2) (by decide))).symm
      | true => simp [State.onClientEstablished, State.callOnOpen]
  · intro m w v hne hv
    have hmem : v ∈ (m.close w).admitted ↔ v ∈ m.admitted := by simp [Connections.close, hne]
    simp only [Connections.Expects, hmem] at hv ⊢
    exact hv
  · exact fun s m w hs _ hexpects => hs.close hexpects

theorem start_pairing : Pairing (State.start : State cfg) Connections.none :=
  ⟨fun _ hw => absurd hw List.not_mem_nil, fun _ => rfl, fun _ => rfl, fun _ _ _ => rfl, fun _ _ => rfl⟩

/-- What a step keeps, with the calls of `OnOperation` and `OnError`. -/
structure Calling (p : Watched cfg) : Prop where
  pairing : Pairing p.1 p.2
  unset : SameCalls (State.start : State cfg) p.1

/-- **OnOpen and OnClose are paired** in every run in which connections close as the guard expects it. -/
theorem notifications_paired (es : List Event)
    (h : Meets watch (fun p e => e.Lawful p ∧ e.ClosesOnly (Connections.Expects cfg) p.2)
      (Watched.start : Watched cfg) es) :
    Paired (exec watch (Watched.start : Watched cfg) es) := by
  have hstart : Calling (Watched.start : Watched cfg) := ⟨start_pairing, (SameSignals.refl _).toSameCalls⟩
  obtain ⟨hpairing, hunset⟩ := exec_inv (I := Calling)
    (fun p e hp he => ⟨watch_pairing p e hp.pairing he.1 he.2, hp.unset.trans (step_sameCalls p.1 e)⟩) es _ hstart h
  refine ⟨hpairing.unsetOpen, hpairing.unsetClose, hunset.notified, hunset.errors, hpairing.balanced, ?_⟩
  intro hopen hclose w
  rw [hpairing.finished hopen hclose]
  exact Nat.zero_le _

/-- A server of two clients, with `OnMessage`, `OnOpen` and `OnClose`. -/
def notifying : WebSocketParam := { server with onOpen := true, onClose := true }

/-- Two clients connect, and the first one closes. -/
theorem notifications_paired_two :
    Paired (exec watch (Watched.start : Watched notifying)
      (Event.execute 0 0 .listen ++ clientConnects 1 ['a'] ++ clientConnects 2 ['b'] ++ [.callback (.closed 1)])) := by
  have hmeets : Meets watch (fun p e => e.Lawful p ∧ e.ClosesOnly (Connections.Expects notifying) p.2)
      (Watched.start : Watched notifying)
      (Event.execute 0 0 .listen ++ clientConnects 1 ['a'] ++ clientConnects 2 ['b'] ++ [.callback (.closed 1)]) := by
    decide +kernel
  exact notifications_paired _ hmeets

/-- The second client has the key of the first one: it is refused, and closes with an `OnClose` without
any `OnOpen`. -/
theorem not_notifications_paired :
    ¬ ∀ (cfg : WebSocketParam) (es : List Event), Meets watch (fun p e => e.Lawful p) (Watched.start : Watched cfg) es →
      Paired (exec watch (Watched.start : Watched cfg) es) := by
  intro h
  have hpaired := h notifying
    (Event.execute 0 0 .listen ++ clientConnects 1 ['a'] ++ clientConnects 2 ['a'] ++ [.callback (.closed 2)])
    (by decide +kernel)
  exact absurd (hpaired.balanced rfl rfl 2) (by decide +kernel)

end BofWebRpc.WebSocket
