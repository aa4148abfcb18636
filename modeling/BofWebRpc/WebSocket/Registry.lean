import BofWebRpc.Library.Table
import BofWebRpc.WebSocket.Connections
import BofWebRpc.WebSocket.Listening

/-!
# The clients of a server

ESTABLISHED registers a connection under a key, CLOSED removes it by its handle.

## What is proved

* `clients_registered` — in every run the collection holds exactly one entry for each
  connection that has been admitted and has not closed, keys and handles differ,
  and there are no more than `NbMaxClient_U32`.
* `admits_iff` — a server with room admits a connection that carries no used key, unless it
  carries none and the one default key is in use.
-/

namespace BofWebRpc.WebSocket

open Runs

variable {cfg : WebSocketParam}

/-! ### Establishing and closing -/

/-- A connection whose buffer sizes can be set gets its handle, and is added if it is admitted. -/
theorem onEstablished_clients (s : State cfg) (w : Wsi) (key : Key) :
    ∃ data : DataPerSession, data.pWebSocket = some w ∧
      (s.onEstablished w true key).2.session = Function.update s.session w data ∧
      ((s.admits true key = true ∧ (s.onEstablished w true key).1 = 0 ∧
          (s.onEstablished w true key).2.clientCollection = s.clientCollection ++ [(key, data)]) ∨
        (s.admits true key = false ∧ (s.onEstablished w true key).1 = 1 ∧
          (s.onEstablished w true key).2.clientCollection = s.clientCollection)) := by
  by_cases hfree : s.clientCollection.length < cfg.nbMaxClient
  · refine ⟨{ connectDone := !s.isClientExist key, pWebSocket := some w }, rfl, ?_⟩
    cases hexist : s.isClientExist key with
    | false =>
      rw [State.isClientExist] at hexist
      simp only [State.onEstablished, State.addClient, State.admits, State.isClientExist, hfree, hexist, decide_true,
        Bool.not_false, Bool.and_self, if_true, Function.update_self, Function.update_idem]
      exact ⟨rfl, .inl ⟨trivial, trivial, rfl⟩⟩
    | true =>
      rw [State.isClientExist] at hexist
      simp only [State.onEstablished, State.addClient, State.admits, State.isClientExist, hfree, hexist, decide_true,
        Bool.not_true, Bool.and_false, if_true, Function.update_self, Function.update_idem, Bool.false_eq_true,
        if_false]
      exact ⟨trivial, .inr ⟨trivial, trivial, trivial⟩⟩
  · refine ⟨{ s.session w with pWebSocket := some w }, rfl, ?_⟩
    simp only [State.onEstablished, State.addClient, State.admits, hfree, decide_false, Bool.false_and, Bool.and_false,
      if_true, if_false, Bool.false_eq_true]
    exact ⟨trivial, .inr ⟨trivial, trivial, trivial⟩⟩

/-- `CLOSED` removes the entry with the handle of the session. -/
theorem onClosed_clients (s : State cfg) (w : Wsi) :
    (s.onClosed w).clientCollection = (s.clientCollection.eraseP fun c => c.2.pWebSocket = (s.session w).pWebSocket) ∧
      (s.onClosed w).session = Function.update s.session w .reset := ⟨rfl, rfl⟩

/-! ### The registry invariant -/

/-- The clients are the connections that have been admitted and have not closed. -/
structure Registered (p : Watched cfg) : Prop where
  /-- Distinct entries have distinct keys and distinct handles. -/
  distinct : Table Prod.fst (fun c => c.2.pWebSocket) p.1.clientCollection
  /-- Each entry is of an admitted connection. -/
  admitted : ∀ c ∈ p.1.clientCollection, ∃ w ∈ p.2.admitted, c.2.pWebSocket = some w
  /-- Each admitted connection has an entry. -/
  complete : ∀ w ∈ p.2.admitted, ∃ c ∈ p.1.clientCollection, c.2.pWebSocket = some w
  /-- There are no more than `NbMaxClient_U32`. -/
  bounded : p.1.clientCollection.length ≤ cfg.nbMaxClient

/-- The session data hold the handle of their connection, at least when it is admitted, and nothing
when it is not established. -/
structure Registering (s : State cfg) (m : Connections) : Prop extends Registered (s, m) where
  established : ∀ w ∈ m.admitted, w ∈ m.established
  fresh : ∀ w, w ∉ m.established → s.session w = .reset
  handle : ∀ w, (s.session w).pWebSocket = none ∨ (s.session w).pWebSocket = some w
  own : ∀ w ∈ m.admitted, (s.session w).pWebSocket = some w

theorem start_registering : Registering (State.start : State cfg) Connections.none :=
  ⟨⟨.nil, fun _ hc => absurd hc List.not_mem_nil, fun _ hw => absurd hw List.not_mem_nil, Nat.zero_le _⟩,
    fun _ hw => absurd hw List.not_mem_nil, fun _ _ => rfl, fun _ => .inl rfl, fun _ hw => absurd hw List.not_mem_nil⟩

theorem Registering.same {s t : State cfg} {m : Connections} (h : Registering s m) (hs : SameClients s t) :
    Registering t m := by
  have hfresh := h.fresh
  have hhandle := h.handle
  have hown := h.own
  rw [← hs.session] at hfresh hhandle hown
  refine ⟨⟨?_, ?_, ?_, ?_⟩, h.established, hfresh, hhandle, hown⟩ <;> simp only [hs.clientCollection]
  · exact h.distinct
  · exact h.admitted
  · exact h.complete
  · exact h.bounded

section Session

variable {s t : State cfg} {m : Connections} {w : Wsi} {data : DataPerSession}

/-- The session data of one connection are replaced by data of its own. -/
theorem Registering.handle_update (h : Registering s m) (hdata : data.pWebSocket = none ∨ data.pWebSocket = some w)
    (hsession : t.session = Function.update s.session w data) (v : Wsi) :
    (t.session v).pWebSocket = none ∨ (t.session v).pWebSocket = some v := by
  rw [hsession]
  by_cases hv : v = w
  · subst hv
    rw [Function.update_self]
    exact hdata
  · rw [Function.update_of_ne hv]
    exact h.handle v

/-- The other admitted connections keep their data. -/
theorem Registering.own_update (h : Registering s m) (hsession : t.session = Function.update s.session w data)
    {v : Wsi} (hv : v ∈ m.admitted) (hne : v ≠ w) : (t.session v).pWebSocket = some v := by
  rw [hsession, Function.update_of_ne hne]
  exact h.own v hv

/-- A connection that is still not established has no data. -/
theorem Registering.fresh_update (h : Registering s m) (hsession : t.session = Function.update s.session w data)
    (answer : ℤ) (v : Wsi) (hv : v ∉ (m.establish w answer).established) : t.session v = .reset := by
  have hne : v ≠ w := fun he => hv (by rw [he]; exact List.mem_cons_self)
  rw [hsession, Function.update_of_ne hne]
  exact h.fresh v fun hmem => hv (List.mem_cons_of_mem w hmem)

end Session

/-- An ESTABLISHED that does not admit the connection. -/
theorem Registering.refuse {s t : State cfg} {m : Connections} {w : Wsi} {answer : ℤ} (h : Registering s m)
    (hw : w ∉ m.established) (hanswer : answer ≠ 0) (hclients : t.clientCollection = s.clientCollection)
    {data : DataPerSession} (hdata : data.pWebSocket = none ∨ data.pWebSocket = some w)
    (hsession : t.session = Function.update s.session w data) : Registering t (m.establish w answer) := by
  have hadmitted : (m.establish w answer).admitted = m.admitted := by rw [Connections.establish, if_neg hanswer]
  refine ⟨⟨?_, ?_, ?_, ?_⟩, ?_, ?_, ?_, ?_⟩
  · simp only [hclients]
    exact h.distinct
  · simp only [hclients, hadmitted]
    exact h.admitted
  · simp only [hclients, hadmitted]
    exact h.complete
  · simp only [hclients]
    exact h.bounded
  · rw [hadmitted]
    exact fun v hv => List.mem_cons_of_mem w (h.established v hv)
  · exact h.fresh_update hsession answer
  · exact h.handle_update hdata hsession
  · rw [hadmitted]
    exact fun v hv => h.own_update hsession hv (fun he => hw (he ▸ h.established v hv))

/-- An ESTABLISHED that admits the connection. -/
theorem Registering.admit {s t : State cfg} {m : Connections} {w : Wsi} {key : Key} (h : Registering s m)
    (hw : w ∉ m.established) (hadmits : s.admits true key = true) {data : DataPerSession}
    (hdata : data.pWebSocket = some w) (hclients : t.clientCollection = s.clientCollection ++ [(key, data)])
    (hsession : t.session = Function.update s.session w data) : Registering t (m.establish w 0) := by
  have hadmitted : (m.establish w 0).admitted = w :: m.admitted := rfl
  simp only [State.admits, Bool.true_and, Bool.and_eq_true, decide_eq_true_eq, Bool.not_eq_true'] at hadmits
  obtain ⟨hroom, hnew⟩ := hadmits
  have hkey : ∀ c ∈ s.clientCollection, c.1 ≠ key := by
    simpa [State.isClientExist] using hnew
  have hhandle : ∀ c ∈ s.clientCollection, c.2.pWebSocket ≠ data.pWebSocket := by
    intro c hc he
    obtain ⟨v, hv, hcv⟩ := h.admitted c hc
    rw [hcv, hdata, Option.some.injEq] at he
    exact hw (he ▸ h.established v hv)
  refine ⟨⟨?_, ?_, ?_, ?_⟩, ?_, ?_, ?_, ?_⟩
  · simp only [hclients]
    exact h.distinct.append hkey hhandle
  · simp only [hclients, hadmitted]
    intro c hc
    rcases List.mem_append.mp hc with hc | hc
    · obtain ⟨v, hv, hcv⟩ := h.admitted c hc
      exact ⟨v, List.mem_cons_of_mem w hv, hcv⟩
    · rw [List.mem_singleton.mp hc]
      exact ⟨w, List.mem_cons_self, hdata⟩
  · simp only [hclients, hadmitted]
    intro v hv
    rcases List.mem_cons.mp hv with rfl | hv
    · exact ⟨_, List.mem_append_right _ (List.mem_singleton_self _), hdata⟩
    · obtain ⟨c, hc, hcv⟩ := h.complete v hv
      exact ⟨c, List.mem_append_left _ hc, hcv⟩
  · simp only [hclients, List.length_append, List.length_singleton]
    exact hroom
  · rw [hadmitted]
    intro v hv
    rcases List.mem_cons.mp hv with rfl | hv
    · exact List.mem_cons_self
    · exact List.mem_cons_of_mem w (h.established v hv)
  · exact h.fresh_update hsession 0
  · exact h.handle_update (.inr hdata) hsession
  · rw [hadmitted]
    intro v hv
    by_cases he : v = w
    · subst he
      rw [hsession, Function.update_self]
      exact hdata
    · exact h.own_update hsession ((List.mem_cons.mp hv).resolve_left he) he

theorem answer_ne_zero (s : State cfg) (w : Wsi) (key : Key) : (s.onEstablished w false key).1 ≠ 0 := by
  have hanswer : (s.onEstablished w false key).1 = -2 := rfl
  rw [hanswer]
  decide

/-- **ESTABLISHED** with a handle that is not in use. -/
theorem onEstablished_registering {s : State cfg} {m : Connections} (h : Registering s m) {w : Wsi}
    (hw : w ∉ m.established) (bufferSize : Bool) (key : Key) :
    Registering (s.onEstablished w bufferSize key).2 (m.establish w (s.onEstablished w bufferSize key).1) := by
  cases bufferSize with
  | false =>
    have hsession : s.session = Function.update s.session w (s.session w) := (Function.update_eq_self w s.session).symm
    exact h.refuse hw (answer_ne_zero s w key) rfl (h.handle w) hsession
  | true =>
    obtain ⟨data, hdata, hsession, ⟨hadmits, hanswer, hclients⟩ | ⟨-, hanswer, hclients⟩⟩ :=
      onEstablished_clients s w key
    · rw [hanswer]
      exact h.admit hw hadmits hdata hclients hsession
    · rw [hanswer]
      exact h.refuse hw (by decide) hclients (.inr hdata) hsession

/-- **CLOSED** removes the entry of the connection, if it has one, and no other. -/
theorem onClosed_registering {s : State cfg} {m : Connections} (h : Registering s m) (w : Wsi) :
    Registering (s.onClosed w) (m.close w) := by
  obtain ⟨hclients, hsession⟩ := onClosed_clients s w
  have hmem : ∀ c, c ∈ (s.onClosed w).clientCollection ↔ c ∈ s.clientCollection ∧
      c.2.pWebSocket ≠ (s.session w).pWebSocket := by
    intro c
    rw [hclients]
    exact h.distinct.mem_eraseP_iff
  have hadmitted : ∀ v, v ∈ (m.close w).admitted ↔ v ∈ m.admitted ∧ v ≠ w := by
    intro v
    simp [Connections.close]
  refine ⟨⟨?_, ?_, ?_, ?_⟩, ?_, ?_, ?_, ?_⟩
  · simp only [hclients]
    exact h.distinct.eraseP _
  · intro c hc
    obtain ⟨hc, hne⟩ := (hmem c).mp hc
    obtain ⟨v, hv, hcv⟩ := h.admitted c hc
    refine ⟨v, (hadmitted v).mpr ⟨hv, fun he => hne ?_⟩, hcv⟩
    subst he
    rw [hcv, h.own v hv]
  · intro v hv
    obtain ⟨hv, hne⟩ := (hadmitted v).mp hv
    obtain ⟨c, hc, hcv⟩ := h.complete v hv
    refine ⟨c, (hmem c).mpr ⟨hc, fun he => ?_⟩, hcv⟩
    rw [hcv] at he
    rcases h.handle w with hnone | hsome
    · exact absurd (he.trans hnone) (Option.some_ne_none v)
    · exact hne (Option.some.inj (he.trans hsome))
  · refine Nat.le_trans ?_ h.bounded
    simp only [hclients]
    exact List.eraseP_sublist.length_le
  · intro v hv
    obtain ⟨hv, hne⟩ := (hadmitted v).mp hv
    exact List.mem_filter.mpr ⟨h.established v hv, by simpa using hne⟩
  · intro v hv
    rw [hsession]
    by_cases he : v = w
    · subst he
      rw [Function.update_self]
    · rw [Function.update_of_ne he]
      exact h.fresh v fun hmem' => hv (List.mem_filter.mpr ⟨hmem', by simpa using he⟩)
  · exact h.handle_update (.inl rfl) hsession
  · intro v hv
    obtain ⟨hv, hne⟩ := (hadmitted v).mp hv
    exact h.own_update hsession hv hne

/-- Every lawful step of a server keeps the registry. -/
theorem watch_registering (hserver : cfg.nbMaxClient ≠ 0) (p : Watched cfg) (e : Event) (h : Registering p.1 p.2)
    (hl : e.Lawful p) : Registering (watch p e).1 (watch p e).2 := by
  have hany : e.ClosesOnly (fun _ _ => True) p.2 := by
    cases e with
    | callback cb => cases cb <;> first | trivial | exact fun _ _ => trivial
    | iterate env => exact fun _ _ => trivial
    | program timeOut tick opParam => trivial
    | collect | cancel timeOut | cancelled | clear | reset => trivial
  refine watch_inv (I := Registering) (fun _ _ _ => Registering.same) ?_ ?_ (fun _ _ _ _ _ => trivial) ?_ p e h hl hany
  · exact fun _ s m w b key hs hw => onEstablished_registering hs hw b key
  · exact fun hclient => absurd hclient hserver
  · intro s m w hs _ _
    rw [State.onClose, if_neg hserver]
    exact onClosed_registering hs w

/-- **The registry is right** after every run of a server: one entry for each connection that has been
admitted and has not closed, and no other. -/
theorem clients_registered (hserver : cfg.nbMaxClient ≠ 0) (es : List Event)
    (h : Meets watch (fun p e => e.Lawful p) (Watched.start : Watched cfg) es) :
    Registered (exec watch (Watched.start : Watched cfg) es) :=
  (exec_inv (watch_registering hserver) es _ start_registering h).toRegistered

/-- Two clients with one key; the second one is refused, and closes. -/
theorem clients_registered_two :
    Registered (exec watch (Watched.start : Watched server)
      (Event.execute 0 0 .listen ++ clientConnects 1 ['a'] ++ clientConnects 2 ['a'] ++ [.callback (.closed 2)])) := by
  have hlawful : Meets watch (fun p e => e.Lawful p) (Watched.start : Watched server)
      (Event.execute 0 0 .listen ++ clientConnects 1 ['a'] ++ clientConnects 2 ['a'] ++ [.callback (.closed 2)]) := by
    decide +kernel
  exact clients_registered (by decide) _ hlawful

/-! ### Admission -/

/-- The key of a client without one, `WS_CLT_KEY_VAL_FMT` with `S_mWsCltId_U32`. -/
def defaultKey : Key := "BofWsClt_00000001".toList

/-- The callbacks of a connection attempt. -/
def Event.isAttempt : Event → Bool
  | .callback (.addHeaders _ _) | .callback (.established _ _ _) => true
  | _ => false

/-- A connection attempt with the given key succeeds: ADD_HEADERS accepts it, and so does
ESTABLISHED with the same key, if it comes before any other attempt. -/
def State.Admits (s : State cfg) (key : Option Key) : Prop :=
  s.onAddHeaders key = 0 ∧ ∀ (w : Wsi) (es : List Event), (∀ e ∈ es, e.isAttempt = false) →
    ((exec step s es).onEstablished w true (key.getD defaultKey)).1 = 0

theorem onClose_sublist (s : State cfg) (w : Wsi) : (s.onClose w).clientCollection.Sublist s.clientCollection := by
  simp only [State.onClose]
  split_ifs
  · exact List.Sublist.refl _
  · exact List.eraseP_sublist

theorem foldl_onClose_sublist (s : State cfg) (ws : List Wsi) :
    (ws.foldl State.onClose s).clientCollection.Sublist s.clientCollection := by
  induction ws generalizing s with
  | nil => exact List.Sublist.refl _
  | cons w ws ih => exact (ih (s.onClose w)).trans (onClose_sublist s w)

/-- Without an attempt, no client is added. -/
theorem step_sublist (hserver : cfg.nbMaxClient ≠ 0) (s : State cfg) {e : Event} (h : e.isAttempt = false) :
    (step s e).clientCollection.Sublist s.clientCollection := by
  cases e using Event.byCause with
  | user e hu =>
    rw [(step_sameEngine s hu).clientCollection]
  | iterate env =>
    rw [step]
    rcases iterate_shuts s env (fun hclient => absurd hclient hserver) with
      (⟨-, hs⟩ | ⟨-, -, hs⟩) | ⟨-, hs | hs⟩ <;> rw [hs.clientCollection]
    · exact foldl_onClose_sublist s env.destroying
    · exact foldl_onClose_sublist s env.destroying
  | callback cb =>
    simp only [step]
    split_ifs
    · by_cases hquiet : cb.isQuiet = true
      · rw [(lwsCallback_sameClients hquiet s).clientCollection]
      · cases cb with
        | clientEstablished w b => cases b <;> exact List.Sublist.refl _
        | closed w => exact List.eraseP_sublist
        | clientClosed w => exact List.Sublist.refl _
        | clientConnectionError w ws =>
          rcases clientDisconnect_shuts
            ({ s with history.errors := if cfg.onError then s.history.errors + 1 else s.history.errors } : State cfg) ws
            with ⟨-, hs⟩ | ⟨-, -, hs⟩
          · exact hs.clientCollection ▸ List.Sublist.refl _
          · exact hs.clientCollection ▸ foldl_onClose_sublist _ ws
        | established w b key => cases h
        | httpBindProtocol w | addHeaders w key | writeable side w env | receive side w input final env | other w =>
          exact absurd rfl hquiet
    · exact List.Sublist.refl _

theorem exec_sublist (hserver : cfg.nbMaxClient ≠ 0) {es : List Event} (h : ∀ e ∈ es, e.isAttempt = false)
    (s : State cfg) :
    (exec step s es).clientCollection.Sublist s.clientCollection := by
  induction es generalizing s with
  | nil => exact List.Sublist.refl _
  | cons e es ih =>
    have hfirst := step_sublist hserver s (h e List.mem_cons_self)
    exact (ih (fun e' he' => h e' (List.mem_cons_of_mem e he')) (step s e)).trans hfirst

/-- **Admission**: a server with room admits a connection that carries no used key, if and only if it
carries a key or the default key is not in use. -/
theorem admits_iff {s : State cfg} (hroom : s.clientCollection.length < cfg.nbMaxClient) {key : Option Key}
    (hnew : ∀ k ∈ key, s.isClientExist k = false) :
    s.Admits key ↔ (key = none → s.isClientExist defaultKey = false) := by
  have hserver : cfg.nbMaxClient ≠ 0 := Nat.ne_zero_of_lt hroom
  have hunused : s.isClientExist (key.getD defaultKey) = false ↔ (key = none → s.isClientExist defaultKey = false) := by
    cases key with
    | none => exact ⟨fun h _ => h, fun h => h rfl⟩
    | some k => exact ⟨fun _ hnone => absurd hnone (Option.some_ne_none k), fun _ => hnew k rfl⟩
  have hheaders : s.onAddHeaders key = if s.isClientExist (key.getD defaultKey) then 1 else 0 := by
    rw [State.onAddHeaders, if_pos hroom]
    rfl
  rw [← hunused]
  constructor
  · rintro ⟨hzero, -⟩
    rw [hheaders] at hzero
    by_contra hused
    rw [if_pos (Bool.not_eq_false _ ▸ hused)] at hzero
    exact absurd hzero (by decide)
  · intro hfree
    refine ⟨by rw [hheaders, hfree]; rfl, fun w es hes => ?_⟩
    have hsub := exec_sublist hserver hes s
    generalize exec step s es = t at hsub
    have hadmits : t.admits true (key.getD defaultKey) = true := by
      simp only [State.admits, Bool.true_and, Bool.and_eq_true, decide_eq_true_eq, Bool.not_eq_true']
      refine ⟨Nat.lt_of_le_of_lt hsub.length_le hroom, ?_⟩
      rw [State.isClientExist, List.any_eq_false] at hfree ⊢
      exact fun c hc => hfree c (hsub.subset hc)
    obtain ⟨data, -, -, ⟨-, hanswer, -⟩ | ⟨hrefused, -, -⟩⟩ := onEstablished_clients t w (key.getD defaultKey)
    · exact hanswer
    · exact absurd (hadmits.symm.trans hrefused) Bool.false_ne_true.symm

/-- A client without a key connects. -/
def keylessConnects (w : Wsi) : List Event :=
  [.callback (.httpBindProtocol w), .callback (.addHeaders w none), .callback (.established w true defaultKey)]

/-- A client with a key, next to one without. -/
theorem admits_iff_two : (exec step listened (keylessConnects 1)).Admits (some ['a']) := by
  have hroom : (exec step listened (keylessConnects 1)).clientCollection.length < server.nbMaxClient := by
    decide +kernel
  exact (admits_iff hroom (by decide +kernel)).mpr (fun he => by cases he)

/-- Of two clients without a key, the second one is rejected. -/
theorem not_admits :
    ¬ ∀ (cfg : WebSocketParam) (es : List Event) (key : Option Key),
      Meets watch (fun p e => e.Lawful p) (Watched.start : Watched cfg) es →
      (exec step (State.start : State cfg) es).clientCollection.length < cfg.nbMaxClient →
      (∀ k ∈ key, (exec step (State.start : State cfg) es).isClientExist k = false) →
      (exec step (State.start : State cfg) es).Admits key := by
  intro h
  have hsecond := h server (Event.execute 0 0 .listen ++ keylessConnects 1) none (by decide +kernel) (by decide +kernel)
    (by decide +kernel)
  exact absurd hsecond.1 (by decide +kernel)

end BofWebRpc.WebSocket
