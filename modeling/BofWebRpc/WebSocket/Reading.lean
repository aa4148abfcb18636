import BofWebRpc.WebSocket.Tickets

/-!
# Reading with a time limit

`Read` programs a READ and pops results until one has its ticket; it gives up when a pop is over time.
Nothing tells the engine, whose own limit starts when it takes the READ: the operation stays, and
takes the next message.

## The model

`Readers` adds to the engine the calls of `Read`, each with the ticket of its READ and with what it
has returned, and as history the messages that `PopBuffer` has given to READs, each with the ticket
of the READ. Any number of calls may be in progress. An `access` is one pop of a call (`collectRound`); when it
finds the queue empty its time is over.

## What is proved

* `reads_lose_nothing` — no message is lost as long as a READ that finds one is still waited for, was not
  taken while another operation was pending and has a place for its result, as long as no result
  with a message is popped by another call, and as long as tickets are not used again.
-/

namespace BofWebRpc.WebSocket

open Runs Reassembly

variable {cfg : WebSocketParam}

/-! ### Messages that READs take out -/

/-- What `PopBuffer` gives to the pending operation, if that is a READ: the message, and the ticket. -/
def State.takes (s : State cfg) : List (ℕ × Message) :=
  match s.loop.currentOp.opParam, s.rxBufferCollection.popBuffer with
  | .read _ _, some (m, _) => [(s.loop.currentOp.ticket, m)]
  | _, _ => []

/-- What an event removes from `mpuRxBufferCollection` for a READ. -/
def State.removes (s : State cfg) : Event → List (ℕ × Message)
  | .iterate env =>
    if s.loop.running && (s.newCommand env).loop.ioPending then (s.newCommand env).takes else []
  | _ => []

/-! ### Calls of Read -/

/-- A call of `Read` that has programmed its READ. -/
structure ReadCall where
  /-- `OpTicket_U32`. -/
  ticket : ℕ
  /-- What it has returned, unless it still waits. -/
  returned : Option Returned
  deriving DecidableEq

/-- The engine and the calls of `Read`. -/
structure Readers (cfg : WebSocketParam) where
  engine : State cfg
  /-- The calls, in the order in which they began. -/
  calls : List ReadCall
  /-- History: the messages that READs have taken out. -/
  removed : List (ℕ × Message)

/-- Before the first call. -/
def Readers.start : Readers cfg := ⟨State.start, [], []⟩

/-- What happens next. -/
inductive ReadEvent where
  /-- An event of the engine. -/
  | engine (e : Event)
  /-- `Read` is called. -/
  | read (timeOut tick nbMaxToRead : ℕ) (data : Bool)
  /-- The next pop of a call ends: with a result, or because its time is over. -/
  | access (call : ℕ)

/-- What `Read` returns when its pop has found a result with its ticket, or has failed. -/
def readAnswer : Option OperationResult → Returned
  | none => { sts := .etimedout, nb := 0, collected := none }
  | some r => { sts := .noError, nb := r.size, collected := some r }

/-- The next pop of a call. -/
def Readers.access (p : Readers cfg) (call : ℕ) : Readers cfg :=
  match p.calls[call]? with
  | some ⟨ticket, none⟩ =>
    match collectRound ticket (p.engine, []) [] with
    | .next q => { p with engine := q.1 }
    | .leave found q => { p with engine := q.1, calls := p.calls.set call ⟨ticket, some (readAnswer found)⟩ }
  | _ => p

/-- One step. A call that cannot program its READ returns at once, without an operation. -/
def readerStep (p : Readers cfg) : ReadEvent → Readers cfg
  | .engine e => { p with engine := step p.engine e, removed := p.removed ++ p.engine.removes e }
  | .read timeOut tick nbMaxToRead data =>
    let program := Event.program timeOut tick (SyncCall.read nbMaxToRead data).opParam
    { p with
      engine := step p.engine program
      calls := if program.pushes p.engine then p.calls ++ [⟨p.engine.ticket, none⟩] else p.calls }
  | .access call => p.access call

/-- The message is for the call: its result is in the queue, or the call has returned it. -/
def ReadCall.Has (s : State cfg) (c : ReadCall) (m : Message) : Prop :=
  match c.returned with
  | none => ∃ r ∈ s.resultCollection.elements, r.opTicket = c.ticket ∧ r.message = some m
  | some returned => returned.sts = .noError ∧ ∃ r, returned.collected = some r ∧ r.message = some m

/-- **Nothing is lost.** -/
structure NothingLost (p : Readers cfg) : Prop where
  /-- The READ of a call that has returned an error has taken no message. -/
  failed : ∀ c ∈ p.calls, ∀ returned, c.returned = some returned → returned.sts ≠ .noError →
    ∀ m, (c.ticket, m) ∉ p.removed
  /-- Every message that a READ has taken is for a call. -/
  handed : ∀ x ∈ p.removed, ∃ c ∈ p.calls, c.ticket = x.1 ∧ c.Has p.engine x.2

/-! ### The condition -/

/-- The event programs a READ. -/
def Event.isRead : Event → Bool
  | .program _ _ opParam => decide (opParam.operation = .read)
  | _ => false

/-- READs are programmed by `Read` only; nobody listens, cancels or resets. -/
def ReadEvent.Legal : ReadEvent → Prop
  | .engine e => e.Plain ∧ e.isRead = false
  | .read _ _ _ _ | .access _ => True

instance : (e : ReadEvent) → Decidable e.Legal
  | .engine _ => inferInstanceAs (Decidable (_ ∧ _))
  | .read _ _ _ _ | .access _ => isTrue trivial

/-- The tickets that operations have had. -/
def State.used (s : State cfg) : List ℕ := s.history.programmed.map Prod.fst

/-- A new operation gets a ticket that no operation has had. -/
def Event.Fresh (s : State cfg) (e : Event) : Prop := e.pushes s = true → s.ticket ∉ s.used

instance (s : State cfg) (e : Event) : Decidable (e.Fresh s) := inferInstanceAs (Decidable (_ → _))

/-- A READ that takes a message is waited for, was not taken while another operation was pending, and has a place
for its result. -/
def Readers.Awaits (p : Readers cfg) (env : LoopEnv) (x : ℕ × Message) : Prop :=
  (∃ c ∈ p.calls, c.ticket = x.1 ∧ c.returned = none) ∧ (p.engine.newCommand env).loop.result.opTicket = x.1 ∧
    (p.engine.newCommand env).resultCollection.elements.length < cfg.nbMaxOperationPending + 1

instance (p : Readers cfg) (env : LoopEnv) (x : ℕ × Message) : Decidable (p.Awaits env x) :=
  inferInstanceAs (Decidable ((∃ _ ∈ _, _) ∧ _ ∧ _))

/-- A READ takes a message only if it is awaited; a result with a message is popped by its own call only; tickets are
not used again. -/
def ReadEvent.Safe (p : Readers cfg) : ReadEvent → Prop
  | .engine (.iterate env) => ∀ x ∈ p.engine.removes (.iterate env), p.Awaits env x
  | .engine .collect => ∀ r ∈ p.engine.resultCollection.peek, r.message = none
  | .engine e => e.Fresh p.engine
  | .read timeOut tick nbMaxToRead data =>
    (Event.program timeOut tick (SyncCall.read nbMaxToRead data).opParam).Fresh p.engine
  | .access call => ∀ c ∈ p.calls[call]?, c.returned = none → ∀ r ∈ p.engine.resultCollection.peek,
      r.opTicket = c.ticket ∨ r.message = none

instance (p : Readers cfg) : (e : ReadEvent) → Decidable (e.Safe p)
  | .engine (.iterate _) => inferInstanceAs (Decidable (∀ _ ∈ _, _))
  | .engine .collect => inferInstanceAs (Decidable (∀ _ ∈ _, _))
  | .engine (.program _ _ _) | .engine (.cancel _) | .engine .cancelled | .engine .clear | .engine .reset
  | .engine (.callback _) => inferInstanceAs (Decidable (Event.Fresh _ _))
  | .read _ _ _ _ => inferInstanceAs (Decidable (Event.Fresh _ _))
  | .access _ => inferInstanceAs (Decidable (∀ _ ∈ _, _ → ∀ _ ∈ _, _))

/-! ### The result of a READ -/

/-- A READ that takes a message has it in its result. -/
theorem pendingOperation_takes {s : State cfg} (env : LoopEnv) {x : ℕ × Message} (hx : x ∈ s.takes) :
    (s.pendingOperation env).loop.sendResult = true ∧ (s.pendingOperation env).loop.result.message = some x.2 ∧
      (s.pendingOperation env).loop.result.opTicket = s.loop.result.opTicket := by
  unfold State.takes at hx
  split at hx
  · next nb buffer m rx hop hpop =>
    have hnot : s.loop.currentOp.operation ≠ .connect := by simp [OperationParam.operation, hop, OpParam.operation]
    rw [List.mem_singleton.mp hx]
    obtain ⟨t, rfl, ⟨-, he⟩ | ⟨-, he⟩⟩ := pendingOperation_cases s env
    · simp only [State.pending, hop, hpop] at he
      rw [he]
      exact ⟨rfl, rfl, rfl⟩
    · simp only [State.pending, hop, hpop, State.timeOutOperation, if_neg hnot] at he
      rw [he]
      exact ⟨rfl, rfl, rfl⟩
  · exact absurd hx List.not_mem_nil

/-- **The message is in the queue of results** after the iteration in which a READ takes it, if the READ has
a place and a result of its own. -/
theorem iterate_takes {s : State cfg} (hcancel : s.cancel = false) (env : LoopEnv) {x : ℕ × Message}
    (hx : x ∈ s.removes (.iterate env)) (hown : (s.newCommand env).loop.result.opTicket = x.1)
    (hroom : (s.newCommand env).resultCollection.elements.length < cfg.nbMaxOperationPending + 1) :
    ∃ r ∈ (s.iterate env).resultCollection.elements, r.opTicket = x.1 ∧ r.message = some x.2 := by
  simp only [State.removes] at hx
  split_ifs at hx with hrun
  · obtain ⟨hrun, hp⟩ := (Bool.and_eq_true _ _).mp hrun
    have hbefore : s.beforeCancel env = (s.newCommand env).pendingOperation env := by
      simp only [State.beforeCancel, hp, if_true]
    obtain ⟨hsend, hmessage, hticket⟩ := pendingOperation_takes env hx
    rw [← hbefore] at hsend hmessage hticket
    have hcancel' := (beforeCancel_sameSignals s env).cancel.trans hcancel
    have hresults := (beforeCancel_results s env).1
    rw [iterate_eq hrun]
    rcases endIteration_results (s.beforeCancel env) env with
      ⟨hset, -⟩ | ⟨-, hnone, -⟩ | ⟨-, -, time, ⟨hq, -⟩ | ⟨-, -, hfull⟩⟩
    · exact absurd (hcancel'.symm.trans hset) Bool.false_ne_true
    · exact absurd (hnone.symm.trans hsend) Bool.false_ne_true
    · rw [hq]
      exact ⟨_, List.mem_append_right _ (List.mem_singleton_self _), hticket.trans hown, hmessage⟩
    · rw [hresults] at hfull
      exact absurd hroom (Nat.not_lt.mpr hfull)
  · exact absurd hx List.not_mem_nil

/-! ### One step -/

/-- **A step of the engine** uses the ticket of the operation it programs. -/
theorem step_used (s : State cfg) (e : Event) :
    (step s e).used = s.used ++ if e.pushes s then [s.ticket] else [] := by
  simp only [State.used, step_programmed, List.map_append]
  cases hpushes : e.pushes s with
  | false => rw [queues_eq_nil hpushes, if_neg Bool.false_ne_true, List.map_nil, List.map_nil]
  | true =>
    obtain ⟨op, hop, hticket⟩ := queues_of_pushes hpushes
    rw [hop, if_pos rfl, ← hticket, List.map_cons, List.map_nil, List.map_cons, List.map_nil]
    rfl

/-- What is in the queue of results stays there, unless it is the oldest result and is collected. -/
theorem step_keeps {s : State cfg} (hcancel : s.cancel = false) {e : Event} (he : e.Plain) {r : OperationResult}
    (hr : r ∈ s.resultCollection.elements) (hnot : r ∉ e.collects s) : r ∈ (step s e).resultCollection.elements := by
  have hplain : e.wipes = false := by
    cases e with
    | cancel timeOut | reset => exact he.elim
    | program timeOut tick opParam | collect | cancelled | clear | callback cb | iterate env => rfl
  obtain ⟨-, new, -, hperm⟩ := step_results hcancel hplain
  have hmem := hperm.mem_iff.mp (List.mem_append_left new hr)
  exact (List.mem_append.mp hmem).resolve_right hnot

/-- The tickets of the calls. -/
def Readers.tickets (p : Readers cfg) : List ℕ := p.calls.map ReadCall.ticket

/-- Between two steps: the tickets of the calls are different, and each is in one place at most. -/
structure Reading (p : Readers cfg) : Prop where
  still : Still p.engine
  used : ∀ t ∈ p.tickets, t ∈ p.engine.used
  unused : ∀ t, t ∉ p.engine.used → Owned t 0 p.engine
  owned : ∀ t ∈ p.tickets, Owned t 1 p.engine
  distinct : p.tickets.Nodup
  handed : ∀ x ∈ p.removed, ∃ c ∈ p.calls, c.ticket = x.1 ∧ c.Has p.engine x.2

theorem start_reading : Reading (Readers.start : Readers cfg) := by
  refine ⟨start_still, fun _ ht => absurd ht List.not_mem_nil, fun t _ => ⟨?_, ?_, Nat.le_refl _⟩,
    fun _ ht => absurd ht List.not_mem_nil, .nil, fun _ hx => absurd hx List.not_mem_nil⟩
  · exact fun _ hop => absurd hop List.not_mem_nil
  · exact fun _ hop => absurd hop List.not_mem_nil

/-- A call is told by its ticket. -/
theorem Reading.eq_of_ticket {p : Readers cfg} (h : Reading p) {c d : ReadCall} (hc : c ∈ p.calls) (hd : d ∈ p.calls)
    (ht : c.ticket = d.ticket) : c = d :=
  List.inj_on_of_nodup_map h.distinct hc hd ht

/-- **Nothing is lost** where the messages are handed. -/
theorem Reading.nothingLost {p : Readers cfg} (h : Reading p) : NothingLost p := by
  refine ⟨fun c hc returned hreturned hfailed m hm => ?_, h.handed⟩
  obtain ⟨d, hd, hticket, hhas⟩ := h.handed _ hm
  rw [h.eq_of_ticket hd hc hticket, ReadCall.Has, hreturned] at hhas
  exact hfailed hhas.1

/-- A message that is for a call stays so, unless its result is collected. -/
theorem ReadCall.Has.step {s : State cfg} {c : ReadCall} {m : Message} (h : c.Has s m) (hcancel : s.cancel = false)
    {e : Event} (he : e.Plain)
    (hnot : c.returned = none → ∀ r ∈ e.collects s, r.opTicket = c.ticket → r.message = none) :
    c.Has (WebSocket.step s e) m := by
  unfold ReadCall.Has at h ⊢
  cases hreturned : c.returned with
  | some returned =>
    rw [hreturned] at h
    exact h
  | none =>
    rw [hreturned] at h
    obtain ⟨r, hr, hticket, hmessage⟩ := h
    refine ⟨r, step_keeps hcancel he hr fun hcollected => ?_, hticket, hmessage⟩
    rw [hnot hreturned r hcollected hticket] at hmessage
    cases hmessage

/-- **A step of the engine** that hands the messages it removes to calls, and takes no result with a message away
from one. -/
theorem Reading.engine {p : Readers cfg} (hclient : cfg.nbMaxClient = 0) (h : Reading p) {e : Event} (he : e.Plain)
    (hfresh : e.Fresh p.engine)
    (hcollects : ∀ c ∈ p.calls, c.returned = none → ∀ r ∈ e.collects p.engine, r.opTicket = c.ticket → r.message = none)
    (hremoves : ∀ x ∈ p.engine.removes e, ∃ c ∈ p.calls, c.ticket = x.1 ∧ c.Has (step p.engine e) x.2) :
    Reading (readerStep p (.engine e)) := by
  have hused := step_used p.engine e
  refine ⟨h.still.step hclient he, fun t ht => ?_, fun t ht => ?_, fun t ht => ?_, h.distinct, fun x hx => ?_⟩
  · simp only [readerStep, hused]
    exact List.mem_append_left _ (h.used t ht)
  · simp only [readerStep, hused, List.mem_append, not_or] at ht
    refine (h.unused t ht.1).step hclient h.still he fun hpushes hnew => ht.2 ?_
    rw [if_pos hpushes, hnew]
    exact List.mem_singleton_self t
  · exact (h.owned t ht).step hclient h.still he fun hpushes hnew => hfresh hpushes (hnew ▸ h.used t ht)
  · rcases List.mem_append.mp hx with hx | hx
    · obtain ⟨c, hc, hticket, hhas⟩ := h.handed x hx
      exact ⟨c, hc, hticket, hhas.step h.still.cancel he (hcollects c hc)⟩
    · exact hremoves x hx

/-! ### Calls -/

theorem mem_set_of_mem {α : Type*} {l : List α} {k : ℕ} {a b : α} (ha : l[k]? = some a) (a' : α) (hb : b ∈ l) :
    b = a ∨ b ∈ l.set k a' := by
  obtain ⟨i, hi⟩ := List.mem_iff_getElem?.mp hb
  by_cases hik : k = i
  · rw [← hik, ha, Option.some.injEq] at hi
    exact .inl hi.symm
  · exact .inr (List.mem_iff_getElem?.mpr ⟨i, by rw [List.getElem?_set_ne hik, hi]⟩)

/-- A call that returns keeps its ticket. -/
theorem set_tickets {calls : List ReadCall} {k : ℕ} {c c' : ReadCall} (hc : calls[k]? = some c)
    (ht : c'.ticket = c.ticket) : (calls.set k c').map ReadCall.ticket = calls.map ReadCall.ticket := by
  obtain ⟨hk, rfl⟩ := List.getElem?_eq_some_iff.mp hc
  have hself := List.set_getElem_self (show k < (calls.map ReadCall.ticket).length by rwa [List.length_map])
  rw [List.getElem_map] at hself
  rw [List.map_set, ht]
  exact hself

/-- **A call returns**: with the message that was for it, if there was one. -/
theorem Reading.answer {p : Readers cfg} (h : Reading p) {k ticket : ℕ} (hk : p.calls[k]? = some ⟨ticket, none⟩)
    {returned : Returned}
    (hhas : ∀ m, ReadCall.Has p.engine ⟨ticket, none⟩ m → ReadCall.Has p.engine ⟨ticket, some returned⟩ m) :
    Reading { p with calls := p.calls.set k ⟨ticket, some returned⟩ } := by
  have htickets : (p.calls.set k ⟨ticket, some returned⟩).map ReadCall.ticket = p.tickets := set_tickets hk rfl
  have hlength : k < p.calls.length := (List.getElem?_eq_some_iff.mp hk).1
  refine ⟨h.still, ?_, h.unused, ?_, ?_, fun x hx => ?_⟩
  · simp only [Readers.tickets, htickets]
    exact h.used
  · simp only [Readers.tickets, htickets]
    exact h.owned
  · simp only [Readers.tickets, htickets]
    exact h.distinct
  · obtain ⟨c, hc, hticket, hfor⟩ := h.handed x hx
    rcases mem_set_of_mem hk ⟨ticket, some returned⟩ hc with rfl | hc
    · exact ⟨_, List.mem_set hlength _, hticket, hhas _ hfor⟩
    · exact ⟨c, hc, hticket, hfor⟩

/-- A call begins, with a ticket that no operation has had. -/
theorem Reading.begin {p : Readers cfg} (h : Reading p) {t : ℕ} (hused : t ∈ p.engine.used)
    (howned : Owned t 1 p.engine) (hnew : t ∉ p.tickets) : Reading { p with calls := p.calls ++ [⟨t, none⟩] } := by
  have htickets : (p.calls ++ [(⟨t, none⟩ : ReadCall)]).map ReadCall.ticket = p.tickets ++ [t] := List.map_append
  have hall : ∀ P : ℕ → Prop, (∀ u ∈ p.tickets, P u) → P t → ∀ u ∈ p.tickets ++ [t], P u := by
    intro P hold ht u hu
    rcases List.mem_append.mp hu with hu | hu
    · exact hold u hu
    · exact List.mem_singleton.mp hu ▸ ht
  refine ⟨h.still, ?_, h.unused, ?_, ?_, fun x hx => ?_⟩
  · simp only [Readers.tickets, htickets]
    exact hall _ h.used hused
  · simp only [Readers.tickets, htickets]
    exact hall _ h.owned howned
  · simp only [Readers.tickets, htickets]
    exact List.nodup_append.mpr ⟨h.distinct, List.nodup_singleton t, fun u hu v hv he =>
      hnew (List.mem_singleton.mp hv ▸ he ▸ hu)⟩
  · obtain ⟨c, hc, hfor⟩ := h.handed x hx
    exact ⟨c, List.mem_append_left _ hc, hfor⟩

/-- **An access** of a call that waits gives up, returns the result it has found, or goes on with the next one. -/
theorem access_cases (p : Readers cfg) (k : ℕ) :
    p.access k = p ∨ ∃ ticket, p.calls[k]? = some ⟨ticket, none⟩ ∧
      ((p.engine.resultCollection.elements = [] ∧
          p.access k = { p with calls := p.calls.set k ⟨ticket, some (readAnswer none)⟩ }) ∨
        ∃ r, p.engine.resultCollection.peek = some r ∧
          ((r.opTicket = ticket ∧ p.access k = readerStep
              { p with calls := p.calls.set k ⟨ticket, some (readAnswer (some r))⟩ } (.engine .collect)) ∨
            (r.opTicket ≠ ticket ∧ p.access k = readerStep p (.engine .collect)))) := by
  unfold Readers.access
  split
  · next ticket hk =>
    refine .inr ⟨ticket, hk, ?_⟩
    simp only [collectRound, exec_nil, readerStep, State.removes, List.append_nil]
    cases hpeek : p.engine.resultCollection.peek with
    | none => exact .inl ⟨Fifo.peek_eq_none_iff.mp hpeek, rfl⟩
    | some r =>
      refine .inr ⟨r, rfl, ?_⟩
      dsimp only
      split_ifs with hticket
      · exact .inl ⟨hticket, rfl⟩
      · exact .inr ⟨hticket, rfl⟩
  · exact .inl rfl

/-- The result with the ticket of a call is the only one. -/
theorem Reading.sole {p : Readers cfg} (h : Reading p) {t : ℕ} (ht : t ∈ p.tickets) {r r' : OperationResult}
    (hr : p.engine.resultCollection.peek = some r) (hr' : r' ∈ p.engine.resultCollection.elements)
    (hticket : r.opTicket = t) (hticket' : r'.opTicket = t) : r' = r := by
  have hcons := Fifo.peek_eq_some_iff.mp hr
  rw [hcons] at hr'
  rcases List.mem_cons.mp hr' with he | htail
  · exact he
  · have hone := (h.owned t ht).count
    have htwo : 0 < (p.engine.resultCollection.skip.elements.map OperationResult.opTicket).count t :=
      List.count_pos_iff.mpr (List.mem_map.mpr ⟨r', htail, hticket'⟩)
    simp only [State.tickets, hcons, List.map_cons, hticket, List.count_append, List.count_cons_self] at hone
    omega

/-- The oldest result is what a pop takes. -/
theorem mem_collects {s : State cfg} {r r' : OperationResult} (hr : s.resultCollection.peek = some r)
    (hr' : r' ∈ Event.collect.collects s) : r' = r := by
  simp only [Event.collects, hr, Option.toList_some] at hr'
  exact List.mem_singleton.mp hr'

/-- **An access**: what a call pops is its own, or has no message. -/
theorem Reading.access {p : Readers cfg} (hclient : cfg.nbMaxClient = 0) (h : Reading p) {k : ℕ}
    (hsafe : (ReadEvent.access k).Safe p) : Reading (p.access k) := by
  have hfresh : ∀ s : State cfg, Event.Fresh s .collect := fun s he => by cases he
  rcases access_cases p k with he | ⟨ticket, hk, ⟨hnone, he⟩ | ⟨r, hr, ⟨hticket, he⟩ | ⟨hticket, he⟩⟩⟩
  · rw [he]
    exact h
  · -- its time is over, and no message was for it
    rw [he]
    refine h.answer hk fun m hm => ?_
    obtain ⟨r, hr, -⟩ := hm
    rw [hnone] at hr
    exact absurd hr List.not_mem_nil
  · rw [he]
    have hmem : ticket ∈ p.tickets := List.mem_map.mpr ⟨_, List.mem_of_getElem? hk, rfl⟩
    have hanswer : Reading { p with calls := p.calls.set k ⟨ticket, some (readAnswer (some r))⟩ } := by
      refine h.answer hk fun m hm => ?_
      obtain ⟨r', hr', hticket', hmessage⟩ := hm
      exact ⟨rfl, r, rfl, h.sole hmem hr hr' hticket hticket' ▸ hmessage⟩
    refine hanswer.engine hclient trivial (hfresh _) (fun c hc hwaits r' hr' hticket' => ?_)
      fun x hx => absurd hx List.not_mem_nil
    -- a call with this ticket has just returned
    rw [mem_collects hr hr', hticket] at hticket'
    have hself := hanswer.eq_of_ticket hc (List.mem_set (List.getElem?_eq_some_iff.mp hk).1 _) hticket'.symm
    rw [hself] at hwaits
    cases hwaits
  · rw [he]
    refine h.engine hclient trivial (hfresh _) (fun c hc hwaits r' hr' _ => ?_)
      fun x hx => absurd hx List.not_mem_nil
    rw [mem_collects hr hr']
    exact (hsafe _ hk rfl r hr).resolve_left hticket

/-! ### Runs -/

/-- **One step.** -/
theorem step_reading (hclient : cfg.nbMaxClient = 0) (p : Readers cfg) (e : ReadEvent) (h : Reading p)
    (he : e.Legal ∧ e.Safe p) : Reading (readerStep p e) := by
  obtain ⟨hlegal, hsafe⟩ := he
  cases e with
  | access k => exact h.access hclient hsafe
  | read timeOut tick nb data =>
    have hprogram : Reading (readerStep p (.engine (.program timeOut tick (SyncCall.read nb data).opParam))) :=
      h.engine hclient (show OpParam.operation (.read nb data) ≠ .listen from fun he => by cases he) hsafe
        (fun _ _ _ _ hr => absurd hr List.not_mem_nil) fun _ hx => absurd hx List.not_mem_nil
    simp only [readerStep, State.removes, List.append_nil] at hprogram
    simp only [readerStep]
    by_cases hpushes : (Event.program timeOut tick (SyncCall.read nb data).opParam).pushes p.engine = true
    · have hnew := hsafe hpushes
      rw [if_pos hpushes]
      refine hprogram.begin ?_ ?_ fun ht => hnew (h.used _ ht)
      · simp only [step_used, if_pos hpushes]
        exact List.mem_append_right _ (List.mem_singleton_self _)
      · exact (h.unused _ hnew).programmed timeOut tick
          (show OpParam.operation (.read nb data) ≠ .write from fun he => by cases he)
    · rw [if_neg hpushes]
      exact hprogram
  | engine e =>
    obtain ⟨hplain, -⟩ := hlegal
    cases e with
    | iterate env =>
      refine h.engine hclient hplain (fun he => by cases he) (fun _ _ _ _ hr => absurd hr List.not_mem_nil)
        fun x hx => ?_
      obtain ⟨⟨c, hc, hticket, hwaits⟩, hown, hroom⟩ := hsafe x hx
      refine ⟨c, hc, hticket, ?_⟩
      rw [ReadCall.Has, hwaits, hticket]
      exact iterate_takes h.still.cancel env hx hown hroom
    | collect =>
      refine h.engine hclient hplain (fun he => by cases he) (fun c hc _ r hr _ => ?_)
        fun _ hx => absurd hx List.not_mem_nil
      exact hsafe r (Option.mem_toList.mp hr)
    | program timeOut tick opParam | cancel timeOut | cancelled | clear | reset | callback cb =>
      exact h.engine hclient hplain hsafe (fun _ _ _ _ hr => absurd hr List.not_mem_nil)
        fun _ hx => absurd hx List.not_mem_nil

/-- **No message is lost** in any run of a client, with any number of calls of `Read` and any time limits, whose steps
are safe. -/
theorem reads_lose_nothing (hclient : cfg.nbMaxClient = 0) (es : List ReadEvent) (hlegal : ∀ e ∈ es, e.Legal)
    (h : Meets readerStep (fun p e => e.Safe p) (Readers.start : Readers cfg) es) :
    NothingLost (exec readerStep (Readers.start : Readers cfg) es) :=
  (exec_inv (step_reading hclient) es _ start_reading
    (meets_and.mpr ⟨meets_of_forall es _ hlegal, h⟩)).nothingLost

/-- A client connects, and somebody collects the result. -/
def connects : List ReadEvent := (connectAs 1).map .engine ++ [.engine .collect]

/-- A message of one byte arrives. -/
def byteArrives : ReadEvent := .engine (.callback (.receive .client 1 [65] true ⟨true, false, false⟩))

/-- An iteration that takes a READ at time `tick` and waits for a message in vain. -/
def waitsForMessage (tick : ℕ) : ReadEvent :=
  .engine (.iterate { LoopEnv.at tick 1 with tickPending := tick + pushPopTimeout, tickSend := tick + pushPopTimeout })

/-- Two reads: the first one gives up before a message arrives, and is over time for the engine too; the second
one gets the message. -/
theorem reads_lose_nothing_two :
    NothingLost (exec readerStep (Readers.start : Readers client)
      (connects ++ [.read 100 0 4 true, .access 0, waitsForMessage 0, byteArrives, .read 100 160 4 true,
        .engine (.iterate (.at 160 1)), .access 1, .access 1])) :=
  reads_lose_nothing rfl _ (by decide +kernel) (by decide +kernel)

/-- A read waits 200 ms. The engine takes its READ after 80 ms and looks for a message until 230 ms. The call gives up,
a message arrives, and the READ takes it after 231 ms. -/
theorem not_reads_lose_nothing :
    ¬ ∀ (cfg : WebSocketParam) (es : List ReadEvent), cfg.nbMaxClient = 0 → (∀ e ∈ es, e.Legal) →
      NothingLost (exec readerStep (Readers.start : Readers cfg) es) := by
  intro h
  have hlost := h client
    (connects ++ [.read 200 0 4 true, waitsForMessage 80, .access 0, byteArrives, .engine (.iterate (.at 231 1))]) rfl
    (by decide +kernel)
  exact hlost.failed ⟨2, some ⟨.etimedout, 0, none⟩⟩ (by decide +kernel) ⟨.etimedout, 0, none⟩ rfl (by decide)
    [(1, [65])] (by decide +kernel)

end BofWebRpc.WebSocket
