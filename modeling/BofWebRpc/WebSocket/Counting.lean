import BofWebRpc.WebSocket.Connections
import BofWebRpc.WebSocket.Reports
import Mathlib.Algebra.GroupWithZero.Nat

/-!
# What results count

A result carries the number of bytes of its operation: a READ what it has copied out of
the receive buffer, a WRITE what `lws_write` has taken.

## The model

`Metered` adds to the engine a list of transfers, each the ticket of an operation and
a number of bytes, as they happen: a writable callback transfers for the write it
serves, an iteration for the READ whose buffer `PopBuffer` fills. `bytesUnder` sums them
up. `Event.Fulfils` says of an event that it does not fail the operation with a ticket, in
terms of the state before it and of what its calls answer.

## What is proved

* `meter_metering` — in every run whose events fulfil the operation with a new ticket, its result is a
  success, and counts all that has been transferred under the ticket.
-/

namespace BofWebRpc.WebSocket

open Runs Reassembly

variable {cfg : WebSocketParam} {t : ℕ}

/-! ### Transfers -/

/-- The engine and the transfers. -/
abbrev Metered (cfg : WebSocketParam) := State cfg × List (ℕ × ℕ)

/-- A `BofWebSocket` whose thread has just started. -/
def Metered.start : Metered cfg := (State.start, [])

/-- What `lws_write` takes of the oldest write. -/
def State.written (s : State cfg) (env : WriteEnv) : List (ℕ × ℕ) :=
  match s.writeOpCollection.peek with
  | none => []
  | some op => if op.buffer.remainToRead = 0 then [] else [(op.result.opTicket, env.written.toNat)]

/-- What `PopBuffer` copies for the pending operation. -/
def State.copied (s : State cfg) : List (ℕ × ℕ) :=
  match s.loop.currentOp.opParam, s.rxBufferCollection.popBuffer with
  | .read nb _, some (m, _) => [(s.loop.currentOp.ticket, min nb (Message.payload m).length)]
  | _, _ => []

/-- The transfers of one event. -/
def State.transfers (s : State cfg) : Event → List (ℕ × ℕ)
  | .callback (.writeable _ _ env) => if s.lwsContext then s.written env else []
  | .iterate env =>
    if s.loop.running && (s.newCommand env).loop.ioPending then (s.newCommand env).copied else []
  | _ => []

/-- The calls of the user transfer nothing. -/
theorem transfers_user (s : State cfg) {e : Event} (h : e.isUser = true) : s.transfers e = [] := by
  cases e with
  | callback cb | iterate env => cases h
  | program _ _ _ | collect | cancel _ | cancelled | clear | reset => rfl

/-- One event. -/
def meter (p : Metered cfg) (e : Event) : Metered cfg := (step p.1 e, p.2 ++ p.1.transfers e)

/-- The bytes that have been transferred under a ticket. -/
def bytesUnder (t : ℕ) (transfers : List (ℕ × ℕ)) : ℕ := ((transfers.filter fun x => x.1 = t).map Prod.snd).sum

theorem bytesUnder_append (t : ℕ) (old new : List (ℕ × ℕ)) :
    bytesUnder t (old ++ new) = bytesUnder t old + bytesUnder t new := by
  simp only [bytesUnder, List.filter_append, List.map_append, List.sum_append]

@[simp] theorem bytesUnder_nil (t : ℕ) : bytesUnder t [] = 0 := rfl

@[simp] theorem bytesUnder_singleton (t n : ℕ) : bytesUnder t [(t, n)] = n := by
  simp [bytesUnder]

/-- Transfers under other tickets do not count. -/
theorem bytesUnder_other {old new : List (ℕ × ℕ)} (h : ∀ x ∈ new, x.1 ≠ t) :
    bytesUnder t (old ++ new) = bytesUnder t old := by
  have hnone : new.filter (fun x => x.1 = t) = [] :=
    List.filter_eq_nil_iff.mpr fun x hx => by simpa using h x hx
  rw [bytesUnder_append, bytesUnder, bytesUnder, hnone, List.map_nil, List.sum_nil, Nat.add_zero]

/-! ### The condition -/

/-- The operation `op` is not over time. -/
def State.punctual (s : State cfg) (env : LoopEnv) (op : OperationParam) : Prop :=
  op.operation = .write ∨ s.inTime env op

instance (s : State cfg) (env : LoopEnv) (op : OperationParam) : Decidable (s.punctual env op) :=
  inferInstanceAs (Decidable (_ ∨ _))

/-- An iteration does not fail the operation with the ticket `t`: neither does this operation overwrite a pending one,
nor another command this one while it is pending; its command succeeds when it is executed, and it is in time when it
is looked at. -/
def State.Executes (t : ℕ) (s : State cfg) (env : LoopEnv) : Prop :=
  (s.loop.ioPending = true → s.loop.listeningMode = false → s.paramCollection.elements ≠ [] →
    s.loop.result.opTicket ≠ t ∧ ∀ op ∈ s.paramCollection.peek, op.ticket ≠ t) ∧
  (∀ op ∈ s.taken, op.ticket = t → s.succeeds env op.opParam ∧ s.punctual env { op with timer := env.tickTake }) ∧
  (s.taken = none → s.loop.ioPending = true → s.loop.result.opTicket = t →
    s.punctual env (if s.loop.service then s.loop.currentOp else .reset))

instance (s : State cfg) (env : LoopEnv) : Decidable (s.Executes t env) :=
  inferInstanceAs (Decidable ((_ → _ → _ → _ ∧ ∀ _ ∈ _, _) ∧ (∀ _ ∈ _, _ → _ ∧ _) ∧ (_ → _ → _ → _)))

/-- `lws_write` takes the whole payload of the write `op`, or nothing in time. -/
def WriteOp.Goes (op : WriteOp) (env : WriteEnv) : Prop :=
  env.written = op.buffer.remainToRead ∨ (env.written = 0 ∧ elapsedMsTime env.tick op.timer ≤ op.timeOut)

instance (op : WriteOp) (env : WriteEnv) : Decidable (op.Goes env) := inferInstanceAs (Decidable (_ ∨ _ ∧ _))

/-- An event does not fail the operation with the ticket `t`, and gives the ticket to no other one. Nothing is
established, and nothing becomes writable, inside `lws_client_connect_via_info`. -/
def Event.Fulfils (t : ℕ) (s : State cfg) : Event → Prop
  | .program _ _ _ => s.paramCollection.elements.length < cfg.nbMaxOperationPending → s.ticket ≠ t
  | .callback (.writeable _ _ env) =>
    ∀ op ∈ s.writeOpCollection.peek, op.result.opTicket = t → op.buffer.remainToRead ≠ 0 → op.Goes env
  | .iterate env => s.Executes t env ∧ ∀ cb ∈ env.connecting, cb.whileConnecting = true
  | _ => True

instance (s : State cfg) : (e : Event) → Decidable (e.Fulfils t s)
  | .program _ _ _ => inferInstanceAs (Decidable (_ → _))
  | .callback (.writeable _ _ _) => inferInstanceAs (Decidable (∀ _ ∈ _, _ → _ → _))
  | .iterate _ => inferInstanceAs (Decidable (_ ∧ ∀ _ ∈ _, _))
  | .collect | .cancelled | .clear | .reset | .cancel _ => isTrue trivial
  | .callback (.clientConnectionError _ _) | .callback (.clientEstablished _ _)
  | .callback (.clientClosed _) | .callback (.httpBindProtocol _) | .callback (.addHeaders _ _)
  | .callback (.established _ _ _) | .callback (.receive _ _ _ _ _) | .callback (.closed _)
  | .callback (.other _) => isTrue trivial

/-! ### The invariant -/

/-- The write is one of this program: its payload follows `LWS_PRE` bytes, and its size fits in 32 bits. -/
structure WriteOp.Sized (op : WriteOp) : Prop where
  offset : op.buffer.offset = lwsPre
  length : op.buffer.data.length < lwsPre + 2 ^ 32

/-- The tickets of the commands, of the writes and of the results that are queued. -/
def State.queuedTickets (s : State cfg) : List ℕ :=
  s.paramCollection.elements.map OperationParam.ticket ++
    (s.writeOpCollection.elements.map (fun op => op.result.opTicket) ++
      s.resultCollection.elements.map OperationResult.opTicket)

/-- The ticket `t` is in one of the queues at most. Nothing has been transferred under it when that is not the queue of
results; a result is a success, and counts what has been. -/
structure Counting (t : ℕ) (s : State cfg) (transfers : List (ℕ × ℕ)) : Prop where
  params : ∀ op ∈ s.paramCollection.elements, op.ticket = t → op.operation ≠ .listen ∧ bytesUnder t transfers = 0
  writes : ∀ op ∈ s.writeOpCollection.elements, op.result.opTicket = t → op.Sized ∧ bytesUnder t transfers = 0
  results : ∀ r ∈ s.resultCollection.elements, r.opTicket = t → r.sts = .noError ∧ r.size = bytesUnder t transfers
  listenTicketId : s.loop.listenTicketId ≠ t
  count : s.queuedTickets.count t ≤ 1

/-- The operation in hand has another ticket. -/
def Processing.Other (t : ℕ) (l : Processing) : Prop :=
  l.result.opTicket ≠ t ∧ (l.currentOp.operation = .read → l.currentOp.ticket ≠ t)

instance (l : Processing) : Decidable (l.Other t) := inferInstanceAs (Decidable (_ ∧ (_ → _)))

/-- The operation in hand has the ticket `t`, and waits. -/
structure Processing.Holds (t : ℕ) (l : Processing) : Prop where
  ioPending : l.ioPending = true
  sendResult : l.sendResult = false
  operation : l.currentOp.operation = .connect ∨ l.currentOp.operation = .read
  opTicket : l.result.opTicket = t
  ticket : l.currentOp.operation = .read → l.currentOp.ticket = t
  size : l.result.size = 0

/-- Between two iterations: nothing has been transferred for the operation in hand, whose ticket is in no queue. -/
structure Metering (t : ℕ) (p : Metered cfg) : Prop extends Counting t p.1 p.2 where
  hand : p.1.loop.ioPending = true ∨ p.1.loop.sendResult = true →
    p.1.loop.Other t ∨ (p.1.loop.Holds t ∧ bytesUnder t p.2 = 0 ∧ p.1.queuedTickets.count t = 0)

/-- No operation that is queued, in hand or answered has the ticket `t`. -/
def State.Unused (t : ℕ) (s : State cfg) : Prop :=
  t ∉ s.queuedTickets ∧ s.loop.listenTicketId ≠ t ∧
    (s.loop.ioPending = true ∨ s.loop.sendResult = true → s.loop.Other t)

instance (s : State cfg) : Decidable (s.Unused t) := inferInstanceAs (Decidable (_ ∧ _ ∧ (_ → _)))

theorem count_queuedTickets (s : State cfg) : s.queuedTickets.count t =
    (s.paramCollection.elements.map OperationParam.ticket).count t +
      ((s.writeOpCollection.elements.map fun op => op.result.opTicket).count t +
        (s.resultCollection.elements.map OperationResult.opTicket).count t) := by
  rw [State.queuedTickets, List.count_append, List.count_append]

/-- Queues of which something has been taken. -/
structure Fewer (s u : State cfg) : Prop where
  params : u.paramCollection.elements.Sublist s.paramCollection.elements
  writes : u.writeOpCollection.elements.Sublist s.writeOpCollection.elements
  results : u.resultCollection.elements.Sublist s.resultCollection.elements

theorem Fewer.of_eq {s u : State cfg} (hparams : u.paramCollection = s.paramCollection)
    (hwrites : u.writeOpCollection = s.writeOpCollection) (hresults : u.resultCollection = s.resultCollection) :
    Fewer s u := by
  refine ⟨?_, ?_, ?_⟩
  · rw [hparams]
  · rw [hwrites]
  · rw [hresults]

theorem Fewer.count_le {s u : State cfg} (h : Fewer s u) (t : ℕ) : u.queuedTickets.count t ≤ s.queuedTickets.count t :=
  ((h.params.map _).append ((h.writes.map _).append (h.results.map _))).count_le t

theorem Counting.fewer {s u : State cfg} {transfers : List (ℕ × ℕ)} (h : Counting t s transfers) (hf : Fewer s u)
    (hlisten : u.loop.listenTicketId ≠ t) : Counting t u transfers :=
  ⟨fun op hop => h.params op (hf.params.subset hop), fun op hop => h.writes op (hf.writes.subset hop),
    fun r hr => h.results r (hf.results.subset hr), hlisten, Nat.le_trans (hf.count_le t) h.count⟩

theorem Metering.fewer {s u : State cfg} {transfers : List (ℕ × ℕ)} (h : Metering t ((s, transfers) : Metered cfg))
    (hf : Fewer s u) (hloop : u.loop = s.loop) : Metering t ((u, transfers) : Metered cfg) := by
  refine ⟨h.toCounting.fewer hf (hloop ▸ h.listenTicketId), ?_⟩
  simp only [hloop]
  refine fun hhand => (h.hand hhand).imp_right fun ⟨hholds, hbytes, hcount⟩ => ⟨hholds, hbytes, ?_⟩
  exact Nat.le_zero.mp (Nat.le_trans (hf.count_le t) (Nat.le_of_eq hcount))

/-- Transfers under other tickets do not matter. -/
theorem Counting.transfer {s : State cfg} {transfers new : List (ℕ × ℕ)} (h : Counting t s transfers)
    (hbytes : bytesUnder t (transfers ++ new) = bytesUnder t transfers) : Counting t s (transfers ++ new) := by
  refine ⟨?_, ?_, ?_, h.listenTicketId, h.count⟩
  · rw [hbytes]
    exact h.params
  · rw [hbytes]
    exact h.writes
  · rw [hbytes]
    exact h.results

theorem Metering.transfer {s : State cfg} {transfers new : List (ℕ × ℕ)} (h : Metering t ((s, transfers) : Metered cfg))
    (hbytes : bytesUnder t (transfers ++ new) = bytesUnder t transfers) :
    Metering t ((s, transfers ++ new) : Metered cfg) := by
  refine ⟨h.toCounting.transfer hbytes, ?_⟩
  simp only [hbytes]
  exact h.hand

/-- A result with another ticket is pushed. -/
theorem Counting.push_other {s u : State cfg} {transfers : List (ℕ × ℕ)} (h : Counting t s transfers)
    {r : OperationResult} (hr : r.opTicket ≠ t) {pushed : List OperationResult}
    (hpushed : Pushed s r u.resultCollection pushed) (hparams : u.paramCollection = s.paramCollection)
    (hwrites : u.writeOpCollection.elements.Sublist s.writeOpCollection.elements)
    (hlisten : u.loop.listenTicketId ≠ t) :
    Counting t u transfers ∧ u.queuedTickets.count t ≤ s.queuedTickets.count t := by
  rcases hpushed with ⟨hq, -⟩ | ⟨hq, -, -⟩
  · have hcount : u.queuedTickets.count t ≤ s.queuedTickets.count t := by
      have hle := (hwrites.map fun op => op.result.opTicket).count_le t
      rw [count_queuedTickets, count_queuedTickets, hparams, hq, List.map_append, List.count_append, List.map_singleton,
        List.count_singleton, beq_eq_false_iff_ne.mpr hr, if_neg Bool.false_ne_true]
      omega
    refine ⟨⟨?_, fun op hop => h.writes op (hwrites.subset hop), fun r' hr' hticket => ?_, hlisten,
      Nat.le_trans hcount h.count⟩, hcount⟩
    · rw [hparams]
      exact h.params
    · rw [hq] at hr'
      rcases List.mem_append.mp hr' with hr' | hr'
      · exact h.results r' hr' hticket
      · rw [List.mem_singleton.mp hr'] at hticket
        exact absurd hticket hr
  · have hf : Fewer s u := by
      refine ⟨?_, hwrites, ?_⟩
      · rw [hparams]
      · rw [hq]
    exact ⟨h.fewer hf hlisten, hf.count_le t⟩

/-- A ticket that is in no queue. -/
theorem not_queued {s : State cfg} (h : s.queuedTickets.count t = 0) :
    (∀ op ∈ s.paramCollection.elements, op.ticket ≠ t) ∧ (∀ op ∈ s.writeOpCollection.elements, op.result.opTicket ≠ t) ∧
      ∀ r ∈ s.resultCollection.elements, r.opTicket ≠ t := by
  have hnot := List.count_eq_zero.mp h
  rw [State.queuedTickets, List.mem_append, List.mem_append, not_or, not_or] at hnot
  refine ⟨fun op hop hticket => hnot.1 ?_, fun op hop hticket => hnot.2.1 ?_, fun r hr hticket => hnot.2.2 ?_⟩
  · exact List.mem_map.mpr ⟨op, hop, hticket⟩
  · exact List.mem_map.mpr ⟨op, hop, hticket⟩
  · exact List.mem_map.mpr ⟨r, hr, hticket⟩

/-- The result with the ticket is pushed. -/
theorem Counting.push_own {s u : State cfg} {transfers : List (ℕ × ℕ)} (hcount : s.queuedTickets.count t = 0)
    {r : OperationResult} (hsts : r.sts = .noError) (hsize : r.size = bytesUnder t transfers)
    {pushed : List OperationResult} (hpushed : Pushed s r u.resultCollection pushed)
    (hparams : u.paramCollection = s.paramCollection) (hwrites : u.writeOpCollection = s.writeOpCollection)
    (hlisten : u.loop.listenTicketId ≠ t) : Counting t u transfers := by
  obtain ⟨hnoParam, hnoWrite, hnoResult⟩ := not_queued hcount
  rw [count_queuedTickets] at hcount
  refine ⟨?_, ?_, fun r' hr' hticket => ?_, hlisten, ?_⟩
  · rw [hparams]
    exact fun op hop hticket => absurd hticket (hnoParam op hop)
  · rw [hwrites]
    exact fun op hop hticket => absurd hticket (hnoWrite op hop)
  · rcases hpushed with ⟨hq, -⟩ | ⟨hq, -, -⟩
    · rw [hq] at hr'
      rcases List.mem_append.mp hr' with hr' | hr'
      · exact absurd hticket (hnoResult r' hr')
      · rw [List.mem_singleton.mp hr']
        exact ⟨hsts, hsize⟩
    · rw [hq] at hr'
      exact absurd hticket (hnoResult r' hr')
  · rw [count_queuedTickets, hparams, hwrites]
    rcases hpushed with ⟨hq, -⟩ | ⟨hq, -, -⟩
    · rw [hq, List.map_append, List.count_append, List.map_singleton]
      have hone := List.count_le_length (a := t) (l := [r.opTicket])
      rw [List.length_singleton] at hone
      omega
    · rw [hq]
      omega

/-! ### Callbacks -/

/-- `lws_write` has taken everything when a write is finished, and nothing when it is kept. -/
theorem goes_outcome {op : WriteOp} {env : WriteEnv} (h : op.Goes env) (hrem : op.buffer.remainToRead ≠ 0) :
    (env.written = op.buffer.remainToRead ∧ op.outcome env = some .noError) ∨
      (env.written = 0 ∧ op.outcome env = none) := by
  rcases h with hall | ⟨hnothing, hin⟩
  · refine .inl ⟨hall, ?_⟩
    simp [WriteOp.outcome, hall]
  · refine .inr ⟨hnothing, ?_⟩
    have hne : ¬ (0 : ℤ) = op.buffer.remainToRead := fun he => hrem (Int.ofNat_eq_zero.mp he.symm)
    simp only [WriteOp.outcome, hnothing, if_neg hne, if_neg (Nat.not_lt.mpr hin)]
    rw [if_neg]
    rintro (hlt | hlt)
    · exact absurd hlt (Int.lt_irrefl 0)
    · exact absurd hlt (Int.not_lt.mpr (Int.natCast_nonneg _))

/-- The size in the result of a write that `lws_write` has taken whole. -/
theorem finish_size {op : WriteOp} (h : op.Sized) {env : WriteEnv} (hall : env.written = op.buffer.remainToRead)
    (sts : BofErr) : (op.finish env sts).size = env.written.toNat := by
  have hlength := h.length
  rw [hall, Int.toNat_natCast, Buffer.remainToRead, h.offset, WriteOp.finish, toU32]
  exact Nat.mod_eq_of_lt (by omega)

/-- **A writable callback** keeps the write with the ticket, or finishes it with all that has been taken. -/
theorem onWriteable_metering {s : State cfg} {transfers : List (ℕ × ℕ)} (h : Metering t ((s, transfers) : Metered cfg))
    (w : Wsi) {env : WriteEnv}
    (hc : ∀ op ∈ s.writeOpCollection.peek, op.result.opTicket = t → op.buffer.remainToRead ≠ 0 → op.Goes env) :
    Metering t ((s.onWriteable w env, transfers ++ s.written env) : Metered cfg) := by
  have hloop := (onWriteable_same s w env).loop
  rcases onWriteable_cases s w env with ⟨he, hempty⟩ | ⟨op, hpeek, hrem, hserved⟩
  · have hnone : s.written env = [] := by
      unfold State.written
      split
      · rfl
      · next op hpeek => rw [if_pos (hempty op hpeek)]
    rw [hnone, List.append_nil, he]
    exact h.fewer (.of_eq rfl rfl rfl) rfl
  · have hwritten : s.written env = [(op.result.opTicket, env.written.toNat)] := by
      simp only [State.written, hpeek, if_neg hrem]
    have hcons := Fifo.peek_eq_some_iff.mp hpeek
    have hmem : op ∈ s.writeOpCollection.elements := hcons ▸ List.mem_cons_self
    by_cases hticket : op.result.opTicket = t
    · obtain ⟨hsized, hbytes⟩ := h.writes op hmem hticket
      have hcount := h.count
      rw [count_queuedTickets, hcons, List.map_cons, hticket, List.count_cons_self] at hcount
      rcases hserved with ⟨hkept, he⟩ | ⟨sts, q, pushed, notified, hout, hp, he⟩
      · have hzero : bytesUnder t (transfers ++ s.written env) = bytesUnder t transfers := by
          rcases goes_outcome (hc op hpeek hticket hrem) hrem with ⟨-, hdone⟩ | ⟨hnothing, -⟩
          · rw [hkept] at hdone
            cases hdone
          · rw [bytesUnder_append, hwritten, hticket, bytesUnder_singleton, hnothing]
            rfl
        refine Metering.transfer ?_ hzero
        rw [he, callbackOnWritable_eq]
        exact h.fewer (.of_eq rfl rfl rfl) rfl
      · obtain ⟨hall, hdone⟩ : env.written = op.buffer.remainToRead ∧ op.outcome env = some .noError := by
          rcases goes_outcome (hc op hpeek hticket hrem) hrem with hdone | ⟨-, hkept⟩
          · exact hdone
          · rw [hkept] at hout
            cases hout
        obtain rfl : sts = .noError := Option.some.inj (hout.symm.trans hdone)
        have hskipped :
            ({ s with writeOpCollection := s.writeOpCollection.skip } : State cfg).queuedTickets.count t = 0 := by
          rw [count_queuedTickets]
          dsimp only at hcount ⊢
          omega
        have hbytes : bytesUnder t (transfers ++ s.written env) = env.written.toNat := by
          rw [bytesUnder_append, hbytes, hwritten, hticket, bytesUnder_singleton, Nat.zero_add]
        have hsize : (op.finish env .noError).size = bytesUnder t (transfers ++ s.written env) :=
          (finish_size hsized hall _).trans hbytes.symm
        refine ⟨?_, ?_⟩
        · rw [he]
          exact Counting.push_own hskipped rfl hsize hp rfl rfl h.listenTicketId
        · simp only [hloop]
          refine fun hhand => (h.hand hhand).imp_right fun ⟨_, _, hzero⟩ => ?_
          exact absurd hticket ((not_queued hzero).2.1 op hmem)
    · have hother : bytesUnder t (transfers ++ s.written env) = bytesUnder t transfers := by
        refine bytesUnder_other fun x hx => ?_
        rw [hwritten, List.mem_singleton] at hx
        rw [hx]
        exact hticket
      refine Metering.transfer ?_ hother
      rcases hserved with ⟨-, he⟩ | ⟨sts, q, pushed, notified, -, hp, he⟩
      · rw [he, callbackOnWritable_eq]
        exact h.fewer (.of_eq rfl rfl rfl) rfl
      · rw [he]
        obtain ⟨hcounting, hcount⟩ := h.toCounting.push_other (u := { s with
            writable := s.writable.filter (· ≠ w)
            writeOpCollection := s.writeOpCollection.skip
            resultCollection := q
            history.transmitted := s.history.transmitted ++ [(w, op)]
            history.pushed := pushed
            history.notified := notified }) (r := op.finish env sts) hticket hp rfl
              (List.tail_sublist _) h.listenTicketId
        refine ⟨hcounting, fun hhand => (h.hand hhand).imp_right fun ⟨hholds, hbytes, hzero⟩ => ⟨hholds, hbytes, ?_⟩⟩
        exact Nat.le_zero.mp (Nat.le_trans hcount (Nat.le_of_eq hzero))

/-- None of the callbacks is a writable callback. -/
def NoWriteable (cbs : List Callback) : Prop := ∀ cb ∈ cbs, ∀ side w env, cb ≠ .writeable side w env

theorem noWriteable_of_whileConnecting {cbs : List Callback} (h : ∀ cb ∈ cbs, cb.whileConnecting = true) :
    NoWriteable cbs := by
  rintro cb hcb side w env rfl
  cases h _ hcb

/-- Such callbacks leave the writes and the results alone. -/
theorem NoWriteable.sameWrites {cbs : List Callback} (h : NoWriteable cbs) (s : State cfg) :
    SameWrites s (callbacks cbs s) := by
  induction cbs generalizing s with
  | nil => exact .refl s
  | cons cb cbs ih =>
    exact (lwsCallback_sameWrites (h cb List.mem_cons_self) s).trans
      (ih (fun c hc => h c (List.mem_cons_of_mem cb hc)) _)

/-! ### Commands -/

/-- What a command does to the results, to the writes and to the variables of the loop: it sets a status, may
queue a write, and a LISTEN sets the ticket of its reports. -/
structure Issued (s t : State cfg) : Prop where
  resultCollection : t.resultCollection = s.resultCollection
  writeOpCollection : t.writeOpCollection = s.writeOpCollection ∨ ∃ nb data, s.loop.currentOp.operation = .write ∧
    t.writeOpCollection.elements = s.writeOpCollection.elements ++ [s.newWriteOp nb data]
  result : t.loop.result = { s.loop.result with sts := t.loop.result.sts }
  ticket : t.loop.currentOp.ticket = s.loop.currentOp.ticket
  listenTicketId : t.loop.listenTicketId = s.loop.listenTicketId ∨ t.loop.listenTicketId = s.loop.currentOp.ticket
  loop : s.loop.currentOp.operation ≠ .listen →
    t.loop = { s.loop with result := t.loop.result, running := t.loop.running }

theorem setSts_issued {s t : State cfg} (hc : SameCommands s t) (hw : SameWrites s t) (sts : BofErr) :
    Issued s (t.setSts sts) := by
  refine ⟨hw.resultCollection, .inl hw.writeOpCollection, ?_, ?_, .inl ?_, fun _ => ?_⟩ <;>
    simp only [State.setSts, hc.loop]

theorem command_issued (s : State cfg) (env : LoopEnv) (h : NoWriteable env.connecting) :
    Issued s (s.command env) := by
  have hsame : ∀ sts, Issued s (s.setSts sts) := setSts_issued (.refl s) (.refl s)
  have hgone : ∀ sts, Issued s ((s.clientDisconnect env.destroying).setSts sts) :=
    setSts_issued (clientDisconnect_same s env.destroying).1 (clientDisconnect_same s env.destroying).2
  unfold State.command
  split
  · next hop =>
    have hlisten : s.loop.currentOp.operation = .listen := by rw [OperationParam.operation, hop]; rfl
    simp only [State.commandListen]
    split_ifs
    · exact hsame _
    · exact ⟨rfl, .inl rfl, rfl, rfl, .inr rfl, fun hother => absurd hlisten hother⟩
    · have hdone := clientDisconnect_same ({ s with webSocketState.connectDone := false } : State cfg) env.destroying
      exact setSts_issued (s := s)
        ⟨⟨hdone.1.paramCollection, hdone.1.cancel, hdone.1.programmed, hdone.1.collected, hdone.1.executed⟩,
          hdone.1.loop⟩
        ⟨hdone.2.writeOpCollection, hdone.2.resultCollection, hdone.2.pushed, hdone.2.transmitted⟩ _
    · exact hsame _
  · rw [State.commandConnect]
    split
    · exact hsame _
    · split
      · split
        · have hcommands := callbacks_same env.connecting ({ s with lwsContext := true } : State cfg)
          have hwrites := h.sameWrites ({ s with lwsContext := true } : State cfg)
          exact setSts_issued (s := s)
            (t := { callbacks env.connecting { s with lwsContext := true } with
              webSocketState.pWebSocket := env.connectVia })
            ⟨⟨hcommands.paramCollection, hcommands.cancel, hcommands.programmed, hcommands.collected,
              hcommands.executed⟩, hcommands.loop⟩
            ⟨hwrites.writeOpCollection, hwrites.resultCollection, hwrites.pushed, hwrites.transmitted⟩ _
        · exact hgone _
      · exact hsame _
  · simp only [State.commandDisconnect]
    split_ifs
    · exact hsame _
    · exact hgone _
    · exact hsame _
  · exact ⟨rfl, .inl rfl, rfl, rfl, .inl rfl, fun _ => rfl⟩
  · exact hsame _
  · next nb buffer hop =>
    rcases commandWrite_cases s env nb buffer with ⟨sts, -, he⟩ | ⟨data, q, -, hq, he⟩
    · rw [he]
      exact hsame _
    · have hwrite : s.loop.currentOp.operation = .write := by rw [OperationParam.operation, hop]; rfl
      rw [he]
      exact ⟨rfl, .inr ⟨nb, data, hwrite, (Fifo.push_eq_some_iff.mp hq).2⟩, rfl, rfl, .inl rfl, fun _ => rfl⟩
  · exact hsame _

/-- The payload of a WRITE is cut to a buffer whose size fits in 32 bits. -/
theorem newWriteOp_sized (s : State cfg) (nb : ℕ) (data : List UInt8) : (s.newWriteOp nb data).Sized := by
  refine ⟨rfl, ?_⟩
  have hcapacity : toU32 (lwsPre + nb) < 2 ^ 32 := Nat.mod_lt _ (by decide)
  simp only [State.newWriteOp, Buffer.write, Buffer.allocate, List.length_append, List.length_replicate,
    List.length_take]
  omega

/-- Neither being popped nor the beginning of a command matters to whether it succeeds. -/
theorem succeeds_begun (s : State cfg) (op : OperationParam) (env : LoopEnv) (opParam : OpParam) :
    ((s.popped op).beginCommand env).succeeds env opParam ↔ s.succeeds env opParam := by
  cases opParam <;> exact Iff.rfl

/-- After the command of an iteration the operation with the ticket `t` is in hand: it has not failed, and is in time.
-/
structure State.Starts (t : ℕ) (s : State cfg) (env : LoopEnv) : Prop where
  ioPending : s.loop.ioPending = true
  opTicket : s.loop.result.opTicket = t
  ticket : s.loop.currentOp.operation = .read → s.loop.currentOp.ticket = t
  size : s.loop.result.size = 0
  punctual : s.punctual env s.loop.currentOp
  listen : s.loop.currentOp.operation ≠ .listen
  disconnect : s.loop.currentOp.operation = .disconnect → s.loop.result.sts = .noError

/-- After the command: nothing has been transferred for the operation in hand, whose ticket is in no queue, unless it
is a WRITE. -/
structure Begins (t : ℕ) (s : State cfg) (transfers : List (ℕ × ℕ)) (env : LoopEnv) : Prop
    extends Counting t s transfers where
  hand : s.loop.ioPending = true ∨ s.loop.sendResult = true → s.loop.Other t ∨ (s.Starts t env ∧
    bytesUnder t transfers = 0 ∧ (s.loop.currentOp.operation = .write ∨ s.queuedTickets.count t = 0))

section Command

variable {s : State cfg} {transfers : List (ℕ × ℕ)} {env : LoopEnv} {op : OperationParam}

/-- No command. -/
theorem Metering.began_idle (h : Metering t ((s, transfers) : Metered cfg)) (hc : s.Executes t env)
    (hparams : s.paramCollection.elements = []) :
    Begins t { s with loop.currentOp := if s.loop.service then s.loop.currentOp else .reset } transfers env := by
  refine ⟨h.toCounting.fewer (.of_eq rfl rfl rfl) h.listenTicketId, fun hhand => ?_⟩
  have htaken : s.taken = none := by
    simp only [State.taken, Fifo.peek_eq_none_iff.mpr hparams, ite_self]
  dsimp only
  rcases h.hand hhand with ⟨hticket, hread⟩ | ⟨hholds, hbytes, hcount⟩
  · refine .inl ⟨hticket, ?_⟩
    dsimp only
    split_ifs
    · exact hread
    · exact fun hreset => by cases hreset
  · refine .inr ⟨⟨hholds.ioPending, hholds.opTicket, ?_, hholds.size, ?_, ?_, ?_⟩, hbytes, .inr hcount⟩
    · dsimp only
      split_ifs
      · exact hholds.ticket
      · exact fun hreset => by cases hreset
    · exact hc.2.2 htaken hholds.ioPending hholds.opTicket
    · dsimp only
      split_ifs
      · rcases hholds.operation with hop | hop <;> rw [hop] <;> exact fun he => by cases he
      · exact fun he => by cases he
    · dsimp only
      split_ifs
      · rcases hholds.operation with hop | hop <;> rw [hop] <;> exact fun he => by cases he
      · exact fun he => by cases he

/-- The rest of the queue of commands. -/
theorem popped_fewer (s : State cfg) (op : OperationParam) : Fewer s (s.popped op) :=
  ⟨List.tail_sublist _, List.Sublist.refl _, List.Sublist.refl _⟩

/-- A command that overwrites another operation. -/
theorem Metering.began_overwritten (h : Metering t ((s, transfers) : Metered cfg)) (hc : s.Executes t env)
    (hop : s.paramCollection.elements = op :: s.paramCollection.skip.elements) (hp : s.loop.ioPending = true)
    (hlistening : s.loop.listeningMode = false) : Begins t (s.popped op) transfers env := by
  obtain ⟨hticket, hnext⟩ := hc.1 hp hlistening (by rw [hop]; exact List.cons_ne_nil _ _)
  exact ⟨h.toCounting.fewer (popped_fewer s op) h.listenTicketId,
    fun _ => .inl ⟨hticket, fun _ => hnext op (Fifo.peek_eq_some_iff.mpr hop)⟩⟩

/-- A command with another ticket. -/
theorem Metering.began_other (h : Metering t ((s, transfers) : Metered cfg)) (hticket : op.ticket ≠ t)
    (hissued : Issued ((s.popped op).beginCommand env) (((s.popped op).beginCommand env).command env))
    (hparams : (((s.popped op).beginCommand env).command env).paramCollection = s.paramCollection.skip) :
    Begins t ((s.popped op).takeCommand env) transfers env := by
  have hresult := hissued.result
  have hpopped := h.toCounting.fewer (popped_fewer s op) h.listenTicketId
  have hlisten : (((s.popped op).beginCommand env).command env).loop.listenTicketId ≠ t := by
    rcases hissued.listenTicketId with hsame | hown
    · rw [hsame]
      exact h.listenTicketId
    · rw [hown]
      exact hticket
  rw [takeCommand_eq]
  refine ⟨⟨?_, ?_, ?_, hlisten, ?_⟩, fun _ => .inl ⟨?_, fun _ => ?_⟩⟩
  · dsimp only
    rw [hparams]
    exact hpopped.params
  · dsimp only
    intro op' hop' hop'ticket
    rcases hissued.writeOpCollection with hsame | ⟨nb, data, -, hqueued⟩
    · rw [hsame] at hop'
      exact h.writes op' hop' hop'ticket
    · rw [hqueued] at hop'
      rcases List.mem_append.mp hop' with hop' | hop'
      · exact h.writes op' hop' hop'ticket
      · rw [List.mem_singleton.mp hop'] at hop'ticket
        exact absurd hop'ticket hticket
  · dsimp only
    rw [hissued.resultCollection]
    exact h.results
  · have hcount := hpopped.count
    rw [count_queuedTickets] at hcount ⊢
    dsimp only
    rw [hparams, hissued.resultCollection]
    rcases hissued.writeOpCollection with hsame | ⟨nb, data, -, hqueued⟩
    · rw [hsame]
      exact hcount
    · have hnone : List.count t [((s.popped op).beginCommand env |>.newWriteOp nb data).result.opTicket] = 0 :=
        List.count_eq_zero.mpr fun hmem => hticket (List.mem_singleton.mp hmem).symm
      rw [hqueued, List.map_append, List.count_append, List.map_singleton, hnone, Nat.add_zero]
      exact hcount
  · dsimp only
    rw [hresult]
    exact hticket
  · dsimp only
    rw [hissued.ticket]
    exact hticket

/-- The command with the ticket succeeds. -/
theorem Metering.began_own (h : Metering t ((s, transfers) : Metered cfg)) (hc : s.Executes t env)
    (hop : s.paramCollection.elements = op :: s.paramCollection.skip.elements) (htaken : s.taken = some op)
    (hticket : op.ticket = t)
    (hissued : Issued ((s.popped op).beginCommand env) (((s.popped op).beginCommand env).command env))
    (hparams : (((s.popped op).beginCommand env).command env).paramCollection = s.paramCollection.skip) :
    Begins t ((s.popped op).takeCommand env) transfers env := by
  obtain ⟨hlisten, hbytes⟩ := h.params op (hop ▸ List.mem_cons_self) hticket
  obtain ⟨hsucceeds, hpunctual⟩ := hc.2.1 op htaken hticket
  have hsts : (((s.popped op).beginCommand env).command env).loop.result.sts = .noError :=
    (command_succeeds_iff _ env).mpr ((succeeds_begun s op env op.opParam).mpr hsucceeds)
  have hloop := hissued.loop hlisten
  have hresult := hissued.result
  -- the ticket is in no other queue
  have hnone : (s.popped op).queuedTickets.count t = 0 := by
    have hcount := h.count
    rw [count_queuedTickets] at hcount ⊢
    rw [hop, List.map_cons, hticket, List.count_cons_self] at hcount
    dsimp only [State.popped] at hcount ⊢
    omega
  obtain ⟨hnoParam, hnoWrite, hnoResult⟩ := not_queued hnone
  rw [count_queuedTickets] at hnone
  rw [takeCommand_eq]
  refine ⟨⟨?_, ?_, ?_, ?_, ?_⟩, fun _ => .inr ⟨⟨?_, ?_, fun _ => ?_, ?_, ?_, ?_, fun _ => ?_⟩, hbytes, ?_⟩⟩
  · dsimp only
    rw [hparams]
    exact fun op' hop' hop'ticket => absurd hop'ticket (hnoParam op' hop')
  · dsimp only
    intro op' hop' hop'ticket
    refine ⟨?_, hbytes⟩
    rcases hissued.writeOpCollection with hsame | ⟨nb, data, -, hqueued⟩
    · rw [hsame] at hop'
      exact absurd hop'ticket (hnoWrite op' hop')
    · rw [hqueued] at hop'
      rcases List.mem_append.mp hop' with hop' | hop'
      · exact absurd hop'ticket (hnoWrite op' hop')
      · rw [List.mem_singleton.mp hop']
        exact newWriteOp_sized _ nb data
  · dsimp only
    rw [hissued.resultCollection]
    exact fun r hr hr'ticket => absurd hr'ticket (hnoResult r hr)
  · dsimp only
    rw [hloop]
    exact h.listenTicketId
  · rw [count_queuedTickets]
    dsimp only
    rw [hparams, hissued.resultCollection]
    rcases hissued.writeOpCollection with hsame | ⟨nb, data, -, hqueued⟩
    · rw [hsame]
      exact Nat.le_trans (Nat.le_of_eq hnone) (Nat.zero_le 1)
    · have hone := List.count_le_length (a := t)
        (l := [((s.popped op).beginCommand env |>.newWriteOp nb data).result.opTicket])
      rw [List.length_singleton] at hone
      rw [hqueued, List.map_append, List.count_append, List.map_singleton]
      dsimp only [State.beginCommand, State.popped] at hnone hone ⊢
      omega
  · dsimp only
    rw [hsts]
    exact Bool.or_true _
  · dsimp only
    rw [hresult]
    exact hticket
  · dsimp only
    rw [hissued.ticket]
    exact hticket
  · dsimp only
    rw [hresult]
    rfl
  · dsimp only [State.punctual, State.inTime]
    rw [hloop]
    exact hpunctual
  · dsimp only
    rw [hloop]
    exact hlisten
  · exact hsts
  · dsimp only
    rw [hloop]
    rcases hissued.writeOpCollection with hsame | ⟨nb, data, hwrite, -⟩
    · refine .inr ?_
      rw [count_queuedTickets]
      dsimp only
      rw [hparams, hissued.resultCollection, hsame]
      exact hnone
    · exact .inl hwrite

/-- **The command of an iteration.** -/
theorem newCommand_begins (h : Metering t ((s, transfers) : Metered cfg)) (hc : s.Executes t env)
    (hconnecting : ∀ cb ∈ env.connecting, cb.whileConnecting = true) : Begins t (s.newCommand env) transfers env := by
  rcases newCommand_cases s env with ⟨hparams, he⟩ | ⟨op, hop, ⟨hp, hl, he⟩ | ⟨htaken, he⟩⟩
  · rw [he]
    exact h.began_idle hc hparams
  · rw [he]
    exact h.began_overwritten hc hop hp hl
  · have hissued := command_issued ((s.popped op).beginCommand env) env (noWriteable_of_whileConnecting hconnecting)
    have hparams := (command_sameUser ((s.popped op).beginCommand env) env).paramCollection
    rw [he]
    by_cases hticket : op.ticket = t
    · exact h.began_own hc hop htaken hticket hissued hparams
    · exact h.began_other hticket hissued hparams

end Command

/-! ### The pending operation -/

/-- The result of the operation with the ticket `t` is a success, and counts `n` bytes. -/
structure Processing.Answers (t n : ℕ) (l : Processing) : Prop where
  ioPending : l.ioPending = false
  opTicket : l.result.opTicket = t
  sts : l.result.sts = .noError
  size : l.result.size = n

/-- After the pending operation has been looked at: the operation in hand waits, or is about to be answered. -/
structure Settles (t : ℕ) (s : State cfg) (transfers : List (ℕ × ℕ)) : Prop extends Counting t s transfers where
  hand : s.loop.ioPending = true ∨ s.loop.sendResult = true → s.loop.Other t ∨ (s.queuedTickets.count t = 0 ∧
    ((s.loop.Holds t ∧ bytesUnder t transfers = 0) ∨ s.loop.Answers t (bytesUnder t transfers)))

/-- What is pending keeps its ticket, unless a LISTEN reports. -/
theorem pending_tickets (s : State cfg) (env : LoopEnv) :
    (s.pending env).loop.listenTicketId = s.loop.listenTicketId ∧
      (s.pending env).loop.currentOp.operation = s.loop.currentOp.operation ∧
      (s.pending env).loop.currentOp.ticket = s.loop.currentOp.ticket ∧
      ((s.pending env).loop.result.opTicket = s.loop.result.opTicket ∨
        (s.pending env).loop.result.opTicket = s.loop.listenTicketId) := by
  simp only [State.pending]
  split
  · split_ifs
    · exact ⟨rfl, rfl, rfl, .inr rfl⟩
    · exact ⟨rfl, rfl, rfl, .inl rfl⟩
  · split_ifs <;> exact ⟨rfl, rfl, rfl, .inl rfl⟩
  · exact ⟨rfl, rfl, rfl, .inl rfl⟩
  · split <;> exact ⟨rfl, rfl, rfl, .inl rfl⟩
  · exact ⟨rfl, rfl, rfl, .inl rfl⟩
  · exact ⟨rfl, rfl, rfl, .inl rfl⟩

theorem pendingOperation_tickets (s : State cfg) (env : LoopEnv) :
    (s.pendingOperation env).loop.listenTicketId = s.loop.listenTicketId ∧
      (s.pendingOperation env).loop.currentOp.operation = s.loop.currentOp.operation ∧
      (s.pendingOperation env).loop.currentOp.ticket = s.loop.currentOp.ticket ∧
      ((s.pendingOperation env).loop.result.opTicket = s.loop.result.opTicket ∨
        (s.pendingOperation env).loop.result.opTicket = s.loop.listenTicketId) := by
  obtain ⟨u, rfl, ⟨-, he⟩ | ⟨-, he⟩⟩ := pendingOperation_cases s env
  · rw [he]
    exact pending_tickets s env
  · rw [he, timeOutOperation_loop]
    exact pending_tickets s env

/-- What `PopBuffer` copies is copied for a READ. -/
theorem copied_ticket {s : State cfg} {x : ℕ × ℕ} (hx : x ∈ s.copied) :
    s.loop.currentOp.operation = .read ∧ x.1 = s.loop.currentOp.ticket := by
  unfold State.copied at hx
  split at hx
  · next nb buffer m rx hop hpop =>
    refine ⟨?_, ?_⟩
    · rw [OperationParam.operation, hop]
      rfl
    · rw [List.mem_singleton.mp hx]
  · exact absurd hx List.not_mem_nil

/-- An operation with another ticket. -/
theorem Begins.settles_other {s : State cfg} {transfers : List (ℕ × ℕ)} {env : LoopEnv} (h : Begins t s transfers env)
    (hother : s.loop.Other t) : Settles t (s.pendingOperation env) (transfers ++ s.copied) := by
  obtain ⟨huser, hwrites, -⟩ := pendingOperation_same s env
  obtain ⟨hlisten, hoperation, hticket, hresult⟩ := pendingOperation_tickets s env
  have hbytes : bytesUnder t (transfers ++ s.copied) = bytesUnder t transfers := by
    refine bytesUnder_other fun x hx => ?_
    obtain ⟨hread, hx⟩ := copied_ticket hx
    rw [hx]
    exact hother.2 hread
  have hfewer : Fewer s (s.pendingOperation env) :=
    .of_eq huser.paramCollection hwrites.writeOpCollection hwrites.resultCollection
  refine ⟨(h.toCounting.fewer hfewer (hlisten ▸ h.listenTicketId)).transfer hbytes, fun _ => .inl ⟨?_, fun hread => ?_⟩⟩
  · rcases hresult with hsame | hreport
    · rw [hsame]
      exact hother.1
    · rw [hreport]
      exact h.listenTicketId
  · rw [hticket]
    exact hother.2 (hoperation.symm.trans hread)

/-- An operation that starts is not over time when it is looked at. -/
theorem State.Starts.pendingOperation {s : State cfg} {env : LoopEnv} (h : s.Starts t env) :
    ∃ time, s.pendingOperation env = { s.pending env with loop.result.time := time } := by
  obtain ⟨hkept, -⟩ := pending_kept env h.listen
  obtain ⟨u, rfl, ⟨-, he⟩ | ⟨hover, -⟩⟩ := pendingOperation_cases s env
  · exact ⟨_, he⟩
  · simp only [State.isOverTime, hkept.currentOp, hkept.listeningMode, Bool.and_eq_true, Bool.not_eq_true', bne_iff_ne,
      decide_eq_true_eq] at hover
    rcases h.punctual with hwrite | hlistening | hin
    · exact absurd hwrite hover.1.2
    · exact absurd (hover.1.1.symm.trans hlistening) Bool.false_ne_true
    · exact absurd hover.2 (Nat.not_lt.mpr hin)

/-- **The operation with the ticket** waits, or is answered with what `PopBuffer` has copied for it. -/
theorem State.Starts.pending {s : State cfg} {env : LoopEnv} (h : s.Starts t env) :
    ((s.pending env).loop.ioPending = true ∨ (s.pending env).loop.sendResult = true →
      s.loop.currentOp.operation ≠ .write ∧ (((s.pending env).loop.Holds t ∧ bytesUnder t s.copied = 0) ∨
        (s.pending env).loop.Answers t (bytesUnder t s.copied))) ∧
      (s.loop.currentOp.operation = .write → bytesUnder t s.copied = 0) := by
  have hlisten := h.listen
  have hticket := h.ticket
  have hdisconnect := h.disconnect
  unfold OperationParam.operation at hlisten hticket hdisconnect ⊢
  simp only [State.pending]
  cases hop : s.loop.currentOp.opParam with
  | listen => simp [hop, OpParam.operation] at hlisten
  | connect key =>
    have hnone : bytesUnder t s.copied = 0 := by simp [State.copied, hop]
    have hconnect : s.loop.currentOp.operation = .connect := by rw [OperationParam.operation, hop]; rfl
    have hnotRead : s.loop.currentOp.operation = .read → s.loop.currentOp.ticket = t := fun hread => by
      cases hconnect.symm.trans hread
    rw [hnone]
    refine ⟨fun _ => ⟨by rintro ⟨⟩, ?_⟩, fun _ => rfl⟩
    dsimp only
    split_ifs
    · exact .inr ⟨rfl, h.opTicket, rfl, h.size⟩
    · exact .inl ⟨⟨h.ioPending, rfl, .inl hconnect, h.opTicket, hnotRead, h.size⟩, rfl⟩
  | disconnect =>
    have hnone : bytesUnder t s.copied = 0 := by simp [State.copied, hop]
    rw [hnone]
    refine ⟨fun _ => ⟨by rintro ⟨⟩, .inr ⟨rfl, h.opTicket, ?_, h.size⟩⟩, fun _ => rfl⟩
    exact hdisconnect (by rw [hop]; rfl)
  | read nb buffer =>
    have hread : s.loop.currentOp.operation = .read := by rw [OperationParam.operation, hop]; rfl
    have hticket := h.ticket hread
    refine ⟨fun _ => ⟨by rintro ⟨⟩, ?_⟩, by rintro ⟨⟩⟩
    cases hrx : s.rxBufferCollection.popBuffer with
    | none =>
      have hnone : bytesUnder t s.copied = 0 := by simp [State.copied, hop, hrx]
      exact .inl ⟨⟨h.ioPending, rfl, .inr hread, h.opTicket, fun _ => hticket, h.size⟩, hnone⟩
    | some found =>
      have hsome : bytesUnder t s.copied = min nb (Message.payload found.1).length := by
        simp [State.copied, hop, hrx, hticket]
      exact .inr ⟨rfl, h.opTicket, rfl, hsome.symm⟩
  | write nb buffer =>
    refine ⟨?_, fun _ => by simp [State.copied, hop]⟩
    rintro (he | he) <;> cases he
  | exit | max =>
    refine ⟨?_, fun he => by cases he⟩
    rintro (he | he) <;> cases he

/-- The operation with the ticket. -/
theorem Begins.settles_own {s : State cfg} {transfers : List (ℕ × ℕ)} {env : LoopEnv} (h : Begins t s transfers env)
    (hstarts : s.Starts t env) (hbytes : bytesUnder t transfers = 0)
    (hcount : s.loop.currentOp.operation = .write ∨ s.queuedTickets.count t = 0) :
    Settles t (s.pendingOperation env) (transfers ++ s.copied) := by
  obtain ⟨huser, hwrites, -⟩ := pendingOperation_same s env
  have hlisten := (pendingOperation_tickets s env).1
  have hfewer : Fewer s (s.pendingOperation env) :=
    .of_eq huser.paramCollection hwrites.writeOpCollection hwrites.resultCollection
  have hcounting := h.toCounting.fewer hfewer (hlisten ▸ h.listenTicketId)
  obtain ⟨hpending, hwrite⟩ := hstarts.pending
  obtain ⟨time, he⟩ := hstarts.pendingOperation
  refine ⟨?_, fun hhand => ?_⟩
  · rcases hcount with hkind | hzero
    · refine hcounting.transfer ?_
      rw [bytesUnder_append, hwrite hkind, Nat.add_zero]
    · have hzero : (s.pendingOperation env).queuedTickets.count t = 0 :=
        Nat.le_zero.mp (Nat.le_trans (hfewer.count_le t) (Nat.le_of_eq hzero))
      obtain ⟨hnoParam, hnoWrite, hnoResult⟩ := not_queued hzero
      exact ⟨fun op hop hticket => absurd hticket (hnoParam op hop),
        fun op hop hticket => absurd hticket (hnoWrite op hop),
        fun r hr hticket => absurd hticket (hnoResult r hr), hcounting.listenTicketId, hcounting.count⟩
  · rw [bytesUnder_append, hbytes, Nat.zero_add]
    rw [he] at hhand hfewer ⊢
    obtain ⟨hkind, hsettled⟩ := hpending hhand
    have hzero := hcount.resolve_left hkind
    refine .inr ⟨Nat.le_zero.mp (Nat.le_trans (hfewer.count_le t) (Nat.le_of_eq hzero)), ?_⟩
    rcases hsettled with ⟨hholds, hnone⟩ | hanswers
    · exact .inl ⟨⟨hholds.ioPending, hholds.sendResult, hholds.operation, hholds.opTicket, hholds.ticket, hholds.size⟩,
        hnone⟩
    · exact .inr ⟨hanswers.ioPending, hanswers.opTicket, hanswers.sts, hanswers.size⟩

/-- The command, and the pending operation if there is one. -/
theorem beforeCancel_settles {s : State cfg} {transfers : List (ℕ × ℕ)} (h : Metering t ((s, transfers) : Metered cfg))
    {env : LoopEnv} (hc : (Event.iterate env).Fulfils t s) :
    Settles t (s.beforeCancel env)
      (transfers ++ if (s.newCommand env).loop.ioPending then (s.newCommand env).copied else []) := by
  have hbegins := newCommand_begins h hc.1 hc.2
  simp only [State.beforeCancel]
  split_ifs with hp
  · rcases hbegins.hand (.inl hp) with hother | ⟨hstarts, hbytes, hcount⟩
    · exact hbegins.settles_other hother
    · exact hbegins.settles_own hstarts hbytes hcount
  · rw [List.append_nil]
    refine ⟨hbegins.toCounting, fun hhand => (hbegins.hand hhand).imp_right fun hstarts => ?_⟩
    exact absurd hstarts.1.ioPending hp

/-! ### Iterations -/

/-- The cancel block, the result, and the end of the loop. -/
theorem Settles.metering {s : State cfg} {transfers : List (ℕ × ℕ)} (h : Settles t s transfers) (env : LoopEnv) :
    Metering t ((s.endIteration env, transfers) : Metered cfg) := by
  have hend : ∀ {u : State cfg}, Metering t ((u, transfers) : Metered cfg) →
      Metering t ((u.loopEnd env, transfers) : Metered cfg) := by
    intro u hu
    obtain ⟨huser, hwrites, -⟩ := loopEnd_same u env
    obtain ⟨running, service, hloop⟩ := loopEnd_loop u env
    have hfewer : Fewer u (u.loopEnd env) :=
      .of_eq huser.paramCollection hwrites.writeOpCollection hwrites.resultCollection
    refine ⟨hu.toCounting.fewer hfewer (by rw [hloop]; exact hu.listenTicketId), ?_⟩
    simp only [hloop]
    refine fun hhand => (hu.hand hhand).imp_right fun ⟨hholds, hbytes, hzero⟩ => ⟨?_, hbytes, ?_⟩
    · exact ⟨hholds.ioPending, hholds.sendResult, hholds.operation, hholds.opTicket, hholds.ticket, hholds.size⟩
    · exact Nat.le_zero.mp (Nat.le_trans (hfewer.count_le t) (Nat.le_of_eq hzero))
  simp only [State.endIteration]
  refine hend ?_
  have hcancel : Settles t (if s.cancel then s.cancelBlock else s) transfers := by
    split_ifs
    · refine ⟨h.toCounting.fewer ⟨List.nil_sublist _, List.nil_sublist _, List.nil_sublist _⟩ h.listenTicketId, ?_⟩
      rintro (he | he) <;> cases he
    · exact h
  generalize (if s.cancel then s.cancelBlock else s) = u at hcancel ⊢
  split_ifs with hsend
  · obtain ⟨time, q, pushed, notified, he, hpushed⟩ := sendResult_eq u env
    rw [he]
    rcases hcancel.hand (.inr hsend) with hother | ⟨hzero, ⟨hholds, -⟩ | hanswers⟩
    · obtain ⟨hcounting, -⟩ := hcancel.toCounting.push_other (u := { u with
        loop.sendResult := false
        loop.result.time := time
        resultCollection := q
        history.pushed := pushed
        history.notified := notified }) (r := { u.loop.result with time := time }) hother.1 hpushed rfl
        (List.Sublist.refl _) hcancel.listenTicketId
      exact ⟨hcounting, fun _ => .inl hother⟩
    · exact absurd (hholds.sendResult.symm.trans hsend) Bool.false_ne_true
    · refine ⟨Counting.push_own hzero (r := { u.loop.result with time := time }) hanswers.sts hanswers.size hpushed rfl
        rfl hcancel.listenTicketId, ?_⟩
      rintro (hp | hp)
      · exact absurd (hanswers.ioPending.symm.trans hp) Bool.false_ne_true
      · cases hp
  · refine ⟨hcancel.toCounting, fun hhand => (hcancel.hand hhand).imp_right ?_⟩
    rintro ⟨hzero, ⟨hholds, hbytes⟩ | hanswers⟩
    · exact ⟨hholds, hbytes, hzero⟩
    · rcases hhand with hp | hp
      · exact absurd (hanswers.ioPending.symm.trans hp) Bool.false_ne_true
      · exact absurd hp hsend

theorem iterate_metering {s : State cfg} {transfers : List (ℕ × ℕ)} (h : Metering t ((s, transfers) : Metered cfg))
    {env : LoopEnv} (hc : (Event.iterate env).Fulfils t s) :
    Metering t (meter ((s, transfers) : Metered cfg) (.iterate env)) := by
  cases hrun : s.loop.running with
  | false =>
    have he : meter ((s, transfers) : Metered cfg) (.iterate env) = (s, transfers) := by
      simp only [meter, step, iterate_of_stopped hrun, State.transfers, hrun, Bool.false_and, Bool.false_eq_true,
        if_false, List.append_nil]
    rw [he]
    exact h
  | true =>
    have he : meter ((s, transfers) : Metered cfg) (.iterate env) = ((s.beforeCancel env).endIteration env,
        transfers ++ if (s.newCommand env).loop.ioPending then (s.newCommand env).copied else []) := by
      simp only [meter, step, State.transfers, iterate_eq hrun, hrun, Bool.true_and]
    rw [he]
    exact (beforeCancel_settles h hc).metering env

/-! ### Runs -/

/-- An operation that is programmed while another one has the ticket. -/
theorem Counting.program_other {s : State cfg} {transfers : List (ℕ × ℕ)} (h : Counting t s transfers)
    {q : Fifo OperationParam cfg.nbMaxOperationPending} {op : OperationParam} (hticket : op.ticket ≠ t)
    (helements : q.elements = s.paramCollection.elements ++ [op]) {u : State cfg} (hparams : u.paramCollection = q)
    (hwrites : u.writeOpCollection = s.writeOpCollection) (hresults : u.resultCollection = s.resultCollection)
    (hlisten : u.loop.listenTicketId ≠ t) :
    Counting t u transfers ∧ u.queuedTickets.count t = s.queuedTickets.count t := by
  have hcount : u.queuedTickets.count t = s.queuedTickets.count t := by
    have hnone : List.count t [op.ticket] = 0 :=
      List.count_eq_zero.mpr fun hmem => hticket (List.mem_singleton.mp hmem).symm
    rw [count_queuedTickets, count_queuedTickets, hparams, hwrites, hresults, helements, List.map_append,
      List.count_append, List.map_singleton, hnone, Nat.add_zero]
  refine ⟨⟨fun op' hop' hop'ticket => ?_, ?_, ?_, hlisten, Nat.le_trans (Nat.le_of_eq hcount) h.count⟩, hcount⟩
  · rw [hparams, helements] at hop'
    rcases List.mem_append.mp hop' with hop' | hop'
    · exact h.params op' hop' hop'ticket
    · rw [List.mem_singleton.mp hop'] at hop'ticket
      exact absurd hop'ticket hticket
  · rw [hwrites]
    exact h.writes
  · rw [hresults]
    exact h.results

/-- A call of the user. -/
theorem Metering.user {s : State cfg} {transfers : List (ℕ × ℕ)} (h : Metering t ((s, transfers) : Metered cfg))
    {e : Event} (hu : e.isUser = true) (hc : e.Fulfils t s) : Metering t ((step s e, transfers) : Metered cfg) := by
  have hsame := step_sameEngine s hu
  cases e with
  | callback cb | iterate env => cases hu
  | program timeOut tick opParam =>
    simp only [step, State.program]
    split
    · next q hq =>
      obtain ⟨hroom, helements⟩ := Fifo.push_eq_some_iff.mp hq
      obtain ⟨hcounting, hcount⟩ := h.toCounting.program_other (hc hroom) helements (u := { s with
        ticket := cfg.incTicketNumber s.ticket
        paramCollection := q
        operationPending := true
        history.programmed := s.history.programmed ++ [(s.ticket, opParam.operation)] }) rfl rfl rfl h.listenTicketId
      refine ⟨hcounting, fun hhand => (h.hand hhand).imp_right fun hholds => ⟨hholds.1, hholds.2.1, ?_⟩⟩
      exact hcount.trans hholds.2.2
    · exact h.fewer (.of_eq rfl rfl rfl) rfl
  | collect =>
    refine h.fewer ⟨?_, ?_, ?_⟩ hsame.loop <;> simp only [step, State.collect] <;> split
    · exact List.Sublist.refl _
    · exact List.Sublist.refl _
    · exact List.Sublist.refl _
    · exact List.Sublist.refl _
    · next r q hq =>
      rw [Fifo.pop_eq_some_iff.mp hq]
      exact List.sublist_cons_self r q.elements
    · exact List.Sublist.refl _
  | cancel timeOut =>
    refine h.fewer (.of_eq ?_ ?_ ?_) hsame.loop <;> simp only [step, State.cancelOperation] <;> split_ifs <;> rfl
  | cancelled =>
    refine h.fewer (.of_eq ?_ ?_ ?_) hsame.loop <;> simp only [step, State.cancelled] <;> split_ifs <;> rfl
  | clear => exact h.fewer (.of_eq rfl rfl rfl) hsame.loop
  | reset => exact h.fewer ⟨List.nil_sublist _, List.Sublist.refl _, List.nil_sublist _⟩ hsame.loop

/-- **One event** that fulfils the operation with the ticket. -/
theorem meter_metering (p : Metered cfg) (e : Event) (h : Metering t p) (hc : e.Fulfils t p.1) :
    Metering t (meter p e) := by
  obtain ⟨s, transfers⟩ := p
  cases e using Event.byCause with
  | user e hu =>
    simp only [meter, transfers_user s hu, List.append_nil]
    exact h.user hu hc
  | callback cb =>
    simp only [meter, step]
    split_ifs with hctx
    · by_cases hw : ∃ side w env, cb = .writeable side w env
      · obtain ⟨side, w, env, rfl⟩ := hw
        simp only [State.transfers, hctx, if_true]
        exact onWriteable_metering h w hc
      · have hnone : s.transfers (.callback cb) = [] := by
          cases cb with
          | writeable side w env => exact absurd ⟨side, w, env, rfl⟩ hw
          | httpBindProtocol _ | addHeaders _ _ | established _ _ _ | clientEstablished _ _ | receive _ _ _ _ _
          | clientClosed _ | closed _ | clientConnectionError _ _ | other _ => rfl
        have hwrites := lwsCallback_sameWrites (fun side w env he => hw ⟨side, w, env, he⟩) s
        have hcommands := lwsCallback_same cb s
        rw [hnone, List.append_nil]
        exact h.fewer (.of_eq hcommands.paramCollection hwrites.writeOpCollection hwrites.resultCollection)
          hcommands.loop
    · have hnone : s.transfers (.callback cb) = [] := by
        cases cb with
        | writeable side w env => exact if_neg hctx
        | httpBindProtocol _ | addHeaders _ _ | established _ _ _ | clientEstablished _ _ | receive _ _ _ _ _
        | clientClosed _ | closed _ | clientConnectionError _ _ | other _ => rfl
      rw [hnone, List.append_nil]
      exact h
  | iterate env => exact iterate_metering h hc

end BofWebRpc.WebSocket
