import BofWebRpc.WebSocket.Accounting
import BofWebRpc.WebSocket.Sharing
import BofWebRpc.WebSocket.Timeouts
import BofWebRpc.WebSocket.Wakeup

/-!
# Where a ticket is

The ticket of an operation is in the queue of commands, then in hand while the operation is
pending or its result about to be sent, then in the queue of results. A WRITE is different: its ticket
goes to the queue of writes too, and a WRITE whose request for a writable callback is not granted
leaves it in both.

## What is proved

* `Owned.step` — a ticket that no WRITE has is never copied, in any step of a client that neither
  listens nor cancels, unless the step programs an operation with this ticket.
-/

namespace BofWebRpc.WebSocket

open Runs

variable {cfg : WebSocketParam} {s : State cfg} {t n : ℕ}

/-- The tickets of the operations that are queued, in hand or answered. -/
def State.tickets (s : State cfg) : List ℕ :=
  s.paramCollection.elements.map OperationParam.ticket ++ s.loop.inHand.map Prod.fst ++
    s.resultCollection.elements.map OperationResult.opTicket

/-- The ticket is there `n` times at most, and no WRITE has it. -/
structure Owned (t n : ℕ) (s : State cfg) : Prop where
  /-- Neither one that is queued to be sent. -/
  writes : ∀ op ∈ s.writeOpCollection.elements, op.result.opTicket ≠ t
  /-- Nor one that is a command. -/
  params : ∀ op ∈ s.paramCollection.elements, op.ticket = t → op.operation ≠ .write
  /-- How often it is there. -/
  count : s.tickets.count t ≤ n

/-- No LISTEN has been programmed: none is queued and none was the last command. -/
structure ListenFree (s : State cfg) : Prop where
  params : ∀ op ∈ s.paramCollection.elements, op.operation ≠ .listen
  currentOp : s.loop.currentOp.operation ≠ .listen

/-! ### Queues -/

theorem mem_of_mem_skip {α : Type*} {m : ℕ} {q : Fifo α m} {a : α} (h : a ∈ q.skip.elements) : a ∈ q.elements :=
  List.mem_of_mem_tail h

/-- Results with other tickets do not count. -/
theorem count_opTickets {new : List OperationResult} (h : ∀ r ∈ new, r.opTicket ≠ t) :
    (new.map OperationResult.opTicket).count t = 0 := by
  rw [List.count_eq_zero]
  intro hmem
  obtain ⟨r, hr, hticket⟩ := List.mem_map.mp hmem
  exact h r hr hticket

/-- The writes of other operations finish with other tickets. -/
theorem Owned.finishes (h : Owned t n s) : s.Finishes fun r => r.opTicket ≠ t := fun op hop _ _ => h.writes op hop

/-- What is pushed has other tickets, what is in hand is the same or less, and no write has been queued. -/
theorem Owned.pushes {u : State cfg} (h : Owned t n s) (hparams : u.paramCollection = s.paramCollection)
    (hhand : (u.loop.inHand.map Prod.fst).count t ≤ (s.loop.inHand.map Prod.fst).count t)
    (hresults : Pushes (fun r => r.opTicket ≠ t) s u)
    (hwrites : ∀ op ∈ u.writeOpCollection.elements, op ∈ s.writeOpCollection.elements) : Owned t n u := by
  obtain ⟨new, hnew, hq, -⟩ := hresults
  refine ⟨fun op hop => h.writes op (hwrites op hop), ?_, Nat.le_trans ?_ h.count⟩
  · rw [hparams]
    exact h.params
  · have hnone := count_opTickets hnew
    simp only [State.tickets, hparams, hq, List.map_append, List.count_append]
    omega

/-! ### Events other than iterations -/

theorem Owned.callback (h : Owned t n s) (cb : Callback) : Owned t n (lwsCallback cb s).2 := by
  have hsame := lwsCallback_same cb s
  exact h.pushes hsame.paramCollection (by rw [hsame.loop]) (lwsCallback_pushes h.finishes cb) (lwsCallback_writes cb s)

/-- A result is collected. -/
theorem Owned.collect (h : Owned t n s) : Owned t n s.collect := by
  unfold State.collect
  split
  · next r q hpop =>
    refine ⟨h.writes, h.params, Nat.le_trans ?_ h.count⟩
    simp only [State.tickets, Fifo.pop_eq_some_iff.mp hpop, List.map_cons, List.count_append, List.count_cons]
    omega
  · exact h

/-- Another operation is programmed. -/
theorem Owned.program (h : Owned t n s) {timeOut tick : ℕ} {opParam : OpParam}
    (hnew : (Event.program timeOut tick opParam).pushes s = true → s.ticket ≠ t) :
    Owned t n (s.program timeOut tick opParam) := by
  simp only [State.program]
  split
  · next q hq =>
    obtain ⟨hroom, helements⟩ := Fifo.push_eq_some_iff.mp hq
    have ht := hnew (decide_eq_true hroom)
    refine ⟨h.writes, fun op hop hticket => ?_, Nat.le_trans ?_ h.count⟩
    · have hop : op ∈ q.elements := hop
      rw [helements] at hop
      rcases List.mem_append.mp hop with hop | hop
      · exact h.params op hop hticket
      · rw [List.mem_singleton.mp hop] at hticket
        exact absurd hticket ht
    · simp only [State.tickets, helements, List.map_append, List.map_cons, List.map_nil, List.count_append,
        List.count_cons, List.count_nil, beq_iff_eq, if_neg ht]
      omega
  · exact h.pushes rfl (Nat.le_refl _) (.of_eq rfl rfl) fun _ hop => hop

/-- The operation that gets a new ticket. -/
theorem Owned.programmed (h : Owned s.ticket n s) (timeOut tick : ℕ) {opParam : OpParam}
    (hop : opParam.operation ≠ .write) : Owned s.ticket (n + 1) (s.program timeOut tick opParam) := by
  simp only [State.program]
  split
  · next q hq =>
    have helements := (Fifo.push_eq_some_iff.mp hq).2
    have hcount := h.count
    refine ⟨h.writes, fun op hmem hticket => ?_, ?_⟩
    · have hmem : op ∈ q.elements := hmem
      rw [helements] at hmem
      rcases List.mem_append.mp hmem with hmem | hmem
      · exact h.params op hmem hticket
      · rw [List.mem_singleton.mp hmem]
        exact hop
    · simp only [State.tickets, helements, List.map_append, List.map_cons, List.map_nil, List.count_append,
        List.count_cons, List.count_nil, BEq.rfl, if_true] at hcount ⊢
      omega
  · have hsame := h.pushes (u := { s with ticket := cfg.incTicketNumber s.ticket }) rfl (Nat.le_refl _) (.of_eq rfl rfl)
      fun _ hop => hop
    exact ⟨hsame.writes, hsame.params, Nat.le_succ_of_le hsame.count⟩

/-! ### Iterations -/

/-- The ticket of the operation that is in hand. -/
theorem inHand_fst (l : Processing) (h : l.sendResult = true ∨ l.ioPending = true) :
    l.inHand.map Prod.fst = [l.result.opTicket] := by
  rw [Processing.inHand, if_pos ((Bool.or_eq_true _ _).mpr h)]
  rfl

theorem inHand_nil (l : Processing) (hsend : l.sendResult = false) (hpending : l.ioPending = false) :
    l.inHand.map Prod.fst = [] := by
  rw [Processing.inHand, hsend, hpending]
  rfl

/-- What is in hand is one operation at most. -/
theorem count_inHand_le {l l' : Processing} (hticket : l'.result.opTicket = l.result.opTicket)
    (hone : l.sendResult = true ∨ l.ioPending = true) :
    (l'.inHand.map Prod.fst).count t ≤ (l.inHand.map Prod.fst).count t := by
  rw [inHand_fst l hone]
  by_cases hone' : l'.sendResult = true ∨ l'.ioPending = true
  · rw [inHand_fst l' hone', hticket]
  · obtain ⟨hsend, hpending⟩ := not_or.mp hone'
    rw [inHand_nil l' (Bool.eq_false_iff.mpr hsend) (Bool.eq_false_iff.mpr hpending)]
    exact Nat.zero_le _

/-- A command is popped. -/
theorem Owned.popped (h : Owned t n s) {op : OperationParam}
    (hop : s.paramCollection.elements = op :: s.paramCollection.skip.elements) : Owned t n (s.popped op) := by
  have hhand : (s.popped op).loop.inHand = s.loop.inHand := rfl
  refine ⟨h.writes, fun op' hop' => h.params op' (mem_of_mem_skip hop'), Nat.le_trans ?_ h.count⟩
  simp only [State.tickets, hhand, hop, List.map_cons, List.count_append, List.count_cons]
  simp only [State.popped]
  omega

/-- **The command of an iteration** comes from its queue into the hand. -/
theorem Owned.newCommand (hclient : cfg.nbMaxClient = 0) (h : Owned t n s) (hlistening : s.loop.listeningMode = false)
    (hsend : s.loop.sendResult = false) (env : LoopEnv) : Owned t n (s.newCommand env) := by
  rcases newCommand_cases s env with ⟨-, he⟩ | ⟨op, hop, ⟨-, -, he⟩ | ⟨htaken, he⟩⟩
  · rw [he]
    exact h.pushes rfl (Nat.le_refl _) (.of_eq rfl rfl) fun _ hop => hop
  · rw [he]
    exact h.popped hop
  · have hidle : s.loop.ioPending = false := by
      simp only [State.taken, hlistening, Bool.or_false, Bool.not_eq_true'] at htaken
      split_ifs at htaken with hp
      exact hp
    have hnotWrite := h.params op (hop ▸ List.mem_cons_self)
    obtain ⟨sts, running, hloop⟩ := command_loop hclient ((s.popped op).beginCommand env) env
    obtain ⟨new, hnew, hq, -⟩ := command_pushes (s := (s.popped op).beginCommand env) (P := fun r => r.opTicket ≠ t)
      (fun op' hop' _ _ => h.writes op' hop') env
    have hparams := (command_sameUser ((s.popped op).beginCommand env) env).paramCollection
    have hnone := count_opTickets hnew
    have hcount := h.count
    rw [he, takeCommand_eq]
    refine ⟨fun op' hop' => ?_, ?_, ?_⟩
    · rcases command_writes ((s.popped op).beginCommand env) env op' hop' with hold | ⟨hwrite, hresult⟩
      · exact h.writes op' hold
      · intro hticket
        rw [hresult] at hticket
        exact hnotWrite hticket hwrite
    · dsimp only
      rw [hparams]
      exact (h.popped hop).params
    · simp only [State.tickets, hparams, hq, hop, List.map_append, List.map_cons, List.count_append, List.count_cons,
        inHand_nil s.loop hsend hidle, List.count_nil] at hcount ⊢
      rw [inHand_fst _ (.inl (by rw [hloop]; rfl)), hloop]
      simp only [State.beginCommand, State.popped, OperationParam.newResult, List.count_cons, List.count_nil]
      omega

theorem ListenFree.newCommand (hclient : cfg.nbMaxClient = 0) (h : ListenFree s) (env : LoopEnv) :
    ListenFree (s.newCommand env) := by
  rcases newCommand_cases s env with ⟨-, he⟩ | ⟨op, hop, ⟨-, -, he⟩ | ⟨-, he⟩⟩
  · rw [he]
    refine ⟨h.params, ?_⟩
    dsimp only
    split_ifs
    · exact h.currentOp
    · exact fun he => by cases he
  · rw [he]
    exact ⟨fun op' hop' => h.params op' (mem_of_mem_skip hop'), h.params op (hop ▸ List.mem_cons_self)⟩
  · obtain ⟨sts, running, hloop⟩ := command_loop hclient ((s.popped op).beginCommand env) env
    have hparams := (command_sameUser ((s.popped op).beginCommand env) env).paramCollection
    rw [he, takeCommand_eq]
    refine ⟨fun op' hop' => ?_, ?_⟩
    · dsimp only at hop'
      rw [hparams] at hop'
      exact h.params op' (mem_of_mem_skip hop')
    · dsimp only
      rw [hloop]
      exact h.params op (hop ▸ List.mem_cons_self)

/-- The pending operation is answered now or still pending. -/
theorem pendingOperation_once {env : LoopEnv} (hlisten : s.loop.currentOp.operation ≠ .listen)
    (hsend : (s.pendingOperation env).loop.sendResult = true) : (s.pendingOperation env).loop.ioPending = false := by
  have hpending : (s.pending env).loop.sendResult = true → (s.pending env).loop.ioPending = false := by
    unfold OperationParam.operation at hlisten
    simp only [State.pending]
    cases hop : s.loop.currentOp.opParam with
    | listen => simp [hop, OpParam.operation] at hlisten
    | connect key =>
      dsimp only
      split_ifs
      · exact fun _ => rfl
      · exact fun he => by cases he
    | disconnect => exact fun _ => rfl
    | read nb buffer =>
      cases s.rxBufferCollection.popBuffer with
      | none => exact fun he => by cases he
      | some found => exact fun _ => rfl
    | write nb buffer | exit | max => exact fun he => by cases he
  obtain ⟨u, rfl, ⟨-, he⟩ | ⟨-, he⟩⟩ := pendingOperation_cases s env
  · rw [he] at hsend ⊢
    exact hpending hsend
  · rw [he, timeOutOperation_loop]

/-- **Before the cancel flag is looked at** one operation is in hand at most, answered now or pending. -/
theorem Owned.beforeCancel (hclient : cfg.nbMaxClient = 0) (h : Owned t n s) (hfree : ListenFree s)
    (hlistening : s.loop.listeningMode = false) (hsend : s.loop.sendResult = false) (env : LoopEnv) :
    Owned t n (s.beforeCancel env) := by
  have hcommand := h.newCommand hclient hlistening hsend env
  have hcurrent := (hfree.newCommand hclient env).currentOp
  simp only [State.beforeCancel]
  split_ifs with hp
  · obtain ⟨huser, hwrites, -⟩ := pendingOperation_same (s.newCommand env) env
    obtain ⟨hkept, -⟩ := pendingOperation_kept env hcurrent
    exact hcommand.pushes huser.paramCollection (count_inHand_le hkept.opTicket (.inr hp)) hwrites.pushes
      fun op hop => hwrites.writeOpCollection ▸ hop
  · exact hcommand

theorem beforeCancel_once (hclient : cfg.nbMaxClient = 0) (hfree : ListenFree s) {env : LoopEnv}
    (hsend : (s.beforeCancel env).loop.sendResult = true) : (s.beforeCancel env).loop.ioPending = false := by
  have hcurrent := (hfree.newCommand hclient env).currentOp
  simp only [State.beforeCancel] at hsend ⊢
  split_ifs at hsend ⊢ with hp
  · exact pendingOperation_once hcurrent hsend
  · exact Bool.eq_false_iff.mpr hp

/-- The end of an iteration leaves the commands and the writes alone. -/
theorem endIteration_queues (hcancel : s.cancel = false) (env : LoopEnv) :
    (s.endIteration env).paramCollection = s.paramCollection ∧
      (s.endIteration env).writeOpCollection = s.writeOpCollection := by
  obtain ⟨time, q, pushed, notified, hsent, -⟩ := sendResult_eq s env
  simp only [State.endIteration, hcancel, Bool.false_eq_true, if_false]
  split_ifs
  · obtain ⟨huser, hwrites, -⟩ := loopEnd_same (s.sendResult env) env
    rw [huser.paramCollection, hwrites.writeOpCollection, hsent]
    exact ⟨rfl, rfl⟩
  · obtain ⟨huser, hwrites, -⟩ := loopEnd_same s env
    exact ⟨huser.paramCollection, hwrites.writeOpCollection⟩

/-- **The end of an iteration**: the result that is sent leaves the hand. -/
theorem Owned.endIteration (h : Owned t n s) (hcancel : s.cancel = false)
    (honce : s.loop.sendResult = true → s.loop.ioPending = false) (env : LoopEnv) : Owned t n (s.endIteration env) := by
  obtain ⟨time, running, service, hloop⟩ := endIteration_loop hcancel env
  have hqueues := endIteration_queues hcancel env
  have hwrites : ∀ op ∈ (s.endIteration env).writeOpCollection.elements, op ∈ s.writeOpCollection.elements :=
    fun op hop => hqueues.2 ▸ hop
  rcases endIteration_results s env with ⟨hset, -⟩ | ⟨-, hsend, hq, hpushed⟩ | ⟨-, hsend, time', hp⟩
  · exact absurd (hcancel.symm.trans hset) Bool.false_ne_true
  · refine h.pushes hqueues.1 ?_ (.of_eq hq hpushed) hwrites
    rw [hloop, Processing.inHand, Processing.inHand, hsend]
    exact Nat.le_refl _
  · have hgone : (s.endIteration env).loop.inHand.map Prod.fst = [] :=
      inHand_nil _ (by rw [hloop]) (by rw [hloop]; exact honce hsend)
    have hcount := h.count
    refine ⟨fun op hop => h.writes op (hwrites op hop), hqueues.1 ▸ h.params, Nat.le_trans ?_ hcount⟩
    rcases hp with ⟨hq, -⟩ | ⟨hq, -, -⟩
    · simp only [State.tickets, hqueues.1, hgone, hq, inHand_fst s.loop (.inl hsend), List.map_append, List.map_cons,
        List.map_nil, List.count_append, List.count_cons, List.count_nil]
      omega
    · simp only [State.tickets, hqueues.1, hgone, hq, List.count_append, List.count_nil]
      omega

/-- **An iteration** of a client that does not listen, without a cancel. -/
theorem Owned.iterate (hclient : cfg.nbMaxClient = 0) (h : Owned t n s) (hfree : ListenFree s)
    (hlistening : s.loop.listeningMode = false) (hsend : s.loop.sendResult = false) (hcancel : s.cancel = false)
    (env : LoopEnv) : Owned t n (s.iterate env) := by
  cases hrun : s.loop.running with
  | false =>
    rw [iterate_of_stopped hrun]
    exact h
  | true =>
    rw [iterate_eq hrun]
    exact (h.beforeCancel hclient hfree hlistening hsend env).endIteration
      ((beforeCancel_sameSignals s env).cancel.trans hcancel) (beforeCancel_once hclient hfree) env

/-! ### What is programmed -/

/-- An iteration programs nothing. -/
theorem iterate_programmed (s : State cfg) (env : LoopEnv) :
    (s.iterate env).history.programmed = s.history.programmed := by
  cases hrun : s.loop.running with
  | false => rw [iterate_of_stopped hrun]
  | true =>
    have hcommand : (s.newCommand env).history.programmed = s.history.programmed := by
      rcases newCommand_cases s env with ⟨-, he⟩ | ⟨op, -, ⟨-, -, he⟩ | ⟨-, he⟩⟩
      · rw [he]
      · rw [he]
        rfl
      · rw [he, takeCommand_eq]
        exact (command_sameUser ((s.popped op).beginCommand env) env).programmed
    refine Eq.trans (iterate_rule (R := fun s u : State cfg => u.history.programmed = s.history.programmed)
      (fun _ => rfl) (fun h h' => h'.trans h) (fun s => ?_) (fun _ => rfl) (fun s => ?_) (fun s => ?_) hrun) hcommand
    · exact (pendingOperation_same s env).1.programmed
    · obtain ⟨time, q, pushed, notified, hsent, -⟩ := sendResult_eq s env
      rw [hsent]
    · exact (loopEnd_same s env).1.programmed

/-- **What a step accepts** is recorded. -/
theorem step_programmed (s : State cfg) (e : Event) :
    (step s e).history.programmed = s.history.programmed ++ (s.queues e).map OperationParam.tag := by
  cases e using Event.byCause with
  | user e hu => exact (step_userCalled s hu).programmed
  | callback cb =>
    refine Eq.trans ?_ (List.append_nil _).symm
    simp only [step]
    split_ifs
    · exact (lwsCallback_same cb s).programmed
    · rfl
  | iterate env => exact (iterate_programmed s env).trans (List.append_nil _).symm

/-! ### Steps -/

/-- The event programs no LISTEN, and is neither a cancel nor a reset. -/
def Event.Plain : Event → Prop
  | .program _ _ opParam => opParam.operation ≠ .listen
  | .cancel _ | .reset => False
  | .collect | .cancelled | .clear | .callback _ | .iterate _ => True

instance : (e : Event) → Decidable e.Plain
  | .program _ _ _ => inferInstanceAs (Decidable (_ ≠ _))
  | .cancel _ | .reset => isFalse id
  | .collect | .cancelled | .clear | .callback _ | .iterate _ => isTrue trivial

/-- A client that neither listens nor cancels, between two iterations. -/
structure Still (s : State cfg) : Prop where
  listeningMode : s.loop.listeningMode = false
  sendResult : s.loop.sendResult = false
  cancel : s.cancel = false
  listenFree : ListenFree s

theorem start_still : Still (State.start : State cfg) :=
  ⟨rfl, rfl, rfl, fun _ hop => absurd hop List.not_mem_nil, fun he => by cases he⟩

theorem Still.same {u : State cfg} (h : Still s) (hloop : u.loop = s.loop) (hcancel : u.cancel = false)
    (hparams : ∀ op ∈ u.paramCollection.elements, op.operation ≠ .listen) : Still u := by
  refine ⟨?_, ?_, hcancel, hparams, ?_⟩ <;> rw [hloop]
  · exact h.listeningMode
  · exact h.sendResult
  · exact h.listenFree.currentOp

theorem Still.iterate (hclient : cfg.nbMaxClient = 0) (h : Still s) (env : LoopEnv) : Still (s.iterate env) := by
  cases hrun : s.loop.running with
  | false =>
    rw [iterate_of_stopped hrun]
    exact h
  | true =>
    have hcancel := (beforeCancel_sameSignals s env).cancel.trans h.cancel
    obtain ⟨time, running, service, hloop⟩ := endIteration_loop hcancel env
    have hbefore : ListenFree (s.beforeCancel env) := by
      have hcommand := h.listenFree.newCommand hclient env
      simp only [State.beforeCancel]
      split_ifs
      · obtain ⟨huser, -, -⟩ := pendingOperation_same (s.newCommand env) env
        obtain ⟨hkept, -⟩ := pendingOperation_kept env hcommand.currentOp
        exact ⟨huser.paramCollection ▸ hcommand.params, hkept.currentOp ▸ hcommand.currentOp⟩
      · exact hcommand
    refine ⟨(iterate_notListening hclient s env).trans h.listeningMode, ?_, ?_, ?_, ?_⟩
    · rw [iterate_eq hrun, hloop]
    · rcases iterate_cases s env with ⟨-, he⟩ | ⟨-, hset, -⟩ | ⟨-, -, hsame⟩
      · rw [he]
        exact h.cancel
      · exact absurd (h.cancel.symm.trans hset) Bool.false_ne_true
      · exact hsame.cancel.trans h.cancel
    · rw [iterate_eq hrun, (endIteration_queues hcancel env).1]
      exact hbefore.params
    · rw [iterate_eq hrun, hloop]
      exact hbefore.currentOp

/-- **The client stays so.** -/
theorem Still.step (hclient : cfg.nbMaxClient = 0) (h : Still s) {e : Event} (he : e.Plain) :
    Still (WebSocket.step s e) := by
  have huser : e.isUser = true → (∀ timeOut, e ≠ .cancel timeOut) → (∀ op ∈ s.queues e, op.operation ≠ .listen) →
      Still (WebSocket.step s e) := by
    intro hu hnot hqueues
    have hcalled := step_userCalled s hu
    refine h.same (step_sameEngine s hu).loop ?_ fun op hop => ?_
    · exact Bool.eq_false_iff.mpr fun hset => ne_true_of_eq_false h.cancel (hcalled.cancel hnot hset)
    · exact (hcalled.mem_paramCollection hop).elim (h.listenFree.params op) (hqueues op)
  have hnone : ∀ op ∈ ([] : List OperationParam), op.operation ≠ .listen := fun _ hop => absurd hop List.not_mem_nil
  cases e with
  | program timeOut tick opParam => exact huser rfl (fun _ he => by cases he) fun op hop => eq_of_mem_queues hop ▸ he
  | collect => exact huser rfl (fun _ he => by cases he) hnone
  | cancel timeOut | reset => exact he.elim
  | cancelled => exact huser rfl (fun _ he => by cases he) hnone
  | clear => exact huser rfl (fun _ he => by cases he) hnone
  | callback cb =>
    have hsame := lwsCallback_same cb s
    simp only [WebSocket.step]
    split_ifs
    · exact h.same hsame.loop (hsame.cancel.trans h.cancel) (hsame.paramCollection ▸ h.listenFree.params)
    · exact h
  | iterate env => exact h.iterate hclient env

/-- **No step copies a ticket.** -/
theorem Owned.step (hclient : cfg.nbMaxClient = 0) (h : Owned t n s) (hs : Still s) {e : Event} (he : e.Plain)
    (hnew : e.pushes s = true → s.ticket ≠ t) : Owned t n (WebSocket.step s e) := by
  cases e with
  | program timeOut tick opParam => exact h.program hnew
  | collect => exact h.collect
  | cancel timeOut | reset => exact he.elim
  | cancelled =>
    simp only [WebSocket.step, State.cancelled]
    split_ifs
    · exact h.pushes rfl (Nat.le_refl _) (.of_eq rfl rfl) fun _ hop => hop
    · exact h
  | clear => exact h.pushes rfl (Nat.le_refl _) (.of_eq rfl rfl) fun _ hop => hop
  | callback cb =>
    simp only [WebSocket.step]
    split_ifs
    · exact h.callback cb
    · exact h
  | iterate env => exact h.iterate hclient hs.listenFree hs.listeningMode hs.sendResult hs.cancel env

end BofWebRpc.WebSocket
