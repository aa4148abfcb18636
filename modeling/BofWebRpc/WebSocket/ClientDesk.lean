import BofWebRpc.Library.Desk
import BofWebRpc.WebSocket.Answers

/-!
# The client as a desk

Seen from outside, the thread of a client is a desk: `mpuSocketOperationParamCollection` is its queue,
`Result_X` the job in hand, `mpuSocketOperationWriteOpCollection` what is put aside, and
`mpuSocketOperationResultCollection` what is finished. Callbacks, connections and buffers do not show.

## The model

`State.desk` is the desk of a state. The runs are those of `BofWebRpc.WebSocket.Accounting`: a client whose
user stays within the limit, and whose pending operation is not disturbed by another command.

## What is proved

* `client_refines` — every run of the client is a run of the desk.
* `answers_in_order` — the results of the operations other than WRITE come in the order in which these
  have been programmed.
* `unanswered_in_order` — the operations that have no result wait in the order in which they have been programmed.
-/

namespace BofWebRpc.WebSocket

open Runs Desk

variable {cfg : WebSocketParam}

/-- A WRITE is put aside until the connection is writable. -/
def CanWait (tag : Tag) : Prop := tag.2 = .write

instance : DecidablePred CanWait := fun tag => inferInstanceAs (Decidable (tag.2 = .write))

/-- Where the operations are, when `hand` is the one in hand. -/
def State.deskWith (s : State cfg) (hand : Option Tag) : Desk Tag where
  accepted := s.history.programmed
  queue := s.queued.map OperationParam.tag
  hand := hand
  aside := s.writeOpCollection.elements.map fun op => op.result.tag
  done := s.history.pushed.map OperationResult.tag

/-- Where they are between two iterations. -/
def State.desk (s : State cfg) : Desk Tag := s.deskWith (if s.loop.ioPending then some s.loop.result.tag else none)

/-- The desk depends on the queues only. -/
theorem deskWith_same {s t : State cfg} (hu : SameUser s t) (hw : SameWrites s t) (hand : Option Tag) :
    t.deskWith hand = s.deskWith hand := by
  simp only [State.deskWith, State.queued, hu.paramCollection, hu.programmed, hw.writeOpCollection, hw.pushed]

/-! ### Callbacks -/

/-- **A callback** finishes the oldest write, or nothing. -/
theorem lwsCallback_desk {s : State cfg} {inHand : List Tag} (h : Tallied s inHand) (cb : Callback)
    (hand : Option Tag) :
    Reaches CanWait (s.deskWith hand) ((lwsCallback cb s).2.deskWith hand) := by
  by_cases hw : ∃ side w env, cb = .writeable side w env
  · obtain ⟨side, w, env, rfl⟩ := hw
    show Reaches CanWait (s.deskWith hand) ((s.onWriteable w env).deskWith hand)
    rcases onWriteable_cases s w env with ⟨he, -⟩ | ⟨op, hpeek, -, ⟨-, he⟩ | ⟨sts, q, pushed, notified, -, hp, he⟩⟩
    · rw [he]
      exact .refl
    · rw [he, callbackOnWritable_eq]
      exact .refl
    · have hop := Fifo.peek_eq_some_iff.mp hpeek
      have hne : 0 < inHand.length + s.writeOpCollection.elements.length := by
        rw [hop, List.length_cons]
        omega
      obtain ⟨-, hpushed⟩ := h.pushed_eq hne hp
      have hrelease := Step.release (D := CanWait) (d := s.deskWith hand) (congrArg (List.map _) hop)
      rw [he]
      apply Relation.ReflTransGen.single
      convert hrelease using 1
      simp only [State.deskWith, hpushed, List.map_append]
      rfl
  · rw [deskWith_same (lwsCallback_same cb s).toSameUser
      (lwsCallback_sameWrites (fun side w env he => hw ⟨side, w, env, he⟩) s)]

theorem callbacks_desk (cbs : List Callback) {s : State cfg} {inHand : List Tag} (h : Tallied s inHand)
    (hand : Option Tag) : Reaches CanWait (s.deskWith hand) ((callbacks cbs s).deskWith hand) := by
  induction cbs generalizing s with
  | nil => exact .refl
  | cons cb cbs ih => exact (lwsCallback_desk h cb hand).trans (ih (lwsCallback_tallied h cb))

/-! ### Commands -/

/-- The operation `tag`, which was in hand, is still there or has been put aside. -/
def Carried (tag : Tag) (d : Desk Tag) (s : State cfg) : Prop :=
  ∃ hand, (hand = none ∨ hand = some tag) ∧ Reaches CanWait d (s.deskWith hand)

theorem Carried.same {tag : Tag} {d : Desk Tag} {s t : State cfg} (h : Carried tag d s) (hu : SameUser s t)
    (hw : SameWrites s t) : Carried tag d t := by
  obtain ⟨hand, htag, hreaches⟩ := h
  refine ⟨hand, htag, ?_⟩
  rw [deskWith_same hu hw]
  exact hreaches

/-- What happens while the connection is opened. -/
theorem connecting_carried {s : State cfg} (h : Prepared s) (cbs : List Callback) (via : Option Wsi) :
    Carried s.loop.result.tag (s.deskWith (some s.loop.result.tag))
      ({ callbacks cbs { s with lwsContext := true } with webSocketState.pWebSocket := via } : State cfg) := by
  have hstart : Tallied ({ s with lwsContext := true } : State cfg) [s.loop.result.tag] :=
    h.tallied.same ⟨rfl, rfl, rfl, rfl, rfl⟩ ⟨rfl, rfl, rfl, rfl⟩
  exact ⟨_, .inr rfl, callbacks_desk cbs hstart _⟩

/-- A WRITE is put aside, or stays in hand to be answered. -/
theorem commandWrite_carried {s : State cfg} (h : Prepared s) (env : LoopEnv) {nb : ℕ}
    {buffer : Option (List UInt8)} (hop : s.loop.currentOp.opParam = .write nb buffer) :
    Carried s.loop.result.tag (s.deskWith (some s.loop.result.tag)) (s.commandWrite env nb buffer) := by
  rcases commandWrite_cases s env nb buffer with ⟨sts, -, he⟩ | ⟨data, q, -, hq, he⟩
  · rw [he]
    exact ⟨_, .inr rfl, .refl⟩
  · have hwrite : CanWait s.loop.result.tag := by
      rw [h.tag]
      show s.loop.currentOp.operation = .write
      rw [OperationParam.operation, hop]
      rfl
    have haside := Step.putAside (d := s.deskWith (some s.loop.result.tag)) rfl hwrite
    rw [he, callbackOnWritable_eq]
    refine ⟨none, .inl rfl, .single ?_⟩
    convert haside using 1
    simp only [State.deskWith, State.setSts, (Fifo.push_eq_some_iff.mp hq).2, List.map_append]
    rfl

/-- **A command** leaves its operation in hand, or puts it aside. -/
theorem command_carried {s : State cfg} (hclient : cfg.nbMaxClient = 0) (h : Prepared s) (env : LoopEnv) :
    Carried s.loop.result.tag (s.deskWith (some s.loop.result.tag)) (s.command env) := by
  have hstay : Carried s.loop.result.tag (s.deskWith (some s.loop.result.tag)) s := ⟨_, .inr rfl, .refl⟩
  have hleave : Carried s.loop.result.tag (s.deskWith (some s.loop.result.tag))
      (s.clientDisconnect env.destroying) := by
    have hsame := clientDisconnect_same s env.destroying
    exact hstay.same hsame.1.toSameUser hsame.2
  unfold State.command
  cases hop : s.loop.currentOp.opParam with
  | listen =>
    simp only [State.commandListen, if_pos hclient]
    exact hstay
  | connect key =>
    have hconnected := connecting_carried h env.connecting env.connectVia
    simp only [State.commandConnect]
    split_ifs with hmode
    · exact absurd hclient hmode
    · exact hconnected
    · exact hconnected
    · exact hleave
    · exact hstay
  | disconnect =>
    simp only [State.commandDisconnect]
    split_ifs
    · exact hstay
    · exact hleave
    · exact hstay
  | exit => exact hstay
  | read nb buffer => exact hstay
  | write nb buffer => exact commandWrite_carried h env hop
  | max => exact hstay

/-- The command that is taken is in hand, or put aside. -/
theorem newCommand_carried (hclient : cfg.nbMaxClient = 0) {s : State cfg} (h : Resting s) {op : OperationParam}
    (htaken : s.taken = some op) (env : LoopEnv) : Carried op.tag s.desk (s.newCommand env) := by
  have hp : s.loop.ioPending = false := by
    simp only [State.taken, h.listening, Bool.or_false] at htaken
    split_ifs at htaken with hp
    exact Bool.eq_false_iff.mpr fun hset => by simp [hset] at hp
  have hqueued := queued_of_taken htaken
  have htallied := (h.idle hp).popped hqueued
  have hprepared : Prepared ((s.popped op).beginCommand env) :=
    ⟨h.listening, h.cancel, rfl, hp, rfl, htallied.accounted, htallied.collected, htallied.limit⟩
  have htake : Step CanWait s.desk (((s.popped op).beginCommand env).deskWith (some op.tag)) := by
    have hqueue : s.desk.queue = op.tag :: s.queued.tail.map OperationParam.tag := congrArg (List.map _) hqueued
    exact Step.take hqueue (if_neg (ne_true_of_eq_false hp))
  obtain ⟨hand, htag, hreaches⟩ := command_carried hclient hprepared env
  rw [newCommand_of_taken htaken, takeCommand_eq]
  exact ⟨hand, htag, .head htake hreaches⟩

/-- The operation that is pending stays in hand. -/
theorem Held.carried {op : OperationParam} {t : ℕ} {s : State cfg} (h : Held op t s) {env : LoopEnv}
    (hc : (Event.iterate env).Undisturbed s) : Carried op.tag s.desk (s.newCommand env) := by
  have hempty := hc.1 h.ioPending
  have hdesk : s.desk = s.deskWith (some op.tag) := by
    rw [State.desk, if_pos h.ioPending, h.tag]
  rcases newCommand_cases s env with ⟨-, he⟩ | ⟨op', hop', -⟩
  · rw [he, hdesk]
    exact ⟨_, .inr rfl, .refl⟩
  · rw [hempty] at hop'
    cases hop'

/-! ### One iteration -/

/-- The end of an iteration shows in the results only. -/
theorem endIteration_desk {s : State cfg} (hcancel : s.cancel = false) (env : LoopEnv) (hand : Option Tag) :
    (s.endIteration env).deskWith hand =
      { s.deskWith hand with done := (s.endIteration env).history.pushed.map OperationResult.tag } := by
  have hqueues := endIteration_queues hcancel env
  have hprogrammed : (s.endIteration env).history.programmed = s.history.programmed := by
    obtain ⟨time, q, pushed, notified, hsent, -⟩ := sendResult_eq s env
    simp only [State.endIteration, hcancel, Bool.false_eq_true, if_false]
    split_ifs
    · rw [(loopEnd_same (s.sendResult env) env).1.programmed, hsent]
    · exact (loopEnd_same s env).1.programmed
  simp only [State.deskWith, State.queued, hqueues.1, hqueues.2, hprogrammed]

/-- Between two iterations each operation is in one place. -/
theorem Resting.desk_size {s : State cfg} (h : Resting s) : s.desk.size = s.desk.accepted.length := by
  have hlength := h.tallied.accounted.length_eq
  simp only [Processing.inHand, h.sendResult, Bool.false_or, List.length_append] at hlength
  simp only [State.desk, State.deskWith, State.queued, Desk.size, ← hlength]
  split_ifs <;> simp only [List.length_map, Option.toList_some, Option.toList_none, List.length_singleton,
    List.length_nil] <;> omega

/-- A client between two iterations: it knows the ticket of the operation that is pending, and its desk is in order. -/
structure Attending (s : State cfg) : Prop where
  resting : Resting s
  own : s.loop.ioPending = true → s.loop.result.tag = s.loop.currentOp.tag
  sound : Sound CanWait s.desk

/-- Nothing in hand, nothing pending. -/
theorem idle_of_inHand {s : State cfg} (h : s.loop.inHand = []) : s.loop.ioPending = false := by
  cases hp : s.loop.ioPending with
  | false => rfl
  | true =>
    rw [Processing.inHand, hp, Bool.or_true] at h
    cases h

/-- The iteration that looks at the operation `op`, which has been in hand or is the oldest command. -/
theorem Attending.attended (hclient : cfg.nbMaxClient = 0) {s : State cfg} (h : Attending s) {env : LoopEnv}
    (hc : (Event.iterate env).Undisturbed s) (hrun : s.loop.running = true) {op : OperationParam} {t : ℕ}
    (hhand : InHand op t (s.newCommand env)) (hcarried : Carried op.tag s.desk (s.newCommand env)) :
    Reaches CanWait s.desk (s.iterate env).desk ∧
      ((s.iterate env).loop.ioPending = true →
        (s.iterate env).loop.result.tag = (s.iterate env).loop.currentOp.tag) := by
  have hcancel : (s.beforeCancel env).cancel = false :=
    (beforeCancel_sameSignals s env).cancel.trans h.resting.cancel
  have hbefore : Carried op.tag s.desk (s.beforeCancel env) := by
    rw [State.beforeCancel]
    split_ifs
    · have hsame := pendingOperation_same (s.newCommand env) env
      exact hcarried.same hsame.1 hsame.2.1
    · exact hcarried
  obtain ⟨hand, htag, hreaches⟩ := hbefore
  have hdesk : ∀ hand, (s.iterate env).deskWith hand =
      { (s.beforeCancel env).deskWith hand with done := (s.iterate env).history.pushed.map OperationResult.tag } := by
    rw [iterate_eq hrun]
    exact endIteration_desk hcancel env
  -- by the number of operations, `op` has been put aside exactly when it is neither answered nor pending now
  have hbalance := (h.sound.reaches hreaches).size_eq
  have hbalance' := (iterate_resting hclient h.resting env hc).desk_size
  have hattended := iterate_attended hclient h.resting hc hrun hhand
  cases hattended with
  | answered r tag results inHand =>
    have hidle := idle_of_inHand inHand
    have hafter : (s.iterate env).desk = { (s.beforeCancel env).deskWith none with
        done := ((s.beforeCancel env).deskWith none).done ++ [op.tag] } := by
      rw [State.desk, if_neg (ne_true_of_eq_false hidle), hdesk, results, List.map_append, List.map_singleton, tag]
      rfl
    refine ⟨?_, fun hp => absurd (hidle.symm.trans hp) Bool.false_ne_true⟩
    rcases htag with rfl | rfl
    · rw [hafter] at hbalance'
      simp only [Desk.size, State.deskWith, List.length_append, List.length_singleton] at hbalance hbalance'
      omega
    · rw [hafter]
      exact hreaches.tail (.finish rfl)
  | pending results held inHand inTime =>
    have hafter : (s.iterate env).desk = (s.beforeCancel env).deskWith (some op.tag) := by
      rw [State.desk, if_pos held.ioPending, held.tag, hdesk, results]
      rfl
    refine ⟨?_, fun _ => ?_⟩
    · rcases htag with rfl | rfl
      · rw [hafter] at hbalance'
        simp only [Desk.size, State.deskWith, Option.toList_none, Option.toList_some, List.length_nil,
          List.length_singleton] at hbalance hbalance'
        omega
      · rw [hafter]
        exact hreaches
    · rw [held.tag, held.currentOp]
      rfl
  | written results write inHand =>
    have hidle := idle_of_inHand inHand
    have hafter : (s.iterate env).desk = (s.beforeCancel env).deskWith none := by
      rw [State.desk, if_neg (ne_true_of_eq_false hidle), hdesk, results]
      rfl
    refine ⟨?_, fun hp => absurd (hidle.symm.trans hp) Bool.false_ne_true⟩
    rcases htag with rfl | rfl
    · rw [hafter]
      exact hreaches
    · rw [hafter] at hbalance'
      simp only [Desk.size, State.deskWith, Option.toList_none, Option.toList_some, List.length_nil,
        List.length_singleton] at hbalance hbalance'
      omega

/-- The iteration that finds nothing to do. -/
theorem Attending.idle {s : State cfg} (h : Attending s) (hrun : s.loop.running = true)
    (hp : s.loop.ioPending = false) (hempty : s.queued = []) (env : LoopEnv) :
    (s.iterate env).desk = s.desk ∧ (s.iterate env).loop.ioPending = false := by
  have he : s.newCommand env = { s with loop.currentOp := if s.loop.service then s.loop.currentOp else .reset } := by
    rcases newCommand_cases s env with ⟨-, he⟩ | ⟨op, hop, -⟩
    · exact he
    · rw [show s.paramCollection.elements = [] from hempty] at hop
      cases hop
  have hbefore : s.beforeCancel env = s.newCommand env := by
    rw [State.beforeCancel, he]
    exact if_neg (ne_true_of_eq_false hp)
  have hcancel : (s.beforeCancel env).cancel = false :=
    (beforeCancel_sameSignals s env).cancel.trans h.resting.cancel
  have hrest := endIteration_inHand hcancel env
  have hsilent : ((s.beforeCancel env).endIteration env).history.pushed = s.history.pushed := by
    rw [endIteration_silent hcancel ?_ env, hbefore, he]
    rw [hbefore, he]
    exact h.resting.sendResult
  rw [← iterate_eq hrun, hbefore, he, if_neg (ne_true_of_eq_false hp)] at hrest
  have hidle := idle_of_inHand hrest
  refine ⟨?_, hidle⟩
  rw [State.desk, State.desk, hidle, hp, iterate_eq hrun, endIteration_desk hcancel, hsilent, hbefore, he]
  rfl

/-- **An iteration** is a few moves of the desk. -/
theorem iterate_desk (hclient : cfg.nbMaxClient = 0) {s : State cfg} (h : Attending s) {env : LoopEnv}
    (hc : (Event.iterate env).Undisturbed s) :
    Reaches CanWait s.desk (s.iterate env).desk ∧
      ((s.iterate env).loop.ioPending = true →
        (s.iterate env).loop.result.tag = (s.iterate env).loop.currentOp.tag) := by
  cases hrun : s.loop.running with
  | false =>
    rw [iterate_of_stopped hrun]
    exact ⟨.refl, h.own⟩
  | true =>
    cases hp : s.loop.ioPending with
    | true =>
      have hheld : Held s.loop.currentOp s.loop.currentOp.timer s := ⟨hp, rfl, h.own hp⟩
      exact h.attended hclient hc hrun (hheld.inHand hc) (hheld.carried hc)
    | false =>
      cases htaken : s.taken with
      | some op =>
        exact h.attended hclient hc hrun (newCommand_inHand hclient h.resting htaken env)
          (newCommand_carried hclient h.resting htaken env)
      | none =>
        have hempty : s.queued = [] := by
          rw [State.taken, hp] at htaken
          exact Fifo.peek_eq_none_iff.mp htaken
        obtain ⟨hdesk, hidle⟩ := h.idle hrun hp hempty env
        rw [hdesk]
        exact ⟨.refl, fun hstill => absurd (hidle.symm.trans hstill) Bool.false_ne_true⟩

/-! ### Runs -/

/-- A call of the user that is no reset accepts a job, or does not show. -/
theorem user_desk (s : State cfg) {e : Event} (hu : e.isUser = true) (hreset : e.isReset = false) :
    Reaches CanWait s.desk (step s e).desk ∧ (step s e).loop = s.loop := by
  have hsame := step_sameEngine s hu
  have hcalled := step_userCalled s hu
  refine ⟨?_, hsame.loop⟩
  have hafter : (step s e).desk = { s.desk with
      accepted := s.desk.accepted ++ (s.queues e).map OperationParam.tag
      queue := s.desk.queue ++ (s.queues e).map OperationParam.tag } := by
    have hpushed : (step s e).history.pushed = s.history.pushed := by rw [hsame.history]
    simp only [State.desk, State.deskWith, State.queued, hsame.loop, hcalled.programmed, hcalled.paramCollection,
      hreset,
      Bool.false_eq_true, if_false, hpushed, hsame.writeOpCollection, List.map_append]
    rfl
  rw [hafter]
  exact reaches_accept s.desk _

/-- **One event.** -/
theorem step_desk (hclient : cfg.nbMaxClient = 0) {s : State cfg} (h : Attending s) {e : Event}
    (he : e.WithinLimit s ∧ e.Undisturbed s) :
    Attending (step s e) ∧ Reaches CanWait s.desk (step s e).desk := by
  have hmoves : Reaches CanWait s.desk (step s e).desk ∧
      ((step s e).loop.ioPending = true → (step s e).loop.result.tag = (step s e).loop.currentOp.tag) := by
    cases e using Event.byCause with
    | user e hu =>
      have hreset : e.isReset = false := by
        cases e <;> first | rfl | exact he.1.elim
      obtain ⟨hdesk, hloop⟩ := user_desk s hu hreset
      exact ⟨hdesk, hloop ▸ h.own⟩
    | callback cb =>
      rw [step]
      split_ifs
      · have hloop := (lwsCallback_same cb s).loop
        rw [State.desk, State.desk, hloop]
        exact ⟨lwsCallback_desk h.resting.tallied cb _, h.own⟩
      · exact ⟨.refl, h.own⟩
    | iterate env => exact iterate_desk hclient h he.2
  exact ⟨⟨step_resting hclient s e h.resting he, hmoves.2, h.sound.reaches hmoves.1⟩, hmoves.1⟩

theorem start_attending : Attending (State.start : State cfg) :=
  ⟨start_resting, fun hp => (by cases hp), sound_empty⟩

/-- The state after a run. -/
theorem exec_attending (hclient : cfg.nbMaxClient = 0) (es : List Event)
    (h : Meets step (fun s e => e.WithinLimit s ∧ e.Undisturbed s) (State.start : State cfg) es) :
    Attending (exec step (State.start : State cfg) es) :=
  exec_inv (I := Attending) (fun _ _ hs he => (step_desk hclient hs he).1) es _ start_attending h

/-- From there on the moves of the client are moves of the desk. -/
theorem exec_desk (hclient : cfg.nbMaxClient = 0) (es : List Event) {s : State cfg} (hs : Attending s)
    (h : Meets step (fun s e => e.WithinLimit s ∧ e.Undisturbed s) s es) :
    Reaches CanWait s.desk (exec step s es).desk := by
  induction es generalizing s with
  | nil => exact .refl
  | cons e es ih =>
    obtain ⟨he, hrest⟩ := h
    obtain ⟨hs', hmoves⟩ := step_desk hclient hs he
    exact hmoves.trans (ih hs' hrest)

/-- **The client refines the desk**: it starts with an empty desk, and in every run of a client whose user stays within
the limit and whose pending operations are not disturbed, what it goes through between any two moments is a sequence
of moves of the desk: accept, take, finish, put aside if it is a WRITE, and release. -/
theorem client_refines (hclient : cfg.nbMaxClient = 0) (es es' : List Event)
    (h : Meets step (fun s e => e.WithinLimit s ∧ e.Undisturbed s) (State.start : State cfg) (es ++ es')) :
    (State.start : State cfg).desk = Desk.empty ∧
      Reaches CanWait (exec step (State.start : State cfg) es).desk
        (exec step (State.start : State cfg) (es ++ es')).desk := by
  obtain ⟨h, h'⟩ := meets_append.mp h
  refine ⟨rfl, ?_⟩
  rw [exec_append]
  exact exec_desk hclient es' (exec_attending hclient es h) h'

/-- A connection, and after it a WRITE that is put aside and a DISCONNECT. -/
theorem client_refines_overtaking :
    (State.start : State client).desk = Desk.empty ∧
      Reaches CanWait (exec step (State.start : State client) (connectAs 1 ++ [.collect])).desk
        (exec step (State.start : State client)
          (connectAs 1 ++ [.collect] ++ (writeByte 1 ++ Event.execute 0 1 .disconnect))).desk := by
  have hmeets : Meets step (fun s e => e.WithinLimit s ∧ e.Undisturbed s) (State.start : State client)
      (connectAs 1 ++ [.collect] ++ (writeByte 1 ++ Event.execute 0 1 .disconnect)) := by decide +kernel
  exact client_refines rfl _ _ hmeets

/-- The operations other than WRITE. -/
def nonWrites (tags : List Tag) : List Tag := tags.filter fun tag => tag.2 ≠ .write

/-- **Answers come in order**: in every run of a client whose user stays within the limit and whose pending operations
are not disturbed, the results of the operations other than WRITE are those of the first ones that have been
programmed, in their order. -/
theorem answers_in_order (hclient : cfg.nbMaxClient = 0) (es : List Event)
    (h : Meets step (fun s e => e.WithinLimit s ∧ e.Undisturbed s) (State.start : State cfg) es) :
    nonWrites ((exec step (State.start : State cfg) es).history.pushed.map OperationResult.tag) <+:
      nonWrites (exec step (State.start : State cfg) es).history.programmed := by
  have hordered := (exec_attending hclient es h).sound.ordered
  rw [List.append_assoc, List.filter_append] at hordered
  exact ⟨_, hordered⟩

/-- The WRITE is still waiting for its connection when the DISCONNECT behind it is answered. -/
theorem answers_in_order_overtaking :
    nonWrites ((exec step (State.start : State client)
        (connectAs 1 ++ [.collect] ++ writeByte 1 ++ Event.execute 0 1 .disconnect)).history.pushed.map
          OperationResult.tag) <+:
      nonWrites (exec step (State.start : State client)
        (connectAs 1 ++ [.collect] ++ writeByte 1 ++ Event.execute 0 1 .disconnect)).history.programmed := by
  have hmeets : Meets step (fun s e => e.WithinLimit s ∧ e.Undisturbed s) (State.start : State client)
      (connectAs 1 ++ [.collect] ++ writeByte 1 ++ Event.execute 0 1 .disconnect) := by decide +kernel
  exact answers_in_order rfl _ hmeets

/-- The operations that have no result: the writes in their queue, the one in hand and the commands. -/
def State.unanswered (s : State cfg) : List Tag := s.desk.aside ++ s.desk.hand.toList ++ s.desk.queue

/-- **Operations wait in order**: in every such run the operations that have no result are those without one among the
programmed ones, and they wait in the order in which they have been programmed. -/
theorem unanswered_in_order (hclient : cfg.nbMaxClient = 0) (es : List Event)
    (h : Meets step (fun s e => e.WithinLimit s ∧ e.Undisturbed s) (State.start : State cfg) es) :
    ((exec step (State.start : State cfg) es).history.pushed.map OperationResult.tag ++
        (exec step (State.start : State cfg) es).unanswered).Perm
        (exec step (State.start : State cfg) es).history.programmed ∧
      List.Sublist (exec step (State.start : State cfg) es).unanswered
        (exec step (State.start : State cfg) es).history.programmed := by
  obtain ⟨hconserved, -, hwaiting, -⟩ := (exec_attending hclient es h).sound
  rw [State.unanswered]
  rw [List.append_assoc, List.append_assoc, ← List.append_assoc (exec step State.start es).desk.aside] at hconserved
  exact ⟨hconserved, hwaiting⟩

/-- A CONNECT that is answered, and a WRITE that waits for its connection. -/
theorem unanswered_in_order_two :
    ((exec step (State.start : State client) (connectAndWrite 1)).history.pushed.map OperationResult.tag ++
        (exec step (State.start : State client) (connectAndWrite 1)).unanswered).Perm
        (exec step (State.start : State client) (connectAndWrite 1)).history.programmed ∧
      List.Sublist (exec step (State.start : State client) (connectAndWrite 1)).unanswered
        (exec step (State.start : State client) (connectAndWrite 1)).history.programmed := by
  have hmeets : Meets step (fun s e => e.WithinLimit s ∧ e.Undisturbed s) (State.start : State client)
      (connectAndWrite 1) := by decide +kernel
  exact unanswered_in_order rfl _ hmeets

end BofWebRpc.WebSocket
